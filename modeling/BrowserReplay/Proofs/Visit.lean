import BrowserReplay.Visit

/-!
# Reasoning about visits

`Visit.Ensures` says what results and traces a visit can leave, whatever the page and the time. The
rules below follow the ways in which visits are composed: the trace of one visit after another is
the one trace and then the other, so a postcondition is carried along the program text.

Most postconditions only look at one view of the trace: the calls with their replies (`records`), or
the events (`told`), both without times.
-/

namespace BrowserReplay

namespace Trace

def records (trace : Trace) : List CallRecord := trace.calls.map Prod.snd

def told (trace : Trace) : List RunEvent := trace.events.map Prod.snd

@[simp] theorem records_nil : records [] = [] := rfl

@[simp] theorem told_nil : told [] = [] := rfl

@[simp] theorem records_append (a b : Trace) : records (a ++ b) = records a ++ records b := by
  rw [records, calls_append, List.map_append]
  rfl

@[simp] theorem told_append (a b : Trace) : told (a ++ b) = told a ++ told b := by
  rw [told, events_append, List.map_append]
  rfl

@[simp] theorem records_call (time : Nat) (call : PageCall) (reply : call.Reply) (trace : Trace) :
    records (⟨time, .call call reply⟩ :: trace) = ⟨call, reply⟩ :: records trace := rfl

@[simp] theorem records_event (time : Nat) (event : RunEvent) (trace : Trace) :
    records (⟨time, .event event⟩ :: trace) = records trace := rfl

@[simp] theorem told_call (time : Nat) (call : PageCall) (reply : call.Reply) (trace : Trace) :
    told (⟨time, .call call reply⟩ :: trace) = told trace := rfl

@[simp] theorem told_event (time : Nat) (event : RunEvent) (trace : Trace) :
    told (⟨time, .event event⟩ :: trace) = event :: told trace := rfl

@[simp] theorem records_map_event (time : Nat) (events : List RunEvent) :
    records (events.map (⟨time, .event ·⟩)) = [] := by
  induction events with
  | nil => rfl
  | cons event events ih => exact ih

@[simp] theorem told_map_event (time : Nat) (events : List RunEvent) :
    told (events.map (⟨time, .event ·⟩)) = events := by
  induction events with
  | nil => rfl
  | cons event events ih => exact congrArg (event :: ·) ih

end Trace

def Visited.after (earlier : Trace) (visited : Visited σ α) : Visited σ α :=
  { visited with trace := earlier ++ visited.trace }

theorem Visited.after_after (first second : Trace) (visited : Visited σ α) :
    (visited.after second).after first = visited.after (first ++ second) := by
  rw [after, after, after, List.append_assoc]

namespace Visit

/-- Whatever the page and the time, the result and the trace of a visit are as described. -/
def Ensures (visit : Visit σ α) (post : α → Trace → Prop) : Prop :=
  ∀ page time, post (visit page time).result (visit page time).trace

namespace Ensures

theorem mono {visit : Visit σ α} {post weaker : α → Trace → Prop} (h : visit.Ensures post)
    (hweaker : ∀ result trace, post result trace → weaker result trace) :
    visit.Ensures weaker :=
  fun page time => hweaker _ _ (h page time)

theorem pure {result : α} {post : α → Trace → Prop} (h : post result []) :
    Ensures (pure result : Visit σ α) post :=
  fun _ _ => h

/-- What follows is described together with the trace so far. -/
theorem bind {first : Visit σ α} {next : α → Visit σ β} {middle : α → Trace → Prop}
    {post : β → Trace → Prop} (hfirst : first.Ensures middle)
    (hnext : ∀ result early, middle result early →
      (next result).Ensures fun last late => post last (early ++ late)) :
    (first >>= next).Ensures post := by
  intro page time
  rw [bind_apply]
  exact hnext _ _ (hfirst page time) _ _

/-! A visit that begins with a basic step: what follows is described with that step in front. -/

theorem tell_bind {event : RunEvent} {next : Unit → Visit σ α} {post : α → Trace → Prop}
    (h : ∀ time, (next ()).Ensures fun last late => post last (⟨time, .event event⟩ :: late)) :
    (Visit.tell event >>= next).Ensures post :=
  fun _ time => h time _ _

theorem tellAll_bind {events : List RunEvent} {next : Unit → Visit σ α}
    {post : α → Trace → Prop}
    (h : ∀ time, (next ()).Ensures fun last late =>
      post last (events.map (⟨time, .event ·⟩) ++ late)) :
    (Visit.tellAll events >>= next).Ensures post :=
  fun _ time => h time _ _

theorem remark_bind {level : LogLevel} {message : String} {next : Unit → Visit σ α}
    {post : α → Trace → Prop}
    (h : ∀ time, (next ()).Ensures fun last late =>
      post last (⟨time, .remark ⟨level, message⟩⟩ :: late)) :
    (Visit.remark level message >>= next).Ensures post :=
  fun _ time => h time _ _

theorem rest_bind {duration : Nat} {next : Unit → Visit σ α} {post : α → Trace → Prop}
    (h : (next ()).Ensures post) : (Visit.rest duration >>= next).Ensures post :=
  fun _ _ => h _ _

theorem clock_bind {next : Nat → Visit σ α} {post : α → Trace → Prop}
    (h : ∀ time, (next time).Ensures post) : (Visit.clock >>= next).Ensures post :=
  fun _ time => h time _ _

/-- A page can reply anything. -/
theorem call_bind {model : PageModel σ} {call : PageCall} {next : call.Reply → Visit σ α}
    {post : α → Trace → Prop}
    (h : ∀ time reply, (next reply).Ensures fun last late =>
      post last (⟨time, .call call reply⟩ :: late)) :
    (Visit.call model call >>= next).Ensures post :=
  fun _ time => h time _ _ _

end Ensures

end Visit

end BrowserReplay
