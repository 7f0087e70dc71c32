import BrowserReplay.Proofs.Paired

/-!
# Visits that are alike

Two visits are compared that begin at different times on two pages that answer alike. They leave
pages that answer alike, and what one does the other does later, up to what a view of the entries
hides. The page and the clock enter a visit only through calls and through the time that has passed,
so pages that answer alike make a pairing, in which every command is alike to itself
(`perform_alike`). With one page, one store and nothing hidden this says that a command performed
later does the same later (`perform_delay`).
-/

namespace BrowserReplay

def Trace.delay (duration : Nat) (trace : Trace) : Trace :=
  trace.map fun entry => { entry with time := entry.time + duration }

@[simp] theorem Trace.delay_append (duration : Nat) (a b : Trace) :
    Trace.delay duration (a ++ b) = Trace.delay duration a ++ Trace.delay duration b :=
  List.map_append

@[simp] theorem Trace.delay_zero (trace : Trace) : Trace.delay 0 trace = trace :=
  List.map_id' trace

@[simp] theorem Trace.map_what_delay (duration : Nat) (trace : Trace) :
    (Trace.delay duration trace).map Entry.what = trace.map Entry.what := by
  rw [Trace.delay, List.map_map]
  rfl

def Visited.delay (duration : Nat) (visited : Visited σ α) : Visited σ α :=
  { visited with time := visited.time + duration, trace := visited.trace.delay duration }

/-- A relation between pages that answer every call alike, and what is looked at in a trace. -/
structure Likeness (model : PageModel σ) where
  same : σ → σ → Prop
  view : Entry → Entry
  reply : ∀ {page other}, same page other → ∀ call,
    (model other call).reply = (model page call).reply
  elapsed : ∀ {page other}, same page other → ∀ call,
    (model other call).elapsed = (model page call).elapsed
  next : ∀ {page other}, same page other → ∀ call,
    same (model page call).page (model other call).page

def Likeness.identity (model : PageModel σ) : Likeness model where
  same := Eq
  view entry := entry
  reply h _ := by rw [h]
  elapsed h _ := by rw [h]
  next h _ := by rw [h]

/-- Two visits have left the same: the second one `duration` later, with results that are related.
-/
structure Visited.Alike {model : PageModel σ} (likeness : Likeness model) (duration : Nat)
    (related : α → β → Prop) (first : Visited σ α) (second : Visited σ β) : Prop where
  page : likeness.same first.page second.page
  time : second.time = first.time + duration
  trace : second.trace.map likeness.view = (first.trace.delay duration).map likeness.view
  result : related first.result second.result

def Likeness.pairing {model : PageModel σ} (likeness : Likeness model) (duration : Nat) :
    Pairing model model where
  same := likeness.same
  duration
  shows first second := second.map likeness.view = (first.delay duration).map likeness.view
  nil := rfl
  append hearly hlate := by
    rw [List.map_append, Trace.delay_append, List.map_append, hearly, hlate]
  entry _ _ := rfl

theorem Likeness.answers {model : PageModel σ} (likeness : Likeness model) (duration : Nat)
    (call : PageCall) : (likeness.pairing duration).Answers call :=
  ⟨fun h => likeness.reply h call, fun h => likeness.elapsed h call, fun h => likeness.next h call⟩

theorem Likeness.carries {model : PageModel σ} (likeness : Likeness model) (duration : Nat)
    (config : Config) (command : Command) :
    (likeness.pairing duration).Carries config config command where
  timing := rfl
  keys := rfl
  answers call _ := likeness.answers duration call
  stored time _ _ := (likeness.pairing duration).entry time _
  marks _ := Perform.mark_paired rfl (likeness.answers duration _)
  opens _ _ target :=
    Perform.openPage_paired (likeness.answers duration _) (fun _ => likeness.answers duration _)
      target

namespace Visit

variable {model : PageModel σ}

/-- On pages that are the same the second visit, begun `duration` later, does the same as the first
one. -/
def Alike (likeness : Likeness model) (duration : Nat) (related : α → β → Prop)
    (first : Visit σ α) (second : Visit σ β) : Prop :=
  ∀ page other time, likeness.same page other →
    (first page time).Alike likeness duration related (second other (time + duration))

variable {likeness : Likeness model} {duration : Nat}

theorem alike_iff_paired {related : α → β → Prop} {first : Visit σ α} {second : Visit σ β} :
    Alike likeness duration related first second ↔
      Paired (likeness.pairing duration) related first second := by
  constructor
  · intro h page other time hpage
    obtain ⟨hnext, htime, htrace, hresult⟩ := h page other time hpage
    exact ⟨hnext, htime, htrace, hresult⟩
  · intro h page other time hpage
    obtain ⟨hnext, htime, htrace, hresult⟩ := h page other time hpage
    exact ⟨hnext, htime, htrace, hresult⟩

namespace Alike

theorem pure {related : α → β → Prop} {a : α} {b : β} (h : related a b) :
    Alike likeness duration related (pure a) (pure b) :=
  alike_iff_paired.2 (.pure h)

theorem mono {related weaker : α → β → Prop} {first : Visit σ α} {second : Visit σ β}
    (h : Alike likeness duration related first second)
    (hweaker : ∀ a b, related a b → weaker a b) : Alike likeness duration weaker first second :=
  alike_iff_paired.2 ((alike_iff_paired.1 h).mono hweaker)

theorem bind {related : α → β → Prop} {related' : γ → δ → Prop} {first : Visit σ α}
    {second : Visit σ β} {next : α → Visit σ γ} {later : β → Visit σ δ}
    (h : Alike likeness duration related first second)
    (hnext : ∀ a b, related a b → Alike likeness duration related' (next a) (later b)) :
    Alike likeness duration related' (first >>= next) (second >>= later) :=
  alike_iff_paired.2 ((alike_iff_paired.1 h).bind fun a b hab => alike_iff_paired.1 (hnext a b hab))

/-- The case in which both visits first do the same. -/
theorem bind_eq {related : β → γ → Prop} {first second : Visit σ α} {next : α → Visit σ β}
    {later : α → Visit σ γ} (h : Alike likeness duration Eq first second)
    (hnext : ∀ a, Alike likeness duration related (next a) (later a)) :
    Alike likeness duration related (first >>= next) (second >>= later) :=
  h.bind fun a _ heq => heq ▸ hnext a

theorem tell (event : RunEvent) : Alike likeness duration Eq (tell event) (tell event) :=
  alike_iff_paired.2 (.tell fun time => (likeness.pairing duration).entry time _)

theorem call (call : PageCall) :
    Alike likeness duration Eq (Visit.call model call) (Visit.call model call) :=
  alike_iff_paired.2 (.call (likeness.answers duration call))

end Alike

end Visit

/-! ### What commands are made of -/

section Commands

open Visit

variable {model : PageModel σ} (config : Config) (likeness : Likeness model) (duration : Nat)

theorem waitFor_alike (options : WaitOptions) (raw : String) :
    Alike likeness duration Eq (waitFor model options raw) (waitFor model options raw) :=
  alike_iff_paired.2 (waitFor_paired (fun _ => likeness.answers duration _) options raw)

theorem Perform.onElement_alike {vars vars' : Variables} (index : Nat) {target : Target}
    (h : target.candidates vars = target.candidates vars') {act act' : Handle → Visit σ Outcome}
    (hact : ∀ handle, Alike likeness duration Eq (act handle) (act' handle)) :
    Alike likeness duration Eq (onElement model config vars index target act)
      (onElement model config vars' index target act') :=
  alike_iff_paired.2 (onElement_paired (likeness.carries duration config .finish) index h
    fun handle => alike_iff_paired.1 (hact handle))

/-- With either of two stores in which its texts read the same, a command does the same. -/
theorem perform_alike {vars vars' : Variables} (index : Nat) {command : Command}
    (h : vars.AgreeOn vars' command.templates) :
    Alike likeness duration (SameStored vars vars') (perform model config vars index command)
      (perform model config vars' index command) := by
  have hcarries := likeness.carries duration config command
  refine alike_iff_paired.2 (perform_paired hcarries h fun time => ?_)
  rw [Perform.started_eq rfl index h]
  exact (likeness.pairing duration).entry time _

/-- A command that is performed later does the same later. -/
theorem perform_delay (model : PageModel σ) (config : Config) (vars : Variables) (index : Nat)
    (command : Command) (page : σ) (time duration : Nat) :
    perform model config vars index command page (time + duration) =
      (perform model config vars index command page time).delay duration := by
  obtain ⟨hpage, htime, htrace, hdone⟩ :=
    perform_alike config (Likeness.identity model) duration index
      (.refl vars command.templates) page page time rfl
  have hresult := hdone.eq
  have htrace := (List.map_id' _).symm.trans (htrace.trans (List.map_id' _))
  revert hpage htime htrace hresult
  clear hdone
  generalize perform model config vars index command page time = first
  generalize perform model config vars index command page (time + duration) = second
  obtain ⟨page, time, trace, result⟩ := first
  obtain ⟨page', time', trace', result'⟩ := second
  rintro ⟨⟩ ⟨⟩ ⟨⟩ ⟨⟩
  rfl

end Commands

end BrowserReplay
