import BrowserReplay.Trace

/-!
# Acting on a page

A `Visit` is a computation that acts on a page as time passes. From a page and a time it gives the
page and the time it leaves, what happened meanwhile, and a result. Visits are composed one after the
other; the traces are concatenated and time never runs backwards.
-/

namespace BrowserReplay

structure Visited (σ α : Type) where
  page : σ
  time : Nat
  trace : Trace
  result : α

def Visit (σ α : Type) := σ → Nat → Visited σ α

namespace Visit

protected def pure (result : α) : Visit σ α := fun page time => ⟨page, time, [], result⟩

protected def bind (first : Visit σ α) (next : α → Visit σ β) : Visit σ β := fun page time =>
  let a := first page time
  let b := next a.result a.page a.time
  ⟨b.page, b.time, a.trace ++ b.trace, b.result⟩

instance : Monad (Visit σ) where
  pure := Visit.pure
  bind := Visit.bind

def tell (event : RunEvent) : Visit σ Unit := fun page time =>
  ⟨page, time, [⟨time, .event event⟩], ()⟩

def tellAll (events : List RunEvent) : Visit σ Unit := fun page time =>
  ⟨page, time, events.map (⟨time, .event ·⟩), ()⟩

def remark (level : LogLevel) (message : String) : Visit σ Unit := fun page time =>
  ⟨page, time, [⟨time, .remark ⟨level, message⟩⟩], ()⟩

def rest (duration : Nat) : Visit σ Unit := fun page time => ⟨page, time + duration, [], ()⟩

def clock : Visit σ Nat := fun page time => ⟨page, time, [], time⟩

def call (model : PageModel σ) (call : PageCall) : Visit σ call.Reply := fun page time =>
  let response := model page call
  ⟨response.page, time + response.elapsed, [⟨time, .call call response.reply⟩], response.reply⟩

@[simp] theorem pure_apply (result : α) (page : σ) (time : Nat) :
    (pure result : Visit σ α) page time = ⟨page, time, [], result⟩ := rfl

theorem bind_apply (first : Visit σ α) (next : α → Visit σ β) (page : σ) (time : Nat) :
    (first >>= next) page time =
      let a := first page time
      let b := next a.result a.page a.time
      ⟨b.page, b.time, a.trace ++ b.trace, b.result⟩ := rfl

theorem map_id (visit : Visit σ α) : id <$> visit = visit := by
  funext page time
  simp only [Functor.map, Visit.bind, Visit.pure, Function.comp, id, List.append_nil]

theorem pure_bind (result : α) (next : α → Visit σ β) : pure result >>= next = next result := by
  funext page time
  simp only [bind, pure, Visit.bind, Visit.pure, List.nil_append]

theorem bind_assoc (first : Visit σ α) (next : α → Visit σ β) (last : β → Visit σ γ) :
    first >>= next >>= last = first >>= fun result => next result >>= last := by
  funext page time
  simp only [bind, Visit.bind, List.append_assoc]

instance : LawfulMonad (Visit σ) := LawfulMonad.mk' _ map_id pure_bind bind_assoc

end Visit

end BrowserReplay
