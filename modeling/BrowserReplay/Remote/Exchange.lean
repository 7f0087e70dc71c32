/-!
# Talking to a remote party

A browser is driven by calls to a party at the other end of a connection: it answers a call, fails
it, or never says anything. An `Exchange` is a computation made of such calls and of pauses. From a
party and a time it gives the party and the time it leaves, the calls that were sent, and a result,
unless it waits for ever. Exchanges are composed one after the other, and what follows a call that
is waited for without end never happens.
-/

namespace BrowserReplay

/-- What a party can be asked, and what its answers hold. -/
structure Interface where
  Call : Type
  Result : Call → Type

inductive Answer (α : Type) where
  | value (value : α)
  | failure (message : String)
  /-- The party never answers. -/
  | silence

structure PartyResponse (I : Interface) (γ : Type) (call : I.Call) where
  party : γ
  answer : Answer (I.Result call)

/-- How parties with states in `γ` respond. -/
abbrev PartyModel (I : Interface) (γ : Type) := γ → (call : I.Call) → PartyResponse I γ call

structure Exchanged (I : Interface) (γ α : Type) where
  party : γ
  time : Nat
  sent : List I.Call
  /-- Nothing if the exchange never ends. -/
  result : Option α

def Exchange (I : Interface) (γ α : Type) := γ → Nat → Exchanged I γ α

namespace Exchange

variable {I : Interface} {γ α β δ : Type}

protected def pure (result : α) : Exchange I γ α := fun party time => ⟨party, time, [], some result⟩

protected def bind (first : Exchange I γ α) (next : α → Exchange I γ β) : Exchange I γ β :=
  fun party time =>
    let a := first party time
    match a.result with
    | none => ⟨a.party, a.time, a.sent, none⟩
    | some result =>
      let b := next result a.party a.time
      ⟨b.party, b.time, a.sent ++ b.sent, b.result⟩

instance : Monad (Exchange I γ) where
  pure := Exchange.pure
  bind := Exchange.bind

def rest (duration : Nat) : Exchange I γ Unit := fun party time =>
  ⟨party, time + duration, [], some ()⟩

/-- Makes a call and waits at most so long for the answer. -/
def askWithin (model : PartyModel I γ) (limit : Nat) (call : I.Call) :
    Exchange I γ (Answer (I.Result call)) := fun party time =>
  let response := model party call
  match response.answer with
  | .silence => ⟨response.party, time + limit, [call], some .silence⟩
  | answer => ⟨response.party, time, [call], some answer⟩

def ask (model : PartyModel I γ) (call : I.Call) :
    Exchange I γ (Except String (I.Result call)) := fun party time =>
  let response := model party call
  match response.answer with
  | .value value => ⟨response.party, time, [call], some (.ok value)⟩
  | .failure message => ⟨response.party, time, [call], some (.error message)⟩
  | .silence => ⟨response.party, time, [call], none⟩

@[simp] theorem pure_apply (result : α) (party : γ) (time : Nat) :
    (pure result : Exchange I γ α) party time = ⟨party, time, [], some result⟩ := rfl

theorem map_id (exchange : Exchange I γ α) : id <$> exchange = exchange := by
  funext party time
  simp only [Functor.map, Exchange.bind, Exchange.pure, Function.comp, id]
  cases h : exchange party time with
  | mk a b c result => cases result <;> simp

theorem pure_bind (result : α) (next : α → Exchange I γ β) :
    pure result >>= next = next result := by
  funext party time
  simp only [bind, pure, Exchange.bind, Exchange.pure, List.nil_append]

theorem bind_assoc (first : Exchange I γ α) (next : α → Exchange I γ β)
    (last : β → Exchange I γ δ) :
    first >>= next >>= last = first >>= fun result => next result >>= last := by
  funext party time
  simp only [bind, Exchange.bind]
  cases hfirst : (first party time).result with
  | none => rfl
  | some result =>
    simp only
    cases hnext : (next result (first party time).party (first party time).time).result with
    | none => rfl
    | some result => simp [List.append_assoc]

instance : LawfulMonad (Exchange I γ) := LawfulMonad.mk' _ map_id pure_bind bind_assoc

/-- What follows a call that is answered. -/
theorem bind_of_eq {first : Exchange I γ α} {next : α → Exchange I γ β} {party after : γ}
    {time later : Nat} {sent : List I.Call} {result : α}
    (h : first party time = ⟨after, later, sent, some result⟩) :
    (first >>= next) party time =
      { next result after later with sent := sent ++ (next result after later).sent } := by
  simp only [bind, Exchange.bind, h]

end Exchange

end BrowserReplay
