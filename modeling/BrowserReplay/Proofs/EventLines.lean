import BrowserReplay.Program
import BrowserReplay.Proofs.Recorded
import BrowserReplay.Proofs.WrittenJson

/-!
# Events on lines

A written document has no control characters, so an event is one line whatever texts are in it. It
is read back from that line: the tag tells the kind, and each kind has fields of its own. So a
sequence of events can be printed line by line, and no event is lost or taken for another.
-/

namespace BrowserReplay

/-! ### Documents on one line -/

namespace Json

/-- Characters other than the control characters below the space. -/
def IsPrintable (c : Char) : Prop := 0x20 ≤ c.toNat

instance : DecidablePred IsPrintable := fun c => inferInstanceAs (Decidable (0x20 ≤ c.toNat))

theorem isPrintable_of_all {cs : List Char} (h : cs.all (IsPrintable ·) = true) :
    ∀ c ∈ cs, IsPrintable c := by
  intro c hc
  exact of_decide_eq_true (List.all_eq_true.1 h c hc)

theorem isPrintable_hexDigit : ∀ n < 16, IsPrintable (hexDigit n) := by
  decide

theorem isPrintable_escape (c : Char) : ∀ d ∈ escape c, IsPrintable d := by
  have hletter (letter : Char) (h : IsPrintable letter) : ∀ d ∈ ['\\', letter], IsPrintable d := by
    simpa using ⟨by decide, h⟩
  unfold escape
  -- Seven characters are escaped by a letter.
  iterate 7
    split
    · exact hletter _ (by decide)
  split
  next hcontrol =>
    have hhigh := isPrintable_hexDigit (c.toNat / 16) (by omega)
    have hlow := isPrintable_hexDigit (c.toNat % 16) (by omega)
    have hzero : IsPrintable '0' := by decide
    simpa [hhigh, hlow, hzero] using ⟨by decide, by decide⟩
  next hplain => simpa [IsPrintable] using hplain

theorem isPrintable_quote (cs : List Char) : ∀ c ∈ quote cs, IsPrintable c := by
  have hquote : IsPrintable '"' := by decide
  rw [quote, List.forall_mem_cons, List.forall_mem_append, List.forall_mem_singleton]
  refine ⟨hquote, fun c hc => ?_, hquote⟩
  obtain ⟨d, -, hd⟩ := List.mem_flatMap.1 hc
  exact isPrintable_escape d c hd

theorem isPrintable_writeLiteral (value : Option String) :
    ∀ c ∈ writeLiteral value, IsPrintable c := by
  cases value with
  | none => exact isPrintable_of_all rfl
  | some s => exact isPrintable_quote s.toList

theorem isPrintable_writeNat (n : Nat) : ∀ c ∈ writeNat n, IsPrintable c := by
  intro c hc
  have hdigit := Char.isDigit_iff_toNat.1 (isDigit_of_mem_writeNat hc)
  exact Nat.le_trans (by decide) hdigit.1

theorem isPrintable_writeNumeral (n : Numeral) : ∀ c ∈ writeNumeral n, IsPrintable c := by
  obtain ⟨negative, digits, exponent⟩ := n
  rw [writeNumeral, List.forall_mem_append, List.forall_mem_append]
  refine ⟨⟨?_, isPrintable_writeNat digits⟩, ?_⟩
  · cases negative with
    | true => exact List.forall_mem_singleton.2 (by decide)
    | false => exact List.forall_mem_nil _
  · rcases exponent with _ | e | e
    · exact List.forall_mem_nil _
    · exact List.forall_mem_cons.2 ⟨by decide, isPrintable_writeNat e⟩
    · exact List.forall_mem_cons.2 ⟨by decide,
        List.forall_mem_cons.2 ⟨by decide, isPrintable_writeNat (e + 1)⟩⟩

theorem isPrintable_member (name : Option String) {value rest : List Char}
    (hvalue : ∀ c ∈ value, IsPrintable c) (hrest : ∀ c ∈ rest, IsPrintable c) :
    ∀ c ∈ writeLiteral name ++ ':' :: (value ++ rest), IsPrintable c := by
  rw [List.forall_mem_append, List.forall_mem_cons, List.forall_mem_append]
  exact ⟨isPrintable_writeLiteral name, by decide, hvalue, hrest⟩

mutual
/-- A document is written without control characters. -/
theorem isPrintable_write (document : Json) : ∀ c ∈ write document, IsPrintable c := by
  match document with
  | .null | .bool true | .bool false | .array [] | .object [] => exact isPrintable_of_all rfl
  | .number n => exact isPrintable_writeNumeral n
  | .string value => exact isPrintable_writeLiteral value
  | .array (item :: items) =>
    rw [write, List.forall_mem_cons, List.forall_mem_append]
    exact ⟨by decide, isPrintable_write item, isPrintable_writeItems items⟩
  | .object ((name, value) :: members) =>
    rw [write, List.forall_mem_cons]
    exact ⟨by decide, isPrintable_member name (isPrintable_write value)
      (isPrintable_writeMembers members)⟩

theorem isPrintable_writeItems (items : List Json) : ∀ c ∈ writeItems items, IsPrintable c := by
  match items with
  | [] => exact isPrintable_of_all rfl
  | item :: items =>
    rw [writeItems, List.forall_mem_cons, List.forall_mem_append]
    exact ⟨by decide, isPrintable_write item, isPrintable_writeItems items⟩

theorem isPrintable_writeMembers (members : List (Option String × Json)) :
    ∀ c ∈ writeMembers members, IsPrintable c := by
  match members with
  | [] => exact isPrintable_of_all rfl
  | (name, value) :: members =>
    rw [writeMembers, List.forall_mem_cons]
    exact ⟨by decide, isPrintable_member name (isPrintable_write value)
      (isPrintable_writeMembers members)⟩
end

/-- No control character stands in the text of a document. -/
theorem not_mem_render (document : Json) {c : Char} (h : ¬ IsPrintable c) :
    c ∉ document.render.toList := by
  rw [render, String.toList_ofList]
  exact fun hc => h (isPrintable_write document c hc)

end Json

open Json

/-! ### Reading events -/

def Json.nat? : Json → Option Nat
  | .number ⟨false, digits, none⟩ => some digits
  | _ => none

namespace RunState

/-- The state with a given tag and the given other contents. -/
def ofTagged? : String → Json → Option RunState
  | "idle", _ => some .idle
  | "running", _ => some .running
  | "paused", _ => some .paused
  | "cancelled", _ => some .cancelled
  | "completed", _ => some .completed
  | "navigating", contents =>
    match contents.slots? ["url"] with
    | some [url] => do pure (.navigating (← required text? url))
    | _ => none
  | _, _ => none

def ofJson? (document : Json) : Option RunState :=
  (document.tagged? "state").bind fun (state, contents) => ofTagged? state contents

theorem ofJson?_toJson (state : RunState) : ofJson? state.toJson = some state := by
  cases state <;> rfl

end RunState

namespace RunEvent

def ofTagged? : String → Json → Option RunEvent
  | "run_started", contents =>
    match contents.slots? ["commands"] with
    | some [commands] => do pure (.runStarted (← required nat? commands))
    | _ => none
  | "command_started", contents =>
    match contents.slots? ["index", "command", "target", "value"] with
    | some [index, command, target, value] => do
      pure (.commandStarted (← required nat? index) (← required text? command)
        (← required text? target) (← required text? value))
    | _ => none
  | "selector_failed", contents =>
    match contents.slots? ["index", "selector", "reason"] with
    | some [index, selector, reason] => do
      pure (.selectorFailed (← required nat? index) (← required text? selector)
        (← required text? reason))
    | _ => none
  | "command_completed", contents =>
    match contents.slots? ["index", "command"] with
    | some [index, command] => do
      pure (.commandCompleted (← required nat? index) (← required text? command))
    | _ => none
  | "command_abandoned", contents =>
    match contents.slots? ["index", "command", "reason"] with
    | some [index, command, reason] => do
      pure (.commandAbandoned (← required nat? index) (← required text? command)
        (← required text? reason))
    | _ => none
  | "variable_stored", contents =>
    match contents.slots? ["name", "value"] with
    | some [name, value] => do
      pure (.variableStored (← required text? name) (← required text? value))
    | _ => none
  | "paused", contents =>
    match contents.slots? ["index"] with
    | some [index] => do pure (.paused (← required nat? index))
    | _ => none
  | "resumed", contents =>
    match contents.slots? ["index"] with
    | some [index] => do pure (.resumed (← required nat? index))
    | _ => none
  | "navigating", contents =>
    match contents.slots? ["url", "dropped"] with
    | some [url, dropped] => do
      pure (.navigating (← required text? url) (← required nat? dropped))
    | _ => none
  | "run_finished", contents =>
    match contents.slots? ["state", "dispatched"] with
    | some [state, dispatched] => do
      pure (.runFinished (← required RunState.ofJson? state) (← required nat? dispatched))
    | _ => none
  | _, _ => none

def ofJson? (document : Json) : Option RunEvent :=
  (document.tagged? "event").bind fun (event, contents) => ofTagged? event contents

def parse? (text : String) : Option RunEvent := (Json.parse? text).bind ofJson?

theorem ofJson?_toJson (event : RunEvent) : ofJson? event.toJson = some event := by
  cases event with
  | runFinished state dispatched =>
    show (RunState.ofJson? state.toJson).bind (fun state => some (runFinished state dispatched)) = _
    rw [RunState.ofJson?_toJson, Option.bind_some]
  | _ => rfl

theorem parse?_render (event : RunEvent) : parse? event.render = some event := by
  rw [parse?, render, Json.parse?_render, Option.bind_some, ofJson?_toJson]

theorem render_injective : Function.Injective render := by
  intro event other h
  have hread : parse? event.render = parse? other.render := by rw [h]
  rw [parse?_render, parse?_render] at hread
  exact Option.some.inj hread

end RunEvent

/-! ### Lines -/

def EventFormat.output (format : EventFormat) : List RunEvent → String
  | [] => ""
  | event :: events => format.line event ++ "\n" ++ format.output events

namespace RunEvent

/-- The lines of an output. Each of them ends with a line break, so nothing stands after the last
one. -/
def linesOf (output : String) : List String :=
  ((output.split '\n').toList.map (·.copy)).dropLast

def parseLines? (output : String) : Option (List RunEvent) := (linesOf output).mapM parse?

theorem not_mem_render (event : RunEvent) {c : Char} (h : ¬ IsPrintable c) :
    c ∉ event.render.toList :=
  Json.not_mem_render event.toJson h

theorem linesOf_output (events : List RunEvent) :
    linesOf (EventFormat.json.output events) = events.map render := by
  have hsplit : (EventFormat.json.output events).toList.splitOn '\n' =
      events.map (·.render.toList) ++ [[]] := by
    induction events with
    | nil => rfl
    | cons event events ih =>
      have hline := event.not_mem_render (c := '\n') (by decide)
      have hfeed : "\n".toList = ['\n'] := rfl
      rw [EventFormat.output, EventFormat.line, String.toList_append, String.toList_append, hfeed,
        List.append_assoc, List.singleton_append,
        List.splitOn_append_cons_self_of_not_mem hline, ih]
      rfl
  rw [linesOf, String.toList_split_char, hsplit]
  simp

theorem parseLines?_output (events : List RunEvent) :
    parseLines? (EventFormat.json.output events) = some events := by
  rw [parseLines?, linesOf_output, mapM_eq_some, List.forall₂_map_left_iff, List.forall₂_same]
  exact fun event _ => parse?_render event

end RunEvent

namespace Trace

/-- If nothing else is printed, the output is that of the events. -/
theorem printed_eq_output (format : EventFormat) {trace : Trace}
    (h : ∀ notice ∈ trace.notices, notice.printed = "") :
    trace.printed format = format.output (trace.events.map Prod.snd) := by
  suffices hfrom : ∀ time held, trace.printedFrom format time held =
      held ++ format.output (trace.events.map Prod.snd) by
    rw [printed, hfrom, String.empty_append]
  induction trace with
  | nil =>
    intro time held
    exact String.append_empty.symm
  | cons entry rest ih =>
    intro time held
    obtain ⟨moment, what⟩ := entry
    -- What was held back comes first, whether it is due now or later.
    have hdue (later : String) : (if moment = time then ("", held) else (held, "")).1 ++
        ((if moment = time then ("", held) else (held, "")).2 ++ later) = held ++ later := by
      split <;> simp
    cases what with
    | notice notice =>
      have hevents : events (⟨moment, .notice notice⟩ :: rest) = events rest := rfl
      have hquiet : notice.printed = "" := h notice List.mem_cons_self
      have hrest := ih fun other hmem => h other (List.mem_cons_of_mem _ hmem)
      simp only [printedFrom, hevents, hquiet, hrest, String.empty_append]
      exact hdue _
    | event event =>
      have hevents : events (⟨moment, .event event⟩ :: rest) = (moment, event) :: events rest := rfl
      simp only [printedFrom, hevents, ih h, List.map_cons, EventFormat.output, String.append_assoc]
      exact hdue _
    | call call reply =>
      have hevents : events (⟨moment, .call call reply⟩ :: rest) = events rest := rfl
      simp only [printedFrom, hevents, ih h]
      exact hdue _
    | remark line =>
      have hevents : events (⟨moment, .remark line⟩ :: rest) = events rest := rfl
      simp only [printedFrom, hevents, ih h]
      exact hdue _

end Trace

/-- Event lines are lossless. The text of an event is one line, no other event has the same text,
and any sequence of events is read back from what is printed for it, line by line. So are the events
of a trace from what is printed for the trace, if it has no notices that are printed among them. -/
theorem event_lines_are_lossless :
    (∀ event : RunEvent, '\n' ∉ event.render.toList ∧ '\r' ∉ event.render.toList) ∧
      Function.Injective RunEvent.render ∧
      (∀ events : List RunEvent,
        RunEvent.parseLines? (EventFormat.json.output events) = some events) ∧
      ∀ trace : Trace, (∀ notice ∈ trace.notices, notice.printed = "") →
        RunEvent.parseLines? (trace.printed .json) = some (trace.events.map Prod.snd) := by
  refine ⟨fun event => ⟨event.not_mem_render (by decide), event.not_mem_render (by decide)⟩,
    RunEvent.render_injective, RunEvent.parseLines?_output, fun trace hquiet => ?_⟩
  rw [trace.printed_eq_output .json hquiet, RunEvent.parseLines?_output]

end BrowserReplay
