import BrowserReplay.Location
import BrowserReplay.Perform
import BrowserReplay.Proofs.Visit

/-!
# The table of commands

What each command may do to the page, said by the calls alone. The calls of a command with their
replies form a word; `Row` gives, for each command and the variables that it finds, the words that
the command may leave and the variables after it. An element is always named by the handle that a
query of the same command has just returned; nothing is remembered from one command to the next.

The table does not mention pages, times, events or waiting: `Waited` and `Sought` say which queries
can come of a search and what the search has found, by looking at the replies.
-/

namespace BrowserReplay

namespace Table

/-! ### Searching -/

/-- The queries of a wait for one selector, and the element that it found. -/
inductive Waited (selector : Selector) : List CallRecord → Option Handle → Prop
  | timedOut : Waited selector [] none
  | found (handle : Handle) : Waited selector [⟨.query selector, .ok (some handle)⟩] (some handle)
  | failed (error : PageError) : Waited selector [⟨.query selector, .error error⟩] none
  | again {records : List CallRecord} {found : Option Handle} (h : Waited selector records found) :
      Waited selector (⟨.query selector, .ok none⟩ :: records) found

/-- The queries of a search through candidates in order, and the element that it found. Candidates
after the first one that is found are not asked for. -/
inductive Sought : List Selector → List CallRecord → Option Handle → Prop
  | exhausted : Sought [] [] none
  | hit {selector : Selector} {rest : List Selector} {records : List CallRecord} {handle : Handle}
      (h : Waited selector records (some handle)) :
      Sought (selector :: rest) records (some handle)
  | miss {selector : Selector} {rest : List Selector} {records later : List CallRecord}
      {found : Option Handle} (h : Waited selector records none)
      (hlater : Sought rest later found) :
      Sought (selector :: rest) (records ++ later) found

/-- The call that marks an element, if the settings ask for it. -/
inductive Marked (config : Config) (handle : Handle) : List CallRecord → Prop
  | off (h : config.highlight.enabled = false) : Marked config handle []
  | on (h : config.highlight.enabled = true) (reply : Except PageError Unit) :
      Marked config handle [⟨.highlight handle config.highlight.style, reply⟩]

def selectors (vars : Variables) (target : Target) : List Selector :=
  (target.candidates vars).map Selector.parse

/-- The calls of a command that acts on an element: a search and, if it finds an element, the
marking of that element and then the action on it. -/
inductive OnElement (config : Config) (candidates : List Selector)
    (action : Handle → List CallRecord → Prop) : List CallRecord → Prop
  | missed {queries : List CallRecord} (h : Sought candidates queries none) :
      OnElement config candidates action queries
  | acted {queries marks calls : List CallRecord} {handle : Handle}
      (h : Sought candidates queries (some handle)) (hmarks : Marked config handle marks)
      (hcalls : action handle calls) :
      OnElement config candidates action (queries ++ (marks ++ calls))

/-! ### Actions -/

inductive Clicked (handle : Handle) : List CallRecord → Prop
  | intro (reply : Except PageError Unit) : Clicked handle [⟨.click handle, reply⟩]

/-- Writing a text: the element is focused and, only if that worked, its value is set. -/
inductive Written (text : String) (handle : Handle) : List CallRecord → Prop
  | unfocused (error : PageError) : Written text handle [⟨.focus handle, .error error⟩]
  | focused (reply : Except PageError Unit) :
      Written text handle [⟨.focus handle, .ok ()⟩, ⟨.setValue handle text, reply⟩]

/-- Where opening a target leads, by the answer to the question for the location. An empty target
means the same location again; a target that is the location already leads nowhere. -/
def destination? (target : String) : Except PageError String → Option String
  | .ok current =>
    if target = "" then some current
    else if sameLocation current (resolveLocation (some current) target) then none
    else some (resolveLocation (some current) target)
  | .error _ => if target = "" then none else some (resolveLocation none target)

/-- Opening a target: the page is asked for its location and then navigated at most once. -/
inductive Opened (target : String) : List CallRecord → Prop
  | stayed (location : Except PageError String) (h : destination? target location = none) :
      Opened target [⟨.currentUrl, location⟩]
  | went (location : Except PageError String) (url : String)
      (h : destination? target location = some url) (reply : Except PageError Arrival) :
      Opened target [⟨.currentUrl, location⟩, ⟨.navigate url, reply⟩]

/-- Pressing the escape key, if the recorded value is the agreed one; any other value does
nothing. -/
inductive Pressed (token : String) (value : Option String) : List CallRecord → Prop
  | escape (h : value = some token) (reply : Except PageError Unit) :
      Pressed token value [⟨.dispatchKey "Escape", reply⟩]
  | other (h : value ≠ some token) : Pressed token value []

/-! ### The table -/

/-- The rows of the table: with the variables `vars`, the command may make these calls and leave
these variables. -/
inductive Row (config : Config) (vars : Variables) :
    Command → List CallRecord → Variables → Prop
  | store (value name : Option String) :
      Row config vars (.store value name) []
        (vars.set (Template.substitute vars name) (.text (Template.substitute vars value)))
  | openPage {url : Option String} {records : List CallRecord}
      (h : Opened (Template.substitute vars url) records) :
      Row config vars (.openPage url) records vars
  | click {target : Target} {records : List CallRecord}
      (h : OnElement config (selectors vars target) Clicked records) :
      Row config vars (.click target) records vars
  | type {target : Target} {text : Option String} {records : List CallRecord}
      (h : OnElement config (selectors vars target)
        (Written (Template.substitute vars text)) records) :
      Row config vars (.type target text) records vars
  | present {target : Target} {name : Option String} {queries marks : List CallRecord}
      {handle : Handle} (h : Sought (selectors vars target) queries (some handle))
      (hmarks : Marked config handle marks) :
      Row config vars (.verifyElementPresent target name) (queries ++ marks)
        (vars.set (Template.substitute vars name) (.bool true))
  | absent {target : Target} {name : Option String} {queries : List CallRecord}
      (h : Sought (selectors vars target) queries none) :
      Row config vars (.verifyElementPresent target name) queries
        (vars.set (Template.substitute vars name) (.bool false))
  | finish : Row config vars .finish [] vars
  | keyPress {value : Option String} {records : List CallRecord}
      (h : Pressed config.keys.escapeToken value records) :
      Row config vars (.keyPress value) records vars
  | unrecognized (name : String) : Row config vars (.unrecognized name) [] vars

/-- A command that was dispatched: the variables that it found, and its calls. -/
structure Deed where
  command : Command
  vars : Variables
  records : List CallRecord

/-- Deeds that follow the table, each with the variables that the one before has left. -/
inductive Follows (config : Config) : Variables → List Deed → Variables → Prop
  | nil (vars : Variables) : Follows config vars [] vars
  | cons {command : Command} {vars after last : Variables} {records : List CallRecord}
      {deeds : List Deed} (h : Row config vars command records after)
      (hrest : Follows config after deeds last) :
      Follows config vars (⟨command, vars, records⟩ :: deeds) last

end Table

/-! ### Effects and handles, read off the calls -/

namespace PageCall

def handle? : PageCall → Option Handle
  | .click handle | .focus handle | .setValue handle _ | .highlight handle _ => some handle
  | .query _ | .currentUrl | .navigate _ | .dispatchKey _ => none

end PageCall

namespace Table

def effects (records : List CallRecord) : List PageCall :=
  (records.map Sigma.fst).filter PageCall.isEffectful

/-- The handle that is known after a call, if `held` was known before: a query gives a new one or,
when it finds nothing, none. -/
def heldAfter (held : Option Handle) : CallRecord → Option Handle
  | ⟨.query _, .ok found⟩ => found
  | ⟨.query _, .error _⟩ => none
  | _ => held

def latest (records : List CallRecord) : Option Handle := records.foldl heldAfter none

/-- Every call on an element names the handle that the latest query has returned; `held` is the one
from before the first call. -/
def HoldsLatest (held : Option Handle) : List CallRecord → Prop
  | [] => True
  | record :: rest =>
    (∀ handle ∈ record.1.handle?, held = some handle) ∧ HoldsLatest (heldAfter held record) rest

def focuses (handle : Handle) : CallRecord → Bool
  | ⟨.focus other, .ok _⟩ => other = handle
  | _ => false

def due (config : Config) (deed : Deed) : List PageCall :=
  match deed.command with
  | .click _ =>
    match latest deed.records with
    | some handle => [.click handle]
    | none => []
  | .type _ text =>
    match latest deed.records with
    | some handle =>
      .focus handle ::
        if deed.records.any (focuses handle) then
          [.setValue handle (Template.substitute deed.vars text)]
        else []
    | none => []
  | .keyPress value =>
    if value = some config.keys.escapeToken then [.dispatchKey "Escape"] else []
  | .openPage url =>
    match deed.records with
    | ⟨.currentUrl, location⟩ :: _ =>
      ((destination? (Template.substitute deed.vars url) location).map .navigate).toList
    | _ => []
  | .store .. | .verifyElementPresent .. | .finish | .unrecognized _ => []

@[simp] theorem effects_append (a b : List CallRecord) :
    effects (a ++ b) = effects a ++ effects b := by
  rw [effects, List.map_append, List.filter_append]
  rfl

theorem holdsLatest_append {held : Option Handle} {a b : List CallRecord} :
    HoldsLatest held (a ++ b) ↔ HoldsLatest held a ∧ HoldsLatest (a.foldl heldAfter held) b := by
  induction a generalizing held with
  | nil => exact (true_and _).symm ▸ Iff.rfl
  | cons record rest ih =>
    rw [List.cons_append, HoldsLatest, HoldsLatest, ih, List.foldl_cons, and_assoc]

/-- What needs no handle from before can follow anything. -/
theorem HoldsLatest.of_none {records : List CallRecord} (h : HoldsLatest none records)
    (held : Option Handle) : HoldsLatest held records := by
  -- Until the first query nothing is acted on, and from then on both sides hold the same.
  have key : ∀ known, known = none ∨ known = held → HoldsLatest known records →
      HoldsLatest held records := by
    clear h
    induction records generalizing held with
    | nil => exact fun _ _ _ => trivial
    | cons record rest ih =>
      intro known hknown ⟨hrecord, hrest⟩
      refine ⟨fun handle hhandle => ?_, ih _ _ ?_ hrest⟩
      · obtain rfl | rfl := hknown
        · cases hrecord handle hhandle
        · exact hrecord handle hhandle
      · obtain ⟨call, reply⟩ := record
        cases call with
        | query selector => exact .inr (by cases reply <;> rfl)
        | currentUrl => exact hknown
        | navigate url => exact hknown
        | click handle => exact hknown
        | focus handle => exact hknown
        | setValue handle value => exact hknown
        | dispatchKey key => exact hknown
        | highlight handle style => exact hknown
  exact key none (.inl rfl) h

/-! ### What a row says about effects and handles -/

theorem Waited.effects_eq_nil {selector : Selector} {records : List CallRecord}
    {found : Option Handle} (h : Waited selector records found) : effects records = [] := by
  induction h with
  | timedOut => rfl
  | found handle => rfl
  | failed error => rfl
  | again h ih => exact ih

theorem Waited.foldl_heldAfter {selector : Selector} {records : List CallRecord}
    {found : Option Handle} (h : Waited selector records found) :
    records.foldl heldAfter none = found := by
  induction h with
  | timedOut => rfl
  | found handle => rfl
  | failed error => rfl
  | again h ih => exact ih

theorem Waited.holdsLatest {selector : Selector} {records : List CallRecord}
    {found : Option Handle} (h : Waited selector records found) (held : Option Handle) :
    HoldsLatest held records := by
  induction h generalizing held with
  | timedOut => trivial
  | found handle => exact ⟨nofun, trivial⟩
  | failed error => exact ⟨nofun, trivial⟩
  | again h ih => exact ⟨nofun, ih none⟩

theorem Waited.any_focuses {selector : Selector} {records : List CallRecord}
    {found : Option Handle} (h : Waited selector records found) (handle : Handle) :
    records.any (focuses handle) = false := by
  induction h with
  | timedOut => rfl
  | found handle => rfl
  | failed error => rfl
  | again h ih => exact ih

/-- A search changes nothing, acts on no element, and its latest query tells what it has found. -/
structure IsSearch (records : List CallRecord) (found : Option Handle) : Prop where
  effects_eq : effects records = []
  latest_eq : latest records = found
  holds : HoldsLatest none records
  unfocused : ∀ handle, records.any (focuses handle) = false

theorem Sought.isSearch {candidates : List Selector} {records : List CallRecord}
    {found : Option Handle} (h : Sought candidates records found) : IsSearch records found := by
  induction h with
  | exhausted => exact ⟨rfl, rfl, trivial, fun _ => rfl⟩
  | hit h => exact ⟨h.effects_eq_nil, h.foldl_heldAfter, h.holdsLatest none, h.any_focuses⟩
  | miss h hlater ih =>
    refine ⟨?_, ?_, holdsLatest_append.2 ⟨h.holdsLatest none, ?_⟩, fun handle => ?_⟩
    · rw [effects_append, h.effects_eq_nil, ih.effects_eq, List.nil_append]
    · rw [latest, List.foldl_append, h.foldl_heldAfter]
      exact ih.latest_eq
    · rw [h.foldl_heldAfter]
      exact ih.holds
    · rw [List.any_append, h.any_focuses, ih.unfocused, Bool.or_false]

/-- Calls that act on one element only, with their effects. -/
structure IsAction (handle : Handle) (records : List CallRecord) (made : List PageCall) : Prop where
  effects_eq : effects records = made
  held : records.foldl heldAfter (some handle) = some handle
  holds : HoldsLatest (some handle) records

theorem Marked.isAction {config : Config} {handle : Handle} {records : List CallRecord}
    (h : Marked config handle records) : IsAction handle records [] := by
  cases h with
  | off h => exact ⟨rfl, rfl, trivial⟩
  | on h reply => exact ⟨rfl, rfl, fun _ h => h ▸ rfl, trivial⟩

theorem IsAction.append {handle : Handle} {a b : List CallRecord} {made later : List PageCall}
    (ha : IsAction handle a made) (hb : IsAction handle b later) :
    IsAction handle (a ++ b) (made ++ later) where
  effects_eq := by rw [effects_append, ha.effects_eq, hb.effects_eq]
  held := by rw [List.foldl_append, ha.held, hb.held]
  holds := holdsLatest_append.2 ⟨ha.holds, ha.held.symm ▸ hb.holds⟩

/-- An action on the element that a search has just found. -/
theorem IsSearch.act {queries calls : List CallRecord} {handle : Handle} {made : List PageCall}
    (hsearch : IsSearch queries (some handle)) (hact : IsAction handle calls made) :
    effects (queries ++ calls) = made ∧ latest (queries ++ calls) = some handle ∧
      HoldsLatest none (queries ++ calls) := by
  have hheld : queries.foldl heldAfter none = some handle := hsearch.latest_eq
  refine ⟨?_, ?_, holdsLatest_append.2 ⟨hsearch.holds, ?_⟩⟩
  · rw [effects_append, hsearch.effects_eq, hact.effects_eq, List.nil_append]
  · rw [latest, List.foldl_append, hheld, hact.held]
  · rw [hheld]
    exact hact.holds

theorem Clicked.isAction {handle : Handle} {records : List CallRecord}
    (h : Clicked handle records) : IsAction handle records [.click handle] := by
  cases h with
  | intro reply => exact ⟨rfl, rfl, fun _ h => h ▸ rfl, trivial⟩

theorem Written.isAction {text : String} {handle : Handle} {records : List CallRecord}
    (h : Written text handle records) :
    IsAction handle records (.focus handle ::
      if records.any (focuses handle) then [.setValue handle text] else []) := by
  cases h with
  | unfocused error => exact ⟨rfl, rfl, fun _ h => h ▸ rfl, trivial⟩
  | focused reply =>
    have hfocused : List.any [⟨.focus handle, .ok ()⟩, ⟨.setValue handle text, reply⟩]
        (focuses handle) = true := by
      simp [focuses]
    rw [hfocused]
    exact ⟨rfl, rfl, fun _ h => h ▸ rfl, fun _ h => h ▸ rfl, trivial⟩

theorem Marked.any_focuses {config : Config} {handle : Handle} {records : List CallRecord}
    (h : Marked config handle records) (other : Handle) :
    records.any (focuses other) = false := by
  cases h <;> rfl

theorem Opened.effects_eq {target : String} {records : List CallRecord}
    (h : Opened target records) : ∃ location rest, records = ⟨.currentUrl, location⟩ :: rest ∧
      effects records = ((destination? target location).map .navigate).toList := by
  cases h with
  | stayed location h => exact ⟨location, [], rfl, by rw [h]; rfl⟩
  | went location url h reply => exact ⟨location, _, rfl, by rw [h]; rfl⟩

theorem Opened.holdsLatest {target : String} {records : List CallRecord}
    (h : Opened target records) : HoldsLatest none records := by
  cases h with
  | stayed location h => exact ⟨nofun, trivial⟩
  | went location url h reply => exact ⟨nofun, nofun, trivial⟩

/-- A row makes exactly the changes that are due. -/
theorem Row.effects_eq_due {config : Config} {vars after : Variables} {command : Command}
    {records : List CallRecord} (h : Row config vars command records after) :
    effects records = due config ⟨command, vars, records⟩ := by
  cases h with
  | store value name => rfl
  | openPage h =>
    obtain ⟨location, rest, rfl, heffects⟩ := h.effects_eq
    exact heffects
  | click h =>
    cases h with
    | missed h => rw [due, h.isSearch.latest_eq, h.isSearch.effects_eq]
    | acted h hmarks hcalls =>
      obtain ⟨heffects, hlatest, _⟩ := h.isSearch.act (hmarks.isAction.append hcalls.isAction)
      rw [due, hlatest, heffects]
      rfl
  | type h =>
    cases h with
    | missed h => rw [due, h.isSearch.latest_eq, h.isSearch.effects_eq]
    | @acted queries marks calls handle h hmarks hcalls =>
      obtain ⟨heffects, hlatest, _⟩ := h.isSearch.act (hmarks.isAction.append hcalls.isAction)
      have hfocused : (queries ++ (marks ++ calls)).any (focuses handle) =
          calls.any (focuses handle) := by
        rw [List.any_append, List.any_append, h.isSearch.unfocused, hmarks.any_focuses,
          Bool.false_or, Bool.false_or]
      rw [heffects, List.nil_append, due]
      simp only [hlatest, hfocused]
  | present h hmarks => exact (h.isSearch.act hmarks.isAction).1
  | absent h => exact h.isSearch.effects_eq
  | finish => rfl
  | keyPress h =>
    cases h with
    | escape h reply => exact (if_pos h).symm
    | other h => exact (if_neg h).symm
  | unrecognized name => rfl

/-- A row acts only on the element that its latest query has returned. -/
theorem Row.holdsLatest {config : Config} {vars after : Variables} {command : Command}
    {records : List CallRecord} (h : Row config vars command records after) :
    HoldsLatest none records := by
  cases h with
  | store value name => trivial
  | openPage h => exact h.holdsLatest
  | click h =>
    cases h with
    | missed h => exact h.isSearch.holds
    | acted h hmarks hcalls =>
      exact (h.isSearch.act (hmarks.isAction.append hcalls.isAction)).2.2
  | type h =>
    cases h with
    | missed h => exact h.isSearch.holds
    | acted h hmarks hcalls =>
      exact (h.isSearch.act (hmarks.isAction.append hcalls.isAction)).2.2
  | present h hmarks => exact (h.isSearch.act hmarks.isAction).2.2
  | absent h => exact h.isSearch.holds
  | finish => trivial
  | keyPress h =>
    cases h with
    | escape h reply => exact ⟨nofun, trivial⟩
    | other h => trivial
  | unrecognized name => trivial

theorem Follows.effects_eq {config : Config} {vars last : Variables} {deeds : List Deed}
    (h : Follows config vars deeds last) :
    effects (deeds.flatMap Deed.records) = deeds.flatMap (due config) := by
  induction h with
  | nil vars => rfl
  | cons h hrest ih =>
    rw [List.flatMap_cons, List.flatMap_cons, effects_append, ih, h.effects_eq_due]

theorem Follows.holdsLatest_of_mem {config : Config} {vars last : Variables} {deeds : List Deed}
    (h : Follows config vars deeds last) : ∀ deed ∈ deeds, HoldsLatest none deed.records := by
  induction h with
  | nil vars => exact nofun
  | cons h hrest ih =>
    intro deed hdeed
    obtain rfl | hdeed := List.mem_cons.1 hdeed
    · exact h.holdsLatest
    · exact ih deed hdeed

theorem Follows.holdsLatest {config : Config} {vars last : Variables} {deeds : List Deed}
    (h : Follows config vars deeds last) : HoldsLatest none (deeds.flatMap Deed.records) := by
  induction h with
  | nil vars => trivial
  | cons h hrest ih =>
    rw [List.flatMap_cons]
    exact holdsLatest_append.2 ⟨h.holdsLatest, ih.of_none _⟩

end Table

end BrowserReplay
