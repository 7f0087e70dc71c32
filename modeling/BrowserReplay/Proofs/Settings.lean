import BrowserReplay.Proofs.FlowTokens

/-!
# Settings that are written

Ten settings stand in five parts of a settings file. A file writes some of them (`Describes`), each
in its part, parts and settings in any order and among any others (`Merges`). Then exactly the
settings it writes have the values written, and the others have their defaults
(`settings_merge_field_by_field`). A file in flow style describes what its tree writes
(`describes_write`).
-/

namespace BrowserReplay

open Yaml

namespace Config

inductive Part where
  | timing
  | highlight
  | keys
  | navigation
  | logging
  deriving DecidableEq, Repr

inductive Setting where
  | commandDelay
  | waitTimeout
  | pollInterval
  | enabled
  | color
  | duration
  | command
  | escapeToken
  | continueAfterOpen
  | maskSensitive
  deriving DecidableEq, Repr

def Part.name : Part → String
  | .timing => "timing"
  | .highlight => "highlight"
  | .keys => "keys"
  | .navigation => "navigation"
  | .logging => "logging"

namespace Setting

def part : Setting → Part
  | .commandDelay | .waitTimeout | .pollInterval => .timing
  | .enabled | .color | .duration => .highlight
  | .command | .escapeToken => .keys
  | .continueAfterOpen => .navigation
  | .maskSensitive => .logging

def name : Setting → String
  | .commandDelay => "command_delay_ms"
  | .waitTimeout => "wait_timeout_ms"
  | .pollInterval => "poll_interval_ms"
  | .enabled => "enabled"
  | .color => "color"
  | .duration => "duration_ms"
  | .command => "command"
  | .escapeToken => "escape_token"
  | .continueAfterOpen => "continue_after_open"
  | .maskSensitive => "mask_sensitive"

abbrev kind : Setting → Kind
  | .commandDelay | .waitTimeout | .pollInterval | .duration => .word
  | .enabled | .continueAfterOpen | .maskSensitive => .truth
  | .color | .command | .escapeToken => .text

end Setting

abbrev Values := (setting : Setting) → setting.kind.Value

abbrev Given := (setting : Setting) → Option setting.kind.Value

def get (config : Config) : Values
  | .commandDelay => config.timing.commandDelay
  | .waitTimeout => config.timing.waitTimeout
  | .pollInterval => config.timing.pollInterval
  | .enabled => config.highlight.enabled
  | .color => config.highlight.color
  | .duration => config.highlight.duration
  | .command => config.keys.command
  | .escapeToken => config.keys.escapeToken
  | .continueAfterOpen => config.navigation.continueAfterOpen
  | .maskSensitive => config.logging.maskSensitive

def ofValues (values : Values) : Config where
  timing := {
    commandDelay := values .commandDelay, waitTimeout := values .waitTimeout,
    pollInterval := values .pollInterval }
  highlight := ⟨values .enabled, values .color, values .duration⟩
  keys := ⟨values .command, values .escapeToken⟩
  navigation := ⟨values .continueAfterOpen⟩
  logging := ⟨values .maskSensitive⟩

@[simp] theorem get_ofValues (values : Values) (setting : Setting) :
    (ofValues values).get setting = values setting := by
  cases setting <;> rfl

def Given.complete (given : Given) : Values :=
  fun setting => (given setting).getD (get {} setting)

variable {α : Type} {document : Document} {node : Node} {given : Given}

/-- A reading that goes on after a value is read. -/
theorem bind_eq_some {β : Type} {x : Option α} {f : α → Option β} {a : α} {b : β}
    (hx : x = some a) (hf : f a = some b) : x >>= f = some b := by
  rw [hx]
  exact hf

/-! ### Parts -/

namespace Part

abbrev Value : Part → Type
  | .timing => Timing
  | .highlight => Highlight
  | .keys => Keys
  | .navigation => Navigation
  | .logging => Logging

def get (config : Config) : (part : Part) → part.Value
  | .timing => config.timing
  | .highlight => config.highlight
  | .keys => config.keys
  | .navigation => config.navigation
  | .logging => config.logging

def ofNode? (document : Document) : (part : Part) → Node → Option part.Value
  | .timing => Timing.ofNode? document
  | .highlight => Highlight.ofNode? document
  | .keys => Keys.ofNode? document
  | .navigation => Navigation.ofNode? document
  | .logging => Logging.ofNode? document

/-- The fields write those of the given settings that stand in the part. -/
def Gives (writes : (kind : Kind) → kind.Value → α → Prop) (given : Given) (part : Part)
    (fields : List (String × α)) : Prop :=
  ∀ setting : Setting, setting.part = part →
    Holds (writes setting.kind) setting.name fields (given setting)

theorem Gives.field?_eq {part : Part} {fields : List (String × Node)}
    (h : part.Gives (Kind.Writes document) given fields) (setting : Setting)
    (hpart : setting.part = part) :
    field? fields setting.name (setting.kind.read? document) (Config.get {} setting) =
      some (given.complete setting) := by
  have hvalue : field? fields setting.name (setting.kind.read? document) (Config.get {} setting) =
      some ((given setting).elim (Config.get {} setting) id) :=
    field?_of_holds (h setting hpart) fun _ _ _ => Kind.read?_of_writes
  rw [hvalue, Given.complete]
  cases given setting <;> rfl

theorem ofNode?_of_gives {part : Part} {fields : List (String × Node)}
    (hlists : Lists document node fields) (h : part.Gives (Kind.Writes document) given fields) :
    part.ofNode? document node = some (part.get (ofValues given.complete)) := by
  have hfields := fields?_of_lists hlists
  have hread := h.field?_eq
  cases part with
  | timing =>
    exact bind_eq_some hfields (bind_eq_some (hread .commandDelay rfl)
      (bind_eq_some (hread .waitTimeout rfl) (bind_eq_some (hread .pollInterval rfl) rfl)))
  | highlight =>
    exact bind_eq_some hfields (bind_eq_some (hread .enabled rfl)
      (bind_eq_some (hread .color rfl) (bind_eq_some (hread .duration rfl) rfl)))
  | keys =>
    exact bind_eq_some hfields (bind_eq_some (hread .command rfl)
      (bind_eq_some (hread .escapeToken rfl) rfl))
  | navigation => exact bind_eq_some hfields (bind_eq_some (hread .continueAfterOpen rfl) rfl)
  | logging => exact bind_eq_some hfields (bind_eq_some (hread .maskSensitive rfl) rfl)

/-- What a part has depends on the settings that stand in it. -/
theorem get_congr {part : Part} {values others : Values}
    (h : ∀ setting : Setting, setting.part = part → values setting = others setting) :
    part.get (ofValues values) = part.get (ofValues others) := by
  cases part with
  | timing =>
    simp only [get, ofValues, h .commandDelay rfl, h .waitTimeout rfl, h .pollInterval rfl]
  | highlight => simp only [get, ofValues, h .enabled rfl, h .color rfl, h .duration rfl]
  | keys => simp only [get, ofValues, h .command rfl, h .escapeToken rfl]
  | navigation => simp only [get, ofValues, h .continueAfterOpen rfl]
  | logging => simp only [get, ofValues, h .maskSensitive rfl]

/-- A part is read, or has its defaults if it is missing. Either way its other settings have
theirs. -/
theorem field?_of_gives {part : Part} {parts : List (String × Node)}
    {fields : Option (List (String × Node))}
    (hholds : Holds (fun fields node => Lists document node fields) part.name parts fields)
    (h : part.Gives (Kind.Writes document) given (fields.getD [])) :
    field? parts part.name (part.ofNode? document) (part.get {}) =
      some (part.get (ofValues given.complete)) := by
  have hvalue : field? parts part.name (part.ofNode? document) (part.get {}) =
      some (fields.elim (part.get {}) fun _ => part.get (ofValues given.complete)) := by
    refine field?_of_holds hholds fun own hown node hlists => ofNode?_of_gives hlists ?_
    rwa [Option.mem_def.1 hown] at h
  rw [hvalue]
  cases fields with
  | some fields => rfl
  | none =>
    have hdefault (setting : Setting) (hpart : setting.part = part) :
        Config.get {} setting = given.complete setting := by
      rw [Given.complete, eq_none_of_holds_nil (h setting hpart), Option.getD_none]
    exact congrArg some (get_congr hdefault)

end Part

/-! ### Whole files -/

/-- The parts write the given settings and no others: each part stands at most once and in any
order, and among any other names, and so do the settings in it. A part that is missing is as good as
one without fields. -/
def Merges (lists : List (String × α) → α → Prop) (writes : (kind : Kind) → kind.Value → α → Prop)
    (given : Given) (parts : List (String × α)) : Prop :=
  ∀ part : Part, ∃ fields, Holds lists part.name parts fields ∧
    part.Gives writes given (fields.getD [])

/-- The node writes the given settings and no others. -/
def Writes (document : Document) (given : Given) (root : Node) : Prop :=
  ∃ parts, Lists document root parts ∧
    Merges (fun fields node => Lists document node fields) (Kind.Writes document) given parts

/-- The text writes the given settings and no others. A text without contents writes none. -/
inductive Describes (text : String) (given : Given) : Prop
  | blank (hblank : Text.isAllBlank text = true) (hgiven : ∀ setting, given setting = none)
  | rootless {document : Document} (hblank : Text.isAllBlank text = false)
      (hparse : Yaml.parse? text = some document) (hroot : document.root = none)
      (hgiven : ∀ setting, given setting = none)
  | mapping {document : Document} {root : Node} (hblank : Text.isAllBlank text = false)
      (hparse : Yaml.parse? text = some document) (hroot : document.root = some root)
      (hwrites : Writes document given root)

theorem ofNode?_of_writes {root : Node} (h : Writes document given root) :
    ofNode? document root = some (ofValues given.complete) := by
  obtain ⟨parts, hlists, hparts⟩ := h
  have hread (part : Part) : field? parts part.name (part.ofNode? document) (part.get {}) =
      some (part.get (ofValues given.complete)) := by
    obtain ⟨fields, hholds, hgives⟩ := hparts part
    exact Part.field?_of_gives hholds hgives
  exact bind_eq_some (fields?_of_lists hlists) (bind_eq_some (hread .timing)
    (bind_eq_some (hread .highlight) (bind_eq_some (hread .keys)
      (bind_eq_some (hread .navigation) (bind_eq_some (hread .logging) rfl)))))

theorem parse?_of_describes {text : String} (h : Describes text given) :
    parse? text = some (ofValues given.complete) := by
  have hdefaults (hgiven : ∀ setting, given setting = none) :
      ({} : Config) = ofValues given.complete := by
    simp only [ofValues, Given.complete, hgiven, Option.getD_none]
    rfl
  cases h with
  | blank hblank hgiven => rw [parse?, if_pos hblank, hdefaults hgiven]
  | rootless hblank hparse hroot hgiven =>
    rw [parse?, hblank, hparse, if_neg Bool.false_ne_true, Option.bind_some, ofDocument?, hroot,
      hdefaults hgiven]
  | mapping hblank hparse hroot hwrites =>
    rw [parse?, hblank, hparse, if_neg Bool.false_ne_true, Option.bind_some, ofDocument?, hroot]
    exact ofNode?_of_writes hwrites

/-! ### Files in flow style -/

theorem Merges.map {β : Type} {parts : List (String × α)} {lists : List (String × α) → α → Prop}
    {listsLater : List (String × β) → β → Prop} {writes : (kind : Kind) → kind.Value → α → Prop}
    {writesLater : (kind : Kind) → kind.Value → β → Prop} {f : α → β}
    (h : Merges lists writes given parts)
    (hlists : ∀ fields part, lists fields part → listsLater (fields.map (Prod.map id f)) (f part))
    (hwrites : ∀ kind value x, writes kind value x → writesLater kind value (f x)) :
    Merges listsLater writesLater given (parts.map (Prod.map id f)) := by
  intro part
  obtain ⟨fields, hholds, hgives⟩ := h part
  have hfields : (fields.map (List.map (Prod.map id f))).getD [] =
      (fields.getD []).map (Prod.map id f) := Option.getD_map _ [] fields
  refine ⟨_, hholds.map (List.map (Prod.map id f)) hlists, fun setting hpart => ?_⟩
  have hlater := (hgives setting hpart).map id (hwrites setting.kind)
  rwa [hfields, ← Option.map_id_apply (x := given setting)]

/-- The parts of a tree write the given settings and no others. -/
def TreeWrites (given : Given) (parts : List (String × Tree)) : Prop :=
  Merges (fun fields tree => tree = .mapping fields) Kind.WritesTree given parts

theorem writes_node {parts : List (String × Tree)} (h : TreeWrites given parts) :
    Writes document given (Tree.mapping parts).node := by
  refine ⟨_, Tree.lists_node parts, h.map ?_ fun _ _ _ => Kind.writes_node⟩
  rintro fields _ rfl
  exact Tree.lists_node fields

theorem describes_write {parts : List (String × Tree)} (hfits : Tree.EntriesFit parts)
    (h : TreeWrites given parts) :
    Describes (String.ofList (Tree.mapping parts).write) given := by
  have hblank : Text.isAllBlank (String.ofList (Tree.mapping parts).write) = false := by
    rw [Text.isAllBlank, String.toList_ofList]
    rfl
  exact .mapping hblank (Yaml.parse?_write hfits) rfl (writes_node h)

/-- A file that writes some settings is read, each setting that it writes has the value written, and
each other one has its default. So what a file says about one setting is independent of what it says
about the others. The text of a tree in flow style writes what the tree writes. -/
theorem settings_merge_field_by_field :
    (∀ text given, Describes text given → ∃ config, parse? text = some config ∧
      ∀ setting, config.get setting = (given setting).getD (get {} setting)) ∧
    (∀ text text' given given', Describes text given → Describes text' given' →
      ∀ setting, given setting = given' setting →
        (parse? text).map (·.get setting) = (parse? text').map (·.get setting)) ∧
    ∀ parts given, Tree.EntriesFit parts → TreeWrites given parts →
      Describes (String.ofList (Tree.mapping parts).write) given := by
  refine ⟨fun text given h => ⟨_, parse?_of_describes h, get_ofValues _⟩,
    fun text text' given given' h h' setting hsame => ?_, fun _ _ => describes_write⟩
  rw [parse?_of_describes h, parse?_of_describes h', Option.map_some, Option.map_some,
    get_ofValues, get_ofValues, Given.complete, Given.complete, hsame]

/-- Here a file writes two settings, among two names that mean nothing. Another one, in flow style,
writes one of the two, and they agree on it. -/
theorem two_settings_are_written :
    let text := "shade: 3\nlogging:\ntiming: \x7bpoll_interval_ms: 0x32, pace: [1]\x7d\n" ++
      "highlight:\n  color: \"#0f0\"\n"
    let given : Given := fun
      | .pollInterval => some (50 : Nat)
      | .color => some "#0f0"
      | _ => none
    let timing : List (String × Tree) :=
      [("poll_interval_ms", .word ['5', '0']), ("pace: ", .text "é")]
    let flow := String.ofList (Tree.mapping [("timing", .mapping timing)]).write
    Describes text given ∧ (∃ config, parse? text = some config ∧
      config.get .pollInterval = (50 : Nat) ∧ config.get .color = "#0f0" ∧
      config.get .duration = (1500 : Nat)) ∧
    (parse? flow).map (·.get .pollInterval) = (parse? text).map (·.get .pollInterval) := by
  intro text given fields flow
  have htokens : tokens? text.toList = some
      [.blockMappingStart, .key, .scalar "shade".toList .plain, .value, .scalar ['3'] .plain,
        .key, .scalar "logging".toList .plain, .value,
        .key, .scalar "timing".toList .plain, .value, .flowMappingStart,
          .key, .scalar "poll_interval_ms".toList .plain, .value, .scalar "0x32".toList .plain,
          .flowEntry,
          .key, .scalar "pace".toList .plain, .value, .flowSequenceStart, .scalar ['1'] .plain,
            .flowSequenceEnd, .flowMappingEnd,
        .key, .scalar "highlight".toList .plain, .value, .blockMappingStart,
          .key, .scalar "color".toList .plain, .value, .scalar "#0f0".toList .quoted, .blockEnd,
        .blockEnd] := by
    decide +kernel
  let plain (text : String) : Node := .scalar none .plain text
  let timing : List (String × Node) :=
    [("poll_interval_ms", plain "0x32"), ("pace", .sequence [plain "1"])]
  let highlight : List (String × Node) := [("color", .scalar none .quoted "#0f0")]
  let mapping (fields : List (String × Node)) : Node :=
    .mapping (fields.map (Prod.map plain id))
  let parts : List (String × Node) :=
    [("shade", plain "3"), ("logging", plain ""), ("timing", mapping timing),
      ("highlight", mapping highlight)]
  have hparse : Yaml.parse? text = some { root := some (mapping parts) } := by
    rw [Yaml.parse?, htokens]
    cbv
  have hlists (fields : List (String × Node)) :
      Lists { root := some (mapping parts) } (mapping fields) fields := by
    refine .mapping rfl ?_
    rw [List.forall₂_map_left_iff, List.forall₂_same]
    exact fun field _ => ⟨⟨none, .plain, rfl⟩, rfl⟩
  have hwrites : Writes { root := some (mapping parts) } given (mapping parts) := by
    refine ⟨parts, hlists parts, fun part => ?_⟩
    cases part with
    | timing =>
      refine ⟨some timing, @Holds.once _ _ _ _ (parts.take 2) (parts.drop 3) _ timing (by decide)
        (by decide) (hlists timing), fun setting hpart => ?_⟩
      cases setting <;> cases hpart
      · exact .absent (by decide)
      · exact .absent (by decide)
      · exact @Holds.once _ _ _ _ [] (timing.drop 1) _ (50 : Nat) (by decide) (by decide)
          ⟨_, .hexadecimal, by decide, none, rfl⟩
    | highlight =>
      refine ⟨some highlight, @Holds.once _ _ _ _ (parts.take 3) [] _ highlight (by decide)
        (by decide) (hlists highlight), fun setting hpart => ?_⟩
      cases setting <;> cases hpart
      · exact .absent (by decide)
      · exact @Holds.once _ _ _ _ [] [] _ "#0f0" (by decide) (by decide) ⟨none, .quoted, rfl⟩
      · exact .absent (by decide)
    | keys | navigation =>
      refine ⟨none, .absent (by decide), fun setting hpart => ?_⟩
      cases setting <;> cases hpart <;> exact .absent (by decide)
    | logging =>
      refine ⟨some [], @Holds.once _ _ _ _ (parts.take 1) (parts.drop 2) _ [] (by decide)
        (by decide) (.empty ⟨none, rfl⟩), fun setting hpart => ?_⟩
      cases setting <;> cases hpart
      exact .absent (by decide)
  have hdescribes : Describes text given := .mapping (by decide +kernel) hparse rfl hwrites
  let givenFlow : Given := Function.update (fun _ => none) .pollInterval (some (50 : Nat))
  have hfits : Tree.EntriesFit [("timing", .mapping fields)] := by
    simp [fields, Tree.EntriesFit, Tree.Fits]
  have hflow : TreeWrites givenFlow [("timing", .mapping fields)] := by
    intro part
    cases part with
    | timing =>
      refine ⟨some fields, @Holds.once _ _ _ _ [] [] _ fields (by decide) (by decide) rfl,
        fun setting hpart => ?_⟩
      cases setting <;> cases hpart
      · exact .absent (by decide)
      · exact .absent (by decide)
      · exact @Holds.once _ _ _ _ [] (fields.drop 1) _ (50 : Nat) (by decide) (by decide)
          ⟨by decide, _, .decimal, rfl⟩
    | _ =>
      refine ⟨none, .absent (by decide), fun setting hpart => ?_⟩
      cases setting <;> cases hpart <;> exact .absent (by decide)
  obtain ⟨hread, hagree, hwritten⟩ := settings_merge_field_by_field
  obtain ⟨config, hconfig, hget⟩ := hread text given hdescribes
  exact ⟨hdescribes, ⟨config, hconfig, hget .pollInterval, hget .color, hget .duration⟩,
    hagree _ _ _ _ (hwritten _ _ hfits hflow) hdescribes .pollInterval rfl⟩

end Config

end BrowserReplay
