import BrowserReplay.Yaml.Token

/-!
# YAML documents

The tree that the tokens of a document spell. An alias stands for the node that was given its name by
an anchor; it is kept as the number of that anchor, beside a table of the nodes with anchors, because
a node may hold an alias of itself. A missing value is the empty plain scalar.
-/

namespace BrowserReplay.Yaml

inductive Node where
  | scalar (tag : Option String) (style : ScalarStyle) (text : String)
  | sequence (items : List Node)
  | mapping (entries : List (Node × Node))
  | alias (anchor : Nat)
  deriving Repr, Inhabited

def Node.empty : Node := .scalar none .plain ""

/-- The names of the anchors met so far, and the nodes that they were given to. -/
structure Anchors where
  numbers : List (List Char × Nat) := []
  nodes : List (Nat × Node) := []
  deriving Inhabited

namespace Anchors

def number? (anchors : Anchors) (name : List Char) : Option Nat := anchors.numbers.lookup name

/-- The number that the next anchor gets: that of the names met so far. -/
def fresh (anchors : Anchors) : Nat := anchors.numbers.length

def declare (anchors : Anchors) (name : List Char) : Anchors :=
  { anchors with
    numbers := (name, anchors.fresh) :: anchors.numbers.filter (·.1 ≠ name) }

/-- Keeps the node of an anchor, in front of those of the anchors inside it: the nodes are in the
order in which their anchors were met. -/
def bind (anchors : Anchors) (before number : Nat) (node : Node) : Anchors :=
  { anchors with
    nodes := anchors.nodes.take before ++ (number, node) :: anchors.nodes.drop before }

end Anchors

structure Document where
  root : Option Node
  anchors : Anchors := {}
  deriving Inhabited

namespace Document

/-- The node that an alias stands for: of several with one number, that of the last anchor. -/
def resolve? (document : Document) (anchor : Nat) : Option Node :=
  document.anchors.nodes.reverse.lookup anchor

end Document

/-! ### Reading nodes -/

abbrev TagPrefixes := List (List Char × List Char)

def defaultPrefixes : TagPrefixes :=
  [(['!'], ['!']), (['!', '!'], "tag:yaml.org,2002:".toList)]

def TagName.resolve? (agreed : TagPrefixes) (name : TagName) : Option String :=
  if name.handle.isEmpty then some (String.ofList name.suffix)
  else (agreed.lookup name.handle).map fun start => String.ofList (start ++ name.suffix)

/-- The anchor and the tag in front of a node, in either order. -/
structure Properties where
  anchor : Option (List Char) := none
  tag : Option TagName := none
  deriving DecidableEq, Repr, Inhabited

def properties : List Token → Properties × List Token
  | .anchor name :: .tag tag :: rest => (⟨some name, some tag⟩, rest)
  | .tag tag :: .anchor name :: rest => (⟨some name, some tag⟩, rest)
  | .anchor name :: rest => (⟨some name, none⟩, rest)
  | .tag tag :: rest => (⟨none, some tag⟩, rest)
  | tokens => ({}, tokens)

inductive Place where
  | block
  /-- A key or value of a block mapping, which may be a sequence without an indentation of its own. -/
  | mappingPart
  | flow
  deriving DecidableEq, Repr

def lacksPart : List Token → Bool
  | .key :: _ | .value :: _ | .blockEnd :: _ => true
  | _ => false

def lacksItem : List Token → Bool
  | .blockEntry :: _ | .blockEnd :: _ => true
  | _ => false

/-- Whether an item of a block sequence without an indentation of its own is missing. -/
def lacksLooseItem : List Token → Bool
  | .blockEntry :: _ | .key :: _ | .value :: _ | .blockEnd :: _ => true
  | _ => false

def lacksFlowKey : List Token → Bool
  | .value :: _ | .flowEntry :: _ | .flowMappingEnd :: _ => true
  | _ => false

def lacksFlowValue : List Token → Bool
  | .flowEntry :: _ | .flowMappingEnd :: _ => true
  | _ => false

def lacksPairValue : List Token → Bool
  | .flowEntry :: _ | .flowSequenceEnd :: _ => true
  | _ => false

abbrev NodeRead := Node × Anchors × List Token

mutual
def readNode (agreed : TagPrefixes) (place : Place) (anchors : Anchors) (tokens : List Token) :
    (fuel : Nat) → Option NodeRead
  | 0 => none
  | fuel + 1 =>
    match tokens with
    | .alias name :: rest => (anchors.number? name).map fun number => (.alias number, anchors, rest)
    | _ => do
      let (props, tokens) := properties tokens
      let tag ← match props.tag with
        | some name => (name.resolve? agreed).map some
        | none => some none
      let number := anchors.fresh
      let before := anchors.nodes.length
      let declared := props.anchor.elim anchors anchors.declare
      let (node, anchors, tokens) ←
        readContent agreed place (props ≠ {}) tag declared tokens fuel
      pure (node, if props.anchor.isSome then anchors.bind before number node else anchors,
        tokens)

def readContent (agreed : TagPrefixes) (place : Place) (marked : Bool) (tag : Option String)
    (anchors : Anchors) (tokens : List Token) : (fuel : Nat) → Option NodeRead
  | 0 => none
  | fuel + 1 =>
    match tokens with
    | .scalar text style :: rest => some (.scalar tag style (String.ofList text), anchors, rest)
    | .flowSequenceStart :: rest => readFlowItems agreed true [] anchors rest fuel
    | .flowMappingStart :: rest => readFlowEntries agreed true [] anchors rest fuel
    | .blockSequenceStart :: rest =>
      if place = .flow then missing else readItems agreed [] anchors rest fuel
    | .blockMappingStart :: rest =>
      if place = .flow then missing else readEntries agreed [] anchors rest fuel
    | .blockEntry :: _ =>
      if place = .mappingPart then readLooseItems agreed [] anchors tokens fuel else missing
    | _ => missing
where
  /-- A node with nothing but an anchor or a tag. -/
  missing : Option NodeRead :=
    if marked then some (.scalar tag .plain "", anchors, tokens) else none

def readItems (agreed : TagPrefixes) (items : List Node) (anchors : Anchors)
    (tokens : List Token) : (fuel : Nat) → Option NodeRead
  | 0 => none
  | fuel + 1 =>
    match tokens with
    | .blockEntry :: rest =>
      if lacksItem rest then readItems agreed (items ++ [.empty]) anchors rest fuel
      else do
        let (item, anchors, rest) ← readNode agreed .block anchors rest fuel
        readItems agreed (items ++ [item]) anchors rest fuel
    | .blockEnd :: rest => some (.sequence items, anchors, rest)
    | _ => none

def readLooseItems (agreed : TagPrefixes) (items : List Node) (anchors : Anchors)
    (tokens : List Token) : (fuel : Nat) → Option NodeRead
  | 0 => none
  | fuel + 1 =>
    match tokens with
    | .blockEntry :: rest =>
      if lacksLooseItem rest then readLooseItems agreed (items ++ [.empty]) anchors rest fuel
      else do
        let (item, anchors, rest) ← readNode agreed .block anchors rest fuel
        readLooseItems agreed (items ++ [item]) anchors rest fuel
    | _ => some (.sequence items, anchors, tokens)

def readEntries (agreed : TagPrefixes) (entries : List (Node × Node)) (anchors : Anchors)
    (tokens : List Token) : (fuel : Nat) → Option NodeRead
  | 0 => none
  | fuel + 1 =>
    match tokens with
    | .key :: rest => do
      let (key, anchors, rest) ←
        if lacksPart rest then some (.empty, anchors, rest)
        else readNode agreed .mappingPart anchors rest fuel
      let (value, anchors, rest) ← readValue agreed anchors rest fuel
      readEntries agreed (entries ++ [(key, value)]) anchors rest fuel
    | .blockEnd :: rest => some (.mapping entries, anchors, rest)
    | _ => none

def readValue (agreed : TagPrefixes) (anchors : Anchors) (tokens : List Token) :
    (fuel : Nat) → Option NodeRead
  | 0 => none
  | fuel + 1 =>
    match tokens with
    | .value :: rest =>
      if lacksPart rest then some (.empty, anchors, rest)
      else readNode agreed .mappingPart anchors rest fuel
    | _ => some (.empty, anchors, tokens)

/-- Reads the items of a flow sequence. An item may be a pair, which is a mapping of its own. -/
def readFlowItems (agreed : TagPrefixes) (first : Bool) (items : List Node) (anchors : Anchors)
    (tokens : List Token) : (fuel : Nat) → Option NodeRead
  | 0 => none
  | fuel + 1 =>
    match first, tokens with
    | _, .flowSequenceEnd :: rest => some (.sequence items, anchors, rest)
    | true, tokens => readFlowItem agreed items anchors tokens fuel
    | false, .flowEntry :: .flowSequenceEnd :: rest => some (.sequence items, anchors, rest)
    | false, .flowEntry :: rest => readFlowItem agreed items anchors rest fuel
    | false, _ => none

def readFlowItem (agreed : TagPrefixes) (items : List Node) (anchors : Anchors)
    (tokens : List Token) : (fuel : Nat) → Option NodeRead
  | 0 => none
  | fuel + 1 =>
    match tokens with
    | .key :: rest => do
      let (key, anchors, rest) ←
        match rest with
        | .value :: rest | .flowEntry :: rest | .flowSequenceEnd :: rest =>
          some (.empty, anchors, rest)
        | _ => readNode agreed .flow anchors rest fuel
      let (value, anchors, rest) ←
        match rest with
        | .value :: rest =>
          if lacksPairValue rest then some (.empty, anchors, rest)
          else readNode agreed .flow anchors rest fuel
        | _ => some (.empty, anchors, rest)
      readFlowItems agreed false (items ++ [.mapping [(key, value)]]) anchors rest fuel
    | _ => do
      let (item, anchors, rest) ← readNode agreed .flow anchors tokens fuel
      readFlowItems agreed false (items ++ [item]) anchors rest fuel

def readFlowEntries (agreed : TagPrefixes) (first : Bool) (entries : List (Node × Node))
    (anchors : Anchors) (tokens : List Token) : (fuel : Nat) → Option NodeRead
  | 0 => none
  | fuel + 1 =>
    match first, tokens with
    | _, .flowMappingEnd :: rest => some (.mapping entries, anchors, rest)
    | true, tokens => readFlowEntry agreed entries anchors tokens fuel
    | false, .flowEntry :: .flowMappingEnd :: rest => some (.mapping entries, anchors, rest)
    | false, .flowEntry :: rest => readFlowEntry agreed entries anchors rest fuel
    | false, _ => none

/-- Reads one entry of a flow mapping and those after it. A node without a mark is a key without a
value. -/
def readFlowEntry (agreed : TagPrefixes) (entries : List (Node × Node)) (anchors : Anchors)
    (tokens : List Token) : (fuel : Nat) → Option NodeRead
  | 0 => none
  | fuel + 1 =>
    match tokens with
    | .key :: rest => do
      let (key, anchors, rest) ←
        if lacksFlowKey rest then some (.empty, anchors, rest)
        else readNode agreed .flow anchors rest fuel
      let (value, anchors, rest) ←
        match rest with
        | .value :: rest =>
          if lacksFlowValue rest then some (.empty, anchors, rest)
          else readNode agreed .flow anchors rest fuel
        | _ => some (.empty, anchors, rest)
      readFlowEntries agreed false (entries ++ [(key, value)]) anchors rest fuel
    | _ => do
      let (key, anchors, rest) ← readNode agreed .flow anchors tokens fuel
      readFlowEntries agreed false (entries ++ [(key, .empty)]) anchors rest fuel
end

/-! ### Reading a text -/

/-- Reads the directives in front of a document. There may be one version, which must be known, and
one meaning for each beginning of a tag. -/
def directives? (versioned : Bool) (agreed : TagPrefixes) :
    List Token → Option (TagPrefixes × List Token)
  | .version major minor :: rest =>
    if versioned || major != 1 || (minor != 1 && minor != 2) then none
    else directives? true agreed rest
  | .tagPrefix handle replacement :: rest =>
    if agreed.any (·.1 = handle) then none
    else directives? versioned ((handle, replacement) :: agreed) rest
  | tokens =>
    let missing := defaultPrefixes.filter fun (handle, _) => !agreed.any (·.1 = handle)
    some (agreed ++ missing, tokens)

/-- Whether nothing follows a document, apart from marks of its end. -/
def isOver (tokens : List Token) : Bool := tokens.all (· = .documentEnd)

/-- The root of a document after the mark of its beginning; the empty scalar if nothing is there. -/
def readRoot (agreed : TagPrefixes) (tokens : List Token) : Option NodeRead :=
  match tokens with
  | [] | .version _ _ :: _ | .tagPrefix _ _ :: _ | .documentStart :: _ | .documentEnd :: _ =>
    some (.empty, {}, tokens)
  | _ => readNode agreed .block {} tokens (4 * tokens.length + 4)

/-- The only document of a text. A text without any contents holds a document without a root. -/
def parse? (text : String) : Option Document := do
  let tokens ← tokens? text.toList
  match tokens with
  | [] => pure { root := none }
  | .version _ _ :: _ | .tagPrefix _ _ :: _ | .documentStart :: _ => do
    let (agreed, tokens) ← directives? false [] tokens
    let .documentStart :: tokens := tokens | none
    let (root, anchors, rest) ← readRoot agreed tokens
    if isOver rest then pure { root := some root, anchors } else none
  | _ => do
    let (root, anchors, rest) ← readNode defaultPrefixes .block {} tokens (4 * tokens.length + 4)
    if isOver rest then pure { root := some root, anchors } else none

end BrowserReplay.Yaml
