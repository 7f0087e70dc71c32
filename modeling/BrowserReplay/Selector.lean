import BrowserReplay.Json.Record

/-!
# Selectors

A recorded selector is a text that may begin with `xpath=`, `css=` or `linkText=`; without any of
these it is an XPath. Showing a selector always writes its beginning, so showing and classifying are
inverse up to the default.
-/

namespace BrowserReplay

inductive SelectorKind where
  | xpath
  | css
  | linkText
  deriving DecidableEq, Repr, Inhabited

structure Selector where
  kind : SelectorKind
  value : String
  deriving DecidableEq, Repr, Inhabited

namespace SelectorKind

def name : SelectorKind → String
  | .xpath => "xpath"
  | .css => "css"
  | .linkText => "link_text"

def ofName? : String → Option SelectorKind
  | "xpath" => some .xpath
  | "css" => some .css
  | "link_text" => some .linkText
  | _ => none

def marker : SelectorKind → String
  | .xpath => "xpath="
  | .css => "css="
  | .linkText => "linkText="

@[simp] theorem ofName?_name (kind : SelectorKind) : ofName? kind.name = some kind := by
  cases kind <;> rfl

end SelectorKind

namespace Selector

/-- The selector that a text gives in one language, if the text begins as that language asks. -/
def stripped? (raw : String) (kind : SelectorKind) : Option Selector :=
  (kind.marker.toList.isPrefixOf? raw.toList).map fun rest => ⟨kind, String.ofList rest⟩

def parse (raw : String) : Selector :=
  match stripped? raw .xpath <|> stripped? raw .css <|> stripped? raw .linkText with
  | some selector => selector
  | none => ⟨.xpath, raw⟩

def display (selector : Selector) : String := selector.kind.marker ++ selector.value

def toJson (selector : Selector) : Json :=
  .ofFields [("kind", .text selector.kind.name), ("value", .text selector.value)]

def ofJson? (document : Json) : Option Selector :=
  match document.slots? ["kind", "value"] with
  | some [kind, value] => do
    let kind ← Json.required (fun kind => kind.choice?.bind SelectorKind.ofName?) kind
    let value ← Json.required Json.text? value
    pure ⟨kind, value⟩
  | _ => none

end Selector

end BrowserReplay
