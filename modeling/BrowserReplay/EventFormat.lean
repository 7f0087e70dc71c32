/-!
# Forms of event output
-/

namespace BrowserReplay

/-- How events are shown to the user: as lines of text, or as one JSON object each. -/
inductive EventFormat where
  | text
  | json
  deriving DecidableEq, Repr, Inhabited

namespace EventFormat

/-- The form with a given name, in any ASCII case; otherwise what is wrong with the name. -/
def parse (name : String) : Except String EventFormat :=
  let lower := name.map Char.toLower
  if lower = "text" then .ok .text
  else if lower = "json" then .ok .json
  else .error ("unknown event format '" ++ lower ++ "' (expected text or json)")

end EventFormat

end BrowserReplay
