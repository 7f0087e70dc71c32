import BrowserReplay.Url.Parser

/-!
# Locations

Where an `open` command leads, and whether two locations are the same page. A text that is no URL
stands for itself.
-/

namespace BrowserReplay

/-- The place that `target` means on the page at `current`: a whole URL, or one relative to that
page, in normal form. -/
def resolveLocation (current : Option String) (target : String) : String :=
  match Url.parse target with
  | .ok url => url.href
  | .error _ =>
    match current.map Url.parse with
    | some (.ok base) =>
      match base.join target with
      | .ok url => url.href
      | .error _ => target
    | _ => target

def sameLocation (a b : String) : Bool :=
  match Url.parse a, Url.parse b with
  | .ok x, .ok y => x = y
  | _, _ => a = b

end BrowserReplay
