/-!
# Looking for a text inside another
-/

namespace BrowserReplay.Text

/-- Whether `word` stands somewhere in `cs`. -/
def occursIn (word : List Char) : List Char → Bool
  | [] => word.isEmpty
  | c :: cs => word.isPrefixOf (c :: cs) || occursIn word cs

def contains (s word : String) : Bool := occursIn word.toList s.toList

end BrowserReplay.Text
