import BrowserReplay.Text.Lowercase
import BrowserReplay.Text.Search

/-!
# Hiding credentials

A selector or a variable name can suggest that a value is a credential. Such a value is shown as a
fixed mask; the empty value is shown as it is.
-/

namespace BrowserReplay

def mask : String := "********"

def sensitiveWords : List String :=
  ["password", "passwd", "secret", "token", "cvv", "ssn", "card_number", "credit_card", "passport",
    "otp"]

def isSensitive (hint : String) : Bool :=
  let lower := Text.lowercase hint.toList
  sensitiveWords.any fun word => Text.occursIn word.toList lower

def maskSensitive (hint value : String) : String :=
  if value ≠ "" ∧ isSensitive hint then mask else value

/-- A value as it is shown beside a hint, hidden only if the settings ask for it. -/
def maskIf (enabled : Bool) (hint value : String) : String :=
  if enabled then maskSensitive hint value else value

end BrowserReplay
