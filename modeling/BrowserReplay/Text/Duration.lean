/-!
# Durations in messages

Times are whole milliseconds. Messages show a duration below one second in milliseconds and a longer
one in seconds, with as many of the three decimals as are needed.
-/

namespace BrowserReplay.Text

/-- The decimals of `ms` thousandths, without the zeros at the end; nothing for a whole number. -/
def decimals (ms : Nat) : String :=
  if ms % 1000 = 0 then ""
  else if ms % 100 = 0 then "." ++ toString (ms / 100 % 10)
  else if ms % 10 = 0 then "." ++ toString (ms / 100 % 10) ++ toString (ms / 10 % 10)
  else "." ++ toString (ms / 100 % 10) ++ toString (ms / 10 % 10) ++ toString (ms % 10)

/-- A duration of `ms` milliseconds as messages show it: `0ns`, `600ms`, `1.05s`. -/
def duration (ms : Nat) : String :=
  if ms = 0 then "0ns"
  else if ms < 1000 then toString ms ++ "ms"
  else toString (ms / 1000) ++ decimals ms ++ "s"

example : duration 600 = "600ms" ∧ duration 1050 = "1.05s" ∧ duration 86400000 = "86400s" := by
  decide

end BrowserReplay.Text
