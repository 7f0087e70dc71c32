import BrowserReplay.Chromium
import BrowserReplay.Remote.Unreachable
import BrowserReplay.Tool
import BrowserReplay.WebDriver

/-!
# The command line

The program is the tool that it is named for. It reads its arguments and launches the browser that
they ask for. The library has no client that speaks to a real browser: that end of the connection
counts as out of reach, and a launch says so.
-/

namespace BrowserReplay

def noClient : String := "there is no client for browsers"

def Tool.Job.endWithoutClient (job : Tool.Job) : Option ExitStatus × Option String :=
  -- No page answers, so there is nothing to be said of an answer.
  let _ : Bridge.Wording := ⟨fun _ => noClient⟩
  match job.peer with
  | .webDriver url =>
    let ended := (WebDriver.backend (unreachable _ noClient) { url }).run {} job.options []
      { party := () }
    (ended.status, ended.complaint)
  | .chromium visible =>
    let ended := (Chromium.backend (unreachable _ noClient) { visible }).run {} job.options []
      { browser := { party := () } }
    (ended.status, ended.complaint)

def Tool.main (tool : Tool) (arguments : List String) : IO Nat := do
  match tool.job arguments with
  | .error stop =>
    IO.print (tool.answer stop)
    return stop.status.code
  | .ok job =>
    let (status, complaint) := job.endWithoutClient
    for text in complaint do IO.eprintln text
    return (status.getD .failure).code

end BrowserReplay

def main (arguments : List String) : IO UInt32 := do
  let path ← IO.appPath
  let tool := ((path.fileStem.bind BrowserReplay.Tool.ofName?).getD .general)
  return (← tool.main arguments).toUInt32
