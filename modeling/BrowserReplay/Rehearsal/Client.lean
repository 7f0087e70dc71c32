import BrowserReplay.Chromium
import BrowserReplay.Url.Parser
import BrowserReplay.WebDriver

/-!
# Rehearsal clients

Browser clients made up for trying out what is done with one. They answer from a list, one entry for
each call that reads the page or acts on it, and fail when the list is used up. Making and ending a
connection succeeds unless it is set to fail.
-/

namespace BrowserReplay.Rehearsal

instance : Bridge.Wording where
  unreadable _ := "the answer has an unexpected form"

inductive Reply where
  | value (value : Json)
  | nothing
  | failure (message : String)
  | silence

namespace Reply

/-- What the answer is to one who needs what `read?` finds in it; `missing` answers for the lack of
a value. -/
def answer {α : Type} (read : Json → α) (missing : Answer α) : Reply → Answer α
  | .value given => .value (read given)
  | .nothing => missing
  | .failure message => .failure message
  | .silence => .silence

def done : Reply → Answer Unit := answer (fun _ => ()) (.value ())

def text : Reply → Answer String := answer (fun value => value.text?.getD "") (.value "")

def text? : Reply → Answer (Option String) := answer Json.text? (.value none)

end Reply

def usedUp : String := "no more answers"

def next : List Reply → Reply × List Reply
  | [] => (.failure usedUp, [])
  | reply :: rest => (reply, rest)

/-- The answer of something that succeeds unless there is trouble. -/
def succeedOr : Option String → Answer Unit
  | some message => .failure message
  | none => .value ()

/-! ### WebDriver -/

structure WebDriverClient where
  replies : List Reply
  refusal : Option String := none

/-- A location as the client gives it: in normal form, or with the fault that it has. -/
def locationAnswer : Answer String → Answer String
  | .value text =>
    match Url.parse text with
    | .ok url => .value url.href
    | .error error => .failure error.message
  | answer => answer

def respondWebDriver : PartyModel WebDriver.interface WebDriverClient := fun client call =>
  let (reply, rest) := next client.replies
  let later := { client with replies := rest }
  match call with
  | .connect .. => ⟨client, succeedOr client.refusal⟩
  | .execute .. => ⟨later, reply.answer id (.value .null)⟩
  | .title => ⟨later, reply.text⟩
  | .currentUrl => ⟨later, locationAnswer reply.text⟩
  | .goto _ => ⟨later, reply.done⟩
  | .close => ⟨later, reply.done⟩

/-! ### Chromium -/

inductive Trouble where
  | configure
  | start
  | newPage
  | listenToConsole
  | listenToDialogs
  | acceptDialog
  | close
  deriving DecidableEq, Repr, Inhabited

structure ChromiumClient where
  replies : List Reply
  troubles : List (Trouble × String) := []
  dialogs : List String := []
  accepted : Nat := 0

def respondChromium : PartyModel Chromium.interface ChromiumClient := fun client call =>
  let (reply, rest) := next client.replies
  let later := { client with replies := rest }
  let trouble (which : Trouble) : Option String := client.troubles.lookup which
  match call with
  | .configure _ => ⟨client, succeedOr (trouble .configure)⟩
  | .start => ⟨client, succeedOr (trouble .start)⟩
  | .newPage _ => ⟨client, succeedOr (trouble .newPage)⟩
  | .listenToConsole => ⟨client, succeedOr (trouble .listenToConsole)⟩
  | .listenToDialogs =>
    match trouble .listenToDialogs with
    | some message => ⟨client, .failure message⟩
    | none => ⟨{ client with dialogs := [] }, .value client.dialogs⟩
  | .acceptDialog _ =>
    ⟨{ client with accepted := client.accepted + 1 }, succeedOr (trouble .acceptDialog)⟩
  | .close => ⟨client, succeedOr (trouble .close)⟩
  | .evaluate _ => ⟨later, reply.answer some (.value none)⟩
  | .url => ⟨later, reply.text?⟩
  | .title => ⟨later, reply.text?⟩
  | .goto _ => ⟨later, reply.done⟩

end BrowserReplay.Rehearsal
