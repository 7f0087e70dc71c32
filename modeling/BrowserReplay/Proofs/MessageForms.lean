import BrowserReplay.Bridge.Message
import BrowserReplay.Proofs.TaggedRecord
import Mathlib.Algebra.Group.Nat.Defs

/-!
# The forms of messages

A request or a response is read from an object that holds its tag and its fields, whatever order
they stand in and whatever other members stand among them. Other members must be readable, though,
since all members are read before the tag is known. A response may leave out a handle that is absent
and a message that is empty.
-/

namespace BrowserReplay.Bridge

open Json

namespace Request

def numbers : Request → List Nat
  | .query .. | .dispatchKey _ => []
  | .click handle | .focus handle | .setValue handle _ => [handle]
  | .highlight handle _ duration => [handle, duration]

def Fits (request : Request) : Prop := ∀ n ∈ request.numbers, n < 2 ^ 64

def written (request : Request) : List (String × Json) :=
  ("op", .text request.op) :: request.fields

def known (request : Request) : List String := request.written.map Prod.fst

variable {request : Request}

theorem nodup_known (request : Request) : request.known.Nodup := by
  cases request <;> simp [known, written, fields]

/-- A field of a request is one of its texts or one of its numbers. -/
theorem field_cases : ∀ field ∈ request.fields,
    (∃ s, field.2 = .text s) ∨ ∃ n ∈ request.numbers, field.2 = .nat n := by
  cases request <;> simp [fields, numbers]

theorem isPlain_written (h : request.Fits) : ∀ field ∈ request.written, IsPlain field.2 := by
  refine List.forall_mem_cons.2 ⟨isPlain_text request.op, fun field hfield => ?_⟩
  rcases field_cases field hfield with ⟨s, htext⟩ | ⟨n, hn, hnat⟩
  · rw [htext]
    exact isPlain_text s
  · rw [hnat]
    exact isPlain_nat (h n hn)

/-- A request is read from its fields. -/
theorem ofTagged?_of_slots {contents : Json} (h : request.Fits)
    (hslots : contents.slots? (request.fields.map Prod.fst) =
      some (request.fields.map fun field => some field.2)) :
    ofTagged? request.op contents = some request := by
  have htext (s : String) : required text? (some (.text s)) = some s := rfl
  have hword (n : Nat) (hn : n ∈ request.numbers) : required word? (some (.nat n)) = some n :=
    Numeral.toWord?_ofNat (h n hn)
  -- The reader of each kind asks for its fields in the order in which they are written.
  cases request with
  | query | dispatchKey =>
    simp only [fields, List.map_cons, List.map_nil] at hslots
    simp [op, ofTagged?, hslots, htext]
  | click handle | focus handle | setValue handle =>
    simp only [fields, List.map_cons, List.map_nil] at hslots
    simp [op, ofTagged?, hslots, htext, hword handle (by simp [numbers])]
  | highlight handle color duration =>
    simp only [fields, List.map_cons, List.map_nil] at hslots
    simp [op, ofTagged?, hslots, htext, hword handle (by simp [numbers]),
      hword duration (by simp [numbers])]

/-- A request is read from a readable object that shows its tag and its fields. -/
theorem ofJson?_of_shows {members : List (Option String × Json)} (h : request.Fits)
    (hshows : Shows request.known request.written members)
    (hreadable : (object members).isReadable 0 = true) :
    ofJson? (.object members) = some request := by
  have htag : request.written.lookup "op" = some (.text request.op) := rfl
  have hnodup := nodup_known request
  rw [known, written, List.map_cons] at hnodup
  obtain ⟨hop, hfields⟩ := List.nodup_cons.1 hnodup
  have hslots := slots?_of_shows "op" hshows (named_of_isReadable hreadable)
    (List.subset_cons_self _ _) hop
  have hlookup : (request.fields.map Prod.fst).map (fun name => request.written.lookup name) =
      request.fields.map fun field => some field.2 := by
    cases request <;> rfl
  rw [ofJson?, if_pos hreadable, tagged?_of_shows hshows List.mem_cons_self htag]
  exact ofTagged?_of_slots h (by rw [hslots, hlookup])

/-- A request is read from a text of it, if the other members in the text can be read. -/
theorem parse?_of_spread {text : String} {others members : List (Option String × Json)}
    (h : request.Fits) (hspread : Spread request.known request.written others members)
    (htext : Json.parse? text = some (.object members)) :
    parse? text = if (object others).isReadable 0 then some request else none := by
  rw [parse?, htext, Option.bind_some, ← isReadable_of_spread hspread (isPlain_written h)]
  split
  next hreadable => exact ofJson?_of_shows h (hspread.shows (nodup_known request)) hreadable
  next hreadable => exact if_neg hreadable

end Request

namespace Response

def numbers : Response → List Nat
  | .ok handle => handle.toList
  | .error .. => []

def Fits (response : Response) : Prop := ∀ n ∈ response.numbers, n < 2 ^ 64

/-- A tag and fields of a response. A handle that is absent is `null` or left out, and an empty
message may be left out. -/
inductive Written : Response → List (String × Json) → Prop
  | found (handle : Handle) :
      Written (.ok (some handle)) [("status", .text "ok"), ("handle", .nat handle)]
  | null : Written (.ok none) [("status", .text "ok"), ("handle", .null)]
  | bare : Written (.ok none) [("status", .text "ok")]
  | error (kind : ErrorKind) (message : String) : Written (.error kind message)
      [("status", .text "error"), ("kind", .text kind.name), ("message", .text message)]
  | wordless (kind : ErrorKind) :
      Written (.error kind "") [("status", .text "error"), ("kind", .text kind.name)]

def known : Response → List String
  | .ok _ => ["status", "handle"]
  | .error .. => ["status", "kind", "message"]

variable {response : Response} {fields : List (String × Json)}

/-- The fields with which a response is written are one of its forms. -/
theorem written_toJson (response : Response) :
    ∃ fields, Written response fields ∧ response.toJson = ofFields fields := by
  cases response with
  | ok handle =>
    cases handle with
    | none => exact ⟨_, .null, rfl⟩
    | some handle => exact ⟨_, .found handle, rfl⟩
  | error kind message => exact ⟨_, .error kind message, rfl⟩

theorem Written.nodup (h : Written response fields) : (fields.map Prod.fst).Nodup := by
  cases h <;> simp

theorem Written.isPlain (h : Written response fields) (hfits : response.Fits) :
    ∀ field ∈ fields, IsPlain field.2 := by
  cases h with
  | found handle =>
    have hhandle : handle < 2 ^ 64 := hfits handle (by simp [numbers])
    simp [isPlain_text, isPlain_nat hhandle]
  | null => simp [isPlain_text, isPlain_null]
  | bare | error | wordless => simp [isPlain_text]

theorem ofTagged?_ok {contents : Json} {slot : Option Json} {handle : Option Handle}
    (hslots : contents.slots? ["handle"] = some [slot])
    (hhandle : defaulted none optionalWord? slot = some handle) :
    ofTagged? "ok" contents = some (.ok handle) := by
  simp [ofTagged?, hslots, hhandle]

theorem ofTagged?_error {contents : Json} {kind : ErrorKind} {slot : Option Json}
    {message : String}
    (hslots : contents.slots? ["kind", "message"] = some [some (.text kind.name), slot])
    (hmessage : defaulted "" text? slot = some message) :
    ofTagged? "error" contents = some (.error kind message) := by
  simp [ofTagged?, hslots, hmessage, required, bufferedChoice?, choice?, Json.text]

/-- A response is read from an object that shows one of its forms, if each name in it is a text. -/
theorem ofJson?_of_shows {members : List (Option String × Json)} (h : Written response fields)
    (hfits : response.Fits) (hshows : Shows response.known fields members)
    (hnamed : Named members) : ofJson? (.object members) = some response := by
  have hread (status : String) (htag : fields.lookup "status" = some (.text status)) :
      ofJson? (.object members) =
        ofTagged? status (.object (members.filter (·.1 ≠ some "status"))) := by
    have hknown : "status" ∈ response.known := by cases response <;> exact List.mem_cons_self
    rw [ofJson?, tagged?_of_shows hshows hknown htag, Option.bind_some]
  cases h with
  | found handle =>
    have hhandle : handle < 2 ^ 64 := hfits handle (by simp [numbers])
    have hslots := slots?_of_shows "status" hshows hnamed (List.subset_cons_self _ _) (by decide)
    have hword : defaulted none optionalWord? (some (.nat handle)) = some (some handle) := by
      rw [defaulted, nat, optionalWord?, word?, Numeral.toWord?_ofNat hhandle, Option.map_some]
      rintro ⟨⟩
    rw [hread "ok" rfl, ofTagged?_ok hslots hword]
  | null | bare =>
    have hslots := slots?_of_shows "status" hshows hnamed (List.subset_cons_self _ _) (by decide)
    rw [hread "ok" rfl, ofTagged?_ok hslots rfl]
  | error kind message | wordless kind =>
    have hslots := slots?_of_shows "status" hshows hnamed (List.subset_cons_self _ _) (by decide)
    rw [hread "error" rfl, ofTagged?_error hslots rfl]

/-- A response is read from a text of one of its forms, if the other members in it can be read. -/
theorem readValue?_of_spread {text : String} {others members : List (Option String × Json)}
    (h : Written response fields) (hfits : response.Fits)
    (hspread : Spread response.known fields others members)
    (htext : Json.parse? text = some (.object members)) :
    (readValue? text).bind ofJson? =
      if (object others).isReadable 0 then some response else none := by
  rw [readValue?, htext, ← isReadable_of_spread hspread (h.isPlain hfits)]
  split
  next hreadable =>
    rw [Option.filter_some, if_pos hreadable, Option.map_some, Option.bind_some, merged]
    exact ofJson?_of_shows h hfits ((hspread.shows h.nodup).merged (h.isPlain hfits))
      (named_mergedMembers nofun (named_of_isReadable hreadable))
  next hreadable => rw [Option.filter_some, if_neg hreadable, Option.map_none, Option.bind_none]

end Response

/-- Messages are read back from what is written for them, and from every text with the same tag and
fields, in any order and among other members. Only one thing is asked of these others: they must be
readable, for otherwise no part of the text is read. A handle that is absent may be `null` or left
out, and an empty message may be left out. -/
theorem messages_are_read_back :
    (∀ request : Request, request.Fits →
      Request.parse? request.render = some request ∧
        ∀ others members, Spread request.known request.written others members →
          ∀ text, Json.parse? text = some (.object members) →
            Request.parse? text = if (object others).isReadable 0 then some request else none) ∧
      ∀ response : Response, response.Fits →
        (readValue? response.render).bind Response.ofJson? = some response ∧
          ∀ fields, response.Written fields →
            ∀ others members, Spread response.known fields others members →
              (Named others → Response.ofJson? (.object members) = some response) ∧
                ∀ text, Json.parse? text = some (.object members) →
                  (readValue? text).bind Response.ofJson? =
                    if (object others).isReadable 0 then some response else none := by
  constructor
  case left =>
    intro request hfits
    refine ⟨?_, fun others members hspread text htext => ?_⟩
    · exact Request.parse?_of_spread hfits (.plain _ _) (parse?_render request.toJson)
    · exact Request.parse?_of_spread hfits hspread htext
  case right =>
    intro response hfits
    refine ⟨?_, fun fields hwritten others members hspread =>
      ⟨fun hnamed => ?_, fun text htext => ?_⟩⟩
    · obtain ⟨fields, hwritten, hform⟩ := response.written_toJson
      have htext : Json.parse? response.render = some (ofFields fields) := by
        rw [Response.render, parse?_render, hform]
      exact Response.readValue?_of_spread hwritten hfits (.plain _ _) htext
    · exact Response.ofJson?_of_shows hwritten hfits (hspread.shows hwritten.nodup)
        (hspread.named hnamed)
    · exact Response.readValue?_of_spread hwritten hfits hspread htext

/-- A request with its tag at the end, after a member that says nothing. -/
theorem late_tag_is_read :
    let request := Request.setValue 3 "hello"
    let others := [(some "note", Json.array [.null])]
    let members := others ++ [(some "value", .text "hello"), (some "handle", .nat 3),
      (some "op", .text "set_value")]
    request.Fits ∧ Spread request.known request.written others members ∧
      Request.parse? (Json.object members).render = some request := by
  intro request others members
  have hfits : request.Fits := by
    intro n hn
    obtain rfl : n = 3 := List.mem_singleton.1 hn
    decide
  have hspread : Spread request.known request.written others members := by
    have hknown : request.known = ["op", "handle", "value"] := rfl
    refine ⟨?_, by simp [others, hknown]⟩
    have hreversed := List.reverse_perm (request.written.map fun field => (some field.1, field.2))
    exact List.perm_append_comm.trans (hreversed.append_right others)
  refine ⟨hfits, hspread, ?_⟩
  rw [(messages_are_read_back.1 request hfits).2 others members hspread _ (parse?_render _)]
  rfl

/-- A number that is out of range is no member to pass over. -/
theorem vast_number_is_refused :
    let request := Request.click 1
    let others := [(some "x", Json.number ⟨false, 1, some 999⟩)]
    let members := [(some "op", Json.text "click"), (some "handle", .nat 1)] ++ others
    let text := "\x7b\"op\":\"click\",\"handle\":1,\"x\":1e999\x7d"
    request.Fits ∧ Spread request.known request.written others members ∧
      Json.parse? text = some (.object members) ∧ Request.parse? text = none ∧
      Request.parse? "\x7b\"op\":\"click\",\"handle\":1\x7d" = some request := by
  intro request others members text
  have hfits : request.Fits := by
    intro n hn
    obtain rfl : n = 1 := List.mem_singleton.1 hn
    decide
  have hspread : Spread request.known request.written others members := by
    have hknown : request.known = ["op", "handle"] := rfl
    exact ⟨.refl _, by simp [others, hknown]⟩
  have htext : text = (Json.object members).render := by decide +kernel
  have hread : Json.parse? text = some (.object members) := by rw [htext, parse?_render]
  exact ⟨hfits, hspread, hread, by decide +kernel, by decide +kernel⟩

end BrowserReplay.Bridge
