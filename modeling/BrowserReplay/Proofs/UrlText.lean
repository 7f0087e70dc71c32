import BrowserReplay.Url.Basic
import Mathlib.Data.List.Basic

/-!
# The text of a URL tells its parts

A URL whose parts hold no character that would end them (`Url.Formed`) is told by its text: the
scheme ends at the first colon, an authority at the next slash, a path at the question mark or the
number sign. So two such URLs are equal as soon as their texts are (`href_inj`).
-/

namespace BrowserReplay.Url

/-! ### Cutting a text -/

def Lacks (marks : List Char) (text : List Char) : Prop := ∀ c ∈ text, c ∉ marks

instance (marks text : List Char) : Decidable (Lacks marks text) :=
  List.decidableBAll (· ∉ marks) text

def StartsAt (marks : List Char) (text : List Char) : Prop := ∀ c ∈ text.head?, c ∈ marks

/-- A text is cut in one way at the first of some marks. -/
theorem append_inj_of_lacks {marks a b x y : List Char} (ha : Lacks marks a) (hb : Lacks marks b)
    (hx : StartsAt marks x) (hy : StartsAt marks y) (h : a ++ x = b ++ y) : a = b ∧ x = y := by
  induction a generalizing b with
  | nil =>
    cases b with
    | nil => exact ⟨rfl, h⟩
    | cons c b =>
      rw [List.nil_append] at h
      subst h
      exact absurd (hx c rfl) (hb c List.mem_cons_self)
  | cons c a ih =>
    cases b with
    | nil =>
      rw [List.nil_append] at h
      subst h
      exact absurd (hy c rfl) (ha c List.mem_cons_self)
    | cons d b =>
      obtain ⟨rfl, htail⟩ := List.cons.inj h
      obtain ⟨rfl, hrest⟩ := ih (fun e he => ha e (List.mem_cons_of_mem _ he))
        (fun e he => hb e (List.mem_cons_of_mem _ he)) htail
      exact ⟨rfl, hrest⟩

theorem lacks_append {marks a b : List Char} :
    Lacks marks (a ++ b) ↔ Lacks marks a ∧ Lacks marks b :=
  List.forall_mem_append

theorem Lacks.mono {marks fewer text : List Char} (h : Lacks marks text) (hsub : fewer ⊆ marks) :
    Lacks fewer text :=
  fun c hc hmark => h c hc (hsub hmark)

theorem startsAt_nil {marks : List Char} : StartsAt marks [] := nofun

theorem startsAt_cons {marks text : List Char} {c : Char} (h : c ∈ marks) :
    StartsAt marks (c :: text) := by
  rintro _ ⟨⟩
  exact h

def optional (mark : Char) : Option String → List Char
  | some part => mark :: part.toList
  | none => []

theorem optional_inj {mark : Char} {a b : Option String} (h : optional mark a = optional mark b) :
    a = b := by
  cases a <;> cases b <;> simp_all [optional, String.toList_inj]

/-! ### Authorities -/

/-- A host stands between brackets, or holds no colon. -/
inductive IsHost : List Char → Prop
  | bracketed {inner : List Char} (h : Lacks [']', '@', '/', '?', '#'] inner) :
      IsHost ('[' :: (inner ++ [']']))
  | named {host : List Char} (h : Lacks [':', '[', '@', '/', '?', '#'] host) : IsHost host

/-- The parts of an authority hold no character that ends them. -/
structure Authority.Formed (authority : Authority) : Prop where
  username : Lacks [':', '@', '/', '?', '#'] authority.username.toList
  password : ∀ password ∈ authority.password, Lacks ['@', '/', '?', '#'] password.toList
  host : IsHost authority.host.toList

namespace Authority

def portText (port : Option Nat) : List Char := optional ':' (port.map toString)

def credentials? (authority : Authority) : Option (List Char) :=
  if authority.username = "" ∧ authority.password = none then none
  else some (authority.username.toList ++ optional ':' authority.password)

def beforeHost : Option (List Char) → List Char
  | some credentials => credentials ++ ['@']
  | none => []

theorem text_eq (authority : Authority) : authority.text.toList =
    beforeHost authority.credentials? ++ (authority.host.toList ++ portText authority.port) := by
  have hcredentials : authority.userinfo.toList = beforeHost authority.credentials? := by
    obtain ⟨username, password, host, port⟩ := authority
    cases password with
    | some password => simp [userinfo, credentials?, optional, beforeHost]
    | none => by_cases h : username = "" <;> simp [userinfo, credentials?, optional, beforeHost, h]
  rw [text, String.toList_append, String.toList_append, hcredentials, List.append_assoc]
  cases authority.port <;> simp [portText, optional]

variable {a b : Authority}

theorem toString_injective : Function.Injective (toString : Nat → String) := by
  intro m n h
  have hdigits : Nat.toDigits 10 m = Nat.toDigits 10 n := by
    rw [← Nat.toList_repr, ← Nat.toList_repr]
    exact congrArg String.toList h
  have hvalue (n : Nat) : Nat.ofDigitChars 10 (Nat.toDigits 10 n) 0 = n :=
    Nat.ofDigitChars_toDigits (by decide) (by decide)
  rw [← hvalue m, hdigits, hvalue]

theorem portText_inj {a b : Option Nat} (h : portText a = portText b) : a = b :=
  Option.map_injective toString_injective (optional_inj h)

/-- A port is written in digits after a colon. -/
theorem lacks_portText (port : Option Nat) : Lacks ['@', '/', '?', '#'] (portText port) := by
  cases port with
  | none => exact nofun
  | some n =>
    refine List.forall_mem_cons.2 ⟨by decide, fun c hc hmark => ?_⟩
    have hdigit : c.isDigit = true :=
      Nat.isDigit_of_mem_toDigits (by decide) (by decide) (Nat.toList_repr ▸ hc)
    have hmarks : ['@', '/', '?', '#'].all (fun mark => !mark.isDigit) = true := by decide
    simpa [hdigit] using List.all_eq_true.1 hmarks c hmark

theorem Formed.lacks_credentials (h : a.Formed) :
    ∀ credentials ∈ a.credentials?, Lacks ['@', '/', '?', '#'] credentials := by
  intro credentials hmem
  rw [credentials?] at hmem
  split at hmem
  · cases hmem
  · cases hmem
    refine lacks_append.2 ⟨h.username.mono (by decide), ?_⟩
    cases hpassword : a.password with
    | none => exact nofun
    | some password => exact List.forall_mem_cons.2 ⟨by decide, h.password password hpassword⟩

theorem Formed.lacks_host (h : a.Formed) : Lacks ['@', '/', '?', '#'] a.host.toList := by
  have hhost := h.host
  generalize a.host.toList = host at hhost
  cases hhost with
  | bracketed h =>
    exact List.forall_mem_cons.2 ⟨by decide, lacks_append.2 ⟨h.mono (by decide), by simp [Lacks]⟩⟩
  | named h => exact h.mono (by decide)

theorem credentials?_inj (ha : a.Formed) (hb : b.Formed) (h : a.credentials? = b.credentials?) :
    a.username = b.username ∧ a.password = b.password := by
  have hcolon (password : Option String) : StartsAt [':'] (optional ':' password) := by
    cases password with
    | none => exact startsAt_nil
    | some password => exact startsAt_cons (List.mem_singleton_self _)
  rw [credentials?, credentials?] at h
  split at h <;> split at h
  next hnone hnone' => exact ⟨hnone.1.trans hnone'.1.symm, hnone.2.trans hnone'.2.symm⟩
  next => cases h
  next => cases h
  next =>
    obtain ⟨husername, hpassword⟩ := append_inj_of_lacks (ha.username.mono (by decide))
      (hb.username.mono (by decide)) (hcolon _) (hcolon _) (Option.some.inj h)
    exact ⟨String.toList_inj.1 husername, optional_inj hpassword⟩

theorem host_inj {port port' : Option Nat} (ha : a.Formed) (hb : b.Formed)
    (h : a.host.toList ++ portText port = b.host.toList ++ portText port') :
    a.host = b.host ∧ port = port' := by
  have hcolon (port : Option Nat) : StartsAt [':'] (portText port) := by
    cases port with
    | none => exact startsAt_nil
    | some n => exact startsAt_cons (List.mem_singleton_self _)
  -- A host that holds no bracket does not begin like one between brackets.
  have hmixed {inner host : List Char} {port port' : Option Nat}
      (hnamed : Lacks [':', '[', '@', '/', '?', '#'] host) :
      '[' :: (inner ++ [']']) ++ portText port ≠ host ++ portText port' := by
    intro heq
    cases host with
    | nil =>
      cases port' <;> cases heq
    | cons c host =>
      obtain ⟨rfl, -⟩ := List.cons.inj heq
      exact hnamed '[' List.mem_cons_self (by decide)
  have hhosts := ha.host
  have hhosts' := hb.host
  rw [← String.toList_inj]
  generalize a.host.toList = host at h hhosts ⊢
  generalize b.host.toList = host' at h hhosts' ⊢
  cases hhosts with
  | bracketed hinner =>
    cases hhosts' with
    | bracketed hinner' =>
      rw [List.cons_append, List.cons_append, List.append_assoc, List.append_assoc] at h
      have hbracket {rest : List Char} : StartsAt [']'] ([']'] ++ rest) :=
        startsAt_cons (List.mem_singleton_self _)
      obtain ⟨rfl, hrest⟩ := append_inj_of_lacks (hinner.mono (by decide))
        (hinner'.mono (by decide)) hbracket hbracket (List.cons.inj h).2
      exact ⟨rfl, portText_inj (List.cons.inj hrest).2⟩
    | named hnamed => exact absurd h (hmixed hnamed)
  | named hnamed =>
    cases hhosts' with
    | bracketed _ => exact absurd h.symm (hmixed hnamed)
    | named hnamed' =>
      obtain ⟨rfl, hports⟩ := append_inj_of_lacks (hnamed.mono (by decide))
        (hnamed'.mono (by decide)) (hcolon port) (hcolon port') h
      exact ⟨rfl, portText_inj hports⟩

theorem beforeHost_inj {c d : Option (List Char)} {x y : List Char}
    (hc : ∀ credentials ∈ c, Lacks ['@'] credentials)
    (hd : ∀ credentials ∈ d, Lacks ['@'] credentials) (hx : Lacks ['@'] x) (hy : Lacks ['@'] y)
    (h : beforeHost c ++ x = beforeHost d ++ y) : c = d ∧ x = y := by
  have hmixed {credentials x y : List Char} (hx : Lacks ['@'] x) :
      x ≠ credentials ++ ['@'] ++ y := by
    rintro rfl
    exact hx '@' (by simp) (List.mem_singleton_self _)
  cases c with
  | none =>
    cases d with
    | none => exact ⟨rfl, h⟩
    | some credentials => exact absurd h (hmixed hx)
  | some credentials =>
    cases d with
    | none => exact absurd h.symm (hmixed hy)
    | some credentials' =>
      rw [beforeHost, beforeHost, List.append_assoc, List.append_assoc] at h
      have hat {rest : List Char} : StartsAt ['@'] (['@'] ++ rest) :=
        startsAt_cons (List.mem_singleton_self _)
      obtain ⟨rfl, hrest⟩ := append_inj_of_lacks (hc _ rfl) (hd _ rfl) hat hat h
      exact ⟨rfl, (List.cons.inj hrest).2⟩

theorem text_inj (ha : a.Formed) (hb : b.Formed) (h : a.text.toList = b.text.toList) : a = b := by
  have hrest {a : Authority} (ha : a.Formed) : Lacks ['@'] (a.host.toList ++ portText a.port) :=
    lacks_append.2 ⟨ha.lacks_host.mono (by decide), (lacks_portText a.port).mono (by decide)⟩
  rw [text_eq, text_eq] at h
  obtain ⟨hcredentials, hhosts⟩ := beforeHost_inj
    (fun credentials hmem => (ha.lacks_credentials credentials hmem).mono (by decide))
    (fun credentials hmem => (hb.lacks_credentials credentials hmem).mono (by decide))
    (hrest ha) (hrest hb) h
  obtain ⟨husername, hpassword⟩ := credentials?_inj ha hb hcredentials
  obtain ⟨hhost, hport⟩ := host_inj ha hb hhosts
  cases a
  cases b
  cases husername
  cases hpassword
  cases hhost
  cases hport
  rfl

/-- No slash, question mark or number sign stands in the text of an authority. -/
theorem Formed.lacks_text (h : a.Formed) : Lacks ['/', '?', '#'] a.text.toList := by
  rw [text_eq]
  refine lacks_append.2 ⟨?_, lacks_append.2 ⟨h.lacks_host.mono (by decide),
    (lacks_portText a.port).mono (by decide)⟩⟩
  cases hcredentials : a.credentials? with
  | none => exact nofun
  | some credentials =>
    exact lacks_append.2 ⟨(h.lacks_credentials credentials hcredentials).mono (by decide),
      by simp [Lacks]⟩

end Authority

/-! ### Whole URLs -/

/-- A path after an authority is empty or begins with a slash. A path without one does not begin
with a single dot between slashes, as the text of one that begins with two slashes does. -/
def PathFits : Option Authority → List Char → Prop
  | some _, path => StartsAt ['/'] path
  | none, path => ¬ ['/', '.', '/'] <+: path

/-- The parts of a URL hold no character that ends them. -/
structure Formed (url : Url) : Prop where
  scheme : Lacks [':'] url.scheme.toList
  authority : ∀ authority ∈ url.authority, authority.Formed
  path : Lacks ['?', '#'] url.path.toList
  fits : PathFits url.authority url.path.toList
  query : ∀ query ∈ url.query, Lacks ['#'] query.toList

def front : Option Authority → List Char → List Char
  | some authority, _ => '/' :: '/' :: authority.text.toList
  | none, path => if ['/', '/'] <+: path then ['/', '.'] else []

theorem href_eq (url : Url) : url.href.toList =
    url.scheme.toList ++ ':' :: ((front url.authority url.path.toList ++ url.path.toList) ++
      (optional '?' url.query ++ optional '#' url.fragment)) := by
  obtain ⟨scheme, authority, path, query, fragment⟩ := url
  have hstarts : path.startsWith "//" = true ↔ ['/', '/'] <+: path.toList :=
    String.startsWith_string_iff
  cases authority with
  | some authority => cases query <;> cases fragment <;> simp [href, front, optional]
  | none =>
    by_cases h : ['/', '/'] <+: path.toList
    · cases query <;> cases fragment <;> simp [href, front, optional, h, hstarts.2 h]
    · have hplain : path.startsWith "//" = false :=
        Bool.eq_false_iff.2 fun hpath => h (hstarts.1 hpath)
      cases query <;> cases fragment <;> simp [href, front, optional, h, hplain]

theorem front_inj {a b : Option Authority} {p q : List Char}
    (ha : ∀ authority ∈ a, authority.Formed) (hb : ∀ authority ∈ b, authority.Formed)
    (hp : PathFits a p) (hq : PathFits b q) (h : front a p ++ p = front b q ++ q) :
    a = b ∧ p = q := by
  -- Two slashes in front stand for an authority alone.
  have hmixed {authority : Authority} {p q : List Char} :
      front (some authority) p ++ p ≠ front none q ++ q := by
    intro heq
    rw [front, front] at heq
    split at heq
    · cases heq
    next hslashes => exact hslashes ⟨_, heq⟩
  have hdotted {p q : List Char} (hp : ['/', '/'] <+: p) (hq : PathFits none q) :
      ['/', '.'] ++ p ≠ q := by
    rintro rfl
    obtain ⟨rest, rfl⟩ := hp
    exact hq ⟨_, rfl⟩
  cases a with
  | some authority =>
    cases b with
    | none => exact absurd h hmixed
    | some authority' =>
      have htexts := (List.cons.inj (List.cons.inj h).2).2
      obtain ⟨htext, hpath⟩ := append_inj_of_lacks ((ha _ rfl).lacks_text.mono (by decide))
        ((hb _ rfl).lacks_text.mono (by decide)) hp hq htexts
      exact ⟨congrArg some (Authority.text_inj (ha _ rfl) (hb _ rfl) htext), hpath⟩
  | none =>
    cases b with
    | some authority => exact absurd h.symm hmixed
    | none =>
      refine ⟨rfl, ?_⟩
      rw [front, front] at h
      split at h <;> split at h
      next => exact List.append_cancel_left h
      next hslashes _ => exact absurd h (hdotted hslashes hq)
      next hslashes => exact absurd h.symm (hdotted hslashes hp)
      next => exact h

/-- A query ends where the fragment begins. -/
theorem optionals_inj {a b f g : Option String} (ha : ∀ query ∈ a, Lacks ['#'] query.toList)
    (hb : ∀ query ∈ b, Lacks ['#'] query.toList)
    (h : optional '?' a ++ optional '#' f = optional '?' b ++ optional '#' g) : a = b ∧ f = g := by
  have hnumber (fragment : Option String) : StartsAt ['#'] (optional '#' fragment) := by
    cases fragment with
    | none => exact startsAt_nil
    | some fragment => exact startsAt_cons (List.mem_singleton_self _)
  have hmark {query : Option String} (h : ∀ part ∈ query, Lacks ['#'] part.toList) :
      Lacks ['#'] (optional '?' query) := by
    cases query with
    | none => exact nofun
    | some part => exact List.forall_mem_cons.2 ⟨by decide, h part rfl⟩
  obtain ⟨hqueries, hfragments⟩ :=
    append_inj_of_lacks (hmark ha) (hmark hb) (hnumber f) (hnumber g) h
  exact ⟨optional_inj hqueries, optional_inj hfragments⟩

variable {x y : Url}

/-- The text of a URL tells its parts. -/
theorem href_inj (hx : x.Formed) (hy : y.Formed) (h : x.href = y.href) : x = y := by
  have hfront {url : Url} (hurl : url.Formed) :
      Lacks ['?', '#'] (front url.authority url.path.toList ++ url.path.toList) := by
    refine lacks_append.2 ⟨?_, hurl.path⟩
    cases hauthority : url.authority with
    | some authority =>
      exact List.forall_mem_cons.2 ⟨by decide, List.forall_mem_cons.2 ⟨by decide,
        (hurl.authority authority hauthority).lacks_text.mono (by decide)⟩⟩
    | none =>
      rw [front]
      split
      · simp [Lacks]
      · exact nofun
  have htail {url : Url} :
      StartsAt ['?', '#'] (optional '?' url.query ++ optional '#' url.fragment) := by
    cases url.query <;> cases url.fragment <;> simp [StartsAt, optional]
  have hchars := congrArg String.toList h
  rw [href_eq, href_eq] at hchars
  have hcolon {rest : List Char} : StartsAt [':'] (':' :: rest) :=
    startsAt_cons (List.mem_singleton_self _)
  obtain ⟨hscheme, hrest⟩ := append_inj_of_lacks hx.scheme hy.scheme hcolon hcolon hchars
  obtain ⟨hfronts, htails⟩ := append_inj_of_lacks (hfront hx) (hfront hy) htail htail
    (List.cons.inj hrest).2
  obtain ⟨hauthority, hpath⟩ := front_inj hx.authority hy.authority hx.fits hy.fits hfronts
  obtain ⟨hquery, hfragment⟩ := optionals_inj hx.query hy.query htails
  cases x
  cases y
  cases hauthority
  cases hquery
  cases hfragment
  cases String.toList_inj.1 hscheme
  cases String.toList_inj.1 hpath
  rfl

end BrowserReplay.Url
