import BrowserReplay.Proofs.Departure

/-!
# Opening a page again

A page that adopts the URLs it is sent to is there afterwards, and a command that opens the URL then
has nowhere to go, however the URL is written (`Perform.openPage_opened`). A run that opens one URL
again and again, and is let go on, sends its page there once, or not at all if the page was there
before (`opening_again_stays`).
-/

namespace BrowserReplay

open Table

/-! ### URLs and locations -/

section Location

variable {target : String} {url : Url}

theorem resolveLocation_of_parse (h : Url.parse target = .ok url) (current : Option String) :
    resolveLocation current target = url.href := by
  rw [resolveLocation, h]

/-- What is the same location as a URL is a way to write it. -/
theorem sameLocation_iff (h : Url.parse target = .ok url) (current : String) :
    sameLocation current target = true ↔ Url.parse current = .ok url := by
  rw [sameLocation, h]
  cases hcurrent : Url.parse current with
  | ok other => simp
  | error error =>
    have hne : current ≠ target := by
      rintro rfl
      rw [hcurrent] at h
      cases h
    simp [hne]

theorem ne_empty_of_parse (h : Url.parse target = .ok url) : target ≠ "" := by
  rintro rfl
  have hempty : Url.parse "" = .error .noBase := by decide
  rw [hempty] at h
  cases h

variable (h : Url.parse target = .ok url) (hround : Url.parse url.href = .ok url)

include h in
theorem destination?_eq_href {location : Except PageError String} {place : String}
    (hgoes : destination? target location = some place) : place = url.href := by
  have hne := ne_empty_of_parse h
  cases location with
  | error error =>
    simpa [destination?, hne, resolveLocation_of_parse h, eq_comm] using hgoes
  | ok current =>
    simp only [destination?, hne, resolveLocation_of_parse h, if_false] at hgoes
    split at hgoes
    · cases hgoes
    · exact (Option.some.inj hgoes).symm

include h hround in
/-- A URL leads nowhere exactly from a page that is there. -/
theorem destination?_eq_none_iff_same (location : Except PageError String) :
    destination? target location = none ↔
      ∃ current, location = .ok current ∧ sameLocation current target = true := by
  simp only [destination?_eq_none, ne_empty_of_parse h, resolveLocation_of_parse h,
    sameLocation_iff h, sameLocation_iff hround, false_and, false_or, ne_eq, not_false_eq_true,
    true_and]

end Location

/-! ### Pages that adopt where they are sent -/

def PageModel.location? (model : PageModel σ) (page : σ) : Option String :=
  (model page .currentUrl).reply.toOption

/-- The page tells a location that is the same as the target. -/
def PageModel.IsAt (model : PageModel σ) (target : String) (page : σ) : Prop :=
  ∃ current, model.location? page = some current ∧ sameLocation current target = true

/-- Some pages are, once they have been sent to a URL, at that URL. They stay where they are while
they are only asked for it. -/
structure PageModel.Adopts (model : PageModel σ) (adopting : σ → Prop) : Prop where
  asked : ∀ page, adopting page → adopting (model page .currentUrl).page
  sent : ∀ page url, adopting page → adopting (model page (.navigate url)).page
  stays : ∀ page current, adopting page → model.location? page = some current →
    model.location? (model page .currentUrl).page = some current
  arrives : ∀ page url, adopting page →
    model.location? (model page (.navigate url)).page = some url

theorem PageModel.location?_eq_some {model : PageModel σ} {page : σ} {current : String} :
    model.location? page = some current ↔ (model page .currentUrl).reply = .ok current := by
  rw [location?]
  cases (model page .currentUrl).reply <;> simp [Except.toOption]

theorem Rehearsal.respond_adopts :
    PageModel.Adopts respond fun page => page.frozen = false ∧ page.faults = [] := by
  have hfault (page : Page) (h : page.faults = []) (kind : CallKind) : page.fault? kind = none := by
    rw [Page.fault?, h]
    rfl
  have hasked (page : Page) (h : page.faults = []) : (respond page .currentUrl).page = page := by
    simp only [respond, CallKind.of, hfault page h]
    cases page.url <;> rfl
  have hsent (page : Page) (url : String) (hfrozen : page.frozen = false) (h : page.faults = []) :
      (respond page (.navigate url)).page = { page with url := some url } := by
    simp [respond, CallKind.of, hfault page h, hfrozen]
  refine ⟨fun page ⟨hfrozen, h⟩ => ?_, fun page url ⟨hfrozen, h⟩ => ?_,
    fun page current ⟨hfrozen, h⟩ hcurrent => ?_, fun page url ⟨hfrozen, h⟩ => ?_⟩
  · rw [hasked page h]
    exact ⟨hfrozen, h⟩
  · rw [hsent page url hfrozen h]
    exact ⟨hfrozen, h⟩
  · rw [hasked page h]
    exact hcurrent
  · have hnone := hfault { page with url := some url } h .currentUrl
    rw [hsent page url hfrozen h, PageModel.location?_eq_some]
    simp only [respond, CallKind.of, hnone]

/-! ### One command -/

section Opening

variable {model : PageModel σ} {adopting : σ → Prop} {target : String} {url : Url}
  (hadopts : model.Adopts adopting) (h : Url.parse target = .ok url)
  (hround : Url.parse url.href = .ok url)

structure Visited.Opened (model : PageModel σ) (adopting : σ → Prop) (target : String) (url : Url)
    (page : σ) (visit : Visited σ Outcome) : Prop where
  adopting : adopting visit.page
  isAt : model.IsAt target visit.page
  outcome : visit.result = .completed ∨ visit.result = .navigated url.href
  /-- A page that was there before is not sent anywhere. -/
  stays : model.IsAt target page → visit.result = .completed

include hadopts h hround

theorem Perform.openPage_opened {page : σ} (hpage : adopting page) (time : Nat) :
    (openPage model target page time).Opened model adopting target url page := by
  have hnowhere := destination?_eq_none_iff_same h hround (model page .currentUrl).reply
  cases hleads : destination? target (model page .currentUrl).reply with
  | none =>
    obtain ⟨hresult, hleft, -⟩ := openPage_stays time hleads
    obtain ⟨current, hcurrent, hsame⟩ := hnowhere.1 hleads
    have hstays := hadopts.stays page current hpage (PageModel.location?_eq_some.2 hcurrent)
    rw [if_neg (ne_empty_of_parse h)] at hresult
    rw [← hleft] at hstays
    exact ⟨hleft ▸ hadopts.asked page hpage, ⟨current, hstays, hsame⟩, .inl hresult,
      fun _ => hresult⟩
  | some place =>
    obtain rfl := destination?_eq_href h hleads
    obtain ⟨hresult, hleft, -⟩ := openPage_goes time hleads
    have harrives := hadopts.arrives _ url.href (hadopts.asked page hpage)
    rw [← hleft] at harrives
    refine ⟨hleft ▸ hadopts.sent _ url.href (hadopts.asked page hpage),
      ⟨url.href, harrives, (sameLocation_iff h _).2 hround⟩, .inr hresult, ?_⟩
    rintro ⟨current, hcurrent, hsame⟩
    rw [hnowhere.2 ⟨current, PageModel.location?_eq_some.1 hcurrent, hsame⟩] at hleads
    cases hleads

end Opening

/-! ### Runs -/

section Runs

variable {model : PageModel σ} {adopting : σ → Prop} {target : String} {url : Url}

/-- What a command that opens the URL has left in a run. -/
structure Visited.Reopens (model : PageModel σ) (adopting : σ → Prop) (target : String) (url : Url)
    (page : σ) (visit : Visited σ (Outcome × Variables)) : Prop where
  adopting : adopting visit.page
  isAt : model.IsAt target visit.page
  outcome : visit.result.1 = .completed ∨ visit.result.1 = .navigated url.href
  stays : model.IsAt target page → visit.result.1 = .completed
  vars : visit.result.2 = .empty

theorem perform_reopens (hadopts : model.Adopts adopting) (h : Url.parse target = .ok url)
    (hround : Url.parse url.href = .ok url) (config : Config) (index : Nat) {text : Option String}
    (htext : Template.substitute .empty text = target) {page : σ} (hpage : adopting page)
    (time : Nat) :
    (perform model config .empty index (.openPage text) page time).Reopens model adopting target url
      page := by
  obtain ⟨hresult, hleft, -⟩ := Performance.visit_openPage model config
    (rfl : Performance.command ⟨.openPage text, .empty, index, page, time⟩ = .openPage text)
  rw [Performance.visit] at hresult hleft
  dsimp only at hresult hleft
  rw [htext] at hresult hleft
  obtain ⟨hadopting, hthere, houtcome, hstays⟩ :=
    Perform.openPage_opened hadopts h hround hpage time
  rw [← hleft] at hadopting hthere
  have houtcomes := congrArg Prod.fst hresult
  dsimp only at houtcomes
  rw [← houtcomes] at houtcome hstays
  exact ⟨hadopting, hthere, houtcome, hstays, congrArg Prod.snd hresult⟩

/-- What a run from a boundary on has left that opens one URL again and again. -/
structure Run.Reopened (model : PageModel σ) (target : String) (url : Url) (progress : Progress)
    (left : Nat) (page : σ) (run : Run σ) : Prop where
  destinations : run.trace.destinations = [] ∨ run.trace.destinations = [url.href]
  stays : model.IsAt target page → run.trace.destinations = [] ∧ model.IsAt target run.page
  report : ∀ report ∈ run.report, report.tally = { succeeded := report.dispatched } ∧
    (progress.index < report.dispatched → model.IsAt target run.page) ∧
    (report.state = .cancelled ∨
      report.state = .completed ∧ report.dispatched = progress.index + left)

/-- Only the first of the commands may have gone anywhere. -/
theorem Run.Reopened.next {progress : Progress} {left : Nat} {page : σ}
    {visit : Visited σ (Outcome × Variables)} {early : Trace} {run : Run σ}
    (hvisit : visit.Reopens model adopting target url page)
    (hearly : early.destinations = visit.result.1.destination?.toList)
    (hrun : Reopened model target url (advance progress visit) left visit.page run) :
    Reopened model target url progress (left + 1) page (run.after early) := by
  obtain ⟨hlater, hstill⟩ := hrun.stays hvisit.isAt
  have hall : (run.after early).trace.destinations = visit.result.1.destination?.toList := by
    rw [trace_after, Trace.destinations_append, hearly, hlater, List.append_nil]
  refine ⟨?_, fun hhere => ⟨?_, hstill⟩, fun report hmem => ?_⟩
  · rw [hall]
    rcases hvisit.outcome with hcompleted | hnavigated
    · rw [hcompleted]
      exact .inl rfl
    · rw [hnavigated]
      exact .inr rfl
  · rw [hall, hvisit.stays hhere]
    rfl
  · obtain ⟨hsucceeded, -, hstate⟩ := hrun.report report hmem
    refine ⟨hsucceeded, fun _ => hstill, hstate.imp_right (And.imp_right fun hdispatched => ?_)⟩
    rw [hdispatched, advance, Nat.add_assoc, Nat.add_comm 1]

theorem Run.drain_reopened (hadopts : model.Adopts adopting) (h : Url.parse target = .ok url)
    (hround : Url.parse url.href = .ok url) {config : Config}
    (hgoesOn : config.navigation.continueAfterOpen = true) {text : Option String}
    (htext : Template.substitute .empty text = target) (queue : List Command) (progress : Progress)
    (steering : Steering) {page : σ} (hpage : adopting page) (time : Nat)
    (hqueue : ∀ command ∈ queue, command = .openPage text) (hvars : progress.vars = .empty)
    (htally : progress.tally = { succeeded := progress.index }) :
    Reopened model target url progress queue.length page
      (drain model config queue progress steering page time) := by
  have hlooked {index now later : Nat} {clearance : Clearance} {looked : Trace}
      (hlook : Look index now clearance later looked) : looked.destinations = [] :=
    Trace.destinations_eq_nil hlook.records_eq_nil
  revert hpage hqueue hvars htally
  refine drain_induction model config
    (motive := fun queue progress page _ run => adopting page →
      (∀ command ∈ queue, command = .openPage text) → progress.vars = .empty →
      progress.tally = { succeeded := progress.index } →
      Reopened model target url progress queue.length page run)
    ?completed ?stuck ?cancelled ?left ?next queue progress steering page time
  case completed =>
    intro progress steering page time _ _ _ htally
    refine ⟨.inl rfl, fun hthere => ⟨rfl, hthere⟩, ?_⟩
    rintro _ ⟨⟩
    exact ⟨htally, fun hlt => absurd hlt (Nat.lt_irrefl _), .inr ⟨rfl, rfl⟩⟩
  case stuck =>
    intro command rest progress steering page time later looked hlook _ _ _ _
    exact ⟨.inl (hlooked hlook), fun hthere => ⟨hlooked hlook, hthere⟩,
      fun _ hmem => absurd hmem (Option.not_mem_none _)⟩
  case cancelled =>
    intro command rest progress steering page time later looked hlook _ _ _ htally
    have hnowhere : (looked ++ (finish .cancelled progress (rest.length + 1) steering page
        later).trace).destinations = [] := by
      rw [Trace.destinations_append, hlooked hlook]
      rfl
    refine ⟨.inl hnowhere, fun hthere => ⟨hnowhere, hthere⟩, ?_⟩
    rintro _ ⟨⟩
    exact ⟨htally, fun hlt => absurd hlt (Nat.lt_irrefl _), .inl rfl⟩
  case left =>
    intro command rest progress steering page time later looked visit destination hlook hvisit
      hleaves
    rw [(departure?_eq_some hleaves).2] at hgoesOn
    cases hgoesOn
  case next =>
    intro command rest progress page time later looked visit run hlook hvisit _ hrun hpage hqueue
      hvars htally
    obtain ⟨hcommand, hrest⟩ := List.forall_mem_cons.1 hqueue
    have hreopens : visit.Reopens model adopting target url page := by
      rw [hvisit, hcommand, hvars]
      exact perform_reopens hadopts h hround config progress.index htext hpage later
    have hcount : (advance progress visit).tally = { succeeded := progress.index + 1 } := by
      rw [advance, htally]
      rcases hreopens.outcome with hcompleted | hnavigated
      · rw [hcompleted]
        rfl
      · rw [hnavigated]
        rfl
    refine .next hreopens ?_ (hrun hreopens.adopting hrest hreopens.vars hcount)
    exact step_destinations hvisit.symm hlook
      (records_conclusion progress.index command visit.result.1 visit.time [])

/-- A run that nobody steers comes to an end and is not cancelled. -/
theorem Run.drain_standalone_report (model : PageModel σ) (config : Config) (queue : List Command)
    (progress : Progress) (page : σ) (time : Nat) :
    ∃ report, (drain model config queue progress .standalone page time).report = some report ∧
      report.state ≠ .cancelled := by
  induction queue generalizing progress page time with
  | nil => exact ⟨_, rfl, nofun⟩
  | cons command rest ih =>
    obtain ⟨visit, hvisit⟩ : ∃ visit,
      perform model config progress.vars progress.index command page time = visit := ⟨_, rfl⟩
    cases hdeparture : departure? config visit.result.1 with
    | some url =>
      rw [drain_standalone_left model config rest hvisit hdeparture]
      exact ⟨_, rfl, nofun⟩
    | none =>
      rw [drain_standalone_next model config rest hvisit hdeparture]
      exact ih _ _ _

/-- Opening an absolute URL again and again is opening it once. Let a page adopt the URLs that it is
sent to, and let a target, with its placeholders replaced, be a URL whose text reads as the same
URL. A run that opens the target any number of times, and that the settings let go on, sends the
page at most once, and to that URL; it does not send it at all if the page was there before, however
that location is written. Every command that it dispatches succeeds, and after the first one the
page is at the target. Unless it is cancelled the run dispatches them all, and it is not cancelled
if nobody steers it. -/
theorem opening_again_stays {model : PageModel σ} {adopting : σ → Prop}
    (hadopts : model.Adopts adopting) {config : Config}
    (hgoesOn : config.navigation.continueAfterOpen = true) {record : CommandRecord}
    (hopen : record.command = "open") {target : String}
    (htarget : Template.substitute .empty record.target = target) {url : Url}
    (hparse : Url.parse target = .ok url) (hround : Url.parse url.href = .ok url) {page : σ}
    (hpage : adopting page) (count : Nat) (steering : Steering) (time : Nat) :
    let done := run model config { commands := List.replicate count record } steering page time
    (done.trace.destinations = [] ∨ done.trace.destinations = [url.href]) ∧
      (model.IsAt target page → done.trace.destinations = []) ∧
      (∀ report ∈ done.report, report.tally = { succeeded := report.dispatched } ∧
        (0 < report.dispatched → model.IsAt target done.page) ∧
        (report.state = .cancelled ∨ report.state = .completed ∧ report.dispatched = count)) ∧
      (steering = .standalone → ∃ report, done.report = some report ∧
        report.state = .completed) := by
  intro done
  have hqueue : ∀ command ∈
      Command.ofScript config.keys { commands := List.replicate count record },
      command = .openPage record.target := by
    intro command hmem
    obtain ⟨other, hother, rfl⟩ := List.mem_map.1 hmem
    rw [List.eq_of_mem_replicate hother, Command.ofRecord, hopen]
    rfl
  have hlength : (Command.ofScript config.keys
      { commands := List.replicate count record }).length = count := by
    rw [Command.ofScript, List.length_map, List.length_replicate]
  obtain ⟨hdestinations, hstays, hreport⟩ := Run.drain_reopened hadopts hparse hround hgoesOn
    htarget _ {} steering hpage time hqueue rfl rfl
  have hdone (report : Report) (hmem : report ∈ done.report) :
      report.state = .cancelled ∨ report.state = .completed ∧ report.dispatched = count := by
    have hstate := (hreport report hmem).2.2
    rwa [hlength, Nat.zero_add] at hstate
  refine ⟨hdestinations, fun hthere => (hstays hthere).1, fun report hmem =>
    ⟨(hreport report hmem).1, (hreport report hmem).2.1, hdone report hmem⟩, ?_⟩
  rintro rfl
  obtain ⟨report, hsome, hstate⟩ := Run.drain_standalone_report model config
    (Command.ofScript config.keys { commands := List.replicate count record }) {} page time
  exact ⟨report, hsome, ((hdone report hsome).resolve_left hstate).1⟩

/-- Here the page is at another place, and the URL is not written in its normal form. -/
theorem opening_three_times_goes_once :
    let page : Rehearsal.Page := { url := some "app://shop/cart" }
    let config : Config := { navigation := { continueAfterOpen := true } }
    let record : CommandRecord := { command := "open", target := some "app://shop/x/../list" }
    let done := run Rehearsal.respond config { commands := List.replicate 3 record } .standalone
      page 0
    done.trace.destinations = ["app://shop/list"] ∧
      PageModel.IsAt Rehearsal.respond "app://shop/x/../list" done.page ∧
      done.report.map Report.tally = some { succeeded := 3 } := by
  intro page config record done
  have hparse : Url.parse "app://shop/x/../list" =
      .ok { scheme := "app", authority := some { host := "shop" }, path := "/list" } := by
    decide +kernel
  obtain ⟨hdestinations, -, hreport, hends⟩ := opening_again_stays Rehearsal.respond_adopts
    (by rfl : config.navigation.continueAfterOpen = true) (by rfl : record.command = "open")
    (by decide +kernel : Template.substitute .empty record.target = "app://shop/x/../list") hparse
    (by decide +kernel) (by exact ⟨rfl, rfl⟩ : page.frozen = false ∧ page.faults = []) 3 .standalone
    0
  obtain ⟨report, hsome, hcompleted⟩ := hends rfl
  obtain ⟨htally, hthere, hstate⟩ := hreport report hsome
  have hdispatched : report.dispatched = 3 := by
    rcases hstate with hcancelled | ⟨-, hdispatched⟩
    · rw [hcompleted] at hcancelled
      cases hcancelled
    · exact hdispatched
  rw [hdispatched] at htally hthere
  refine ⟨hdestinations.resolve_left (by decide +kernel), hthere (by decide), ?_⟩
  rw [hsome, Option.map_some, htally]

end Runs

end BrowserReplay
