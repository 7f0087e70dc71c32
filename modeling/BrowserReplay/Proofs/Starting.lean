import BrowserReplay.Proofs.Boundary
import BrowserReplay.Proofs.Stored
import BrowserReplay.Rehearsal.Page

/-!
# When commands start

Commands start only while the signal says to proceed, and the page is called only by commands that
have started. A cancel that is not taken back is heeded at the boundary to which the run comes next,
and so is a pause that nobody is left to end.
-/

namespace BrowserReplay

/-! ### Calls -/

theorem Trace.active_of_announcements {trace : Trace} (h : trace.announcements = []) :
    trace.active = trace.filter (·.call?.isSome) := by
  refine List.filter_congr fun entry hentry => ?_
  obtain ⟨time, call | event | line | notice⟩ := entry
  · rfl
  · have hevent : (time, event) ∈ trace.events := List.mem_filterMap.2 ⟨_, hentry, rfl⟩
    have hkind := List.filter_eq_nil_iff.1 h (time, event) hevent
    exact Bool.eq_false_iff.2 hkind
  · rfl
  · rfl

theorem Trace.time_le_of_mem_calls {early late : Nat} {trace : Trace}
    (h : Trace.Spans late early trace) : ∀ call ∈ trace.calls, call.1 ≤ late := by
  intro call hcall
  obtain ⟨⟨time, what⟩, hentry, hwhat⟩ := List.mem_filterMap.1 hcall
  cases what <;> cases hwhat
  exact h.entry_le _ hentry

namespace Performance

variable (model : PageModel σ) (config : Config)

def announcement (performance : Performance σ) : Entry :=
  ⟨performance.time,
    .event (Perform.started config performance.vars performance.index performance.command)⟩

def activity (performance : Performance σ) : Trace :=
  performance.announcement config ::
    (performance.visit model config).trace.filter (·.call?.isSome)

/-- A command announces itself first, and nothing else. -/
theorem active_visit (performance : Performance σ) :
    (performance.visit model config).trace.active = performance.activity model config := by
  obtain ⟨command, vars, index, page, time⟩ := performance
  have hbody := (Perform.act_finished model config vars index command page time).told
  have hact := Trace.active_of_announcements (Trace.announcements_eq_nil
    (EventWord.number_eq_zero_of_isAside (fun _ => hbody.isAside) rfl))
  have htrace : (visit model config ⟨command, vars, index, page, time⟩).trace =
      [⟨time, .event (Perform.started config vars index command)⟩] ++
        (Perform.act model config vars index command page time).trace := rfl
  rw [activity, announcement, htrace, Trace.active_append, hact, List.filter_append]
  unfold Perform.started
  cases command <;> rfl

/-- A command that is performed is announced. -/
theorem time_mem_starts {trace : Trace} {performances : List (Performance σ)}
    (hactive : trace.active = performances.flatMap (activity model config))
    {performance : Performance σ} (h : performance ∈ performances) :
    performance.time ∈ trace.starts := by
  have hentry : performance.announcement config ∈ trace.active := by
    rw [hactive]
    exact List.mem_flatMap.2 ⟨performance, h, List.mem_cons_self⟩
  obtain ⟨hentry, hkind⟩ := List.mem_filter.1 hentry
  have hevent : (performance.time, Perform.started config performance.vars performance.index
      performance.command) ∈ trace.events :=
    List.mem_filterMap.2 ⟨_, hentry, rfl⟩
  exact List.mem_map.2 ⟨_, List.mem_filter.2 ⟨hevent, hkind⟩, rfl⟩

theorem calls_le (performance : Performance σ) :
    ∀ call ∈ (performance.visit model config).trace.calls,
      call.1 ≤ (performance.visit model config).time :=
  Trace.time_le_of_mem_calls ((perform_composed model config _ _ _).spans _ _)

end Performance

/-- What one command does comes before the next one begins. -/
theorem calls_le_of_apart {model : PageModel σ} {config : Config}
    {performances : List (Performance σ)}
    (hapart : performances.Pairwise fun early late => (early.visit model config).time ≤ late.time)
    {bound : Nat} (hbound : ∀ performance ∈ performances, performance.time ≤ bound) :
    ∀ performance ∈ performances.dropLast,
      ∀ call ∈ (performance.visit model config).trace.calls, call.1 ≤ bound := by
  intro performance hperformance call hcall
  have hne : performances ≠ [] := fun hnil => by
    rw [hnil] at hperformance
    cases hperformance
  rw [← List.dropLast_append_getLast hne, List.pairwise_append] at hapart
  have hlast := hapart.2.2 performance hperformance _ (List.mem_singleton.2 rfl)
  exact Nat.le_trans (performance.calls_le model config call hcall)
    (Nat.le_trans hlast (hbound _ (List.getLast_mem hne)))

/-! ### Ends -/

namespace Boundary

/-- A cancel that is not taken back ends the run at the next boundary, unless the command in flight
is the last one or leaves the page. -/
theorem run_cancelled (model : PageModel σ) (config : Config) {cancel : Nat} (boundary : Boundary σ)
    (hdoomed : Signal.Doomed cancel boundary.steering.signal boundary.steering.upcoming) :
    ∃ report, (boundary.run model config).report = some report ∧
      ((∃ url, report.state = .navigating url) ∨
        (report.state = .completed ∧ report.remaining = 0) ∨
        (report.state = .cancelled ∧ 0 < report.remaining ∧
          ∃ trace last, Reaches model config boundary trace last ∧
            last.queue.length = report.remaining ∧
            last.time ≤ (boundary.run model config).time ∧
            (boundary.run model config).time ≤ max last.time cancel)) := by
  obtain ⟨trace, last, past, stopped, hreaches, hpasses, hrun, hstops⟩ :=
    exists_stop model config boundary
  have hlast := hpasses.doomed hdoomed
  rw [hrun]
  cases hstops with
  | completed progress steering page time => exact ⟨_, rfl, .inr (.inl ⟨rfl, rfl⟩)⟩
  | @stuck _ _ progress steering _ _ time _ _ hlook =>
    have hheeds := Run.checkpoint_heeds steering progress.index time
    rw [hlook] at hheeds
    exact (hheeds.ne_never hlast).elim
  | @cancelled _ rest progress steering _ _ time _ _ hlook =>
    have htime := Run.checkpoint_time_le hlast progress.index time
    have hle := (Run.look_of_checkpoint hlook).le
    rw [hlook] at htime
    exact ⟨_, rfl, .inr (.inr ⟨rfl, Nat.succ_pos rest.length, trace, _, hreaches, rfl, hle, htime⟩)⟩
  | @left _ _ _ _ _ _ _ _ _ _ url _ _ _ => exact ⟨_, rfl, .inl ⟨url, rfl⟩⟩

/-- A run that is paused at a boundary when nobody holds a control any more is cancelled there. -/
theorem run_dropped (model : PageModel σ) (config : Config) {boundary : Boundary σ}
    (h : boundary.StaysPaused) (hdropped : boundary.steering.attended = false) :
    ∃ report, (boundary.run model config).report = some report ∧ report.state = .cancelled ∧
      report.remaining = boundary.queue.length := by
  obtain ⟨_ | ⟨command, rest⟩, progress, steering, page, time⟩ := boundary
  · exact absurd rfl h.1
  have hcancel := Run.checkpoint_of_staysPaused progress.index time h.2
  rw [run, Run.drain]
  revert hcancel
  obtain ⟨clearance, later, after, looked⟩ := Run.checkpoint steering progress.index time
  simp only at hdropped ⊢
  rw [hdropped]
  rintro rfl
  exact ⟨_, rfl, rfl, rfl⟩

end Boundary

/-! ### Whole runs -/

/-- Commands start only while the signal says to proceed. All calls to the page are made by commands
that have started: what the trace has of announcements and calls is, for each command that is
performed, its announcement and then its calls. After a cancel that is not taken back no command
starts and only the command in flight, the last one that has started, calls the page; the run ends
when it comes to the next boundary or, if it is paused then, at the cancel: cancelled if commands are
left, and completed otherwise, unless the command in flight leaves the page. A run that is paused
when the last control is dropped ends there as cancelled. -/
theorem commands_start_under_proceed (model : PageModel σ) (config : Config) (script : Script)
    (steering : Steering) (hordered : steering.Ordered) (page : σ) (time : Nat) :
    let done := run model config script steering page time
    let first := Boundary.first config script steering page time
    (∀ start ∈ done.trace.starts, steering.Stands start .proceed) ∧
      (∃ performances last,
        performances.map Performance.command = first.queue.take performances.length ∧
        Chain model config .empty 0 page performances last done.page ∧
        done.trace.active = performances.flatMap (Performance.activity model config) ∧
        (∀ performance ∈ performances, steering.Stands performance.time .proceed) ∧
        ∀ cancel, steering.CancelledAt cancel →
          (∀ performance ∈ performances, performance.time ≤ cancel) ∧
          ∀ performance ∈ performances.dropLast,
            ∀ call ∈ (performance.visit model config).trace.calls, call.1 ≤ cancel) ∧
      (∀ cancel, steering.CancelledAt cancel →
        (∀ start ∈ done.trace.starts, start ≤ cancel) ∧
        ∃ report, done.report = some report ∧
          ((∃ url, report.state = .navigating url) ∨
            (report.state = .completed ∧ report.remaining = 0) ∨
            (report.state = .cancelled ∧ 0 < report.remaining ∧
              ∃ trace last, Boundary.Reaches model config first trace last ∧
                last.queue.length = report.remaining ∧ last.time ≤ done.time ∧
                done.time ≤ max last.time cancel))) ∧
      (steering.attended = false → ∀ trace last, Boundary.Reaches model config first trace last →
        last.StaysPaused →
        ∃ report, done.report = some report ∧ report.state = .cancelled ∧
          report.remaining = last.queue.length) := by
  intro done first
  have hdone : done = (first.run model config).after
      [⟨time, .event (.runStarted first.queue.length)⟩] := rfl
  have hstarts : done.trace.starts = (first.run model config).trace.starts := rfl
  have hstands : ∀ start ∈ done.trace.starts, steering.Stands start .proceed := by
    rw [hstarts]
    exact fun start hstart => first.stands_of_mem_starts model config hordered hstart
  refine ⟨hstands, ?_, fun cancel hcancel => ⟨fun start hstart => ?_, ?_⟩, ?_⟩
  · obtain ⟨performances, last, hcommands, -, hchain, -, -, -, hactive, -, hapart⟩ :=
      Run.drain_performs model config first.queue {} steering page time
    have hactive : done.trace.active = performances.flatMap (Performance.activity model config) :=
      hactive.trans (List.flatMap_congr fun performance _ => performance.active_visit model config)
    have hstanding : ∀ performance ∈ performances, steering.Stands performance.time .proceed :=
      fun performance hperformance =>
        hstands _ (Performance.time_mem_starts model config hactive hperformance)
    refine ⟨performances, last, hcommands, hchain, hactive, hstanding, fun cancel hcancel => ?_⟩
    have hbound : ∀ performance ∈ performances, performance.time ≤ cancel :=
      fun performance hperformance =>
        (hstanding performance hperformance).le_of_doomed (hcancel.doomed hordered)
    exact ⟨hbound, calls_le_of_apart hapart hbound⟩
  · exact (hstands start hstart).le_of_doomed (hcancel.doomed hordered)
  · exact Boundary.run_cancelled model config first (hcancel.doomed hordered)
  · intro hdropped trace last hreaches hpaused
    rw [hdone, Run.report_after, hreaches.run_eq]
    obtain ⟨past, hpasses, -⟩ := hreaches.passes
    exact Boundary.run_dropped model config hpaused (hpasses.attended.trans hdropped)

/-- Three stores, of which the second is put off by a pause and the third is cancelled. -/
theorem cancelled_stores_stop :
    let script : Script := ⟨none, none, List.replicate 3 ⟨"store", some "x", some "name", [], none⟩⟩
    let steering := Steering.ofTimeline [(50, .pause), (900, .resume), (1000, .cancel)]
    let done := run Rehearsal.respond {} script steering {} 0
    done.trace.starts = [0, 900] ∧ (∀ start ∈ done.trace.starts, steering.Stands start .proceed) ∧
      steering.CancelledAt 1000 ∧
      ∃ report, done.report = some report ∧ report.state = .cancelled ∧ report.remaining = 1 := by
  intro script steering done
  obtain ⟨hstands, -, hends, -⟩ := commands_start_under_proceed Rehearsal.respond {} script steering
    (Steering.ordered_ofTimeline _) {} 0
  have hcancel : steering.CancelledAt 1000 :=
    ⟨[⟨50, false, [.pause]⟩, ⟨900, false, [.resume]⟩], ⟨1000, false, [.cancel]⟩, [], rfl, rfl,
      ⟨[], [], rfl, nofun⟩, nofun⟩
  obtain ⟨report, hreport, _⟩ := (hends 1000 hcancel).2
  have hdone : done.report.map (fun report => (report.state, report.remaining)) =
      some (.cancelled, 1) := by
    decide +kernel
  rw [hreport] at hdone
  refine ⟨by decide +kernel, hstands, hcancel, report, hreport, ?_⟩
  exact Prod.ext_iff.1 (Option.some.inj hdone)

end BrowserReplay
