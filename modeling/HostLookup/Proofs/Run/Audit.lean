import HostLookup.Proofs.Run.Causes

/-!
# The account of the driver

The driver does a fixed list of deeds for the names of the data files, as a worker does for its
items: it puts a name that fits into the queue and counts it, and it reports and counts one that
does not. It stops short only if the queue is closed or the report is refused, and then it keeps a
failure. Then it adds up the reports of the workers in the order in which it joins them.

* **`Run.Audit`**: what the driver has done, what is left to do as long as it keeps no failure, and
  what its account says about it.
* **`Run.Audit.move`**: every step keeps to it.
-/

namespace HostLookup

/-- The report of a name that does not fit a slot of so many usable bytes. -/
def Run.rejectionOf (max : Nat) (file : String) : String :=
  rejection (.item file (QueueError.itemTooLarge file.utf8ByteSize max).message)

/-- What the driver does about the name of a data file. -/
def Run.feedDeeds (max : Nat) (file : String) : List Deed :=
  if file.utf8ByteSize ≤ max then [.put file, .produced]
  else [.report (rejectionOf max file), .erred]

/-- What is left to do about the names of the data files. -/
def DriverActivity.leftToFeed (max : Nat) : DriverActivity → List Deed
  | .feeding file (.entering _) later => Run.feedDeeds max file ++ later.flatMap (Run.feedDeeds max)
  | .feeding _ (.admitted item) later =>
    .put item :: .produced :: later.flatMap (Run.feedDeeds max)
  | .feeding _ .stored later => .produced :: later.flatMap (Run.feedDeeds max)
  | .rejecting failure later =>
    .report (Run.rejection failure) :: .erred :: later.flatMap (Run.feedDeeds max)
  | _ => []

/-- Is the driver done with the names of the data files? -/
def DriverActivity.isPastNames : DriverActivity → Bool
  | .feeding .. | .rejecting .. => false
  | _ => true

/-- Past the names there is nothing left to feed. -/
theorem DriverActivity.leftToFeed_of_isPastNames {activity : DriverActivity} (max : Nat)
    (h : activity.isPastNames = true) : activity.leftToFeed max = [] := by
  cases activity with
  | feeding | rejecting => cases h
  | _ => rfl

theorem DriverActivity.leftToFeed_feed (max : Nat) (files : List String) :
    (Run.feed files).leftToFeed max = files.flatMap (Run.feedDeeds max) := by
  cases files <;> rfl

/-! ## What the driver's deeds come to

The deeds for a list of names, read in four ways: what is put, what is reported, what is counted as
put and what as skipped. All four are inductions on the list, with one case for a name that fits and
one for a name that does not. -/

namespace Run

variable (max : Nat) (names : List String)

/-- Of the names only those are put that fit. -/
theorem filterMap_put_feed : (names.flatMap (feedDeeds max)).filterMap Deed.put? =
    names.filter fun file => file.utf8ByteSize ≤ max := by
  induction names with
  | nil => rfl
  | cons file rest ih =>
    rw [List.flatMap_cons, List.filterMap_append, ih]
    by_cases hle : file.utf8ByteSize ≤ max <;>
      simp [feedDeeds, Deed.put?, hle, List.filterMap_cons]

/-- The others are reported to the standard error. -/
theorem filterMap_report_feed :
    (names.flatMap (feedDeeds max)).filterMap (Deed.lineTo .stderr .stderr) =
      (names.filter fun file => !decide (file.utf8ByteSize ≤ max)).map (rejectionOf max) := by
  induction names with
  | nil => rfl
  | cons file rest ih =>
    rw [List.flatMap_cons, List.filterMap_append, ih]
    by_cases hle : file.utf8ByteSize ≤ max <;>
      simp [feedDeeds, Deed.lineTo, hle, List.filterMap_cons]

/-- No other sink hears of them. -/
theorem filterMap_other_feed {sink : Sink} (hsink : sink ≠ .stderr) :
    (names.flatMap (feedDeeds max)).filterMap (Deed.lineTo .stderr sink) = [] := by
  rw [List.filterMap_flatMap]
  refine List.flatMap_eq_nil_iff.mpr fun file _ => ?_
  by_cases hle : file.utf8ByteSize ≤ max <;> simp [feedDeeds, Deed.lineTo, hle, Ne.symm hsink]

theorem count_produced_feed : (names.flatMap (feedDeeds max)).count .produced =
    (names.filter fun file => file.utf8ByteSize ≤ max).length := by
  induction names with
  | nil => rfl
  | cons file rest ih =>
    rw [List.flatMap_cons, List.count_append, ih]
    by_cases hle : file.utf8ByteSize ≤ max <;> simp [feedDeeds, hle, Nat.add_comm]

theorem count_erred_feed : (names.flatMap (feedDeeds max)).count .erred =
    (names.filter fun file => !decide (file.utf8ByteSize ≤ max)).length := by
  induction names with
  | nil => rfl
  | cons file rest ih =>
    rw [List.flatMap_cons, List.count_append, ih]
    by_cases hle : file.utf8ByteSize ≤ max <;> simp [feedDeeds, hle, Nat.add_comm]

end Run

/-! ## The account of the driver

An account has two columns: what the driver has done for the names so far and what is left. Every
step moves deeds from the second to the first, or drops what is left together with a failure that is
kept. -/

/-- How many workers of a stage the driver has joined, out of so many. -/
def Standing.joined (workers : Nat) : Standing → Nat
  | .ahead | .draining _ => 0
  | .joining next => next
  | .finishing | .done => workers

theorem Standing.hasJoined_of_lt {workers j : Nat} {standing : Standing}
    (h : j < standing.joined workers) : standing.HasJoined j := by
  cases standing with
  | ahead | draining => exact absurd h (Nat.not_lt_zero j)
  | joining => exact h
  | finishing | done => trivial

/-- The report of a worker that has ended. -/
def Worker.report? (w : Worker) : Option WorkerReport :=
  match w.activity with
  | .ended report => some report
  | _ => none

/-- Adds reports one after the other. -/
def RunSummary.recordAll (summary : RunSummary) (reports : List WorkerReport) : RunSummary :=
  reports.foldl RunSummary.record summary

namespace Run

variable {told : Instructions} {run run' : Run} {actor : Actor} {history : History}

/-- The workers of a stage that the driver has joined. -/
def joinedOf (run : Run) (stage : Stage) : List Worker :=
  (run.workers stage).take
    ((run.driver.activity.standing stage).joined (run.workers stage).length)

/-- The reports that the driver has taken. -/
def joinedReports (run : Run) : List WorkerReport :=
  (run.joinedOf .requester ++ run.joinedOf .resolver).filterMap Worker.report?

/-- The summary after these deeds, and before the first worker was joined. So many data files were
left out at once. -/
def fedSummary (skipped : Nat) (done : List Deed) : RunSummary where
  filesEnqueued := done.count .produced
  filesSkipped := skipped + done.count .erred
  itemErrors := done.count .erred

/-- The account of a driver that has done the deeds `done` for `names`. -/
structure Audit (sentinel : Sentinel) (max skipped : Nat) (names : List String) (history : History)
    (run : Run) (done : List Deed) : Prop where
  limit : (run.queue .requester).maxItemLength = max
  carries : ∀ file call later, run.driver.activity = .feeding file call later →
    ∀ item, call.item? = some item → item = file
  sublist : (done ++ run.driver.activity.leftToFeed max).Sublist (names.flatMap (feedDeeds max))
  /-- A driver that keeps no failure has left out nothing. -/
  left : run.driver.account.kept = none →
    done ++ run.driver.activity.leftToFeed max = names.flatMap (feedDeeds max)
  stored : (history.stored .requester).filter (· ≠ sentinel.text) = done.filterMap Deed.put?
  lines : run.driver.account.kept = none → ∀ sink,
    (history.of .driver).lines sink = done.filterMap (Deed.lineTo .stderr sink)
  summary : run.driver.account.summary = (fedSummary skipped done).recordAll run.joinedReports

/-! ## Who has been joined

The summary grows by one report each time a worker is joined, and the driver joins in the order of
the workers, first the requesters. So the reports it has taken are a beginning of the list of all
workers (`joinedReports`), and no worker in it moves again. -/

theorem joinedOf_eq {stage : Stage} (hworkers : run'.workers stage = run.workers stage)
    (hjoined : (run'.driver.activity.standing stage).joined (run.workers stage).length =
      (run.driver.activity.standing stage).joined (run.workers stage).length) :
    run'.joinedOf stage = run.joinedOf stage := by
  rw [joinedOf, joinedOf, hworkers, hjoined]

/-- Who has been joined makes no step any more. -/
theorem Moves.joinedOf_worker {own : Stage} {i : Nat} {sentinel : Sentinel}
    (h : Moves told run (.worker own i) run') (horderly : Orderly sentinel history run)
    (stage : Stage) : run'.joinedOf stage = run.joinedOf stage := by
  have hdriver := h.driver_eq (by simp)
  rcases h.ownWorker stage with ⟨j, w, w', desk, -, hplace, hworker, hset, -⟩ | ⟨-, hsame⟩
  · -- the worker goes on, so the driver has not joined it yet
    have hlate : (run.driver.activity.standing stage).joined (run.workers stage).length ≤ j := by
      refine Nat.not_lt.mp fun hlt => ?_
      have hover := horderly.joined stage j w hplace (Standing.hasJoined_of_lt hlt)
      rw [hworker.isOver_eq_false] at hover
      contradiction
    rw [joinedOf, joinedOf, hdriver, hset, List.length_set, List.take_set_of_le hlate]
  · exact joinedOf_eq hsame (by rw [hdriver])

/-- While the driver is busy with names, nobody has been joined. -/
theorem joinedReports_eq_nil
    (h : ∀ stage, run.driver.activity.standing stage = .ahead ∨
      run.driver.activity.standing stage = .draining .claiming) : run.joinedReports = [] := by
  have hnone : ∀ stage, run.joinedOf stage = [] := by
    intro stage
    rw [joinedOf]
    rcases h stage with heq | heq <;> rw [heq] <;> rfl
  rw [joinedReports, hnone, hnone]
  rfl

/-- The report of a worker that is joined is the next one, if it hands in a report. -/
theorem joinedReports_join {own : Stage} {next : Nat} {w : Worker}
    (hactivity : run.driver.activity = .joining own next)
    (hplace : (run.workers own)[next]? = some w) (change : Account → Account) :
    Run.joinedReports ((run.update change).turnTo (.joining own (next + 1))) =
      run.joinedReports ++ w.report?.toList := by
  have hreport : [w].filterMap Worker.report? = w.report?.toList := by
    cases hreport : w.report? <;> simp [hreport]
  have hown : Run.joinedOf ((run.update change).turnTo (.joining own (next + 1))) own =
      run.joinedOf own ++ [w] := by
    rw [joinedOf, joinedOf, hactivity]
    simp only [activity_turnTo, workers_turnTo, workers_update, DriverActivity.standing,
      Standing.seenFrom_self, Standing.joined]
    rw [List.take_add_one, hplace]
    rfl
  rw [joinedReports, joinedReports]
  cases own with
  | requester =>
    -- the resolvers come later: none of them has been joined
    have hnone : run.joinedOf .resolver = [] := by
      rw [joinedOf, hactivity]
      rfl
    have hnone' : Run.joinedOf ((run.update change).turnTo
        (.joining .requester (next + 1))) .resolver = [] := rfl
    rw [hown, hnone, hnone', List.append_nil, List.append_nil, List.filterMap_append, hreport]
  | resolver =>
    -- the requesters came before: all of them have been joined
    have hall : Run.joinedOf ((run.update change).turnTo
        (.joining .resolver (next + 1))) .requester = run.joinedOf .requester :=
      joinedOf_eq rfl (by rw [hactivity]; rfl)
    rw [hown, hall, ← List.append_assoc, List.filterMap_append, hreport]

/-- Joining adds the report of a worker that has one; a worker that failed adds nothing. -/
theorem summary_join {w : Worker} {result : Except Failure WorkerReport} (account : Account)
    (hresult : w.result? = some result) :
    (account.join result).summary = account.summary.recordAll w.report?.toList := by
  unfold Worker.result? at hresult
  unfold Worker.report?
  cases hactivity : w.activity <;> rw [hactivity] at hresult <;> cases hresult <;> rfl

/-! ## Every step keeps to the account

`Audit.goesOn` is the general step, with the deeds that the driver does at it. Steps at which it
does none are `Audit.keeps`, and steps at which it gives up the rest of the names `Audit.drops`. -/

/-- Nobody but the driver puts anything into the first queue. -/
theorem stored_requester_of_ne (run : Run) (hne : actor ≠ .driver) :
    (run.queue .requester).stored (run.callOn actor .requester) = [] := by
  cases actor with
  | driver => exact absurd rfl hne
  | outsider => rfl
  | worker own i =>
    cases own with
    | requester => exact stored_of_own
    | resolver =>
      have hnone : run.callOn (.worker .resolver i) .requester = none := by
        simp [callOn, hasTarget]
      rw [hnone]
      rfl

/-- A drain puts sentinels and nothing else. -/
theorem filter_stored_drain {sentinel : Sentinel} {own : Stage} {call : DrainCall}
    (horderly : Orderly sentinel history run)
    (hactivity : run.driver.activity = .draining own call) (stage : Stage) :
    ((run.queue stage).stored (run.callOn .driver stage)).filter (· ≠ sentinel.text) = [] := by
  refine List.filter_eq_nil_iff.mpr fun item hmem => ?_
  have hlaw := horderly.law own
  rw [hactivity] at hlaw
  simp only [DriverActivity.standing, Standing.seenFrom_self] at hlaw
  simp only [callOn, hactivity, DriverActivity.callOn] at hmem
  split at hmem
  · cases call with
    | putting later put =>
      have hitem := hlaw.2 item (Queue.item?_of_mem_stored hmem)
      simp [hitem]
    | _ => simp [DrainCall.putCall] at hmem
  · simp at hmem

namespace Audit

variable {sentinel : Sentinel} {max skipped : Nat} {names : List String} {done now : List Deed}

/-- A step at which the driver writes no line leaves no line of it in the history. -/
theorem lines_of_silent (hline : run.lineOf told .driver = none) (sink : Sink) :
    ((events told .driver run).of .driver).lines sink = [] := by
  rw [of_events, if_pos rfl, lines_events, hline]
  rfl

/-- A step at which the driver does the deeds `now`. -/
theorem goesOn (h : Audit sentinel max skipped names history run done)
    (hmove : Moves told run actor run')
    (hcarries : ∀ file call later, run'.driver.activity = .feeding file call later →
      ∀ item, call.item? = some item → item = file)
    (hsublist : (now ++ run'.driver.activity.leftToFeed max).Sublist
      (run.driver.activity.leftToFeed max))
    (hleft : run'.driver.account.kept = none →
      now ++ run'.driver.activity.leftToFeed max = run.driver.activity.leftToFeed max)
    (hstored : ((run.queue .requester).stored (run.callOn actor .requester)).filter
      (· ≠ sentinel.text) = now.filterMap Deed.put?)
    (hlines : run'.driver.account.kept = none → ∀ sink,
      ((events told actor run).of .driver).lines sink =
        now.filterMap (Deed.lineTo .stderr sink))
    (hsummary : run'.driver.account.summary =
      (fedSummary skipped (done ++ now)).recordAll run'.joinedReports) :
    Audit sentinel max skipped names (history ++ events told actor run) run' (done ++ now) where
  limit := by
    have hgeometry := (hmove.turn .requester).geometry.2.2
    rw [← h.limit, Queue.maxItemLength, Queue.maxItemLength, hgeometry]
  carries := hcarries
  sublist := by
    rw [List.append_assoc]
    exact (hsublist.append_left done).trans h.sublist
  left hkept := by rw [List.append_assoc, hleft hkept, h.left (hmove.kept_eq_none hkept)]
  stored := by
    rw [History.stored_append, stored_events, List.filter_append, h.stored, hstored,
      List.filterMap_append]
  lines hkept sink := by
    rw [History.of_append, History.lines_append, h.lines (hmove.kept_eq_none hkept), hlines hkept,
      List.filterMap_append]
  summary := hsummary

/-- A step at which the driver does nothing about the names. -/
theorem keeps (h : Audit sentinel max skipped names history run done)
    (hmove : Moves told run actor run')
    (hfeeding : ∀ file call later, run'.driver.activity = .feeding file call later →
      run.driver.activity = .feeding file call later)
    (hleft : run'.driver.activity.leftToFeed max = run.driver.activity.leftToFeed max)
    (hstored : ((run.queue .requester).stored (run.callOn actor .requester)).filter
      (· ≠ sentinel.text) = [])
    (hlines : actor = .driver → run.lineOf told .driver = none)
    (hsummary : run'.driver.account.summary =
      (fedSummary skipped done).recordAll run'.joinedReports) :
    Audit sentinel max skipped names (history ++ events told actor run) run' done := by
  have hlines' : ∀ sink, ((events told actor run).of .driver).lines sink = [] := by
    intro sink
    by_cases hdriver : actor = .driver
    · subst hdriver
      exact lines_of_silent (hlines rfl) sink
    · rw [of_events, if_neg hdriver]
      rfl
  have hkept : Audit sentinel max skipped names (history ++ events told actor run) run'
      (done ++ []) :=
    h.goesOn hmove
      (fun file call later heq => h.carries file call later (hfeeding file call later heq))
      (by rw [hleft]; exact .refl _) (fun _ => hleft) hstored (fun _ => hlines')
      (by rw [List.append_nil]; exact hsummary)
  rwa [List.append_nil] at hkept

/-- A step of a driver that is past the names: it puts none of them, writes no line, joins nobody
and leaves its summary as it is. -/
theorem pastNames (h : Audit sentinel max skipped names history run done)
    (hmove : Moves told run .driver run') (hpast : run.driver.activity.isPastNames = true)
    (hpast' : run'.driver.activity.isPastNames = true)
    (hstored : ((run.queue .requester).stored (run.callOn .driver .requester)).filter
      (· ≠ sentinel.text) = [])
    (hjoined : ∀ stage, run'.joinedOf stage = run.joinedOf stage)
    (hsummary : run'.driver.account.summary = run.driver.account.summary) :
    Audit sentinel max skipped names (history ++ events told .driver run) run' done := by
  refine h.keeps hmove ?_ ?_ hstored (fun _ => ?_) ?_
  · intro file call later heq
    rw [heq] at hpast'
    cases hpast'
  · rw [DriverActivity.leftToFeed_of_isPastNames max hpast,
      DriverActivity.leftToFeed_of_isPastNames max hpast']
  · cases hactivity : run.driver.activity with
    | rejecting =>
      rw [hactivity] at hpast
      cases hpast
    | _ => rw [lineOf, hactivity]
  · rw [hsummary, joinedReports, hjoined, hjoined]
    exact h.summary

/-- The driver keeps a failure, and what was left to do about the names is dropped. -/
theorem drops (h : Audit sentinel max skipped names history run done)
    (hmove : Moves told run .driver run') (hactivity : run'.driver.activity = feed [])
    (hkept : run'.driver.account.kept ≠ none)
    (hstored : ((run.queue .requester).stored (run.callOn .driver .requester)).filter
      (· ≠ sentinel.text) = [])
    (hsummary : run'.driver.account.summary =
      (fedSummary skipped done).recordAll run'.joinedReports) :
    Audit sentinel max skipped names (history ++ events told .driver run) run' done := by
  have hdropped : Audit sentinel max skipped names (history ++ events told .driver run) run'
      (done ++ []) := by
    refine h.goesOn hmove ?_ ?_ (fun hnone => absurd hnone hkept) hstored
      (fun hnone => absurd hnone hkept) (by rw [List.append_nil]; exact hsummary)
    · rw [hactivity]
      nofun
    · rw [hactivity]
      exact List.nil_sublist _
  rwa [List.append_nil] at hdropped

theorem summary_feeding (h : Audit sentinel max skipped names history run done)
    (hahead : ∀ stage, run.driver.activity.standing stage = .ahead) :
    run.driver.account.summary = fedSummary skipped done := by
  rw [h.summary, joinedReports_eq_nil fun stage => Or.inl (hahead stage)]
  rfl

theorem carries_feed (files : List String) (file : String) (call : PutCall) (later : List String)
    (heq : Run.feed files = .feeding file call later) :
    ∀ item, call.item? = some item → item = file := by
  intro item hitem
  cases files with
  | nil => contradiction
  | cons first rest =>
    injection heq with hfile hcall
    subst hfile hcall
    exact (Option.some.inj hitem).symm

theorem feed (h : Audit sentinel max skipped names history run done) {file : String}
    {call call' : PutCall} {later : List String} {files : Queue}
    (hactivity : run.driver.activity = .feeding file call later)
    (hstep : call.step run.files = some (.goesOn call', files))
    (hnames : sentinel.text ∉ run.driver.activity.names) :
    ∃ now, Audit sentinel max skipped names (history ++ events told .driver run)
      ((run.setQueue .requester files).turnTo (.feeding file call' later)) (done ++ now) := by
  have hput := PutCall.moves_of_step hstep
  have hmove : Moves told run .driver _ := .feed hactivity hstep
  have hsummary := h.summary_feeding fun stage => by rw [hactivity]; rfl
  have hnone : Run.joinedReports
      ((run.setQueue .requester files).turnTo (.feeding file call' later)) = [] :=
    joinedReports_eq_nil fun _ => Or.inl rfl
  have hstored : (run.queue .requester).stored (run.callOn .driver .requester) =
      call.handedIn (.goesOn call') := by
    simp only [callOn, hactivity, DriverActivity.callOn]
    exact hput.stored
  have hlines : ∀ sink, ((events told .driver run).of .driver).lines sink = [] :=
    lines_of_silent (by rw [lineOf, hactivity])
  have hcarries : ∀ file₁ call₁ later₁,
      DriverActivity.feeding file call' later = .feeding file₁ call₁ later₁ →
      ∀ item, call₁.item? = some item → item = file₁ := by
    intro file₁ call₁ later₁ heq item hitem
    injection heq with hfile hcall
    subst hfile hcall
    exact h.carries _ _ _ hactivity item (hput.item?_of_goesOn hitem)
  cases hput with
  | @enter item left hfits =>
    -- the name fits, which settles what is to be done about it
    obtain rfl := h.carries _ _ _ hactivity item rfl
    have hleft : DriverActivity.leftToFeed max (.feeding item (.admitted item) later) =
        run.driver.activity.leftToFeed max := by
      have hle : item.utf8ByteSize ≤ max := by
        rw [← h.limit]
        exact (Queue.fits_iff _ _).mp hfits
      rw [hactivity]
      simp [DriverActivity.leftToFeed, feedDeeds, hle]
    refine ⟨[], h.goesOn hmove hcarries (hleft ▸ .refl _) (fun _ => hleft)
      (by rw [hstored]; rfl) (fun _ => hlines) ?_⟩
    rw [hnone, List.append_nil]
    exact hsummary
  | @store item ring =>
    have hleft : [Deed.put item] ++ DriverActivity.leftToFeed max (.feeding file .stored later) =
        run.driver.activity.leftToFeed max := by
      rw [hactivity]
      rfl
    refine ⟨[.put item], h.goesOn hmove hcarries (hleft ▸ .refl _) (fun _ => hleft) ?_
      (fun _ => hlines) ?_⟩
    · -- the names hold no sentinel, so the item counts as one of them
      have hne : item ≠ sentinel.text := by
        rintro rfl
        rw [hactivity] at hnames
        simp [DriverActivity.names, PutCall.item?] at hnames
      rw [hstored]
      simp [PutCall.handedIn, hne, Deed.put?]
    · rw [hnone]
      show run.driver.account.summary = fedSummary skipped (done ++ [.put item])
      rw [hsummary]
      simp [fedSummary]

/-- The `put` of a name returns: the name is counted, or its report comes next, or the queue is
closed and the rest of the names is given up. -/
theorem fed (h : Audit sentinel max skipped names history run done) {file : String}
    {call : PutCall} {later : List String} {result : Except QueueError Unit} {files : Queue}
    (hactivity : run.driver.activity = .feeding file call later)
    (hstep : call.step run.files = some (.returns result, files)) :
    ∃ now, Audit sentinel max skipped names (history ++ events told .driver run)
      ((run.setQueue .requester files).fed file later result) (done ++ now) := by
  have hput := PutCall.moves_of_step hstep
  have hmove : Moves told run .driver _ := .fed hactivity hstep
  have hsummary := h.summary_feeding fun stage => by rw [hactivity]; rfl
  have hnone : Run.joinedReports ((run.setQueue .requester files).fed file later result) = [] :=
    joinedReports_eq_nil fun stage => standing_fed _ _ _ _ stage
  have hstored : (run.queue .requester).stored (run.callOn .driver .requester) = [] := by
    simp only [callOn, hactivity, DriverActivity.callOn]
    refine hput.stored.trans ?_
    cases call <;> rfl
  have hlines : ∀ sink, ((events told .driver run).of .driver).lines sink = [] :=
    lines_of_silent (by rw [lineOf, hactivity])
  cases hput with
  | finish =>
    have hleft : [Deed.produced] ++ (Run.feed later).leftToFeed max =
        run.driver.activity.leftToFeed max := by
      rw [hactivity, DriverActivity.leftToFeed_feed]
      rfl
    refine ⟨[.produced], h.goesOn hmove (carries_feed later) (hleft ▸ .refl _)
      (fun _ => hleft) (by rw [hstored]; rfl) (fun _ => hlines) ?_⟩
    rw [hnone]
    show RunSummary.mk _ _ _ _ _ _ _ _ _ = fedSummary skipped (done ++ [.produced])
    simp [fedSummary, hsummary]
  | @tooLarge item hsize =>
    -- the name does not fit, and the report of it comes next
    obtain rfl := h.carries _ _ _ hactivity item rfl
    have hlt : ¬ item.utf8ByteSize ≤ max := by
      rw [← h.limit]
      intro hle
      have hfits := (Queue.fits_iff run.files item).mpr hle
      rw [hsize] at hfits
      contradiction
    have hleft : ∀ failure, Run.rejection failure = rejectionOf max item →
        DriverActivity.leftToFeed max (.rejecting failure later) =
          run.driver.activity.leftToFeed max := by
      intro failure hreport
      rw [hactivity]
      simp [DriverActivity.leftToFeed, feedDeeds, hlt, hreport]
    have hreport : Run.rejection (.item item (QueueError.itemTooLarge item.utf8ByteSize
        run.files.maxItemLength).message) = rejectionOf max item := by
      rw [rejectionOf, ← h.limit]
      rfl
    refine ⟨[], h.goesOn hmove (fun _ _ _ heq => by contradiction)
      (hleft _ hreport ▸ .refl _) (fun _ => hleft _ hreport) (by rw [hstored]; rfl)
      (fun _ => hlines) ?_⟩
    rw [hnone, List.append_nil]
    exact hsummary
  | refused | bounce =>
    -- somebody has closed the queue
    refine ⟨[], ?_⟩
    rw [List.append_nil]
    refine h.drops hmove rfl ?_ (by rw [hstored]; rfl) (by rw [hnone]; exact hsummary)
    obtain ⟨failure, hkept, -⟩ := keepFirst_some run.driver.account.kept (.queue .destroyed)
    intro hno
    exact absurd (hkept.symm.trans hno) (Option.some_ne_none _)

/-- The report of a name is written and the name is counted, or nobody takes the report and the
driver gives up the rest. -/
theorem reject (h : Audit sentinel max skipped names history run done) {failure : Failure}
    {later : List String} (hactivity : run.driver.activity = .rejecting failure later) {run' : Run}
    (hrun : run' = (run.setSinks (run.sinks.writeLine .stderr (rejection failure)).2).rejected later
      (run.sinks.writeLine .stderr (rejection failure)).1) :
    ∃ now, Audit sentinel max skipped names (history ++ events told .driver run) run'
      (done ++ now) := by
  have hmove : Moves told run .driver run' := hrun ▸ .reject hactivity
  have hsummary := h.summary_feeding fun stage => by rw [hactivity]; rfl
  have hnone : run'.joinedReports = [] := by
    rw [hrun]
    exact joinedReports_eq_nil fun stage => standing_rejected _ _ _ stage
  have hstored : (run.queue .requester).stored (run.callOn .driver .requester) = [] := by
    simp only [callOn, hactivity, DriverActivity.callOn]
    rfl
  rcases hwrite : run.sinks.writeLine .stderr (rejection failure) with ⟨error | ⟨⟩, sinks⟩
  · -- nobody takes the report
    rw [hwrite] at hrun
    subst hrun
    refine ⟨[], ?_⟩
    rw [List.append_nil]
    refine h.drops hmove rfl ?_ (by rw [hstored]; rfl) (by rw [hnone]; exact hsummary)
    obtain ⟨kept, hkept, -⟩ := keepFirst_some run.driver.account.kept (.sink error)
    intro hno
    exact absurd (hkept.symm.trans hno) (Option.some_ne_none _)
  · rw [hwrite] at hrun
    have hactivity' : run'.driver.activity = Run.feed later := by rw [hrun]; rfl
    have hleft : [.report (rejection failure), .erred] ++ run'.driver.activity.leftToFeed max =
        run.driver.activity.leftToFeed max := by
      rw [hactivity', hactivity, DriverActivity.leftToFeed_feed]
      rfl
    refine ⟨[.report (rejection failure), .erred], h.goesOn hmove ?_ (hleft ▸ .refl _)
      (fun _ => hleft) (by rw [hstored]; rfl) (fun _ sink => ?_) ?_⟩
    · rw [hactivity']
      exact carries_feed later
    · rw [of_events, if_pos rfl, lines_events, lineOf, hactivity]
      by_cases hsink : Sink.stderr = sink <;> simp [Deed.lineTo, hsink]
    · have hsame : (run.setSinks sinks).driver.account.summary = fedSummary skipped done := hsummary
      rw [hnone, hrun]
      show RunSummary.mk _ _ _ _ _ _ _ _ _ = fedSummary skipped (done ++ [_, .erred])
      simp [fedSummary, hsame, Nat.add_assoc]

/-- A worker is joined: its report is the next one of the summary. -/
theorem joined (h : Audit sentinel max skipped names history run done) {own : Stage} {next : Nat}
    {w : Worker} {result : Except Failure WorkerReport}
    (hactivity : run.driver.activity = .joining own next)
    (hplace : (run.workers own)[next]? = some w) (hresult : w.result? = some result) :
    Audit sentinel max skipped names (history ++ events told .driver run)
      ((run.update fun account => account.join result).turnTo (.joining own (next + 1))) done := by
  have hmove : Moves told run .driver _ := .joined hactivity hplace hresult
  refine h.keeps hmove (fun _ _ _ heq => by contradiction) ?_ ?_
    (fun _ => by rw [lineOf, hactivity]) ?_
  · rw [hactivity]
    rfl
  · simp only [callOn, hactivity, DriverActivity.callOn]
    rfl
  · rw [joinedReports_join hactivity hplace]
    show (run.driver.account.join result).summary = _
    rw [summary_join _ hresult, h.summary, RunSummary.recordAll, RunSummary.recordAll,
      RunSummary.recordAll, List.foldl_append]

/-! ### After the names

Draining, joining and clearing come to the same: the driver is past the names (`Audit.pastNames`),
and only `Audit.joined` adds to the summary. What is left to see, rule by rule, is that whoever has
been joined stays joined. -/

/-- A drain goes on, and whatever it puts is a sentinel. -/
theorem drain (h : Audit sentinel max skipped names history run done)
    (horderly : Orderly sentinel history run) {own : Stage} {call call' : DrainCall}
    {shutdown : Shutdown} {queue : Queue}
    (hactivity : run.driver.activity = .draining own call)
    (hmove : Moves told run .driver
      (((run.setShutdown own shutdown).setQueue own queue).turnTo (.draining own call'))) :
    Audit sentinel max skipped names (history ++ events told .driver run)
      (((run.setShutdown own shutdown).setQueue own queue).turnTo (.draining own call')) done := by
  refine h.pastNames hmove (by rw [hactivity]; rfl) rfl (filter_stored_drain horderly hactivity _)
    (fun stage => joinedOf_eq (by simp) ?_) ?_
  · -- a stage that is being drained has nobody joined yet
    rw [hactivity]
    cases own <;> cases stage <;> rfl
  · cases own <;> rfl

theorem drained (h : Audit sentinel max skipped names history run done)
    (horderly : Orderly sentinel history run) {own : Stage} {call : DrainCall}
    {result : Except Failure Unit} {shutdown : Shutdown} {queue : Queue}
    (hactivity : run.driver.activity = .draining own call)
    (hmove : Moves told run .driver ((((run.setShutdown own shutdown).setQueue own queue).update
      fun account => account.note id result).turnTo (.joining own 0))) :
    Audit sentinel max skipped names (history ++ events told .driver run)
      ((((run.setShutdown own shutdown).setQueue own queue).update
        fun account => account.note id result).turnTo (.joining own 0)) done := by
  refine h.pastNames hmove (by rw [hactivity]; rfl) rfl (filter_stored_drain horderly hactivity _)
    (fun stage => joinedOf_eq (by simp) ?_) ?_
  · rw [hactivity]
    cases own <;> cases stage <;> rfl
  · -- a failure that is kept does not show in the summary
    cases own <;> cases result <;> rfl

/-- The driver is through with the workers of a stage. -/
theorem joinedAll (h : Audit sentinel max skipped names history run done) {own : Stage}
    {next : Nat} (hactivity : run.driver.activity = .joining own next)
    (hplace : (run.workers own)[next]? = none) :
    Audit sentinel max skipped names (history ++ events told .driver run)
      (run.turnTo (.finishing own)) done := by
  have hmove : Moves told run .driver _ := .joinedAll hactivity hplace
  refine h.pastNames hmove (by rw [hactivity]; rfl) rfl ?_ (fun stage => ?_) rfl
  · rw [callOn, hactivity]
    rfl
  · -- there is no worker at the next place: all of them have been joined
    have hall := List.getElem?_eq_none_iff.mp hplace
    rw [joinedOf, joinedOf, hactivity]
    cases own <;> cases stage <;> first
      | rfl
      | exact (List.take_length.trans (List.take_of_length_le hall).symm)

/-- A stage is marked as stopped, and its workers stay joined. -/
theorem finish (h : Audit sentinel max skipped names history run done) {own : Stage}
    (hactivity : run.driver.activity = .finishing own) :
    Audit sentinel max skipped names (history ++ events told .driver run)
      ((run.setShutdown own (run.shutdown own).finish).turnTo (afterStage own)) done := by
  have hmove : Moves told run .driver _ := .finish hactivity
  refine h.pastNames hmove (by rw [hactivity]; rfl) (by cases own <;> rfl) ?_
    (fun stage => joinedOf_eq (by simp) ?_) (by cases own <;> rfl)
  · rw [callOn, hactivity]
    rfl
  · rw [hactivity]
    cases own <;> cases stage <;> rfl

/-- The queues are cleared when both stages are done, and that stores nothing in them. -/
theorem clearing (h : Audit sentinel max skipped names history run done)
    (hmove : Moves told run .driver run') {own : Stage} {call : DestroyCall}
    (hactivity : run.driver.activity = .clearing own call)
    (hpast : run'.driver.activity.isPastNames = true)
    (hdone : ∀ stage, run'.driver.activity.standing stage = .done)
    (hworkers : ∀ stage, run'.workers stage = run.workers stage)
    (hsummary : run'.driver.account.summary = run.driver.account.summary) :
    Audit sentinel max skipped names (history ++ events told .driver run) run' done := by
  refine h.pastNames hmove (by rw [hactivity]; rfl) hpast ?_
    (fun stage => joinedOf_eq (hworkers stage) ?_) hsummary
  · simp only [callOn, hactivity, DriverActivity.callOn]
    split <;> simp
  · rw [hdone, hactivity]
    rfl

/-- Nobody but the driver has a part in its account. -/
theorem bystander (h : Audit sentinel max skipped names history run done)
    (horderly : Orderly sentinel history run) (hmove : Moves told run actor run')
    (hne : actor ≠ .driver) :
    Audit sentinel max skipped names (history ++ events told actor run) run' done := by
  have hdriver := hmove.driver_eq hne
  have hjoined : ∀ stage, run'.joinedOf stage = run.joinedOf stage := by
    intro stage
    cases actor with
    | driver => exact absurd rfl hne
    | worker own i => exact hmove.joinedOf_worker horderly stage
    | outsider => cases hmove <;> rfl
  refine h.keeps hmove ?_ ?_ ?_ (fun heq => absurd heq hne) ?_
  · rw [hdriver]
    exact fun _ _ _ => id
  · rw [hdriver]
  · rw [stored_requester_of_ne run hne]
    rfl
  · rw [hdriver, joinedReports, hjoined, hjoined]
    exact h.summary

/-- **Every step keeps to the account.** -/
theorem move (h : Audit told.sentinel max skipped names history run done)
    (horderly : Orderly told.sentinel history run) (hmove : Moves told run actor run') :
    ∃ now, Audit told.sentinel max skipped names (history ++ events told actor run) run'
      (done ++ now) := by
  have hnothing : Audit told.sentinel max skipped names (history ++ events told actor run) run'
      done → ∃ now, Audit told.sentinel max skipped names (history ++ events told actor run) run'
        (done ++ now) := fun hkept => ⟨[], by rwa [List.append_nil]⟩
  by_cases hne : actor = .driver
  · subst hne
    have hmoved := hmove
    cases hmoved with
    | feed hactivity hstep => exact h.feed hactivity hstep horderly.names
    | fed hactivity hstep => exact h.fed hactivity hstep
    | reject hactivity => exact h.reject hactivity rfl
    | joined hactivity hplace hresult => exact hnothing (h.joined hactivity hplace hresult)
    | drain hactivity => exact hnothing (h.drain horderly hactivity hmove)
    | drained hactivity => exact hnothing (h.drained horderly hactivity hmove)
    | joinedAll hactivity hplace => exact hnothing (h.joinedAll hactivity hplace)
    | finish hactivity => exact hnothing (h.finish hactivity)
    | @clear own _ _ _ hactivity =>
      exact hnothing (h.clearing hmove hactivity rfl (fun _ => rfl) (by simp)
        (by cases own <;> rfl))
    | clearedFirst hactivity | clearedSecond hactivity =>
      exact hnothing (h.clearing hmove hactivity rfl (fun _ => rfl) (by simp) rfl)
  · exact hnothing (h.bystander horderly hmove hne)

theorem tick (h : Audit sentinel max skipped names history run done) (moment : Nat) :
    Audit sentinel max skipped names history { run with moment := moment } done :=
  ⟨h.limit, h.carries, h.sublist, h.left, h.stored, h.lines, h.summary⟩

end Audit

end Run

end HostLookup
