import HostLookup.Program
import HostLookup.Proofs.Program.Files
import HostLookup.Proofs.Run.Custody

/-!
# What the program does, from beginning to end

The program does six things that can fail, one after the other: it loads its settings, makes a plan
of them, checks the request against the plan, opens the first log and then the second, and runs.
Only after that it releases the sinks. A *course* is one way in which all this can go. The world may
give any answers, the system may refuse any threads, and the threads may move in any order.

* **`Program.exists_course_run`**: what is executed is one of the courses.
* **`Program.prepare_eq_error_iff`**: what can be found wrong before a file is touched.
* **`Program.closes_finish`**: whatever a run has come to, its sinks are released once, and each log
  has what was written to it.
* **`Program.careful_in_every_course`**: nothing is touched too early, and nothing that was begun is
  left unfinished.
-/

namespace HostLookup

namespace Run

/-- The answer of a run: what its driver has returned, or, if the run was cut short, what the driver
would have to return by then. -/
def answer (run : Run) : Except Failure RunSummary :=
  run.result?.getD (conclusion run.driver {})

end Run

namespace Program

variable {arguments : Arguments} {around : Surroundings} {plan : Plan} {logs : Logs}
  {tree opened : FileTree} {result : Except Failure RunSummary} {before : Sinks}

/-! ## Courses

A course leaves open what the program cannot know: which threads it gets, how they are interleaved,
when the run is looked at. What is executed settles all that and is one of them. -/

/-- What the program has done beside answering. -/
inductive Conduct where
  /-- It has opened at most one log, and has started no thread. -/
  | refused
  /-- Both logs were open, but the run could not begin, and there is no thread. -/
  | stranded (failure : Failure) (sinks : Sinks)
  /-- Threads were started and have moved in this way. -/
  | ran (told : Instructions) (path : List (Actor × Run)) (last : Run)

namespace Conduct

/-- What came of the run, and the sinks that it left, if both logs were open. -/
def left? : Conduct → Option (Except Failure RunSummary × Sinks)
  | refused => none
  | stranded failure sinks => some (.error failure, sinks)
  | ran _ _ last => some (last.answer, last.sinks)

/-- The bytes that the threads have written to a sink. -/
def bytes : Conduct → Sink → Bytes
  | ran told path _, sink => ((Run.historyOf told path).lines sink).flatMap Sinks.lineBytes
  | _, _ => []

end Conduct

/-- One way in which the program can carry out a command line, and what comes of it. -/
inductive Course (arguments : Arguments) (around : Surroundings) : Conduct → Outcome → Prop where
  | unprepared {failure : ProgramFailure} (hprepare : prepare arguments around = .error failure) :
      Course arguments around .refused (.refused around.tree failure)
  | unopened {plan : Plan} {failure : Failure} {tree : FileTree}
      (hprepare : prepare arguments around = .ok plan)
      (hopen : openLogs arguments around = (.error failure, tree)) :
      Course arguments around .refused (.refused tree (.plain failure))
  | unlaunched {plan : Plan} {logs : Logs} {tree : FileTree} {refusals : Refusals}
      {failure : Failure} (hprepare : prepare arguments around = .ok plan)
      (hopen : openLogs arguments around = (.ok logs, tree))
      (hlaunch : Run.launch plan arguments.request logs.sinks refusals = .error failure) :
      Course arguments around (.stranded failure logs.sinks)
        (finish arguments logs tree (.error failure, logs.sinks))
  | ran {plan : Plan} {logs : Logs} {tree : FileTree} {refusals : Refusals} {begun last : Run}
      {environment : Environment} {path : List (Actor × Run)}
      (hprepare : prepare arguments around = .ok plan)
      (hopen : openLogs arguments around = (.ok logs, tree))
      (hlaunch : Run.launch plan arguments.request logs.sinks refusals = .ok begun)
      (hpath : Path (Run.step (plan.instructions environment)) begun path last) :
      Course arguments around (.ran (plan.instructions environment) path last)
        (finish arguments logs tree (last.answer, last.sinks))

/-- **What is executed is one of the courses.** -/
theorem exists_course_run (arguments : Arguments) (around : Surroundings) :
    ∃ conduct, Course arguments around conduct (run arguments around) := by
  unfold run
  split
  · next failure hprepare => exact ⟨_, .unprepared hprepare⟩
  · next plan hprepare =>
    unfold start
    split
    · next failure tree hopen => exact ⟨_, .unopened hprepare hopen⟩
    · next logs tree hopen =>
      -- no thread is refused to the run that is executed
      have hlaunch : Run.launch plan arguments.request logs.sinks { memory := around.memory } =
        Run.start plan arguments.request logs.sinks around.memory := rfl
      unfold Plan.run
      split
      · next failure hstart => exact ⟨_, .unlaunched hprepare hopen (hlaunch.trans hstart)⟩
      · next begun hstart =>
        obtain ⟨path, hpath⟩ := (Run.reachable_execute _ _ begun).traces
          fun actor state => [(actor, state)]
        exact ⟨_, .ran hprepare hopen (hlaunch.trans hstart) hpath⟩

/-! ## Before a file is touched

The checks form a pipeline in `Except`, so exactly one of them answers: the first that fails. -/

/-- What can be found wrong before a file is touched, and how the program says so. -/
inductive Objects (arguments : Arguments) (around : Surroundings) : ProgramFailure → Prop where
  | load {failure : Failure}
      (hload : Settings.load around.tree around.assignments arguments.config = .error failure) :
      Objects arguments around (.loading failure)
  | create {settings : Settings} {failure : Failure}
      (hload : Settings.load around.tree around.assignments arguments.config = .ok settings)
      (hcreate : Plan.create settings = .error failure) : Objects arguments around (.plain failure)
  | check {settings : Settings} {plan : Plan} {failure : Failure}
      (hload : Settings.load around.tree around.assignments arguments.config = .ok settings)
      (hcreate : Plan.create settings = .ok plan)
      (hcheck : plan.check arguments.request = .error failure) :
      Objects arguments around (.plain failure)

theorem bind_eq_error_iff {ε α β : Type} {first : Except ε α} {rest : α → Except ε β} {error : ε} :
    (first >>= rest) = .error error ↔
      first = .error error ∨ ∃ a, first = .ok a ∧ rest a = .error error := by
  cases first <;> simp [bind, Except.bind]

theorem mapError_eq_error_iff {ε ε' α : Type} {x : Except ε α} {f : ε → ε'} {error : ε'} :
    x.mapError f = .error error ↔ ∃ cause, x = .error cause ∧ f cause = error := by
  cases x with
  | ok => exact ⟨nofun, nofun⟩
  | error cause =>
    constructor
    · intro h
      exact ⟨cause, rfl, Except.error.inj h⟩
    · rintro ⟨_, heq, rfl⟩
      cases heq
      rfl

theorem mapError_eq_ok_iff {ε ε' α : Type} {x : Except ε α} {f : ε → ε'} {a : α} :
    x.mapError f = .ok a ↔ x = .ok a := by
  cases x with
  | error => exact ⟨nofun, nofun⟩
  | ok b => exact ⟨fun h => congrArg _ (Except.ok.inj h), fun h => congrArg _ (Except.ok.inj h)⟩

/-- **The first check that fails is the answer.** -/
theorem prepare_eq_error_iff {failure : ProgramFailure} :
    prepare arguments around = .error failure ↔ Objects arguments around failure := by
  simp only [prepare, bind_eq_error_iff, mapError_eq_error_iff, mapError_eq_ok_iff]
  constructor
  · rintro (⟨cause, hload, rfl⟩ | ⟨settings, hload, ⟨cause, hcreate, rfl⟩ | ⟨plan, hcreate,
      ⟨cause, hcheck, rfl⟩ | ⟨_, -, hnever⟩⟩⟩)
    · exact .load hload
    · exact .create hload hcreate
    · exact .check hload hcreate hcheck
    · contradiction
  · intro hobjects
    cases hobjects with
    | load hload => exact .inl ⟨_, hload, rfl⟩
    | create hload hcreate => exact .inr ⟨_, hload, .inl ⟨_, hcreate, rfl⟩⟩
    | check hload hcreate hcheck =>
      exact .inr ⟨_, hload, .inr ⟨_, hcreate, .inl ⟨_, hcheck, rfl⟩⟩⟩

/-! ## After the logs were opened

From here on the sinks are released in any case. The failure of the run goes before a failure of the
release, and the summary is printed if there is neither. -/

/-- How the program ends once both logs are open: a run has come to this result and has left these
sinks, to which so many bytes were written. -/
structure Closes (arguments : Arguments) (around : Surroundings) (logs : Logs) (opened : FileTree)
    (bytes : Sink → Bytes) (result : Except Failure RunSummary) (before : Sinks)
    (outcome : Outcome) : Prop where
  /-- Nobody has released or flushed a sink by then. -/
  untouched : before.destroyed = false ∧ before.Live ∧
    ∀ sink, (before.get sink).device.flushes = 0
  /-- Then every sink is released, and flushed once. -/
  once : ∃ after, outcome.sinks = some after ∧ after.destroyed = true ∧
    ∀ sink, (after.get sink).released = true ∧ (after.get sink).device.flushes = 1
  /-- The failure of the run comes first, whatever the flushes have answered. -/
  fails : ∀ failure, result = .error failure →
    outcome.result = .error (.plain failure) ∧ outcome.report = ""
  /-- After a run that has not failed it is the first flush that has. -/
  unflushed : ∀ summary error, result = .ok summary →
    verdict (Sink.all.map before.flushed) = .error error →
    outcome.result = .error (.flushing error) ∧ outcome.report = ""
  /-- The report is printed if neither the run nor a flush has failed. -/
  succeeds : ∀ summary, result = .ok summary → (∀ sink, before.flushed sink = .ok ()) →
    outcome.result = .ok () ∧
      outcome.report = summary.reportIn arguments.format arguments.console
  /-- If the logs are in two places, a regular file has what was written to its sink, whatever the
  result is. -/
  files : logs.requesterLog ≠ logs.resolverLog → ∀ sink place, logs.place? sink = some place →
    opened.IsRegular place →
    before.flushed sink = .ok () ∧ outcome.tree.node? place = some (.file (bytes sink))
  /-- No other file has changed. -/
  others : ∀ place, place ≠ logs.requesterLog → place ≠ logs.resolverLog →
    outcome.tree.node? place = around.tree.node? place

theorem closes_finish {bytes : Sink → Bytes}
    (hopens : logs.Opens around.tree arguments.requesterLog arguments.resolverLog opened)
    (hkept : logs.sinks.Kept bytes before) :
    Closes arguments around logs opened bytes result before
      (finish arguments logs opened (result, before)) := by
  have hunclaimed : before.destroyed = false := hkept.mark.trans hopens.unclaimed
  have hlive : before.Live := fun sink => (hkept.released sink).trans (hopens.fresh sink).1
  have hunflushed : ∀ sink, (before.get sink).device.flushes = 0 := fun sink =>
    (hkept.flushes sink).trans (hopens.fresh sink).2.1
  rcases hdestroy : before.destroy with ⟨answer, after⟩
  obtain ⟨rfl, hmark, hretires⟩ := Sinks.destroy_eq hunclaimed hdestroy
  have hfinish : finish arguments logs opened (result, before) =
      { tree := logs.save after opened
        sinks := some after
        report := (conclude arguments result
          (verdict (Sink.all.map before.flushed))).toOption.getD ""
        result := (conclude arguments result (verdict (Sink.all.map before.flushed))).map
          fun _ => () } := by
    rw [finish, hdestroy]
  rw [hfinish]
  refine
    { untouched := ⟨hunclaimed, hlive, hunflushed⟩
      once := ⟨after, rfl, hmark, fun sink => ⟨(hretires sink).released, ?_⟩⟩
      fails := fun failure hresult => ?_
      unflushed := fun summary error hresult hverdict => ?_
      succeeds := fun summary hresult hflushed => ?_
      files := fun hdistinct sink place hplace hregular => ?_
      others := fun place hrequester hresolver => ?_ }
  · rw [(hretires sink).flushes, hunflushed]
  · rw [hresult]
    exact ⟨rfl, rfl⟩
  · rw [hresult, hverdict]
    exact ⟨rfl, rfl⟩
  · have hverdict : verdict (Sink.all.map before.flushed) = .ok () := by
      refine verdict_eq_ok_iff.mpr fun answer hmem => ?_
      obtain ⟨sink, -, rfl⟩ := List.mem_map.mp hmem
      exact hflushed sink
    rw [hresult, hverdict]
    exact ⟨rfl, rfl⟩
  · obtain ⟨hobliging, hwritten⟩ :=
      hkept.got sink (hopens.fresh sink).1 (hopens.obliging sink place hplace hregular)
    have hcontents : after.contents sink = bytes sink := by
      calc after.contents sink
        _ = before.written sink := (hretires sink).contents hobliging
        _ = logs.sinks.written sink ++ bytes sink := hwritten
        _ = bytes sink := by rw [(hopens.fresh sink).2.2, List.nil_append]
    refine ⟨?_, ?_⟩
    · rw [Sinks.flushed, hobliging.flush.1]
      rfl
    · rw [Logs.node?_save hdistinct after hplace hregular, hcontents]
  · obtain ⟨mid, hfirst, hsecond⟩ := hopens.files
    rw [Logs.node?_save_of_ne after hrequester hresolver]
    exact (FileTree.node?_of_create hsecond hresolver).trans
      (FileTree.node?_of_create hfirst hrequester)

/-! ## Every course

There are three ways through the program, one for each place where it can turn back, and `Careful`
is shown for each of them. -/

/-- **Nothing is touched too early, and nothing that was begun is left unfinished.** -/
structure Careful (arguments : Arguments) (around : Surroundings) (conduct : Conduct)
    (outcome : Outcome) : Prop where
  /-- What can be found wrong in advance is the answer. No file and no thread is touched. -/
  unprepared : ∀ failure, Objects arguments around failure →
    conduct = .refused ∧ outcome = .refused around.tree failure
  /-- Neither is it if the first log cannot be opened. -/
  unopenedFirst : ∀ plan failure tree, prepare arguments around = .ok plan →
    around.tree.create arguments.requesterLog = (.error failure, tree) →
    conduct = .refused ∧
      outcome = .refused around.tree (.plain (.io arguments.requesterLog failure))
  /-- If the second log cannot be opened, nothing but the first is touched. -/
  unopenedSecond : ∀ plan place mid failure tree, prepare arguments around = .ok plan →
    around.tree.create arguments.requesterLog = (.ok place, mid) →
    mid.create arguments.resolverLog = (.error failure, tree) →
    conduct = .refused ∧ outcome = .refused mid (.plain (.io arguments.resolverLog failure)) ∧
      ∀ other, other ≠ place → mid.node? other = around.tree.node? other
  /-- Once both logs are open, the program comes to a result and closes them. -/
  closes : ∀ plan logs tree, prepare arguments around = .ok plan →
    openLogs arguments around = (.ok logs, tree) →
    ∃ result before, conduct.left? = some (result, before) ∧
      Closes arguments around logs tree conduct.bytes result before outcome

namespace Course

variable {conduct : Conduct} {outcome : Outcome}

theorem of_objects {failure : ProgramFailure} (h : Course arguments around conduct outcome)
    (hobjects : Objects arguments around failure) :
    conduct = .refused ∧ outcome = .refused around.tree failure := by
  have herror := prepare_eq_error_iff.mpr hobjects
  cases h with
  | unprepared hprepare =>
    cases hprepare.symm.trans herror
    exact ⟨rfl, rfl⟩
  | unopened hprepare | unlaunched hprepare | ran hprepare => cases hprepare.symm.trans herror

theorem of_unopened {failure : Failure} (h : Course arguments around conduct outcome)
    (hprepare : prepare arguments around = .ok plan)
    (hopen : openLogs arguments around = (.error failure, tree)) :
    conduct = .refused ∧ outcome = .refused tree (.plain failure) := by
  cases h with
  | unprepared hprepare' => cases hprepare'.symm.trans hprepare
  | unopened _ hopen' =>
    cases hopen'.symm.trans hopen
    exact ⟨rfl, rfl⟩
  | unlaunched _ hopen' | ran _ hopen' => cases hopen'.symm.trans hopen

theorem of_opened (h : Course arguments around conduct outcome)
    (hprepare : prepare arguments around = .ok plan)
    (hopen : openLogs arguments around = (.ok logs, tree)) :
    ∃ result before, conduct.left? = some (result, before) ∧
      Closes arguments around logs tree conduct.bytes result before outcome := by
  have hopens := Logs.of_openBoth hopen
  cases h with
  | unprepared hprepare' => cases hprepare'.symm.trans hprepare
  | unopened _ hopen' => cases hopen'.symm.trans hopen
  | unlaunched _ hopen' =>
    cases hopen'.symm.trans hopen
    exact ⟨_, _, rfl, closes_finish hopens (.refl _)⟩
  | ran _ hopen' hlaunch hpath =>
    cases hopen'.symm.trans hopen
    exact ⟨_, _, rfl, closes_finish hopens (Run.custody_of_launch hlaunch hpath).kept⟩

theorem careful (h : Course arguments around conduct outcome) :
    Careful arguments around conduct outcome where
  unprepared _ hobjects := h.of_objects hobjects
  unopenedFirst _ _ _ hprepare hfirst := h.of_unopened hprepare (Logs.openBoth_of_first hfirst)
  unopenedSecond _ _ _ _ _ hprepare hfirst hsecond := by
    obtain ⟨hconduct, houtcome⟩ :=
      h.of_unopened hprepare (Logs.openBoth_of_second hfirst hsecond)
    exact ⟨hconduct, houtcome, fun _ hne => FileTree.node?_of_create hfirst hne⟩
  closes _ _ _ hprepare hopen := h.of_opened hprepare hopen

end Course

/-- **The program is careful in every course**, and what is executed is one of them. -/
theorem careful_in_every_course (arguments : Arguments) (around : Surroundings) :
    (∃ conduct, Course arguments around conduct (run arguments around)) ∧
      ∀ conduct outcome, Course arguments around conduct outcome →
        Careful arguments around conduct outcome :=
  ⟨exists_course_run arguments around, fun _ _ hcourse => hcourse.careful⟩

/-- The resolver panics at the second host, and what it has written for the first does not fit its
device: the program answers with the failure of the run, and the other log is complete. -/
theorem careful_in_every_course_panic_and_full_disk :
    let arguments : Arguments :=
      { requesters := 1, resolvers := 1, requesterLog := "names", resolverLog := "/dev/full",
        dataFiles := ["hosts"] }
    let around : Surroundings :=
      { tree := { nodes := [(["dev"], .directory), (["dev", "full"], .full),
          (["names"], .file [0x78])] } }
    ∃ conduct outcome, Course arguments around conduct outcome ∧
      Careful arguments around conduct outcome ∧
      (∃ before, conduct.left? =
          some (.error (.resource "resolver worker resolver-0 panicked"), before) ∧
        before.flushed .resolverLog = .error (.write .resolverLog (.system 28))) ∧
      outcome.result = .error (.plain (.resource "resolver worker resolver-0 panicked")) ∧
      outcome.tree.node? ["names"] = some (.file [0x61, 0x0A, 0x62, 0x0A]) := by
  intro arguments around
  let opened : FileTree :=
    { nodes := [(["dev"], .directory), (["dev", "full"], .full), (["names"], .file [])] }
  let plan : Plan := { settings := {}, sentinel := .standard }
  let logs : Logs := .ofPlaces opened ["names"] ["dev", "full"]
  let told := plan.instructions (.steady (fun _ => .opened [.line "a", .line "b"])
    (fun host => if host = "b" then .panicked else .found "::1") {})
  have hprepare : prepare arguments around = .ok plan := by decide +kernel
  have hfirst : around.tree.create "names" = (.ok ["names"], opened) := by decide +kernel
  have hsecond : opened.create "/dev/full" = (.ok ["dev", "full"], opened) := by decide +kernel
  have hopen : openLogs arguments around = (.ok logs, opened) :=
    Logs.openBoth_of_both hfirst hsecond
  have hplaces : logs.Opens around.tree arguments.requesterLog arguments.resolverLog opened :=
    Logs.of_openBoth hopen
  have hregular : opened.IsRegular ["names"] := ⟨[], by decide +kernel⟩
  let begun := Run.initial plan arguments.request logs.sinks {} none
  have hlaunch : Run.launch plan arguments.request logs.sinks {} = .ok begun := by
    have hfiles : Queue.create "files" 8 4096 = .ok (.ofGeometry "files" 8 4096) := rfl
    have hhosts : Queue.create "hosts" 8 1025 = .ok (.ofGeometry "hosts" 8 1025) := rfl
    exact Run.launch_eq_ok logs.sinks {} (by decide) hfiles hhosts
  let last := begun.execute told 60
  obtain ⟨path, hpath⟩ := (Run.reachable_execute told 60 begun).traces
    fun actor state => [(actor, state)]
  have hcause : (match last.answer with
      | .error failure => some failure
      | .ok _ => none) = some (.resource "resolver worker resolver-0 panicked") := by
    decide +kernel
  have hanswer : last.answer = .error (.resource "resolver worker resolver-0 panicked") := by
    generalize last.answer = answer at hcause
    cases answer with
    | ok => cases hcause
    | error failure => exact congrArg Except.error (Option.some.inj hcause)
  have hflushed : last.sinks.flushed .resolverLog = .error (.write .resolverLog (.system 28)) := by
    decide +kernel
  have hwritten : last.sinks.written .requesterLog = [0x61, 0x0A, 0x62, 0x0A] := by
    decide +kernel
  -- what has reached the sink is what the threads have written
  have hbytes : Conduct.bytes (.ran told path last) .requesterLog = [0x61, 0x0A, 0x62, 0x0A] := by
    obtain ⟨hlive, -, hempty⟩ := hplaces.fresh .requesterLog
    have hgot := ((Run.custody_of_launch hlaunch hpath).kept.got .requesterLog hlive
      (hplaces.obliging .requesterLog _ rfl hregular)).2
    rw [hempty, List.nil_append, hwritten] at hgot
    exact hgot.symm
  have hcourse : Course arguments around (.ran told path last)
      (finish arguments logs opened (last.answer, last.sinks)) :=
    .ran hprepare hopen hlaunch hpath
  have hcareful := (careful_in_every_course arguments around).2 _ _ hcourse
  obtain ⟨result, before, hleft, hcloses⟩ := hcareful.closes plan logs opened hprepare hopen
  obtain ⟨rfl, rfl⟩ := Prod.mk.inj (Option.some.inj hleft)
  refine ⟨_, _, hcourse, hcareful, ⟨last.sinks, ?_, hflushed⟩, (hcloses.fails _ hanswer).1, ?_⟩
  · rw [← hanswer]
    rfl
  · rw [← hbytes]
    exact (hcloses.files (by decide) .requesterLog ["names"] rfl hregular).2

end Program

end HostLookup
