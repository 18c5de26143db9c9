import HostLookup.Proofs.Run.Alike
import HostLookup.Proofs.Run.Outcome

/-!
# What refused lines change

Whatever lines the sinks refuse, a run looks up the same host names and counts the same numbers as
with sinks that refuse nothing, and it answers with its summary. There is one line that it cannot do
without: if the report of a name that is too long is refused, the feeding is over, and the run
answers with the refusal.

* **`Run.Aborted`**: the driver keeps the refusal of such a report.
* **`Run.mirrored_or_aborted`**: up to the refusal there is a calm run beside the run, and from then
  on the refusal is kept.
* **`Run.agrees_of_path`**: so a run agrees with the calm ones unless such a report was refused.
-/

namespace HostLookup

/-- A world that gives the same answers at all times, and takes whatever time it likes. -/
def Environment.settled (opening : String → Opening) (lookup : String → Lookup)
    (elapsed : Nat → Elapsed) : Environment where
  opening := fun _ => opening
  lookup := fun _ => lookup
  elapsed := elapsed

namespace Run

variable {told : Instructions} {run run' : Run} {actor : Actor} {history : History} {t : Terms}
  {plan : Plan} {request : RunRequest} {sinks : Sinks} {path : List (Actor × Run)}
  {source : IoFailure}

/-! ## Refused reports

The report of a name that is too long is the one line whose refusal ends something: the driver gives
the feeding up and keeps the failure. From then on it reports no name. -/

/-- The driver keeps the refusal of a report, and it has given the feeding up. -/
structure Aborted (source : IoFailure) (run : Run) : Prop where
  kept : run.driver.account.kept = some (.sink (.write .stderr source))
  past : run.driver.activity.standing .requester ≠ .ahead

/-- The driver reports names only as long as it feeds them. -/
theorem Aborted.not_refuses (h : Aborted source run) (other : IoFailure) :
    ¬ Refuses actor run other := by
  rintro ⟨-, failure, later, hactivity, -⟩
  exact h.past (by rw [hactivity]; rfl)

/-- The refusal of a report is kept, unless something was kept before it. -/
theorem Refuses.aborted (h : Refuses actor run source) (hmove : Moves told run actor run')
    (hkept : run.driver.account.kept = none) : Aborted source run' := by
  obtain ⟨hkept', hactivity⟩ := h.kept hmove hkept
  exact ⟨hkept', by rw [hactivity]; nofun⟩

/-- A refusal that is kept does not give way, and the driver does not come back to the names. -/
theorem Aborted.move (h : Aborted source run) (hmove : Moves told run actor run') :
    Aborted source run' where
  kept := by
    rcases hmove.kept with hsame | ⟨-, failure, -, hnew⟩
    · exact hsame.trans h.kept
    · rw [hnew, h.kept]
      exact keepFirst_of_other rfl _
  past hahead := h.past (hmove.ahead_of_ahead hahead)

/-! ## The course of a run

The other run that is spoken of here makes the same steps with sinks that take everything. The two
are `Alike` after each step, unless the step is a refused report. -/

/-- Two runs that differ in their sinks begin alike. -/
theorem alike_initial (sinks sinks' : Sinks) :
    (initial plan request sinks {} none).Alike (initial plan request sinks' {} none) where
  files := rfl
  hosts := rfl
  requesterStage := rfl
  resolverStage := rfl
  workers stage := by cases stage <;> exact .refl _
  activity := .same rfl
  account := .refl _
  moment := rfl

/-- Sinks in memory refuse nothing. -/
theorem willing_memory : (Sinks.ofDevices fun _ => .memory).Willing := by
  intro sink
  cases sink <;> exact ⟨rfl, fun _ _ => rfl⟩

/-- **The course of a run**: until the report of a name is refused a calm run goes beside it, and
from then on the refusal is kept. -/
theorem mirrored_or_aborted {environment : Environment} (husable : plan.Usable)
    (hfiles : plan.sentinel.text ∉ request.files)
    (hhold : t.Hold (plan.instructions environment))
    (hlimit : t.limit =
      if request.resolvers = 0 then none else some (plan.settings.maxNameLength - 1))
    (hlive : sinks.Live)
    (hpath : Path (step (plan.instructions environment))
      (initial plan request sinks {} none) path run) :
    Unreleased run ∧
      ((∀ source, ¬ Refused path source) ∧
          Mirrored t plan request (historyOf (plan.instructions environment) path) run ∨
        ∃ source, (∀ other, Refused path other ↔ other = source) ∧ Aborted source run) := by
  induction hpath with
  | refl =>
    refine ⟨⟨hlive, rfl⟩, Or.inl ⟨fun source => ?_, ?_⟩⟩
    · rintro ⟨p, hmem, -⟩
      contradiction
    · exact ⟨_, _, _, chronicle_of_traces husable hfiles hhold hlimit willing_memory .refl,
        alike_initial _ _, fun _ => rfl⟩
  | @tail path mid last actor hbefore hstep ih =>
    obtain ⟨next, hmove, rfl⟩ := moves_of_step hstep
    obtain ⟨hunreleased, ih⟩ := ih
    have hafter := hunreleased.move hmove
    refine ⟨⟨hafter.live, hafter.outsider⟩, ?_⟩
    simp only [refused_append, historyOf_append, historyOf_singleton]
    rcases ih with ⟨hnone, hmirrored⟩ | ⟨source, honly, haborted⟩
    · by_cases hrefuses : ∃ source, Refuses actor mid source
      · -- the first report that is refused
        obtain ⟨source, hrefuses⟩ := hrefuses
        obtain ⟨calmSinks, calmHistory, calm, hchronicle, halike, -⟩ := hmirrored
        have hkept : mid.driver.account.kept = none :=
          halike.account.kept.symm.trans hchronicle.calm.kept
        obtain ⟨hkept', hpast⟩ := hrefuses.aborted hmove hkept
        refine Or.inr ⟨source, fun other => ⟨?_, ?_⟩, hkept', hpast⟩
        · rintro (hold | hother)
          · exact absurd hold (hnone other)
          · have hsame := (hother.aborted hmove hkept).kept.symm.trans hkept'
            simpa using hsame
        · rintro rfl
          exact Or.inr hrefuses
      · -- the run beside it makes the same step
        have hnone' : ∀ source, ¬ Refuses actor mid source := fun source h => hrefuses ⟨source, h⟩
        refine Or.inl ⟨fun source => ?_, (hmirrored.move hhold hmove hunreleased hnone').tick _⟩
        rintro (hold | hnew)
        · exact hnone source hold
        · exact hnone' source hnew
    · -- the feeding is over, so no report can be refused any more
      obtain ⟨hkept, hpast⟩ := haborted.move hmove
      refine Or.inr ⟨source, fun other => ?_, hkept, hpast⟩
      rw [← honly other]
      exact or_iff_left (haborted.not_refuses other)

/-! ## The end

At the end of the run beside it everything is known from `Run.Delivered`, and what is said here of
host names and numbers is the same in all runs that are alike. -/

/-- The host names that the resolvers have taken out of their queue on a path. -/
def hostsTaken (told : Instructions) (path : List (Actor × Run)) : List String :=
  ((historyOf told path).taken .resolver).filter (· ≠ told.sentinel.text)

/-- The host names that were looked up, and the numbers in the summary, are those of every run of
the plan whose sinks refuse nothing. -/
def AgreesWithCalm (plan : Plan) (request : RunRequest) (opening : String → Opening)
    (lookup : String → Lookup) (hosts : List String) (summary : RunSummary) : Prop :=
  ∀ (elapsed : Nat → Elapsed) (sinks : Sinks) (memory : Allocator) (start now : Run)
    (path : List (Actor × Run)) (result : Except Failure RunSummary),
    sinks.Willing → Run.start plan request sinks memory = .ok start →
    Path (step (plan.instructions (.settled opening lookup elapsed))) start path now →
    now.result? = some result →
      ∃ other, result = .ok other ∧ summary.Alike other ∧
        hosts.Perm (hostsTaken (plan.instructions (.settled opening lookup elapsed)) path)

namespace Chronicle

variable {result : Except Failure RunSummary}

/-- The resolvers take the host names that were handed on. -/
theorem taken_perm (h : Chronicle t plan request sinks history run)
    (hresult : run.driver.activity = .returned result)
    (hlimit : request.resolvers = 0 → t.limit = none) :
    ((history.taken .resolver).filter (· ≠ t.sentinel.text)).Perm
      (t.handedOn (plan.fedFiles request)) := by
  have hshares := (h.roles.shares_interleave .resolver).perm
  rw [h.threads, ← List.flatMap_def] at hshares
  exact hshares.trans (h.shared_resolver hresult hlimit)

/-- Two calm runs of the same plan count the same. -/
theorem summary_alike {sinks' : Sinks} {history' : History}
    {result' : Except Failure RunSummary} (h : Chronicle t plan request sinks history run)
    (h' : Chronicle t plan request sinks' history' run')
    (hresult : run.driver.activity = .returned result)
    (hresult' : run'.driver.activity = .returned result')
    (hlimit : request.resolvers = 0 → t.limit = none) :
    run.driver.account.summary.Alike run'.driver.account.summary := by
  rw [h.summary_eq hresult hlimit, h'.summary_eq hresult' hlimit]
  exact ⟨rfl, rfl, rfl, rfl, rfl, rfl⟩

end Chronicle

/-- **A run agrees with the calm ones**, whatever lines its sinks refuse, unless the report of a
name that is too long was refused. Then it answers with the refusal. -/
theorem agrees_of_path {settings : Settings} {start now : Run} {opening : String → Opening}
    {lookup : String → Lookup} {elapsed : Nat → Elapsed} {result : Except Failure RunSummary}
    {memory : Allocator} (hplan : Plan.create settings = .ok plan)
    (hstart : Run.start plan request sinks memory = .ok start)
    (hfiles : plan.sentinel.text ∉ request.files)
    (hopening : ∀ file, (opening file).Readable) (hlookup : ∀ host, lookup host ≠ .panicked)
    (hlive : sinks.Live)
    (hpath : Path (step (plan.instructions (.settled opening lookup elapsed))) start path now)
    (hresult : now.result? = some result) :
    (∀ source, Refused path source → result = .error (.sink (.write .stderr source))) ∧
      ((∀ source, ¬ Refused path source) → ∃ summary, result = .ok summary ∧
        AgreesWithCalm plan request opening lookup
          (hostsTaken (plan.instructions (.settled opening lookup elapsed)) path) summary) := by
  have husable := Plan.usable_of_create hplan
  obtain ⟨-, rfl⟩ := eq_of_start hstart
  let t := plan.terms request opening hopening lookup hlookup
  have hhold : ∀ elapsed, t.Hold (plan.instructions (.settled opening lookup elapsed)) := fun _ =>
    ⟨rfl, rfl, fun _ => rfl, fun _ => rfl⟩
  have hlimit : request.resolvers = 0 → t.limit = none := fun hnone => if_pos hnone
  have hreturned := activity_of_result? hresult
  obtain ⟨_, hanswer⟩ := (tidy_of_reachable hpath.reaches).answer result hreturned
  -- no report was refused, and there is a calm run beside this one; or one was, and it is kept
  obtain ⟨-, ⟨hnone, hmirrored⟩ | ⟨source, honly, haborted⟩⟩ :=
    mirrored_or_aborted husable hfiles (hhold elapsed) rfl hlive hpath
  · refine ⟨fun source hrefused => absurd hrefused (hnone source), fun _ => ?_⟩
    obtain ⟨_, calmHistory, calm, hchronicle, halike, htaken⟩ := hmirrored
    -- the run beside it has come to its end as well
    obtain ⟨_, hcalm⟩ : ∃ result', calm.driver.activity = .returned result' := by
      cases halike.activity with
      | same heq => exact ⟨result, heq.trans hreturned⟩
      | returned _ hcalm => exact ⟨_, hcalm⟩
    rw [← halike.account.kept, hchronicle.calm.kept] at hanswer
    refine ⟨_, hanswer, ?_⟩
    intro elapsed' sinks' memory' start' now' path' result' hwilling hstart' hpath' hresult'
    obtain ⟨-, rfl⟩ := eq_of_start hstart'
    have hreturned' := activity_of_result? hresult'
    have hother := chronicle_of_traces husable hfiles (hhold elapsed') rfl hwilling
      (hpath'.traces _)
    obtain ⟨_, hanswer'⟩ := hother.calm.answer hreturned'
    refine ⟨_, hanswer', ?_, ?_⟩
    -- both runs have a calm run to be compared by, this one the run beside it
    · have hcounts := halike.account.summary.trans
        (hchronicle.summary_alike hother hcalm hreturned' hlimit)
      exact { hcounts with }
    · rw [hostsTaken, ← htaken]
      exact (hchronicle.taken_perm hcalm hlimit).trans (hother.taken_perm hreturned' hlimit).symm
  · refine ⟨fun other hrefused => ?_, fun hnone => absurd ((honly source).mpr rfl) (hnone source)⟩
    obtain rfl := (honly other).mp hrefused
    rw [haborted.kept] at hanswer
    exact hanswer

/-- A run all of whose sinks refuse everything. -/
theorem agrees_of_path_all_refused :
    let plan : Plan := { settings := { queueCapacity := 1 }, sentinel := .standard }
    let request : RunRequest := { requesters := 1, resolvers := 1, files := ["a"] }
    let opening : String → Opening := fun _ => .opened [.line " b ", .line ""]
    let lookup : String → Lookup := fun _ => .found "::"
    let told := plan.instructions (.settled opening lookup fun _ => {})
    let sinks := Sinks.ofDevices fun _ => { refuses := fun _ _ => some (.system 28) }
    let start := initial plan request sinks {} none
    let now := execute told 60 start
    ∃ path summary, Path (step told) start path now ∧ now.result? = some (.ok summary) ∧
      AgreesWithCalm plan request opening lookup (hostsTaken told path) summary := by
  have hplan : Plan.create { queueCapacity := 1 } =
    .ok { settings := { queueCapacity := 1 }, sentinel := .standard } := rfl
  have hstart := start_eq_ok
    (.ofDevices fun _ => { refuses := fun _ _ => some (.system 28) })
    (show Plan.check { settings := { queueCapacity := 1 }, sentinel := .standard }
      { requesters := 1, resolvers := 1, files := ["a"] } = .ok () from rfl) rfl rfl
  intro plan request opening lookup told sinks start now
  have hover : now.result?.any Except.isOk = true := by decide +kernel
  have hopening : ∀ file, (opening file).Readable := fun _ => by decide
  have hlookup : ∀ host, lookup host ≠ .panicked := by
    intro host heq
    cases heq
  have hlive : sinks.Live := fun sink => by cases sink <;> rfl
  obtain ⟨path, hpath⟩ :=
    (reachable_execute told 60 start).traces fun actor state => [(actor, state)]
  obtain ⟨summary, hresult⟩ := exists_ok_of_any hover
  obtain ⟨hrefused, hagrees⟩ :=
    agrees_of_path hplan hstart (by decide) hopening hlookup hlive hpath hresult
  obtain ⟨other, hok, hagrees⟩ := hagrees fun source h => by
    cases hrefused source h
  obtain rfl := Except.ok.inj hok
  exact ⟨path, summary, hpath, hresult, hagrees⟩

/-- One name is too long, the standard error refuses its report, and the run fails. -/
theorem refused_report_ends_run :
    let plan : Plan :=
      { settings := { queueCapacity := 1, maxFileNameLength := 12 }, sentinel := .standard }
    let request : RunRequest :=
      { requesters := 1, resolvers := 1, files := ["waytoolongname.txt", "a"] }
    let opening : String → Opening := fun _ => .opened [.line "x"]
    let lookup : String → Lookup := fun _ => .found "::"
    let told := plan.instructions (.settled opening lookup fun _ => {})
    let sinks := Sinks.ofDevices fun
      | .stderr => { refuses := fun _ _ => some (.system 28) }
      | _ => .memory
    let start := initial plan request sinks {} none
    let now := execute told 60 start
    (Plan.create plan.settings = .ok plan ∧ Run.start plan request sinks = .ok start ∧
        plan.sentinel.text ∉ request.files ∧ (∀ file, (opening file).Readable) ∧
        (∀ host, lookup host ≠ .panicked) ∧ sinks.Live ∧ Reachable told start now) ∧
      now.result? = some (.error (.sink (.write .stderr (.system 28)))) := by
  intro plan request opening lookup told sinks start now
  have hstart := start_eq_ok sinks
    (show Plan.check
        { settings := { queueCapacity := 1, maxFileNameLength := 12 }, sentinel := .standard }
        { requesters := 1, resolvers := 1, files := ["waytoolongname.txt", "a"] } = .ok ()
      from rfl) rfl rfl
  have hlookup : ∀ host, lookup host ≠ .panicked := by
    intro host heq
    cases heq
  have hlive : sinks.Live := fun sink => by cases sink <;> rfl
  have hover : now.result?.isSome = true := by decide +kernel
  have hkept : now.driver.account.kept = some (.sink (.write .stderr (.system 28))) := by
    decide +kernel
  have hreach : Reachable told start now := reachable_execute told 60 start
  refine ⟨⟨rfl, hstart, by decide, fun _ => by decide, hlookup, hlive, hreach⟩, ?_⟩
  clear_value now
  obtain ⟨result, hresult⟩ := Option.isSome_iff_exists.mp hover
  obtain ⟨_, hanswer⟩ :=
    (tidy_of_reachable hreach).answer result (activity_of_result? hresult)
  rw [hkept] at hanswer
  exact hresult.trans (congrArg some hanswer)

end Run

end HostLookup
