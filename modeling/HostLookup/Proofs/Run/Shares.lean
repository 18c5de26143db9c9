import HostLookup.Proofs.Interleaving
import HostLookup.Proofs.Run.Books
import HostLookup.Proofs.Run.Stories

/-!
# How the work of a run is shared out

What came out of a queue was taken by the workers of its stage, and what stands in a log was written
by somebody, each in some order of its own. When a calm run is over, the items of a stage are shared
out among its workers, and each of them has done all deeds for its share.

* **`Run.Roles`**: who has no part in what.
* **`History.lines_interleaves`** and its like: the history, thread by thread.
* **`Worker.Story.of_ended`**: what a worker leaves behind.
-/

namespace HostLookup

/-! ## The history, thread by thread

Whatever is read off a history entry by entry can be read off thread by thread. The result is one
interleaving for all threads that have a part in it, so that orders are kept and nothing is lost. -/

namespace History

variable {history : History} {owners : List Actor}

/-- What `f` makes of the history, if nobody but the owners has a part in it. -/
theorem interleaves {α : Type} (f : Event → Option α) (hnodup : owners.Nodup)
    (hothers : ∀ actor, actor ∉ owners →
      (history.of actor).filterMap (fun entry => f entry.2) = []) :
    Interleaves (history.filterMap fun entry => f entry.2)
      (owners.map fun actor => (history.of actor).filterMap fun entry => f entry.2) := by
  refine Interleaves.of_tags (fun entry : Actor × Event => f entry.2) hnodup history ?_
  intro entry hmem hsome
  refine Decidable.byContradiction fun hnot => ?_
  -- who is no owner would have something on record all the same
  have hown : entry ∈ history.of entry.1 := List.mem_filter.mpr ⟨hmem, by simp⟩
  have hnone := List.filterMap_eq_nil_iff.mp (hothers entry.1 hnot) entry hown
  rw [hnone] at hsome
  contradiction

theorem lines_interleaves (sink : Sink) (hnodup : owners.Nodup)
    (hothers : ∀ actor, actor ∉ owners → (history.of actor).lines sink = []) :
    Interleaves (history.lines sink) (owners.map fun actor => (history.of actor).lines sink) :=
  interleaves (Event.line? sink) hnodup hothers

/-- What came out of a queue, read entry by entry. -/
theorem taken_eq (history : History) (stage : Stage) : history.taken stage =
    history.filterMap fun entry => (entry.2.section? stage).bind Section.taken? :=
  List.filterMap_filterMap

theorem stored_eq (history : History) (stage : Stage) : history.stored stage =
    history.filterMap fun entry => (entry.2.section? stage).bind Section.stored? :=
  List.filterMap_filterMap

/-- The items that went into a queue, without those that are a given text. -/
theorem filter_stored_eq (history : History) (text : String) (stage : Stage) :
    (history.stored stage).filter (· ≠ text) = history.filterMap fun entry =>
      ((entry.2.section? stage).bind Section.stored?).filter (· ≠ text) := by
  rw [stored_eq, List.filter_filterMap]

/-- What came out of a queue, thread by thread. -/
theorem taken_interleaves (stage : Stage) (hnodup : owners.Nodup)
    (hothers : ∀ actor, actor ∉ owners → (history.of actor).taken stage = []) :
    Interleaves (history.taken stage) (owners.map fun actor => (history.of actor).taken stage) := by
  simp only [taken_eq] at hothers ⊢
  exact interleaves (fun event => (event.section? stage).bind Section.taken?) hnodup hothers

/-- What went into a queue, thread by thread. -/
theorem stored_interleaves (stage : Stage) (hnodup : owners.Nodup)
    (hothers : ∀ actor, actor ∉ owners → (history.of actor).stored stage = []) :
    Interleaves (history.stored stage)
      (owners.map fun actor => (history.of actor).stored stage) := by
  simp only [stored_eq] at hothers ⊢
  exact interleaves (fun event => (event.section? stage).bind Section.stored?) hnodup hothers

/-- The items that a worker has taken, without its sentinel. -/
def share (history : History) (sentinel : Sentinel) (stage : Stage) (i : Nat) : List String :=
  ((history.of (.worker stage i)).taken stage).filter (· ≠ sentinel.text)

/-- The shares of so many workers one after the other. -/
def shared (history : History) (sentinel : Sentinel) (stage : Stage) (workers : Nat) :
    List String :=
  (List.range workers).flatMap (history.share sentinel stage)

end History

namespace Run

variable {told : Instructions} {run run' : Run} {actor : Actor} {history : History}
  {sentinel : Sentinel}

/-! ## Who has no part in what

Only the workers of a stage take anything out of its queue, and only the driver and the requesters
put anything in. The outsider has no part in the history at all. -/

/-- The workers of a stage, as threads. -/
def pool (run : Run) (stage : Stage) : List Actor :=
  (List.range (run.workers stage).length).map (.worker stage)

/-- A worker belongs to the pool of its stage if it has a place there. -/
theorem mem_pool {stage own : Stage} {i : Nat} : .worker own i ∈ run.pool stage ↔
    own = stage ∧ i < (run.workers stage).length := by
  simp only [pool, List.mem_map, List.mem_range, Actor.worker.injEq]
  constructor
  · rintro ⟨j, hlt, rfl, rfl⟩
    exact ⟨rfl, hlt⟩
  · rintro ⟨rfl, hlt⟩
    exact ⟨i, hlt, rfl, rfl⟩

/-- The threads are the driver, the outsider, and the two pools. -/
theorem actors_eq_pools (run : Run) :
    run.actors = .driver :: .outsider :: (run.pool .requester ++ run.pool .resolver) := rfl

theorem nodup_pool (run : Run) (stage : Stage) : (run.pool stage).Nodup := by
  have hnodup := run.nodup_actors
  rw [actors_eq_pools] at hnodup
  have hpools := List.nodup_append.mp (List.nodup_cons.mp (List.nodup_cons.mp hnodup).2).2
  cases stage with
  | requester => exact hpools.1
  | resolver => exact hpools.2.1

/-- Who has no part in what. -/
structure Roles (sentinel : Sentinel) (history : History) (run : Run) : Prop where
  /-- Only threads that are listed have a part in anything. -/
  actors : ∀ entry ∈ history, entry.1 ∈ run.actors
  outsider : history.of .outsider = []
  takers : ∀ stage actor, (∀ i, actor ≠ .worker stage i) → (history.of actor).taken stage = []
  /-- The driver hands nothing on to the resolvers. -/
  sentinels : ((history.of .driver).stored .resolver).filter (· ≠ sentinel.text) = []

namespace Roles

/-- In the beginning nobody has done anything. -/
theorem start (sentinel : Sentinel) (run : Run) : Roles sentinel [] run where
  actors _ := nofun
  outsider := rfl
  takers _ _ _ := rfl
  sentinels := rfl

/-- What the driver puts in front of the resolvers is a sentinel. -/
theorem filter_stored_driver (horderly : Orderly sentinel history run) :
    ((run.queue .resolver).stored (run.callOn .driver .resolver)).filter (· ≠ sentinel.text) =
      [] := by
  cases hactivity : run.driver.activity with
  | draining => exact filter_stored_drain horderly hactivity .resolver
  | clearing own call =>
    simp only [callOn, hactivity, DriverActivity.callOn]
    split <;> simp
  | _ =>
    simp only [callOn, hactivity, DriverActivity.callOn]
    rfl

/-- **Every step keeps the roles.** -/
theorem move (h : Roles told.sentinel history run)
    (horderly : Orderly told.sentinel history run) (hmove : Moves told run actor run') :
    Roles told.sentinel (history ++ events told actor run) run' where
  actors entry hmem := by
    rw [hmove.actors_eq]
    rcases List.mem_append.mp hmem with hold | hnew
    · exact h.actors entry hold
    · rw [actor_of_mem_events hnew]
      exact hmove.mem_actors
  outsider := by
    rw [History.of_append, h.outsider, of_events]
    split
    · next heq =>
      subst heq
      rfl
    · rfl
  -- the thread that moves takes from its own queue only
  takers stage other hother := by
    rw [History.of_append, History.taken_append, h.takers stage other hother, of_events]
    split
    · next heq =>
      subst heq
      rw [taken_events, taken_of_other hother]
      rfl
    · rfl
  sentinels := by
    rw [History.of_append, History.stored_append, List.filter_append, h.sentinels, of_events]
    split
    · next heq =>
      subst heq
      rw [stored_events, filter_stored_driver horderly]
      rfl
    · rfl

theorem tick (h : Roles sentinel history run) (moment : Nat) :
    Roles sentinel history { run with moment := moment } :=
  ⟨h.actors, h.outsider, h.takers, h.sentinels⟩

/-- Who is no thread of the run has done nothing. -/
theorem of_eq_nil (h : Roles sentinel history run) (hactor : actor ∉ run.actors) :
    history.of actor = [] := by
  refine List.filter_eq_nil_iff.mpr fun entry hmem heq => hactor ?_
  have hsame : entry.1 = actor := by simpa using heq
  rw [← hsame]
  exact h.actors entry hmem

/-- What can be said of all threads that do something. -/
theorem forall_of {P : Actor → History → Prop} (h : Roles sentinel history run)
    (hnil : ∀ actor, P actor []) (hdriver : P .driver (history.of .driver))
    (hworker : ∀ stage i w, (run.workers stage)[i]? = some w →
      P (.worker stage i) (history.of (.worker stage i))) (actor : Actor) :
    P actor (history.of actor) := by
  -- the driver and the workers have their say; the outsider has done nothing
  cases actor with
  | driver => exact hdriver
  | outsider =>
    rw [h.outsider]
    exact hnil _
  | worker stage i =>
    cases hplace : (run.workers stage)[i]? with
    | some w => exact hworker stage i w hplace
    | none =>
      -- at this place there is no worker, so nothing is on record for it
      have hlength := List.getElem?_eq_none_iff.mp hplace
      rw [h.of_eq_nil]
      · exact hnil _
      · simp only [actors_eq_pools, List.mem_cons, List.mem_append, mem_pool, reduceCtorEq,
          false_or]
        rintro (⟨rfl, hlt⟩ | ⟨rfl, hlt⟩) <;> omega

/-- What all threads have a part in, with the silent outsider left out. -/
theorem flatten_actors {α : Type} (h : Roles sentinel history run) (part : History → List α)
    (hnil : part [] = []) :
    (run.actors.map fun actor => part (history.of actor)).flatten =
      part (history.of .driver) ++
        ((List.range (run.workers .requester).length).flatMap
            (fun i => part (history.of (.worker .requester i))) ++
          (List.range (run.workers .resolver).length).flatMap
            fun i => part (history.of (.worker .resolver i))) := by
  simp only [actors_eq_pools, pool, List.map_cons, List.map_append, List.map_map, h.outsider, hnil,
    List.flatten_cons, List.flatten_append, List.nil_append, List.flatMap_def]
  rfl

/-- **The lines that were written to a sink** are those of the driver and of the workers. -/
theorem lines_perm (h : Roles sentinel history run) (sink : Sink) :
    (history.lines sink).Perm ((history.of .driver).lines sink ++
      ((List.range (run.workers .requester).length).flatMap
          (fun i => (history.of (.worker .requester i)).lines sink) ++
        (List.range (run.workers .resolver).length).flatMap
          fun i => (history.of (.worker .resolver i)).lines sink)) := by
  have hparts : Interleaves (history.lines sink) _ :=
    History.lines_interleaves sink run.nodup_actors fun actor hactor => by
      rw [h.of_eq_nil hactor]
      rfl
  rw [← h.flatten_actors (fun own => own.lines sink) rfl]
  exact hparts.perm

/-- What went into a queue is what the driver and the workers have put. -/
theorem stored_perm (h : Roles sentinel history run) (stage : Stage) :
    (history.stored stage).Perm ((history.of .driver).stored stage ++
      ((List.range (run.workers .requester).length).flatMap
          (fun i => (history.of (.worker .requester i)).stored stage) ++
        (List.range (run.workers .resolver).length).flatMap
          fun i => (history.of (.worker .resolver i)).stored stage)) := by
  have hparts : Interleaves (history.stored stage) _ :=
    History.stored_interleaves stage run.nodup_actors fun actor hactor => by
      rw [h.of_eq_nil hactor]
      rfl
  rw [← h.flatten_actors (fun own => own.stored stage) rfl]
  exact hparts.perm

/-- **The items that came out of a queue** are shared out among the workers of its stage. -/
theorem shares_interleave (h : Roles sentinel history run) (stage : Stage) :
    Interleaves ((history.taken stage).filter (· ≠ sentinel.text))
      ((List.range (run.workers stage).length).map (history.share sentinel stage)) := by
  -- nobody but the workers of the stage takes anything out of its queue
  have hothers : ∀ actor, actor ∉ run.pool stage → (history.of actor).taken stage = [] := by
    refine h.forall_of (P := fun actor own => actor ∉ run.pool stage → own.taken stage = [])
      (fun _ _ => rfl) (fun _ => h.takers stage .driver nofun) ?_
    intro own i w hplace hnot
    refine h.takers stage _ fun j heq => hnot ?_
    have hlt := (List.getElem?_eq_some_iff.mp hplace).1
    injection heq with hown
    subst hown
    exact mem_pool.mpr ⟨rfl, hlt⟩
  have htaken := History.taken_interleaves stage (run.nodup_pool stage) hothers
  have hfiltered := htaken.filter (· ≠ sentinel.text)
  rwa [pool, List.map_map, List.map_map] at hfiltered

end Roles

/-! ## Queues that were drained

A sentinel marks the end of the items: it is behind all of them, so whoever has got one knows that
they are all out. -/

/-- Once a sentinel came out of a queue all items have come out of it. -/
theorem Orderly.filter_taken (h : Orderly sentinel history run) {stage : Stage}
    (hmem : sentinel.text ∈ history.taken stage) :
    (history.taken stage).filter (· ≠ sentinel.text) =
      (history.stored stage).filter (· ≠ sentinel.text) := by
  obtain ⟨items, hitems, hstored⟩ := h.storing stage
  obtain ⟨rest, hwhole⟩ := Queue.Ledger.outs_prefix (h.sound.ledger stage)
  -- the rest cannot reach back into the items, for there is a sentinel before it
  have hrest : rest.filter (· ≠ sentinel.text) = [] := by
    refine List.filter_eq_nil_iff.mpr fun item hitem => ?_
    simp [eq_of_mem_behind (hwhole.trans hstored) hitems hmem hitem]
  rw [← hwhole, List.filter_append, hrest, List.append_nil]

end Run

/-! ## Workers that have ended

The share of a worker is what it has taken without its sentinel, and what it was to do with its
share it has done. -/

/-- **What a worker leaves behind**: it has taken its share and a sentinel after it, and it has done
all deeds for its share. -/
theorem Worker.Story.of_ended {t : Terms} {own : History} {stage : Stage} {i : Nat} {w : Worker}
    {items : List String} {done : List Deed} {report : WorkerReport}
    (h : Worker.Story t own stage i w items done) (hended : w.activity = .ended report) :
    t.sentinel.text ∈ own.taken stage ∧
      items = (own.taken stage).filter (· ≠ t.sentinel.text) ∧
      done = items.flatMap (t.deeds stage) := by
  have htaken : own.taken stage = items ++ [t.sentinel.text] := by
    rw [h.taken, hended]
    rfl
  -- where a worker has ended no deed is left
  have hleft : done = items.flatMap (t.deeds stage) := by
    rw [← h.left, hended]
    exact (List.append_nil done).symm
  have hitems : items.filter (· ≠ t.sentinel.text) = items := by
    refine List.filter_eq_self.mpr fun item hmem => ?_
    have hne : item ≠ t.sentinel.text := fun heq => h.unmarked (heq ▸ hmem)
    simp [hne]
  refine ⟨by simp [htaken], ?_, hleft⟩
  rw [htaken, List.filter_append, hitems]
  simp

end HostLookup
