import HostLookup.Proofs.Run.Chronicle
import HostLookup.Proofs.Run.Paths
import HostLookup.Proofs.Worker.Replies

/-!
# The trails of a run

Every run, also one that fails, leaves a trail for each of its workers: what the worker was
answered, and that what it has taken, put, logged and counted comes out of these answers. The
answers can be read off a path. Together with the account of the driver, and with the roles of all
threads, the trails tell where everything in a run comes from.

* **`Worker.Trail`**, **`Worker.Trail.goesOn`**: one worker, and a step of it.
* **`Run.replies`**: what the world has answered on a path.
* **`Run.Trails`**, **`Run.trails_of_path`**: all threads of a run, in every run.
-/

namespace HostLookup

/-! ## One worker

In every run the world may answer as it likes, so a trail cannot say what a worker does for an item,
only what it does about the answers that it was given. Whatever has failed, this much is left: the
worker has asked about the items that it took, it has put no host name that was not in an answer,
and it has written no line to the log that is not made from one. -/

namespace Worker

variable {told : Instructions} {moment max : Nat} {w w' : Worker} {desk desk' : Desk}
  {own new : History} {replies : List Reply} {stage : Stage} {i : Nat}

/-- The part of the history that is about a worker, by the answers that the worker was given. -/
structure Trail (told : Instructions) (max : Nat) (own : History) (replies : List Reply)
    (stage : Stage) (i : Nat) (w : Worker) : Prop where
  name : w.name = nameOf stage.name i
  stage_eq : w.stage = stage
  output : w.output = stage.logSink
  taken : (own.taken stage).filter (· ≠ told.sentinel.text) =
    replies.map Reply.item ++ w.activity.inHand told.sentinel
  /-- A worker asks as those of its stage do. -/
  asker : ∀ other, w.activity.asker = some other → other = stage
  asked : ∀ reply ∈ replies, reply.stage = stage
  serviced : w.tally.serviced = replies.length + w.activity.asker.toList.length
  misses : w.tally.misses = replies.countP Reply.isMiss
  produced : (own.stored .resolver).length = w.tally.produced + w.activity.uncounted
  hosts : (own.stored .resolver ++ w.activity.upcoming told.sentinel max).Sublist
    (replies.flatMap (Reply.hosts told.sentinel max))
  fileless : stage = .resolver → w.activity.isFileless = true
  logs : stage = .resolver → (own.lines .resolverLog ++ w.activity.unwritten).Sublist
    (replies.filterMap (Reply.line? told.notResolved))
  silent : stage = .requester → own.lines .resolverLog = []
  ended : ∀ report, w.activity = .ended report → ∃ elapsed exit, report = w.report elapsed exit

namespace Trail

/-- A worker at its beginning has left no trail. -/
theorem start (told : Instructions) (max : Nat) (stage : Stage) (i : Nat) :
    Trail told max [] [] stage i (start stage (nameOf stage.name i)) where
  name := rfl
  stage_eq := rfl
  output := rfl
  taken := rfl
  asker _ := nofun
  asked _ := nofun
  serviced := rfl
  misses := rfl
  produced := rfl
  hosts := .refl _
  fileless _ := rfl
  logs _ := .refl _
  silent _ := rfl
  ended := nofun

/-- The log of a worker is not the stream to which it announces its end. -/
theorem output_ne_stdout (h : Trail told max own replies stage i w) : w.output ≠ .stdout := by
  rw [h.output]
  cases stage <;> decide

/-- **A step continues the trail of the worker that makes it.** -/
theorem goesOn (h : Trail told max own replies stage i w)
    (hmove : Moves told moment w desk w' desk')
    (hlimit : ∀ target, desk.target = some target → target.maxItemLength = max)
    (htarget : desk.target = none → ∀ host call file, w.activity ≠ .offering host call file)
    (htaken : new.taken stage = desk.source.taken w.activity.sourceCall)
    (hstored : new.stored .resolver = w.puts desk)
    (hlines : ∀ sink, new.lines sink = (w.lineTo told moment sink).toList) :
    Trail told max (own ++ new) (replies ++ (w.reply? told moment).toList) stage i w' := by
  have hcounts := hmove.counts htarget
  -- a worker is answered as many times as it has asked, once or not at all
  have hasked : (w.reply? told moment).toList.length = w.activity.asker.toList.length := by
    rw [← map_stage_reply?]
    cases w.reply? told moment <;> rfl
  have hlogs : ∀ hstage : stage = .resolver, _ := fun hstage =>
    hmove.logs (h.stage_eq.trans hstage) (by rw [h.output, hstage]; rfl) (h.fileless hstage)
  exact
    { name := hcounts.name.trans h.name
      stage_eq := hcounts.stage.trans h.stage_eq
      output := hcounts.output.trans h.output
      taken := by
        rw [History.taken_append, List.filter_append, h.taken, htaken, List.append_assoc,
          hcounts.taken, ← List.append_assoc, List.map_append]
      asker := fun other hother => (hcounts.asker other hother).trans h.stage_eq
      asked := by
        intro reply hmem
        rcases List.mem_append.mp hmem with hold | hnew
        · exact h.asked reply hold
        · refine h.asker _ ?_
          rw [← map_stage_reply? told moment, Option.mem_toList.mp hnew]
          rfl
      serviced := by rw [hcounts.serviced, h.serviced, List.length_append, hasked]
      misses := by rw [hcounts.misses, h.misses, List.countP_append]
      produced := by
        rw [History.stored_append, List.length_append, h.produced, hstored]
        exact hcounts.produced
      hosts := by
        rw [History.stored_append, hstored, List.append_assoc, List.flatMap_append]
        -- what was still to come is part of the answers so far
        refine ((hmove.hosts hlimit).append_left _).trans ?_
        rw [← List.append_assoc]
        exact h.hosts.append_right _
      fileless := fun hstage => (hlogs hstage).1
      logs := fun hstage => by
        rw [History.lines_append, hlines, List.append_assoc, List.filterMap_append]
        refine ((hlogs hstage).2.append_left _).trans ?_
        rw [← List.append_assoc]
        exact (h.logs hstage).append_right _
      silent := fun hstage => by
        rw [History.lines_append, h.silent hstage, hlines,
          lineTo_resolverLog told moment (by rw [h.output, hstage]; rfl)]
        rfl
      ended := by
        intro report hended
        rcases hmove.ends h.output_ne_stdout with ⟨exit, -, rfl⟩ | ⟨-, hgoing⟩
        · exact ⟨_, exit, (Activity.ended.inj hended).symm⟩
        · exact absurd hended (hgoing report) }

/-- What a worker has put are host names that it was answered. -/
theorem stored_sublist (h : Trail told max own replies stage i w) :
    (own.stored .resolver).Sublist (replies.flatMap (Reply.hosts told.sentinel max)) :=
  (List.sublist_append_left _ _).trans h.hosts

/-- No host name that was put is the sentinel: it was compared before it was put. -/
theorem filter_stored (h : Trail told max own replies stage i w) :
    (own.stored .resolver).filter (· ≠ told.sentinel.text) = own.stored .resolver := by
  refine List.filter_eq_self.mpr fun host hmem => ?_
  obtain ⟨reply, -, hhost⟩ := List.mem_flatMap.mp (h.stored_sublist.subset hmem)
  exact decide_eq_true (Reply.ne_of_mem_hosts hhost)

/-- A resolver asks about host names only, and no answer to that brings new ones. -/
theorem stored_of_resolver (h : Trail told max own replies .resolver i w) :
    own.stored .resolver = [] := by
  refine List.sublist_nil.mp ?_
  have hnone : replies.flatMap (Reply.hosts told.sentinel max) = [] := by
    refine List.flatMap_eq_nil_iff.mpr fun reply hmem => ?_
    cases reply with
    | opened => exact absurd (h.asked _ hmem) nofun
    | lookedUp => rfl
  rw [← hnone]
  exact h.stored_sublist

/-- What a worker has written to the log of the resolvers are lines for its answers. -/
theorem lines_sublist (h : Trail told max own replies stage i w) :
    (own.lines .resolverLog).Sublist (replies.filterMap (Reply.line? told.notResolved)) := by
  cases stage with
  | requester =>
    rw [h.silent rfl]
    exact List.nil_sublist _
  | resolver => exact (List.sublist_append_left _ _).trans (h.logs rfl)

/-- The items that a worker has asked about are those that it took, in this order. -/
theorem items_sublist (h : Trail told max own replies stage i w) :
    (replies.map Reply.item).Sublist ((own.taken stage).filter (· ≠ told.sentinel.text)) := by
  rw [h.taken]
  exact List.sublist_append_left _ _

/-- Nobody misses more than it was asked. -/
theorem misses_le (h : Trail told max own replies stage i w) :
    w.tally.misses ≤ w.tally.serviced := by
  rw [h.misses, h.serviced]
  exact Nat.le_add_right_of_le List.countP_le_length

end Trail

end Worker

/-! ## All workers

What is answered on a path is sorted by the worker that has asked. Only the worker that makes a step
is answered in it, so the trails of the others stay as they are. -/

/-- What is kept stage by stage can be told apart again. -/
theorem filter_stages {α : Type} (f : α → Stage) {parts : Stage → List α}
    (hparts : ∀ stage, ∀ a ∈ parts stage, f a = stage) (stage : Stage) :
    (parts .requester ++ parts .resolver).filter (fun a => f a = stage) = parts stage := by
  have hown : (parts stage).filter (fun a => f a = stage) = parts stage :=
    List.filter_eq_self.mpr fun a hmem => decide_eq_true (hparts stage a hmem)
  have hother : ∀ other, other ≠ stage → (parts other).filter (fun a => f a = stage) = [] := by
    intro other hne
    refine List.filter_eq_nil_iff.mpr fun a hmem heq => hne ?_
    rw [← hparts other a hmem]
    exact of_decide_eq_true heq
  rw [List.filter_append]
  cases stage with
  | requester => rw [hown, hother .resolver nofun, List.append_nil]
  | resolver => rw [hown, hother .requester nofun, List.nil_append]

namespace Run

variable {told : Instructions} {run run' : Run} {actor : Actor} {path : List (Actor × Run)}
  {max : Nat}

/-- What the next step of a thread is answered. -/
def replyOf (told : Instructions) (run : Run) : Actor → Option Reply
  | .worker stage i => (run.workers stage)[i]?.bind (Worker.reply? told run.moment)
  | .driver | .outsider => none

/-- What the world has answered on a path. -/
def replies (told : Instructions) (path : List (Actor × Run)) : List Reply :=
  path.filterMap fun p => replyOf told p.2 p.1

/-- What it has answered to one thread. -/
def repliesTo (told : Instructions) (path : List (Actor × Run)) (actor : Actor) : List Reply :=
  replies told (path.filter fun p => p.1 = actor)

/-- A step adds its answer to those of the thread that has made it. -/
theorem repliesTo_append (told : Instructions) (path : List (Actor × Run)) (run : Run)
    (actor other : Actor) :
    repliesTo told (path ++ [(actor, run)]) other =
      repliesTo told path other ++
        if actor = other then (replyOf told run actor).toList else [] := by
  rw [repliesTo, repliesTo, replies, replies, List.filter_append, List.filterMap_append]
  by_cases hown : actor = other
  · subst hown
    cases hreply : replyOf told run actor <;> simp [hreply]
  · simp [hown]

/-- What it has answered to the workers of a stage, worker by worker. -/
def repliesOf (told : Instructions) (path : List (Actor × Run)) (run : Run) (stage : Stage) :
    List Reply :=
  (List.range (run.workers stage).length).flatMap fun i => repliesTo told path (.worker stage i)

/-- The trails of all workers, and what the driver has no part in. -/
structure Trails (told : Instructions) (max : Nat) (path : List (Actor × Run)) (run : Run) :
    Prop where
  /-- Only threads that are listed make steps. -/
  actors : ∀ p ∈ path, p.1 ∈ run.actors
  driver : ((historyOf told path).of .driver).lines .resolverLog = []
  limit : (run.queue .resolver).maxItemLength = max
  /-- Host names are offered only where there is somebody to take them. -/
  offers : ∀ stage, ∀ w ∈ run.workers stage, ∀ host call file,
    w.activity = .offering host call file → run.hasTarget stage = true
  workers : ∀ (stage : Stage) (i : Nat) (w : Worker), (run.workers stage)[i]? = some w →
    Worker.Trail told max ((historyOf told path).of (.worker stage i))
      (repliesTo told path (.worker stage i)) stage i w

namespace Trails

/-- The driver never writes to the log of the resolvers. -/
theorem driver_move (h : Trails told max path run) (actor : Actor) :
    ((historyOf told (path ++ [(actor, run)])).of .driver).lines .resolverLog = [] := by
  rw [historyOf_append, historyOf_singleton, History.of_append, History.lines_append, h.driver,
    of_events]
  split
  · next heq =>
    -- the driver reports to the standard error stream
    subst heq
    rw [lines_events]
    unfold lineOf
    cases run.driver.activity <;> rfl
  · rfl

/-- Whoever offers a host name has somebody to offer it to, before the step and after it. -/
theorem offers_move (h : Trails told max path run) (hmove : Moves told run actor run')
    (stage : Stage) (w : Worker) (hmem : w ∈ run'.workers stage) (host : String) (call : PutCall)
    (file : Reading) (hoffering : w.activity = .offering host call file) :
    run'.hasTarget stage = true := by
  rw [hmove.hasTarget_eq]
  rcases hmove.mem_workers hmem with hold | ⟨i, u, desk, -, hworker⟩
  · exact h.offers stage w hold host call file hoffering
  · rw [← isSome_target_desk]
    exact hworker.isSome_of_offering hoffering

/-- The trails after a step: one of them goes on, and the others are what they were. -/
theorem workers_move (h : Trails told max path run) (hmove : Moves told run actor run')
    (stage : Stage) (i : Nat) (w : Worker) (hplace : (run'.workers stage)[i]? = some w) :
    Worker.Trail told max ((historyOf told (path ++ [(actor, run)])).of (.worker stage i))
      (repliesTo told (path ++ [(actor, run)]) (.worker stage i)) stage i w := by
  rw [historyOf_append, historyOf_singleton, History.of_append, of_events, repliesTo_append]
  rcases hmove.ownWorker stage with
    ⟨j, u, u', desk, rfl, hplace', hworker, hset, -⟩ | ⟨hother, hsame⟩
  · rw [hset] at hplace
    by_cases hij : j = i
    · subst hij
      have hlt := (List.getElem?_eq_some_iff.mp hplace').1
      rw [List.getElem?_set_self hlt] at hplace
      obtain rfl := Option.some.inj hplace
      -- the worker that has made the step
      have hreply : replyOf told run (.worker stage j) = u.reply? told run.moment := by
        rw [replyOf, hplace']
        rfl
      rw [if_pos rfl, if_pos rfl, hreply]
      refine (h.workers stage j u hplace').goesOn hworker ?_ ?_ (taken_events_worker hplace')
        (stored_events_worker hplace') (lines_events_worker hplace')
      · -- a requester hands on to the queue of hosts, whose limit does not change
        intro target htarget
        rw [(target_desk htarget).2]
        exact h.limit
      · -- without a resolver no host name is offered
        intro hnone host call file hoffering
        have hsome := h.offers stage u (List.mem_of_getElem? hplace') host call file hoffering
        rw [← isSome_target_desk, hnone] at hsome
        contradiction
    · -- another worker of the same stage
      rw [List.getElem?_set_ne hij] at hplace
      rw [if_neg (by simp [hij]), if_neg (by simp [hij]), List.append_nil, List.append_nil]
      exact h.workers stage i w hplace
  · -- somebody else has made the step
    rw [hsame] at hplace
    rw [if_neg (hother i), if_neg (hother i), List.append_nil, List.append_nil]
    exact h.workers stage i w hplace

/-- **Every step continues the trails.** -/
theorem move (h : Trails told max path run) (hmove : Moves told run actor run') :
    Trails told max (path ++ [(actor, run)]) run' where
  actors p hmem := by
    rw [hmove.actors_eq]
    rcases List.mem_append.mp hmem with hold | hnew
    · exact h.actors p hold
    · rw [List.mem_singleton.mp hnew]
      exact hmove.mem_actors
  driver := h.driver_move actor
  limit := by
    have hgeometry := (hmove.turn .resolver).geometry.2.2
    rw [← h.limit, Queue.maxItemLength, Queue.maxItemLength, hgeometry]
  offers := h.offers_move hmove
  workers := h.workers_move hmove

theorem tick (h : Trails told max path run) (moment : Nat) :
    Trails told max path { run with moment := moment } :=
  ⟨h.actors, h.driver, h.limit, h.offers, h.workers⟩

/-- The answers on a path are those to all workers, in some order. The driver and the outsider are
answered nothing. -/
theorem replies_perm (h : Trails told max path run) :
    (replies told path).Perm
      (repliesOf told path run .requester ++ repliesOf told path run .resolver) := by
  have hparts : Interleaves (replies told path) (run.actors.map (repliesTo told path)) :=
    Interleaves.of_tags (fun p : Actor × Run => replyOf told p.2 p.1) run.nodup_actors path
      fun p hmem _ => h.actors p hmem
  -- threads that are never answered add nothing to the list
  have hnobody : ∀ actor, (∀ run, replyOf told run actor = none) →
      repliesTo told path actor = [] := by
    intro actor hnone
    refine List.filterMap_eq_nil_iff.mpr fun p hmem => ?_
    have hactor : p.1 = actor := by simpa using (List.mem_filter.mp hmem).2
    rw [hactor]
    exact hnone p.2
  have hflat : (run.actors.map (repliesTo told path)).flatten =
      repliesOf told path run .requester ++ repliesOf told path run .resolver := by
    rw [actors_eq_pools, List.map_cons, List.map_cons, hnobody .driver fun _ => rfl,
      hnobody .outsider fun _ => rfl, List.map_append, pool, pool, List.map_map, List.map_map,
      List.flatten_cons, List.flatten_cons, List.flatten_append]
    rfl
  rw [← hflat]
  exact hparts.perm

/-- Workers ask about what their stage is there for. -/
theorem stage_of_mem (h : Trails told max path run) {stage : Stage} {reply : Reply}
    (hmem : reply ∈ repliesOf told path run stage) : reply.stage = stage := by
  obtain ⟨i, hi, hreply⟩ := List.mem_flatMap.mp hmem
  exact (h.workers stage i _
    (List.getElem?_eq_getElem (List.mem_range.mp hi))).asked reply hreply

/-- The workers of a stage are answered what is asked there. -/
theorem asked_perm (h : Trails told max path run) (stage : Stage) :
    ((replies told path).filter fun reply => reply.stage = stage).Perm
      (repliesOf told path run stage) := by
  rw [← filter_stages Reply.stage (fun stage reply => h.stage_of_mem) stage]
  exact h.replies_perm.filter _

/-- The host names that were put are those that the requesters have put. -/
theorem stored_perm (h : Trails told max path run)
    (hroles : Roles told.sentinel (historyOf told path) run) :
    (((historyOf told path).stored .resolver).filter (· ≠ told.sentinel.text)).Perm
      ((List.range (run.workers .requester).length).flatMap fun i =>
        ((historyOf told path).of (.worker .requester i)).stored .resolver) := by
  have hrequesters : ((List.range (run.workers .requester).length).flatMap fun i =>
      ((historyOf told path).of (.worker .requester i)).stored .resolver).filter
        (· ≠ told.sentinel.text) =
      (List.range (run.workers .requester).length).flatMap fun i =>
        ((historyOf told path).of (.worker .requester i)).stored .resolver := by
    rw [List.filter_flatMap, List.flatMap_def, List.flatMap_def]
    refine congrArg List.flatten (List.map_congr_left fun i hmem => ?_)
    exact (h.workers .requester i _
      (List.getElem?_eq_getElem (List.mem_range.mp hmem))).filter_stored
  have hresolvers : ((List.range (run.workers .resolver).length).flatMap fun i =>
      ((historyOf told path).of (.worker .resolver i)).stored .resolver) = [] := by
    refine List.flatMap_eq_nil_iff.mpr fun i hmem => ?_
    exact (h.workers .resolver i _
      (List.getElem?_eq_getElem (List.mem_range.mp hmem))).stored_of_resolver
  -- the driver has put nothing but sentinels
  have hperm := (hroles.stored_perm .resolver).filter (· ≠ told.sentinel.text)
  rwa [List.filter_append, List.filter_append, hroles.sentinels, hrequesters, hresolvers,
    List.filter_nil, List.nil_append, List.append_nil] at hperm

end Trails

/-! ## Every run

All three invariants hold for every path, whatever threads were refused at its beginning, by
induction on the path. -/

section Path

variable {plan : Plan} {request : RunRequest} {sinks : Sinks} {refusals : Refusals}
  {outsider : Option SinkCall} {environment : Environment}

/-- At the beginning nobody has been answered. -/
theorem trails_initial : Trails told (plan.settings.maxNameLength - 1) []
    (initial plan request sinks refusals outsider) where
  actors _ := nofun
  driver := rfl
  limit := rfl
  offers stage w hmem host call file hoffering := by
    rw [activity_of_mem_initial hmem] at hoffering
    contradiction
  workers stage i w hplace := by
    rw [eq_start_of_initial hplace]
    exact .start told _ stage i

/-- **All workers leave their trails**, whatever the path is. -/
theorem trails_of_path
    (hpath : Path (step told) (initial plan request sinks refusals outsider) path run) :
    Trails told (plan.settings.maxNameLength - 1) path run := by
  induction hpath with
  | refl => exact trails_initial
  | tail actor _ hstep ih =>
    obtain ⟨next, hmove, rfl⟩ := moves_of_step hstep
    exact (ih.move hmove).tick _

/-- The roles of the threads are kept along every path. -/
theorem roles_of_path (husable : plan.Usable) (hfiles : plan.sentinel.text ∉ request.files)
    (hpath : Path (step (plan.instructions environment))
      (initial plan request sinks refusals outsider) path run) :
    Roles plan.sentinel (historyOf (plan.instructions environment) path) run := by
  induction hpath with
  | refl => exact .start _ _
  | tail actor hbefore hstep ih =>
    obtain ⟨next, hmove, rfl⟩ := moves_of_step hstep
    rw [historyOf_append, historyOf_singleton]
    exact (Roles.move ih (orderly_of_path husable hfiles hbefore) hmove).tick _

/-- And so is the account of the driver. -/
theorem audit_of_path (husable : plan.Usable) (hfiles : plan.sentinel.text ∉ request.files)
    (hpath : Path (step (plan.instructions environment))
      (initial plan request sinks refusals outsider) path run) :
    ∃ done, Audit plan.sentinel (plan.settings.maxFileNameLength - 1)
      ((spawnPools request refusals.thread).skippedAtOnce request.files)
      ((spawnPools request refusals.thread).namesToFeed request.files)
      (historyOf (plan.instructions environment) path) run done := by
  induction hpath with
  | refl => exact ⟨[], audit_initial _⟩
  | tail actor hbefore hstep ih =>
    obtain ⟨done, haudit⟩ := ih
    obtain ⟨next, hmove, rfl⟩ := moves_of_step hstep
    obtain ⟨now, haudit'⟩ := Audit.move haudit (orderly_of_path husable hfiles hbefore) hmove
    rw [historyOf_append, historyOf_singleton]
    exact ⟨_, haudit'.tick _⟩

end Path

end Run

end HostLookup
