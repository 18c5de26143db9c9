import HostLookup.Proofs.Run.Trails
import Mathlib.Data.List.Flatten
import Mathlib.Data.List.Perm.Subperm

/-!
# Where everything in a run comes from

A run that fails closes queues with items in them, and its workers stop in the middle of a file.
Much is lost then, but nothing is done twice and nothing is made up: every name that a requester
takes is one of the request, every host name that is put stands in a file that was taken, every host
name that a resolver takes was put, and every line in the log of the resolvers is about a host name
that a resolver has taken.

* **`Run.Sourced`** says so of all that has happened on a path, step by step of the way.
* **`Run.sourced_of_path`**: it holds on every path, whatever fails and whoever moves when.
-/

namespace HostLookup

/-! ## Lists in another order

`List.Subperm` says that nothing is done that was not given and nothing is done more often than it
was given. It is kept by reading something off every element. -/

section Subperm

variable {α β : Type} {l l' : List α}

theorem subperm_flatMap (h : l.Subperm l') (f : α → List β) :
    (l.flatMap f).Subperm (l'.flatMap f) := by
  obtain ⟨m, hperm, hsub⟩ := h
  exact (hperm.flatMap_right f).symm.subperm.trans (hsub.flatMap f).subperm

theorem subperm_map (h : l.Subperm l') (f : α → β) : (l.map f).Subperm (l'.map f) := by
  obtain ⟨m, hperm, hsub⟩ := h
  exact (hperm.map f).symm.subperm.trans (hsub.map f).subperm

end Subperm

/-! ## Worlds that are settled

What a worker is told may depend on the moment. A world is settled for a file or a host name if it
never tells more than what is said here; then there is a bound on what a run can make of it. -/

/-- At no time does a data file hold other host names to hand on than these. -/
def Environment.Holds (environment : Environment) (sentinel : Sentinel) (max : Nat)
    (content : String → List String) : Prop :=
  ∀ moment file, ((environment.opening moment file).hosts sentinel max).Subperm (content file)

/-- At no time is another line logged for a host name than this one. -/
def Environment.Answers (environment : Environment) (notResolved : String)
    (line : String → String) : Prop :=
  ∀ moment host text, Reply.line? notResolved (.lookedUp host (environment.lookup moment host)) =
    some text → text = line host

namespace Run

variable {told : Instructions} {run : Run} {path : List (Actor × Run)} {max : Nat}

/-! ## What has happened on a path

These are read off the steps of a path and not off the state, so they say what was done even if a
failure has cut it short afterwards. -/

/-- The items that came out of the queue in front of a stage. -/
def itemsTaken (told : Instructions) (path : List (Actor × Run)) (stage : Stage) : List String :=
  ((historyOf told path).taken stage).filter (· ≠ told.sentinel.text)

/-- The items that went into it. -/
def itemsPut (told : Instructions) (path : List (Actor × Run)) (stage : Stage) : List String :=
  ((historyOf told path).stored stage).filter (· ≠ told.sentinel.text)

/-- The items that the workers of a stage have asked about. -/
def itemsAsked (told : Instructions) (path : List (Actor × Run)) (stage : Stage) : List String :=
  ((replies told path).filter fun reply => reply.stage = stage).map Reply.item

/-- The world has answered so at some moment. -/
theorem of_mem_replies {reply : Reply} (hmem : reply ∈ replies told path) :
    (∃ moment file, reply = .opened file (told.environment.opening moment file)) ∨
      ∃ moment host, reply = .lookedUp host (told.environment.lookup moment host) := by
  obtain ⟨⟨actor, state⟩, -, hreply⟩ := List.mem_filterMap.mp hmem
  cases actor with
  | driver | outsider => contradiction
  | worker stage i =>
    obtain ⟨w, -, hreply⟩ := Option.bind_eq_some_iff.mp hreply
    unfold Worker.reply? at hreply
    split at hreply
    · exact Or.inl ⟨_, _, (Option.some.inj hreply).symm⟩
    · exact Or.inr ⟨_, _, (Option.some.inj hreply).symm⟩
    · contradiction

/-! ## In a settled world

A worker writes and hands on only what it was told, and in a settled world that is bounded by what
it has asked about. -/

theorem hosts_subperm_of_holds {content : String → List String}
    (hholds : told.environment.Holds told.sentinel max content) :
    ((replies told path).flatMap (Reply.hosts told.sentinel max)).Subperm
      ((itemsAsked told path .requester).flatMap content) := by
  have hforall : ∀ reply ∈ replies told path, reply.stage = .requester →
      (reply.hosts told.sentinel max).Subperm (content reply.item) := by
    intro reply hmem hstage
    rcases of_mem_replies hmem with ⟨moment, file, rfl⟩ | ⟨moment, host, rfl⟩
    · exact hholds moment file
    · contradiction
  unfold itemsAsked
  generalize replies told path = answers at hforall ⊢
  induction answers with
  | nil => exact .refl _
  | cons reply rest ih =>
    have ih := ih fun other hmem => hforall other (List.mem_cons_of_mem _ hmem)
    cases reply with
    | opened file opening =>
      exact (hforall _ List.mem_cons_self rfl).append ih
    | lookedUp host answer =>
      -- a lookup has no host names to hand on
      exact ih

theorem lines_sublist_of_answers {line : String → String}
    (hanswers : told.environment.Answers told.notResolved line) :
    ((replies told path).filterMap (Reply.line? told.notResolved)).Sublist
      ((itemsAsked told path .resolver).map line) := by
  have hforall : ∀ reply ∈ replies told path, ∀ text,
      reply.line? told.notResolved = some text → text = line reply.item := by
    intro reply hmem text htext
    rcases of_mem_replies hmem with ⟨moment, file, rfl⟩ | ⟨moment, host, rfl⟩
    · contradiction
    · exact hanswers moment host text htext
  unfold itemsAsked
  generalize replies told path = answers at hforall ⊢
  induction answers with
  | nil => exact .refl _
  | cons reply rest ih =>
    have ih := ih fun other hmem => hforall other (List.mem_cons_of_mem _ hmem)
    cases reply with
    | opened file opening => exact ih
    | lookedUp host answer =>
      rw [List.filter_cons_of_pos (by rfl), List.map_cons, List.map_cons]
      cases htext : (Reply.lookedUp host answer).line? told.notResolved with
      | none =>
        rw [List.filterMap_cons_none htext]
        exact ih.cons _
      | some text =>
        rw [List.filterMap_cons_some htext, hforall _ List.mem_cons_self text htext]
        exact ih.cons_cons _

/-! ## Every run

The chain goes from the request to the logs: names fed, items put, items taken, items asked about,
lines written. Each link is a sublist or a subpermutation of the one before it, whether the run was
cut short or not. -/

/-- What the workers have on record, if it comes out of their answers. -/
theorem Trails.subperm {α : Type} (h : Trails told max path run) (part : History → List α)
    (f : Reply → List α)
    (hpart : ∀ {own answers stage i w}, Worker.Trail told max own answers stage i w →
      (part own).Sublist (answers.flatMap f)) :
    ((List.range (run.workers .requester).length).flatMap
        (fun i => part ((historyOf told path).of (.worker .requester i))) ++
      (List.range (run.workers .resolver).length).flatMap
        fun i => part ((historyOf told path).of (.worker .resolver i))).Subperm
      ((replies told path).flatMap f) := by
  have hstage : ∀ stage, ((List.range (run.workers stage).length).flatMap
      fun i => part ((historyOf told path).of (.worker stage i))).Sublist
        ((repliesOf told path run stage).flatMap f) := by
    intro stage
    rw [repliesOf, List.flatMap_assoc]
    refine List.Sublist.flatMap_right _ fun i hmem => ?_
    exact hpart (h.workers stage i _ (List.getElem?_eq_getElem (List.mem_range.mp hmem)))
  refine ((hstage .requester).append (hstage .resolver)).subperm.trans ?_
  rw [← List.flatMap_append]
  exact (h.replies_perm.symm.flatMap_right f).subperm

theorem Trails.asked_subperm (h : Trails told max path run)
    (hroles : Roles told.sentinel (historyOf told path) run) (stage : Stage) :
    (itemsAsked told path stage).Subperm (itemsTaken told path stage) := by
  refine ((h.asked_perm stage).map Reply.item).subperm.trans ?_
  refine List.Subperm.trans (List.Sublist.subperm ?_)
    (hroles.shares_interleave stage).perm.symm.subperm
  rw [repliesOf, List.map_flatMap, ← List.flatMap_def]
  refine List.Sublist.flatMap_right _ fun i hmem => ?_
  exact (h.workers stage i _
    (List.getElem?_eq_getElem (List.mem_range.mp hmem))).items_sublist

theorem Trails.put_subperm (h : Trails told max path run)
    (hroles : Roles told.sentinel (historyOf told path) run) :
    (itemsPut told path .resolver).Subperm
      ((replies told path).flatMap (Reply.hosts told.sentinel max)) := by
  refine (h.stored_perm hroles).subperm.trans ?_
  refine (List.sublist_append_left _ _).subperm.trans
    (h.subperm (fun own => own.stored .resolver) (Reply.hosts told.sentinel max) ?_)
  exact fun htrail => htrail.stored_sublist

theorem Trails.logged_subperm (h : Trails told max path run)
    (hroles : Roles told.sentinel (historyOf told path) run) :
    ((historyOf told path).lines .resolverLog).Subperm
      ((replies told path).filterMap (Reply.line? told.notResolved)) := by
  have hperm := hroles.lines_perm .resolverLog
  rw [h.driver, List.nil_append] at hperm
  refine hperm.subperm.trans ?_
  rw [List.filterMap_eq_flatMap_toList]
  refine h.subperm (fun own => own.lines .resolverLog) _ ?_
  intro own answers stage i w htrail
  rw [← List.filterMap_eq_flatMap_toList]
  exact htrail.lines_sublist

theorem Orderly.taken_sublist (h : Orderly told.sentinel (historyOf told path) run)
    (stage : Stage) : (itemsTaken told path stage).Sublist (itemsPut told path stage) := by
  obtain ⟨rest, hrest⟩ := Queue.Ledger.outs_prefix (h.sound.ledger stage)
  rw [itemsPut, ← hrest]
  exact (List.sublist_append_left _ rest).filter _

theorem Audit.put_sublist {skipped : Nat} {names : List String} {done : List Deed}
    (h : Audit told.sentinel max skipped names (historyOf told path) run done) :
    (itemsPut told path .requester).Sublist names := by
  have hdone := ((List.sublist_append_left _ _).trans h.sublist).filterMap Deed.put?
  rw [filterMap_put_feed] at hdone
  rw [itemsPut, h.stored]
  exact hdone.trans List.filter_sublist

theorem sublist_namesToFeed (request : RunRequest) :
    request.namesToFeed.Sublist request.files := by
  unfold RunRequest.namesToFeed
  split
  · exact List.nil_sublist _
  · exact .refl _

/-- Where everything on a path comes from. A slot in front of the resolvers holds host names of up
to `max` bytes. -/
structure Sourced (told : Instructions) (max : Nat) (files : List String)
    (path : List (Actor × Run)) : Prop where
  /-- The names of the data files that were taken are those of the request, in its order. -/
  fed : (itemsTaken told path .requester).Sublist files
  /-- An item that was taken is asked about once at most: a data file is opened, or a host name is
  looked up. -/
  asked : ∀ stage, (itemsAsked told path stage).Subperm (itemsTaken told path stage)
  /-- What was put in front of the resolvers stands in the data files as they were opened. -/
  put : (itemsPut told path .resolver).Subperm
    ((replies told path).flatMap (Reply.hosts told.sentinel max))
  /-- What came out of a queue was put into it, in the same order. -/
  taken : ∀ stage, (itemsTaken told path stage).Sublist (itemsPut told path stage)
  /-- What was written to the log of the resolvers are lines for host names that were looked up. -/
  logged : ((historyOf told path).lines .resolverLog).Subperm
    ((replies told path).filterMap (Reply.line? told.notResolved))
  /-- If the data files keep their contents, what was put stands in those that were taken. -/
  held : ∀ content, told.environment.Holds told.sentinel max content →
    (itemsPut told path .resolver).Subperm ((itemsTaken told path .requester).flatMap content)
  /-- If the answers stay the same, there is one line at most for each host name that was taken. -/
  answered : ∀ line, told.environment.Answers told.notResolved line →
    ((historyOf told path).lines .resolverLog).Subperm
      ((itemsTaken told path .resolver).map line)
  /-- No host name is looked up or logged more often than it stands in the data files. -/
  lookedUp : ∀ content, told.environment.Holds told.sentinel max content →
    (itemsAsked told path .resolver).Subperm (files.flatMap content) ∧
      ∀ line, told.environment.Answers told.notResolved line →
        ((historyOf told path).lines .resolverLog).Subperm ((files.flatMap content).map line)

/-- The trails of a run lead to where everything comes from. -/
theorem Trails.sourced (h : Trails told max path run)
    (hroles : Roles told.sentinel (historyOf told path) run)
    (horderly : Orderly told.sentinel (historyOf told path) run) {files : List String}
    (hfiles : (itemsPut told path .requester).Sublist files) : Sourced told max files path := by
  have hfed := (horderly.taken_sublist .requester).trans hfiles
  have hput := h.put_subperm hroles
  have hlogged := h.logged_subperm hroles
  have hheld : ∀ content, told.environment.Holds told.sentinel max content →
      (itemsPut told path .resolver).Subperm
        ((itemsTaken told path .requester).flatMap content) := fun content hholds =>
    hput.trans ((hosts_subperm_of_holds hholds).trans
      (subperm_flatMap (h.asked_subperm hroles .requester) content))
  have hlines : ∀ line, told.environment.Answers told.notResolved line →
      ((historyOf told path).lines .resolverLog).Subperm
        ((itemsAsked told path .resolver).map line) := fun line hanswers =>
    hlogged.trans (lines_sublist_of_answers hanswers).subperm
  -- host names are looked up that were taken, hence put, hence found in data files that were taken
  have hlookedUp : ∀ content, told.environment.Holds told.sentinel max content →
      (itemsAsked told path .resolver).Subperm (files.flatMap content) := fun content hholds =>
    (h.asked_subperm hroles .resolver).trans ((horderly.taken_sublist .resolver).subperm.trans
      ((hheld content hholds).trans (hfed.flatMap content).subperm))
  exact
    { fed := hfed
      asked := h.asked_subperm hroles
      put := hput
      taken := horderly.taken_sublist
      logged := hlogged
      held := hheld
      answered := fun line hanswers =>
        (hlines line hanswers).trans (subperm_map (h.asked_subperm hroles .resolver) line)
      lookedUp := fun content hholds => ⟨hlookedUp content hholds, fun line hanswers =>
        (hlines line hanswers).trans (subperm_map (hlookedUp content hholds) line)⟩ }

section Path

variable {plan : Plan} {request : RunRequest} {sinks : Sinks} {refusals : Refusals}
  {outsider : Option SinkCall} {environment : Environment} {now : Run}

/-- **Nothing in a run is made up or done twice**, whichever threads were refused to it, whatever
fails in it and whoever moves when. -/
theorem sourced_of_path {settings : Settings} {begun : Run}
    (hplan : Plan.create settings = .ok plan)
    (hlaunch : Run.launch plan request sinks refusals = .ok begun)
    (hfiles : plan.sentinel.text ∉ request.files)
    (hpath : Path (step (plan.instructions environment)) { begun with outsider := outsider } path
      now) :
    Sourced (plan.instructions environment)
      (plan.settings.maxNameLength - 1) request.files path := by
  have husable := Plan.usable_of_create hplan
  obtain ⟨-, rfl⟩ := eq_of_launch hlaunch
  replace hpath : Path (step (plan.instructions environment))
    (initial plan request sinks refusals outsider) path now := hpath
  obtain ⟨done, haudit⟩ := audit_of_path husable hfiles hpath
  -- the driver feeds names of the request, or none after a refusal
  exact (trails_of_path hpath).sourced (roles_of_path husable hfiles hpath)
    (orderly_of_path husable hfiles hpath)
    ((Audit.put_sublist haudit).trans (Pools.sublist_namesToFeed _ request.files))

/-- One data file is given twice, the second of two resolvers is refused or not, and the first
panics while the sinks are released. If it is refused, nothing is fed. -/
theorem sourced_of_path_panic :
    let plan : Plan := { settings := { queueCapacity := 1 }, sentinel := .standard }
    let request : RunRequest := { requesters := 2, resolvers := 2, files := ["a", "a"] }
    let told := plan.instructions (.steady
      (fun _ => .opened [.line " b ", .failed .notUtf8, .line "", .line "c"])
      (Resolver.panickingAt ["c"] fun _ => .found "::") {})
    let refusals : Refusals :=
      { thread := fun stage i => if stage = .resolver ∧ i = 1 then some "no room" else none }
    let start := initial plan request (.ofDevices fun _ => .memory) {} (some .marking)
    let short := initial plan request (.ofDevices fun _ => .memory) refusals (some .marking)
    (∃ failure path, (execute told 60 start).result? = some (.error failure) ∧
      Path (step told) start path (execute told 60 start) ∧ Sourced told 1024 ["a", "a"] path) ∧
    ∃ failure path, (execute told 60 short).result? = some (.error failure) ∧
      (short.workers .requester).length = 0 ∧
      Path (step told) short path (execute told 60 short) ∧ Sourced told 1024 ["a", "a"] path := by
  have hplan : Plan.create { queueCapacity := 1 } =
    .ok { settings := { queueCapacity := 1 }, sentinel := .standard } := rfl
  intro plan request told refusals start short
  have hfiles : Queue.create "files" 1 4096 = .ok (.ofGeometry "files" 1 4096) := rfl
  have hhosts : Queue.create "hosts" 1 1025 = .ok (.ofGeometry "hosts" 1 1025) := rfl
  have hlaunch : ∀ refused : Stage → Nat → Option String,
      launch plan request (.ofDevices fun _ => .memory) { thread := refused } =
        .ok (initial plan request (.ofDevices fun _ => .memory) { thread := refused } none) :=
    fun refused => launch_eq_ok _ { thread := refused } rfl hfiles hhosts
  obtain ⟨path, hpath⟩ :=
    (reachable_execute told 60 start).traces fun actor state => [(actor, state)]
  obtain ⟨other, hother⟩ :=
    (reachable_execute told 60 short).traces fun actor state => [(actor, state)]
  have hfails : (execute told 60 start).result?.any (fun result => !result.isOk) = true := by
    decide +kernel
  have hfails' : (execute told 60 short).result?.any (fun result => !result.isOk) = true := by
    decide +kernel
  obtain ⟨failure, hfailure⟩ := exists_error_of_any hfails
  obtain ⟨failure', hfailure'⟩ := exists_error_of_any hfails'
  exact ⟨⟨failure, path, hfailure, hpath, sourced_of_path hplan (hlaunch _) (by decide) hpath⟩,
    failure', other, hfailure', by decide +kernel, hother,
    sourced_of_path hplan (hlaunch _) (by decide) hother⟩

end Path

end Run

end HostLookup
