import HostLookup.FileTree
import HostLookup.Proofs.Worker.Expansion
import HostLookup.Proofs.Worker.LoopRuns

/-!
# Servicing a file on disk

From the moment at which it opens a data file until it asks for its next item, a requester is busy
with that file. It opens it once, and deals with what the lines come to one after the other,
whatever the others do at its desk meanwhile and whatever comes of its output.

* **`Worker.Services.own`**: a step keeps a worker with its file or brings it to the end of it.
* **`Worker.expands_of_path`**: a worker that services a file on disk deals with its expansion, in
  order, and comes to the end of it.
-/

namespace HostLookup

/-- Is the worker in the middle of a data file? -/
def Activity.isServing : Activity → Bool
  | .opening _ | .reading _ | .offering .. | .logging .. | .reporting .. => true
  | _ => false

/-- Meanwhile it takes nothing from its queue. -/
theorem Activity.sourceCall_of_isServing {a : Activity} (h : a.isServing = true) :
    a.sourceCall = none := by
  cases a <;> first | rfl | contradiction

namespace Worker

variable {told : Instructions} {moment : Nat} {t : Terms} {w w' w₀ : Worker}
  {desk desk' start : Desk} {path : List (Beat × Worker × Desk)} {file : String} {bytes : Bytes}

theorem isServing_raise {failure : Failure} {reading : Option Reading}
    (hsteady : t.Steady (w.raise failure reading).activity) :
    (w.raise failure reading).activity.isServing = true := by
  unfold raise at hsteady ⊢
  by_cases hrecoverable : failure.isRecoverable = true
  · rw [if_pos hrecoverable]
    rfl
  · rw [if_neg hrecoverable] at hsteady
    exact hsteady.elim

theorem isServing_handOn {sentinel : Sentinel} {hasTarget : Bool} {host : String}
    {reading : Reading} : (w.handOn sentinel hasTarget host reading).activity.isServing = true := by
  unfold handOn
  split
  · rfl
  · split <;> rfl

theorem isServing_read {sentinel : Sentinel} {hasTarget : Bool} {reading : Reading}
    (hsteady : t.Steady (w.read sentinel hasTarget reading).activity) :
    (w.read sentinel hasTarget reading).activity.isServing = true ∨
      (w.read sentinel hasTarget reading).activity = .taking .entering := by
  unfold read at hsteady ⊢
  cases hrest : reading.rest with
  | nil => exact Or.inr rfl
  | cons event rest =>
    rw [hrest] at hsteady
    cases event with
    | line text =>
      dsimp only
      split
      · exact Or.inl rfl
      · exact Or.inl isServing_handOn
    | failed failure =>
      dsimp only
      split <;> exact Or.inl rfl
    | panicked => exact hsteady.elim

theorem isServing_resume (reading : Option Reading) :
    (resume reading).isServing = true ∨ resume reading = .taking .entering := by
  cases reading with
  | none => exact Or.inr rfl
  | some => exact Or.inl rfl

/-- **A worker stays with a file until it asks for the next item**, unless something ends it. -/
theorem Moves.isServing (h : Moves told moment w desk w' desk')
    (hserving : w.activity.isServing = true) (hsteady : t.Steady w'.activity) :
    w'.activity.isServing = true ∨ w'.activity = .taking .entering := by
  cases h with
  | @openFile other hactivity =>
    cases hopening : told.environment.opening moment other with
    | refused failure =>
      rw [hopening] at hsteady
      exact Or.inl (isServing_raise hsteady)
    | opened events => exact Or.inl rfl
    | panicked =>
      rw [hopening] at hsteady
      exact hsteady.elim
  | read hactivity => exact isServing_read hsteady
  | @offered host call reading result target target' hactivity htarget hstep =>
    cases result with
    | ok => exact Or.inl rfl
    | error error => exact Or.inl (isServing_raise hsteady)
  | @log line reading hactivity =>
    cases hresult : (desk.sinks.writeLine w.output line).1 with
    | ok => exact isServing_resume reading
    | error error =>
      rw [hresult] at hsteady
      exact Or.inl (isServing_raise hsteady)
  | @report failure reading hactivity => exact isServing_resume reading
  | keep | offer => exact Or.inl rfl
  | take hactivity | receive hactivity | starve hactivity | acknowledge hactivity | lookUp hactivity
  | closeSource hactivity | closedSource hactivity | conclude hactivity | closeTarget hactivity
  | closedTarget hactivity | announce hactivity =>
    rw [hactivity] at hserving
    contradiction

/-! ## In the middle of a file

`Services` is what holds from the opening on: what the worker was answered is the file, and what it
has dealt with and what is ahead together are what the lines come to. -/

/-- A reader comes across no panic in a file on disk. -/
theorem panicked_notMem_lineEvents (bytes : Bytes) : .panicked ∉ DataFile.lineEvents bytes := by
  intro hmem
  obtain ⟨line, -, hevent⟩ := List.mem_map.mp hmem
  unfold DataFile.eventOfLine at hevent
  split at hevent <;> contradiction

/-- Where a worker stands that services a file on disk. -/
structure Services (t : Terms) (told : Instructions) (w₀ : Worker) (file : String) (bytes : Bytes)
    (path : List (Beat × Worker × Desk)) (w : Worker) (desk : Desk) : Prop
    extends Dealt t told w₀ path w desk where
  serving : w.activity.isServing = true ∨ w.activity = .taking .entering
  servings : ∀ s ∈ ownSteps path, s.2.1.activity.isServing = true
  answers : ∀ reply ∈ repliesOn told path,
    reply = .opened file (.opened (DataFile.lineEvents bytes))

namespace Services

theorem begun (hfile : w₀.activity = .opening file) (hstage : w₀.stage = .requester)
    (hlimit : start.target.map Queue.maxItemLength = t.limit) :
    Services t told w₀ file bytes [] w₀ start where
  toDealt := by
    refine .start told hlimit ?_ ?_ ?_
    · rw [hfile]
      trivial
    · rw [hfile]
      trivial
    · intro own hown
      rw [hfile] at hown
      exact (Option.some.inj hown).symm.trans hstage.symm
  serving := by
    rw [hfile]
    exact Or.inl rfl
  servings _ hmem := absurd hmem List.not_mem_nil
  answers _ hmem := absurd hmem List.not_mem_nil

theorem tookOn_eq (h : Services t told w₀ file bytes path w desk) : tookOn path = [] := by
  refine List.flatMap_eq_nil_iff.mpr fun s hmem => ?_
  rw [Activity.sourceCall_of_isServing (h.servings s hmem)]
  rfl

/-- The file that it is about to open is the one that it has begun with. -/
theorem reply?_eq (h : Services t told w₀ file bytes path w desk)
    (hfile : w₀.activity = .opening file) (hserving : w.activity.isServing = true)
    (hdisk : ∀ moment, told.environment.opening moment file =
      .opened (DataFile.lineEvents bytes)) :
    ∀ reply ∈ w.reply? told moment,
      reply = .opened file (.opened (DataFile.lineEvents bytes)) := by
  intro reply hreply
  unfold reply? at hreply
  split at hreply
  · next other hactivity =>
    have hitems := h.items
    rw [hfile, h.tookOn_eq, hactivity] at hitems
    have hmem : other ∈ [file] ++ ([] : List String).filter (· ≠ told.sentinel.text) := by
      rw [show [file] = (Activity.opening file).inHand told.sentinel from rfl, hitems]
      exact List.mem_append_right _ List.mem_cons_self
    obtain rfl : other = file := by simpa using hmem
    obtain rfl := Option.some.inj hreply
    rw [hdisk]
  · next host hactivity =>
    rw [hactivity] at hserving
    contradiction
  · contradiction

/-- **Every step of the worker keeps it with its file**, or brings it to the end of it. -/
theorem own (h : Services t told w₀ file bytes path w desk)
    (hmove : Moves told moment w desk w' desk') (hfile : w₀.activity = .opening file)
    (hdisk : ∀ moment, told.environment.opening moment file =
      .opened (DataFile.lineEvents bytes))
    (hsentinel : told.sentinel = t.sentinel) (hopen : desk.IsTargetOpen) (hlive : desk.sinks.Live)
    (hbusy : w.activity ≠ .taking .entering) :
    Services t told w₀ file bytes (path ++ [(.own moment, w, desk)]) w' desk' := by
  have hserving : w.activity.isServing = true := h.serving.resolve_right hbusy
  have hreply : ∀ reply ∈ w.reply? told moment,
      reply = .opened file (.opened (DataFile.lineEvents bytes)) :=
    h.reply?_eq hfile hserving hdisk
  have hdealt : Dealt t told w₀ (path ++ [(.own moment, w, desk)]) w' desk' := by
    refine h.toDealt.own hmove hsentinel ⟨fun hcall => ?_, hopen⟩ hlive fun reply hmem => ?_
    · -- in the middle of a file it does not use the queue that it takes from
      rw [Activity.sourceCall_of_isServing hserving] at hcall
      contradiction
    · rw [hreply reply hmem]
      exact panicked_notMem_lineEvents bytes
  refine ⟨hdealt, hmove.isServing hserving hdealt.steady, ?_, ?_⟩
  · intro s hmem
    rw [ownSteps_own] at hmem
    rcases List.mem_append.mp hmem with hold | hnew
    · exact h.servings s hold
    · obtain rfl := List.mem_singleton.mp hnew
      exact hserving
  · intro reply hmem
    rw [repliesOn_own] at hmem
    rcases List.mem_append.mp hmem with hold | hnew
    · exact h.answers reply hold
    · exact hreply reply (Option.mem_toList.mp hnew)

/-- What others do changes neither the worker nor its file. -/
theorem others (h : Services t told w₀ file bytes path w desk) {disturbance : Disturbance}
    (hdisturb : desk.disturb disturbance = some desk') :
    Services t told w₀ file bytes (path ++ [(.others disturbance, w, desk)]) w desk' := by
  have hsteps := ownSteps_others path disturbance w desk
  refine ⟨h.toDealt.others hdisturb, h.serving, ?_, ?_⟩
  · rw [hsteps]
    exact h.servings
  · rw [repliesOn, hsteps]
    exact h.answers

end Services

/-- **From its opening on a worker services the file**, whatever the others do. -/
theorem services_of_path (hpath : Path (stepAmong told) (w₀, start) path (w, desk))
    (hstart : Services t told w₀ file bytes [] w₀ start) (hfile : w₀.activity = .opening file)
    (hdisk : ∀ moment, told.environment.opening moment file =
      .opened (DataFile.lineEvents bytes))
    (hsentinel : told.sentinel = t.sentinel)
    (hopen : ∀ s ∈ ownSteps path, s.2.2.IsTargetOpen)
    (hlive : ∀ s ∈ ownSteps path, s.2.2.sinks.Live)
    (hbusy : ∀ s ∈ ownSteps path, s.2.1.activity ≠ .taking .entering) :
    Services t told w₀ file bytes path w desk := by
  generalize hlast : (w, desk) = last at hpath
  induction hpath generalizing w desk with
  | refl =>
    cases hlast
    exact hstart
  | @tail path mid next beat _ hstep ih =>
    -- the conditions are about the worker's own steps, so those of others leave them as they are
    obtain ⟨u, before⟩ := mid
    subst hlast
    cases beat with
    | own moment =>
      rw [ownSteps_own] at hopen hlive hbusy
      have hlast : (moment, u, before) ∈ ownSteps path ++ [(moment, u, before)] :=
        List.mem_append_right _ List.mem_cons_self
      have hbefore := ih (fun s hmem => hopen s (List.mem_append_left _ hmem))
        (fun s hmem => hlive s (List.mem_append_left _ hmem))
        (fun s hmem => hbusy s (List.mem_append_left _ hmem)) rfl
      exact hbefore.own (moves_of_step hstep) hfile hdisk hsentinel (hopen _ hlast)
        (hlive _ hlast) (hbusy _ hlast)
    | others disturbance =>
      rw [ownSteps_others] at hopen hlive hbusy
      obtain ⟨after, hdisturb, heq⟩ := Option.map_eq_some_iff.mp hstep
      cases heq
      exact (ih hopen hlive hbusy rfl).others hdisturb

/-! ## At the end of a file

When it asks for its next item nothing is ahead any more, so it has dealt with everything. -/

/-- What a worker makes of a file on disk. -/
structure Expands (t : Terms) (file : String) (bytes : Bytes) (told : Instructions)
    (path : List (Beat × Worker × Desk)) (w : Worker) (desk : Desk) : Prop where
  /-- It has dealt with the first things that the file comes to, in order. -/
  inOrder : dealtOn path <+: DataFile.expansion t file bytes
  /-- It makes no more steps than the lines of the file are worth. -/
  brief : (ownSteps path).length ≤ 11 + 12 * (DataFile.physicalLines bytes).length
  /-- Before it asks for the next item it waits for nothing but a free slot. -/
  waits : w.activity ≠ .taking .entering → ∀ moment, w.step told moment desk = none →
    ∃ host item reading target, w.activity = .offering host (.entering item) reading ∧
      desk.target = some target ∧ target.free.permits = 0
  /-- When it asks for the next item it has dealt with all that the file comes to, and has put the
  host names in it. -/
  done : w.activity = .taking .entering →
    dealtOn path = DataFile.expansion t file bytes ∧
    putsOn path = if t.limit.isSome then
      (DataFile.expansion t file bytes).filterMap Finding.host? else []

/-- The file is opened once. -/
theorem Services.replies (h : Services t told w₀ file bytes path w desk)
    (hfile : w₀.activity = .opening file) :
    repliesOn told path = [] ∧ w.activity.inHand told.sentinel = [file] ∨
      repliesOn told path = [.opened file (.opened (DataFile.lineEvents bytes))] ∧
        w.activity.inHand told.sentinel = [] := by
  have hitems := h.items
  rw [hfile, h.tookOn_eq] at hitems
  replace hitems : [file] = (repliesOn told path).map Reply.item ++
      w.activity.inHand told.sentinel := hitems
  cases hreplies : repliesOn told path with
  | nil =>
    rw [hreplies] at hitems
    exact Or.inl ⟨rfl, hitems.symm⟩
  | cons reply rest =>
    rw [hreplies, List.map_cons, List.cons_append] at hitems
    -- a second answer would need a second item, and only one was taken
    have hrest := List.append_eq_nil_iff.mp (List.cons.inj hitems).2.symm
    obtain rfl := List.map_eq_nil_iff.mp hrest.1
    rw [h.answers reply (hreplies ▸ List.mem_cons_self)]
    exact Or.inr ⟨rfl, hrest.2⟩

/-- **What a worker makes of a file on disk** while it services it. -/
theorem Services.expands (h : Services t told w₀ file bytes path w desk)
    (hpath : Path (stepAmong told) (w₀, start) path (w, desk))
    (hfile : w₀.activity = .opening file) (hopen : ∀ s ∈ ownSteps path, s.2.2.IsTargetOpen) :
    Expands t file bytes told path w desk := by
  have hexpansion : ([Reply.opened file (.opened (DataFile.lineEvents bytes))]).flatMap
      (Reply.findings t) = DataFile.expansion t file bytes := by
    rw [List.flatMap_singleton]
    exact DataFile.findings_lineEvents t file bytes
  have hfindings := h.findings
  rw [hfile] at hfindings
  replace hfindings : dealtOn path ++ w.activity.ahead t =
    (repliesOn told path).flatMap (Reply.findings t) := hfindings
  -- while it services a file no item is half taken
  have hadmitted : w.activity.isAdmitted = false := by
    rcases h.serving with hserving | hback
    · cases hactivity : w.activity <;> first | rfl | (rw [hactivity] at hserving; contradiction)
    · rw [hback]
      rfl
  refine ⟨?_, ?_, ?_, ?_⟩
  · rcases h.replies hfile with ⟨hreplies, -⟩ | ⟨hreplies, -⟩
    · rw [hreplies] at hfindings
      rw [(List.append_eq_nil_iff.mp hfindings).1]
      exact List.nil_prefix
    · rw [hreplies, hexpansion] at hfindings
      exact ⟨_, hfindings⟩
  · have hpace := pace_of_path hpath fun s hmem =>
      ⟨fun hcall => by
        rw [Activity.sourceCall_of_isServing (h.servings s hmem)] at hcall
        contradiction, hopen s hmem⟩
    have hstart : w₀.activity.effort = 11 := congrArg Activity.effort hfile
    have hlines : ((repliesOn told path).map Reply.lines).sum ≤
        (DataFile.physicalLines bytes).length := by
      rcases h.replies hfile with ⟨hreplies, -⟩ | ⟨hreplies, -⟩
      · rw [hreplies]
        exact Nat.zero_le _
      · apply Nat.le_of_eq
        rw [hreplies, List.map_singleton, List.sum_singleton, Reply.lines, DataFile.lineEvents,
          List.length_map, DataFile.splitLines_eq]
    rw [hstart, h.tookOn_eq, hadmitted, List.length_nil] at hpace
    simp only [Bool.toNat_false] at hpace
    omega
  · intro hbusy moment hstep
    have hserving := h.serving.resolve_right hbusy
    rcases blocked_of_step hstep with hover | ⟨hactivity, -⟩ |
      ⟨host, item, reading, target, hactivity, htarget, -, hfull⟩
    · unfold isOver at hover
      split at hover
      · next hactivity =>
        rw [hactivity] at hserving
        contradiction
      · next hactivity =>
        rw [hactivity] at hserving
        contradiction
      · contradiction
    · exact absurd hactivity hbusy
    · exact ⟨host, item, reading, target, hactivity, htarget, hfull⟩
  · intro hback
    have hreplies : repliesOn told path =
        [.opened file (.opened (DataFile.lineEvents bytes))] := by
      rcases h.replies hfile with ⟨-, hinHand⟩ | ⟨hreplies, -⟩
      · rw [hback] at hinHand
        contradiction
      · exact hreplies
    rw [hreplies, hexpansion, hback] at hfindings
    have hdealt : dealtOn path = DataFile.expansion t file bytes := by
      rw [← hfindings]
      exact (List.append_nil _).symm
    refine ⟨hdealt, ?_⟩
    split
    · next hsome =>
      have hputs := h.puts hsome
      rw [hfile, hback, hdealt] at hputs
      exact hputs.trans (List.append_nil _)
    · next hnone => exact h.noPuts (by simpa using hnone)

/-- **Exact expansion of a file on disk.** A requester that has just begun with a regular file deals
with what the lines of the file come to, in order, and with nothing else; it comes to their end as
long as the next queue has room, and it then asks for its next item. What the lines come to is said
of the bytes of the file. Whether the sinks take what is written to them makes no difference. -/
theorem expands_of_path {name : String} {output : Sink} {tally : Tally} {tree : FileTree}
    (hpath : Path (stepAmong told)
      ({ name := name, stage := .requester, output := output, tally := tally,
         activity := .opening file }, start) path (w, desk))
    (hregular : tree.get file = .ok (.file bytes))
    (hdisk : ∀ moment, told.environment.opening moment file = tree.openDataFile file)
    (hopen : ∀ s ∈ ownSteps path, s.2.2.IsTargetOpen)
    (hlive : ∀ s ∈ ownSteps path, s.2.2.sinks.Live)
    (hbusy : ∀ s ∈ ownSteps path, s.2.1.activity ≠ .taking .entering) :
    Expands (.ofLimit told (start.target.map Queue.maxItemLength)) file bytes told path w desk ∧
      DataFile.Exact (.ofLimit told (start.target.map Queue.maxItemLength)) file bytes := by
  have hopening : ∀ moment, told.environment.opening moment file =
      .opened (DataFile.lineEvents bytes) := by
    intro moment
    rw [hdisk, FileTree.openDataFile, hregular]
  refine ⟨?_, DataFile.exact_expansion _ file bytes⟩
  have hservices : Services (.ofLimit told (start.target.map Queue.maxItemLength)) told _ file bytes
      path w desk :=
    services_of_path hpath (.begun rfl rfl rfl) rfl hopening rfl hopen hlive hbusy
  exact hservices.expands hpath rfl hopen

/-- A file with a line end of each kind, blank lines, lines that are no text, and host names that
are turned away. The log of the requester takes nothing, and nobody takes from the next queue. -/
theorem expands_of_path_mixed_file :
    let bytes : Bytes := [0x20, 0x61, 0x0D, 0x0A, 0x61, 0xFF, 0x0A, 0x0D, 0x0A, 0x0A, 0x7B, 0x45,
      0x4E, 0x44, 0x7D, 0x0A, 0x61, 0x61, 0x61, 0x61, 0x61, 0x61, 0x61, 0x61, 0x0A, 0xC3, 0xA9,
      0xC2, 0xA0]
    let tree : FileTree := { nodes := [(["f"], .file bytes)] }
    let told : Instructions :=
      { sentinel := .standard
        notResolved := "-"
        environment := .steady tree.openDataFile (fun _ => .panicked) {} }
    ∃ path w desk, w.activity = .taking .entering ∧ putsOn path = ["a", "é"] ∧
      dealtOn path = [.host "a", .fault (DataFile.garbled "f" 2),
        .fault (reserved Sentinel.standard.text),
        .fault (refusal "aaaaaaaa" (.itemTooLarge 8 7)), .host "é"] ∧
      Expands (.ofLimit told (some 7)) "f" bytes told path w desk ∧
      DataFile.Exact (.ofLimit told (some 7)) "f" bytes := by
  intro bytes tree told
  let start : Desk :=
    { source := Queue.ofGeometry "files" 4 8
      target := some (Queue.ofGeometry "hosts" 4 8)
      shutdown := Shutdown.start "requester" 1
      sinks := .ofDevices fun _ => { refuses := fun _ _ => some (.system 28) } }
  let w₀ : Worker :=
    { name := "requester-0", stage := .requester, output := .requesterLog,
      activity := .opening "f" }
  let passes : List (Beat × Worker × Desk) × Worker × Desk → Bool := fun r =>
    decide ((∀ s ∈ ownSteps r.1, s.2.2.IsTargetOpen ∧ s.2.2.sinks.Live) ∧
      (∀ s ∈ ownSteps r.1, s.2.1.activity.isServing = true) ∧
      putsOn r.1 = ["a", "é"] ∧
      dealtOn r.1 = [.host "a", .fault (DataFile.garbled "f" 2),
        .fault (reserved Sentinel.standard.text),
        .fault (refusal "aaaaaaaa" (.itemTooLarge 8 7)), .host "é"] ∧
      r.2.1.activity.sourceCall = some (.get .entering))
  have hregular : tree.get "f" = .ok (.file bytes) := by decide +kernel
  have hwalks : (Path.walk (stepAmong told) ((List.range 23).map Beat.own) (w₀, start)).any
      passes = true := by
    decide +kernel
  obtain ⟨⟨path, w, desk⟩, hwalk, hpasses⟩ := (Option.any_eq_true _ _).mp hwalks
  obtain ⟨hfair, hserving, hputs, hdealt, hback⟩ := of_decide_eq_true hpasses
  have hbusy : ∀ s ∈ ownSteps path, s.2.1.activity ≠ .taking .entering := by
    intro s hmem hactivity
    have hthis := hserving s hmem
    rw [hactivity] at hthis
    contradiction
  have hended : w.activity = .taking .entering := by
    cases hactivity : w.activity with
    | taking call =>
      rw [hactivity] at hback
      obtain rfl := Call.get.inj (Option.some.inj hback)
      rfl
    | _ =>
      rw [hactivity] at hback
      cases hback
  exact ⟨path, w, desk, hended, hputs, hdealt,
    expands_of_path (Path.of_walk hwalk) hregular (fun _ => rfl) (fun s hmem => (hfair s hmem).1)
      (fun s hmem => (hfair s hmem).2) hbusy⟩

end Worker

end HostLookup
