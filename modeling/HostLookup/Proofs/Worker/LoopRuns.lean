import HostLookup.Proofs.Worker.Pace

/-!
# What a run of the worker loop comes to

A worker goes round in a loop: it takes an item, asks about it, hands on or logs what it was
answered, and takes the next one, until it takes its sentinel. If its queues stay open, nobody
releases the sinks and nobody whom it asks panics, nothing else ends the loop. Then the output of
the worker makes no difference to what it takes, asks, puts and counts. The failures that it counts
are those that it was answered, one by one, and the lines that its log has refused.

* **`Worker.LoopRun`**: a worker that has come so far in its loop undisturbed.
* **`Worker.LoopRun.keepsGoing`**: it waits for nothing but an item or a free slot.
* **`Worker.LoopResult`** says what the loop comes to, in terms of the answers alone and of the
  number of refused lines; **`Worker.LoopRun.result`** says that every loop that has met the
  sentinel comes to that.
* **`Worker.LoopRun.agrees`**: two workers with the same items and the same answers agree in all but
  their failures, whatever the sinks do to either of them.
-/

namespace HostLookup

/-! ## Counting what is in an answer

The numbers in a report count things that stand in the answers: host names, lines that are no text,
files that break off. They are counted here without any worker. -/

namespace LineEvent

/-- A failure behind which nothing more is read. -/
def isFatal : LineEvent → Bool
  | .failed failure => failure.kind ≠ .invalidData
  | .line _ | .panicked => false

/-- A line that holds no text. -/
def isGarbled : LineEvent → Bool
  | .failed failure => failure.kind = .invalidData
  | .line _ | .panicked => false

/-- The host name in a line of text that is not blank. -/
def name? : LineEvent → Option String
  | .line text => DataFile.hostOfLine text
  | .failed _ | .panicked => none

/-- What a reader comes to before the failure that ends the reading. -/
def reached (events : List LineEvent) : List LineEvent :=
  events.takeWhile fun event => !event.isFatal

end LineEvent

namespace Reply

/-- The host names in a data file, good or bad. -/
def names : Reply → List String
  | .opened _ (.opened events) => (LineEvent.reached events).filterMap LineEvent.name?
  | _ => []

/-- The lines of a data file that hold no text. -/
def garbled : Reply → Nat
  | .opened _ (.opened events) => (LineEvent.reached events).countP LineEvent.isGarbled
  | _ => 0

/-- Was a data file not opened, or not read to its end? -/
def isBroken : Reply → Bool
  | .opened _ (.refused _) => true
  | .opened _ (.opened events) => events.any LineEvent.isFatal
  | _ => false

end Reply

/-- Is a host name too long for the next queue? -/
def isTooLong (limit : Option Nat) (host : String) : Bool :=
  limit.any fun max => max < host.utf8ByteSize

namespace Terms

variable (t : Terms)

/-- A host name that is turned away is the sentinel, or it is too long. -/
theorem accepts_eq (host : String) :
    t.accepts host = (!t.sentinel.marks host && !isTooLong t.limit host) := by
  unfold accepts isTooLong
  cases t.limit with
  | none => simp
  | some max => simp only [Option.all_some, Option.any_some, ← decide_not, Nat.not_lt]

/-- A host name that is not accepted is a failure. -/
theorem isSome_fault?_screen (host : String) :
    (t.screen host).fault?.isSome = !t.accepts host := by
  unfold screen accepts
  cases t.sentinel.marks host with
  | true => rfl
  | false =>
    cases t.limit with
    | none => rfl
    | some max => by_cases hle : host.utf8ByteSize ≤ max <;> simp [hle, Finding.fault?]

/-- The host names in a data file that can be handed on, in order. -/
theorem filterMap_host?_findings (file : String) (line : Nat) (events : List LineEvent)
    (hcalm : .panicked ∉ events) : (t.findings file line events).filterMap Finding.host? =
      ((LineEvent.reached events).filterMap LineEvent.name?).filter t.accepts := by
  rw [filterMap_findings]
  congr 1
  induction events with
  | nil => rfl
  | cons event rest ih =>
    have hrest := ih fun hmem => hcalm (List.mem_cons_of_mem _ hmem)
    cases event with
    | line text =>
      rw [LineEvent.readable, LineEvent.reached, List.takeWhile_cons_of_pos rfl,
        List.filterMap_cons, List.filterMap_cons, LineEvent.name?, hrest]
      rfl
    | failed failure =>
      by_cases hkind : failure.kind = .invalidData
      · rw [LineEvent.readable, if_pos hkind, hrest, LineEvent.reached, LineEvent.reached,
          List.takeWhile_cons_of_pos (by simp [LineEvent.isFatal, hkind])]
        rfl
      · rw [LineEvent.readable, if_neg hkind, LineEvent.reached,
          List.takeWhile_cons_of_neg (by simp [LineEvent.isFatal, hkind])]
        rfl
    | panicked => exact absurd List.mem_cons_self hcalm

/-- **The failures in a data file**: the one that ends the reading, the lines that hold no text, and
the host names that are turned away. -/
theorem length_fault?_findings (file : String) (line : Nat) (events : List LineEvent)
    (hcalm : .panicked ∉ events) :
    ((t.findings file line events).filterMap Finding.fault?).length =
      (events.any LineEvent.isFatal).toNat +
        (LineEvent.reached events).countP LineEvent.isGarbled +
        ((LineEvent.reached events).filterMap LineEvent.name?).countP fun host =>
          !t.accepts host := by
  induction events generalizing line with
  | nil => rfl
  | cons event rest ih =>
    have hrest := ih (line + 1) fun hmem => hcalm (List.mem_cons_of_mem _ hmem)
    cases event with
    | line text =>
      have hreached : LineEvent.reached (.line text :: rest) =
          .line text :: LineEvent.reached rest := List.takeWhile_cons_of_pos rfl
      rw [findings, List.filterMap_append, List.length_append, hrest, hreached]
      cases hhost : DataFile.hostOfLine text with
      | none =>
        simp [LineEvent.name?, hhost, LineEvent.isFatal, LineEvent.isGarbled]
      | some host =>
        have hscreen := t.isSome_fault?_screen host
        cases haccepts : t.accepts host with
        | true =>
          have hnone : (t.screen host).fault? = none := by simpa [haccepts] using hscreen
          simp [LineEvent.name?, hhost, LineEvent.isFatal, LineEvent.isGarbled, hnone, haccepts]
        | false =>
          obtain ⟨failure, hsome⟩ : ∃ failure, (t.screen host).fault? = some failure :=
            Option.isSome_iff_exists.mp (by rw [hscreen, haccepts]; rfl)
          simp [LineEvent.name?, hhost, LineEvent.isFatal, LineEvent.isGarbled, hsome, haccepts]
          omega
    | failed failure =>
      by_cases hkind : failure.kind = .invalidData
      · have hreached : LineEvent.reached (.failed failure :: rest) =
            .failed failure :: LineEvent.reached rest :=
          List.takeWhile_cons_of_pos (by simp [LineEvent.isFatal, hkind])
        rw [findings, if_pos hkind, hreached]
        simp [List.filterMap_cons, LineEvent.name?, LineEvent.isFatal, LineEvent.isGarbled, hkind,
          Finding.fault?, hrest]
        omega
      · have hreached : LineEvent.reached (.failed failure :: rest) = [] :=
          List.takeWhile_cons_of_neg (by simp [LineEvent.isFatal, hkind])
        rw [findings, if_neg hkind, hreached]
        simp [LineEvent.isFatal, hkind, Finding.fault?]
    | panicked => exact absurd List.mem_cons_self hcalm

/-- The host names in the answers that can be handed on, in order. -/
theorem filterMap_host?_replies {replies : List Reply} (hcalm : ∀ reply ∈ replies, reply.Calm) :
    (replies.flatMap (Reply.findings t)).filterMap Finding.host? =
      (replies.flatMap Reply.names).filter t.accepts := by
  induction replies with
  | nil => rfl
  | cons reply rest ih =>
    rw [List.flatMap_cons, List.flatMap_cons, List.filterMap_append, List.filter_append,
      ih fun other hmem => hcalm other (List.mem_cons_of_mem _ hmem)]
    congr 1
    have hreply := hcalm reply List.mem_cons_self
    cases reply with
    | lookedUp => rfl
    | opened file opening =>
      cases opening with
      | refused | panicked => rfl
      | opened events => exact t.filterMap_host?_findings file 1 events hreply

/-- **The failures in the answers**, sorted by their reasons. -/
theorem length_fault?_replies {replies : List Reply} (hcalm : ∀ reply ∈ replies, reply.Calm) :
    ((replies.flatMap (Reply.findings t)).filterMap Finding.fault?).length =
      replies.countP Reply.isBroken + (replies.map Reply.garbled).sum +
        (replies.flatMap Reply.names).countP fun host => !t.accepts host := by
  induction replies with
  | nil => rfl
  | cons reply rest ih =>
    have hrest := ih fun other hmem => hcalm other (List.mem_cons_of_mem _ hmem)
    have hreply := hcalm reply List.mem_cons_self
    have hthis : ((reply.findings t).filterMap Finding.fault?).length =
        reply.isBroken.toNat + reply.garbled + reply.names.countP fun host => !t.accepts host := by
      cases reply with
      | lookedUp => rfl
      | opened file opening =>
        cases opening with
        | refused | panicked => rfl
        | opened events => exact t.length_fault?_findings file 1 events hreply
    rw [List.flatMap_cons, List.filterMap_append, List.length_append, hthis, hrest,
      List.countP_cons, List.map_cons, List.sum_cons, List.flatMap_cons, List.countP_append]
    cases reply.isBroken <;> simp <;> omega

/-- A host name is turned away for one of two reasons. -/
theorem countP_not_accepts (hosts : List String) :
    (hosts.countP fun host => !t.accepts host) = hosts.countP t.sentinel.marks +
      hosts.countP fun host => !t.sentinel.marks host && isTooLong t.limit host := by
  induction hosts with
  | nil => rfl
  | cons host rest ih =>
    have hhost := t.accepts_eq host
    simp only [List.countP_cons, ih, hhost]
    cases t.sentinel.marks host <;> cases isTooLong t.limit host <;> simp <;> omega

/-- Resolvers are not told of any failure. -/
theorem findings_of_resolver {replies : List Reply}
    (hasked : ∀ reply ∈ replies, reply.stage = .resolver) :
    replies.flatMap (Reply.findings t) = [] := by
  refine List.flatMap_eq_nil_iff.mpr fun reply hmem => ?_
  cases reply with
  | lookedUp => rfl
  | opened => exact absurd (hasked _ hmem) nofun

/-- The terms of a world of which nothing is known. -/
def ofLimit (told : Instructions) (limit : Option Nat) : Terms where
  sentinel := told.sentinel
  notResolved := told.notResolved
  limit := limit
  opening := fun _ => .opened []
  readable := fun _ => List.not_mem_nil
  lookup := fun host => .failed (.noAddress host)
  lookup_ne_panicked := fun _ => nofun

end Terms

namespace Desk

/-- The queues at the desk are open. -/
structure IsOpen (desk : Desk) : Prop where
  ring : desk.source.ring.closed = false
  filled : desk.source.filled.closed = false
  target : desk.IsTargetOpen

theorem isOpen_iff {desk : Desk} : desk.IsOpen ↔ desk.source.ring.closed = false ∧
    desk.source.filled.closed = false ∧ desk.IsTargetOpen :=
  ⟨fun h => ⟨h.ring, h.filled, h.target⟩, fun h => ⟨h.1, h.2.1, h.2.2⟩⟩

instance : DecidablePred IsOpen := fun _ => decidable_of_iff' _ isOpen_iff

/-- An open desk is open to whatever a worker does. -/
theorem IsOpen.isOpenTo {desk : Desk} (h : desk.IsOpen) (a : Activity) : desk.IsOpenTo a :=
  ⟨fun _ => ⟨h.ring, h.filled⟩, h.target⟩

end Desk

namespace Worker

variable {told : Instructions} {stage : Stage} {limit : Option Nat}
  {path path' : List (Beat × Worker × Desk)} {w w' : Worker} {desk desk' : Desk}

/-! ## Behind the sentinel

Once it has its sentinel a worker needs nobody: it says so, writes its summary line and hands in its
report. -/

/-- With its sentinel a worker has nothing else left to deal with. -/
structure IsClear (t : Terms) (a : Activity) : Prop where
  ahead : a.ahead t = []
  pending : a.pending = []
  inHand : a.inHand t.sentinel = []
  asker : a.asker = none
  uncounted : a.uncounted = 0
  isReporting : a.isReporting = false
  isComplaint : a.isComplaint = false

theorem isClear_of_hasSentinel {t : Terms} {a : Activity}
    (h : a.hasSentinel t.sentinel = true) : IsClear t a := by
  cases a with
  | taking call =>
    cases call with
    | entering | admitted => contradiction
    | taken item => exact ⟨rfl, rfl, if_pos h, rfl, rfl, rfl, rfl⟩
  | acknowledging | announcing | ended => exact ⟨rfl, rfl, rfl, rfl, rfl, rfl, rfl⟩
  | opening | reading | offering | resolving | logging | reporting | closingSource
  | closingTarget | panicked => contradiction

/-- A worker that moves by itself makes its next step first. -/
theorem alone_of_step {fuel moment : Nat} (hstep : w.step told moment desk = some (w', desk')) :
    alone told (fuel + 1) moment w desk = alone told fuel (moment + 1) w' desk' := by
  rw [alone, hstep]

/-- A worker that has ended stays as it is. -/
theorem alone_of_ended {report : WorkerReport} (fuel moment : Nat)
    (hactivity : w.activity = .ended report) : alone told fuel moment w desk = (w, desk) := by
  cases fuel with
  | zero => rfl
  | succ fuel => rw [alone, step_eq_none_of_isOver told moment desk (by rw [isOver, hactivity])]

/-- **A worker with its sentinel ends by itself**: within three steps it has handed in what it has
counted. -/
theorem alone_of_hasSentinel (hsentinel : w.activity.hasSentinel told.sentinel = true)
    (hended : ∀ report, w.activity = .ended report →
      ∃ elapsed, report = w.report elapsed report.exit) (moment : Nat) :
    ∃ elapsed, (alone told 3 moment w desk).1.activity =
      .ended (w.report elapsed (.ok ())) := by
  -- from the place where it announces, from the one before, and so on
  have hannouncing : ∀ (fuel later : Nat) (u : Worker) (at_ : Desk),
      u.activity = .announcing (.ok ()) →
      (alone told (fuel + 1) later u at_).1.activity =
        .ended (u.report (told.environment.elapsed later) (.ok ())) := by
    intro fuel later u at_ hactivity
    rw [alone_of_step (step_announcing told later hactivity at_), alone_of_ended fuel _ rfl]
  have hacknowledging : ∀ (fuel later : Nat) (u : Worker) (at_ : Desk),
      u.activity = .acknowledging →
      (alone told (fuel + 2) later u at_).1.activity =
        .ended (u.report (told.environment.elapsed (later + 1)) (.ok ())) := by
    intro fuel later u at_ hactivity
    have hstep : u.step told later at_ = some ({ u with activity := .announcing (.ok ()) },
        { at_ with shutdown := at_.shutdown.workerStopped }) := by
      unfold step
      rw [hactivity]
    rw [alone_of_step hstep, hannouncing fuel (later + 1) _ _ rfl]
    rfl
  unfold Activity.hasSentinel at hsentinel
  split at hsentinel
  · next item hactivity =>
    have hstep : w.step told moment desk = some ({ w with activity := .acknowledging },
        { desk with source := { desk.source with free := desk.source.free.release } }) := by
      unfold step
      rw [hactivity]
      simp only [GetCall.step, Option.map_some, begin, if_pos hsentinel]
    refine ⟨told.environment.elapsed (moment + 1 + 1), ?_⟩
    rw [alone_of_step hstep, hacknowledging 0 (moment + 1) _ _ rfl]
    rfl
  · next hactivity => exact ⟨_, hacknowledging 1 moment w desk hactivity⟩
  · next hactivity => exact ⟨_, hannouncing 2 moment w desk hactivity⟩
  · next report hactivity =>
    obtain ⟨elapsed, hreport⟩ := hended report hactivity
    have hexit : report.exit = .ok () := by
      cases hresult : report.exit with
      | ok => rfl
      | error failure =>
        rw [hresult] at hsentinel
        contradiction
    refine ⟨elapsed, ?_⟩
    rw [alone_of_ended 3 moment hactivity, hactivity, hreport, hexit]
  · contradiction

/-! ## The loop

Along its loop the worker keeps two accounts, what it has counted (`Recorded`) and what it has dealt
with (`Dealt`). At the sentinel nothing is ahead, so both together give the result. Two workers that
were answered alike then agree in all that does not count refusals. -/

/-- A worker has come here from its start. Meanwhile its queues were open, nobody has released the
sinks, and nobody whom it has asked has panicked. -/
structure LoopRun (told : Instructions) (stage : Stage) (limit : Option Nat)
    (path : List (Beat × Worker × Desk)) (w : Worker) (desk : Desk) : Prop where
  begun : ∃ name output start, start.target.map Queue.maxItemLength = limit ∧
    Path (stepAmong told) ({ name := name, stage := stage, output := output }, start) path (w, desk)
  isOpen : ∀ p ∈ path, p.2.2.IsOpen
  live : ∀ p ∈ path, p.2.2.sinks.Live
  calm : ∀ reply ∈ repliesOn told path, reply.Calm

/-- What the loop comes to with its sentinel. It can be told from what the worker was answered, but
for the lines that its log has refused. -/
structure LoopResult (told : Instructions) (stage : Stage) (limit : Option Nat)
    (path : List (Beat × Worker × Desk)) (w : Worker) (desk : Desk) : Prop where
  /-- It hands in what it has counted, without a failure, and nothing can keep it from that. -/
  finish : ∀ moment, ∃ elapsed, (alone told 3 moment w desk).1.activity =
    .ended (w.report elapsed (.ok ()))
  /-- It has taken its items, and the sentinel behind them. -/
  taken : tookOn path = (repliesOn told path).map Reply.item ++ [told.sentinel.text]
  unmarked : told.sentinel.text ∉ (repliesOn told path).map Reply.item
  /-- It has asked about each of them, as a worker of its stage does. -/
  asked : ∀ reply ∈ repliesOn told path, reply.stage = stage
  /-- It has put the host names that are neither the sentinel nor too long. -/
  puts : putsOn path =
    if limit.isSome then
      ((repliesOn told path).flatMap Reply.names).filter fun host =>
        !told.sentinel.marks host && !isTooLong limit host
    else []
  serviced : w.tally.serviced = (repliesOn told path).length
  produced : w.tally.produced = (putsOn path).length
  misses : w.tally.misses = (repliesOn told path).countP Reply.isMiss
  /-- It has counted each failure in the answers once, and each line that its log has refused. -/
  itemErrors : w.tally.itemErrors =
    (repliesOn told path).countP Reply.isBroken + ((repliesOn told path).map Reply.garbled).sum +
      ((repliesOn told path).flatMap Reply.names).countP told.sentinel.marks +
      ((repliesOn told path).flatMap Reply.names).countP (fun host =>
        !told.sentinel.marks host && isTooLong limit host) +
      refusedOn path
  /-- There is no failure in the answers to a resolver. -/
  resolver : stage = .resolver → w.tally.itemErrors = refusedOn path
  /-- It has tried once to report each of them. -/
  reports : countOn path Activity.isReporting = w.tally.itemErrors

/-- A worker that has handed in its report has told all that it has counted. -/
theorem Recorded.eq_report {report : WorkerReport} (h : Recorded told path w desk)
    (hactivity : w.activity = .ended report) :
    ∃ elapsed, report = w.report elapsed report.exit := by
  have hannounced := h.announced
  unfold Announced at hannounced
  rw [hactivity] at hannounced
  obtain ⟨moment, before, desk₀, -, -, hw⟩ := hannounced
  refine ⟨told.environment.elapsed moment, ?_⟩
  have hended := hactivity
  rw [hw] at hended
  rw [hw]
  exact (Activity.ended.inj hended).symm

/-- The reports on a path are about what the worker has dealt with, or about refused lines. -/
theorem countOn_isReporting (path : List (Beat × Worker × Desk)) :
    countOn path Activity.isReporting =
      ((dealtOn path).filterMap Finding.fault?).length + countOn path Activity.isComplaint := by
  have hone : ∀ b : Bool, (if b = true then 1 else 0) = b.toNat := fun b => by cases b <;> rfl
  unfold countOn dealtOn
  induction ownSteps path with
  | nil => rfl
  | cons s steps ih =>
    have hthis := s.2.1.activity.isReporting_toNat
    simp only [List.countP_cons, List.flatMap_cons, List.filterMap_append, List.length_append, hone]
    omega

namespace LoopRun

theorem recorded (h : LoopRun told stage limit path w desk) : Recorded told path w desk := by
  obtain ⟨name, output, start, -, hpath⟩ := h.begun
  exact recorded_of_path hpath

theorem isOpenTo (h : LoopRun told stage limit path w desk) :
    ∀ s ∈ ownSteps path, s.2.2.IsOpenTo s.2.1.activity :=
  fun _ hmem => (h.isOpen _ (mem_of_mem_ownSteps hmem)).isOpenTo _

/-- The loop begins with nothing ahead, in hand or on its way. -/
theorem dealt (h : LoopRun told stage limit path w desk) :
    ∃ w₀ : Worker, w₀.stage = stage ∧ w₀.activity = .taking .entering ∧ w₀.tally = {} ∧
      Dealt (.ofLimit told limit) told w₀ path w desk := by
  obtain ⟨name, output, start, hlimit, hpath⟩ := h.begun
  exact ⟨_, rfl, rfl, rfl, dealt_of_path hpath rfl (.start told hlimit trivial trivial nofun)
    h.isOpenTo (fun _ hmem => h.live _ (mem_of_mem_ownSteps hmem)) h.calm⟩

/-- **A worker in its loop keeps going.** It makes no more steps than its items and their lines are
worth, and before it ends it can make another one, unless there is no item for it or no slot for its
host name. -/
theorem keepsGoing (h : LoopRun told stage limit path w desk) :
    (ownSteps path).length ≤
        8 + 6 * (tookOn path).length + 12 * ((repliesOn told path).map Reply.lines).sum ∧
      ∀ moment, w.step told moment desk = none →
        (∃ report, w.activity = .ended report ∧ report.exit = .ok ()) ∨
        (w.activity = .taking .entering ∧ desk.source.filled.permits = 0) ∨
        ∃ host item file target, w.activity = .offering host (.entering item) file ∧
          desk.target = some target ∧ target.free.permits = 0 := by
  refine ⟨?_, fun moment hstep => ?_⟩
  · obtain ⟨name, output, start, -, hpath⟩ := h.begun
    have hpace := pace_of_path hpath h.isOpenTo
    have hclaimed : 6 * w.activity.isAdmitted.toNat ≤ w.activity.effort := by
      unfold Activity.isAdmitted
      split
      · next hactivity =>
        rw [hactivity]
        decide
      · exact Nat.zero_le _
    have hstart : (Activity.taking .entering).effort = 8 := rfl
    simp only [hstart] at hpace
    omega
  · rcases blocked_of_step hstep with hover | ⟨hactivity, -, hempty⟩ |
      ⟨host, item, file, target, hactivity, htarget, -, hfull⟩
    · obtain ⟨w₀, -, -, -, hdealt⟩ := h.dealt
      have hsteady := hdealt.steady
      unfold isOver at hover
      split at hover
      · next report hactivity =>
        rw [hactivity] at hsteady
        exact Or.inl ⟨report, hactivity, hsteady⟩
      · next hactivity =>
        rw [hactivity] at hsteady
        exact hsteady.elim
      · contradiction
    · exact Or.inr (Or.inl ⟨hactivity, hempty⟩)
    · exact Or.inr (Or.inr ⟨host, item, file, target, hactivity, htarget, hfull⟩)

theorem hasSentinel (h : LoopRun told stage limit path w desk)
    (hsentinel : told.sentinel.text ∈ tookOn path) :
    w.activity.hasSentinel told.sentinel = true := by
  obtain ⟨items, hitems, htook⟩ := h.recorded.taken
  cases hhas : w.activity.hasSentinel told.sentinel with
  | true => rfl
  | false =>
    rw [hhas] at htook
    rw [htook] at hsentinel
    exact absurd (by simpa using hsentinel) hitems

theorem taken (h : LoopRun told stage limit path w desk)
    (hsentinel : told.sentinel.text ∈ tookOn path) :
    tookOn path = (repliesOn told path).map Reply.item ++ [told.sentinel.text] ∧
      told.sentinel.text ∉ (repliesOn told path).map Reply.item := by
  obtain ⟨w₀, -, hw₀, -, hdealt⟩ := h.dealt
  obtain ⟨items, hitems, htook⟩ := h.recorded.taken
  have hclear := isClear_of_hasSentinel (t := .ofLimit told limit) (h.hasSentinel hsentinel)
  rw [h.hasSentinel hsentinel] at htook
  replace htook : tookOn path = items ++ [told.sentinel.text] := htook
  -- the items are those that it has asked about
  have hasked : items = (repliesOn told path).map Reply.item := by
    have hall := hdealt.items
    have hnone : w.activity.inHand told.sentinel = [] := hclear.inHand
    rw [hw₀, hnone, htook, List.filter_append, Recorded.filter_items hitems] at hall
    simpa [Activity.inHand] using hall
  exact hasked ▸ ⟨htook, hitems⟩

/-- **What the loop comes to** when it has led to the sentinel. -/
theorem result (h : LoopRun told stage limit path w desk)
    (hsentinel : told.sentinel.text ∈ tookOn path) : LoopResult told stage limit path w desk := by
  obtain ⟨w₀, hstage, hw₀, htally, hdealt⟩ := h.dealt
  have hclear := isClear_of_hasSentinel (t := .ofLimit told limit) (h.hasSentinel hsentinel)
  have hfindings := hdealt.findings
  rw [hw₀, hclear.ahead, List.append_nil] at hfindings
  replace hfindings : dealtOn path =
      (repliesOn told path).flatMap (Reply.findings (.ofLimit told limit)) := hfindings
  have hreports := h.recorded.itemErrors
  rw [hclear.isReporting] at hreports
  replace hreports : w.tally.itemErrors = countOn path Activity.isReporting := hreports
  have hhosts : (dealtOn path).filterMap Finding.host? =
      ((repliesOn told path).flatMap Reply.names).filter fun host =>
        !told.sentinel.marks host && !isTooLong limit host := by
    rw [hfindings, Terms.filterMap_host?_replies _ h.calm]
    exact congrArg (List.filter · _) (funext (Terms.accepts_eq (.ofLimit told limit)))
  -- the worker has complained about each line that was refused
  have hcomplaints := hdealt.complaints
  rw [hw₀, hclear.isComplaint] at hcomplaints
  have hrefused : countOn path Activity.isComplaint = refusedOn path := by
    simpa [Activity.isComplaint] using hcomplaints
  have hfaults := countOn_isReporting path
  rw [← hreports, hrefused, hfindings] at hfaults
  have hasked : ∀ reply ∈ repliesOn told path, reply.stage = stage :=
    fun reply hmem => (hdealt.asked reply hmem).trans hstage
  refine
    { finish := alone_of_hasSentinel (h.hasSentinel hsentinel) fun _ => h.recorded.eq_report
      taken := (h.taken hsentinel).1
      unmarked := (h.taken hsentinel).2
      asked := hasked
      puts := ?_
      serviced := ?_
      produced := ?_
      misses := ?_
      itemErrors := ?_
      resolver := ?_
      reports := hreports.symm }
  · split
    · next hsome =>
      have hputs := hdealt.puts hsome
      rw [hw₀, hclear.pending, hhosts, List.append_nil] at hputs
      exact hputs
    · next hnone => exact hdealt.noPuts (by simpa [Terms.ofLimit] using hnone)
  · have hserviced := hdealt.serviced
    rw [hw₀, htally, hclear.asker] at hserviced
    simpa [Activity.asker] using hserviced
  · have hproduced := hdealt.produced
    rw [hw₀, htally, hclear.uncounted] at hproduced
    simpa [Activity.uncounted] using hproduced.symm
  · have hmisses := hdealt.misses
    rw [htally] at hmisses
    simpa using hmisses
  · rw [hfaults, Terms.length_fault?_replies _ h.calm, Terms.countP_not_accepts]
    simp only [Terms.ofLimit]
    omega
  · rintro rfl
    rw [hfaults, Terms.findings_of_resolver _ hasked]
    exact Nat.zero_add _

/-- Two workers are answered alike: what one of them is answered to its first, second, third
question the other is answered as well, as long as they ask the same. -/
def AnsweredAlike (told : Instructions) (path path' : List (Beat × Worker × Desk)) : Prop :=
  ∀ (i : Nat) (reply reply' : Reply), (repliesOn told path)[i]? = some reply →
    (repliesOn told path')[i]? = some reply' → reply.item = reply'.item → reply = reply'

/-- In a world that gives the same answers at all times everybody is answered alike. -/
theorem answeredAlike_of_steady {opening : String → Opening} {lookup : String → Lookup}
    (hopening : ∀ moment, told.environment.opening moment = opening)
    (hlookup : ∀ moment, told.environment.lookup moment = lookup)
    (hstages : ∀ reply ∈ repliesOn told path, ∀ reply' ∈ repliesOn told path',
      reply.stage = reply'.stage) : AnsweredAlike told path path' := by
  -- what was answered is what the world answers
  have hanswer : ∀ {path : List (Beat × Worker × Desk)}, ∀ reply ∈ repliesOn told path,
      reply = .opened reply.item (opening reply.item) ∨
        reply = .lookedUp reply.item (lookup reply.item) := by
    intro path reply hmem
    obtain ⟨s, -, hreply⟩ := List.mem_flatMap.mp hmem
    have hasked := Option.mem_toList.mp hreply
    unfold reply? at hasked
    split at hasked
    · obtain rfl := Option.some.inj hasked
      rw [hopening]
      exact Or.inl rfl
    · obtain rfl := Option.some.inj hasked
      rw [hlookup]
      exact Or.inr rfl
    · contradiction
  intro i reply reply' hplace hplace' hitem
  have hmem := List.mem_of_getElem? hplace
  have hmem' := List.mem_of_getElem? hplace'
  have hstage := hstages reply hmem reply' hmem'
  rcases hanswer reply hmem with heq | heq <;> rcases hanswer reply' hmem' with heq' | heq'
  · rw [heq, heq', hitem]
  · rw [heq, heq'] at hstage
    contradiction
  · rw [heq, heq'] at hstage
    contradiction
  · rw [heq, heq', hitem]

/-- Two workers have done the same, but for the failures that they have counted. -/
structure Agree (told : Instructions) (path path' : List (Beat × Worker × Desk))
    (w w' : Worker) : Prop where
  replies : repliesOn told path' = repliesOn told path
  puts : putsOn path' = putsOn path
  serviced : w'.tally.serviced = w.tally.serviced
  produced : w'.tally.produced = w.tally.produced
  misses : w'.tally.misses = w.tally.misses
  /-- The counts of failures differ by the numbers of refused lines. -/
  itemErrors : w'.tally.itemErrors + refusedOn path = w.tally.itemErrors + refusedOn path'

/-- **What a worker does is not affected by its output.** Whatever the sinks make of the lines of
the one worker and of the other, if they have taken the same up to the sentinel and were answered
alike then they have asked and put the same, have counted the same apart from their failures, and
end without one. The failures that they have counted are those in the answers, each counted once,
and the lines that the log has refused. -/
theorem agrees (h : LoopRun told stage limit path w desk)
    (h' : LoopRun told stage limit path' w' desk')
    (hsentinel : told.sentinel.text ∈ tookOn path) (htook : tookOn path' = tookOn path)
    (halike : AnsweredAlike told path path') :
    LoopResult told stage limit path w desk ∧ LoopResult told stage limit path' w' desk' ∧
      Agree told path path' w w' := by
  have hresult := h.result hsentinel
  have hresult' := h'.result (htook ▸ hsentinel)
  -- they have asked about the same items, so they were answered the same
  have hitems : (repliesOn told path').map Reply.item = (repliesOn told path).map Reply.item := by
    rw [hresult.taken, hresult'.taken] at htook
    exact List.append_cancel_right htook
  have hreplies : repliesOn told path' = repliesOn told path := by
    have hlength : (repliesOn told path').length = (repliesOn told path).length := by
      simpa using congrArg List.length hitems
    refine List.ext_getElem hlength fun i hi hi' => ?_
    have hitem : ((repliesOn told path')[i]).item = ((repliesOn told path)[i]).item := by
      have hplace := congrArg (fun items : List String => items[i]?) hitems
      simpa [hi, hi'] using hplace
    exact (halike i _ _ (List.getElem?_eq_getElem hi') (List.getElem?_eq_getElem hi)
      hitem.symm).symm
  have hputs : putsOn path' = putsOn path := by rw [hresult'.puts, hresult.puts, hreplies]
  refine ⟨hresult, hresult', hreplies, hputs, ?_, ?_, ?_, ?_⟩
  · rw [hresult.serviced, hresult'.serviced, hreplies]
  · rw [hresult.produced, hresult'.produced, hputs]
  · rw [hresult.misses, hresult'.misses, hreplies]
  · rw [hresult.itemErrors, hresult'.itemErrors, hreplies]
    omega

/-- The loop can be followed step by step. -/
theorem of_walk {name : String} {output : Sink} {start : Desk} {beats : List Beat}
    (hwalk : Path.walk (stepAmong told) beats
      ({ name := name, stage := stage, output := output }, start) = some (path, w, desk))
    (hlimit : start.target.map Queue.maxItemLength = limit)
    (hfair : ∀ p ∈ path, p.2.2.IsOpen ∧ p.2.2.sinks.Live)
    (hcalm : ∀ reply ∈ repliesOn told path, reply.Calm) : LoopRun told stage limit path w desk where
  begun := ⟨name, output, start, hlimit, Path.of_walk hwalk⟩
  isOpen p hmem := (hfair p hmem).1
  live p hmem := (hfair p hmem).2
  calm := hcalm

/-- Two requesters service a file with one line of each kind and one that is not there. The
devices of the one are full, so that two host names do not get into its log; those of the other
have room. -/
theorem agrees_full_disk :
    let told : Instructions :=
      { sentinel := .standard
        notResolved := "-"
        environment := .steady
          (fun file =>
            if file = "a" then
              .opened [.line " x ", .failed .notUtf8, .line Sentinel.standard.text,
                .line "too long", .line "", .line "y"]
            else .refused (.system 2))
          (fun _ => .panicked) {} }
    ∃ path w desk path' w' desk', LoopRun told .requester (some 7) path w desk ∧
      LoopRun told .requester (some 7) path' w' desk' ∧
      (refusedOn path = 2 ∧ w.tally.itemErrors = 6) ∧
      (refusedOn path' = 0 ∧ w'.tally.itemErrors = 4) ∧ putsOn path = ["x", "y"] ∧
      LoopResult told .requester (some 7) path w desk ∧
      LoopResult told .requester (some 7) path' w' desk' ∧ Agree told path path' w w' := by
  intro told
  let start : Sinks → Desk := fun sinks =>
    { source :=
        { Queue.ofGeometry "files" 4 8 with
          ring := { slots := ["a", "b", Sentinel.standard.text, ""], tail := 3, count := 3 }
          free := { permits := 1 }
          filled := { permits := 3 } }
      target := some (Queue.ofGeometry "hosts" 4 8)
      shutdown := Shutdown.start "requester" 1
      sinks := sinks }
  let walk : Nat → Device → Option (List (Beat × Worker × Desk) × Worker × Desk) := fun n device =>
    Path.walk (stepAmong told) ((List.range n).map Beat.own)
      ({ name := "requester-0", stage := .requester, output := .requesterLog },
        start (.ofDevices fun _ => device))
  let passes : Nat → Nat → List (Beat × Worker × Desk) × Worker × Desk → Bool :=
    fun refused itemErrors r =>
      decide ((∀ p ∈ r.1, p.2.2.IsOpen ∧ p.2.2.sinks.Live) ∧
        (∀ reply ∈ repliesOn told r.1, reply.Calm ∧ reply.stage = .requester) ∧
        refusedOn r.1 = refused ∧ r.2.1.tally.itemErrors = itemErrors ∧
        putsOn r.1 = ["x", "y"] ∧ tookOn r.1 = ["a", "b", Sentinel.standard.text])
  have hfull : (walk 35 { refuses := fun _ _ => some (.system 28) }).any (passes 2 6) = true := by
    decide +kernel
  have hroom : (walk 33 .memory).any (passes 0 4) = true := by decide +kernel
  obtain ⟨⟨path, w, desk⟩, hwalk, hpasses⟩ := (Option.any_eq_true _ _).mp hfull
  obtain ⟨⟨path', w', desk'⟩, hwalk', hpasses'⟩ := (Option.any_eq_true _ _).mp hroom
  obtain ⟨hfair, hcalm, hrefused, herrors, hputs, htook⟩ := of_decide_eq_true hpasses
  obtain ⟨hfair', hcalm', hrefused', herrors', -, htook'⟩ := of_decide_eq_true hpasses'
  have hrun : LoopRun told .requester (some 7) path w desk :=
    of_walk hwalk rfl hfair fun reply hmem => (hcalm reply hmem).1
  have hrun' : LoopRun told .requester (some 7) path' w' desk' :=
    of_walk hwalk' rfl hfair' fun reply hmem => (hcalm' reply hmem).1
  have hsentinel : told.sentinel.text ∈ tookOn path := by
    rw [htook]
    exact List.mem_cons_of_mem _ (List.mem_cons_of_mem _ List.mem_cons_self)
  have halike : AnsweredAlike told path path' :=
    answeredAlike_of_steady (fun _ => rfl) (fun _ => rfl) fun reply hmem reply' hmem' =>
      (hcalm reply hmem).2.trans (hcalm' reply' hmem').2.symm
  exact ⟨path, w, desk, path', w', desk', hrun, hrun', ⟨hrefused, herrors⟩,
    ⟨hrefused', herrors'⟩, hputs,
    agrees hrun hrun' hsentinel (htook'.trans htook.symm) halike⟩

end LoopRun

end Worker

end HostLookup
