import HostLookup.Proofs.Worker.Deeds

/-!
# What a worker makes of its answers

Whatever fails, a worker deals with one item after the other: it takes the item, asks the world
about it once, and what it hands on or logs afterwards comes out of the answer. Much can get lost on
the way, when a file breaks off, a queue is closed or a sink refuses a line, but nothing is added
and nothing is done twice. What the worker counts follows the same trail.

* **`Reply`**: what the world has answered, and what may come out of it.
* **`Worker.Moves.counts`**: what a step takes and counts.
* **`Worker.Moves.hosts`**: the host names that a step puts were still to come, or they are in the
  answer.
* **`Worker.Moves.logs`**: so is the line that a resolver logs.
-/

namespace HostLookup

/-! ## Answers of the world

A worker asks about each item once: a requester opens a file, a resolver looks a host name up. What
it can do afterwards is bounded by the answer. -/

/-- The host name in a line, if it can be handed on: it is not the sentinel, and it has no more
bytes than a slot can hold. -/
def LineEvent.host? (sentinel : Sentinel) (max : Nat) : LineEvent → Option String
  | .line text =>
    (DataFile.hostOfLine text).filter fun host =>
      !sentinel.marks host && decide (host.utf8ByteSize ≤ max)
  | .failed _ | .panicked => none

/-- The host names in a data file that was opened. -/
def Opening.hosts (sentinel : Sentinel) (max : Nat) : Opening → List String
  | .opened events => events.filterMap (LineEvent.host? sentinel max)
  | .refused _ | .panicked => []

/-- What the world has answered to a worker. -/
inductive Reply where
  | opened (file : String) (opening : Opening)
  | lookedUp (host : String) (answer : Lookup)
  deriving DecidableEq, Repr

namespace Reply

/-- The item that the worker has asked about. -/
def item : Reply → String
  | .opened file _ => file
  | .lookedUp host _ => host

/-- The workers that ask so. -/
def stage : Reply → Stage
  | .opened .. => .requester
  | .lookedUp .. => .resolver

/-- The host names that can be handed on. -/
def hosts (sentinel : Sentinel) (max : Nat) : Reply → List String
  | .opened _ opening => opening.hosts sentinel max
  | .lookedUp .. => []

/-- The line to log. -/
def line? (notResolved : String) : Reply → Option String
  | .lookedUp host (.found address) => some (Worker.answerLine host address)
  | .lookedUp host (.failed _) => some (Worker.answerLine host notResolved)
  | .lookedUp _ .panicked | .opened .. => none

/-- Was no address found? -/
def isMiss : Reply → Bool
  | .lookedUp _ (.failed _) => true
  | _ => false

/-- A host name that can be handed on is not the sentinel, whatever the file says. -/
theorem ne_of_mem_hosts {sentinel : Sentinel} {max : Nat} {reply : Reply} {host : String}
    (hmem : host ∈ reply.hosts sentinel max) : host ≠ sentinel.text := by
  cases reply with
  | lookedUp => contradiction
  | opened file opening =>
    cases opening with
    | refused | panicked => contradiction
    | opened events =>
      -- a name that was handed on has passed the test for the sentinel
      obtain ⟨event, -, hhost⟩ := List.mem_filterMap.mp hmem
      cases event with
      | failed | panicked => contradiction
      | line text =>
        obtain ⟨-, hfits⟩ := Option.filter_eq_some_iff.mp hhost
        rintro rfl
        rw [Sentinel.marks_text] at hfits
        contradiction

end Reply

/-- What the next step of a worker is answered. -/
def Worker.reply? (told : Instructions) (moment : Nat) (w : Worker) : Option Reply :=
  match w.activity with
  | .opening file => some (.opened file (told.environment.opening moment file))
  | .resolving host => some (.lookedUp host (told.environment.lookup moment host))
  | _ => none

/-! ## What may still come of an item

A worker has at most one item to deal with at a time. Where it is with the item says whether the
world is still to be asked (`Activity.inHand`), which host names are still to be put
(`Activity.upcoming`), and which line is still to be logged (`Activity.unwritten`). -/

/-- The host names that may still be found in a data file. -/
def Reading.hosts (sentinel : Sentinel) (max : Nat) (file : Reading) : List String :=
  file.rest.filterMap (LineEvent.host? sentinel max)

/-- The item that a `put` may still copy in. -/
def PutCall.upcoming (max : Nat) : PutCall → List String
  | .entering item => if item.utf8ByteSize ≤ max then [item] else []
  | .admitted item => [item]
  | .stored => []

namespace Activity

/-- The item that a worker has taken and not asked about yet. -/
def inHand (sentinel : Sentinel) : Activity → List String
  | .taking (.taken item) => if sentinel.marks item then [] else [item]
  | .opening file => [file]
  | .resolving host => [host]
  | _ => []

/-- The stage whose workers ask what the worker is about to ask. -/
def asker : Activity → Option Stage
  | .opening _ => some .requester
  | .resolving _ => some .resolver
  | _ => none

/-- One for a host name that was put and not counted yet. -/
def uncounted : Activity → Nat
  | .offering _ .stored _ => 1
  | _ => 0

/-- The host names that a worker may still put for the item that it deals with. -/
def upcoming (sentinel : Sentinel) (max : Nat) : Activity → List String
  | .reading file => file.hosts sentinel max
  | .offering _ call file => call.upcoming max ++ file.hosts sentinel max
  | .logging _ file | .reporting _ file => file.toList.flatMap (Reading.hosts sentinel max)
  | _ => []

/-- The line that a worker is about to log. -/
def unwritten : Activity → List String
  | .logging line _ => [line]
  | _ => []

/-- Does the worker have nothing to do with data files? -/
def isFileless : Activity → Bool
  | .opening _ | .reading _ | .offering .. => false
  | .logging _ file | .reporting _ file => file.isNone
  | _ => true

/-- At this place a worker has nothing to do with data files, and no line is on its way to a log. -/
def IsSilent (a : Activity) : Prop :=
  a.isFileless = true ∧ a.unwritten = []

/-- A worker at a plain place has an item in hand only if it is about to ask about it. -/
theorem inHand_of_isPlain {a : Activity} (sentinel : Sentinel) (hplain : a.isPlain = true)
    (hasker : a.asker = none) : a.inHand sentinel = [] := by
  cases a with
  | taking call => cases call <;> first | rfl | cases hplain
  | opening | resolving => cases hasker
  | _ => rfl

theorem uncounted_of_isPlain {a : Activity} (hplain : a.isPlain = true) : a.uncounted = 0 := by
  cases a with
  | offering host call file => cases call <;> first | rfl | cases hplain
  | _ => rfl

end Activity

namespace Worker

variable {told : Instructions} {moment : Nat} {w w' : Worker} {desk desk' : Desk} {max : Nat}

/-- Who is answered is who was about to ask. -/
theorem map_stage_reply? (told : Instructions) (moment : Nat) (w : Worker) :
    (w.reply? told moment).map Reply.stage = w.activity.asker := by
  unfold reply?
  cases w.activity <;> rfl

/-! ## Counting

Nearly every step is of one of two kinds: the worker *coasts* from a plain place, one with no call
of a queue under way, to another one (`Coasts`), or it goes on with a call and counts nothing
(`Counts.idle`). What is left are the steps that count something: an item is begun with, a lookup is
answered, a host name is copied in, and the `put` of it returns. -/

/-- A worker that goes on from a plain place, is not about to ask, and has counted nothing but a
failure. -/
structure Coasts (w w' : Worker) : Prop extends GoesOn w w' where
  asker : w'.activity.asker = none
  serviced : w'.tally.serviced = w.tally.serviced
  produced : w'.tally.produced = w.tally.produced
  misses : w'.tally.misses = w.tally.misses

theorem coasts_leave (w : Worker) (ending : Ending) : Coasts w (w.leave ending) :=
  ⟨goesOn_leave w ending, rfl, rfl, rfl, rfl⟩

/-- Recovering counts a failure, and that is all it counts. -/
theorem coasts_raise (w : Worker) (failure : Failure) (file : Option Reading) :
    Coasts w (w.raise failure file) := by
  unfold raise
  split
  · exact ⟨⟨rfl, rfl, rfl, rfl⟩, rfl, rfl, rfl, rfl⟩
  · exact coasts_leave w _

theorem coasts_takeUp (w : Worker) (file : String) (opening : Opening) :
    Coasts w (w.takeUp file opening) := by
  cases opening with
  | refused failure => exact coasts_raise w _ _
  | opened events => exact ⟨⟨rfl, rfl, rfl, rfl⟩, rfl, rfl, rfl, rfl⟩
  | panicked => exact coasts_leave w _

theorem coasts_handOn (w : Worker) (sentinel : Sentinel) (hasTarget : Bool) (host : String)
    (file : Reading) : Coasts w (w.handOn sentinel hasTarget host file) := by
  unfold handOn
  split
  · exact coasts_raise w _ _
  · split <;> exact ⟨⟨rfl, rfl, rfl, rfl⟩, rfl, rfl, rfl, rfl⟩

theorem coasts_read (w : Worker) (sentinel : Sentinel) (hasTarget : Bool) (file : Reading) :
    Coasts w (w.read sentinel hasTarget file) := by
  unfold read
  split
  · exact ⟨⟨rfl, rfl, rfl, rfl⟩, rfl, rfl, rfl, rfl⟩
  · split
    · split
      · exact ⟨⟨rfl, rfl, rfl, rfl⟩, rfl, rfl, rfl, rfl⟩
      · exact coasts_handOn w _ _ _ _
    · split <;> exact coasts_raise w _ _
    · exact coasts_leave w _

theorem asker_resume (file : Option Reading) : (resume file).asker = none := by
  cases file <;> rfl

theorem coasts_resume (w : Worker) (file : Option Reading) :
    Coasts w { w with activity := resume file } :=
  ⟨⟨rfl, rfl, rfl, isPlain_resume file⟩, asker_resume file, rfl, rfl, rfl⟩

theorem coasts_logged (w : Worker) (file : Option Reading) (result : Except SinkError Unit) :
    Coasts w (w.logged file result) := by
  cases result with
  | ok => exact coasts_resume w file
  | error => exact coasts_raise w _ _

/-- What a step takes and counts, by the answer that it is given. -/
structure Counts (told : Instructions) (moment : Nat) (w w' : Worker) (taken : List String)
    (put : Nat) : Prop where
  name : w'.name = w.name
  stage : w'.stage = w.stage
  output : w'.output = w.output
  taken : w.activity.inHand told.sentinel ++ taken.filter (· ≠ told.sentinel.text) =
    (w.reply? told moment).toList.map Reply.item ++ w'.activity.inHand told.sentinel
  asker : ∀ own, w'.activity.asker = some own → own = w.stage
  serviced : w'.tally.serviced = w.tally.serviced + w'.activity.asker.toList.length
  misses : w'.tally.misses =
    w.tally.misses + (w.reply? told moment).toList.countP Reply.isMiss
  produced : w.tally.produced + w.activity.uncounted + put =
    w'.tally.produced + w'.activity.uncounted

/-- At a plain place a worker has in hand what it is about to ask about. -/
theorem inHand_eq_of_isPlain (told : Instructions) (moment : Nat)
    (hplain : w.activity.isPlain = true) :
    w.activity.inHand told.sentinel = (w.reply? told moment).toList.map Reply.item := by
  unfold reply?
  cases hactivity : w.activity with
  | taking call =>
    rw [hactivity] at hplain
    cases call <;> first | rfl | cases hplain
  | _ => rfl

/-- A worker that coasts has had its answer, if it was about to ask. -/
theorem Coasts.counts (h : Coasts w w')
    (hinHand : w.activity.inHand told.sentinel = (w.reply? told moment).toList.map Reply.item)
    (huncounted : w.activity.uncounted = 0)
    (hmiss : (w.reply? told moment).toList.countP Reply.isMiss = 0) :
    Counts told moment w w' [] 0 where
  name := h.name
  stage := h.stage
  output := h.output
  taken := by rw [Activity.inHand_of_isPlain _ h.isPlain h.asker, hinHand]; rfl
  asker own hown := by
    rw [h.asker] at hown
    contradiction
  serviced := by rw [h.asker, h.serviced]; rfl
  misses := by rw [hmiss, h.misses]; rfl
  produced := by rw [huncounted, Activity.uncounted_of_isPlain h.isPlain, h.produced]

theorem Coasts.counts_of_isPlain (h : Coasts w w') (hplain : w.activity.isPlain = true)
    (hmiss : (w.reply? told moment).toList.countP Reply.isMiss = 0) :
    Counts told moment w w' [] 0 :=
  h.counts (inHand_eq_of_isPlain told moment hplain) (Activity.uncounted_of_isPlain hplain) hmiss

/-- A step at which nothing is taken, put or asked leaves all counts as they are. -/
theorem Counts.idle (hname : w'.name = w.name) (hstage : w'.stage = w.stage)
    (houtput : w'.output = w.output) (htally : w'.tally = w.tally)
    (hreply : w.reply? told moment = none)
    (hinHand : w'.activity.inHand told.sentinel = w.activity.inHand told.sentinel)
    (hasker : w'.activity.asker = none)
    (huncounted : w'.activity.uncounted = w.activity.uncounted) :
    Counts told moment w w' [] 0 where
  name := hname
  stage := hstage
  output := houtput
  taken := by rw [hreply, hinHand]; exact List.append_nil _
  asker own hown := by
    rw [hasker] at hown
    contradiction
  serviced := by rw [hasker, htally]; rfl
  misses := by rw [hreply, htally]; rfl
  produced := by rw [huncounted, htally]; rfl

/-- To begin with an item is to have it serviced; the sentinel is no item, and counts as none. -/
theorem counts_begin {item : String} (hactivity : w.activity = .taking (.taken item)) :
    Counts told moment w (w.begin told.sentinel item) [] 0 := by
  have hreply : w.reply? told moment = none := by rw [reply?, hactivity]
  unfold begin
  cases hmarks : told.sentinel.marks item with
  | true =>
    refine .idle rfl rfl rfl rfl hreply ?_ rfl ?_
    · rw [hactivity]
      simp [Activity.inHand, hmarks]
    · rw [hactivity]
      rfl
  | false =>
    -- an item is begun with: the worker is about to ask about it
    simp only [Bool.false_eq_true, ↓reduceIte]
    refine ⟨rfl, rfl, rfl, ?_, ?_, ?_, ?_, ?_⟩
    · rw [hreply, hactivity]
      cases w.stage <;> simp [Activity.inHand, hmarks]
    · cases w.stage <;> exact fun own hown => (Option.some.inj hown).symm
    · cases w.stage <;> rfl
    · rw [hreply]
      rfl
    · rw [hactivity]
      cases w.stage <;> rfl

/-- What is taken out of the queue is in hand from then on, unless it is the sentinel. -/
theorem counts_take {call call' : GetCall} {source : Queue} (hactivity : w.activity = .taking call)
    (hmove : GetCall.Moves desk.source call (.goesOn call') source) :
    Counts told moment w { w with activity := .taking call' }
      (desk.source.taken (some (.get call))) 0 := by
  have hreply : w.reply? told moment = none := by rw [reply?, hactivity]
  rw [hmove.taken]
  cases hmove with
  | enter =>
    refine .idle rfl rfl rfl rfl hreply ?_ rfl ?_ <;> rw [hactivity] <;> rfl
  -- an item that is taken is in hand from now on; a sentinel is not
  | @take item ring hring =>
    refine ⟨rfl, rfl, rfl, ?_, nofun, rfl, ?_, ?_⟩
    · rw [hreply, hactivity]
      by_cases hitem : item = told.sentinel.text
      · simp [Activity.inHand, GetCall.takenOut, Sentinel.marks, hitem]
      · simp [Activity.inHand, GetCall.takenOut, Sentinel.marks, hitem, Ne.symm hitem]
    · rw [hreply]
      rfl
    · rw [hactivity]
      rfl

/-- A lookup is answered: a miss counts if no address was found, and the item is out of hand. -/
theorem counts_lookedUp {host : String} (hactivity : w.activity = .resolving host) :
    Counts told moment w
      (w.lookedUp told.notResolved host (told.environment.lookup moment host)) [] 0 := by
  have hreply : w.reply? told moment =
      some (.lookedUp host (told.environment.lookup moment host)) := by rw [reply?, hactivity]
  cases hanswer : told.environment.lookup moment host with
  | found address | failed error =>
    rw [hanswer] at hreply
    refine ⟨rfl, rfl, rfl, ?_, nofun, rfl, by rw [hreply]; rfl, ?_⟩
    · rw [hreply, hactivity]
      rfl
    · rw [hactivity]
      rfl
  -- a panic is no answer, so nothing is counted
  | panicked =>
    refine (coasts_leave w _).counts_of_isPlain (by rw [hactivity]; rfl) ?_
    rw [hreply, hanswer]
    rfl

/-- A `get` that the queue refuses has taken nothing. -/
theorem counts_starve {call : GetCall} {error : QueueError} {source : Queue}
    (hactivity : w.activity = .taking call)
    (hmove : GetCall.Moves desk.source call (.returns (.error error)) source) :
    Counts told moment w (w.leave (.failing (.queue error)))
      (desk.source.taken (some (.get call))) 0 := by
  have hreply : w.reply? told moment = none := by rw [reply?, hactivity]
  rw [hmove.taken]
  cases hmove with
  | refused | bounce =>
    refine (coasts_leave w _).counts ?_ ?_ (by rw [hreply]; rfl)
    · rw [hreply, hactivity]
      rfl
    · rw [hactivity]
      rfl

/-- A host name that was put counts when its `put` returns. -/
theorem counts_offer {host : String} {call call' : PutCall} {file : Reading}
    {target target' : Queue} (hactivity : w.activity = .offering host call file)
    (hmove : PutCall.Moves target call (.goesOn call') target') :
    Counts told moment w { w with activity := .offering host call' file } []
      (target.stored (some (.put call))).length := by
  have hreply : w.reply? told moment = none := by rw [reply?, hactivity]
  rw [hmove.stored]
  cases hmove with
  | enter | store =>
    refine ⟨rfl, rfl, rfl, ?_, nofun, rfl, by rw [hreply]; rfl, ?_⟩
    · rw [hreply, hactivity]
      rfl
    · rw [hactivity]
      rfl

/-- The `put` of a host name returns: it counts if the name was stored, and a refused one was never
put. -/
theorem counts_offered {host : String} {call : PutCall} {file : Reading}
    {result : Except QueueError Unit} {target target' : Queue}
    (hactivity : w.activity = .offering host call file)
    (hmove : PutCall.Moves target call (.returns result) target') :
    Counts told moment w (w.offered host file result) []
      (target.stored (some (.put call))).length := by
  have hreply : w.reply? told moment = none := by rw [reply?, hactivity]
  have hinHand : w.activity.inHand told.sentinel =
      (w.reply? told moment).toList.map Reply.item := by
    rw [hreply, hactivity]
    rfl
  rw [hmove.stored]
  cases hmove with
  | tooLarge | refused | bounce =>
    exact (coasts_raise w _ _).counts hinHand (by rw [hactivity]; rfl) (by rw [hreply]; rfl)
  | finish =>
    refine ⟨rfl, rfl, rfl, ?_, nofun, rfl, by rw [hreply]; rfl, ?_⟩
    · rw [hinHand]
      rfl
    · rw [hactivity]
      rfl

/-- **What a step counts.** Host names are offered only where there is somebody to take them. -/
theorem Moves.counts (h : Moves told moment w desk w' desk')
    (htarget : desk.target = none → ∀ host call file, w.activity ≠ .offering host call file) :
    Counts told moment w w' (desk.source.taken w.activity.sourceCall) (w.puts desk).length := by
  -- most steps neither take nor put anything
  have hquiet : ∀ {w' : Worker}, desk.source.taken w.activity.sourceCall = [] →
      w.puts desk = [] → Counts told moment w w' [] 0 →
      Counts told moment w w' (desk.source.taken w.activity.sourceCall)
        (w.puts desk).length := by
    intro w' htaken hputs hcounts
    rwa [htaken, hputs]
  have hplain : ∀ {w' : Worker}, w.activity.isPlain = true → Counts told moment w w' [] 0 →
      Counts told moment w w' (desk.source.taken w.activity.sourceCall)
        (w.puts desk).length := by
    intro w' hplain hcounts
    obtain ⟨hsource, htarget⟩ := Activity.phase?_of_isPlain hplain
    exact hquiet (Queue.taken_of_phase hsource) (puts_of_phase w desk htarget) hcounts
  have hcoasts : ∀ {w' : Worker}, w.activity.isPlain = true → Coasts w w' →
      (w.reply? told moment).toList.countP Reply.isMiss = 0 →
      Counts told moment w w' (desk.source.taken w.activity.sourceCall)
        (w.puts desk).length :=
    fun hisPlain hcoasts hmiss => hplain hisPlain (hcoasts.counts_of_isPlain hisPlain hmiss)
  have hputs : w.activity.targetCall = none → w.puts desk = [] := fun hnone =>
    puts_of_phase w desk (by rw [hnone]; rfl)
  cases h with
  | @take call call' source hactivity hstep =>
    have hsource : w.activity.sourceCall = some (.get call) := by rw [hactivity]; rfl
    rw [hputs (by rw [hactivity]; rfl), hsource]
    exact counts_take hactivity (GetCall.moves_of_step hstep)
  | @receive call item source hactivity hstep =>
    have hsource : w.activity.sourceCall = some (.get call) := by rw [hactivity]; rfl
    have hmove := GetCall.moves_of_step hstep
    rw [hputs (by rw [hactivity]; rfl), hsource, hmove.taken]
    cases hmove
    exact counts_begin hactivity
  | @starve call error source hactivity hstep =>
    have hsource : w.activity.sourceCall = some (.get call) := by rw [hactivity]; rfl
    rw [hputs (by rw [hactivity]; rfl), hsource]
    exact counts_starve hactivity (GetCall.moves_of_step hstep)
  | openFile hactivity =>
    exact hcoasts (by rw [hactivity]; rfl) (coasts_takeUp w _ _) (by rw [reply?, hactivity]; rfl)
  | read hactivity =>
    exact hcoasts (by rw [hactivity]; rfl) (coasts_read w _ _ _) (by rw [reply?, hactivity]; rfl)
  | keep hactivity hnone => exact absurd hactivity (htarget hnone _ _ _)
  | @offer host call call' file target target' hactivity hsome hstep =>
    have htaken : desk.source.taken w.activity.sourceCall = [] := by rw [hactivity]; rfl
    rw [htaken, puts_of_target w hsome, hactivity]
    exact counts_offer hactivity (PutCall.moves_of_step hstep)
  | @offered host call file result target target' hactivity hsome hstep =>
    have htaken : desk.source.taken w.activity.sourceCall = [] := by rw [hactivity]; rfl
    rw [htaken, puts_of_target w hsome, hactivity]
    exact counts_offered hactivity (PutCall.moves_of_step hstep)
  | lookUp hactivity => exact hplain (by rw [hactivity]; rfl) (counts_lookedUp hactivity)
  | log hactivity =>
    exact hcoasts (by rw [hactivity]; rfl) (coasts_logged w _ _) (by rw [reply?, hactivity]; rfl)
  | report hactivity =>
    exact hcoasts (by rw [hactivity]; rfl) (coasts_resume w _) (by rw [reply?, hactivity]; rfl)
  | acknowledge hactivity | closeSource hactivity | closedSource hactivity
  | announce hactivity =>
    refine hquiet (by rw [hactivity]; rfl) (hputs (by rw [hactivity]; rfl))
      (.idle rfl rfl rfl rfl (by rw [reply?, hactivity]) ?_ rfl ?_) <;> rw [hactivity] <;> rfl
  -- leaving: the queues are closed and the end is announced, and nothing more is counted
  | closeTarget hactivity hsome =>
    refine hquiet (by rw [hactivity]; rfl) ?_
      (.idle rfl rfl rfl rfl (by rw [reply?, hactivity]) ?_ rfl ?_)
    · rw [puts_of_target w hsome, hactivity]
      rfl
    · rw [hactivity]
      rfl
    · rw [hactivity]
      rfl
  | @conclude call ending hactivity hnone =>
    have hnothing : w.puts desk = [] := by rw [puts, hnone]
    refine hquiet (by rw [hactivity]; rfl) hnothing ?_
    cases ending <;>
      refine .idle rfl rfl rfl rfl (by rw [reply?, hactivity]) ?_ rfl ?_ <;> rw [hactivity] <;> rfl
  | @closedTarget call first ending target target' hactivity hsome =>
    have hnothing : w.puts desk = [] := by
      rw [puts_of_target w hsome, hactivity]
      rfl
    refine hquiet (by rw [hactivity]; rfl) hnothing ?_
    cases ending <;>
      refine .idle rfl rfl rfl rfl (by rw [reply?, hactivity]) ?_ rfl ?_ <;> rw [hactivity] <;> rfl

/-! ## Handing on

What comes out of a step is a sublist, as a worker may lose host names on the way: by a failure
while it reads, by a file that breaks off, by a queue that refuses the name. It never makes any
up. -/

section Upcoming

variable (sentinel : Sentinel) (max : Nat) (w : Worker)

theorem upcoming_resume (file : Option Reading) :
    (resume file).upcoming sentinel max = file.toList.flatMap (Reading.hosts sentinel max) := by
  cases file with
  | none => rfl
  | some file => exact (List.flatMap_singleton ..).symm

/-- A failure from which a worker recovers costs no host name; any other costs all of them. -/
theorem upcoming_raise (failure : Failure) (file : Option Reading) :
    ((w.raise failure file).activity.upcoming sentinel max).Sublist
      (file.toList.flatMap (Reading.hosts sentinel max)) := by
  unfold raise
  split
  · exact .refl _
  · exact List.nil_sublist _

theorem upcoming_begin (item : String) :
    (w.begin sentinel item).activity.upcoming sentinel max = [] := by
  unfold begin
  split
  · rfl
  · dsimp only
    cases w.stage <;> rfl

theorem upcoming_takeUp (file : String) (opening : Opening) :
    ((w.takeUp file opening).activity.upcoming sentinel max).Sublist
      (opening.hosts sentinel max) := by
  cases opening with
  | refused failure => exact upcoming_raise sentinel max w _ none
  | opened events => exact .refl _
  | panicked => exact List.nil_sublist _

/-- A host name found in a line is offered, or it is the sentinel and raises a failure, or there is
nobody to offer it to. -/
theorem upcoming_handOn (hasTarget : Bool) (host : String) (file : Reading) :
    ((w.handOn sentinel hasTarget host file).activity.upcoming sentinel max).Sublist
      ((if !sentinel.marks host && decide (host.utf8ByteSize ≤ max) then [host] else []) ++
        file.hosts sentinel max) := by
  have hrest : ∀ front : List String,
      (file.hosts sentinel max).Sublist (front ++ file.hosts sentinel max) :=
    fun front => List.sublist_append_right front _
  unfold handOn
  split
  · refine (upcoming_raise sentinel max w _ (some file)).trans ?_
    rw [Option.toList_some, List.flatMap_singleton]
    exact hrest _
  · next hmarks =>
    split
    · simp [Activity.upcoming, PutCall.upcoming, hmarks]
    · simp only [Activity.upcoming, Option.toList_some, List.flatMap_singleton]
      exact hrest _

/-- Reading a line brings the host name in it, if it holds one that can be handed on. -/
theorem upcoming_read (hasTarget : Bool) (file : Reading) :
    ((w.read sentinel hasTarget file).activity.upcoming sentinel max).Sublist
      (file.hosts sentinel max) := by
  unfold read Reading.hosts
  split
  · exact List.nil_sublist _
  · next event rest hrest =>
    rw [hrest]
    split
    · next text =>
      rw [List.filterMap_cons, LineEvent.host?]
      split
      · next hblank =>
        rw [hblank]
        exact .refl _
      · next host hhost =>
        rw [hhost]
        refine (upcoming_handOn sentinel max w hasTarget host _).trans ?_
        rw [Option.filter_some]
        split
        · simp [Reading.hosts]
        · simp [Reading.hosts]
    · -- a file that breaks off loses what would have come after
      next failure =>
      split
      · refine (upcoming_raise sentinel max w _ _).trans ?_
        rw [Option.toList_some, List.flatMap_singleton]
        exact .refl _
      · exact (upcoming_raise sentinel max w _ none).trans (List.nil_sublist _)
    · exact List.nil_sublist _

/-- After the `put` of a host name the rest of the file is still to come, whatever the queue
said. -/
theorem upcoming_offered (host : String) (file : Reading) (result : Except QueueError Unit) :
    ((w.offered host file result).activity.upcoming sentinel max).Sublist
      (file.hosts sentinel max) := by
  have hsome : (some file).toList.flatMap (Reading.hosts sentinel max) =
      file.hosts sentinel max := List.flatMap_singleton ..
  rw [← hsome]
  rcases result with error | ⟨⟩
  · exact upcoming_raise sentinel max w _ (some file)
  · exact .refl _

theorem upcoming_lookedUp (notResolved host : String) (answer : Lookup) :
    (w.lookedUp notResolved host answer).activity.upcoming sentinel max = [] := by
  cases answer <;> rfl

theorem upcoming_logged (file : Option Reading) (result : Except SinkError Unit) :
    ((w.logged file result).activity.upcoming sentinel max).Sublist
      (file.toList.flatMap (Reading.hosts sentinel max)) := by
  rcases result with error | ⟨⟩
  · exact upcoming_raise sentinel max w _ file
  · exact upcoming_resume sentinel max file ▸ .refl _

theorem upcoming_conclude (ending : Ending) :
    (w.conclude ending).activity.upcoming sentinel max = [] := by
  cases ending <;> rfl

end Upcoming

/-- What a `put` copies in is the host name that was still to come, once it is known to fit. -/
theorem upcoming_goesOn {target target' : Queue} {call call' : PutCall}
    (hmove : PutCall.Moves target call (.goesOn call') target')
    (hlimit : target.maxItemLength = max) :
    call.handedIn (.goesOn call') ++ call'.upcoming max = call.upcoming max := by
  cases hmove with
  | @enter item left hfits =>
    have hle := (Queue.fits_iff _ _).mp hfits
    rw [← Queue.maxItemLength, hlimit] at hle
    simp [PutCall.handedIn, PutCall.upcoming, hle]
  | store => rfl

/-- **What a step puts** was still to come, or it is in the answer. -/
theorem Moves.hosts (h : Moves told moment w desk w' desk')
    (hlimit : ∀ target, desk.target = some target → target.maxItemLength = max) :
    (w.puts desk ++ w'.activity.upcoming told.sentinel max).Sublist
      (w.activity.upcoming told.sentinel max ++
        (w.reply? told moment).toList.flatMap (Reply.hosts told.sentinel max)) := by
  -- most steps put nothing, and what is still to come gets no more
  have hquiet : ∀ {a : Activity}, w.puts desk = [] →
      (a.upcoming told.sentinel max).Sublist (w.activity.upcoming told.sentinel max) →
      (w.puts desk ++ a.upcoming told.sentinel max).Sublist
        (w.activity.upcoming told.sentinel max ++
          (w.reply? told moment).toList.flatMap (Reply.hosts told.sentinel max)) := by
    intro a hnone hsublist
    rw [hnone]
    exact hsublist.trans (List.sublist_append_left _ _)
  have hnothing : ∀ {a : Activity}, w.puts desk = [] → a.upcoming told.sentinel max = [] →
      (w.puts desk ++ a.upcoming told.sentinel max).Sublist
        (w.activity.upcoming told.sentinel max ++
          (w.reply? told moment).toList.flatMap (Reply.hosts told.sentinel max)) := by
    intro a hnone hupcoming
    exact hquiet hnone (hupcoming ▸ List.nil_sublist _)
  have hputs : w.activity.targetCall.bind Call.phase? = none → w.puts desk = [] :=
    puts_of_phase w desk
  cases h with
  | take hactivity | starve hactivity | acknowledge hactivity | closeSource hactivity
  | closedSource hactivity | announce hactivity =>
    exact hnothing (hputs (by rw [hactivity]; rfl)) rfl
  | receive hactivity =>
    exact hnothing (hputs (by rw [hactivity]; rfl)) (upcoming_begin told.sentinel max w _)
  | @openFile file hactivity =>
    -- the answer says which host names there are in the file
    have hreply : w.reply? told moment =
        some (.opened file (told.environment.opening moment file)) := by rw [reply?, hactivity]
    rw [hputs (by rw [hactivity]; rfl), hreply, hactivity]
    refine (upcoming_takeUp told.sentinel max w _ _).trans ?_
    simp [Reply.hosts, Activity.upcoming]
  | @read file hactivity =>
    refine hquiet (hputs (by rw [hactivity]; rfl)) ?_
    rw [hactivity]
    exact upcoming_read told.sentinel max w _ file
  | @keep host call file hactivity hnone =>
    refine hquiet (by rw [puts, hnone]) ?_
    rw [hactivity]
    simp only [Activity.upcoming, Option.toList_some, List.flatMap_singleton]
    exact List.sublist_append_right _ _
  | @offer host call call' file target target' hactivity hsome hstep =>
    have hmove := PutCall.moves_of_step hstep
    have hput : w.puts desk = call.handedIn (.goesOn call') := by
      rw [puts_of_target w hsome, hactivity]
      exact hmove.stored
    have hupcoming : w.puts desk ++
        Activity.upcoming told.sentinel max (.offering host call' file) =
          w.activity.upcoming told.sentinel max := by
      rw [hput, hactivity, Activity.upcoming, Activity.upcoming, ← List.append_assoc,
        upcoming_goesOn hmove (hlimit target hsome)]
    exact hupcoming ▸ List.sublist_append_left _ _
  | @offered host call file result target target' hactivity hsome hstep =>
    have hmove := PutCall.moves_of_step hstep
    have hput : w.puts desk = [] := by
      rw [puts_of_target w hsome, hactivity]
      refine hmove.stored.trans ?_
      cases call <;> rfl
    refine hquiet hput ((upcoming_offered told.sentinel max w host file result).trans ?_)
    rw [hactivity]
    exact List.sublist_append_right _ _
  | lookUp hactivity =>
    exact hnothing (hputs (by rw [hactivity]; rfl)) (upcoming_lookedUp told.sentinel max w _ _ _)
  | @log line file hactivity =>
    refine hquiet (hputs (by rw [hactivity]; rfl)) ?_
    rw [hactivity]
    exact upcoming_logged told.sentinel max w file _
  | @report failure file hactivity =>
    refine hquiet (hputs (by rw [hactivity]; rfl)) ?_
    rw [upcoming_resume, hactivity]
    exact .refl _
  | conclude hactivity hnone =>
    exact hnothing (by rw [puts, hnone]) (upcoming_conclude told.sentinel max w _)
  | closeTarget hactivity hsome =>
    refine hnothing ?_ rfl
    rw [puts_of_target w hsome, hactivity]
    rfl
  | closedTarget hactivity hsome =>
    refine hnothing ?_ (upcoming_conclude told.sentinel max w _)
    rw [puts_of_target w hsome, hactivity]
    rfl

/-! ## Logging answers

Only a resolver logs, and it never has a file open, so whatever happens to it but an answer leaves
it with no line to log (`Activity.IsSilent`). -/

theorem isSilent_raise (w : Worker) (failure : Failure) :
    (w.raise failure none).activity.IsSilent := by
  unfold raise
  split <;> exact ⟨rfl, rfl⟩

theorem isSilent_begin (sentinel : Sentinel) (item : String) (hstage : w.stage = .resolver) :
    (w.begin sentinel item).activity.IsSilent := by
  unfold begin
  split
  · exact ⟨rfl, rfl⟩
  · rw [hstage]
    exact ⟨rfl, rfl⟩

theorem isSilent_logged (w : Worker) (result : Except SinkError Unit) :
    (w.logged none result).activity.IsSilent := by
  rcases result with error | ⟨⟩
  · exact isSilent_raise w _
  · exact ⟨rfl, rfl⟩

theorem isSilent_conclude (w : Worker) (ending : Ending) :
    (w.conclude ending).activity.IsSilent := by
  cases ending <;> exact ⟨rfl, rfl⟩

/-- **What a resolver logs** it was about to log, or it is in the answer. -/
theorem Moves.logs (h : Moves told moment w desk w' desk') (hstage : w.stage = .resolver)
    (houtput : w.output = .resolverLog) (hfileless : w.activity.isFileless = true) :
    w'.activity.isFileless = true ∧
      ((w.lineTo told moment .resolverLog).toList ++ w'.activity.unwritten).Sublist
        (w.activity.unwritten ++
          (w.reply? told moment).toList.filterMap (Reply.line? told.notResolved)) := by
  have hsilent : ∀ {a : Activity}, w.lineTo told moment .resolverLog = none → a.IsSilent →
      a.isFileless = true ∧ ((w.lineTo told moment .resolverLog).toList ++ a.unwritten).Sublist
        (w.activity.unwritten ++
          (w.reply? told moment).toList.filterMap (Reply.line? told.notResolved)) := by
    intro a hline ha
    rw [hline, ha.2]
    exact ⟨ha.1, List.nil_sublist _⟩
  cases h with
  -- a resolver never has anything to do with a file
  | openFile hactivity | read hactivity | keep hactivity | offer hactivity | offered hactivity =>
    rw [hactivity] at hfileless
    contradiction
  | take hactivity | starve hactivity | acknowledge hactivity | closeSource hactivity
  | closedSource hactivity | closeTarget hactivity | announce hactivity =>
    exact hsilent (by rw [lineTo, line?, hactivity]; rfl) ⟨rfl, rfl⟩
  | receive hactivity =>
    exact hsilent (by rw [lineTo, line?, hactivity]; rfl) (isSilent_begin _ _ hstage)
  | @lookUp host hactivity =>
    have hline : w.lineTo told moment .resolverLog = none := by
      rw [lineTo, line?, hactivity]
      rfl
    have hreply : w.reply? told moment =
        some (.lookedUp host (told.environment.lookup moment host)) := by rw [reply?, hactivity]
    rw [hline, hreply]
    cases told.environment.lookup moment host with
    | found | failed => exact ⟨rfl, List.sublist_append_right _ _⟩
    | panicked => exact ⟨rfl, List.nil_sublist _⟩
  | @log line file hactivity =>
    -- the line itself is the one that is about to be logged
    rw [hactivity] at hfileless
    obtain rfl : file = none := by simpa [Activity.isFileless] using hfileless
    have hline : w.lineTo told moment .resolverLog = some line := by
      rw [lineTo, line?, hactivity]
      simp [houtput]
    obtain ⟨hrest, hunwritten⟩ := isSilent_logged w (desk.sinks.writeLine w.output line).1
    refine ⟨hrest, ?_⟩
    rw [hunwritten, hline, hactivity]
    exact List.sublist_append_left _ _
  | @report failure file hactivity =>
    have hline : w.lineTo told moment .resolverLog = none := by
      rw [lineTo, line?, hactivity]
      rfl
    rw [hactivity] at hfileless
    obtain rfl : file = none := by simpa [Activity.isFileless] using hfileless
    exact hsilent hline ⟨rfl, rfl⟩
  | conclude hactivity | closedTarget hactivity =>
    exact hsilent (by rw [lineTo, line?, hactivity]; rfl) (isSilent_conclude w _)

/-- What a requester writes goes to its own log or to no log at all. -/
theorem lineTo_resolverLog (told : Instructions) (moment : Nat)
    (houtput : w.output = .requesterLog) : w.lineTo told moment .resolverLog = none := by
  unfold lineTo line?
  cases w.activity <;> simp [houtput]

/-! ## Offering

A host name is offered only where there is a queue to offer it to, which is what the count of host
names takes for granted. -/

/-- A worker that offers a host name has a queue to offer it to: the name is offered only if there
is one, and the queue stays where it is. -/
theorem Moves.isSome_of_offering (h : Moves told moment w desk w' desk') {host : String}
    {call : PutCall} {file : Reading} (hoffering : w'.activity = .offering host call file) :
    desk.target.isSome = true := by
  have hraise : ∀ failure file', (w.raise failure file').activity ≠ .offering host call file := by
    intro failure file' heq
    unfold raise at heq
    split at heq <;> contradiction
  have hresume : ∀ file', resume file' ≠ .offering host call file := by
    intro file' heq
    cases file' <;> contradiction
  -- only reading a line leads to an offer, and only with somewhere to offer it to
  cases h with
  | receive =>
    unfold begin at hoffering
    split at hoffering
    · contradiction
    · dsimp only at hoffering
      cases hstage : w.stage <;> rw [hstage] at hoffering <;> contradiction
  | @openFile name hactivity =>
    cases hopening : told.environment.opening moment name <;> rw [hopening] at hoffering
    · exact absurd hoffering (hraise _ _)
    · contradiction
    · contradiction
  | read =>
    unfold Worker.read at hoffering
    split at hoffering
    · contradiction
    · split at hoffering
      · split at hoffering
        · contradiction
        · unfold handOn at hoffering
          split at hoffering
          · exact absurd hoffering (hraise _ _)
          · split at hoffering
            · next hsome => exact hsome
            · contradiction
      · split at hoffering <;> exact absurd hoffering (hraise _ _)
      · contradiction
  | offer hactivity hsome => rw [hsome]; rfl
  | @offered _ _ _ result =>
    rcases result with error | ⟨⟩
    · exact absurd hoffering (hraise _ _)
    · contradiction
  | @lookUp name hactivity =>
    cases hanswer : told.environment.lookup moment name <;> rw [hanswer] at hoffering <;>
      contradiction
  | @log line file' hactivity =>
    generalize (desk.sinks.writeLine w.output line).1 = result at hoffering
    rcases result with error | ⟨⟩
    · exact absurd hoffering (hraise _ _)
    · exact absurd hoffering (hresume _)
  | report => exact absurd hoffering (hresume _)
  | @conclude _ ending => cases ending <;> contradiction
  | @closedTarget _ _ ending => cases ending <;> contradiction
  | _ => contradiction

end Worker

end HostLookup
