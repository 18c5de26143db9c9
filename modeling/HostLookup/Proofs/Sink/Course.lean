import HostLookup.Proofs.Sink.Visits

/-!
# The course of a release

Any number of threads may try to destroy the sinks while others use them. The first that marks the
sinks takes them away, one after the other, and flushes each of them outside of its lock, so that
others may come in between. Where it stands is the only thing that decides what is on record of the
release (`Course`), and no step of another thread changes that.

* **`Session.Course.turn`**: every step of a thread keeps the course of the release.
* **`Session.Course.isPrefix`**: what was done to release the sinks is a beginning of one script,
  carried out by one thread.
* **`Session.guarded_of_traces`**: both, and that nobody holds the lock of a sink that is gone.
-/

namespace HostLookup

/-! ## The answer of a release

Every sink is flushed, also behind one whose flush has failed, and the first error is the answer of
the whole release. -/

/-- The error of a result, if it is one. -/
def failure? : Except SinkError Unit → Option SinkError
  | .error error => some error
  | .ok () => none

/-- The first error among results. -/
def verdict (results : List (Except SinkError Unit)) : Except SinkError Unit :=
  match results.findSome? failure? with
  | some error => .error error
  | none => .ok ()

/-- One more flush changes the answer only if all before it have succeeded. -/
theorem verdict_concat (results : List (Except SinkError Unit)) (last : Except SinkError Unit) :
    verdict (results ++ [last]) = Sinks.firstError (verdict results) last := by
  unfold verdict
  rw [List.findSome?_append]
  cases results.findSome? failure? with
  | some error => rfl
  | none => rcases last with error | ⟨⟨⟩⟩ <;> rfl

/-- **A release succeeds if every flush did.** -/
theorem verdict_eq_ok_iff {results : List (Except SinkError Unit)} :
    verdict results = .ok () ↔ ∀ result ∈ results, result = .ok () := by
  have hnone : verdict results = .ok () ↔ results.findSome? failure? = none := by
    unfold verdict
    cases results.findSome? failure? <;> simp
  rw [hnone, List.findSome?_eq_none_iff]
  refine forall₂_congr fun result _ => ?_
  rcases result with error | ⟨⟨⟩⟩ <;> simp [failure?]

/-! ## The script of a release

The deeds of a release are the same for every run but for the answers of the flushes, so they are a
script with the answers as its parameter. The answers not yet given are free, which is why a flush
may change them at its own sink (`releaseUpTo_answerTo`). -/

namespace SinkDeed

/-- Does this belong to the release of all sinks? -/
def isRelease : SinkDeed → Bool
  | .claims | .takes _ | .flushes _ _ | .finishes _ => true
  | _ => false

/-- Is this the first step of a call that destroys the sinks? -/
def isMark : SinkDeed → Bool
  | .claims | .comesLate _ => true
  | _ => false

end SinkDeed

/-- A sink is taken and flushed, and the flush has this result. -/
def retire (answer : Sink → Except SinkError Unit) (sink : Sink) : List SinkDeed :=
  [.takes sink, .flushes sink (answer sink)]

/-- What has been done when these sinks are flushed. -/
def releaseUpTo (answer : Sink → Except SinkError Unit) (flushed : List Sink) : List SinkDeed :=
  .claims :: flushed.flatMap (retire answer)

/-- All that has to be done to release the sinks. -/
def releaseScript (answer : Sink → Except SinkError Unit) : List SinkDeed :=
  releaseUpTo answer Sink.all ++ [.finishes (.returned (verdict (Sink.all.map answer)))]

/-- The answers, with that of one more flush. -/
def answerTo (answer : Sink → Except SinkError Unit) (sink : Sink)
    (result : Except SinkError Unit) :
    Sink → Except SinkError Unit :=
  fun other => if other = sink then result else answer other

/-- Each sink has one place in the order. -/
theorem not_mem_of_split {flushed later : List Sink} {sink : Sink}
    (hsplit : Sink.all = flushed ++ sink :: later) : sink ∉ flushed := by
  have hnodup : (flushed ++ sink :: later).Nodup := hsplit ▸ (by decide : Sink.all.Nodup)
  intro hmem
  exact (List.nodup_append.mp hnodup).2.2 sink hmem sink List.mem_cons_self rfl

/-- The answers so far and the new one. -/
theorem map_answerTo {flushed : List Sink} {sink : Sink} (answer : Sink → Except SinkError Unit)
    (result : Except SinkError Unit) (hnot : sink ∉ flushed) :
    (flushed ++ [sink]).map (answerTo answer sink result) = flushed.map answer ++ [result] := by
  rw [List.map_append]
  congr 1
  · refine List.map_congr_left fun other hmem => if_neg ?_
    rintro rfl
    exact hnot hmem
  · simp [answerTo]

/-- The script up to and with one more sink. -/
theorem releaseUpTo_answerTo {flushed : List Sink} {sink : Sink}
    (answer : Sink → Except SinkError Unit) (result : Except SinkError Unit)
    (hnot : sink ∉ flushed) :
    releaseUpTo (answerTo answer sink result) (flushed ++ [sink]) =
      releaseUpTo answer flushed ++ [.takes sink, .flushes sink result] := by
  have hsame : flushed.flatMap (retire (answerTo answer sink result)) =
      flushed.flatMap (retire answer) := by
    rw [List.flatMap_def, List.flatMap_def]
    congr 1
    refine List.map_congr_left fun other hmem => ?_
    have hne : other ≠ sink := by
      rintro rfl
      exact hnot hmem
    simp [retire, answerTo, hne]
  simp [releaseUpTo, hsame, retire, answerTo]

theorem ofThread_concat (i : Nat) (deeds : List SinkDeed) (deed : SinkDeed) :
    ofThread i (deeds ++ [deed]) = ofThread i deeds ++ [(i, deed)] := by
  simp [ofThread]

/-- The part of a log that belongs to the release of all sinks. -/
def releasesOf (log : List (Nat × SinkDeed)) : List (Nat × SinkDeed) :=
  log.filter fun entry => entry.2.isRelease

/-- The part of a log in which threads find out who is to release the sinks. -/
def marksOf (log : List (Nat × SinkDeed)) : List (Nat × SinkDeed) :=
  log.filter fun entry => entry.2.isMark

/-- A deed more of the release, or none. -/
theorem releasesOf_concat (log : List (Nat × SinkDeed)) (i : Nat) (deed : SinkDeed) :
    releasesOf (log ++ [(i, deed)]) =
      releasesOf log ++ if deed.isRelease then [(i, deed)] else [] := by
  cases hrelease : deed.isRelease <;> simp [releasesOf, hrelease]

theorem marksOf_concat (log : List (Nat × SinkDeed)) (i : Nat) (deed : SinkDeed) :
    marksOf (log ++ [(i, deed)]) = marksOf log ++ if deed.isMark then [(i, deed)] else [] := by
  cases hmark : deed.isMark <;> simp [marksOf, hmark]

/-- Is the call taking sinks away? -/
def SinkCall.isReleasing : SinkCall → Bool
  | .releasing _ _ | .flushing _ _ _ => true
  | _ => false

/-- Is the thread taking sinks away? -/
def SinkUser.isReleasing (user : SinkUser) : Bool :=
  user.call.any SinkCall.isReleasing

namespace SinkCall.Moves

variable {sinks after : Sinks} {call later : SinkCall} {deed : SinkDeed}
  {progress : Progress SinkCall UseOutcome}

/-- Only the release of all sinks takes them away. -/
theorem isReleasing_eq (h : Moves sinks call deed progress after) :
    call.isReleasing = true → deed.isRelease = true := by
  cases h <;> simp [isReleasing, SinkDeed.isRelease]

theorem isReleasing_later (h : Moves sinks call deed (.goesOn later) after)
    (hnot : deed.isRelease = false) : later.isReleasing = false := by
  cases h <;> first | rfl | cases hnot

/-- Whatever does not belong to the release leaves the marks and the sinks in their places. -/
theorem frame_of_not_isRelease (h : Moves sinks call deed progress after)
    (hnot : deed.isRelease = false) :
    after.destroyed = sinks.destroyed ∧
      ∀ sink, (after.get sink).released = (sinks.get sink).released := by
  refine ⟨?_, fun sink => h.released_of_ne fun htakes => ?_⟩
  · rw [Bool.eq_iff_iff, h.destroyed_eq]
    refine or_iff_left fun hclaims => ?_
    rw [hclaims] at hnot
    contradiction
  · rw [htakes] at hnot
    contradiction

end SinkCall.Moves

/-- A thread that has returned begins its next task, and no task begins in the middle of a
release. -/
theorem SinkUser.Follows.isReleasing_returns {tasks : List SinkTask} {user : SinkUser}
    (h : user.Follows tasks) (outcome : UseOutcome) :
    (user.progress (.returns outcome)).isReleasing = false := by
  rcases h.call_returns outcome with hcall | ⟨task, hcall⟩
  · rw [SinkUser.isReleasing, hcall]
    rfl
  · rw [SinkUser.isReleasing, hcall]
    cases task <;> rfl

namespace Session

variable {device : Sink → Device} {tasks : List (List SinkTask)} {log : List (Nat × SinkDeed)}
  {session next : Session} {sink : Sink} {i : Nat}

/-- No thread is releasing the sinks but the `i`-th. -/
def OnlyReleases (session : Session) (i : Nat) : Prop :=
  ∀ (j : Nat) (other : SinkUser), session.users[j]? = some other → other.isReleasing = true → j = i

/-- **What is on record of the release**, by the place at which it stands. -/
inductive Course (session : Session) : List (Nat × SinkDeed) → Prop where
  /-- Nobody has marked the sinks. -/
  | ahead (hmark : session.sinks.destroyed = false) (hlive : session.sinks.Live)
      (hnobody : ∀ user ∈ session.users, user.isReleasing = false) : Course session []
  /-- These sinks were flushed, and the later ones are left. -/
  | between {i : Nat} {user : SinkUser} {answer : Sink → Except SinkError Unit}
      {flushed later : List Sink} (hsplit : Sink.all = flushed ++ later)
      (huser : session.users[i]? = some user)
      (hcall : user.call = some (.releasing later (verdict (flushed.map answer))))
      (honly : session.OnlyReleases i) (hmark : session.sinks.destroyed = true)
      (hgone : ∀ sink, (session.sinks.get sink).released = true ↔ sink ∈ flushed) :
      Course session (ofThread i (releaseUpTo answer flushed))
  /-- This sink was taken and has not been flushed. -/
  | within {i : Nat} {user : SinkUser} {answer : Sink → Except SinkError Unit}
      {flushed later : List Sink} {sink : Sink} (hsplit : Sink.all = flushed ++ sink :: later)
      (huser : session.users[i]? = some user)
      (hcall : user.call = some (.flushing sink later (verdict (flushed.map answer))))
      (honly : session.OnlyReleases i) (hmark : session.sinks.destroyed = true)
      (hgone : ∀ other, (session.sinks.get other).released = true ↔
        other ∈ flushed ∨ other = sink) :
      Course session
        (ofThread i (releaseUpTo answer flushed ++ [.takes sink]))
  /-- All sinks were flushed, and the thread has its answer. -/
  | ended {i : Nat} {answer : Sink → Except SinkError Unit} (hmark : session.sinks.destroyed = true)
      (hgone : ∀ sink, (session.sinks.get sink).released = true)
      (hnobody : ∀ user ∈ session.users, user.isReleasing = false) :
      Course session (ofThread i (releaseScript answer))

/-! ## A step keeps it

Steps that have no part in the release are told apart first: they change neither the marks nor who
is releasing. Of those that have a part, each leads from one place of the course to the next. -/

variable {user user' : SinkUser} {after : Sinks} {releases : List (Nat × SinkDeed)}

/-- A thread that is not releasing the sinks is no matter. -/
theorem OnlyReleases.set_of_ne {k : Nat} (h : session.OnlyReleases k)
    (hnot : user'.isReleasing = false) :
    OnlyReleases { sinks := after, users := session.users.set i user' } k := by
  intro j other hj hreleasing
  rcases getElem?_set_cases hj with ⟨-, rfl⟩ | ⟨-, hsame⟩
  · rw [hnot] at hreleasing
    contradiction
  · exact h j other hsame hreleasing

/-- Nor does a step of the one who is releasing them make anybody else do so. -/
theorem OnlyReleases.set_self (h : session.OnlyReleases i) :
    OnlyReleases { sinks := after, users := session.users.set i user' } i := by
  intro j other hj hreleasing
  rcases getElem?_set_cases hj with ⟨rfl, -⟩ | ⟨-, hsame⟩
  · rfl
  · exact h j other hsame hreleasing

/-- If nobody else is releasing the sinks and the thread has ended its release, nobody is. -/
theorem OnlyReleases.nobody_set (h : session.OnlyReleases i) (hnot : user'.isReleasing = false) :
    ∀ user ∈ (Session.mk after (session.users.set i user')).users, user.isReleasing = false := by
  intro other hmem
  obtain ⟨j, hj⟩ := List.getElem?_of_mem hmem
  rcases getElem?_set_cases hj with ⟨-, rfl⟩ | ⟨hne, hsame⟩
  · exact hnot
  · exact Bool.eq_false_iff.mpr fun hreleasing => hne (h j other hsame hreleasing)

/-- If nobody is releasing the sinks then anybody may be the only one. -/
theorem onlyReleases_of_nobody (i : Nat)
    (hnobody : ∀ user ∈ session.users, user.isReleasing = false) : session.OnlyReleases i := by
  intro j other hother hreleasing
  rw [hnobody other (List.mem_of_getElem? hother)] at hreleasing
  contradiction

/-- A thread between two sinks is the one whom the course is about, and it stands where the course
says. -/
theorem Course.of_releasing {waiting : List Sink} {result : Except SinkError Unit}
    (h : session.Course releases) (huser : session.users[i]? = some user)
    (hcall : user.call = some (.releasing waiting result)) :
    ∃ answer flushed, Sink.all = flushed ++ waiting ∧ result = verdict (flushed.map answer) ∧
      releases = ofThread i (releaseUpTo answer flushed) ∧
      session.OnlyReleases i ∧ session.sinks.destroyed = true ∧
      ∀ sink, (session.sinks.get sink).released = true ↔ sink ∈ flushed := by
  have hreleasing : user.isReleasing = true := by
    simp [SinkUser.isReleasing, hcall, SinkCall.isReleasing]
  cases h with
  | ahead _ _ hnobody | ended _ _ hnobody =>
    rw [hnobody user (List.mem_of_getElem? huser)] at hreleasing
    contradiction
  | @between k winner answer flushed later hsplit hwinner hcall' honly hmark hgone =>
    obtain rfl : i = k := honly i user huser hreleasing
    obtain rfl : winner = user := Option.some.inj (hwinner.symm.trans huser)
    obtain ⟨rfl, rfl⟩ : waiting = later ∧ result = verdict (flushed.map answer) := by
      simpa using hcall.symm.trans hcall'
    exact ⟨answer, flushed, hsplit, rfl, rfl, honly, hmark, hgone⟩
  | @within k winner answer flushed later sink hsplit hwinner hcall' honly =>
    obtain rfl : i = k := honly i user huser hreleasing
    obtain rfl : winner = user := Option.some.inj (hwinner.symm.trans huser)
    rw [hcall] at hcall'
    cases hcall'

/-- The same for a thread that is about to flush the sink it has taken. -/
theorem Course.of_flushing {later : List Sink} {result : Except SinkError Unit}
    (h : session.Course releases) (huser : session.users[i]? = some user)
    (hcall : user.call = some (.flushing sink later result)) :
    ∃ answer flushed, Sink.all = flushed ++ sink :: later ∧ result = verdict (flushed.map answer) ∧
      releases = ofThread i (releaseUpTo answer flushed ++ [.takes sink]) ∧
      session.OnlyReleases i ∧ session.sinks.destroyed = true ∧
      ∀ other, (session.sinks.get other).released = true ↔ other ∈ flushed ∨ other = sink := by
  have hreleasing : user.isReleasing = true := by
    simp [SinkUser.isReleasing, hcall, SinkCall.isReleasing]
  cases h with
  | ahead _ _ hnobody | ended _ _ hnobody =>
    rw [hnobody user (List.mem_of_getElem? huser)] at hreleasing
    contradiction
  -- the thread stands between two sinks, so it flushes none
  | @between k winner answer flushed later' hsplit hwinner hcall' honly =>
    obtain rfl : i = k := honly i user huser hreleasing
    obtain rfl : winner = user := Option.some.inj (hwinner.symm.trans huser)
    rw [hcall] at hcall'
    cases hcall'
  | @within k winner answer flushed later' sink' hsplit hwinner hcall' honly hmark hgone =>
    obtain rfl : i = k := honly i user huser hreleasing
    obtain rfl : winner = user := Option.some.inj (hwinner.symm.trans huser)
    obtain ⟨rfl, rfl, rfl⟩ : sink = sink' ∧ later = later' ∧
        result = verdict (flushed.map answer) := by
      simpa using hcall.symm.trans hcall'
    exact ⟨answer, flushed, hsplit, rfl, rfl, honly, hmark, hgone⟩

/-- A step with no part in the release leaves the course where it is. -/
theorem Course.turn_of_not {deed : SinkDeed} (h : session.Course releases)
    (hfollows : session.Follows tasks) (hturn : session.Turn i deed next)
    (hnot : deed.isRelease = false) : next.Course releases := by
  obtain ⟨huser, hcall, -, hmoves⟩ := hturn
  rename_i user call progress after
  obtain ⟨own, -, hmine⟩ := hfollows.follows huser
  obtain ⟨hmarked, hreleased⟩ := hmoves.frame_of_not_isRelease hnot
  have hbefore : user.isReleasing = false := by
    have hcalls : call.isReleasing = false :=
      Bool.eq_false_iff.mpr fun hcalls => by simp [hmoves.isReleasing_eq hcalls] at hnot
    simpa [SinkUser.isReleasing, hcall] using hcalls
  have hafter : (user.progress progress).isReleasing = false := by
    cases progress with
    | returns outcome => exact hmine.isReleasing_returns outcome
    | goesOn later =>
      have hcalls := hmoves.isReleasing_later hnot
      simpa [SinkUser.isReleasing, SinkUser.progress] using hcalls
  -- whoever is releasing the sinks is another thread, which has not moved
  have hkept : ∀ {k : Nat} {winner : SinkUser}, session.users[k]? = some winner →
      winner.isReleasing = true →
        (session.users.set i (user.progress progress))[k]? = some winner := by
    intro k winner hwinner hreleasing
    refine (List.getElem?_set_ne ?_).trans hwinner
    rintro rfl
    obtain rfl : winner = user := Option.some.inj (hwinner.symm.trans huser)
    rw [hbefore] at hreleasing
    contradiction
  cases h with
  | ahead hmark hlive hnobody =>
    refine .ahead (hmarked.trans hmark) (fun sink => (hreleased sink).trans (hlive sink)) ?_
    exact (onlyReleases_of_nobody i hnobody).nobody_set hafter
  | between hsplit hwinner hcall' honly hmark hgone =>
    refine .between hsplit (hkept hwinner ?_) hcall' (honly.set_of_ne hafter)
      (hmarked.trans hmark) ?_
    · simp [SinkUser.isReleasing, hcall', SinkCall.isReleasing]
    · intro sink
      rw [hreleased sink, hgone]
  | within hsplit hwinner hcall' honly hmark hgone =>
    refine .within hsplit (hkept hwinner ?_) hcall' (honly.set_of_ne hafter)
      (hmarked.trans hmark) ?_
    · simp [SinkUser.isReleasing, hcall', SinkCall.isReleasing]
    · intro sink
      rw [hreleased sink, hgone]
  | ended hmark hgone hnobody =>
    refine .ended (hmarked.trans hmark) (fun sink => (hreleased sink).trans (hgone sink)) ?_
    exact (onlyReleases_of_nobody i hnobody).nobody_set hafter

/-- A step of the release goes on to the next place of the course. -/
theorem Course.turn_of_release {deed : SinkDeed} (h : session.Course releases)
    (hfollows : session.Follows tasks) (hturn : session.Turn i deed next)
    (hrelease : deed.isRelease = true) : next.Course (releases ++ [(i, deed)]) := by
  obtain ⟨huser, hcall, -, hmoves⟩ := hturn
  rename_i user call progress after
  obtain ⟨own, -, hmine⟩ := hfollows.follows huser
  have hmover : ∀ progress, (session.users.set i (user.progress progress))[i]? =
      some (user.progress progress) := fun _ =>
    List.getElem?_set_self (List.getElem?_eq_some_iff.mp huser).1
  have hreleased := fun sink (hne : deed ≠ .takes sink) => hmoves.released_of_ne hne
  have hmarked := hmoves.destroyed_eq
  cases hmoves with
  | enter | turnBack | write | breakOff | leave | comeLate => cases hrelease
  | claim hfirst =>
    cases h with
    | between _ _ _ _ hmark | within _ _ _ _ hmark | ended hmark =>
      rw [hmark] at hfirst
      contradiction
    | ahead hmark hlive hnobody =>
      -- no flush has been answered yet, so any answers will do
      show Course _ (ofThread i (releaseUpTo (fun _ => .ok ()) []))
      refine .between rfl (hmover (.goesOn (.releasing Sink.all (.ok ())))) rfl ?_
        rfl fun sink => ?_
      · exact (onlyReleases_of_nobody i hnobody).set_self
      · rw [hreleased sink (by simp), hlive sink]
        simp
  | @take sink later result =>
    obtain ⟨answer, flushed, hsplit, rfl, rfl, honly, hmark, hgone⟩ := h.of_releasing huser hcall
    rw [← ofThread_concat]
    refine .within hsplit (hmover (.goesOn (.flushing sink later _))) rfl honly.set_self ?_
      fun other => ?_
    · simpa [Sinks.release] using hmark
    · rw [Sinks.released_release, ← hgone]
      simp [or_comm]
  | @flush sink later result answered after hflush =>
    obtain ⟨answer, flushed, hsplit, rfl, rfl, honly, hmark, hgone⟩ := h.of_flushing huser hcall
    -- the sink is new among those that are flushed, so the answers can be changed at it
    have hnot := not_mem_of_split hsplit
    rw [← ofThread_concat, List.append_assoc, List.singleton_append,
      ← releaseUpTo_answerTo answer answered hnot]
    refine .between (by rw [hsplit, List.append_assoc]; rfl)
      (hmover (.goesOn (.releasing later _))) ?_
      honly.set_self ?_ fun other => ?_
    · rw [map_answerTo answer answered hnot, verdict_concat]
      rfl
    · exact hmarked.mpr (Or.inl hmark)
    · rw [hreleased other (by simp), hgone]
      simp
  | @finish result =>
    obtain ⟨answer, flushed, hsplit, rfl, rfl, honly, hmark, hgone⟩ := h.of_releasing huser hcall
    -- no sink is left, so all of them were flushed
    obtain rfl : flushed = Sink.all := by rw [hsplit, List.append_nil]
    rw [← ofThread_concat, ← releaseScript]
    exact .ended hmark (fun sink => (hgone sink).mpr sink.mem_all)
      (honly.nobody_set (hmine.isReleasing_returns _))

/-- **Every step keeps the course.** -/
theorem Course.turn {deed : SinkDeed} (h : session.Course (releasesOf log))
    (hfollows : session.Follows tasks) (hturn : session.Turn i deed next) :
    next.Course (releasesOf (log ++ [(i, deed)])) := by
  rw [releasesOf_concat]
  split
  · next hrelease => exact h.turn_of_release hfollows hturn hrelease
  · next hnot =>
    rw [List.append_nil]
    exact h.turn_of_not hfollows hturn (Bool.eq_false_iff.mpr hnot)

/-- Whatever place the release has come to, it has followed the script so far. -/
theorem Course.isPrefix (h : session.Course releases) :
    ∃ i answer, releases <+: ofThread i (releaseScript answer) := by
  have hflushed : ∀ {answer : Sink → Except SinkError Unit} {flushed later : List Sink},
      Sink.all = flushed ++ later → releaseScript answer = releaseUpTo answer flushed ++
        (later.flatMap (retire answer) ++
          [.finishes (.returned (verdict (Sink.all.map answer)))]) := by
    intro answer flushed later hsplit
    simp [releaseScript, releaseUpTo, hsplit]
  -- at each place the deeds so far are the script up to it
  cases h with
  | ahead => exact ⟨0, fun _ => .ok (), List.nil_prefix⟩
  | @between i user answer flushed later hsplit =>
    refine ⟨i, answer, List.IsPrefix.map _ ?_⟩
    rw [hflushed hsplit]
    exact List.prefix_append _ _
  | @within i user answer flushed later sink hsplit =>
    refine ⟨i, answer, List.IsPrefix.map _ ?_⟩
    rw [hflushed hsplit, List.flatMap_cons, retire]
    refine (List.prefix_append_right_inj _).mpr ?_
    exact List.prefix_append [SinkDeed.takes sink] _
  | @ended i answer => exact ⟨i, answer, List.prefix_rfl⟩

/-! ## Sinks that are gone

A sink is taken under its lock, so nobody is at work with it at that moment, and behind it nobody is
let in any more. -/

/-- Nobody holds the lock of a sink that was taken. -/
def Vacated (session : Session) : Prop :=
  ∀ sink, (session.sinks.get sink).released = true → session.IsFree sink

/-- The lock is free when a sink is taken, and afterwards the sink turns everybody back. -/
theorem Vacated.turn {deed : SinkDeed} (h : session.Vacated) (hfollows : session.Follows tasks)
    (hturn : session.Turn i deed next) : next.Vacated := by
  intro sink hreleased
  obtain ⟨huser, hcall, hlock, hmoves⟩ := hturn
  rename_i user call progress after
  obtain ⟨own, -, hmine⟩ := hfollows.follows huser
  by_cases htakes : deed = .takes sink
  · -- the lock was free when the sink was taken
    subst htakes
    cases hmoves
    exact isFree_set (hlock sink rfl) (by simp [SinkUser.holds, SinkUser.progress, SinkCall.holds])
  · have hgone : (session.sinks.get sink).released = true := by
      rwa [← hmoves.released_of_ne htakes]
    have hfree := h sink hgone
    refine isFree_set (fun j other hother hholds => ?_) fun hholds => ?_
    · exact absurd hholds (hfree other (List.mem_of_getElem? hother))
    -- only a live sink can be entered, and only its holder writes to it
    · cases progress with
      | returns outcome =>
        rw [hmine.holds_returns] at hholds
        contradiction
      | goesOn later =>
        cases hmoves with
        | enter hlive =>
          cases hholds
          rw [hlive] at hgone
          contradiction
        | write =>
          refine hfree user (List.mem_of_getElem? huser) ?_
          rw [SinkUser.holds, hcall]
          exact hholds
        | claim | take | flush => cases hholds

/-- What holds while the sinks are used and released. -/
structure Guarded (tasks : List (List SinkTask)) (log : List (Nat × SinkDeed)) (session : Session) :
    Prop where
  follows : session.Follows tasks
  course : session.Course (releasesOf log)
  vacated : session.Vacated

theorem Guarded.turn {deed : SinkDeed} (h : session.Guarded tasks log)
    (hturn : session.Turn i deed next) : next.Guarded tasks (log ++ [(i, deed)]) :=
  ⟨h.follows.turn hturn, h.course.turn h.follows hturn, h.vacated.turn h.follows hturn⟩

/-- **All of it holds at every moment**, from sinks that nobody has used yet. -/
theorem guarded_of_traces (htrace : Traces step deeds (ofTasks device tasks) log session) :
    session.Guarded tasks log := by
  apply htrace.invariant (P := fun log session => session.Guarded tasks log)
  · refine ⟨follows_ofTasks device tasks, .ahead rfl (fun sink => ?_) fun user hmem => ?_,
      fun sink _ user hmem => by simp [holds_ofTasks hmem]⟩
    · simp [ofTasks, get_ofDevices]
    · obtain ⟨own, -, rfl⟩ := List.mem_map.mp hmem
      cases own with
      | nil => rfl
      | cons task rest => cases task <;> rfl
  · intro i record mid next hmid hstep
    obtain ⟨deed, hdeeds, hturn⟩ := turn_of_step hstep
    rw [hdeeds]
    exact hmid.turn hturn

/-- **Who comes to a sink that is gone** is turned back. -/
theorem Vacated.turnsBack {deed : SinkDeed} (h : session.Vacated) (hturn : session.Turn i deed next)
    (hgone : (session.sinks.get sink).released = true) (hused : deed.usedSink? = some sink) :
    ∃ use, deed = .turnsBack use (.returned (.error (.destroyed sink))) := by
  obtain ⟨huser, hcall, -, hmoves⟩ := hturn
  have hnot := h sink hgone _ (List.mem_of_getElem? huser)
  rw [SinkUser.holds, hcall] at hnot
  cases hmoves with
  | enter hlive =>
    cases hused
    rw [hlive] at hgone
    contradiction
  | @turnBack use outcome hreleased houtcome =>
    cases hused
    exact ⟨use, by rw [houtcome]⟩
  | write | breakOff | leave => exact absurd hused hnot
  | claim | comeLate | take | flush | finish => cases hused

end Session

end HostLookup
