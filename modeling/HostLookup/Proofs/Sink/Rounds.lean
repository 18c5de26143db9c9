import HostLookup.Proofs.Sink.Visits
import HostLookup.Proofs.Text.Utf8

/-!
# What becomes of a line that was cut off

A line is written in two chunks, its text and its newline, under one lock. If the newline is refused
the text stays in the sink, and whoever writes next goes on right behind it. So a line that was
reported as written ends with a newline of its own, and no two such lines share one; but it begins
behind whatever has been left over since the last newline.

The uses of a sink are therefore counted in rounds: a round is a use that has succeeded, with the
failed uses since the last one that has.

* **`Round.piece`** is what a round adds between two newlines.
* **`Session.linesUp_of_traces`**: between the newlines of a sink to which only lines are written
  stand the pieces of its rounds, in the order in which the lock was taken. A line stands on its own
  exactly if nothing was left over in its round.
-/

namespace HostLookup

namespace Visit

/-- Was the user told that its use has succeeded? -/
def isOk (visit : Visit) : Bool :=
  visit.outcome = .returned (.ok ())

/-- What was written in a visit. -/
def bytes (visit : Visit) : Bytes :=
  visit.written.flatten

/-- What was to be written in front of the newline. -/
def text (visit : Visit) : Bytes :=
  visit.use.chunks.dropLast.flatten

/-- In this visit a line was to be written. -/
def IsLine (sink : Sink) (visit : Visit) : Prop :=
  ∃ line : String, visit.use = .line sink line ∧ '\n' ∉ line.toList

variable {sink : Sink} {visit : Visit}

theorem IsLine.text_eq (h : visit.IsLine sink) :
    ∃ line : String, visit.use = .line sink line ∧ visit.text = Text.encode line ∧
      0x0A ∉ visit.text := by
  obtain ⟨line, huse, hline⟩ := h
  have htext : visit.text = Text.encode line := by
    rw [text, huse]
    exact List.append_nil _
  refine ⟨line, huse, htext, ?_⟩
  rw [htext, Text.newline_mem_encode_iff]
  exact hline

/-- A line that was reported as written was written with its newline. -/
theorem IsLine.bytes_of_isOk (h : visit.IsLine sink) (hok : visit.isOk = true) :
    visit.bytes = visit.text ++ [0x0A] := by
  obtain ⟨line, huse, htext, -⟩ := h.text_eq
  obtain ⟨-, hwritten, -⟩ := visit.outcome_eq_ok_iff.mp (of_decide_eq_true hok)
  rw [bytes, hwritten, huse, htext]
  rfl

/-- Of another line nothing was written, or its text: then its newline was refused. -/
theorem IsLine.bytes_of_not_isOk (h : visit.IsLine sink) (hnot : visit.isOk = false) :
    visit.bytes = [] ∨ visit.bytes = visit.text ∧
      ∃ outcome, .breaksOff sink [0x0A] outcome ∈ visit.deeds := by
  obtain ⟨line, huse, htext, -⟩ := h.text_eq
  cases visit with
  | late use => exact Or.inl rfl
  | whole use =>
    -- a line has no failure of its own
    obtain rfl : use = .line sink line := huse
    contradiction
  | broken other written chunk rest ending failure =>
    have hchunks : written ++ chunk :: rest = Sinks.lineChunks line := congrArg SinkUse.chunks huse
    obtain rfl : other = sink := congrArg SinkUse.sink huse
    cases written with
    | nil => exact Or.inl rfl
    | cons first more =>
      rw [List.cons_append] at hchunks
      obtain ⟨rfl, hrest⟩ := List.cons.inj hchunks
      cases more with
      | nil =>
        obtain ⟨rfl, -⟩ := List.cons.inj hrest
        refine Or.inr ⟨?_, _, List.mem_append_right _ List.mem_cons_self⟩
        rw [htext]
        exact List.append_nil _
      | cons second more =>
        have hlength := congrArg List.length hrest
        simp at hlength

end Visit

/-! ## Rounds

A round ends with a visit that has succeeded. Only then a newline was written, so between two
newlines stand the texts that failed visits have left over, and behind them the line that was
reported as written. -/

/-- What was written in some visits. -/
def leftover (visits : List Visit) : Bytes :=
  visits.flatMap Visit.bytes

/-- A visit that has succeeded, with the failed ones since the last one that has. -/
structure Round where
  failed : List Visit
  last : Visit

namespace Round

/-- The visits of a round, in their order. -/
def visits (round : Round) : List Visit :=
  round.failed ++ [round.last]

/-- What a round adds in front of its newline. -/
def piece (round : Round) : Bytes :=
  leftover round.failed ++ round.last.text

/-- A line stands on its own exactly if nothing was left over in its round. -/
theorem piece_eq_text_iff (round : Round) :
    round.piece = round.last.text ↔ ∀ visit ∈ round.failed, visit.bytes = [] := by
  rw [piece, List.append_left_eq_self, leftover, List.flatMap_eq_nil_iff]

end Round

/-- Visits fall into rounds, and the failed ones behind the last round. -/
structure Rounds (visits : List Visit) (rounds : List Round) (rest : List Visit) : Prop where
  visits_eq : visits = rounds.flatMap Round.visits ++ rest
  last : ∀ round ∈ rounds, round.last.isOk = true
  failed : ∀ round ∈ rounds, ∀ visit ∈ round.failed, visit.isOk = false
  rest : ∀ visit ∈ rest, visit.isOk = false

namespace Rounds

variable {visits rest : List Visit} {rounds : List Round} {sink : Sink}

/-- **All visits fall into rounds.** -/
theorem exists_rounds (visits : List Visit) : ∃ rounds rest, Rounds visits rounds rest := by
  induction visits with
  | nil =>
    exact ⟨[], [], rfl, List.forall_mem_nil _, List.forall_mem_nil _, List.forall_mem_nil _⟩
  | cons visit visits ih =>
    obtain ⟨rounds, rest, h⟩ := ih
    cases hok : visit.isOk with
    | true =>
      refine ⟨⟨[], visit⟩ :: rounds, rest, ?_, List.forall_mem_cons.mpr ⟨hok, h.last⟩,
        List.forall_mem_cons.mpr ⟨List.forall_mem_nil _, h.failed⟩, h.rest⟩
      rw [h.visits_eq]
      rfl
    | false =>
      cases rounds with
      | nil =>
        refine ⟨[], visit :: rest, ?_, h.last, h.failed, List.forall_mem_cons.mpr ⟨hok, h.rest⟩⟩
        rw [h.visits_eq]
        rfl
      | cons round rounds =>
        -- the visit belongs to the next round
        obtain ⟨hlast, hlater⟩ := List.forall_mem_cons.mp h.last
        obtain ⟨hfailed, hfailures⟩ := List.forall_mem_cons.mp h.failed
        refine ⟨⟨visit :: round.failed, round.last⟩ :: rounds, rest, ?_,
          List.forall_mem_cons.mpr ⟨hlast, hlater⟩,
          List.forall_mem_cons.mpr ⟨List.forall_mem_cons.mpr ⟨hok, hfailed⟩, hfailures⟩, h.rest⟩
        rw [h.visits_eq]
        rfl

theorem mem_of_mem_failed (h : Rounds visits rounds rest) {round : Round} (hround : round ∈ rounds)
    {visit : Visit} (hvisit : visit ∈ round.failed) : visit ∈ visits := by
  rw [h.visits_eq]
  exact List.mem_append_left _
    (List.mem_flatMap_of_mem hround (List.mem_append_left _ hvisit))

theorem mem_of_last (h : Rounds visits rounds rest) {round : Round} (hround : round ∈ rounds) :
    round.last ∈ visits := by
  rw [h.visits_eq]
  exact List.mem_append_left _
    (List.mem_flatMap_of_mem hround (List.mem_append_right _ List.mem_cons_self))

theorem mem_of_mem_rest (h : Rounds visits rounds rest) {visit : Visit} (hvisit : visit ∈ rest) :
    visit ∈ visits := by
  rw [h.visits_eq]
  exact List.mem_append_right _ hvisit

/-- There is no newline in what failed visits leave over. -/
theorem newline_notMem_leftover {failed : List Visit}
    (hlines : ∀ visit ∈ failed, visit.IsLine sink)
    (hfailed : ∀ visit ∈ failed, visit.isOk = false) :
    0x0A ∉ leftover failed := by
  intro hmem
  obtain ⟨visit, hvisit, hbyte⟩ := List.mem_flatMap.mp hmem
  obtain ⟨-, -, -, htext⟩ := (hlines visit hvisit).text_eq
  rcases (hlines visit hvisit).bytes_of_not_isOk (hfailed visit hvisit) with hnone | ⟨hhalf, -⟩
  · rw [hnone] at hbyte
    contradiction
  · exact htext (hhalf ▸ hbyte)

/-- **Between the newlines stand the pieces of the rounds**, and behind the last newline what was
left over since. -/
theorem splitOn_eq (h : Rounds visits rounds rest) (hlines : ∀ visit ∈ visits, visit.IsLine sink) :
    (leftover visits).splitOn 0x0A = rounds.map Round.piece ++ [leftover rest] := by
  have hrest : 0x0A ∉ leftover rest :=
    newline_notMem_leftover (fun visit hmem => hlines visit (h.mem_of_mem_rest hmem)) h.rest
  have hpieces : ∀ round ∈ rounds, leftover round.visits = round.piece ++ [0x0A] ∧
      0x0A ∉ round.piece := by
    intro round hround
    have hlast := hlines round.last (h.mem_of_last hround)
    have hfailed : 0x0A ∉ leftover round.failed := newline_notMem_leftover
      (fun visit hmem => hlines visit (h.mem_of_mem_failed hround hmem)) (h.failed round hround)
    obtain ⟨-, -, -, htext⟩ := hlast.text_eq
    refine ⟨?_, ?_⟩
    · rw [leftover, Round.visits, List.flatMap_append, List.flatMap_singleton,
        hlast.bytes_of_isOk (h.last round hround), ← List.append_assoc]
      rfl
    · rw [Round.piece, List.mem_append, not_or]
      exact ⟨hfailed, htext⟩
  have hbytes : leftover visits = rounds.flatMap (fun round => leftover round.visits) ++
      leftover rest := by
    rw [leftover, h.visits_eq, List.flatMap_append, List.flatMap_assoc]
    rfl
  rw [hbytes]
  clear hbytes h hlines
  induction rounds with
  | nil => exact List.splitOn_eq_singleton hrest
  | cons round rounds ih =>
    obtain ⟨hround, hpiece⟩ := hpieces round List.mem_cons_self
    rw [List.flatMap_cons, hround, List.append_assoc, List.append_assoc, List.singleton_append,
      List.splitOn_append_cons_self_of_not_mem hpiece,
      ih fun other hmem => hpieces other (List.mem_cons_of_mem _ hmem)]
    rfl

/-- The lines that were reported as written, in their order, are the last visits of the rounds. -/
theorem filter_isOk (h : Rounds visits rounds rest) :
    visits.filter Visit.isOk = rounds.map Round.last := by
  have hrest : rest.filter Visit.isOk = [] :=
    List.filter_eq_nil_iff.mpr fun visit hmem => by simp [h.rest visit hmem]
  rw [h.visits_eq, List.filter_append, hrest, List.append_nil]
  have hlast := h.last
  have hfailed := h.failed
  clear h
  induction rounds with
  | nil => rfl
  | cons round rounds ih =>
    have hnone : round.failed.filter Visit.isOk = [] :=
      List.filter_eq_nil_iff.mpr fun visit hmem => by
        simp [hfailed round List.mem_cons_self visit hmem]
    rw [List.flatMap_cons, List.filter_append, Round.visits, List.filter_append, hnone,
      ih (fun other hmem => hlast other (List.mem_cons_of_mem _ hmem))
        (fun other hmem => hfailed other (List.mem_cons_of_mem _ hmem))]
    simp [hlast round List.mem_cons_self]

end Rounds

namespace Session

variable {device : Sink → Device} {tasks : List (List SinkTask)} {log : List (Nat × SinkDeed)}
  {session : Session} {sink : Sink} {visits : List (Nat × Visit)}

/-- A visit belongs to a task of its thread. -/
theorem Told.exists_task (h : session.Told tasks sink visits)
    (hlength : session.users.length = tasks.length) {i : Nat} {visit : Visit}
    (hmem : (i, visit) ∈ visits) :
    ∃ own ∈ tasks, ∃ task ∈ own, task.useOf? sink = some visit.use := by
  have hlt : i < tasks.length := h.known _ hmem
  have huser : i < session.users.length := hlength ▸ hlt
  have htold := h.told (List.getElem?_eq_getElem huser) (List.getElem?_eq_getElem hlt)
  have hvisit : (visit.use, visit.outcome) ∈ visitsOf i visits :=
    List.mem_filterMap.mpr ⟨(i, visit), List.mem_filter.mpr ⟨hmem, by simp⟩, rfl⟩
  rw [htold, finished, List.mem_filterMap] at hvisit
  obtain ⟨⟨task, answer⟩, hzip, hpair⟩ := hvisit
  obtain ⟨use, huse, heq⟩ := Option.map_eq_some_iff.mp hpair
  obtain ⟨rfl, -⟩ := Prod.mk.inj heq
  exact ⟨tasks[i], List.getElem_mem hlt, task, (List.of_mem_zip hzip).1, huse⟩

/-- What stands in a sink to which only lines are written. -/
structure LinesUp (device : Sink → Device) (tasks : List (List SinkTask))
    (log : List (Nat × SinkDeed)) (session : Session) (sink : Sink)
    (visits : List (Nat × Visit)) (rounds : List Round) (rest : List Visit) : Prop where
  /-- The visits are all that was done under the lock, in the order in which it was taken. -/
  lockOrder : usesOf sink log = visits.flatMap entriesOf
  told : session.Told tasks sink visits
  lines : ∀ visit ∈ visits, ∃ line : String, visit.2.use = .line sink line ∧
    visit.2.text = Text.encode line ∧ 0x0A ∉ visit.2.text
  falls : Rounds (visits.map Prod.snd) rounds rest
  added : session.Added device sink (leftover (visits.map Prod.snd))
  /-- Between the newlines stand the pieces of the rounds. -/
  pieces : (leftover (visits.map Prod.snd)).splitOn 0x0A =
    rounds.map Round.piece ++ [leftover rest]
  /-- There is one round for each line that was reported as written. -/
  distinct : (visits.map Prod.snd).filter Visit.isOk = rounds.map Round.last
  /-- A line stands on its own exactly if nothing was left over in front of it. -/
  alone : ∀ round ∈ rounds, round.piece = round.last.text ↔
    ∀ visit ∈ round.failed, visit.bytes = []
  /-- What is left over is the text of a line whose newline was refused. -/
  halves : ∀ visit ∈ visits, visit.2.isOk = false → visit.2.bytes = [] ∨
    visit.2.bytes = visit.2.text ∧
      ∃ outcome, (visit.1, .breaksOff sink [0x0A] outcome) ∈ log
  /-- If no newline was refused then each line that was reported as written stands on its own. -/
  whole : (∀ entry ∈ log, ∀ outcome, entry.2 ≠ .breaksOff sink [0x0A] outcome) →
    (leftover (visits.map Prod.snd)).splitOn 0x0A =
      ((visits.map Prod.snd).filter Visit.isOk).map Visit.text ++ [[]]

/-- **What stands in a sink to which only lines are written**, whenever its lock is free: for each
line that was reported as written a line of its own in the order of the lock, with the texts in
front of it that were left over since the last one. -/
theorem linesUp_of_traces (htrace : Traces step deeds (ofTasks device tasks) log session)
    (hlines : ∀ own ∈ tasks, ∀ task ∈ own, ∀ use, task.useOf? sink = some use →
      ∃ line : String, use = .line sink line ∧ '\n' ∉ line.toList)
    (hfree : session.IsFree sink) :
    ∃ visits rounds rest, session.LinesUp device tasks log sink visits rounds rest := by
  obtain ⟨hfollows, -⟩ := traded_of_traces htrace sink
  obtain ⟨visits, hlog, htold, hadded⟩ := visits_of_traces htrace hfree
  obtain ⟨rounds, rest, hrounds⟩ := Rounds.exists_rounds (visits.map Prod.snd)
  have hvisits : ∀ visit ∈ visits, visit.2.IsLine sink := by
    rintro ⟨i, visit⟩ hmem
    obtain ⟨own, hown, task, htask, huse⟩ := htold.exists_task hfollows.length_eq hmem
    exact hlines own hown task htask visit.use huse
  have hall : ∀ visit ∈ visits.map Prod.snd, visit.IsLine sink := by
    intro visit hmem
    obtain ⟨entry, hentry, rfl⟩ := List.mem_map.mp hmem
    exact hvisits entry hentry
  have hhalves : ∀ visit ∈ visits, visit.2.isOk = false → visit.2.bytes = [] ∨
      visit.2.bytes = visit.2.text ∧
        ∃ outcome, (visit.1, .breaksOff sink [0x0A] outcome) ∈ log := by
    intro visit hmem hnot
    refine ((hvisits visit hmem).bytes_of_not_isOk hnot).imp_right fun ⟨hhalf, outcome, hdeed⟩ =>
      ⟨hhalf, outcome, ?_⟩
    -- what the visit did is on record
    have hentry : (visit.1, .breaksOff sink [0x0A] outcome) ∈ usesOf sink log := by
      rw [hlog]
      exact List.mem_flatMap_of_mem hmem (List.mem_map_of_mem hdeed)
    exact (List.mem_filter.mp hentry).1
  have hpieces := hrounds.splitOn_eq hall
  have hbytes : (visits.flatMap fun visit => visit.2.written.flatten) =
      leftover (visits.map Prod.snd) := by
    rw [leftover, List.flatMap_map]
    rfl
  refine ⟨visits, rounds, rest, hlog, htold,
    fun visit hmem => (hvisits visit hmem).text_eq, hrounds, hbytes ▸ hadded, hpieces,
    hrounds.filter_isOk, fun round _ => round.piece_eq_text_iff, hhalves, fun hrefused => ?_⟩
  have hnothing : ∀ failed : List Visit, (∀ visit ∈ failed, visit ∈ visits.map Prod.snd) →
      (∀ visit ∈ failed, visit.isOk = false) → ∀ visit ∈ failed, visit.bytes = [] := by
    intro failed hsubset hfailed visit hmem
    obtain ⟨entry, hentry, rfl⟩ := List.mem_map.mp (hsubset visit hmem)
    rcases hhalves entry hentry (hfailed _ hmem) with hnone | ⟨-, outcome, hdeed⟩
    · exact hnone
    · exact absurd rfl (hrefused _ hdeed outcome)
  have hrest : leftover rest = [] := List.flatMap_eq_nil_iff.mpr
    (hnothing rest (fun _ => hrounds.mem_of_mem_rest) hrounds.rest)
  rw [hpieces, hrest, hrounds.filter_isOk, List.map_map]
  congr 1
  refine List.map_congr_left fun round hround => ?_
  exact round.piece_eq_text_iff.mpr (hnothing round.failed
    (fun _ => hrounds.mem_of_mem_failed hround) (hrounds.failed round hround))

/-- Two threads write a line each to the log of the resolvers, and the newline of the first is
refused. -/
theorem linesUp_of_traces_refused_newline :
    let device : Sink → Device := fun _ =>
      { refuses := fun attempts _ => if attempts = 1 then some (.system 28) else none }
    let tasks : List (List SinkTask) :=
      [[.uses (.line .resolverLog "a, 1"), .uses (.line .resolverLog "c, 3")],
        [.uses (.line .resolverLog "b, 2")]]
    ∃ log session visits rounds rest, Traces step deeds (ofTasks device tasks) log session ∧
      session.sinks.contents .resolverLog = Text.encode "a, 1b, 2\nc, 3\n" ∧
      session.LinesUp device tasks log .resolverLog visits rounds rest := by
  intro device tasks
  have hfollow : (Path.follow step [0, 0, 0, 1, 1, 1, 1, 0, 0, 0, 0] (ofTasks device tasks)).any
      (fun session => decide (session.sinks.contents .resolverLog = Text.encode "a, 1b, 2\nc, 3\n" ∧
        ∀ user ∈ session.users, user.holds ≠ some .resolverLog)) = true := by
    decide +kernel
  obtain ⟨session, hsession, hall⟩ := (Option.any_eq_true _ _).mp hfollow
  obtain ⟨hcontents, hfree⟩ := of_decide_eq_true hall
  obtain ⟨path, hpath⟩ := Path.of_follow hsession
  have htrace := hpath.traces deeds
  have hlines : ∀ own ∈ tasks, ∀ task ∈ own, ∀ use, task.useOf? .resolverLog = some use →
      ∃ line : String, use = .line .resolverLog line ∧ '\n' ∉ line.toList := by
    intro own hown task htask use huse
    have hall : task ∈ ["a, 1", "c, 3", "b, 2"].map fun line => .uses (.line .resolverLog line) :=
      List.mem_flatten.mpr ⟨own, hown, htask⟩
    obtain ⟨line, hmem, rfl⟩ := List.mem_map.mp hall
    obtain rfl := Option.some.inj huse
    have hplain : ∀ line ∈ ["a, 1", "c, 3", "b, 2"], '\n' ∉ line.toList := by decide
    exact ⟨line, rfl, hplain line hmem⟩
  obtain ⟨visits, rounds, rest, hup⟩ := linesUp_of_traces htrace hlines hfree
  exact ⟨_, session, visits, rounds, rest, htrace, hcontents, hup⟩

/-- **A line that was reported as written need not stand on its own.** The newline behind the text
of another thread was refused, and the line comes out behind that text. -/
theorem reported_line_is_glued :
    let device : Sink → Device := fun _ =>
      { refuses := fun attempts _ => if attempts = 1 then some (.system 28) else none }
    let tasks : List (List SinkTask) :=
      [[.uses (.line .resolverLog "a, 1")], [.uses (.line .resolverLog "b, 2")]]
    ∃ log session, Traces step deeds (ofTasks device tasks) log session ∧
      session.users.map SinkUser.outcomes =
        [[.returned (.error (.write .resolverLog (.system 28)))], [.returned (.ok ())]] ∧
      session.sinks.contents .resolverLog = Text.encode "a, 1b, 2\n" ∧
      Text.encode "b, 2" ∉ (session.sinks.contents .resolverLog).splitOn 0x0A := by
  intro device tasks
  have hfollow : (Path.follow step [0, 0, 0, 1, 1, 1, 1] (ofTasks device tasks)).any
      (fun session => decide (session.users.map SinkUser.outcomes =
          [[.returned (.error (.write .resolverLog (.system 28)))], [.returned (.ok ())]] ∧
        session.sinks.contents .resolverLog = Text.encode "a, 1b, 2\n" ∧
        Text.encode "b, 2" ∉ (session.sinks.contents .resolverLog).splitOn 0x0A)) = true := by
    decide +kernel
  obtain ⟨session, hsession, hall⟩ := (Option.any_eq_true _ _).mp hfollow
  obtain ⟨houtcomes, hcontents, hglued⟩ := of_decide_eq_true hall
  obtain ⟨path, hpath⟩ := Path.of_follow hsession
  exact ⟨_, session, hpath.traces deeds, houtcomes, hcontents, hglued⟩

end Session

end HostLookup
