import HostLookup.Proofs.Sink.Course
import HostLookup.Proofs.Sink.Released

/-!
# Sinks from their opening to their release

As long as nobody releases the sinks, a line changes only the one that it goes to, and leaves
everything there but the bytes as it was. The release then comes to every sink in its turn, whatever
the flushes before it have answered.

* **`Device.Obliging`**: a device that refuses neither a chunk nor a flush has everything in the end
  (**`Device.Obliging.flush`**).
* **`Sinks.Kept.receive`**: what has become of sinks that were used for lines only. A line for such
  a device is appended, whatever the other sinks are like.
* **`Sinks.releaseAll_eq`**, **`Sinks.destroy_eq`**: what a release leaves behind, and its answer.
-/

namespace HostLookup

namespace Device

variable {d d' : Device} {chunk : Bytes} {result : Except IoFailure Unit}

/-- The device refuses neither a chunk nor a flush. -/
structure Obliging (d : Device) : Prop where
  willing : d.Willing
  flushes : d.refusesFlush = none

/-! ## What writing leaves alone

Whether a device refuses its flush is settled when it is made, and how often it was flushed is
counted by `Device.flush` alone. So neither changes while lines are written. -/

theorem refusesFlush_accept (d : Device) (chunk : Bytes) :
    (d.accept chunk).2.refusesFlush = d.refusesFlush := by
  unfold accept
  split
  · rfl
  · split <;> rfl

theorem refusesFlush_emptyBuffer (d : Device) : d.emptyBuffer.2.refusesFlush = d.refusesFlush := by
  unfold emptyBuffer
  split
  · rfl
  · next waiting _ =>
    have haccept := refusesFlush_accept d waiting.reverse.flatten
    split <;> simp_all only

theorem refusesFlush_write (d : Device) (chunk : Bytes) :
    (d.write chunk).2.refusesFlush = d.refusesFlush := by
  unfold write
  split
  · exact refusesFlush_accept d chunk
  · next waiting _ =>
    -- making room empties the buffer or does nothing
    have hroom : (if waitingBytes waiting + chunk.length ≤ bufferSize then (.ok (), d)
        else d.emptyBuffer : Except IoFailure Unit × Device).2.refusesFlush = d.refusesFlush := by
      split
      · rfl
      · exact refusesFlush_emptyBuffer d
    split
    · next hmade =>
      rw [hmade] at hroom
      exact hroom
    · next roomy hmade =>
      rw [hmade] at hroom
      split
      · exact (refusesFlush_accept roomy chunk).trans hroom
      · exact hroom

/-- However far the chunks get, the policy of the device and the count of its flushes stay. -/
theorem kept_of_writeAll (d : Device) (chunks : List Bytes) :
    (d.writeAll chunks).2.refusesFlush = d.refusesFlush ∧
      (d.writeAll chunks).2.flushes = d.flushes := by
  -- the induction follows the chunks, as far as they are accepted
  induction chunks generalizing d with
  | nil => exact ⟨rfl, rfl⟩
  | cons chunk chunks ih =>
    have hpolicy := refusesFlush_write d chunk
    rcases hwrite : d.write chunk with ⟨failure | ⟨⟨⟩⟩, d₁⟩
    · rw [hwrite] at hpolicy
      simp only [writeAll, hwrite]
      exact ⟨hpolicy, (written_of_write hwrite).2.1⟩
    · rw [hwrite] at hpolicy
      simp only [writeAll, hwrite]
      obtain ⟨hpolicy', hflushes⟩ := ih d₁
      exact ⟨hpolicy'.trans hpolicy, hflushes.trans (written_of_write hwrite).2.1⟩

namespace Obliging

/-- All chunks arrive at an obliging device, and it stays one. -/
theorem writeAll (h : d.Obliging) (chunks : List Bytes) :
    ∃ d', d.writeAll chunks = (.ok (), d') ∧ d'.Obliging ∧
      d'.written = d.written ++ chunks.flatten := by
  obtain ⟨d', heq, hwilling, hwritten⟩ := written_writeAll h.willing chunks
  have hpolicy := (kept_of_writeAll d chunks).1
  rw [heq] at hpolicy
  exact ⟨d', heq, ⟨hwilling, hpolicy.trans h.flushes⟩, hwritten⟩

/-- **A device that refuses nothing has everything** when it has been flushed. -/
theorem flush (h : d.Obliging) : d.flush.1 = .ok () ∧ d.flush.2.contents = d.written := by
  have hcounted : Willing { d with flushes := d.flushes + 1 } := h.willing
  obtain ⟨emptied, hempty, -⟩ := emptyBuffer_of_willing hcounted
  have hpolicy : emptied.refusesFlush = none := by
    have hkept := refusesFlush_emptyBuffer { d with flushes := d.flushes + 1 }
    rw [hempty] at hkept
    exact hkept.trans h.flushes
  have hflush : d.flush = (.ok (), emptied) := by
    simp only [Device.flush, hempty, hpolicy]
  obtain ⟨hwritten, -, -, hnothing⟩ := written_of_flush hflush
  rw [hflush]
  refine ⟨rfl, ?_⟩
  have hall : emptied.contents ++ emptied.waiting = emptied.written := rfl
  rwa [hnothing rfl, List.append_nil, hwritten] at hall

end Obliging

theorem obliging_file : file.Obliging :=
  ⟨fun _ _ => rfl, rfl⟩

/-- What a flush answers does not depend on the time. -/
theorem flush_tick (d : Device) (clock : Nat) : { d with clock := clock }.flush.1 = d.flush.1 := by
  simp only [Device.flush, emptyBuffer, accept]
  cases d.buffer with
  | none => cases d.refusesFlush <;> rfl
  | some waiting =>
    cases hempty : waiting.reverse.flatten.isEmpty with
    | true => cases d.refusesFlush <;> simp [hempty]
    | false =>
      cases hrefuses : d.refuses d.attempts waiting.reverse.flatten with
      | some failure => simp [hempty, hrefuses]
      | none => cases d.refusesFlush <;> simp [hempty, hrefuses]

end Device

namespace Sinks

variable {sinks after : Sinks} {sink other : Sink} {line : String}

/-! ## Lines

Every statement is about all four sinks at once, since a line that fails at one of them must not be
felt at another. -/

/-- A line changes at most the device that it goes to. -/
theorem kept_of_writeLine (sinks : Sinks) (sink : Sink) (line : String) :
    (∀ other, other ≠ sink → (sinks.writeLine sink line).2.get other = sinks.get other) ∧
      (sinks.writeLine sink line).2.destroyed = sinks.destroyed ∧
      ((sinks.writeLine sink line).2.get sink).device.flushes =
        (sinks.get sink).device.flushes := by
  unfold writeLine use
  split
  · exact ⟨fun _ _ => rfl, rfl, rfl⟩
  · rcases hact : sinks.actOn sink fun device => device.writeAll (lineChunks line) with
      ⟨result, after⟩
    obtain ⟨device, hdevice, hget, hothers, hmark⟩ := eq_of_actOn hact
    have hflushes := (Device.kept_of_writeAll
      { (sinks.get sink).device with clock := sinks.clock } (lineChunks line)).2
    rw [hdevice] at hflushes
    have hsame : (after.get sink).device.flushes = (sinks.get sink).device.flushes := by
      rw [hget]
      exact hflushes
    cases result <;> exact ⟨hothers, hmark, hsame⟩

/-- **A line that goes to an obliging device is appended**, whatever the other sinks are like. -/
theorem written_of_obliging (hlive : (sinks.get sink).released = false)
    (hobliging : (sinks.get sink).device.Obliging) (line : String) :
    ((sinks.writeLine sink line).2.get sink).device.Obliging ∧
      (sinks.writeLine sink line).2.written sink = sinks.written sink ++ lineBytes line := by
  have htick : Device.Obliging { (sinks.get sink).device with clock := sinks.clock } :=
    ⟨hobliging.willing, hobliging.flushes⟩
  obtain ⟨device, hall, hkept, hwritten⟩ := htick.writeAll (lineChunks line)
  rcases hact : sinks.actOn sink fun device => device.writeAll (lineChunks line) with
    ⟨result, after⟩
  obtain ⟨device', hdevice, hget, -, -⟩ := eq_of_actOn hact
  obtain ⟨rfl, rfl⟩ := Prod.mk.inj (hall.symm.trans hdevice)
  have hline : (sinks.writeLine sink line).2 = after := by
    simp only [writeLine, use, hlive, Bool.false_eq_true, ↓reduceIte, hact]
  rw [hline, written, hget]
  exact ⟨hkept, hwritten⟩

/-- What has become of sinks that were used for nothing but lines: none was released or flushed, and
those that refuse nothing have got these bytes. -/
structure Kept (start : Sinks) (bytes : Sink → Bytes) (now : Sinks) : Prop where
  mark : now.destroyed = start.destroyed
  released : ∀ sink, (now.get sink).released = (start.get sink).released
  flushes : ∀ sink, (now.get sink).device.flushes = (start.get sink).device.flushes
  got : ∀ sink, (start.get sink).released = false → (start.get sink).device.Obliging →
    (now.get sink).device.Obliging ∧ now.written sink = start.written sink ++ bytes sink

namespace Kept

variable {start : Sinks} {bytes : Sink → Bytes}

/-- Sinks to which nothing has been written. -/
theorem refl (start : Sinks) : Kept start (fun _ => []) start where
  mark := rfl
  released _ := rfl
  flushes _ := rfl
  got _ _ hobliging := ⟨hobliging, (List.append_nil _).symm⟩

/-- A line goes to the sink itself and is appended, or to another one and is not noticed. -/
theorem got_receive (h : Kept start bytes sinks) (line : Option (Sink × String))
    (hlive : (start.get sink).released = false) (hobliging : (start.get sink).device.Obliging) :
    ((sinks.receive line).get sink).device.Obliging ∧
      (sinks.receive line).written sink =
        start.written sink ++ (bytes sink ++ bytesFor sink line) := by
  obtain ⟨hnow, hwritten⟩ := h.got sink hlive hobliging
  rw [← List.append_assoc, ← hwritten]
  cases line with
  | none => exact ⟨hnow, (List.append_nil _).symm⟩
  | some line =>
    obtain ⟨target, text⟩ := line
    -- the line was meant for this sink or for another
    by_cases htarget : target = sink
    · subst htarget
      have hthere := (h.released target).trans hlive
      simpa [receive, bytesFor] using written_of_obliging hthere hnow text
    · have hsame := (kept_of_writeLine sinks target text).1 sink (Ne.symm htarget)
      rw [receive, bytesFor, if_neg htarget, List.append_nil, written, hsame]
      exact ⟨hnow, rfl⟩

/-- **A line more.** -/
theorem receive (h : Kept start bytes sinks) (line : Option (Sink × String)) :
    Kept start (fun sink => bytes sink ++ bytesFor sink line) (sinks.receive line) where
  mark := by
    rw [← h.mark]
    cases line with
    | none => rfl
    | some line => exact (kept_of_writeLine sinks line.1 line.2).2.1
  released sink := (released_receive sinks line sink).trans (h.released sink)
  flushes sink := by
    rw [← h.flushes]
    cases line with
    | none => rfl
    | some line =>
      obtain ⟨hothers, -, hflushes⟩ := kept_of_writeLine sinks line.1 line.2
      by_cases hsink : sink = line.1
      · subst hsink
        exact hflushes
      · exact congrArg (fun outlet => outlet.device.flushes) (hothers sink hsink)
  got _ hlive hobliging := h.got_receive line hlive hobliging

end Kept

/-! ## The release

A sink is *retired* when it was taken away and flushed. The flush of a sink is answered by its
device alone, so all answers can be told from the sinks as they were before the release. -/

/-- What the flush of a sink would answer. -/
def flushed (sinks : Sinks) (sink : Sink) : Except SinkError Unit :=
  (sinks.get sink).device.flush.1.mapError (.write sink)

/-- A sink that was taken away and flushed once. -/
structure Retires (before after : Outlet) : Prop where
  released : after.released = true
  flush : ∃ clock, after.device = { before.device with clock := clock }.flush.2

/-- A sink that is retired was flushed once more. -/
theorem Retires.flushes {before after : Outlet} (h : Retires before after) :
    after.device.flushes = before.device.flushes + 1 := by
  obtain ⟨clock, hdevice⟩ := h.flush
  rw [hdevice]
  exact (Device.written_of_flush rfl).2.1

/-- What was written to an obliging device has arrived. -/
theorem Retires.contents {before after : Outlet} (h : Retires before after)
    (hobliging : before.device.Obliging) : after.device.contents = before.device.written := by
  obtain ⟨clock, hdevice⟩ := h.flush
  have htick : Device.Obliging { before.device with clock := clock } :=
    ⟨hobliging.willing, hobliging.flushes⟩
  rw [hdevice]
  exact htick.flush.2

/-- One sink in its turn. -/
theorem retires_of_flush {answer : Except SinkError Unit}
    (hflush : (sinks.release sink).flush sink = (answer, after)) :
    answer = sinks.flushed sink ∧ Retires (sinks.get sink) (after.get sink) ∧
      (∀ other, other ≠ sink → after.get other = sinks.get other) ∧
      after.destroyed = sinks.destroyed := by
  have hreleased : (sinks.release sink).get sink = { sinks.get sink with released := true } :=
    get_set_self _ _ _
  have hanswer := Device.flush_tick (sinks.get sink).device (sinks.release sink).clock
  rcases hact : (sinks.release sink).actOn sink Device.flush with ⟨result, acted⟩
  obtain ⟨device, hdevice, hget, hothers, hmark⟩ := eq_of_actOn hact
  rw [hreleased] at hdevice hget
  rw [hdevice] at hanswer
  have heq : answer = result.mapError (.write sink) ∧ after = acted := by
    rw [flush, hact] at hflush
    cases result with
    | ok => exact ⟨(Prod.mk.inj hflush).1.symm, (Prod.mk.inj hflush).2.symm⟩
    | error => exact ⟨(Prod.mk.inj hflush).1.symm, (Prod.mk.inj hflush).2.symm⟩
  obtain ⟨rfl, rfl⟩ := heq
  refine ⟨by rw [flushed, ← hanswer], ⟨by rw [hget], (sinks.release sink).clock, ?_⟩,
    fun other hne => ?_, hmark.trans (destroyed_set _ _ _)⟩
  · rw [hget, hdevice]
  · rw [hothers other hne]
    exact get_set_of_ne _ _ hne

/-- Which error comes first does not depend on how the results are grouped. -/
theorem firstError_assoc (a b c : Except SinkError Unit) :
    firstError (firstError a b) c = firstError a (firstError b c) := by
  cases a <;> rfl

theorem verdict_cons (first : Except SinkError Unit) (results : List (Except SinkError Unit)) :
    verdict (first :: results) = firstError first (verdict results) := by
  rcases first with error | ⟨⟨⟩⟩ <;> rfl

/-- **Every sink in its turn**: the release comes to each of them, and its answer is the first flush
that fails. -/
theorem releaseAll_eq {order : List Sink} (hnodup : order.Nodup)
    {result answer : Except SinkError Unit}
    (hrelease : sinks.releaseAll result order = (answer, after)) :
    answer = firstError result (verdict (order.map sinks.flushed)) ∧
      (∀ sink ∈ order, Retires (sinks.get sink) (after.get sink)) ∧
      (∀ sink, sink ∉ order → after.get sink = sinks.get sink) ∧
      after.destroyed = sinks.destroyed := by
  -- induction on the sinks that are left: each is retired as it was found, since the turns before
  -- it have not touched it
  induction order generalizing sinks result with
  | nil =>
    obtain ⟨rfl, rfl⟩ := Prod.mk.inj hrelease
    refine ⟨?_, List.forall_mem_nil _, fun _ _ => rfl, rfl⟩
    rcases result with error | ⟨⟨⟩⟩ <;> rfl
  | cons sink later ih =>
    obtain ⟨hnot, hlater⟩ := List.nodup_cons.mp hnodup
    rcases hflush : (sinks.release sink).flush sink with ⟨answered, mid⟩
    obtain ⟨rfl, hretires, hothers, hmark⟩ := retires_of_flush hflush
    rw [releaseAll, hflush] at hrelease
    obtain ⟨hanswer, hall, hleft, hmark'⟩ := ih hlater hrelease
    -- the sinks to come are still as they were
    have hsame : later.map mid.flushed = later.map sinks.flushed := by
      refine List.map_congr_left fun other hmem => ?_
      rw [flushed, hothers other fun heq => hnot (heq ▸ hmem), ← flushed]
    refine ⟨?_, fun other hmem => ?_, fun other hother => ?_, hmark'.trans hmark⟩
    · rw [hanswer, hsame, firstError_assoc, List.map_cons, verdict_cons]
    · rcases List.mem_cons.mp hmem with rfl | hmem
      · rwa [hleft _ hnot]
      · have hne : other ≠ sink := fun heq => hnot (heq ▸ hmem)
        rw [← hothers other hne]
        exact hall other hmem
    · rw [hleft other (List.not_mem_of_not_mem_cons hother)]
      exact hothers other (List.ne_of_not_mem_cons hother)

/-- **The release of sinks that nobody has claimed before.** -/
theorem destroy_eq {answer : Except SinkError Unit} (hfirst : sinks.destroyed = false)
    (hdestroy : sinks.destroy = (answer, after)) :
    answer = verdict (Sink.all.map sinks.flushed) ∧ after.destroyed = true ∧
      ∀ sink, Retires (sinks.get sink) (after.get sink) := by
  have hsame : ∀ sink, { sinks with destroyed := true }.get sink = sinks.get sink := by
    intro sink
    cases sink <;> rfl
  have hclaim : sinks.claimRelease = (.ok (), { sinks with destroyed := true }) := by
    rw [claimRelease, if_neg (by simp [hfirst])]
  rw [destroy, hclaim] at hdestroy
  obtain ⟨hanswer, hall, -, hmark⟩ := releaseAll_eq (by decide) hdestroy
  have hanswers : Sink.all.map { sinks with destroyed := true }.flushed =
      Sink.all.map sinks.flushed := by
    refine List.map_congr_left fun sink _ => ?_
    rw [flushed, hsame, ← flushed]
  refine ⟨hanswer.trans (congrArg verdict hanswers), hmark, fun sink => ?_⟩
  rw [← hsame sink]
  exact hall sink sink.mem_all

end Sinks

end HostLookup
