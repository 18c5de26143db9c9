import HostLookup.Sink.Basic

/-!
# What was written to a sink

A device behind a buffer has accepted only a part of what was written to it; the rest waits in the
buffer. `Device.written` is both together. A chunk is appended to it or refused as a whole, whether
it lands in the buffer, empties it or goes past it, and a flush changes nothing in it:

* **`Device.written_of_write`**: what a write adds, for every device.
* **`Device.written_of_flush`**: a flush loses nothing, and leaves nothing waiting if it succeeds.
* **`Sinks.written_writeLine`**, **`Sinks.written_receive`**: as long as the device refuses nothing,
  a line is appended to the one sink that it goes to.
-/

namespace HostLookup

namespace Device

/-- What waits in the buffer of a device. -/
def waiting (d : Device) : Bytes :=
  (d.buffer.getD []).reverse.flatten

/-- All that was written to a device, with what waits in its buffer. -/
def written (d : Device) : Bytes :=
  d.contents ++ (d.buffer.getD []).reverse.flatten

/-- The device refuses no chunk. -/
def Willing (d : Device) : Prop :=
  ∀ attempts chunk, d.refuses attempts chunk = none

variable {d d' : Device} {chunk : Bytes} {result : Except IoFailure Unit}

theorem flatten_of_waitingBytes {waiting : List Bytes} (hzero : waitingBytes waiting = 0) :
    waiting.reverse.flatten = [] := by
  refine List.flatten_eq_nil_iff.mpr fun chunk hmem => ?_
  rw [List.mem_reverse] at hmem
  induction waiting with
  | nil => contradiction
  | cons first rest ih =>
    have hsum : first.length + waitingBytes rest = 0 := hzero
    rcases List.mem_cons.mp hmem with rfl | hrest
    · exact List.eq_nil_of_length_eq_zero (by omega)
    · exact ih (by omega) hrest

/-- What of a chunk has arrived, given the answer to it. -/
def landed (result : Except IoFailure Unit) (chunk : Bytes) : Bytes :=
  match result with
  | .ok () => chunk
  | .error _ => []

/-- A chunk is accepted as a whole or not at all. -/
theorem contents_of_accept (haccept : d.accept chunk = (result, d')) :
    d'.contents = d.contents ++ landed result chunk ∧ d'.buffer = d.buffer ∧
      d'.flushes = d.flushes := by
  unfold accept at haccept
  split at haccept
  · next hempty =>
    obtain ⟨rfl, rfl⟩ := Prod.mk.inj haccept
    exact ⟨by rw [landed, List.isEmpty_iff.mp hempty, List.append_nil], rfl, rfl⟩
  · split at haccept
    · obtain ⟨rfl, rfl⟩ := Prod.mk.inj haccept
      exact ⟨(List.append_nil _).symm, rfl, rfl⟩
    · obtain ⟨rfl, rfl⟩ := Prod.mk.inj haccept
      exact ⟨by simp [contents, landed], rfl, rfl⟩

/-- Emptying the buffer changes nothing in what was written, whether it succeeds or not. -/
theorem written_of_emptyBuffer (hempty : d.emptyBuffer = (result, d')) :
    d'.written = d.written ∧ d'.flushes = d.flushes ∧ d'.buffer.isSome = d.buffer.isSome ∧
      (result = .ok () → d'.waiting = []) := by
  unfold emptyBuffer at hempty
  split at hempty
  · next hnone =>
    obtain ⟨rfl, rfl⟩ := Prod.mk.inj hempty
    exact ⟨rfl, rfl, rfl, fun _ => by rw [waiting, hnone]; rfl⟩
  · next waiting hsome =>
    split at hempty
    · next failure refused haccept =>
      obtain ⟨hcontents, hbuffer, hflushes⟩ := contents_of_accept haccept
      obtain ⟨rfl, rfl⟩ := Prod.mk.inj hempty
      refine ⟨?_, hflushes, by rw [hbuffer], nofun⟩
      rw [written, written, hcontents, hbuffer, landed, List.append_nil]
    · next emptied haccept =>
      obtain ⟨hcontents, -, hflushes⟩ := contents_of_accept haccept
      obtain ⟨rfl, rfl⟩ := Prod.mk.inj hempty
      refine ⟨?_, hflushes, by rw [hsome]; rfl, fun _ => rfl⟩
      show emptied.contents ++ _ = d.contents ++ _
      rw [hcontents, hsome]
      simp [landed]

/-- **A chunk is appended to what was written, or refused as a whole.** -/
theorem written_of_write (hwrite : d.write chunk = (result, d')) :
    d'.written = d.written ++ landed result chunk ∧ d'.flushes = d.flushes ∧
      d'.buffer.isSome = d.buffer.isSome := by
  unfold write at hwrite
  split at hwrite
  · next hnone =>
    obtain ⟨hcontents, hbuffer, hflushes⟩ := contents_of_accept hwrite
    refine ⟨?_, hflushes, by rw [hbuffer]⟩
    rw [written, written, hcontents, hbuffer, hnone]
    simp
  · next waiting hsome =>
    -- room is made first if the chunk does not fit
    have hroom : ∀ {made d₁}, (if waitingBytes waiting + chunk.length ≤ bufferSize then (.ok (), d)
        else d.emptyBuffer : Except IoFailure Unit × Device) = (made, d₁) →
        d₁.written = d.written ∧ d₁.flushes = d.flushes ∧ d₁.buffer.isSome = d.buffer.isSome ∧
        (made = .ok () → bufferSize ≤ chunk.length →
          d₁.waiting = []) := by
      intro made d₁ hmade
      split at hmade
      · next hfits =>
        obtain ⟨rfl, rfl⟩ := Prod.mk.inj hmade
        refine ⟨rfl, rfl, rfl, fun _ hlarge => ?_⟩
        have hzero : waitingBytes waiting = 0 := by omega
        rw [Device.waiting, hsome]
        exact flatten_of_waitingBytes hzero
      · obtain ⟨hwritten, hflushes, hkept, hnothing⟩ := written_of_emptyBuffer hmade
        exact ⟨hwritten, hflushes, hkept, fun hok _ => hnothing hok⟩
    split at hwrite
    · next failure refused hmade =>
      obtain ⟨hwritten, hflushes, hkept, -⟩ := hroom hmade
      obtain ⟨rfl, rfl⟩ := Prod.mk.inj hwrite
      exact ⟨by rw [hwritten, landed, List.append_nil], hflushes, hkept⟩
    · next roomy hmade =>
      obtain ⟨hwritten, hflushes, hkept, hnothing⟩ := hroom hmade
      split at hwrite
      · next hlarge =>
        obtain ⟨hcontents, hbuffer, hflushes'⟩ := contents_of_accept hwrite
        refine ⟨?_, hflushes'.trans hflushes, by rw [hbuffer, hkept]⟩
        have hroomy : (roomy.buffer.getD []).reverse.flatten = [] := hnothing rfl hlarge
        rw [← hwritten, written, written, hcontents, hbuffer, hroomy]
        simp
      · obtain ⟨rfl, rfl⟩ := Prod.mk.inj hwrite
        rw [hsome] at hkept
        obtain ⟨gathered, hgathered⟩ := Option.isSome_iff_exists.mp hkept
        refine ⟨?_, hflushes, by rw [hsome, hgathered]; rfl⟩
        rw [← hwritten]
        show roomy.contents ++ _ = (roomy.contents ++ _) ++ chunk
        rw [hgathered]
        simp

/-- **A flush loses nothing**, and after one that succeeds nothing waits. -/
theorem written_of_flush (hflush : d.flush = (result, d')) :
    d'.written = d.written ∧ d'.flushes = d.flushes + 1 ∧ d'.buffer.isSome = d.buffer.isSome ∧
      (result = .ok () → d'.waiting = []) := by
  unfold flush at hflush
  split at hflush
  · next failure refused hempty =>
    obtain ⟨hwritten, hflushes, hkept, -⟩ := written_of_emptyBuffer hempty
    obtain ⟨rfl, rfl⟩ := Prod.mk.inj hflush
    exact ⟨hwritten, hflushes, hkept, nofun⟩
  · next emptied hempty =>
    obtain ⟨hwritten, hflushes, hkept, hnothing⟩ := written_of_emptyBuffer hempty
    split at hflush
    · obtain ⟨rfl, rfl⟩ := Prod.mk.inj hflush
      exact ⟨hwritten, hflushes, hkept, nofun⟩
    · obtain ⟨rfl, rfl⟩ := Prod.mk.inj hflush
      exact ⟨hwritten, hflushes, hkept, hnothing⟩

/-- If nothing waits, a flush leaves it so. -/
theorem waiting_flush (hnothing : d.waiting = []) : d.flush.2.waiting = [] := by
  have hempty : ∀ d : Device, d.waiting = [] → d.emptyBuffer.1 = .ok () ∧
      d.emptyBuffer.2.waiting = [] := by
    intro d hnothing
    unfold emptyBuffer
    split
    · exact ⟨rfl, hnothing⟩
    · next gathered hsome =>
      have hgathered : gathered.reverse.flatten = [] := by
        rw [waiting, hsome] at hnothing
        exact hnothing
      rw [hgathered, accept_nil]
      exact ⟨rfl, rfl⟩
  obtain ⟨hok, hleft⟩ := hempty { d with flushes := d.flushes + 1 } hnothing
  rcases hemptied : { d with flushes := d.flushes + 1 }.emptyBuffer with ⟨result, emptied⟩
  rw [hemptied] at hok hleft
  obtain rfl : result = .ok () := hok
  simp only [flush, hemptied]
  split <;> exact hleft

/-- Without a buffer, what was written has arrived. -/
theorem written_of_unbuffered (hbuffer : d.buffer.isSome = false) : d.written = d.contents := by
  rw [written, Option.isSome_eq_false_iff.mp hbuffer |> Option.isNone_iff_eq_none.mp]
  exact List.append_nil _

/-! ## Devices that refuse nothing

With such devices writing becomes appending, and the sinks of a calm run are told by the lines that
were written. -/

theorem accept_of_willing (h : d.Willing) (chunk : Bytes) :
    ∃ d', d.accept chunk = (.ok (), d') ∧ d'.Willing := by
  unfold accept
  split
  · exact ⟨d, rfl, h⟩
  · rw [h]
    exact ⟨_, rfl, h⟩

theorem emptyBuffer_of_willing (h : d.Willing) :
    ∃ d', d.emptyBuffer = (.ok (), d') ∧ d'.Willing := by
  unfold emptyBuffer
  split
  · exact ⟨d, rfl, h⟩
  · next waiting _ =>
    obtain ⟨d', heq, hwilling⟩ := accept_of_willing h waiting.reverse.flatten
    rw [heq]
    exact ⟨_, rfl, hwilling⟩

theorem write_of_willing (h : d.Willing) (chunk : Bytes) :
    ∃ d', d.write chunk = (.ok (), d') ∧ d'.Willing := by
  unfold write
  split
  · exact accept_of_willing h chunk
  · next waiting _ =>
    obtain ⟨d₁, heq, hwilling⟩ : ∃ d₁, (if waitingBytes waiting + chunk.length ≤ bufferSize
        then (.ok (), d) else d.emptyBuffer : Except IoFailure Unit × Device) = (.ok (), d₁) ∧
        d₁.Willing := by
      split
      · exact ⟨d, rfl, h⟩
      · exact emptyBuffer_of_willing h
    simp only [heq]
    split
    · exact accept_of_willing hwilling chunk
    · exact ⟨_, rfl, hwilling⟩

theorem written_writeAll (h : d.Willing) (chunks : List Bytes) :
    ∃ d', d.writeAll chunks = (.ok (), d') ∧ d'.Willing ∧
      d'.written = d.written ++ chunks.flatten := by
  induction chunks generalizing d with
  | nil => exact ⟨d, rfl, h, by simp⟩
  | cons chunk chunks ih =>
    obtain ⟨d₁, heq₁, hwilling₁⟩ := write_of_willing h chunk
    have hwritten₁ : d₁.written = d.written ++ chunk := (written_of_write heq₁).1
    obtain ⟨d₂, heq₂, hwilling₂, hwritten₂⟩ := ih hwilling₁
    refine ⟨d₂, ?_, hwilling₂, ?_⟩
    · rw [writeAll, heq₁]
      exact heq₂
    · rw [hwritten₂, hwritten₁, List.append_assoc, List.flatten_cons]

end Device

namespace Sinks

/-- All that was written to a sink. -/
def written (sinks : Sinks) (sink : Sink) : Bytes :=
  (sinks.get sink).device.written

/-- No sink has been released, and no device refuses anything. -/
def Willing (sinks : Sinks) : Prop :=
  ∀ sink, (sinks.get sink).released = false ∧ (sinks.get sink).device.Willing

/-- The bytes of a line. -/
def lineBytes (line : String) : Bytes :=
  (lineChunks line).flatten

theorem get_tick (sinks : Sinks) (clock : Nat) (sink : Sink) :
    { sinks with clock := clock }.get sink = sinks.get sink := by
  cases sink <;> rfl

/-- **A line is appended** to the sink that it goes to, and nothing is written to any other. -/
theorem written_writeLine {sinks : Sinks} (h : sinks.Willing) (sink : Sink) (line : String) :
    ∃ sinks', sinks.writeLine sink line = (.ok (), sinks') ∧ sinks'.Willing ∧
      ∀ other, sinks'.written other =
        sinks.written other ++ if sink = other then lineBytes line else [] := by
  obtain ⟨hlive, hwilling⟩ := h sink
  have hclock : Device.Willing { (sinks.get sink).device with clock := sinks.clock } := hwilling
  obtain ⟨d', heq, hwilling', hwritten⟩ := Device.written_writeAll hclock (lineChunks line)
  simp only [writeLine, use, hlive, actOn, heq, Bool.false_eq_true, ↓reduceIte]
  refine ⟨_, rfl, fun other => ?_, fun other => ?_⟩
  · rw [get_tick]
    by_cases hother : other = sink
    · subst hother
      rw [get_set_self]
      exact ⟨rfl, hwilling'⟩
    · rw [get_set_of_ne _ _ hother]
      exact h other
  · rw [written, get_tick]
    by_cases hother : other = sink
    · subst hother
      rw [get_set_self, if_pos rfl]
      exact hwritten
    · rw [get_set_of_ne _ _ hother, if_neg (Ne.symm hother), List.append_nil]
      rfl

/-- The sinks after somebody has written a line, or none. -/
def receive (sinks : Sinks) : Option (Sink × String) → Sinks
  | none => sinks
  | some (sink, line) => (sinks.writeLine sink line).2

/-- The bytes of a line if it goes to this sink. -/
def bytesFor (sink : Sink) : Option (Sink × String) → Bytes
  | none => []
  | some (target, line) => if target = sink then lineBytes line else []

theorem written_receive {sinks : Sinks} (h : sinks.Willing) (line : Option (Sink × String)) :
    (sinks.receive line).Willing ∧
      ∀ sink, (sinks.receive line).written sink = sinks.written sink ++ bytesFor sink line := by
  cases line with
  | none => exact ⟨h, fun _ => (List.append_nil _).symm⟩
  | some line =>
    obtain ⟨sinks', hwrite, hwilling, hwritten⟩ := written_writeLine h line.1 line.2
    have hreceive : sinks.receive (some line) = sinks' := congrArg Prod.snd hwrite
    rw [hreceive]
    exact ⟨hwilling, hwritten⟩

end Sinks

end HostLookup
