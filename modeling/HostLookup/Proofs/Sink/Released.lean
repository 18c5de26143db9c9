import HostLookup.Proofs.Sink.Written
import HostLookup.Sink.Session

/-!
# Sinks that were released

A line that is refused was refused by a sink that somebody has released, or by the device behind it.
Writing releases nothing; a sink is released by a step of the call that releases them all, and for
good.

* **`Sinks.error_of_writeLine`**: why a line was refused.
* **`SinkCall.released_of_step`**: who releases a sink.
-/

namespace HostLookup

namespace Sinks

variable {sinks : Sinks} {sink : Sink} {line : String}

/-- No sink has been released. -/
def Live (sinks : Sinks) : Prop :=
  ∀ sink, (sinks.get sink).released = false

instance : DecidablePred Live := fun sinks =>
  decidable_of_iff (∀ sink ∈ Sink.all, (sinks.get sink).released = false)
    ⟨fun h sink => h sink sink.mem_all, fun h sink _ => h sink⟩

/-- What is done to a device does not touch the marks of the sinks. -/
theorem released_actOn (sinks : Sinks) (sink other : Sink)
    (body : Device → Except IoFailure Unit × Device) :
    ((sinks.actOn sink body).2.get other).released = (sinks.get other).released := by
  simp only [actOn, get_tick]
  by_cases hother : other = sink
  · subst hother
    rw [get_set_self]
  · rw [get_set_of_ne _ _ hother]

/-- A line that is written or refused releases nothing. -/
@[simp] theorem released_writeLine (sinks : Sinks) (sink : Sink) (line : String) (other : Sink) :
    ((sinks.writeLine sink line).2.get other).released = (sinks.get other).released := by
  have hact := released_actOn sinks sink other fun device => device.writeAll (lineChunks line)
  unfold writeLine use
  split
  · rfl
  · -- a sink that is released is not written to, and the chunks of a line only act on the device
    split <;> simp_all

/-- The same for a line that there may be or not. -/
theorem released_receive (sinks : Sinks) (line : Option (Sink × String)) (other : Sink) :
    ((sinks.receive line).get other).released = (sinks.get other).released := by
  cases line with
  | none => rfl
  | some line => exact released_writeLine sinks line.1 line.2 other

/-- A release marks the one sink, and all others keep their marks. -/
theorem released_release (sinks : Sinks) (sink other : Sink) :
    ((sinks.release sink).get other).released =
      (decide (other = sink) || (sinks.get other).released) := by
  unfold release
  by_cases hother : other = sink
  · subst hother
    simp
  · simp [get_set_of_ne _ _ hother, hother]

/-- To flush a sink is to act on its device. -/
theorem released_flush (sinks : Sinks) (sink other : Sink) :
    ((sinks.flush sink).2.get other).released = (sinks.get other).released := by
  have hact := released_actOn sinks sink other Device.flush
  unfold flush
  split <;> simp_all

/-- To begin with the release is to claim it; no sink is released by that. -/
theorem released_claimRelease (sinks : Sinks) (other : Sink) :
    (sinks.claimRelease.2.get other).released = (sinks.get other).released := by
  unfold claimRelease
  split
  · rfl
  · cases other <;> rfl

/-- **Why a line was refused.** -/
theorem error_of_writeLine {error : SinkError}
    (hwrite : (sinks.writeLine sink line).1 = .error error) :
    (error = .destroyed sink ∧ (sinks.get sink).released = true) ∨
      ∃ failure, error = .write sink failure ∧ (sinks.get sink).released = false := by
  unfold writeLine use at hwrite
  split at hwrite
  · next hreleased => exact Or.inl ⟨(Except.error.inj hwrite).symm, hreleased⟩
  · next hlive =>
    split at hwrite
    · contradiction
    · next failure _ _ =>
      -- the sink is live, so the refusal came from its device
      exact Or.inr ⟨failure, (Except.error.inj hwrite).symm, Bool.eq_false_iff.mpr hlive⟩

end Sinks

namespace SinkCall

variable {sinks : Sinks} {call : SinkCall}

/-- A line on its way to a device, chunk by chunk, releases nothing. -/
theorem released_writing (sinks : Sinks) (use : SinkUse) (other : Sink) :
    (((SinkCall.writing use).step sinks).2.get other).released =
      (sinks.get other).released := by
  obtain ⟨sink, chunks, ending⟩ := use
  cases chunks with
  | nil => cases ending <;> rfl
  | cons chunk chunks =>
    have hact := Sinks.released_actOn sinks sink other (Device.write · chunk)
    rcases hwrite : sinks.actOn sink (Device.write · chunk) with ⟨_ | _, after⟩ <;>
      rw [hwrite] at hact <;> simpa only [step, hwrite] using hact

/-- A step of a call leaves the sinks as they are, or releases the one that is next. -/
theorem released_step (call : SinkCall) (sinks : Sinks) (other : Sink) :
    ((call.step sinks).2.get other).released = (sinks.get other).released ∨
      ∃ later result, call = .releasing (other :: later) result ∧
        ((call.step sinks).2.get other).released = true := by
  cases call with
  | entering use =>
    refine Or.inl ?_
    simp only [step]
    split <;> rfl
  | writing use => exact Or.inl (released_writing sinks use other)
  | marking =>
    -- whoever claims the release, and whoever comes late, has released nothing yet
    have hclaim := sinks.released_claimRelease other
    refine Or.inl ?_
    rcases hmark : sinks.claimRelease with ⟨_ | _, after⟩ <;> rw [hmark] at hclaim <;>
      simpa only [step, hmark] using hclaim
  | releasing waiting result =>
    cases waiting with
    | nil => exact Or.inl rfl
    | cons sink later =>
      -- the first of the sinks that wait is released now
      have hrelease := sinks.released_release sink other
      by_cases hother : other = sink
      · subst hother
        exact Or.inr ⟨later, result, rfl, by simpa [step] using hrelease⟩
      · refine Or.inl ?_
        simpa [step, hother] using hrelease
  | flushing sink later result =>
    have hflush := sinks.released_flush sink other
    exact Or.inl hflush

/-- What was released stays so. -/
theorem released_mono (call : SinkCall) {sink : Sink}
    (hreleased : (sinks.get sink).released = true) :
    ((call.step sinks).2.get sink).released = true := by
  rcases call.released_step sinks sink with heq | ⟨-, -, -, heq⟩
  · exact heq.trans hreleased
  · exact heq

/-- **Who releases a sink** is a call that has come to it. -/
theorem released_of_step {sink : Sink}
    (hreleased : ((call.step sinks).2.get sink).released = true) :
    (sinks.get sink).released = true ∨
      ∃ later result, call = .releasing (sink :: later) result := by
  rcases call.released_step sinks sink with heq | ⟨later, result, hcall, -⟩
  · exact Or.inl (heq.symm.trans hreleased)
  · exact Or.inr ⟨later, result, hcall⟩

end SinkCall

end HostLookup
