/-!
# Schedules of interleaved steps

Several actors share a state. A step of one of them changes the state, or is missing (`none`) while
that actor has to wait or has nothing left to do. Which actor moves next is nobody's decision:
`Reaches` relates two states if some interleaving leads from the one to the other.

`Schedule.run` is one such interleaving, in which the actors take turns.
-/

namespace HostLookup

variable {α σ : Type}

/-- Some interleaving of steps leads from one state to another. -/
inductive Reaches (step : α → σ → Option σ) (start : σ) : σ → Prop where
  | refl : Reaches step start start
  | tail {mid last : σ} (actor : α) (before : Reaches step start mid)
      (taken : step actor mid = some last) : Reaches step start last

namespace Schedule

/-- The actors take one step each, in order; who cannot move is passed over. -/
def round (step : α → σ → Option σ) (actors : List α) (state : σ) : σ :=
  actors.foldl (fun state actor => (step actor state).getD state) state

/-- Goes round until the state is final, but for no more rounds than given. -/
def run (step : α → σ → Option σ) (actors : List α) (isFinal : σ → Bool) : Nat → σ → σ
  | 0, state => state
  | rounds + 1, state =>
    if isFinal state then state else run step actors isFinal rounds (round step actors state)

theorem reaches_round {step : α → σ → Option σ} {actors : List α} {start state : σ}
    (h : Reaches step start state) : Reaches step start (round step actors state) := by
  unfold round
  induction actors generalizing state with
  | nil => exact h
  | cons actor actors ih =>
    apply ih
    cases taken : step actor state with
    | none => simpa [taken] using h
    | some next => simpa [taken] using h.tail actor taken

/-- Taking turns is one of the interleavings. -/
theorem reaches_run (step : α → σ → Option σ) (actors : List α) (isFinal : σ → Bool)
    (rounds : Nat) {start state : σ} (h : Reaches step start state) :
    Reaches step start (run step actors isFinal rounds state) := by
  induction rounds generalizing state with
  | zero => exact h
  | succ rounds ih =>
    unfold run
    split
    · exact h
    · exact ih (reaches_round h)

end Schedule

end HostLookup
