/-!
# Calls that proceed in atomic steps

A call that several threads may make at once is a small value that says where the call stands. One
step of it touches the shared state once, and afterwards the call either goes on from another place
or returns. A step that is missing (`none`) is one that has to wait: the calling thread cannot move
until another thread has changed the shared state.

`Progress.alone` runs a call with no other thread in between, and `Progress.advance` runs it for as
long as it can move.
-/

namespace HostLookup

instance decidableEqExcept {ε ρ : Type} [DecidableEq ε] [DecidableEq ρ] : DecidableEq (Except ε ρ)
  | .ok a, .ok b => decidable_of_iff (a = b) ⟨congrArg _, Except.ok.inj⟩
  | .error a, .error b => decidable_of_iff (a = b) ⟨congrArg _, Except.error.inj⟩
  | .ok _, .error _ => isFalse (by simp)
  | .error _, .ok _ => isFalse (by simp)

/-- What one step of a call leads to. -/
inductive Progress (κ ρ : Type) where
  /-- The call goes on from here. -/
  | goesOn (call : κ)
  /-- The call returns. -/
  | returns (answer : ρ)
  deriving DecidableEq, Repr

namespace Progress

variable {κ κ' ρ ρ' σ : Type}

/-- The same progress of a call that makes this one as a part of its own. -/
def map (inside : κ → κ') (after : ρ → ρ') : Progress κ ρ → Progress κ' ρ'
  | .goesOn call => .goesOn (inside call)
  | .returns answer => .returns (after answer)

/-- Runs a call by itself for at most the given number of steps; `none` if it has to wait. -/
def alone (step : κ → σ → Option (Progress κ ρ × σ)) : Nat → κ → σ → Option (ρ × σ)
  | 0, _, _ => none
  | fuel + 1, call, state =>
    match step call state with
    | none => none
    | some (.returns answer, state) => some (answer, state)
    | some (.goesOn call, state) => alone step fuel call state

/-- Runs a call by itself until it returns or has to wait, for at most the given number of steps. -/
def advance (step : κ → σ → Option (Progress κ ρ × σ)) : Nat → Progress κ ρ → σ → Progress κ ρ × σ
  | 0, progress, state => (progress, state)
  | _ + 1, .returns answer, state => (.returns answer, state)
  | fuel + 1, .goesOn call, state =>
    match step call state with
    | none => (.goesOn call, state)
    | some (progress, state) => advance step fuel progress state

end Progress

end HostLookup
