import HostLookup.Proofs.Run.History

/-!
# How far the driver has come

The driver goes through the same places for each of the two stages, one stage after the other, and
it turns to the resolvers when it is done with the requesters. `DriverActivity.standing` says at
which place it is with a stage, and `DriverActivity.names` which data files are still to be put into
the queue.
-/

namespace HostLookup

namespace DriverActivity

/-- How far the driver has come with a stage. -/
def standing : DriverActivity → Stage → Standing
  | .feeding .., _ | .rejecting .., _ => .ahead
  | .draining own call, stage => Standing.seenFrom own stage (.draining call)
  | .joining own next, stage => Standing.seenFrom own stage (.joining next)
  | .finishing own, stage => Standing.seenFrom own stage .finishing
  | .clearing .., _ | .returned _, _ => .done

/-- The names of data files that are still to be put into the queue. -/
def names : DriverActivity → List String
  | .feeding _ call later => call.item?.toList ++ later
  | .rejecting _ later => later
  | _ => []

/-- To feed names is to have all of them left. -/
theorem names_feed (files : List String) : (Run.feed files).names = files := by
  cases files <;> rfl

/-- A driver with names left is ahead of both stages; without any it drains the first. -/
theorem standing_feed (files : List String) (stage : Stage) :
    (Run.feed files).standing stage = .ahead ∨
      (Run.feed files).standing stage = .draining .claiming := by
  cases files with
  | nil => cases stage with
    | requester => exact Or.inr rfl
    | resolver => exact Or.inl rfl
  | cons => exact Or.inl rfl

/-- The driver turns to the resolvers when it is done with the requesters. -/
theorem standing_requester {activity : DriverActivity}
    (hresolver : activity.standing .resolver ≠ .ahead) : activity.standing .requester = .done := by
  cases activity with
  | feeding | rejecting => exact absurd rfl hresolver
  | draining own | joining own | finishing own =>
    cases own with
    | requester => exact absurd rfl hresolver
    | resolver => rfl
  | clearing | returned => rfl

end DriverActivity

end HostLookup
