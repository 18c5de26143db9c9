import HostLookup.Summary

/-!
# The error of a run

A run keeps one failure of those that it meets. A queue that somebody else closed is seldom the
cause of anything: whoever closed it had a reason, which comes to light when that worker is joined.
So the first failure is kept, but a closed queue gives way to the first failure of another kind.
-/

namespace HostLookup

/-- The failure to keep, after another step of the run that may have failed. -/
def keepFirst (kept new : Option Failure) : Option Failure :=
  match kept, new with
  | kept, none => kept
  | none, some failure => some failure
  | some earlier, some failure =>
    if earlier.isClosedQueue && !failure.isClosedQueue then some failure else some earlier

/-- The summary of a run as far as it has come, and the failure that it keeps. -/
structure Account where
  summary : RunSummary := {}
  kept : Option Failure := none
  deriving Repr

namespace Account

/-- Notes the outcome of a step. -/
def note {ε : Type} (account : Account) (failure : ε → Failure) (result : Except ε Unit) :
    Account :=
  match result with
  | .ok () => account
  | .error error => { account with kept := keepFirst account.kept (some (failure error)) }

/-- Takes the result of a worker that was joined: a report, which may carry a failure, or the
failure of one that panicked. -/
def join (account : Account) : Except Failure WorkerReport → Account
  | .ok report =>
    { summary := account.summary.record report
      kept := keepFirst account.kept report.failure? }
  | .error failure => { account with kept := keepFirst account.kept (some failure) }

/-- Takes the results of workers in the order in which they were joined. -/
def joinAll (account : Account) (results : List (Except Failure WorkerReport)) : Account :=
  results.foldl join account

/-- A name of a data file is in the queue. -/
def countEnqueued (account : Account) : Account :=
  { account with
    summary := { account.summary with filesEnqueued := account.summary.filesEnqueued + 1 } }

/-- A name of a data file did not fit and was reported. -/
def countRejected (account : Account) : Account :=
  { account with
    summary :=
      { account.summary with
        filesSkipped := account.summary.filesSkipped + 1
        itemErrors := account.summary.itemErrors + 1 } }

/-- So many data files are left out. -/
def countSkipped (account : Account) (files : Nat) : Account :=
  { account with
    summary := { account.summary with filesSkipped := account.summary.filesSkipped + files } }

@[simp] theorem keepFirst_none (kept : Option Failure) : keepFirst kept none = kept := by
  cases kept <;> rfl

theorem joinAll_append (account : Account) (first second : List (Except Failure WorkerReport)) :
    account.joinAll (first ++ second) = (account.joinAll first).joinAll second :=
  List.foldl_append

end Account

end HostLookup
