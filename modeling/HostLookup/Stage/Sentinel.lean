import HostLookup.Failure.Basic

/-!
# The end-of-work marker

A stage is told to stop by a text of its own, the sentinel, which is put into the queue behind the
last item, once for each worker. A sentinel is never empty.
-/

namespace HostLookup

/-- A text that marks the end of the work. -/
structure Sentinel where
  text : String
  text_ne_empty : text ≠ ""
  deriving DecidableEq, Repr

namespace Sentinel

/-- Takes a text as the sentinel, unless it is empty. -/
def create (text : String) : Except Failure Sentinel :=
  if h : text = "" then .error (.config "sentinel" "sentinel text must not be empty")
  else .ok ⟨text, h⟩

/-- The sentinel of a run whose settings name no other. -/
def standard : Sentinel :=
  ⟨"\x7bEND\x7d", by decide⟩

/-- Is this item the sentinel? -/
def marks (sentinel : Sentinel) (item : String) : Bool :=
  sentinel.text = item

@[simp] theorem marks_text (sentinel : Sentinel) : sentinel.marks sentinel.text = true := by
  simp [marks]

/-- Every text but the empty one can be a sentinel. -/
theorem create_eq_ok_iff (text : String) (sentinel : Sentinel) :
    create text = .ok sentinel ↔ sentinel.text = text := by
  unfold create
  split
  · rename_i h
    subst h
    simp [sentinel.text_ne_empty]
  · cases sentinel
    simp [eq_comm]

end Sentinel

end HostLookup
