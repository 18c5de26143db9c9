import HostLookup.Config.Settings
import HostLookup.Proofs.Queue.Traffic
import HostLookup.Stage.Sentinel
import HostLookup.Stage.Shutdown

/-!
# What a run asks of its settings

The settings are checked once, before anything is made. Later a run makes a sentinel and two queues
of them and puts the sentinel into both, and each of these has conditions of its own, in words of
its own: a length that is reached against one that is exceeded, a slot against the item that it can
hold. A `Requirement` is one of these later conditions.

* **`Settings.check_eq_ok_iff_holds`**: the check in advance passes exactly where all of them hold.
* **`Settings.violated_of_check`**: where it does not, it names a setting that takes part in one
  that is violated.
-/

namespace HostLookup

/-- Is this a failure of the settings, or of a request that goes beyond them? -/
def Failure.isConfig : Failure → Bool
  | .config .. => true
  | _ => false

/-- Settings stand against a queue without slots, and against slots that hold nothing. Whatever else
a queue may fail for is a matter of the allocator. -/
theorem Queue.create_isConfig_iff (name : String) (capacity slotLength : Nat)
    (allocator : Allocator) :
    (∀ failure, Queue.create name capacity slotLength allocator = .error failure →
        failure.isConfig = false) ↔
      0 < capacity ∧ 2 ≤ slotLength := by
  unfold create
  split
  · next hcapacity =>
    refine iff_of_false (fun h => ?_) (by omega)
    cases (h _ rfl : true = false)
  · split
    · next hlength =>
      refine iff_of_false (fun h => ?_) (by omega)
      cases (h _ rfl : true = false)
    · next hcapacity hlength =>
      refine iff_of_true ?_ ⟨by omega, by omega⟩
      intro failure hfailure
      split at hfailure <;> cases hfailure <;> rfl

/-- What the check of an item's size refuses is what does not fit. -/
theorem PutCall.step_ne_itemTooLarge_iff (q : Queue) (item : String) :
    (∀ length max q', PutCall.step q (.entering item) ≠
        some (.returns (.error (.itemTooLarge length max)), q')) ↔ q.fits item = true := by
  constructor
  · intro hstep
    cases hfits : q.fits item with
    | true => rfl
    | false =>
      refine absurd ?_ (hstep item.utf8ByteSize q.maxItemLength q)
      rw [PutCall.step, hfits]
      rfl
  · intro hfits length max q' hstep
    cases PutCall.moves_of_step hstep with
    | tooLarge hsize => simp [hfits] at hsize

namespace Settings

/-- The slots of the queue in front of a stage. -/
def slotLength (s : Settings) : Stage → Nat
  | .requester => s.maxFileNameLength
  | .resolver => s.maxNameLength

/-- The key of the setting that says how long they are. -/
def slotKey : Stage → String
  | .requester => "max_file_name_length"
  | .resolver => "max_name_length"

/-- The name of that queue. -/
def queueName : Stage → String
  | .requester => "files"
  | .resolver => "hosts"

/-- A condition that a run meets after the settings were checked. -/
inductive Requirement where
  /-- The sentinel can be made. -/
  | sentinel
  /-- Nothing but a lack of memory stands against the queue in front of a stage, whoever hands the
  memory out. -/
  | queue (stage : Stage)
  /-- A `put` of the sentinel into that queue passes the check of its size. -/
  | passage (stage : Stage)
  /-- The text for an address that was not found is there. -/
  | notResolved
  /-- Nobody takes it for the sentinel. -/
  | distinct
  deriving DecidableEq, Repr

namespace Requirement

def Holds (s : Settings) : Requirement → Prop
  | .sentinel => ∃ sentinel, Sentinel.create s.sentinel = .ok sentinel
  | .queue stage => ∀ allocator failure,
      Queue.create (queueName stage) s.queueCapacity (s.slotLength stage) allocator =
          .error failure →
        failure.isConfig = false
  | .passage stage => ∀ length max q',
      PutCall.step (.ofGeometry (queueName stage) s.queueCapacity (s.slotLength stage))
          (.entering s.sentinel) ≠
        some (.returns (.error (.itemTooLarge length max)), q')
  | .notResolved => s.notResolved ≠ ""
  | .distinct => s.notResolved ≠ s.sentinel

/-- The keys of the settings that take part in a condition. -/
def keys : Requirement → List String
  | .sentinel => ["sentinel"]
  | .queue stage => ["queue_capacity", slotKey stage]
  | .passage stage => ["sentinel", slotKey stage]
  | .notResolved => ["not_resolved"]
  | .distinct => ["not_resolved", "sentinel"]

theorem holds_sentinel_iff (s : Settings) : sentinel.Holds s ↔ s.sentinel ≠ "" := by
  constructor
  · rintro ⟨sentinel, hsentinel⟩
    exact (Sentinel.create_eq_ok_iff _ _).mp hsentinel ▸ sentinel.text_ne_empty
  · intro hne
    exact ⟨⟨s.sentinel, hne⟩, (Sentinel.create_eq_ok_iff _ _).mpr rfl⟩

theorem holds_queue_iff (s : Settings) (stage : Stage) :
    (queue stage).Holds s ↔ 0 < s.queueCapacity ∧ 2 ≤ s.slotLength stage := by
  constructor
  · intro hqueue
    exact (Queue.create_isConfig_iff _ _ _ .standard).mp (hqueue .standard)
  · intro hlengths allocator
    exact (Queue.create_isConfig_iff _ _ _ allocator).mpr hlengths

theorem holds_passage_iff (s : Settings) (stage : Stage) :
    (passage stage).Holds s ↔ s.sentinel.utf8ByteSize ≤ s.slotLength stage - 1 :=
  (PutCall.step_ne_itemTooLarge_iff _ _).trans (Queue.fits_iff _ _)

end Requirement

theorem check_eq_ok_iff (s : Settings) :
    s.check = .ok () ↔ 0 < s.queueCapacity ∧
      (2 ≤ s.maxNameLength ∧ s.sentinel.utf8ByteSize < s.maxNameLength) ∧
      (2 ≤ s.maxFileNameLength ∧ s.sentinel.utf8ByteSize < s.maxFileNameLength) ∧
      s.sentinel ≠ "" ∧ s.notResolved ≠ "" ∧ s.notResolved ≠ s.sentinel := by
  rw [← checkSlot_eq_ok_iff _ "max_name_length", ← checkSlot_eq_ok_iff _ "max_file_name_length",
    ← checkMarkers_eq_ok_iff, check]
  split
  · next hzero => simp [hzero]
  · next hpos =>
    rw [and_iff_right (Nat.pos_of_ne_zero hpos)]
    cases checkSlot s.sentinel "max_name_length" s.maxNameLength with
    | error => simp [bind, Except.bind]
    | ok =>
      cases checkSlot s.sentinel "max_file_name_length" s.maxFileNameLength with
      | error => simp [bind, Except.bind]
      | ok => simp [bind, Except.bind]

/-- **The check in advance passes exactly where everything that a run asks for later holds.**
One byte of a slot is reserved, so an item that is shorter than its slot is one that the slot
can hold. -/
theorem check_eq_ok_iff_holds (s : Settings) :
    s.check = .ok () ↔ ∀ r : Requirement, r.Holds s := by
  have hall : (∀ r : Requirement, r.Holds s) ↔
      Requirement.sentinel.Holds s ∧ (∀ stage, (Requirement.queue stage).Holds s) ∧
        (∀ stage, (Requirement.passage stage).Holds s) ∧ s.notResolved ≠ "" ∧
          s.notResolved ≠ s.sentinel := by
    constructor
    · intro h
      exact ⟨h .sentinel, fun stage => h (.queue stage), fun stage => h (.passage stage),
        h .notResolved, h .distinct⟩
    · rintro ⟨hsentinel, hqueue, hpassage, hnotResolved, hdistinct⟩ r
      cases r with
      | sentinel => exact hsentinel
      | queue stage => exact hqueue stage
      | passage stage => exact hpassage stage
      | notResolved => exact hnotResolved
      | distinct => exact hdistinct
  have hstages : ∀ P : Stage → Prop, (∀ stage, P stage) ↔ P .requester ∧ P .resolver := fun P =>
    ⟨fun h => ⟨h .requester, h .resolver⟩, fun h stage => by cases stage <;> simp [h]⟩
  rw [check_eq_ok_iff, hall, hstages, hstages]
  simp only [Requirement.holds_sentinel_iff, Requirement.holds_queue_iff,
    Requirement.holds_passage_iff, slotLength]
  constructor
  · rintro ⟨hcapacity, hname, hfileName, hsentinel, hmarkers⟩
    exact ⟨hsentinel, ⟨⟨hcapacity, hfileName.1⟩, hcapacity, hname.1⟩, ⟨by omega, by omega⟩,
      hmarkers⟩
  · rintro ⟨hsentinel, ⟨⟨hcapacity, hfileName⟩, -, hname⟩, ⟨hlongFile, hlong⟩, hmarkers⟩
    exact ⟨hcapacity, ⟨hname, by omega⟩, ⟨hfileName, by omega⟩, hsentinel, hmarkers⟩

/-! ## What the check names

A check that fails gives the key of a setting. It is one that takes part in a condition that later
would have failed, so whoever changes it is on the right way. -/

/-- A failure of the check, with a condition that is violated and takes part in it. -/
def Blames (s : Settings) (failure : Failure) : Prop :=
  ∃ parameter reason, failure = .config parameter reason ∧
    ∃ r : Requirement, ¬ r.Holds s ∧ parameter ∈ r.keys

theorem blames_of_checkSlot {s : Settings} (stage : Stage) {failure : Failure}
    (hcheck : checkSlot s.sentinel (slotKey stage) (s.slotLength stage) = .error failure) :
    s.Blames failure := by
  unfold checkSlot at hcheck
  split at hcheck
  · next hshort =>
    refine ⟨_, _, (Except.error.inj hcheck).symm, .queue stage, ?_, by simp [Requirement.keys]⟩
    rw [Requirement.holds_queue_iff]
    omega
  · split at hcheck
    · next hlong =>
      refine ⟨_, _, (Except.error.inj hcheck).symm, .passage stage, ?_, by simp [Requirement.keys]⟩
      rw [Requirement.holds_passage_iff]
      omega
    · contradiction

theorem blames_of_checkMarkers {s : Settings} {failure : Failure}
    (hcheck : checkMarkers s.sentinel s.notResolved = .error failure) : s.Blames failure := by
  unfold checkMarkers at hcheck
  split at hcheck
  · next hempty =>
    refine ⟨_, _, (Except.error.inj hcheck).symm, .sentinel, ?_, by simp [Requirement.keys]⟩
    rw [Requirement.holds_sentinel_iff]
    exact fun hne => hne hempty
  · split at hcheck
    · next hempty =>
      exact ⟨_, _, (Except.error.inj hcheck).symm, .notResolved, fun hne => hne hempty,
        by simp [Requirement.keys]⟩
    · split at hcheck
      · next heq =>
        exact ⟨_, _, (Except.error.inj hcheck).symm, .distinct, fun hne => hne heq,
          by simp [Requirement.keys]⟩
      · contradiction

/-- **The check names a setting that takes part in a violated condition.** -/
theorem violated_of_check {s : Settings} {failure : Failure} (hcheck : s.check = .error failure) :
    s.Blames failure := by
  unfold check at hcheck
  split at hcheck
  · next hzero =>
    refine ⟨_, _, (Except.error.inj hcheck).symm, .queue .requester, ?_,
      by simp [Requirement.keys]⟩
    rw [Requirement.holds_queue_iff]
    omega
  · cases hname : checkSlot s.sentinel "max_name_length" s.maxNameLength with
    | error =>
      rw [hname] at hcheck
      exact blames_of_checkSlot .resolver (hname.trans hcheck)
    | ok =>
      cases hfileName : checkSlot s.sentinel "max_file_name_length" s.maxFileNameLength with
      | error =>
        rw [hname, hfileName] at hcheck
        exact blames_of_checkSlot .requester (hfileName.trans hcheck)
      | ok =>
        rw [hname, hfileName] at hcheck
        exact blames_of_checkMarkers hcheck

end Settings

end HostLookup
