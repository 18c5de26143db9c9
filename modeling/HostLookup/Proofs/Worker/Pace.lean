import HostLookup.Proofs.Worker.Effort
import HostLookup.Proofs.Worker.Findings

/-!
# How long a worker takes

A worker does not dawdle. Each item that it takes and each line that it is given costs it a fixed
number of steps at most, whatever the others do between them and whatever comes of its output.

* **`Worker.Moves.pace`**: a step is paid for, by what the worker had left to do or by what it is
  given.
* **`Worker.pace_of_path`** bounds the steps of a worker on a path.
-/

namespace HostLookup

/-- How many lines a worker is given. -/
def Reply.lines : Reply → Nat
  | .opened _ (.opened events) => events.length
  | _ => 0

/-- Has the worker claimed an item and not taken it yet? -/
def Activity.isAdmitted : Activity → Bool
  | .taking .admitted => true
  | _ => false

namespace Worker

variable {told : Instructions} {moment : Nat} {w w' w₀ : Worker} {desk desk' start : Desk}
  {path : List (Beat × Worker × Desk)}

/-- What becomes ready to be taken stays so, but for what a worker claims itself. -/
theorem Moves.effort_desk_le (h : Moves told moment w desk w' desk') :
    desk.effort ≤ desk'.effort + 6 * w'.activity.isAdmitted.toNat := by
  have hsame : ∀ {q q' : Queue}, q'.filled.permits = q.filled.permits → q.effort = q'.effort :=
    fun hfilled => (congrArg (6 * ·) hfilled).symm
  simp only [Desk.effort]
  cases h with
  | @take call call' source hactivity hstep =>
    cases GetCall.moves_of_step hstep with
    | enter _ hleft =>
      simp only [Queue.effort, hleft, Activity.isAdmitted, Bool.toNat_true]
      omega
    | take => exact Nat.le_add_right _ _
  | receive hactivity hstep | starve hactivity hstep =>
    rw [hsame (congrArg Permits.permits (GetCall.moves_of_step hstep).filled_eq)]
    exact Nat.le_add_right _ _
  | closeSource hactivity hstep | closedSource hactivity hstep =>
    rw [hsame (CloseCall.moves_of_step hstep).filled_eq]
    exact Nat.le_add_right _ _
  | closeTarget hactivity htarget hstep | closedTarget hactivity htarget hstep =>
    rw [htarget, Option.elim_some, hsame (CloseCall.moves_of_step hstep).filled_eq]
    exact Nat.le_add_right _ _
  | offer hactivity htarget hstep | offered hactivity htarget hstep =>
    -- a `put` makes an item ready, and claims none
    rw [htarget]
    cases PutCall.moves_of_step hstep <;>
      simp only [Option.elim_some, Queue.effort, Permits.release] <;> omega
  | _ => exact Nat.le_add_right _ _

/-- At an open queue an item that was claimed is taken by the next step. -/
theorem length_taken_of_isAdmitted (hopen : desk.IsOpenTo w.activity)
    (hadmitted : w.activity.isAdmitted = true) :
    (desk.source.taken w.activity.sourceCall).length = 1 := by
  have hactivity : w.activity = .taking .admitted := by
    unfold Activity.isAdmitted at hadmitted
    split at hadmitted
    · assumption
    · contradiction
  have hring := (hopen.source (by rw [hactivity]; rfl)).1
  rw [hactivity]
  simp [Activity.sourceCall, Queue.taken, Call.section?, Ring.take, hring, Section.taken?]

theorem effort_takeUp_lt (w : Worker) (file : String) (opening : Opening) :
    (w.takeUp file opening).activity.effort < 11 + 12 * (Reply.opened file opening).lines := by
  cases opening with
  | refused failure =>
    have hraise := effort_raise_le w (.io file failure) none
    simp only [Activity.effortAfter] at hraise
    simp only [takeUp]
    omega
  | opened events =>
    simp only [takeUp, Activity.effort, Reading.effort, Reply.lines]
    omega
  | panicked => exact Nat.lt_of_lt_of_le (by decide : 7 < 11) (Nat.le_add_right 11 _)

/-- **Every step of a worker is paid for**: by what it had left to do, by the item that it claims,
or by the lines that it is given. -/
theorem Moves.pace (h : Moves told moment w desk w' desk') (hopen : desk.IsOpenTo w.activity) :
    1 + w'.activity.effort + 6 * w.activity.isAdmitted.toNat ≤
      w.activity.effort + 6 * (desk.source.taken w.activity.sourceCall).length +
        6 * w'.activity.isAdmitted.toNat +
        12 * ((w.reply? told moment).toList.map Reply.lines).sum := by
  have hclaimed : w.activity.isAdmitted.toNat ≤
      (desk.source.taken w.activity.sourceCall).length := by
    cases hadmitted : w.activity.isAdmitted with
    | false => exact Nat.zero_le _
    | true => exact Nat.le_of_eq (length_taken_of_isAdmitted hopen hadmitted).symm
  by_cases hopening : ∃ file, w.activity = .opening file
  · obtain ⟨file, hactivity⟩ := hopening
    cases h with
    | @openFile other hother =>
      obtain rfl : other = file := by
        rw [hactivity] at hother
        exact (Activity.opening.inj hother).symm
      have hless := effort_takeUp_lt w other (told.environment.opening moment other)
      have hbefore : w.activity.effort = 11 := congrArg Activity.effort hactivity
      have hreply : w.reply? told moment =
          some (.opened other (told.environment.opening moment other)) := by rw [reply?, hactivity]
      rw [hreply, Option.toList_some, List.map_singleton, List.sum_singleton]
      omega
    | _ => simp_all only [reduceCtorEq]
  · have hless := h.effort_lt fun file hactivity => hopening ⟨file, hactivity⟩
    have hdesk := h.effort_desk_le
    omega

/-- **A worker makes no more steps than its items and their lines are worth.** -/
theorem pace_of_path (hpath : Path (stepAmong told) (w₀, start) path (w, desk))
    (hopen : ∀ s ∈ ownSteps path, s.2.2.IsOpenTo s.2.1.activity) :
    (ownSteps path).length + w.activity.effort + 6 * w₀.activity.isAdmitted.toNat ≤
      w₀.activity.effort + 6 * (tookOn path).length + 6 * w.activity.isAdmitted.toNat +
        12 * ((repliesOn told path).map Reply.lines).sum := by
  generalize hlast : (w, desk) = last at hpath
  induction hpath generalizing w desk with
  | refl =>
    cases hlast
    rw [ownSteps, List.filterMap_nil, List.length_nil]
    omega
  | @tail path mid next beat _ hstep ih =>
    obtain ⟨u, before⟩ := mid
    subst hlast
    cases beat with
    | own moment =>
      have hpace := (moves_of_step hstep).pace
        (hopen (moment, u, before) (by rw [ownSteps_own]; simp))
      rw [ownSteps_own] at hopen
      have hbefore := ih (fun s hmem => hopen s (List.mem_append_left _ hmem)) rfl
      simp only [ownSteps_own, tookOn_own, repliesOn_own, List.length_append, List.length_singleton,
        List.map_append, List.sum_append]
      omega
    | others disturbance =>
      obtain ⟨after, -, heq⟩ := Option.map_eq_some_iff.mp hstep
      cases heq
      have hsteps := ownSteps_others path disturbance w before
      rw [hsteps] at hopen
      have hbefore := ih hopen rfl
      simpa only [tookOn, repliesOn, hsteps] using hbefore

end Worker

end HostLookup
