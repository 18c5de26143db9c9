import HostLookup.Schedule

/-!
# What happens along an interleaving

`Reaches` says that some interleaving of steps leads to a state. `Traces` keeps, beside the state,
the record of what happened on the way: each step adds what it brings about, oldest first. The
record is not part of the system; nothing in it can influence a step.

A `Path` is the most detailed of these records: every step, with the state in which it was made.
-/

namespace HostLookup

variable {α σ ε : Type} {step : α → σ → Option σ} {events : α → σ → List ε} {start : σ}

/-- Some interleaving of steps leads to a state, and this is what happened on the way. -/
inductive Traces (step : α → σ → Option σ) (events : α → σ → List ε) (start : σ) :
    List ε → σ → Prop where
  | refl : Traces step events start [] start
  | tail {record : List ε} {mid last : σ} (actor : α)
      (hbefore : Traces step events start record mid) (htaken : step actor mid = some last) :
      Traces step events start (record ++ events actor mid) last

/-- Recording changes nothing: what is reached with a record is reached. -/
theorem Traces.reaches {record : List ε} {last : σ} (h : Traces step events start record last) :
    Reaches step start last := by
  induction h with
  | refl => exact .refl
  | tail actor _ htaken ih => exact ih.tail actor htaken

/-- Whatever is reached, something is on record for it. -/
theorem Reaches.traces {last : σ} (events : α → σ → List ε) (h : Reaches step start last) :
    ∃ record, Traces step events start record last := by
  induction h with
  | refl => exact ⟨[], .refl⟩
  | tail actor _ taken ih =>
    obtain ⟨record, htrace⟩ := ih
    exact ⟨_, htrace.tail actor taken⟩

theorem Reaches.trans {mid last : σ} (h : Reaches step start mid) (hlater : Reaches step mid last) :
    Reaches step start last := by
  induction hlater with
  | refl => exact h
  | tail actor _ taken ih => exact ih.tail actor taken

/-- What holds at the start and is kept by every step holds wherever the system gets. -/
theorem Reaches.invariant {P : σ → Prop} {last : σ} (h : Reaches step start last) (hstart : P start)
    (hstep : ∀ actor mid next, P mid → step actor mid = some next → P next) : P last := by
  induction h with
  | refl => exact hstart
  | tail actor _ taken ih => exact hstep actor _ _ ih taken

theorem Traces.invariant {P : List ε → σ → Prop} {record : List ε} {last : σ}
    (h : Traces step events start record last) (hstart : P [] start)
    (hstep : ∀ actor record mid next, P record mid → step actor mid = some next →
      P (record ++ events actor mid) next) : P record last := by
  induction h with
  | refl => exact hstart
  | tail actor _ htaken ih => exact hstep actor _ _ _ ih htaken

/-- An entry of an updated list is the new one or one that has not changed. -/
theorem getElem?_set_cases {α : Type} {l : List α} {i j : Nat} {a b : α}
    (hget : (l.set i a)[j]? = some b) : (j = i ∧ b = a) ∨ (j ≠ i ∧ l[j]? = some b) := by
  by_cases hj : j = i
  · subst hj
    obtain ⟨hlt, heq⟩ := List.getElem?_eq_some_iff.mp hget
    rw [List.getElem_set_self] at heq
    exact Or.inl ⟨rfl, heq.symm⟩
  · rw [List.getElem?_set_ne (Ne.symm hj)] at hget
    exact Or.inr ⟨hj, hget⟩

/-! ## Paths

A path records the steps themselves with the states they start from, so any other record can be
computed from it afterwards. Statements about what was done before or after some moment are made
about paths. -/

/-- The steps of an interleaving, oldest first, each with the state in which it was made. -/
abbrev Path (step : α → σ → Option σ) (start : σ) : List (α × σ) → σ → Prop :=
  Traces step (fun actor state => [(actor, state)]) start

namespace Path

variable {path : List (α × σ)} {last : σ}

/-- Any other record can be read off the path. -/
theorem traces (events : α → σ → List ε) (h : Path step start path last) :
    Traces step events start (path.flatMap fun p => events p.1 p.2) last := by
  induction h with
  | refl => exact .refl
  | tail actor _ htaken ih =>
    rw [List.flatMap_append, List.flatMap_singleton]
    exact ih.tail actor htaken

/-- A path can be cut at each of its steps. -/
theorem split {before after : List (α × σ)} {p : α × σ}
    (h : Path step start (before ++ p :: after) last) :
    Path step start before p.2 ∧ ∃ next, step p.1 p.2 = some next ∧ Path step next after last := by
  generalize hpath : before ++ p :: after = path at h
  induction h generalizing after with
  | refl => simp at hpath
  | @tail path mid last actor hbefore htaken ih =>
    rcases List.eq_nil_or_concat after with rfl | ⟨later, q, rfl⟩
    · -- the last step
      obtain ⟨rfl, heq⟩ := List.append_inj' hpath rfl
      obtain rfl := List.singleton_inj.mp heq
      exact ⟨hbefore, last, htaken, .refl⟩
    · rw [List.concat_eq_append, ← List.cons_append, ← List.append_assoc] at hpath
      obtain ⟨hshort, heq⟩ := List.append_inj' hpath rfl
      obtain rfl := List.singleton_inj.mp heq
      obtain ⟨hreach, next, hnext, hlater⟩ := ih hshort
      rw [List.concat_eq_append]
      exact ⟨hreach, next, hnext, hlater.tail actor htaken⟩

/-- What holds in a state of a path and is kept by every step holds in every later state. -/
theorem holds_after {P : σ → Prop} {before after : List (α × σ)} {p : α × σ}
    (h : Path step start (before ++ p :: after) last)
    (hkeep : ∀ actor mid next, P mid → step actor mid = some next → P next)
    (hp : ∀ next, step p.1 p.2 = some next → P next) : (∀ q ∈ after, P q.2) ∧ P last := by
  obtain ⟨-, next, hnext, hlater⟩ := h.split
  have hwalk : ∀ {path : List (α × σ)} {last : σ}, Path step next path last → P last := by
    intro path last hpath
    exact hpath.reaches.invariant (hp next hnext) hkeep
  refine ⟨fun q hmem => ?_, hwalk hlater⟩
  obtain ⟨between, rest, rfl⟩ := List.append_of_mem hmem
  exact hwalk hlater.split.1

/-- Every step of a path was made in a state that a path leads to. -/
theorem of_mem (h : Path step start path last) {p : α × σ} (hmem : p ∈ path) :
    ∃ before, Path step start before p.2 ∧ ∃ next, step p.1 p.2 = some next := by
  obtain ⟨before, after, rfl⟩ := List.append_of_mem hmem
  obtain ⟨hbefore, next, hnext, -⟩ := h.split
  exact ⟨before, hbefore, next, hnext⟩

/-- The state after some steps, if all of them can be made. -/
def follow (step : α → σ → Option σ) : List α → σ → Option σ
  | [], state => some state
  | actor :: actors, state => (step actor state).bind (follow step actors)

theorem of_follow {actors : List α} (hfollow : follow step actors start = some last) :
    ∃ path, Path step start path last := by
  have hreaches : ∀ mid, Reaches step start mid → follow step actors mid = some last →
      Reaches step start last := by
    clear hfollow
    induction actors with
    | nil =>
      intro mid hreach hfollow
      exact Option.some.inj hfollow ▸ hreach
    | cons actor actors ih =>
      intro mid hreach hfollow
      obtain ⟨next, hnext, hrest⟩ := Option.bind_eq_some_iff.mp hfollow
      exact ih next (hreach.tail actor hnext) hrest
  exact (hreaches start .refl hfollow).traces fun actor state => [(actor, state)]

/-- A path that begins one step earlier. -/
theorem cons {actor : α} {next : σ} (hstep : step actor start = some next)
    (h : Path step next path last) : Path step start ((actor, start) :: path) last := by
  induction h with
  | refl => exact .tail actor .refl hstep
  | tail other _ htaken ih => exact ih.tail other htaken

/-- The path of some steps and the state that it leads to, if all of them can be made. -/
def walk (step : α → σ → Option σ) : List α → σ → Option (List (α × σ) × σ)
  | [], state => some ([], state)
  | actor :: actors, state =>
    (step actor state).bind fun next =>
      (walk step actors next).map fun (path, last) => ((actor, state) :: path, last)

theorem of_walk {actors : List α} (hwalk : walk step actors start = some (path, last)) :
    Path step start path last := by
  induction actors generalizing start path with
  | nil =>
    obtain ⟨rfl, rfl⟩ := Prod.mk.inj (Option.some.inj hwalk)
    exact .refl
  | cons actor actors ih =>
    obtain ⟨next, hnext, hrest⟩ := Option.bind_eq_some_iff.mp hwalk
    obtain ⟨⟨later, last'⟩, hlater, heq⟩ := Option.map_eq_some_iff.mp hrest
    obtain ⟨rfl, rfl⟩ := Prod.mk.inj heq
    exact (ih hlater).cons hnext

end Path

end HostLookup
