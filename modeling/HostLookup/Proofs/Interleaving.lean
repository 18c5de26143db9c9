/-!
# Interleavings

Several lists can be merged into one that keeps the order of each of them, and in no other way than
by taking the head of one of them at a time. This is how the lines of several writers stand in one
log, and how the items that several takers took stood in one queue.

* **`Interleaves.of_tags`**: a list whose elements have owners interleaves what each owner has.
* **`Interleaves.perm`**: nothing is lost and nothing is added.
-/

namespace HostLookup

variable {α ε κ : Type}

/-- `whole` is what comes of the lists `parts` if, again and again, the head of one of them is
taken. -/
inductive Interleaves : List α → List (List α) → Prop where
  | nil {parts : List (List α)} (hparts : ∀ part ∈ parts, part = []) : Interleaves [] parts
  | cons {whole : List α} {parts : List (List α)} {a : α} {part : List α} (i : Nat)
      (hpart : parts[i]? = some (a :: part)) (hrest : Interleaves whole (parts.set i part)) :
      Interleaves (a :: whole) parts

namespace Interleaves

variable {whole : List α} {parts : List (List α)}

/-- A list with the `i`-th part put back in front of what was left of it. -/
theorem perm_flatten_set {a : α} {part : List α} {i : Nat} (hpart : parts[i]? = some (a :: part)) :
    (a :: (parts.set i part).flatten).Perm parts.flatten := by
  obtain ⟨hlt, hget⟩ := List.getElem?_eq_some_iff.mp hpart
  have hparts : parts = parts.take i ++ (a :: part) :: parts.drop (i + 1) := by
    rw [← hget, List.getElem_cons_drop hlt, List.take_append_drop]
  have hset : parts.set i part = parts.take i ++ part :: parts.drop (i + 1) :=
    List.set_eq_take_append_cons_drop.trans (if_pos hlt)
  rw [hset]
  conv => rhs; rw [hparts]
  simp only [List.flatten_append, List.flatten_cons, List.cons_append]
  exact List.perm_middle.symm

/-- **The parts together have the same elements.** -/
theorem perm (h : Interleaves whole parts) : whole.Perm parts.flatten := by
  induction h with
  | nil hparts =>
    rw [List.flatten_eq_nil_iff.mpr hparts]
  | cons i hpart _ ih => exact (ih.cons _).trans (perm_flatten_set hpart)

/-- The order of each part is kept. -/
theorem sublist (h : Interleaves whole parts) {part : List α} (hmem : part ∈ parts) :
    part.Sublist whole := by
  induction h generalizing part with
  | nil hparts => exact List.sublist_nil.mpr (hparts part hmem)
  | @cons whole parts a rest i hpart _ ih =>
    obtain ⟨hlt, hget⟩ := List.getElem?_eq_some_iff.mp hpart
    obtain ⟨j, hj, rfl⟩ := List.mem_iff_getElem.mp hmem
    have hj' : j < (parts.set i rest).length := by simpa using hj
    have hrest := ih (List.getElem_mem hj')
    rw [List.getElem_set] at hrest
    split at hrest
    · next heq =>
      subst heq
      rw [hget]
      exact hrest.cons_cons a
    · exact hrest.cons a

/-- Leaving out the same elements everywhere keeps an interleaving. -/
theorem filter (p : α → Bool) (h : Interleaves whole parts) :
    Interleaves (whole.filter p) (parts.map (List.filter p)) := by
  induction h with
  | nil hparts =>
    refine .nil fun part hmem => ?_
    obtain ⟨part, hpart, rfl⟩ := List.mem_map.mp hmem
    rw [hparts part hpart]
    rfl
  | @cons whole parts a part i hpart _ ih =>
    obtain ⟨hlt, hget⟩ := List.getElem?_eq_some_iff.mp hpart
    rw [List.map_set] at ih
    cases ha : p a with
    | true =>
      rw [List.filter_cons_of_pos ha]
      refine .cons i ?_ ih
      rw [List.getElem?_map, hpart, Option.map_some, List.filter_cons_of_pos ha]
    | false =>
      -- the head goes from both sides, so the filtered parts stay as they are
      have hsame : (parts.map (List.filter p)).set i (part.filter p) =
        parts.map (List.filter p) := by
        have hlt' : i < (parts.map (List.filter p)).length := by simpa using hlt
        have hkept : part.filter p = (parts.map (List.filter p))[i] := by
          rw [List.getElem_map, hget, List.filter_cons_of_neg (by simp [ha])]
        rw [hkept, List.set_getElem_self]
      rw [hsame] at ih
      rw [List.filter_cons_of_neg (by simp [ha])]
      exact ih

/-- A single part is the whole. -/
theorem eq_of_singleton {part : List α} (h : Interleaves whole [part]) : whole = part := by
  generalize hparts : [part] = parts at h
  induction h generalizing part with
  | nil hnil => exact (hnil part (hparts ▸ List.mem_singleton_self part)).symm
  | @cons whole parts a rest i hpart _ ih =>
    subst hparts
    -- there is one place only
    obtain ⟨hlt, hget⟩ := List.getElem?_eq_some_iff.mp hpart
    obtain rfl : i = 0 := Nat.lt_one_iff.mp hlt
    have hfirst : part = a :: rest := hget
    rw [hfirst, ih rfl]

/-- An interleaving of images is the image of an interleaving. -/
theorem of_map {β : Type} {g : α → β} {images : List β}
    (h : Interleaves images (parts.map (List.map g))) :
    ∃ whole, images = whole.map g ∧ Interleaves whole parts := by
  generalize hparts : parts.map (List.map g) = mapped at h
  induction h generalizing parts with
  | nil hnil =>
    subst hparts
    refine ⟨[], rfl, .nil fun part hmem => ?_⟩
    exact List.map_eq_nil_iff.mp (hnil _ (List.mem_map_of_mem hmem))
  | @cons images mapped b rest i hpart _ ih =>
    subst hparts
    -- the head that is taken is the image of a head
    obtain ⟨part, hi, hmap⟩ : ∃ part, parts[i]? = some part ∧ part.map g = b :: rest := by
      simpa using hpart
    obtain ⟨a, tail, rfl, rfl, rfl⟩ := List.map_eq_cons_iff.mp hmap
    obtain ⟨whole, rfl, hwhole⟩ := ih (List.map_set ..)
    exact ⟨a :: whole, rfl, .cons i hi hwhole⟩

/-! ## Elements with owners

A record of a run has an entry for every step, with the thread that made it. Read for one owner at a
time it falls apart into parts, and it is an interleaving of them whatever the order of the steps
was. The induction takes the entries from the front: each is the head of the part of its owner. -/

/-- What is told by the entries of one owner. -/
def tellings [DecidableEq κ] (f : κ × ε → Option α) (entries : List (κ × ε)) (owner : κ) : List α :=
  (entries.filter fun entry => entry.1 = owner).filterMap f

theorem tellings_append [DecidableEq κ] (f : κ × ε → Option α) (entries more : List (κ × ε))
    (owner : κ) :
    tellings f (entries ++ more) owner = tellings f entries owner ++ tellings f more owner := by
  simp [tellings]

/-- The entries of others tell nothing. -/
theorem tellings_of_ne [DecidableEq κ] (f : κ × ε → Option α) {entries : List (κ × ε)} {owner : κ}
    (hother : ∀ entry ∈ entries, entry.1 ≠ owner) : tellings f entries owner = [] := by
  have hnone : entries.filter (fun entry => entry.1 = owner) = [] := by
    simpa [List.filter_eq_nil_iff] using hother
  rw [tellings, hnone, List.filterMap_nil]

/-- All entries of one owner tell what they have to tell. -/
theorem tellings_own [DecidableEq κ] (f : κ × ε → Option α) (owner : κ) (events : List ε) :
    tellings f (events.map fun event => (owner, event)) owner =
      events.filterMap fun event => f (owner, event) := by
  have hall : (events.map fun event => (owner, event)).filter (fun entry => entry.1 = owner) =
      events.map fun event => (owner, event) := by
    simp
  rw [tellings, hall, List.filterMap_map]
  rfl

/-- **A list whose elements have owners** interleaves what each owner has, if no owner is missing
and none is named twice. -/
theorem of_tags [DecidableEq κ] (f : κ × ε → Option α) {owners : List κ} (hnodup : owners.Nodup)
    (entries : List (κ × ε))
    (howner : ∀ entry ∈ entries, (f entry).isSome = true → entry.1 ∈ owners) :
    Interleaves (entries.filterMap f) (owners.map (tellings f entries)) := by
  induction entries with
  | nil =>
    refine .nil fun part hmem => ?_
    obtain ⟨owner, -, rfl⟩ := List.mem_map.mp hmem
    rfl
  | cons entry rest ih =>
    have ih := ih fun entry hmem => howner entry (List.mem_cons_of_mem _ hmem)
    have hother : ∀ owner, owner ≠ entry.1 →
        tellings f (entry :: rest) owner = tellings f rest owner := by
      intro owner hne
      simp [tellings, Ne.symm hne]
    cases hf : f entry with
    | none =>
      -- an entry that tells nothing changes no part
      have hsame : tellings f (entry :: rest) = tellings f rest := by
        funext owner
        by_cases hown : entry.1 = owner
        · simp [tellings, hown, hf]
        · exact hother owner (Ne.symm hown)
      rw [List.filterMap_cons_none hf, hsame]
      exact ih
    | some a =>
      obtain ⟨i, hlt, hi⟩ := List.mem_iff_getElem.mp
        (howner entry List.mem_cons_self (by rw [hf]; rfl))
      have hown : tellings f (entry :: rest) entry.1 = a :: tellings f rest entry.1 := by
        simp [tellings, hf]
      rw [List.filterMap_cons_some hf]
      refine .cons i (?_ : _ = some (a :: tellings f rest entry.1)) ?_
      · rw [List.getElem?_map, List.getElem?_eq_getElem hlt, hi, Option.map_some, hown]
      · -- the part of the owner is one shorter, and no other part has changed
        have hset : (owners.map (tellings f (entry :: rest))).set i (tellings f rest entry.1) =
            owners.map (tellings f rest) := by
          refine List.ext_getElem (by simp) fun j hj _ => ?_
          rw [List.getElem_set]
          split
          · next heq =>
            subst heq
            rw [List.getElem_map, hi]
          · next hne =>
            rw [List.getElem_map, List.getElem_map]
            refine hother _ fun heq => hne ?_
            have hj' : j < owners.length := by simpa using hj
            exact (List.getElem_inj hnodup).mp (hi.trans heq.symm)
        rw [hset]
        exact ih

end Interleaves

end HostLookup
