import HostLookup.Proofs.Run.Audit

/-!
# The books of the driver

In a calm world the driver keeps no failure, so it does all deeds for the names of the data files,
and its account tells all of them.

* **`Run.Books`**: what the driver has done, what is left to do, and what its account says about it.
* **`Run.Books.move`**: every step keeps the books.
-/

namespace HostLookup

namespace Run

variable {told : Instructions} {run run' : Run} {actor : Actor} {history : History} {t : Terms}
  {sentinel : Sentinel} {max skipped : Nat} {names : List String} {done : List Deed}

/-- The books of a driver that has done the deeds `done` for `names`. -/
structure Books (sentinel : Sentinel) (max skipped : Nat) (names : List String) (history : History)
    (run : Run) (done : List Deed) : Prop where
  limit : (run.queue .requester).maxItemLength = max
  carries : ∀ file call later, run.driver.activity = .feeding file call later →
    ∀ item, call.item? = some item → item = file
  left : done ++ run.driver.activity.leftToFeed max = names.flatMap (feedDeeds max)
  stored : (history.stored .requester).filter (· ≠ sentinel.text) = done.filterMap Deed.put?
  lines : ∀ sink, (history.of .driver).lines sink = done.filterMap (Deed.lineTo .stderr sink)
  summary : run.driver.account.summary = (fedSummary skipped done).recordAll run.joinedReports

/-- The account of a driver that keeps no failure. -/
theorem Audit.books (h : Audit sentinel max skipped names history run done)
    (hkept : run.driver.account.kept = none) :
    Books sentinel max skipped names history run done :=
  ⟨h.limit, h.carries, h.left hkept, h.stored, h.lines hkept, h.summary⟩

namespace Books

theorem audit (h : Books sentinel max skipped names history run done) :
    Audit sentinel max skipped names history run done :=
  ⟨h.limit, h.carries, h.left ▸ .refl _, fun _ => h.left, h.stored, fun _ => h.lines, h.summary⟩

/-- **Every step keeps the books.** -/
theorem move (h : Books told.sentinel max skipped names history run done) (hcalm : Calm t run)
    (horderly : Orderly told.sentinel history run) (hmove : Moves told run actor run') :
    ∃ now, Books told.sentinel max skipped names (history ++ events told actor run) run'
      (done ++ now) := by
  obtain ⟨now, haudit⟩ := h.audit.move horderly hmove
  exact ⟨now, haudit.books (hcalm.kept_move horderly hmove)⟩

end Books

end Run

end HostLookup
