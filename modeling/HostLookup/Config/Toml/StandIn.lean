import HostLookup.Config.Value

/-!
# Tables that stand for one of their entries

A table may name one of its entries as the value that it stands for. The other entries then say
nothing, but they have to be allowed all the same: one key is reserved, and no table may have it.
`standing?` gives the value that remains, or nothing if a reserved key is used. It acts on every
table inside a value, and a value without tables stays as it is.
-/

namespace HostLookup.Toml

/-- The key of the entry that a table stands for. -/
def standInKey : String := "___figment_value_value"

/-- The key that no table may have. -/
def reservedKey : String := "___figment_value_id"

/-- The value that a table stands for: one of its entries, or itself. -/
def tableValue? (entries : List (String × Value)) : Option Value :=
  if (entries.lookup reservedKey).isSome then none
  else some ((entries.lookup standInKey).getD (.table entries))

mutual

/-- The value that remains when every table inside gives way to the value that it stands for. -/
def standing? : Value → Option Value
  | .list items => (standingItems? items).map .list
  | .table entries => (standingEntries? entries).bind tableValue?
  | value => some value

def standingItems? : List Value → Option (List Value)
  | [] => some []
  | item :: items =>
    match standing? item, standingItems? items with
    | some item, some items => some (item :: items)
    | _, _ => none

def standingEntries? : List (String × Value) → Option (List (String × Value))
  | [] => some []
  | (name, value) :: entries =>
    match standing? value, standingEntries? entries with
    | some value, some entries => some ((name, value) :: entries)
    | _, _ => none

end

/-- A table with a reserved key stands for nothing. -/
theorem tableValue?_eq_none_iff (entries : List (String × Value)) :
    tableValue? entries = none ↔ (entries.lookup reservedKey).isSome := by
  simp [tableValue?]

/-- A table that has neither of the two keys stands for itself. -/
theorem tableValue?_of_lookup {entries : List (String × Value)}
    (reserved : entries.lookup reservedKey = none) (standIn : entries.lookup standInKey = none) :
    tableValue? entries = some (.table entries) := by
  simp [tableValue?, reserved, standIn]

/-- The keys of a table stay the same, in the same order. -/
theorem standingEntries?_keys {entries found : List (String × Value)}
    (h : standingEntries? entries = some found) :
    found.map Prod.fst = entries.map Prod.fst := by
  induction entries generalizing found with
  | nil => simp_all [standingEntries?]
  | cons entry entries ih =>
    obtain ⟨name, value⟩ := entry
    cases hvalue : standing? value <;> cases hrest : standingEntries? entries <;>
      simp [standingEntries?, hvalue, hrest] at h
    subst h
    simp [ih hrest]

end HostLookup.Toml
