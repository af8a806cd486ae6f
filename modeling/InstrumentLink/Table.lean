namespace InstrumentLink

structure Table (κ α : Type) where
  entries : List (κ × α) := []
deriving Repr

namespace Table

variable {κ α : Type} [DecidableEq κ]

def get? (table : Table κ α) (key : κ) : Option α :=
  (table.entries.find? (·.1 = key)).map (·.2)

/-- The table without a key. -/
def erase (table : Table κ α) (key : κ) : Table κ α :=
  ⟨table.entries.filter (·.1 ≠ key)⟩

/-- The table with an entry for a key, after the entries that were there before. -/
def insert (table : Table κ α) (key : κ) (a : α) : Table κ α :=
  ⟨(table.erase key).entries ++ [(key, a)]⟩

def any (table : Table κ α) (condition : α → Bool) : Bool :=
  table.entries.any fun entry => condition entry.2

def keyOf? (table : Table κ α) (condition : α → Bool) : Option κ :=
  (table.entries.find? fun entry => condition entry.2).map (·.1)

private theorem get?_erase_self (table : Table κ α) (key : κ) :
    (table.erase key).get? key = none := by
  simp [get?, erase, List.find?_eq_none]

theorem get?_erase_of_ne (table : Table κ α) {key other : κ} (h : other ≠ key) :
    (table.erase key).get? other = table.get? other := by
  simp only [get?, erase, List.find?_filter]
  congr 2
  funext entry
  by_cases hk : entry.1 = other <;> simp [hk, h]

@[simp] theorem get?_insert_self (table : Table κ α) (key : κ) (a : α) :
    (table.insert key a).get? key = some a := by
  have gone := table.get?_erase_self key
  simp only [get?, Option.map_eq_none_iff] at gone
  simp [get?, insert, List.find?_append, gone]

theorem get?_insert_of_ne (table : Table κ α) {key other : κ} (a : α) (h : other ≠ key) :
    (table.insert key a).get? other = table.get? other := by
  rw [← table.get?_erase_of_ne h]
  simp [get?, insert, List.find?_append, Ne.symm h]

end Table

end InstrumentLink
