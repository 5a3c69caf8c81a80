namespace ShaderGraph

/-- A finite map, the newest binding first. -/
structure Table (κ α : Type) where
  entries : List (κ × α)
  deriving Repr

namespace Table

variable {κ α : Type} [BEq κ]

def empty : Table κ α := ⟨[]⟩

def find? (t : Table κ α) (key : κ) : Option α := t.entries.lookup key

/-- Binds a key, in place of what it was bound to. -/
def insert (t : Table κ α) (key : κ) (value : α) : Table κ α :=
  ⟨(key, value) :: t.entries.filter fun entry => entry.1 != key⟩

def size (t : Table κ α) : Nat := t.entries.length

/-- Binds pairs in order, so the last pair of a key counts. -/
def ofList (pairs : List (κ × α)) : Table κ α :=
  pairs.foldl (fun t pair => t.insert pair.1 pair.2) empty

@[simp] theorem find?_empty (key : κ) : (empty : Table κ α).find? key = none := rfl

theorem find?_insert_self [LawfulBEq κ] (t : Table κ α) (key : κ) (value : α) :
    (t.insert key value).find? key = some value := by
  simp [insert, find?]

theorem find?_insert_of_ne [LawfulBEq κ] (t : Table κ α) {key other : κ} (value : α)
    (ne : other ≠ key) : (t.insert key value).find? other = t.find? other := by
  have differs : (other == key) = false := by simpa using ne
  simp only [insert, find?, List.lookup_cons, differs]
  induction t.entries with
  | nil => rfl
  | cons entry rest ih =>
    obtain ⟨k, v⟩ := entry
    by_cases same : k = key
    · subst same
      simpa [List.lookup_cons, differs] using ih
    · simp [same, List.lookup_cons, ih]

end Table

end ShaderGraph
