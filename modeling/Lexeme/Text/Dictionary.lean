/-!
# Dictionaries

Dictionaries: values under texts, kept in increasing order of their keys. Text is ordered by code
points, which is also the order of its bytes.
-/

set_option autoImplicit false
set_option relaxedAutoImplicit false

namespace Lexeme.Text

/-- Values under distinct keys, in increasing order of the keys. -/
structure Dictionary (α : Type) where
  entries : List (String × α)
  sorted : entries.Pairwise (fun a b ↦ a.1 < b.1)

namespace Dictionary

variable {α : Type}

/-- Puts a value under a key into an ordered list of entries. -/
def insertEntry (key : String) (value : α) : List (String × α) → List (String × α)
  | [] => [(key, value)]
  | (k, v) :: rest =>
    if key < k then (key, value) :: (k, v) :: rest
    else if key = k then (key, value) :: rest
    else (k, v) :: insertEntry key value rest

theorem mem_insertEntry {key : String} {value : α} {entries : List (String × α)}
    {entry : String × α} (h : entry ∈ insertEntry key value entries) :
    entry = (key, value) ∨ entry ∈ entries := by
  induction entries with
  | nil => simpa [insertEntry] using h
  | cons head rest ih =>
    obtain ⟨k, v⟩ := head
    rw [insertEntry] at h
    split at h
    · simpa using h
    · split at h
      · rcases List.mem_cons.1 h with h | h
        · exact Or.inl h
        · exact Or.inr (List.mem_cons_of_mem _ h)
      · rcases List.mem_cons.1 h with h | h
        · exact Or.inr (h ▸ List.mem_cons_self)
        · exact (ih h).imp id (List.mem_cons_of_mem _)

theorem sorted_insertEntry (key : String) (value : α) {entries : List (String × α)}
    (h : entries.Pairwise (fun a b ↦ a.1 < b.1)) :
    (insertEntry key value entries).Pairwise (fun a b ↦ a.1 < b.1) := by
  induction entries with
  | nil => simp [insertEntry]
  | cons head rest ih =>
    obtain ⟨k, v⟩ := head
    obtain ⟨first, tail⟩ := List.pairwise_cons.1 h
    rw [insertEntry]
    split
    · next less =>
      refine List.pairwise_cons.2 ⟨fun entry mem ↦ ?_, h⟩
      rcases List.mem_cons.1 mem with mem | mem
      · exact mem ▸ less
      · exact String.lt_trans less (first entry mem)
    · next notLess =>
      split
      · next same => exact List.pairwise_cons.2 ⟨fun entry mem ↦ same ▸ first entry mem, tail⟩
      · next differ =>
        refine List.pairwise_cons.2 ⟨fun entry mem ↦ ?_, ih tail⟩
        rcases mem_insertEntry mem with mem | mem
        · have notLess' : k ≤ key := String.not_lt.1 notLess
          have : k < key := by
            by_cases less : k < key
            · exact less
            · exact absurd (String.le_antisymm (String.not_lt.1 less) notLess') differ
          exact mem ▸ this
        · exact first entry mem

/-- The dictionary without entries. -/
def empty : Dictionary α := ⟨[], List.Pairwise.nil⟩

instance : Inhabited (Dictionary α) := ⟨empty⟩

instance [DecidableEq α] : DecidableEq (Dictionary α) := fun a b ↦
  if h : a.entries = b.entries then
    isTrue (by cases a; cases b; cases h; rfl)
  else
    isFalse (fun same ↦ h (same ▸ rfl))

/-- Puts a value under a key, in place of the one that was there. -/
def insert (dictionary : Dictionary α) (key : String) (value : α) : Dictionary α :=
  ⟨insertEntry key value dictionary.entries, sorted_insertEntry key value dictionary.sorted⟩

/-- The value under a key. -/
def get? (dictionary : Dictionary α) (key : String) : Option α :=
  dictionary.entries.lookup key

/-- Whether there is a value under a key. -/
def contains (dictionary : Dictionary α) (key : String) : Bool :=
  dictionary.entries.any (·.1 == key)

/-- Number of entries. -/
def size (dictionary : Dictionary α) : Nat :=
  dictionary.entries.length

/-- Whether there are no entries. -/
def isEmpty (dictionary : Dictionary α) : Bool :=
  dictionary.entries.isEmpty

/-- Keys from the smallest to the greatest. -/
def keys (dictionary : Dictionary α) : List String :=
  dictionary.entries.map (·.1)

/-- Entries put in one after the other, so that the last one under a key stays. -/
def ofList (entries : List (String × α)) : Dictionary α :=
  entries.foldl (fun dictionary entry ↦ dictionary.insert entry.1 entry.2) empty

end Dictionary

end Lexeme.Text
