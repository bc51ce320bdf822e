import Lexeme.Text.Dictionary
import Mathlib.Data.List.Nodup

/-!
# Looking up in dictionaries

A dictionary is read through `get?`: putting a value under a key changes the value under this key
and no other (`get?_insert`), the entries are what is found (`get?_eq_some_iff`), the keys are those
with a value (`mem_keys_iff`), and no key occurs twice (`nodup_keys`). Nothing else counts: where
the same is found, the dictionaries are the same (`eq_of_get?_eq`). Its entries, put in one after the
other, make the same dictionary again (`ofList_entries`).
-/

set_option autoImplicit false
set_option relaxedAutoImplicit false

namespace Lexeme.Text.Dictionary

variable {α : Type}

theorem lookup_cons (key other : String) (value : α) (entries : List (String × α)) :
    ((key, value) :: entries).lookup other =
      if other = key then some value else entries.lookup other := by
  by_cases hother : other = key
  · rw [if_pos hother, hother, List.lookup_cons_self]
  · rw [if_neg hother, List.lookup_cons, beq_false_of_ne hother]

theorem lookup_insertEntry (key other : String) (value : α) (entries : List (String × α)) :
    (insertEntry key value entries).lookup other =
      if other = key then some value else entries.lookup other := by
  induction entries with
  | nil => rw [insertEntry, lookup_cons]
  | cons head rest ih =>
    obtain ⟨k, v⟩ := head
    rw [insertEntry]
    by_cases hless : key < k
    · rw [if_pos hless, lookup_cons]
    · rw [if_neg hless]
      by_cases hsame : key = k
      · rw [if_pos hsame, lookup_cons, lookup_cons, hsame]
        by_cases hother : other = k <;> simp [hother]
      · rw [if_neg hsame, lookup_cons, lookup_cons, ih]
        by_cases hother : other = key
        · simp [hother, hsame]
        · simp [hother]

/-- Putting a value under a key changes what is found there and nowhere else. -/
@[simp] theorem get?_insert (dictionary : Dictionary α) (key other : String) (value : α) :
    (dictionary.insert key value).get? other =
      if other = key then some value else dictionary.get? other :=
  lookup_insertEntry key other value dictionary.entries

@[simp] theorem get?_empty (key : String) : (empty : Dictionary α).get? key = none := rfl

theorem lookup_eq_some_iff {entries : List (String × α)}
    (hsorted : entries.Pairwise (fun a b ↦ a.1 < b.1)) (key : String) (value : α) :
    entries.lookup key = some value ↔ (key, value) ∈ entries := by
  induction entries with
  | nil => simp
  | cons entry entries ih =>
    obtain ⟨k, v⟩ := entry
    obtain ⟨hfirst, hrest⟩ := List.pairwise_cons.mp hsorted
    rw [lookup_cons, List.mem_cons, Prod.mk.injEq]
    by_cases hkey : key = k
    · have hfresh : (key, value) ∉ entries := fun hmem ↦ by
        have hless : k < key := hfirst _ hmem
        exact String.lt_irrefl k (hkey ▸ hless)
      rw [if_pos hkey, Option.some_inj]
      simp [hkey, eq_comm, hkey ▸ hfresh]
    · rw [if_neg hkey, ih hrest]
      simp [hkey]

/-- The entries of a dictionary are what is found in it. -/
theorem get?_eq_some_iff (dictionary : Dictionary α) (key : String) (value : α) :
    dictionary.get? key = some value ↔ (key, value) ∈ dictionary.entries :=
  lookup_eq_some_iff dictionary.sorted key value

/-- The keys of a dictionary are those under which there is a value. -/
theorem mem_keys_iff (dictionary : Dictionary α) (key : String) :
    key ∈ dictionary.keys ↔ dictionary.get? key ≠ none := by
  rw [keys, get?]
  induction dictionary.entries with
  | nil => simp
  | cons head rest ih =>
    obtain ⟨k, v⟩ := head
    rw [List.map_cons, List.mem_cons, lookup_cons, ih]
    by_cases hkey : key = k <;> simp [hkey]

theorem get?_eq_none_iff (dictionary : Dictionary α) (key : String) :
    dictionary.get? key = none ↔ key ∉ dictionary.keys := by
  rw [mem_keys_iff, ne_eq, not_not]

/-- No key occurs twice. -/
theorem nodup_keys (dictionary : Dictionary α) : dictionary.keys.Nodup := by
  refine List.pairwise_map.mpr (dictionary.sorted.imp fun hless heq ↦ ?_)
  rw [heq] at hless
  exact String.lt_irrefl _ hless

/-- A dictionary is what is found in it. -/
theorem eq_of_get?_eq {dictionary other : Dictionary α}
    (hget : ∀ key, dictionary.get? key = other.get? key) : dictionary = other := by
  have hnodup (dictionary : Dictionary α) : dictionary.entries.Nodup :=
    List.Nodup.of_map Prod.fst dictionary.nodup_keys
  have hmem : ∀ entry, entry ∈ dictionary.entries ↔ entry ∈ other.entries := fun (key, value) ↦ by
    rw [← get?_eq_some_iff, ← get?_eq_some_iff, hget]
  have hentries : dictionary.entries = other.entries :=
    ((List.perm_ext_iff_of_nodup (hnodup dictionary) (hnodup other)).mpr hmem).eq_of_pairwise
      (fun _ _ _ _ hless hgreater ↦ absurd hless (String.lt_asymm hgreater))
      dictionary.sorted other.sorted
  cases dictionary
  cases other
  cases hentries
  rfl

theorem length_keys (dictionary : Dictionary α) : dictionary.keys.length = dictionary.size :=
  List.length_map ..

theorem eq_empty_of_isEmpty {dictionary : Dictionary α} (hempty : dictionary.isEmpty) :
    dictionary = empty := by
  obtain ⟨entries, sorted⟩ := dictionary
  cases List.isEmpty_iff.mp hempty
  rfl

/-- An entry with a key greater than all others comes last. -/
theorem insertEntry_of_forall_lt {key : String} {entries : List (String × α)}
    (hless : ∀ entry ∈ entries, entry.1 < key) (value : α) :
    insertEntry key value entries = entries ++ [(key, value)] := by
  induction entries with
  | nil => rfl
  | cons head rest ih =>
    obtain ⟨k, v⟩ := head
    have hk : k < key := hless (k, v) List.mem_cons_self
    have hne : key ≠ k := fun heq ↦ String.lt_irrefl k (heq ▸ hk)
    rw [insertEntry, if_neg (String.lt_asymm hk), if_neg hne,
      ih fun entry hmem ↦ hless entry (List.mem_cons_of_mem _ hmem), List.cons_append]

theorem entries_foldl_insert (entries : List (String × α)) (dictionary : Dictionary α)
    (hsorted : (dictionary.entries ++ entries).Pairwise (fun a b ↦ a.1 < b.1)) :
    (entries.foldl (fun dictionary entry ↦ dictionary.insert entry.1 entry.2) dictionary).entries =
      dictionary.entries ++ entries := by
  induction entries generalizing dictionary with
  | nil => exact (List.append_nil _).symm
  | cons entry entries ih =>
    have hless : ∀ earlier ∈ dictionary.entries, earlier.1 < entry.1 := fun earlier hmem ↦
      (List.pairwise_append.mp hsorted).2.2 earlier hmem entry List.mem_cons_self
    have hinsert : (dictionary.insert entry.1 entry.2).entries = dictionary.entries ++ [entry] :=
      insertEntry_of_forall_lt hless entry.2
    rw [List.foldl_cons, ih, hinsert, List.append_assoc, List.singleton_append]
    rw [hinsert, List.append_assoc, List.singleton_append]
    exact hsorted

/-- Entries in increasing order are put in as they are. -/
theorem ofList_entries (dictionary : Dictionary α) : ofList dictionary.entries = dictionary := by
  have hentries := entries_foldl_insert dictionary.entries empty dictionary.sorted
  cases dictionary with
  | mk entries sorted =>
    rw [ofList]
    cases hlist : entries.foldl _ (empty : Dictionary α) with
    | mk others _ =>
      rw [hlist] at hentries
      cases hentries
      rfl

end Lexeme.Text.Dictionary
