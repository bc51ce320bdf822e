import Lexeme.Proofs.Dictionary
import Mathlib.Data.List.Induction
import Mathlib.Data.List.Perm.Subperm

/-!
# Dictionaries that take in the first keys

A dictionary of limited size takes in a value under a key that it knows, and under a new key as long
as it has room. Of keys that come one after the other it therefore keeps the first distinct ones, up
to the limit (`Text.Dictionary.firstKeys`): a key that is taken in is one of them
(`Text.Dictionary.keys_insert_perm`), and a key that is refused is known to be none
(`Text.Dictionary.firstKeys_concat_of_full`). Keys from a table that is no longer than the limit are
all kept (`Text.Dictionary.mem_firstKeys_of_subset`).
-/

set_option autoImplicit false
set_option relaxedAutoImplicit false

namespace Lexeme.Text.Dictionary

variable {α : Type}

theorem contains_iff (dictionary : Dictionary α) (key : String) :
    dictionary.contains key = true ↔ key ∈ dictionary.keys := by
  simp [contains, keys]

theorem mem_keys_insert (dictionary : Dictionary α) (key other : String) (value : α) :
    other ∈ (dictionary.insert key value).keys ↔ other = key ∨ other ∈ dictionary.keys := by
  rw [mem_keys_iff, mem_keys_iff, get?_insert]
  split_ifs with hother <;> simp [hother]

/-- A known key is put in again without a change of the keys. -/
theorem keys_insert_perm_of_mem {dictionary : Dictionary α} {key : String}
    (hmem : key ∈ dictionary.keys) (value : α) :
    (dictionary.insert key value).keys.Perm dictionary.keys := by
  refine (List.perm_ext_iff_of_nodup (nodup_keys _) (nodup_keys _)).mpr fun other ↦ ?_
  rw [mem_keys_insert, or_iff_right_of_imp (· ▸ hmem)]

/-- A new key is one more key. -/
theorem keys_insert_perm_of_not_mem {dictionary : Dictionary α} {key : String}
    (hnew : key ∉ dictionary.keys) (value : α) :
    (dictionary.insert key value).keys.Perm (dictionary.keys ++ [key]) := by
  have hnodup : (dictionary.keys ++ [key]).Nodup :=
    List.perm_append_singleton key dictionary.keys |>.nodup_iff.mpr
      (List.nodup_cons.mpr ⟨hnew, nodup_keys _⟩)
  refine (List.perm_ext_iff_of_nodup (nodup_keys _) hnodup).mpr fun other ↦ ?_
  rw [mem_keys_insert, List.mem_append, List.mem_singleton, or_comm]

/-! ### The first distinct keys -/

/-- The first distinct ones of keys, as many as the limit allows, in the order of their first use. -/
def firstKeys (limit : Nat) (keys : List String) : List String :=
  keys.eraseDups.take limit

@[simp] theorem firstKeys_nil (limit : Nat) : firstKeys limit [] = [] := by
  rw [firstKeys, List.eraseDups_nil, List.take_nil]

theorem eraseDups_concat_of_mem {keys : List String} {key : String} (hmem : key ∈ keys) :
    (keys ++ [key]).eraseDups = keys.eraseDups := by
  simp [List.eraseDups_append, List.removeAll, hmem]

theorem eraseDups_concat_of_not_mem {keys : List String} {key : String} (hnew : key ∉ keys) :
    (keys ++ [key]).eraseDups = keys.eraseDups ++ [key] := by
  simp [List.eraseDups_append, List.eraseDups_cons, List.removeAll, hnew]

theorem nodup_eraseDups (keys : List String) : keys.eraseDups.Nodup := by
  induction keys using List.reverseRecOn with
  | nil => exact List.nodup_nil
  | append_singleton keys key ih =>
    by_cases hmem : key ∈ keys
    · rwa [eraseDups_concat_of_mem hmem]
    · rw [eraseDups_concat_of_not_mem hmem, ← List.concat_eq_append]
      exact ih.concat fun hearlier ↦ hmem (List.mem_eraseDups.mp hearlier)

/-- The distinct ones of keys from a table are no more than the table has. -/
theorem length_eraseDups_le {keys table : List String} (hsubset : keys ⊆ table) :
    keys.eraseDups.length ≤ table.length :=
  (List.subperm_of_subset (nodup_eraseDups keys) fun _ hmem ↦
    hsubset (List.mem_eraseDups.mp hmem)).length_le

/-- Keys from a table that is no longer than the limit allows are all among the first ones. -/
theorem mem_firstKeys_of_subset {limit : Nat} {keys table : List String} (hsubset : keys ⊆ table)
    (hroom : table.length ≤ limit) (key : String) : key ∈ firstKeys limit keys ↔ key ∈ keys := by
  rw [firstKeys, List.take_of_length_le (Nat.le_trans (length_eraseDups_le hsubset) hroom),
    List.mem_eraseDups]

/-- Once as many distinct keys have come as the limit allows, those that follow change nothing. -/
theorem firstKeys_append_of_full {limit : Nat} {keys : List String}
    (hfull : limit ≤ keys.eraseDups.length) (later : List String) :
    firstKeys limit (keys ++ later) = firstKeys limit keys := by
  rw [firstKeys, firstKeys, List.eraseDups_append, List.take_append_of_le_length hfull]

theorem mem_of_mem_firstKeys {limit : Nat} {keys : List String} {key : String}
    (hmem : key ∈ firstKeys limit keys) : key ∈ keys :=
  List.mem_eraseDups.mp (List.mem_of_mem_take hmem)

section Keys

variable {limit : Nat} {dictionary : Dictionary α} {used : List String} {key : String}

/-- What a limited dictionary takes in is known to it or finds room. -/
def Takes (limit : Nat) (dictionary : Dictionary α) (key : String) : Prop :=
  key ∈ dictionary.keys ∨ dictionary.size < limit

/-- A dictionary of the first keys has the size of their list. -/
theorem size_eq_min (hkeys : dictionary.keys.Perm (firstKeys limit used)) :
    dictionary.size = min limit used.eraseDups.length := by
  rw [← length_keys, hkeys.length_eq, firstKeys, List.length_take]

/-- As long as there is room, the keys that are known are all that were used. -/
theorem mem_keys_iff_of_room (hkeys : dictionary.keys.Perm (firstKeys limit used))
    (hroom : dictionary.size < limit) : key ∈ dictionary.keys ↔ key ∈ used := by
  have hsize := size_eq_min hkeys
  rw [hkeys.mem_iff, firstKeys, List.take_of_length_le (by omega), List.mem_eraseDups]

/-- With a key that is taken in, a dictionary of the first keys stays one. -/
theorem keys_insert_perm (hkeys : dictionary.keys.Perm (firstKeys limit used))
    (htakes : Takes limit dictionary key) (value : α) :
    (dictionary.insert key value).keys.Perm (firstKeys limit (used ++ [key])) := by
  by_cases hknown : key ∈ dictionary.keys
  · have hused : key ∈ used := mem_of_mem_firstKeys (hkeys.mem_iff.mp hknown)
    rw [firstKeys, eraseDups_concat_of_mem hused]
    exact (keys_insert_perm_of_mem hknown value).trans hkeys
  · have hroom : dictionary.size < limit := htakes.resolve_left hknown
    have hused : key ∉ used := fun hmem ↦ hknown ((mem_keys_iff_of_room hkeys hroom).mpr hmem)
    have hsize := size_eq_min hkeys
    rw [firstKeys, List.take_of_length_le (by omega)] at hkeys
    rw [firstKeys, eraseDups_concat_of_not_mem hused, List.take_of_length_le (by simp; omega)]
    exact (keys_insert_perm_of_not_mem hknown value).trans (hkeys.append_right [key])

/-- Once there is no room for it, a key changes nothing. -/
theorem firstKeys_concat_of_full (hkeys : dictionary.keys.Perm (firstKeys limit used))
    (hrefused : ¬ Takes limit dictionary key) :
    firstKeys limit (used ++ [key]) = firstKeys limit used := by
  have hsize := size_eq_min hkeys
  have hfull : limit ≤ dictionary.size := Nat.not_lt.mp fun hroom ↦ hrefused (Or.inr hroom)
  exact firstKeys_append_of_full (by omega) [key]

end Keys

end Lexeme.Text.Dictionary
