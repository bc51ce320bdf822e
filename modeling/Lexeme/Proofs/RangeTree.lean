import Lexeme.Text.RangeTree
import Mathlib.Algebra.Group.Nat.Defs
import Mathlib.Data.List.Chain

/-!
# Searching sets of code points

A tree built from ranges in increasing order finds exactly the code points of the ranges
(`contains_ofSorted_iff`). The tree has enough levels to hold every range
(`toList_ofSorted`), and a search that turns aside at a node loses nothing, because the ranges on
the other side lie beyond the node (`contains_iff`).
-/

set_option autoImplicit false
set_option relaxedAutoImplicit false

namespace Lexeme.Text

/-- A range of code points ends before another one starts, and holds at least one code point. -/
def Precedes (a b : Nat × Nat) : Prop :=
  a.1 ≤ a.2 ∧ a.2 < b.1

instance : DecidableRel Precedes := fun _ _ ↦ inferInstanceAs (Decidable (_ ∧ _))

theorem Precedes.trans {a b c : Nat × Nat} (hab : Precedes a b) (hbc : Precedes b c) :
    Precedes a c :=
  ⟨hab.1, Nat.lt_trans (Nat.lt_of_lt_of_le hab.2 hbc.1) hbc.2⟩

instance : Trans Precedes Precedes Precedes := ⟨Precedes.trans⟩

/-- Ranges of code points in increasing order, none of them empty. -/
def Ascending (ranges : List (Nat × Nat)) : Prop :=
  (∀ range ∈ ranges, range.1 ≤ range.2) ∧ ranges.IsChain Precedes

instance : DecidablePred Ascending := fun _ ↦ inferInstanceAs (Decidable (_ ∧ _))

namespace RangeTree

/-- What does not fit into a tree of some depth is what follows the ranges that fill it. -/
theorem build_snd (depth : Nat) (ranges : List (Nat × Nat)) :
    (build depth ranges).2 = ranges.drop (2 ^ depth - 1) := by
  induction depth generalizing ranges with
  | zero => rfl
  | succ depth ih =>
    have hpow : 2 ^ (depth + 1) - 1 = (2 ^ depth - 1) + (1 + (2 ^ depth - 1)) := by
      have hpos : 0 < 2 ^ depth := Nat.two_pow_pos depth
      rw [Nat.pow_succ]
      omega
    have hleft := ih ranges
    rw [hpow, ← List.drop_drop, ← hleft, build]
    split
    · next left heq => rw [heq, List.drop_nil]
    · next left first last rest heq =>
      rw [heq, Nat.add_comm, List.drop_succ_cons]
      exact ih rest

/-- A tree built from ranges lists exactly these ranges. -/
theorem toList_ofSorted (ranges : List (Nat × Nat)) : (ofSorted ranges).toList = ranges := by
  have hall := toList_build (ranges.length.log2 + 1) ranges
  have hlength : ranges.length < 2 ^ (ranges.length.log2 + 1) := Nat.lt_log2_self
  rw [build_snd, List.drop_eq_nil_of_le (by omega), List.append_nil] at hall
  exact hall

/-- A search in a tree whose ranges are in order finds the code points of its ranges. -/
theorem contains_iff (tree : RangeTree) (hfilled : ∀ range ∈ tree.toList, range.1 ≤ range.2)
    (hsorted : tree.toList.Pairwise Precedes) (code : Nat) :
    tree.contains code = true ↔ ∃ range ∈ tree.toList, range.1 ≤ code ∧ code ≤ range.2 := by
  induction tree with
  | leaf => simp [contains, toList]
  | node left first last right ihleft ihright =>
    simp only [toList, List.pairwise_append, List.pairwise_cons, List.mem_append,
      List.mem_cons] at hsorted hfilled ⊢
    obtain ⟨hleft, ⟨hnode, hright⟩, hacross⟩ := hsorted
    have hleftIff := ihleft (fun range hmem ↦ hfilled range (Or.inl hmem)) hleft
    have hrightIff := ihright (fun range hmem ↦ hfilled range (Or.inr (Or.inr hmem))) hright
    rw [contains]
    split
    · next hbefore =>
      rw [hleftIff]
      constructor
      · rintro ⟨range, hmem, hrange⟩
        exact ⟨range, Or.inl hmem, hrange⟩
      · rintro ⟨range, hmem | rfl | hmem, hstart, hstop⟩
        · exact ⟨range, hmem, hstart, hstop⟩
        · omega
        · have horder := (hnode range hmem).2
          have hnodeFilled := hfilled (first, last) (Or.inr (Or.inl rfl))
          omega
    · next hbefore =>
      split
      · next hafter =>
        rw [hrightIff]
        constructor
        · rintro ⟨range, hmem, hrange⟩
          exact ⟨range, Or.inr (Or.inr hmem), hrange⟩
        · rintro ⟨range, hmem | rfl | hmem, hstart, hstop⟩
          · have horder := (hacross range hmem (first, last) (Or.inl rfl)).2
            omega
          · omega
          · exact ⟨range, hmem, hstart, hstop⟩
      · next hafter =>
        refine iff_of_true rfl ⟨(first, last), Or.inr (Or.inl rfl), ?_, ?_⟩
        · exact Nat.le_of_not_lt hbefore
        · exact Nat.le_of_not_lt hafter

/-- A tree built from ranges in order finds the code points of these ranges. -/
theorem contains_ofSorted_iff {ranges : List (Nat × Nat)} (hranges : Ascending ranges)
    (code : Nat) :
    (ofSorted ranges).contains code = true ↔
      ∃ range ∈ ranges, range.1 ≤ code ∧ code ≤ range.2 := by
  have hlist := toList_ofSorted ranges
  have hsorted := List.isChain_iff_pairwise.mp hranges.2
  have hiff := contains_iff (ofSorted ranges) (hlist.symm ▸ hranges.1) (hlist.symm ▸ hsorted) code
  rwa [hlist] at hiff

end RangeTree

end Lexeme.Text
