import Lexeme.Text.Lowercase
import Mathlib.Tactic.SplitIfs

/-!
# Lower case of plain names

A name of basic letters can be written in any letter case: the lower case of a text is the name just
if the text is the name up to the case of its basic letters (`Text.lowercase_eq_iff`). Letters beyond
the basic ones do not become basic letters, save that the Kelvin sign becomes a `k`, so that names
with a `k` are left out.
-/

set_option autoImplicit false
set_option relaxedAutoImplicit false

namespace Lexeme.Text

/-- A basic character that no character beyond the basic ones has as its lower case. -/
def IsPlain (c : Char) : Prop :=
  0 < c.toNat ∧ c.toNat < 0x80 ∧ c ≠ 'k'

instance : DecidablePred IsPlain := fun _ ↦ inferInstanceAs (Decidable (_ ∧ _))

/-! ### Single characters -/

/-- The run of the basic letters. -/
def basicRun : CaseRun := ⟨0x41, 0x5a, 1, 0x61⟩

theorem caseRuns_eq : caseRuns = basicRun :: caseRuns.tail := rfl

/-- The other runs are of letters beyond the basic ones and lead to such letters. Only the Kelvin
sign, which is a run by itself, leads to a basic letter. -/
theorem beyond_of_mem_tail :
    ∀ run ∈ caseRuns.tail, 0x80 ≤ run.first ∧
      (0x80 ≤ run.lower ∨ run.first = run.last ∧ run.lower = 'k'.toNat) := by
  decide +kernel

theorem CaseRun.covers_iff (run : CaseRun) (code : Nat) :
    run.covers code = true ↔
      run.first ≤ code ∧ code ≤ run.last ∧ (code - run.first) % run.step = 0 := by
  simp [CaseRun.covers, and_assoc]

theorem lowerChar_of_lt {c : Char} (hc : c.toNat < 0x80) : lowerChar c = c.toLower := by
  have hothers : caseRuns.tail.find? (·.covers c.toNat) = none := by
    rw [List.find?_eq_none]
    intro run hmem hcovers
    have hfirst := (beyond_of_mem_tail run hmem).1
    have hcode := (run.covers_iff c.toNat).1 hcovers
    omega
  have hbasic : ∀ code < 0x80, (if basicRun.covers code then Char.ofNat (0x61 + (code - 0x41))
      else Char.ofNat code) = (Char.ofNat code).toLower := by
    decide
  have hcode := hbasic c.toNat hc
  rw [Char.ofNat_toNat] at hcode
  rw [← hcode, lowerChar, caseRuns_eq, List.find?_cons, hothers]
  cases basicRun.covers c.toNat <;> rfl

theorem toLower_of_le {c : Char} (hc : 0x80 ≤ c.toNat) : c.toLower = c := by
  unfold Char.toLower
  rw [dif_neg]
  rintro ⟨-, hle⟩
  have hle : c.toNat ≤ 'Z'.toNat := UInt32.le_iff_toNat_le.1 hle
  have hz : 'Z'.toNat = 0x5a := rfl
  omega

theorem toNat_ofNat_cases (code : Nat) :
    (Char.ofNat code).toNat = code ∨ (Char.ofNat code).toNat = 0 := by
  by_cases hvalid : code.isValidChar
  · rw [Char.ofNat, dif_pos hvalid]
    exact Or.inl rfl
  · rw [Char.ofNat, dif_neg hvalid]
    exact Or.inr rfl

/-- What a character beyond the basic ones becomes is not plain. -/
theorem not_isPlain_lowerChar {c : Char} (hc : 0x80 ≤ c.toNat) : ¬ IsPlain (lowerChar c) := by
  have hbasic : basicRun.covers c.toNat = false := by
    rw [← Bool.not_eq_true, CaseRun.covers_iff]
    rintro ⟨-, hle, -⟩
    have hlast : basicRun.last = 0x5a := rfl
    omega
  rw [lowerChar, caseRuns_eq, List.find?_cons, hbasic]
  rintro ⟨hpos, hlt, hk⟩
  cases hfound : caseRuns.tail.find? (·.covers c.toNat) with
  | none =>
    rw [hfound] at hlt
    exact Nat.not_lt_of_le hc hlt
  | some run =>
    simp only [hfound] at hpos hlt hk
    have hcovers := List.find?_some hfound
    have hcode := (run.covers_iff c.toNat).1 hcovers
    obtain ⟨hfirst, hlower | ⟨hsingle, hkelvin⟩⟩ :=
      beyond_of_mem_tail run (List.mem_of_find?_eq_some hfound)
    · have hcases := toNat_ofNat_cases (run.lower + (c.toNat - run.first))
      omega
    · have hsame : c.toNat - run.first = 0 := by omega
      rw [hkelvin, hsame, Nat.add_zero, Char.ofNat_toNat] at hk
      exact hk rfl

/-! ### Texts -/

variable (before after : List Char) {c : Char}

theorem lowerBetween_of_lt (hc : c.toNat < 0x80) : lowerBetween before c after = [c.toLower] := by
  unfold lowerBetween
  have hsigma : c ≠ 'Σ' := by
    rintro rfl
    revert hc
    decide
  have hdotted : c ≠ 'İ' := by
    rintro rfl
    revert hc
    decide
  rw [if_neg hsigma, if_neg hdotted, lowerChar_of_lt hc]

theorem exists_not_isPlain_lowerBetween (hc : 0x80 ≤ c.toNat) :
    ∃ e ∈ lowerBetween before c after, ¬ IsPlain e := by
  unfold lowerBetween
  split_ifs
  · exact ⟨'ς', List.mem_singleton_self _, by decide⟩
  · exact ⟨'σ', List.mem_singleton_self _, by decide⟩
  · exact ⟨'\u0307', by decide, by decide⟩
  · exact ⟨lowerChar c, List.mem_singleton_self _, not_isPlain_lowerChar hc⟩

theorem lowerFrom_eq_iff {name : List Char} (hname : ∀ d ∈ name, IsPlain d) (cs : List Char) :
    lowerFrom before cs = name ↔ cs.map Char.toLower = name := by
  induction cs generalizing before name with
  | nil => rfl
  | cons c after ih =>
    rw [lowerFrom, List.map_cons]
    by_cases hc : c.toNat < 0x80
    · rw [lowerBetween_of_lt before after hc, List.singleton_append]
      cases name with
      | nil => simp
      | cons d ds => rw [List.cons.injEq, List.cons.injEq, ih _ (List.forall_mem_cons.1 hname).2]
    · -- Neither side can be a plain name, as it has a character that is not plain.
      rw [Nat.not_lt] at hc
      constructor
      · rintro rfl
        obtain ⟨e, hmem, he⟩ := exists_not_isPlain_lowerBetween before after hc
        exact absurd (hname e (List.mem_append_left _ hmem)) he
      · rintro rfl
        have hplain := hname _ List.mem_cons_self
        rw [toLower_of_le hc] at hplain
        exact absurd hplain.2.1 (Nat.not_lt_of_le hc)

/-- The lower case of a text is a plain name just if the text is the name up to the case of basic
letters. -/
theorem lowercase_eq_iff {name : String} (hname : ∀ d ∈ name.toList, IsPlain d) (text : String) :
    lowercase text = name ↔ text.toLower = name := by
  rw [← String.toList_inj, lowercase, String.toList_ofList, lowerFrom_eq_iff [] hname,
    ← String.toList_map, String.toList_inj]
  rfl

end Lexeme.Text
