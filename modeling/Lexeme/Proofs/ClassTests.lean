import Lexeme.Proofs.Places
import Lexeme.Proofs.TokenAt

/-!
# Tests of classes

The tests that lead to the classes of characters (`CharClass.tests`) exclude one another, because
each of them holds of the characters of its own class only (`CharClass.passes_iff`). In whatever
order they are tried, the first one that a character passes therefore leads to the same class
(`CharClass.firstPassed_eq_of`). A class starts tokens exactly if a token can start at the
characters of the class (`CharClass.startsToken_of_mem_tokens_scan`, `CharClass.exists_token`).
-/

set_option autoImplicit false
set_option relaxedAutoImplicit false

namespace Lexeme.CharClass

open Text (isDecimalDigit isLetter isSeparator inCategoryNd inCategoryL byteWidth Follows)

/-! ### The order of the tests -/

/-- The tests with the classes they lead to, in the order in which they are tried. -/
def tests : List ((Char → Bool) × CharClass) := [
  (isDecimalDigit, digit), (isLetter, letter), ((· == '"'), quote), (isOperatorChar, operator),
  (isDelimiterChar, delimiter), (isSeparator, whitespace)]

/-- The class of the first test that a character passes. -/
def firstPassed (order : List ((Char → Bool) × CharClass)) (c : Char) : CharClass :=
  match order.find? (·.1 c) with
  | some test => test.2
  | none => other

/-- A character passes a test exactly if it is of the class of the test. -/
theorem passes_iff {test : (Char → Bool) × CharClass} (hmem : test ∈ tests) (c : Char) :
    test.1 c = true ↔ of c = test.2 := by
  simp only [tests, List.mem_cons, List.not_mem_nil, or_false] at hmem
  rcases hmem with rfl | rfl | rfl | rfl | rfl | rfl
  · exact (of_eq_digit_iff c).symm
  · exact (of_eq_letter_iff c).symm
  · rw [of_eq_quote_iff, beq_iff_eq]
  · exact (of_eq_operator_iff c).symm
  · exact (of_eq_delimiter_iff c).symm
  · exact (of_eq_whitespace_iff c).symm

theorem nodup_classes : (tests.map (·.2)).Nodup := by decide

theorem other_not_mem_classes : other ∉ tests.map (·.2) := by decide

theorem mem_classes {cls : CharClass} (hcls : cls ≠ other) : cls ∈ tests.map (·.2) := by
  cases cls with
  | other => exact absurd rfl hcls
  | _ => decide

/-- No character passes two of the tests. -/
theorem countP_passed_le (c : Char) : tests.countP (·.1 c) ≤ 1 := by
  have hcount : tests.countP (·.1 c) = (tests.map (·.2)).count (of c) := by
    rw [List.count, List.countP_map]
    refine List.countP_congr fun test hmem ↦ ?_
    rw [passes_iff hmem, Function.comp_apply, beq_iff_eq, eq_comm]
  rw [hcount]
  exact List.nodup_iff_count_le_one.mp nodup_classes (of c)

/-- Outside every class are the characters that pass no test. -/
theorem of_eq_other_iff (c : Char) : of c = other ↔ ∀ test ∈ tests, test.1 c = false := by
  constructor
  · intro hother test hmem
    rw [Bool.eq_false_iff, Ne, passes_iff hmem, hother]
    exact fun heq ↦ other_not_mem_classes (heq ▸ List.mem_map_of_mem hmem)
  · intro hnone
    by_contra hclass
    obtain ⟨test, hmem, heq⟩ := List.mem_map.mp (mem_classes hclass)
    have hpasses := (passes_iff hmem c).mpr heq.symm
    rw [hnone test hmem] at hpasses
    cases hpasses

/-- The class of a character does not depend on the order in which the tests are tried. -/
theorem firstPassed_eq_of {order : List ((Char → Bool) × CharClass)} (horder : order.Perm tests)
    (c : Char) : firstPassed order c = of c := by
  rw [firstPassed]
  cases hfind : order.find? (·.1 c) with
  | some test =>
    have hmem : test ∈ tests := horder.mem_iff.mp (List.mem_of_find?_eq_some hfind)
    have hpasses := List.find?_some hfind
    exact ((passes_iff hmem c).mp hpasses).symm
  | none =>
    refine ((of_eq_other_iff c).mpr fun test hmem ↦ ?_).symm
    have hfails := List.find?_eq_none.mp hfind test (horder.mem_iff.mpr hmem)
    exact Bool.eq_false_iff.mpr hfails

/-! ### Where tokens start -/

theorem startsToken_iff (cls : CharClass) :
    cls.startsToken = true ↔ ∃ kind : TokenKind, cls = kind.startClass := by
  constructor
  · intro hstarts
    rcases startClass_or_gap cls with hkind | rfl | rfl
    · exact hkind
    · cases hstarts
    · cases hstarts
  · rintro ⟨kind, rfl⟩
    cases kind <;> rfl

/-- Wherever a token starts in a source, there stands a character that starts tokens. -/
theorem startsToken_of_mem_tokens_scan (settings : ScanSettings) (before : List Char) {c : Char}
    {cs : List Char} {token : Spanned Token}
    (hmem : token ∈ (scan settings (String.ofList (before ++ c :: cs))).tokens)
    (hstart : token.span.start = byteWidth before) : (of c).startsToken = true := by
  have hpiece := (mem_tokens_scan_iff _ settings token).mp hmem
  have htoken : token.value.WellFormed := Piece.wellFormed_of_mem_located _ hpiece
  obtain ⟨d, ds, hlexeme, hclass⟩ := htoken.exists_cons
  obtain ⟨front, back, hsource, hspan⟩ := Piece.mem_ofSource _ hpiece
  have htext :
      Follows (String.ofList (before ++ c :: cs)) (byteWidth before) (d :: (ds ++ back)) := by
    refine ⟨front, ?_, ?_⟩
    · rw [hsource, Piece.text, hlexeme, List.cons_append]
    · rw [← hstart]
      exact (congrArg Span.start hspan).symm
  have hat : Follows (String.ofList (before ++ c :: cs)) (byteWidth before) (c :: cs) :=
    ⟨before, String.toList_ofList, rfl⟩
  obtain rfl := (List.cons.inj (hat.text_eq htext)).1
  exact (startsToken_iff _).mpr ⟨_, hclass⟩

/-- Before a quote each character that starts tokens starts one. -/
theorem exists_token (settings : ScanSettings) {c : Char} (hstarts : (of c).startsToken = true) :
    ∃ token ∈ (scan settings (String.ofList [c, '"'])).tokens, token.span.start = 0 := by
  obtain ⟨kind, hclass⟩ := (startsToken_iff _).mp hstarts
  have hsome : (Munch.ofKind? kind [c, '"']).isSome := by
    cases kind with
    | string =>
      obtain rfl := (of_eq_quote_iff c).mp hclass
      decide
    | _ => rfl
  obtain ⟨⟨token, rest⟩, htaken⟩ := Option.isSome_iff_exists.mp hsome
  have hnext := Piece.next_of_startClass ['"'] hclass
  rw [htaken] at hnext
  refine ⟨⟨token, 0, token.width⟩, (mem_tokens_scan_iff _ settings _).mpr ?_, rfl⟩
  rw [Piece.ofSource, String.toList_ofList, Piece.located, hnext]
  simp [Piece.width]

/-- The class of a character is independent of the order of the tests, and agrees with the general
categories, with what continues words and with where tokens start. -/
theorem of_agrees (c : Char) :
    tests.countP (·.1 c) ≤ 1 ∧
      (∀ order, order.Perm tests → firstPassed order c = of c) ∧
      (of c = other ↔ ∀ test ∈ tests, test.1 c = false) ∧
      (c.toNat < 128 → c.isDigit = inCategoryNd c ∧ c.isAlpha = inCategoryL c) ∧
      isDecimalDigit c = inCategoryNd c ∧ isLetter c = inCategoryL c ∧
      (isWordContinue c = true ↔ of c = digit ∨ of c = letter ∨ c = '_') ∧
      ∀ settings, (of c).startsToken = true ↔
        ∃ cs, ∃ token ∈ (scan settings (String.ofList (c :: cs))).tokens, token.span.start = 0 := by
  refine ⟨countP_passed_le c, fun order horder ↦ firstPassed_eq_of horder c, of_eq_other_iff c,
    ascii_categories,
    isDecimalDigit_eq_inCategoryNd c, isLetter_eq_inCategoryL c, ?_, fun settings ↦ ⟨?_, ?_⟩⟩
  · rw [isWordContinue_eq_true_iff]
    tauto
  · exact fun hstarts ↦ ⟨['"'], exists_token settings hstarts⟩
  · rintro ⟨cs, token, hmem, hstart⟩
    exact startsToken_of_mem_tokens_scan settings [] hmem hstart

end Lexeme.CharClass
