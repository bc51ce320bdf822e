import Lexeme.Files.Metadata
import Mathlib.Data.List.TakeWhile
import Mathlib.Tactic.SplitIfs

/-!
# Extensions of paths

The last name of a path is what stands behind its last separator (`IsLastName`), and the extension of
a name is what stands behind its last dot, unless nothing stands before that dot (`IsExtension`).
Both are told by splits of the characters, and what is found in a path is what they tell
(`hasExtension_iff`).
-/

set_option autoImplicit false
set_option relaxedAutoImplicit false

namespace Lexeme.Files

/-- The last name of a path follows its last separator. -/
def IsLastName (path name : List Char) : Prop :=
  '/' ∉ name ∧ (path = name ∨ ∃ front, path = front ++ '/' :: name)

/-- The extension of a name follows its last dot, before which there is something. -/
def IsExtension (name extension : List Char) : Prop :=
  name ≠ ['.', '.'] ∧ ∃ before ≠ [], name = before ++ '.' :: extension ∧ '.' ∉ extension

/-- The extension of a path in lower case: that of its last name, if it has one. -/
inductive HasExtension (path : String) : Option String → Prop where
  | given {name extension : List Char} (last : IsLastName path.toList name)
      (following : IsExtension name extension) :
      HasExtension path (some (Text.lowercase (String.ofList extension)))
  | absent {name : List Char} (last : IsLastName path.toList name)
      (following : ∀ extension, ¬IsExtension name extension) : HasExtension path none

/-! ### Splits at the last of a character -/

/-- A text is split at the last of a character. -/
theorem splitLast?_eq_some_iff {c : Char} {cs before after : List Char} :
    splitLast? c cs = some (before, after) ↔ cs = before ++ c :: after ∧ c ∉ after := by
  rw [splitLast?]
  constructor
  · intro hsplit
    have hreverse : cs.reverse.takeWhile (· != c) ++ cs.reverse.dropWhile (· != c) = cs.reverse :=
      List.takeWhile_append_dropWhile
    cases hdrop : cs.reverse.dropWhile (· != c) with
    | nil =>
      rw [hdrop] at hsplit
      cases hsplit
    | cons first rest =>
      have hfirst : first = c := by
        have hhead := List.head_dropWhile_not (· != c) (hdrop ▸ List.cons_ne_nil first rest)
        simpa [hdrop] using hhead
      rw [hdrop] at hsplit hreverse
      cases hsplit
      have hcs := List.reverse_eq_iff.1 hreverse.symm
      rw [List.reverse_append, List.reverse_cons, hfirst, List.append_assoc] at hcs
      refine ⟨hcs, fun hmem ↦ ?_⟩
      have hkept := List.mem_takeWhile_imp (List.mem_reverse.1 hmem)
      simp at hkept
  · rintro ⟨rfl, hafter⟩
    have hkept : ∀ d ∈ after.reverse, (d != c) = true := by
      intro d hd
      exact bne_iff_ne.2 fun h ↦ hafter (h ▸ List.mem_reverse.1 hd)
    rw [List.reverse_append, List.reverse_cons, List.append_assoc, List.singleton_append,
      List.dropWhile_append_of_pos hkept, List.takeWhile_append_of_pos hkept]
    simp

theorem splitLast?_eq_none_iff {c : Char} {cs : List Char} : splitLast? c cs = none ↔ c ∉ cs := by
  have hnil : cs.reverse.dropWhile (· != c) = [] ↔ c ∉ cs := by
    simp only [List.dropWhile_eq_nil_iff, List.mem_reverse, bne_iff_ne]
    exact ⟨fun hall hmem ↦ hall c hmem rfl, fun hmem d hd hsame ↦ hmem (hsame ▸ hd)⟩
  rw [← hnil, splitLast?]
  cases cs.reverse.dropWhile (· != c) with
  | nil => exact iff_of_true rfl rfl
  | cons first before => exact iff_of_false nofun (List.cons_ne_nil _ _)

/-! ### Names and extensions -/

theorem isLastName_iff {path name : List Char} : IsLastName path name ↔ fileName path = name := by
  rw [fileName]
  constructor
  · rintro ⟨hname, rfl | ⟨front, rfl⟩⟩
    · rw [splitLast?_eq_none_iff.2 hname]
    · rw [splitLast?_eq_some_iff.2 ⟨rfl, hname⟩]
  · rintro rfl
    cases hsplit : splitLast? '/' path with
    | none => exact ⟨splitLast?_eq_none_iff.1 hsplit, .inl rfl⟩
    | some parts =>
      obtain ⟨front, name⟩ := parts
      obtain ⟨hpath, hname⟩ := splitLast?_eq_some_iff.1 hsplit
      exact ⟨hname, .inr ⟨front, hpath⟩⟩

theorem extension?_eq_some_iff {name extension : List Char} :
    extension? name = some extension ↔ IsExtension name extension := by
  rw [extension?]
  split_ifs with hdots
  · exact iff_of_false (by simp) fun h ↦ h.1 hdots
  · cases hsplit : splitLast? '.' name with
    | none =>
      refine iff_of_false nofun fun ⟨_, before, _, hname⟩ ↦ ?_
      rw [splitLast?_eq_some_iff.2 hname] at hsplit
      cases hsplit
    | some parts =>
      obtain ⟨before, found⟩ := parts
      have hname := splitLast?_eq_some_iff.1 hsplit
      dsimp only
      constructor
      · intro h
        split_ifs at h with hbefore
        cases h
        exact ⟨hdots, before, fun hnil ↦ hbefore (List.isEmpty_iff.2 hnil), hname⟩
      · rintro ⟨-, other, hother, hsame⟩
        rw [splitLast?_eq_some_iff.2 hsame] at hsplit
        cases hsplit
        rw [if_neg fun hnil ↦ hother (List.isEmpty_iff.1 hnil)]

theorem hasExtension_iff {path : String} {found : Option String} :
    HasExtension path found ↔ pathExtension? path = found := by
  rw [pathExtension?]
  constructor
  · intro hextension
    cases hextension with
    | given hlast hfollowing =>
      rw [isLastName_iff.1 hlast, extension?_eq_some_iff.2 hfollowing]
      rfl
    | @absent name hlast hnone =>
      have hname : extension? name = none :=
        Option.eq_none_iff_forall_ne_some.2 fun extension hsome ↦
          hnone extension (extension?_eq_some_iff.1 hsome)
      rw [isLastName_iff.1 hlast, hname]
      rfl
  · rintro rfl
    cases hname : extension? (fileName path.toList) with
    | none =>
      refine .absent (isLastName_iff.2 rfl) fun extension hfollowing ↦ ?_
      rw [extension?_eq_some_iff.2 hfollowing] at hname
      cases hname
    | some extension => exact .given (isLastName_iff.2 rfl) (extension?_eq_some_iff.1 hname)

end Lexeme.Files
