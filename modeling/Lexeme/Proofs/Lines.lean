import Lexeme.Text.Lines
import Mathlib.Data.List.DropRight

/-!
# Counting lines

The number of lines of a text is told by its characters: it is the number of its line feeds, and one
more if text follows the last of them (`Text.lineCount_eq`). It is the number of lines that the text
is split into (`Text.length_lines`). What a text is split into at a character never holds this
character (`Text.not_mem_of_mem_splitOn`).
-/

set_option autoImplicit false
set_option relaxedAutoImplicit false

namespace Lexeme.Text

theorem not_mem_of_mem_splitOn (c : Char) (cs : List Char) : ∀ part ∈ cs.splitOn c, c ∉ part := by
  induction hlength : cs.length using Nat.strong_induction_on generalizing cs with
  | _ length ih =>
    by_cases hmem : c ∈ cs
    · obtain ⟨first, rest, rfl, hfirst⟩ := List.eq_append_cons_of_mem hmem
      have hshorter : rest.length < length := by
        rw [← hlength, List.length_append, List.length_cons]
        omega
      rw [List.splitOn_append_cons_self_of_not_mem hfirst, List.forall_mem_cons]
      exact ⟨hfirst, ih rest.length hshorter rest rfl⟩
    · rw [List.splitOn_eq_singleton hmem, List.forall_mem_singleton]
      exact hmem

/-- What follows the last line feed of a text. -/
def afterFeeds (cs : List Char) : List Char :=
  cs.rtakeWhile (· != '\n')

theorem afterFeeds_append_feed (before cs : List Char) :
    afterFeeds (before ++ '\n' :: cs) = afterFeeds cs := by
  induction cs using List.reverseRecOn with
  | nil => exact List.rtakeWhile_concat_neg _ _ _ (by decide)
  | append_singleton cs c ih =>
    rw [← List.cons_append, ← List.append_assoc, afterFeeds, afterFeeds, List.rtakeWhile_concat,
      List.rtakeWhile_concat]
    split_ifs
    · exact congrArg (· ++ [c]) ih
    · rfl

theorem afterFeeds_eq_self {cs : List Char} (hnone : '\n' ∉ cs) : afterFeeds cs = cs :=
  List.rtakeWhile_eq_self_iff.mpr fun _ hc ↦ bne_iff_ne.mpr fun h ↦ hnone (h ▸ hc)

/-- Nothing follows the last line feed just if the text is empty or ends there. -/
theorem afterFeeds_eq_nil_iff (cs : List Char) :
    afterFeeds cs = [] ↔ cs = [] ∨ cs.getLast? = some '\n' := by
  induction cs using List.reverseRecOn with
  | nil => exact ⟨fun _ ↦ .inl rfl, fun _ ↦ rfl⟩
  | append_singleton cs c => simp [afterFeeds, List.rtakeWhile_concat]

theorem foldl_feeds (start : Nat) (cs : List Char) :
    cs.foldl (fun count c ↦ if c = '\n' then count + 1 else count) start =
      start + cs.count '\n' := by
  induction cs generalizing start with
  | nil => rfl
  | cons c cs ih =>
    rw [List.foldl_cons, ih, List.count_cons]
    by_cases hc : c = '\n'
    · rw [if_pos hc, if_pos (beq_iff_eq.mpr hc), Nat.add_right_comm, Nat.add_assoc]
    · rw [if_neg hc, if_neg (by simpa using hc), Nat.add_zero]

/-- The lines of a text are its line feeds, and one more if text follows the last of them. -/
theorem lineCount_eq (text : String) :
    lineCount text =
      text.toList.count '\n' + if afterFeeds text.toList = [] then 0 else 1 := by
  have hended : (text.isEmpty || text.endsWith '\n') = true ↔ afterFeeds text.toList = [] := by
    rw [afterFeeds_eq_nil_iff, Bool.or_eq_true, String.isEmpty_iff,
      String.endsWith_char_eq_getLast?, beq_iff_eq, String.toList_eq_nil_iff]
  rw [lineCount, String.foldl_eq_foldl_toList, foldl_feeds, Nat.zero_add]
  by_cases hnil : afterFeeds text.toList = []
  · rw [if_pos (hended.mpr hnil), if_pos hnil, Nat.add_zero]
  · rw [if_neg fun h ↦ hnil (hended.mp h), if_neg hnil]

/-- The lines made of a text are those finished before and those of the rest, which starts with the
line in progress. -/
theorem length_linesFrom {current : List Char} (hcurrent : '\n' ∉ current)
    (finished : List (List Char)) (cs : List Char) :
    (linesFrom current finished cs).length = finished.length + cs.count '\n' +
      if afterFeeds (current.reverse ++ cs) = [] then 0 else 1 := by
  fun_induction linesFrom current finished cs with
  | case1 current finished =>
    have hself : afterFeeds (current.reverse ++ []) = current.reverse := by
      rw [List.append_nil]
      exact afterFeeds_eq_self (by simpa using hcurrent)
    rw [hself]
    cases current <;> simp
  | case2 current finished cs ih =>
    rw [ih List.not_mem_nil, afterFeeds_append_feed, List.count_cons_self, List.length_cons,
      Nat.add_right_comm finished.length 1, Nat.add_assoc finished.length]
    rfl
  | case3 current finished c cs hc ih =>
    have hnext : '\n' ∉ c :: current := by
      rw [List.mem_cons, not_or]
      exact ⟨fun h ↦ hc h.symm, hcurrent⟩
    rw [ih hnext, List.reverse_cons, List.append_assoc, List.count_cons_of_ne hc]
    rfl

/-- There are as many lines as are counted. -/
theorem length_lines (text : String) : (lines text).length = lineCount text := by
  rw [lines, List.length_map, length_linesFrom List.not_mem_nil, lineCount_eq, List.length_nil,
    Nat.zero_add]
  rfl

end Lexeme.Text
