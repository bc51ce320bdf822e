import Lexeme.Toml.Quoted
import Lexeme.Toml.Strings

/-!
# TOML strings

Every text is read back from the TOML string it is written as, whichever of the four forms was
taken for it, as long as no quote follows (`Toml.readString_quote`). Strings with escapes are read
back one written character after the other (`Toml.Written`). In strings over several lines one or
two quotes are text, and which ones are is only known when something else follows them; so the
inductions there hold back the quotes that were read last (`Toml.readMultiBasic_content`,
`Toml.readMultiLiteral_content`).
-/

set_option autoImplicit false
set_option relaxedAutoImplicit false

namespace Lexeme.Toml

/-! ### Characters -/

/-- The ways in which a character is written between quotes: by a letter, by its number, or as it
is. -/
inductive Written (c : Char) : List Char → Prop
  | letter (letter : Char) (hletter : shortEscape? letter = some c) : Written c ['\\', letter]
  | number (high low : Char) (hnumber : codeChar? ['0', '0', high, low] = some c) :
      Written c ['\\', 'u', '0', '0', high, low]
  | plain (hline : isLineChar c) (hquote : c ≠ '"') (hbackslash : c ≠ '\\') : Written c [c]

theorem codeChar?_control :
    ∀ n < 128, codeChar? ['0', '0', (Nat.digitChar (n / 16)).toUpper,
      (Nat.digitChar (n % 16)).toUpper] = some (Char.ofNat n) := by
  decide +kernel

theorem written_escape? (c : Char) : Written c ((escape? c).getD [c]) := by
  unfold escape?
  split
  -- The last case is that of the characters without a letter.
  case h_8 hquote hbackslash =>
    split
    · next hcontrol =>
      simp only [Bool.or_eq_true, decide_eq_true_eq, beq_iff_eq] at hcontrol
      have hnumber := codeChar?_control c.toNat (by omega)
      rw [Char.ofNat_toNat] at hnumber
      exact .number _ _ hnumber
    · next hcontrol =>
      simp only [Bool.or_eq_true, decide_eq_true_eq, beq_iff_eq, not_or] at hcontrol
      refine .plain ?_ hquote hbackslash
      simp [isLineChar, hcontrol.2]
      omega
  all_goals exact .letter _ rfl

/-- What a character is written as starts with no quote and no line end. -/
theorem Written.head {c : Char} {written : List Char} (hwritten : Written c written) :
    ∃ first others, written = first :: others ∧ first ≠ '"' ∧ isLineChar first := by
  cases hwritten with
  | letter letter => exact ⟨_, _, rfl, by decide, by decide⟩
  | number high low => exact ⟨_, _, rfl, by decide, by decide⟩
  | plain hline hquote => exact ⟨_, _, rfl, hquote, hline⟩

/-- Characters that need no escape may stand in a string, if only over several lines. -/
theorem isLineChar_of_any_needsEscape {cs : List Char} (hcs : cs.any needsEscape = false) :
    ∀ c ∈ cs, isLineChar c ∨ c = '\n' := by
  intro c hmem
  have hc : needsEscape c = false := by simpa using List.any_eq_false.1 hcs c hmem
  simp only [needsEscape, Bool.or_eq_false_iff, Bool.and_eq_false_iff, decide_eq_false_iff_not,
    bne_eq_false_iff_eq, beq_eq_false_iff_ne] at hc
  simp only [isLineChar, Bool.or_eq_true, Bool.and_eq_true, beq_iff_eq, decide_eq_true_eq,
    bne_iff_ne]
  obtain ⟨(hlow | rfl) | rfl, hdelete⟩ := hc
  · exact .inl (.inr ⟨by omega, hdelete⟩)
  · exact .inl (.inl rfl)
  · exact .inr rfl

theorem ne_of_isLineChar {c : Char} (hline : isLineChar c) {d : Char}
    (hd : isLineChar d = false) : c ≠ d := by
  rintro rfl
  exact Bool.false_ne_true (hd.symm.trans hline)

/-! ### Runs of a character -/

theorem max_le_longestRunFrom (c : Char) (run longest : Nat) (cs : List Char) :
    max run longest ≤ longestRunFrom c run longest cs := by
  induction cs generalizing run longest with
  | nil => exact Nat.le_refl _
  | cons d cs ih =>
    rw [longestRunFrom]
    split
    · have := ih (run + 1) longest
      omega
    · have := ih 0 (max run longest)
      omega

theorem ne_of_longestRun_eq_zero {c : Char} {cs : List Char} (hrun : longestRun c cs = 0) :
    ∀ d ∈ cs, d ≠ c := by
  suffices hall : ∀ run longest, longestRunFrom c run longest cs = 0 → ∀ d ∈ cs, d ≠ c from
    hall 0 0 hrun
  clear hrun
  induction cs with
  | nil => nofun
  | cons e cs ih =>
    intro run longest hrun
    rw [longestRunFrom] at hrun
    split at hrun
    · have := max_le_longestRunFrom c (run + 1) longest cs
      omega
    · next hne => exact List.forall_mem_cons.2 ⟨hne, ih 0 _ hrun⟩

/-! ### Strings on one line -/

theorem readBasic_written {c : Char} {written : List Char} (hwritten : Written c written)
    (found rest : List Char) : readBasic found (written ++ rest) = readBasic (c :: found) rest := by
  cases hwritten with
  | letter letter hletter =>
    unfold shortEscape? at hletter
    split at hletter <;> cases hletter <;> rfl
  | number high low hnumber => simp only [List.cons_append, List.nil_append, readBasic, hnumber]
  | plain hline hquote hbackslash =>
    rw [List.singleton_append, readBasic.eq_6, if_pos hline] <;> simp [hquote, hbackslash]

theorem readBasic_basicContent (cs found rest : List Char) :
    readBasic found (basicContent cs ++ '"' :: rest) =
      some (String.ofList (found.reverse ++ cs), rest) := by
  induction cs generalizing found with
  | nil => simp [basicContent, readBasic]
  | cons c cs ih =>
    rw [basicContent, List.flatMap_cons, List.append_assoc, readBasic_written (written_escape? c),
      ← basicContent, ih]
    simp

theorem readLiteral_append {cs : List Char} (hcs : ∀ c ∈ cs, isLineChar c && c != '\'')
    (rest : List Char) : readLiteral (cs ++ '\'' :: rest) = some (String.ofList cs, rest) := by
  rw [readLiteral, List.dropWhile_append_of_pos hcs, List.takeWhile_append_of_pos hcs]
  simp

/-! ### Strings over several lines -/

/-- A quote is text when no two quotes follow it. -/
theorem readMultiBasic_quote (found : List Char) {rest : List Char}
    (hrest : ∀ others, rest ≠ '"' :: '"' :: others) :
    readMultiBasic .keep found ('"' :: rest) = readMultiBasic .keep ('"' :: found) rest := by
  rw [readMultiBasic.eq_def]
  grind [isSpace]

/-- Up to two quotes are text when something else follows them. -/
theorem readMultiBasic_quotes {run : Nat} (hrun : run ≤ 2) (found : List Char) {c : Char}
    (hc : c ≠ '"') (rest : List Char) :
    readMultiBasic .keep found (List.replicate run '"' ++ c :: rest) =
      readMultiBasic .keep (List.replicate run '"' ++ found) (c :: rest) := by
  match run with
  | 0 => rfl
  | 1 => exact readMultiBasic_quote found (by simp [hc])
  | 2 =>
    exact (readMultiBasic_quote found (by simp [hc])).trans
      (readMultiBasic_quote ('"' :: found) (by simp [hc]))

/-- Up to two quotes before those that end the string are text. -/
theorem readMultiBasic_end {run : Nat} (hrun : run ≤ 2) (found : List Char) {rest : List Char}
    (hrest : ∀ others, rest ≠ '"' :: others) :
    readMultiBasic .keep found (List.replicate run '"' ++ '"' :: '"' :: '"' :: rest) =
      some (String.ofList (found.reverse ++ List.replicate run '"'), rest) := by
  rw [readMultiBasic.eq_def]
  match run with
  | 0 => simp [isSpace, hrest]
  | 1 => simp [isSpace]
  | 2 => simp [isSpace]

theorem readMultiBasic_written {c : Char} {written : List Char} (hwritten : Written c written)
    (found rest : List Char) :
    readMultiBasic .keep found (written ++ rest) = readMultiBasic .keep (c :: found) rest := by
  rw [readMultiBasic.eq_def]
  cases hwritten with
  | letter letter hletter =>
    unfold shortEscape? at hletter
    split at hletter <;> cases hletter <;> simp [isSpace, shortEscape?]
  | number high low hnumber => simp [hnumber, isSpace]
  | plain hline hquote hbackslash =>
    have hfeed : c ≠ '\n' := ne_of_isLineChar hline rfl
    have hreturn : c ≠ '\r' := ne_of_isLineChar hline rfl
    simp [hreturn, hquote, hbackslash, hline]

/-- Quotes before a written character are text. -/
theorem readMultiBasic_quotes_written {run : Nat} (hrun : run ≤ 2) {c : Char} {written : List Char}
    (hwritten : Written c written) (found rest : List Char) :
    readMultiBasic .keep found (List.replicate run '"' ++ (written ++ rest)) =
      readMultiBasic .keep (c :: (List.replicate run '"' ++ found)) rest := by
  obtain ⟨first, others, rfl, hfirst, -⟩ := hwritten.head
  rw [List.cons_append, readMultiBasic_quotes hrun found hfirst, ← List.cons_append,
    readMultiBasic_written hwritten]

theorem readMultiBasic_quotes_feed {run : Nat} (hrun : run ≤ 2) (found rest : List Char) :
    readMultiBasic .keep found (List.replicate run '"' ++ '\n' :: rest) =
      readMultiBasic .keep ('\n' :: (List.replicate run '"' ++ found)) rest :=
  readMultiBasic_quotes hrun found (by decide) rest

/-- The content is read back up to the quotes that end the string. The last quotes of the text so
far are held back, since only what follows them decides whether they are text. -/
theorem readMultiBasic_content (cs : List Char) (run : Nat) (hrun : run ≤ 2) (found : List Char)
    {rest : List Char} (hrest : ∀ others, rest ≠ '"' :: others) :
    readMultiBasic .keep found
        (List.replicate run '"' ++ (multiBasicContent run cs ++ '"' :: '"' :: '"' :: rest)) =
      some (String.ofList (found.reverse ++ List.replicate run '"' ++ cs), rest) := by
  induction cs generalizing run found with
  | nil => simpa [multiBasicContent] using readMultiBasic_end hrun found hrest
  | cons c cs ih =>
    -- Behind a character that was written, no quotes are held back.
    have hnext : readMultiBasic .keep (c :: (List.replicate run '"' ++ found))
        (multiBasicContent 0 cs ++ '"' :: '"' :: '"' :: rest) =
          some (String.ofList (found.reverse ++ List.replicate run '"' ++ c :: cs), rest) := by
      simpa using ih 0 (by omega) (c :: (List.replicate run '"' ++ found))
    rw [multiBasicContent]
    split
    · next hquote =>
      subst hquote
      split
      · have hmore := ih (run + 1) (by omega) found
        simpa [List.replicate_succ'] using hmore
      -- The third quote of a run is escaped.
      · exact (readMultiBasic_quotes_written hrun (.letter '"' rfl) found _).trans hnext
    · split
      · next hfeed =>
        subst hfeed
        exact (readMultiBasic_quotes_feed hrun found _).trans hnext
      · rw [List.append_assoc]
        exact (readMultiBasic_quotes_written hrun (written_escape? c) found _).trans hnext

/-- Up to two apostrophes are text when something else follows them. -/
theorem readMultiLiteral_apostrophes {run : Nat} (hrun : run ≤ 2) (found : List Char) {c : Char}
    (hc : c ≠ '\'') (rest : List Char) :
    readMultiLiteral found (List.replicate run '\'' ++ c :: rest) =
      readMultiLiteral (List.replicate run '\'' ++ found) (c :: rest) := by
  match run with
  | 0 => rfl
  | 1 => simp [readMultiLiteral, hc, isLineChar]
  | 2 => simp [List.replicate_succ, readMultiLiteral, hc, isLineChar]

/-- Up to two apostrophes before those that end the string are text. -/
theorem readMultiLiteral_end {run : Nat} (hrun : run ≤ 2) (found : List Char) {rest : List Char}
    (hrest : ∀ others, rest ≠ '\'' :: others) :
    readMultiLiteral found (List.replicate run '\'' ++ '\'' :: '\'' :: '\'' :: rest) =
      some (String.ofList (found.reverse ++ List.replicate run '\''), rest) := by
  match run with
  | 0 => simp [readMultiLiteral, hrest]
  | 1 => simp [readMultiLiteral]
  | 2 => simp [readMultiLiteral]

theorem readMultiLiteral_cons {c : Char} (hc : isLineChar c ∨ c = '\n') (happ : c ≠ '\'')
    (found rest : List Char) :
    readMultiLiteral found (c :: rest) = readMultiLiteral (c :: found) rest := by
  have hreturn : c ≠ '\r' := by
    rintro rfl
    exact absurd hc (by decide)
  rw [readMultiLiteral.eq_6] <;> simp [hc, hreturn, happ]

/-- A text without long runs of apostrophes is read back up to those that end the string. -/
theorem readMultiLiteral_content (cs : List Char) (hcs : ∀ c ∈ cs, isLineChar c ∨ c = '\n')
    (run longest : Nat) (hrun : longestRunFrom '\'' run longest cs ≤ 2) (found : List Char)
    {rest : List Char} (hrest : ∀ others, rest ≠ '\'' :: others) :
    readMultiLiteral found
        (List.replicate run '\'' ++ (cs ++ '\'' :: '\'' :: '\'' :: rest)) =
      some (String.ofList (found.reverse ++ List.replicate run '\'' ++ cs), rest) := by
  induction cs generalizing run longest found with
  | nil =>
    rw [longestRunFrom] at hrun
    simpa using readMultiLiteral_end (by omega) found hrest
  | cons c cs ih =>
    have hheld : run ≤ 2 := by
      have := max_le_longestRunFrom '\'' run longest (c :: cs)
      omega
    rw [longestRunFrom] at hrun
    obtain ⟨hc, htail⟩ := List.forall_mem_cons.1 hcs
    split at hrun
    · next happ =>
      subst happ
      simpa [List.replicate_succ'] using ih htail (run + 1) longest hrun found
    · next happ =>
      have hnext := ih htail 0 _ hrun (c :: (List.replicate run '\'' ++ found))
      rw [List.cons_append, readMultiLiteral_apostrophes hheld found happ,
        readMultiLiteral_cons hc happ]
      simpa using hnext

/-! ### Strings of any form -/

theorem dropLineEnd_cons {c : Char} (hc : isLineChar c) (cs : List Char) :
    dropLineEnd (c :: cs) = c :: cs := by
  have hfeed : c ≠ '\n' := ne_of_isLineChar hc rfl
  have hreturn : c ≠ '\r' := ne_of_isLineChar hc rfl
  simp [dropLineEnd, hfeed, hreturn]

/-- The line feed behind the opening quotes is dropped, and nothing else, if the content of a text
of one line does not start with a line end. -/
theorem dropLineEnd_openingBreak {cs content : List Char}
    (hcontent : '\n' ∉ cs → ∃ first others, content = first :: others ∧ isLineChar first) :
    dropLineEnd (openingBreak cs ++ content) = content := by
  rw [openingBreak]
  split
  · rfl
  · next hcontains =>
    obtain ⟨first, others, rfl, hline⟩ := hcontent (by simpa using hcontains)
    exact dropLineEnd_cons hline others

theorem dropLineEnd_multiBasicContent (cs rest : List Char) :
    dropLineEnd (openingBreak cs ++ (multiBasicContent 0 cs ++ '"' :: rest)) =
      multiBasicContent 0 cs ++ '"' :: rest := by
  refine dropLineEnd_openingBreak fun hcs ↦ ?_
  cases cs with
  | nil => exact ⟨'"', rest, rfl, by decide⟩
  | cons c cs =>
    have hc : c ≠ '\n' := (List.ne_of_not_mem_cons hcs).symm
    rw [multiBasicContent]
    split
    · exact ⟨'"', _, rfl, by decide⟩
    · obtain ⟨first, others, hwritten, -, hline⟩ := (written_escape? c).head
      exact ⟨first, _, by rw [hwritten]; rfl, hline⟩

theorem dropLineEnd_literal {cs : List Char} (hcs : ∀ c ∈ cs, isLineChar c ∨ c = '\n')
    (rest : List Char) :
    dropLineEnd (openingBreak cs ++ (cs ++ '\'' :: rest)) = cs ++ '\'' :: rest := by
  refine dropLineEnd_openingBreak fun hfeed ↦ ?_
  cases cs with
  | nil => exact ⟨'\'', rest, rfl, by decide⟩
  | cons c cs =>
    have hc : c ≠ '\n' := (List.ne_of_not_mem_cons hfeed).symm
    exact ⟨c, _, rfl, (hcs c List.mem_cons_self).resolve_right hc⟩

theorem readString_basic {cs : List Char} (hcs : ∀ others, cs ≠ '"' :: '"' :: others) :
    readString ('"' :: cs) = readBasic [] cs :=
  readString.eq_2 cs hcs

theorem readString_literal {cs : List Char} (hcs : ∀ others, cs ≠ '\'' :: '\'' :: others) :
    readString ('\'' :: cs) = readLiteral cs :=
  readString.eq_4 cs hcs

theorem readString_writeBasic (cs : List Char) {rest : List Char}
    (hrest : ∀ others, rest ≠ '"' :: others) :
    readString (writeBasic cs ++ rest) = some (String.ofList cs, rest) := by
  have hcontent (others : List Char) :
      basicContent cs ++ '"' :: rest ≠ '"' :: '"' :: others := by
    cases cs with
    | nil => simpa [basicContent] using hrest others
    | cons c cs =>
      obtain ⟨first, after, hwritten, hfirst, -⟩ := (written_escape? c).head
      simp [basicContent, hwritten, hfirst]
  rw [writeBasic, List.append_assoc, List.cons_append, List.singleton_append,
    readString_basic hcontent]
  exact readBasic_basicContent cs [] rest

theorem readString_writeLiteral {cs : List Char} (hcs : ∀ c ∈ cs, isLineChar c && c != '\'')
    {rest : List Char} (hrest : ∀ others, rest ≠ '\'' :: others) :
    readString (writeLiteral cs ++ rest) = some (String.ofList cs, rest) := by
  have hcontent (others : List Char) : cs ++ '\'' :: rest ≠ '\'' :: '\'' :: others := by
    cases cs with
    | nil => simpa using hrest others
    | cons c cs =>
      have hc := hcs c List.mem_cons_self
      rintro heq
      obtain ⟨rfl, -⟩ := List.cons.inj heq
      simp at hc
  rw [writeLiteral, List.append_assoc, List.cons_append, List.singleton_append,
    readString_literal hcontent]
  exact readLiteral_append hcs rest

theorem readString_writeMultiBasic (cs : List Char) {rest : List Char}
    (hrest : ∀ others, rest ≠ '"' :: others) :
    readString (writeMultiBasic cs ++ rest) = some (String.ofList cs, rest) := by
  have hread := readMultiBasic_content cs 0 (by omega) [] hrest
  simp only [writeMultiBasic, List.append_assoc, List.cons_append, List.nil_append, readString]
  rw [dropLineEnd_multiBasicContent]
  exact hread

theorem readString_writeMultiLiteral {cs : List Char} (hcs : ∀ c ∈ cs, isLineChar c ∨ c = '\n')
    (hrun : longestRun '\'' cs ≤ 2) {rest : List Char} (hrest : ∀ others, rest ≠ '\'' :: others) :
    readString (writeMultiLiteral cs ++ rest) = some (String.ofList cs, rest) := by
  have hread := readMultiLiteral_content cs hcs 0 0 hrun [] hrest
  simp only [writeMultiLiteral, List.append_assoc, List.cons_append, List.nil_append, readString]
  rw [dropLineEnd_literal hcs]
  exact hread

theorem isLineChar_of_fitsLiteral {cs : List Char} (hfits : fitsLiteral cs) :
    ∀ c ∈ cs, isLineChar c && c != '\'' := by
  simp only [fitsLiteral, Bool.and_eq_true, Bool.not_eq_true', beq_iff_eq] at hfits
  obtain ⟨⟨hcontrols, hfeeds⟩, hrun⟩ := hfits
  intro c hc
  have hfeed : c ≠ '\n' := by
    rintro rfl
    simp [hc] at hfeeds
  have hline := (isLineChar_of_any_needsEscape hcontrols c hc).resolve_right hfeed
  simp [hline, ne_of_longestRun_eq_zero hrun c hc]

/-- A text is read back from the string it is written as. -/
theorem readString_quote (text : String) {rest : List Char}
    (hquote : ∀ others, rest ≠ '"' :: others) (happ : ∀ others, rest ≠ '\'' :: others) :
    readString (quote text ++ rest) = some (text, rest) := by
  have hbasic := readString_writeBasic text.toList hquote
  have hmultiBasic := readString_writeMultiBasic text.toList hquote
  rw [String.ofList_toList] at hbasic hmultiBasic
  simp only [quote]
  split
  · exact hbasic
  · split
    · next hfits =>
      have hliteral := readString_writeLiteral (isLineChar_of_fitsLiteral hfits) happ
      rwa [String.ofList_toList] at hliteral
    · split
      · exact hmultiBasic
      · split
        · next hfits =>
          simp only [fitsMultiLiteral, Bool.and_eq_true, Bool.not_eq_true', decide_eq_true_eq]
            at hfits
          have hmultiLiteral := readString_writeMultiLiteral
            (isLineChar_of_any_needsEscape hfits.1) hfits.2 happ
          rwa [String.ofList_toList] at hmultiLiteral
        · split
          · exact hmultiBasic
          · exact hbasic

end Lexeme.Toml
