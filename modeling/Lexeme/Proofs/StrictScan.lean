import Lexeme.Proofs.BuildLimits
import Lexeme.Proofs.Processing
import Lexeme.Proofs.Troubles

/-!
# What a strict scan accepts

A strict scan accepts a source when there is no trouble in it, and otherwise rejects it with its
first trouble, which is kept however many there are (`enforce_strict_scan`). Both can be said of the
source and its tokens alone. The characters that offend are those outside every class that stand in
no word, in no string and not behind a quote that is never closed (`offences`). As numbers,
operators and delimiters have no such characters, they are the skipped ones (`offences_scan`), and
the verdict depends only on them and on the quotes (`tryTokenize_eq_match`). Where the quotes come
in pairs, nothing offends just when the characters outside every class are underscores of words or
stand in strings (`offences_eq_nil_iff`).
-/

set_option autoImplicit false
set_option relaxedAutoImplicit false

namespace Lexeme

open Text (byteWidth)

/-- The characters outside every class that stand in no word, in no string and not behind a quote
that is never closed, in order. -/
def offences (source : String) (tokens : List (Spanned Token)) : List (Spanned Char) :=
  (Text.charsAt 0 source.toList).filter fun char ↦
    CharClass.of char.value = .other ∧ char.span.stop ≤ unclosedFrom source ∧
      ∀ token ∈ tokens, token.value.kind = .word ∨ token.value.kind = .string →
        char.span.Disjoint token.span

/-! ### Characters outside every class -/

section Source

variable (settings : ScanSettings) (source : String)

/-- A token that meets a character of the source has all of it, and the character is one of its
lexeme. -/
theorem covers_of_not_disjoint {char : Spanned Char}
    (hchar : char ∈ Text.charsAt 0 source.toList) {token : Spanned Token}
    (htoken : token ∈ (scan settings source).tokens) (hmeets : ¬ char.span.Disjoint token.span) :
    token.span.Covers char.span ∧ char.value ∈ token.value.lexeme := by
  obtain ⟨piece, -, hcovers, hvalue, hunique⟩ := Piece.exists_covering source hchar
  obtain rfl := hunique _ ((mem_tokens_scan_iff source settings token).mp htoken) hmeets
  exact ⟨hcovers, hvalue⟩

/-- A character outside every class that meets a token other than a string is an underscore of a
word. -/
theorem underscore_of_not_disjoint {char : Spanned Char}
    (hchar : char ∈ Text.charsAt 0 source.toList) (hclass : CharClass.of char.value = .other)
    {token : Spanned Token} (htoken : token ∈ (scan settings source).tokens)
    (hmeets : ¬ char.span.Disjoint token.span) (hkind : token.value.kind ≠ .string) :
    token.value.kind = .word ∧ char.value = '_' := by
  have hmem := (covers_of_not_disjoint settings source hchar htoken hmeets).2
  have hwell : token.value.WellFormed :=
    Piece.wellFormed_of_mem_located _ ((mem_tokens_scan_iff source settings token).mp htoken)
  have htext : char.value ∈ token.value.text.toList := by
    obtain ⟨⟨kind, body⟩, span⟩ := token
    cases kind with
    | string => exact absurd rfl hkind
    | _ => exact hmem
  simpa [hclass] using hwell.of_mem_text htext hkind

/-- The characters of a source that offend are the skipped ones outside every class. -/
theorem offences_scan :
    offences source (scan settings source).tokens =
      skippedChars .other source (scan settings source).tokens := by
  refine List.filter_congr fun char hchar ↦ decide_eq_decide.mpr ?_
  constructor
  · rintro ⟨hclass, hstop, hwords⟩
    refine ⟨⟨hstop, fun token htoken ↦ ?_⟩, hclass⟩
    by_cases hkind : token.value.kind = .string
    · exact hwords token htoken (Or.inr hkind)
    · by_contra hmeets
      have hword := (underscore_of_not_disjoint settings source hchar hclass htoken hmeets hkind).1
      exact hmeets (hwords token htoken (Or.inl hword))
  · rintro ⟨⟨hstop, hdisjoint⟩, hclass⟩
    exact ⟨hclass, hstop, fun token htoken _ ↦ hdisjoint token htoken⟩

/-- When the quotes come in pairs, nothing offends just when all characters outside every class and
outside strings are underscores of words. -/
theorem offences_eq_nil_iff (heven : source.toList.count '"' % 2 = 0) :
    offences source (scan settings source).tokens = [] ↔
      ∀ char ∈ Text.charsAt 0 source.toList, CharClass.of char.value = .other →
        (∀ token ∈ (scan settings source).tokens, token.value.kind = .string →
          char.span.Disjoint token.span) →
        char.value = '_' ∧ ∃ token ∈ (scan settings source).tokens,
          token.value.kind = .word ∧ token.span.Covers char.span := by
  have hfrom : unclosedFrom source = source.utf8ByteSize := by
    rw [unclosedFrom, (Text.unclosed_eq_nil_iff _).mpr heven]
    rfl
  rw [offences, List.filter_eq_nil_iff]
  refine forall₂_congr fun char hchar ↦ ?_
  obtain ⟨-, -, hlt, hstop⟩ := Text.mem_charsAt hchar
  rw [Nat.zero_add, Text.byteWidth_toList, ← hfrom] at hstop
  rw [decide_eq_true_iff]
  constructor
  · intro hallowed hclass hstrings
    -- Some word or string meets the character, and no string does.
    obtain ⟨token, htoken, hkind, hmeets⟩ : ∃ token ∈ (scan settings source).tokens,
        (token.value.kind = .word ∨ token.value.kind = .string) ∧
          ¬ char.span.Disjoint token.span := by
      by_contra hnone
      push Not at hnone
      exact hallowed ⟨hclass, hstop, hnone⟩
    have hstring : token.value.kind ≠ .string := fun hstring ↦
      hmeets (hstrings token htoken hstring)
    obtain ⟨hword, hunderscore⟩ :=
      underscore_of_not_disjoint settings source hchar hclass htoken hmeets hstring
    have hcovers := (covers_of_not_disjoint settings source hchar htoken hmeets).1
    exact ⟨hunderscore, token, htoken, hword, hcovers⟩
  · rintro hunderscore ⟨hclass, -, hdisjoint⟩
    obtain ⟨-, token, htoken, hword, hcovers⟩ := hunderscore hclass fun token htoken hstring ↦
      hdisjoint token htoken (Or.inr hstring)
    exact hcovers.not_disjoint hlt (hdisjoint token htoken (Or.inl hword))

/-- The first character that offends stands before the others and before the unclosed string. -/
theorem offences_first_le {tokens : List (Spanned Token)} {first : Spanned Char}
    {rest : List (Spanned Char)} (hoffences : offences source tokens = first :: rest) :
    (∀ offence ∈ first :: rest, first.span.start ≤ offence.span.start) ∧
      first.span.start ≤ unclosedFrom source := by
  have hsublist : (first :: rest).Sublist (Text.charsAt 0 source.toList) :=
    hoffences ▸ List.filter_sublist
  obtain ⟨-, -, hlt, -⟩ := Text.mem_charsAt (hsublist.subset List.mem_cons_self)
  have hlater := (List.pairwise_cons.mp ((Text.pairwise_charsAt _ _).sublist hsublist)).1
  have hfirst : first ∈ offences source tokens := hoffences ▸ List.mem_cons_self
  obtain ⟨-, hstop, -⟩ := of_decide_eq_true (List.mem_filter.mp hfirst).2
  constructor
  · intro offence hmem
    rcases List.mem_cons.mp hmem with rfl | hmem
    · exact Nat.le_refl _
    · exact hlt.le.trans (hlater offence hmem)
  · exact hlt.le.trans hstop

/-- An odd number of quotes leaves the last one unclosed. -/
theorem exists_unclosed (hodd : source.toList.count '"' % 2 = 1) :
    ∃ before body, source.toList = before ++ '"' :: body ∧ '"' ∉ body ∧
      unclosedFrom source = byteWidth before := by
  rcases Diagnostic.unterminated_located 0 source.toList with
    ⟨heven, -⟩ | ⟨-, before, body, hsource, hbody, -⟩
  · omega
  · have heven : before.count '"' % 2 = 0 := by
      rw [hsource, List.count_append, List.count_cons_self, List.count_eq_zero.mpr hbody] at hodd
      omega
    refine ⟨before, body, hsource, hbody, ?_⟩
    rw [unclosedFrom, ← Text.byteWidth_toList, hsource, Text.unclosed_append heven,
      Text.unclosed_quote hbody, Text.byteWidth_append, Nat.add_sub_cancel]

/-! ### The verdict -/

theorem Diagnostic.toError_ofStray (char : Spanned Char) :
    (ofStray char).toError = .unrecognizedCharacter char.value char.span.start := by
  have hfragment : (ofStray char).fragment.toList = [char.value] := String.toList_ofList
  change LexerError.unrecognizedCharacter ((ofStray char).fragment.toList.headD _) _ = _
  rw [hfragment]
  rfl

/-- A trouble is kept if there is any, so that the strict mode judges by the first trouble of the
source, however many there are. -/
theorem enforce_strict_scan :
    (scan settings source).enforce .strict =
      match Diagnostic.ofSource source with
      | [] => .ok (scan settings source)
      | first :: _ => .error first.toError := by
  obtain ⟨others, hlimit⟩ : ∃ others, Limits.current.maxDiagnostics = others + 1 :=
    ⟨_, (Nat.succ_pred_eq_of_pos Limits.buildable_current.maxDiagnostics_pos).symm⟩
  have hstored := diagnostics_scan settings source
  rw [hlimit] at hstored
  rw [ScanOutput.enforce]
  cases hsource : Diagnostic.ofSource source with
  | nil =>
    rw [hstored, hsource]
    rfl
  | cons first rest =>
    rw [hstored, hsource]
    rfl

theorem isOk_enforce_strict :
    ((scan settings source).enforce .strict).isOk = (Diagnostic.ofSource source).isEmpty := by
  rw [enforce_strict_scan]
  cases Diagnostic.ofSource source <;> rfl

/-- The verdict of the strict mode, by what offends in the source and by its unclosed string. -/
theorem tryTokenize_eq_match (hstrict : settings.mode = .strict) :
    tryTokenize settings source =
      match offences source (scan settings source).tokens with
      | first :: _ => .error (.unrecognizedCharacter first.value first.span.start)
      | [] =>
        if Text.unclosed source.toList = [] then .ok (tokenize source)
        else .error (.unterminatedString (unclosedFrom source)) := by
  rw [tryTokenize, hstrict, enforce_strict_scan, Diagnostic.ofSource_eq_append settings,
    offences_scan]
  cases skippedChars .other source (scan settings source).tokens with
  | nil =>
    split_ifs with hunclosed
    · exact congrArg Except.ok (plainTokens_scan_eq_tokenize settings source)
    · rfl
  | cons first rest => exact congrArg Except.error (Diagnostic.toError_ofStray first)

/-- The strict mode accepts a source just when nothing offends in it and no string is unclosed. -/
theorem tryTokenize_isOk_iff (hstrict : settings.mode = .strict) :
    (tryTokenize settings source).isOk = true ↔
      source.toList.count '"' % 2 = 0 ∧ offences source (scan settings source).tokens = [] := by
  rw [tryTokenize_eq_match settings source hstrict, ← Text.unclosed_eq_nil_iff]
  cases offences source (scan settings source).tokens with
  | nil => split_ifs with hunclosed <;> simp [hunclosed, Except.isOk, Except.toBool]
  | cons first rest => simp [Except.isOk, Except.toBool]

/-- The error of the strict mode is about the first character that offends, or about the last quote
when none offends, and nothing that offends stands before it. -/
theorem of_tryTokenize_eq_error (hstrict : settings.mode = .strict) {error : LexerError}
    (herror : tryTokenize settings source = .error error) :
    let offending := offences source (scan settings source).tokens
    (match offending with
      | first :: _ => error = .unrecognizedCharacter first.value first.span.start
      | [] => ∃ before body, source.toList = before ++ '"' :: body ∧ '"' ∉ body ∧
        error = .unterminatedString (byteWidth before)) ∧
    (∀ offence ∈ offending, error.offset ≤ offence.span.start) ∧
    (source.toList.count '"' % 2 = 1 → error.offset ≤ unclosedFrom source) := by
  rw [tryTokenize_eq_match settings source hstrict] at herror
  dsimp only
  cases hoffending : offences source (scan settings source).tokens with
  | nil =>
    rw [hoffending] at herror
    dsimp only at herror
    split_ifs at herror with hunclosed
    obtain rfl := Except.error.inj herror
    rw [Text.unclosed_eq_nil_iff] at hunclosed
    obtain ⟨before, body, hsource, hbody, hfrom⟩ := exists_unclosed source (by omega)
    exact ⟨⟨before, body, hsource, hbody, by rw [hfrom]⟩, List.forall_mem_nil _,
      fun _ ↦ Nat.le_refl _⟩
  | cons first rest =>
    rw [hoffending] at herror
    obtain rfl := Except.error.inj herror
    obtain ⟨hfirst, hfrom⟩ := offences_first_le source hoffending
    exact ⟨rfl, hfirst, fun _ ↦ hfrom⟩

/-- What the strict mode accepts has the tokens of the source. -/
theorem of_tryTokenize_eq_ok (hstrict : settings.mode = .strict) {found : List Token}
    (hfound : tryTokenize settings source = .ok found) : found = tokenize source := by
  rw [tryTokenize_eq_match settings source hstrict] at hfound
  cases hoffending : offences source (scan settings source).tokens with
  | nil =>
    rw [hoffending] at hfound
    dsimp only at hfound
    split_ifs at hfound with hunclosed
    exact (Except.ok.inj hfound).symm
  | cons first rest =>
    rw [hoffending] at hfound
    cases hfound

end Source

/-! ### The verdict on an input -/

namespace Pipeline

variable (settings : Settings) (name source : String) (session : Log.Session)

/-- Processing a text has a result when the scan mode accepts its scan. -/
theorem isOk_processSource :
    ((processSource settings name source).run session).1.isOk =
      ((scan settings.scan source).enforce settings.scan.mode).isOk := by
  rw [processSource_run]
  cases (scan settings.scan source).enforce settings.scan.mode <;> rfl

/-- The lenient mode accepts every text, and the result is clean when there is no trouble. -/
theorem exists_processSource_lenient (hlenient : settings.scan.mode = .lenient) :
    ∃ result, ((processSource settings name source).run session).1 = .ok result ∧
      result.isClean = (Diagnostic.ofSource source).isEmpty := by
  have henforce : (scan settings.scan source).enforce settings.scan.mode =
      .ok (scan settings.scan source) := by
    rw [hlenient]
    rfl
  rw [processSource_run, henforce]
  refine ⟨_, rfl, ?_⟩
  rw [Result.isClean, Result.diagnosticCount, diagnosticCount_scan]
  cases Diagnostic.ofSource source <;> rfl

end Pipeline

/-- A strict scan accepts a source just when its quotes come in pairs and its characters outside
every class, apart from those in strings, are underscores of words. Otherwise the error is about the
first character that offends, or about the last quote when none offends; nothing that offends stands
before it. What is accepted has the tokens of the source. Processing a text in the lenient mode
gives a clean result just when processing it in the strict mode gives a result. -/
theorem tryTokenize_strict (settings : ScanSettings) (source : String) :
    let strict := { settings with mode := .strict }
    let tokens := (scan strict source).tokens
    let offending := offences source tokens
    ((tryTokenize strict source).isOk = true ↔
      source.toList.count '"' % 2 = 0 ∧
      ∀ char ∈ Text.charsAt 0 source.toList, CharClass.of char.value = .other →
        (∀ token ∈ tokens, token.value.kind = .string → char.span.Disjoint token.span) →
        char.value = '_' ∧
          ∃ token ∈ tokens, token.value.kind = .word ∧ token.span.Covers char.span) ∧
    (∀ error, tryTokenize strict source = .error error →
      (match offending with
        | first :: _ => error = .unrecognizedCharacter first.value first.span.start
        | [] => ∃ before body, source.toList = before ++ '"' :: body ∧ '"' ∉ body ∧
          error = .unterminatedString (byteWidth before)) ∧
      (∀ offence ∈ offending, error.offset ≤ offence.span.start) ∧
      (source.toList.count '"' % 2 = 1 → error.offset ≤ unclosedFrom source)) ∧
    (∀ found, tryTokenize strict source = .ok found → found = tokenize source) ∧
    ∀ (chosen : Settings) (name : String) (session : Log.Session),
      let outcome (mode : ScanMode) :=
        ((Pipeline.processSource { chosen with scan := { settings with mode := mode } }
          name source).run session).1
      (outcome .strict).isOk = (tryTokenize strict source).isOk ∧
      ∃ result, outcome .lenient = .ok result ∧ result.isClean = (outcome .strict).isOk := by
  intro strict tokens offending
  refine ⟨?_, fun error herror ↦ of_tryTokenize_eq_error strict source rfl herror,
    fun found hfound ↦ of_tryTokenize_eq_ok strict source rfl hfound,
    fun chosen name session ↦ ?_⟩
  · rw [tryTokenize_isOk_iff strict source rfl]
    exact and_congr_right fun heven ↦ offences_eq_nil_iff strict source heven
  · intro outcome
    have houtcome : (outcome .strict).isOk = ((scan strict source).enforce .strict).isOk :=
      Pipeline.isOk_processSource _ name source session
    obtain ⟨result, hresult, hclean⟩ := Pipeline.exists_processSource_lenient
      { chosen with scan := { settings with mode := .lenient } } name source session rfl
    refine ⟨?_, result, hresult, ?_⟩
    · rw [houtcome, tryTokenize]
      cases (scan strict source).enforce .strict <;> rfl
    · rw [houtcome, isOk_enforce_strict, hclean]

end Lexeme
