import Lexeme.Proofs.Lines
import Lexeme.Proofs.Processing
import Lexeme.Proofs.SafeCut
import Mathlib.Algebra.BigOperators.Group.List.Basic

/-!
# Reports as lines of text

A report as text is made of lines, with a line feed behind each. Lines about troubles and the line
about troubles that were not kept hold no line feed of their own, since what they quote of the source
is escaped (`Text.newline_not_mem_quoted`). The line of a token has the text of the token as it is,
and the text of a string may hold line feeds. So the line feeds of a report are those behind its
lines and those in its strings (`Pipeline.Output.count_newline_renderText`), and the lines of the
text are the lines of the report just if no string holds one
(`Pipeline.Output.feedLines_renderText_iff`). Then the tokens can be read back from the lines
(`Token.ofLine?`, `Pipeline.Output.filterMap_ofLine?_lines`).
-/

set_option autoImplicit false
set_option relaxedAutoImplicit false

namespace Lexeme

/-! ### Texts without a line feed -/

namespace Text

theorem newline_not_mem_toDigits {base : Nat} (hbase : 2 ≤ base) (hsmall : base ≤ 16) (n : Nat) :
    '\n' ∉ Nat.toDigits base n := by
  have hdigit : ∀ digit < 16, '\n' ≠ Nat.digitChar digit := by decide
  induction n using Nat.strong_induction_on with
  | _ n ih =>
    by_cases hn : n < base
    · rw [Nat.toDigits_of_lt_base hn, List.mem_singleton]
      exact hdigit n (hn.trans_le hsmall)
    · rw [Nat.not_lt] at hn
      rw [Nat.toDigits_of_base_le (by omega) hn, List.mem_append, List.mem_singleton, not_or]
      exact ⟨ih (n / base) (Nat.div_lt_self (by omega) hbase),
        hdigit _ ((Nat.mod_lt n (by omega)).trans_le hsmall)⟩

theorem newline_not_mem_decimal (n : Nat) : '\n' ∉ Nat.toDigits 10 n :=
  newline_not_mem_toDigits (by decide) (by decide) n

theorem newline_not_mem_escape (c : Char) : '\n' ∉ escape '"' c := by
  by_cases hnewline : '\n' = c
  · rw [← hnewline]
    decide
  · unfold escape
    split
    iterate 5 decide
    split
    · simp [hnewline]
    · split
      · have hdigits := newline_not_mem_toDigits (by decide) (Nat.le_refl 16) c.toNat
        simp [hexDigits, hdigits]
      · simp [hnewline]

/-- A quoted text stays on one line. -/
theorem newline_not_mem_quoted (text : String) : '\n' ∉ (quoted text).toList := by
  rw [quoted, String.toList_ofList]
  simp [newline_not_mem_escape]

/-! ### Lines that end with a line feed -/

/-- The lines of a text in which a line feed ends every line. -/
def feedLines (text : String) : List String :=
  (text.toList.splitOn '\n').dropLast.map String.ofList

/-- A text of lines, with a line feed behind each. -/
def ofLines (lines : List String) : String :=
  String.join (lines.map (· ++ "\n"))

theorem toList_ofLines_cons (line : String) (lines : List String) :
    (ofLines (line :: lines)).toList = line.toList ++ '\n' :: (ofLines lines).toList := by
  rw [ofLines, List.map_cons, String.join_cons, String.toList_append, String.toList_append,
    List.append_assoc]
  rfl

theorem count_newline_ofLines (lines : List String) :
    (ofLines lines).toList.count '\n' =
      lines.length + (lines.map fun line ↦ line.toList.count '\n').sum := by
  induction lines with
  | nil => rfl
  | cons line lines ih =>
    rw [toList_ofLines_cons, List.count_append, List.count_cons_self, ih, List.map_cons,
      List.sum_cons, List.length_cons]
    omega

theorem newline_not_mem_feedLines (text : String) :
    ∀ line ∈ feedLines text, '\n' ∉ line.toList := by
  intro line hline
  obtain ⟨cs, hcs, rfl⟩ := List.mem_map.1 hline
  rw [String.toList_ofList]
  exact not_mem_of_mem_splitOn '\n' _ cs (List.dropLast_subset _ hcs)

/-- Lines are read back from their text just if none of them holds a line feed. -/
theorem feedLines_ofLines_iff (lines : List String) :
    feedLines (ofLines lines) = lines ↔ ∀ line ∈ lines, '\n' ∉ line.toList := by
  constructor
  · intro h
    rw [← h]
    exact newline_not_mem_feedLines _
  · intro hlines
    have hsplit : (ofLines lines).toList.splitOn '\n' = lines.map String.toList ++ [[]] := by
      induction lines with
      | nil => rfl
      | cons line lines ih =>
        obtain ⟨hline, hrest⟩ := List.forall_mem_cons.1 hlines
        rw [toList_ofLines_cons, List.splitOn_append_cons_self_of_not_mem hline, ih hrest]
        rfl
    rw [feedLines, hsplit, List.dropLast_concat, List.map_map]
    exact List.map_id'' (fun _ ↦ String.ofList_toList) lines

end Text

/-! ### Lines of tokens -/

namespace Token

/-- The token of a line, if the line is of the form of one. -/
def ofLine? (line : String) : Option Token :=
  let name := line.toList.takeWhile (· != '(')
  let body := line.toList.dropWhile (· != '(')
  (TokenKind.ofName? (String.ofList name)).map fun kind ↦
    ⟨kind, String.ofList body.tail.dropLast⟩

theorem toList_render (token : Token) :
    token.render.toList =
      token.kind.name.toList ++ '(' :: (token.text.toList ++ [')']) := by
  rw [render, String.toList_append, String.toList_append, String.toList_append, List.append_assoc,
    List.append_assoc]
  rfl

/-- A token is read back from its line. -/
theorem ofLine?_render (token : Token) : ofLine? token.render = some token := by
  have hall : token.kind.name.toList.all (· != '(') = true := by cases token.kind <;> decide
  have hname := List.all_eq_true.1 hall
  have hkind : TokenKind.ofName? token.kind.name = some token.kind := by
    cases token.kind <;> rfl
  rw [ofLine?, toList_render, List.takeWhile_append_of_pos hname,
    List.dropWhile_append_of_pos hname]
  simp [hkind]

theorem newline_mem_render_iff (token : Token) :
    '\n' ∈ token.render.toList ↔ '\n' ∈ token.text.toList := by
  have hname : '\n' ∉ token.kind.name.toList := by cases token.kind <;> decide
  rw [toList_render]
  simp [hname]

theorem count_newline_render (token : Token) :
    token.render.toList.count '\n' = token.text.toList.count '\n' := by
  have hname : token.kind.name.toList.count '\n' = 0 := by cases token.kind <;> decide
  rw [toList_render, List.count_append, hname]
  simp

/-- A line that starts with a mark is of no token. -/
theorem ofLine?_mark (line : String) : ofLine? ("# " ++ line) = none := by
  have hline : ("# " ++ line).toList = '#' :: ' ' :: line.toList := String.toList_append
  rw [ofLine?, hline, List.takeWhile_cons_of_pos (by decide), Option.map_eq_none_iff,
    TokenKind.ofName?, List.find?_eq_none]
  intro kind _ hname
  have hlist := congrArg String.toList (beq_iff_eq.1 hname)
  rw [String.toList_ofList] at hlist
  cases kind <;> cases hlist

/-- Only strings hold line feeds. -/
theorem WellFormed.kind_of_newline_mem {token : Token} (htoken : token.WellFormed)
    (hnewline : '\n' ∈ token.text.toList) : token.kind = .string := by
  have hdigit : Text.isDecimalDigit '\n' = false := by decide
  have hletter : Text.isLetter '\n' = false := by decide
  have hcontinue : isWordContinue '\n' = false := by decide
  rcases token with ⟨kind, text⟩
  unfold WellFormed at htoken
  dsimp only at htoken hnewline ⊢
  generalize text.toList = cs at htoken hnewline
  cases kind with
  | string => rfl
  | number => exact absurd (htoken.2 _ hnewline) (by simp [hdigit])
  | word =>
    cases cs with
    | nil => cases hnewline
    | cons c cs =>
      obtain rfl | hrest := List.mem_cons.1 hnewline
      · exact absurd htoken.1 (by simp [hletter])
      · exact absurd (htoken.2 _ hrest) (by simp [hcontinue])
  | operator =>
    have hchars : '\n' ∉ operatorChars := by decide
    have hpairs : ∀ pair ∈ pairOperators, '\n' ∉ pair.toList := by decide
    obtain ⟨c, hc, rfl⟩ | ⟨pair, hpair, rfl⟩ := htoken
    · exact absurd (List.mem_singleton.1 hnewline ▸ hc) hchars
    · exact absurd hnewline (hpairs pair hpair)
  | delimiter =>
    have hchars : '\n' ∉ delimiterChars := by decide
    obtain ⟨c, hc, rfl⟩ := htoken
    exact absurd (List.mem_singleton.1 hnewline ▸ hc) hchars

end Token

theorem wellFormed_of_mem_tokens_scan {settings : ScanSettings} {source : String}
    {token : Spanned Token} (htoken : token ∈ (scan settings source).tokens) :
    token.value.WellFormed :=
  wellFormed_of_mem_plainTokens settings source _ (List.mem_map_of_mem htoken)

/-! ### Lines of troubles -/

theorem Diagnostic.newline_not_mem_render (diagnostic : Diagnostic) :
    '\n' ∉ diagnostic.render.toList := by
  have hphrase : '\n' ∉ diagnostic.kind.phrase.toList := by cases diagnostic.kind <;> decide
  simp [render, Span.render, hphrase, Text.newline_not_mem_decimal, Text.newline_not_mem_quoted]

namespace Pipeline.Output

variable (output : Output)

theorem newline_not_mem_suppressedLines (suppressed : Nat) :
    ∀ line ∈ suppressedLines suppressed, '\n' ∉ line.toList := by
  unfold suppressedLines
  split
  · simp
  · simp [Text.newline_not_mem_decimal]

/-- The lines about troubles, and the line about those that were not kept. -/
def troubleLines : List String :=
  output.diagnostics.map (fun diagnostic ↦ "# " ++ diagnostic.render) ++
    suppressedLines output.suppressed

theorem lines_eq :
    output.lines false = output.tokens.map (·.value.render) ++ output.troubleLines := by
  rw [lines, troubleLines, List.append_assoc, List.append_assoc]
  simp

theorem newline_not_mem_troubleLines : ∀ line ∈ output.troubleLines, '\n' ∉ line.toList := by
  intro line hline
  obtain hdiagnostic | hsuppressed := List.mem_append.1 hline
  · obtain ⟨diagnostic, -, rfl⟩ := List.mem_map.1 hdiagnostic
    simp [diagnostic.newline_not_mem_render]
  · exact newline_not_mem_suppressedLines output.suppressed line hsuppressed

theorem length_troubleLines :
    output.troubleLines.length =
      output.diagnostics.length + if 0 < output.suppressed then 1 else 0 := by
  rw [troubleLines, List.length_append, List.length_map, suppressedLines]
  by_cases hsuppressed : output.suppressed = 0
  · simp [hsuppressed]
  · simp [hsuppressed, Nat.pos_of_ne_zero hsuppressed]

theorem ofLine?_troubleLines : ∀ line ∈ output.troubleLines, Token.ofLine? line = none := by
  intro line hline
  obtain hdiagnostic | hsuppressed := List.mem_append.1 hline
  · obtain ⟨diagnostic, -, rfl⟩ := List.mem_map.1 hdiagnostic
    exact Token.ofLine?_mark _
  · unfold suppressedLines at hsuppressed
    split at hsuppressed
    · cases hsuppressed
    · rw [List.mem_singleton.1 hsuppressed, String.append_assoc]
      exact Token.ofLine?_mark _

/-! ### Reports -/

/-- The line feeds of a report are those behind its lines and those in the texts of its tokens. -/
theorem count_newline_renderText :
    (output.renderText false).toList.count '\n' =
      output.tokens.length + output.diagnostics.length +
        (if 0 < output.suppressed then 1 else 0) +
        (output.tokens.map fun token ↦ token.value.text.toList.count '\n').sum := by
  have htroubles : (output.troubleLines.map fun line ↦ line.toList.count '\n').sum = 0 := by
    refine List.sum_eq_zero fun count hcount ↦ ?_
    obtain ⟨line, hline, rfl⟩ := List.mem_map.1 hcount
    exact List.count_eq_zero.2 (output.newline_not_mem_troubleLines line hline)
  change (Text.ofLines (output.lines false)).toList.count '\n' = _
  rw [Text.count_newline_ofLines, lines_eq, List.length_append, List.length_map, List.map_append,
    List.sum_append, htroubles, length_troubleLines, List.map_map]
  simp [Function.comp_def, Token.count_newline_render]
  omega

/-- The lines of the text are the lines of the report just if no token holds a line feed. -/
theorem feedLines_renderText_iff :
    Text.feedLines (output.renderText false) = output.lines false ↔
      ∀ token ∈ output.tokens, '\n' ∉ token.value.text.toList := by
  refine (Text.feedLines_ofLines_iff _).trans ?_
  rw [lines_eq, List.forall_mem_append, List.forall_mem_map]
  simp only [Token.newline_mem_render_iff]
  exact and_iff_left output.newline_not_mem_troubleLines

/-- The tokens are read back from the lines of a report; no other line is of a token. -/
theorem filterMap_ofLine?_lines :
    (output.lines false).filterMap Token.ofLine? = output.tokens.map (·.value) := by
  have htroubles : output.troubleLines.filterMap Token.ofLine? = [] := by
    rw [List.filterMap_eq_nil_iff]
    exact output.ofLine?_troubleLines
  have htokens : Token.ofLine? ∘ (fun token : Spanned Token ↦ token.value.render) =
      fun token ↦ some token.value :=
    funext fun token ↦ token.value.ofLine?_render
  rw [lines_eq, List.filterMap_append, htroubles, List.append_nil, List.filterMap_map, htokens,
    List.filterMap_eq_map']

end Pipeline.Output

theorem ScanOutput.eq_of_enforce_eq_ok {output passed : ScanOutput} {mode : ScanMode}
    (h : output.enforce mode = .ok passed) : passed = output := by
  unfold enforce at h
  split at h
  · split at h
    · cases h
    · exact (Except.ok.inj h).symm
  · exact (Except.ok.inj h).symm

namespace Pipeline

/-- A result of a source holds the scan of the source. -/
theorem scan_of_processSource {settings : Settings} {name source : String}
    {session : Log.Session} {result : Result}
    (hresult : ((processSource settings name source).run session).1 = .ok result) :
    result.scan = scan settings.scan source := by
  rw [processSource_run] at hresult
  cases hverdict : (scan settings.scan source).enforce settings.scan.mode with
  | error error =>
    rw [hverdict] at hresult
    cases hresult
  | ok passed =>
    rw [hverdict] at hresult
    cases hresult
    exact ScanOutput.eq_of_enforce_eq_ok hverdict

/-- A report about a source has a line for each token, each trouble that was kept and, if there are
any, the others, and beyond these as many lines as there are line feeds in strings. If no string
holds one, the lines are just those of the report, and the tokens can be read back from them. -/
theorem renderText_processSource {settings : Settings} {name source : String}
    {session : Log.Session} {result : Result}
    (hresult : ((processSource settings name source).run session).1 = .ok result)
    (withMetrics : Bool) :
    let output := result.report withMetrics
    let text := output.renderText false
    text.toList.count '\n' =
      output.tokens.length + output.diagnostics.length +
        (if 0 < output.suppressed then 1 else 0) +
        (output.tokens.map fun token ↦ token.value.text.toList.count '\n').sum ∧
    (∀ token ∈ output.tokens, '\n' ∈ token.value.text.toList → token.value.kind = .string) ∧
    (Text.feedLines text =
        output.tokens.map (·.value.render) ++
          (output.diagnostics.map (fun diagnostic ↦ "# " ++ diagnostic.render) ++
            Output.suppressedLines output.suppressed) ↔
      ∀ token ∈ output.tokens, token.value.kind = .string → '\n' ∉ token.value.text.toList) ∧
    ((∀ token ∈ output.tokens, token.value.kind = .string → '\n' ∉ token.value.text.toList) →
      (Text.feedLines text).filterMap Token.ofLine? = output.tokens.map (·.value)) := by
  intro output text
  have hscan : output.tokens = (scan settings.scan source).tokens :=
    congrArg ScanOutput.tokens (scan_of_processSource hresult)
  have hkind : ∀ token ∈ output.tokens, '\n' ∈ token.value.text.toList →
      token.value.kind = .string := by
    intro token htoken
    rw [hscan] at htoken
    exact (wellFormed_of_mem_tokens_scan htoken).kind_of_newline_mem
  have hstrings : (∀ token ∈ output.tokens, '\n' ∉ token.value.text.toList) ↔
      ∀ token ∈ output.tokens, token.value.kind = .string → '\n' ∉ token.value.text.toList :=
    forall₂_congr fun token htoken ↦
      ⟨fun hnot _ ↦ hnot, fun hnot hmem ↦ hnot (hkind token htoken hmem) hmem⟩
  have hlines := output.feedLines_renderText_iff
  rw [hstrings, Output.lines_eq] at hlines
  refine ⟨output.count_newline_renderText, hkind, hlines, fun hnone ↦ ?_⟩
  rw [← output.filterMap_ofLine?_lines, Output.lines_eq, ← hlines.2 hnone]

/-- A string of two lines, and a stray character before it. -/
theorem renderText_processSource_stray :
    let session : Log.Session := { environment := .empty, now := .epoch, elapsed := .zero }
    ∃ result,
      ((processSource ⟨.builtIn, .builtIn, .builtIn⟩ "name" "@ x \"a\nb\"").run session).1 =
        .ok result ∧
      ((result.report false).renderText false).toList.count '\n' = 2 + 1 + 0 + 1 := by
  intro session
  have hresult := processSource_run ⟨.builtIn, .builtIn, .builtIn⟩ "name" "@ x \"a\nb\"" session
  refine ⟨_, hresult, ?_⟩
  have hcount := (renderText_processSource hresult false).1
  rw [hcount]
  decide +kernel

/-- The one token of a source takes two lines when it is a string of two lines, and the two lines may
be those of two other tokens. -/
theorem renderText_two_lines :
    let session : Log.Session := { environment := .empty, now := .epoch, elapsed := .zero }
    let process := processSource ⟨.builtIn, .builtIn, .builtIn⟩ "name"
    (∃ result,
      ((process "\"a\nb\"").run session).1 = .ok result ∧
      let output := result.report false
      output.renderText false = "STRING(a\nb)\n" ∧
      (output.renderText false).toList.count '\n' ≠
        output.tokens.length + output.diagnostics.length +
          if 0 < output.suppressed then 1 else 0) ∧
    ∃ result other,
      ((process "\"a)\nWORD(b\"").run session).1 = .ok result ∧
      ((process "\"a\" b").run session).1 = .ok other ∧
      result.scan.plainTokens ≠ other.scan.plainTokens ∧
      (result.report false).renderText false = (other.report false).renderText false := by
  intro session process
  constructor
  · refine ⟨_, processSource_run _ _ _ session, ?_⟩
    decide +kernel
  · refine ⟨_, _, processSource_run _ _ _ session, processSource_run _ _ _ session, ?_⟩
    decide +kernel

end Pipeline

end Lexeme
