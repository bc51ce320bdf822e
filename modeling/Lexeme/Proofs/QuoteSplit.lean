import Lexeme.Proofs.Separation

/-!
# A scan as a split at quotes

The quotes of a source split it into parts that are by turns outside and inside a string. A scan
goes from quote to quote and knows nothing of the split, but what it finds is what the split says
(`Piece.located_eq_alternate`): outside strings what each part holds by itself, inside strings one
token each, and at the end an open string when the number of quotes is odd. The proof follows the
quotes of the source two by two (`quoteInduction`), because nothing that stands before a quote is
continued by it (`Token.endsBefore_quote`).
-/

set_option autoImplicit false
set_option relaxedAutoImplicit false

namespace Lexeme

open Text (byteWidth)

/-! ### Parts by turns -/

/-- What the parts of a text hold when they are by turns outside and inside a string. A part outside
starts at the offset given with it. A part inside is given with the offset of the quote before it;
it is open when no part comes after it, and otherwise the next part starts behind its two
quotes. -/
def alternate {α : Type} (outside inside openEnd : Nat → List Char → List α) (offset : Nat) :
    List (List Char) → List α
  | [] => []
  | [part] => outside offset part
  | [part, body] => outside offset part ++ openEnd (offset + byteWidth part) body
  | part :: body :: next :: parts =>
    outside offset part ++ (inside (offset + byteWidth part) body ++
      alternate outside inside openEnd (offset + byteWidth part + (byteWidth body + 2))
        (next :: parts))

section Alternate

variable {α β : Type} (outside inside openEnd : Nat → List Char → List α)

theorem alternate_closed (offset : Nat) (part body : List Char) {parts : List (List Char)}
    (hparts : parts ≠ []) :
    alternate outside inside openEnd offset (part :: body :: parts) =
      outside offset part ++ (inside (offset + byteWidth part) body ++
        alternate outside inside openEnd (offset + byteWidth part + (byteWidth body + 2))
          parts) := by
  obtain ⟨next, parts, rfl⟩ := List.exists_cons_of_ne_nil hparts
  rw [alternate]

/-- What is made of a text part by part may be made of the parts. -/
theorem map_alternate (f : List α → List β) (hnil : f [] = [])
    (happend : ∀ first second, f (first ++ second) = f first ++ f second) (offset : Nat)
    (parts : List (List Char)) :
    f (alternate outside inside openEnd offset parts) =
      alternate (fun offset part ↦ f (outside offset part))
        (fun offset body ↦ f (inside offset body)) (fun offset body ↦ f (openEnd offset body))
        offset parts := by
  fun_induction alternate outside inside openEnd offset parts with
  | case1 offset => exact hnil
  | case2 offset part => rw [alternate]
  | case3 offset part body => rw [alternate, happend]
  | case4 offset part body next parts ih => rw [alternate, happend, happend, ih]

end Alternate

/-- A text holds no quote, or one whose string is open, or starts with a string that is closed. -/
@[elab_as_elim]
theorem quoteInduction {motive : List Char → Prop} (cs : List Char)
    (plain : ∀ part, '"' ∉ part → motive part)
    (unclosed : ∀ part body, '"' ∉ part → '"' ∉ body → motive (part ++ '"' :: body))
    (closed : ∀ part body rest, '"' ∉ part → '"' ∉ body → motive rest →
      motive (part ++ '"' :: (body ++ '"' :: rest))) : motive cs := by
  induction hlength : cs.length using Nat.strong_induction_on generalizing cs with
  | _ length ih =>
    by_cases hquote : '"' ∈ cs
    · obtain ⟨part, cs, rfl, hpart⟩ := List.eq_append_cons_of_mem hquote
      by_cases hclosed : '"' ∈ cs
      · obtain ⟨body, rest, rfl, hbody⟩ := List.eq_append_cons_of_mem hclosed
        have hshorter : rest.length < length := by
          rw [← hlength]
          simp only [List.length_append, List.length_cons]
          omega
        exact closed part body rest hpart hbody (ih rest.length hshorter rest rfl)
      · exact unclosed part cs hpart hclosed
    · exact plain cs hquote

section Splitting

variable {part body : List Char}

theorem splitOn_unclosed (hpart : '"' ∉ part) (hbody : '"' ∉ body) :
    (part ++ '"' :: body).splitOn '"' = [part, body] := by
  rw [List.splitOn_append_cons_self_of_not_mem hpart, List.splitOn_eq_singleton hbody]

theorem splitOn_closed (hpart : '"' ∉ part) (hbody : '"' ∉ body) (rest : List Char) :
    (part ++ '"' :: (body ++ '"' :: rest)).splitOn '"' = part :: body :: rest.splitOn '"' := by
  rw [List.splitOn_append_cons_self_of_not_mem hpart,
    List.splitOn_append_cons_self_of_not_mem hbody]

theorem count_unclosed (hpart : '"' ∉ part) (hbody : '"' ∉ body) :
    (part ++ '"' :: body).count '"' = 1 := by
  rw [List.count_append, List.count_cons_self, List.count_eq_zero.mpr hpart,
    List.count_eq_zero.mpr hbody]

theorem count_closed (hpart : '"' ∉ part) (hbody : '"' ∉ body) (rest : List Char) :
    (part ++ '"' :: (body ++ '"' :: rest)).count '"' = rest.count '"' + 2 := by
  rw [List.count_append, List.count_cons_self, List.count_append, List.count_cons_self,
    List.count_eq_zero.mpr hpart, List.count_eq_zero.mpr hbody]
  omega

end Splitting

/-- Quotes split a text into one part more than there are quotes. -/
theorem length_splitOn_quote (cs : List Char) :
    (cs.splitOn '"').length = cs.count '"' + 1 := by
  induction cs using quoteInduction with
  | plain part hpart => rw [List.splitOn_eq_singleton hpart, List.count_eq_zero.mpr hpart]; rfl
  | unclosed part body hpart hbody =>
    rw [splitOn_unclosed hpart hbody, count_unclosed hpart hbody]
    rfl
  | closed part body rest hpart hbody ih =>
    rw [splitOn_closed hpart hbody, count_closed hpart hbody, List.length_cons, List.length_cons,
      ih]

theorem byteWidth_closed (part body rest : List Char) :
    byteWidth (part ++ '"' :: (body ++ '"' :: rest)) =
      byteWidth part + (byteWidth body + 2) + byteWidth rest := by
  have hquote : Char.utf8Size '"' = 1 := rfl
  simp only [Text.byteWidth_append, Text.byteWidth_cons, hquote]
  omega

/-! ### Pieces around quotes -/

/-- A quote continues no token. -/
theorem Token.endsBefore_quote (token : Token) : token.EndsBefore (some '"') := by
  have hempty : (⟨.string, ""⟩ : Token).WellFormed := by decide
  refine (token.endsBefore_token_iff hempty).mpr ?_
  unfold Token.merges
  cases token.kind <;> rfl

namespace Piece

/-- Whether a piece starts with a quote: a string, closed or not. -/
def isQuoted : Piece → Bool
  | token t => t.kind == .string
  | openString _ => true
  | _ => false

theorem WellFormed.quote_mem_text {piece : Piece} (hpiece : piece.WellFormed)
    (hquoted : piece.isQuoted = true) : '"' ∈ piece.text := by
  cases piece with
  | token t =>
    have hkind : t.kind = .string := beq_iff_eq.mp hquoted
    simp [text, Token.lexeme, hkind]
  | separator c => cases hquoted
  | stray c => cases hquoted
  | openString cs =>
    obtain ⟨body, rfl, _⟩ := hpiece
    exact List.mem_cons_self

/-- Without a quote there is no string. -/
theorem isQuoted_eq_false {part : List Char} (hpart : '"' ∉ part) (offset : Nat) :
    ∀ piece ∈ located offset part, piece.value.isQuoted = false := by
  intro piece hmem
  rw [Bool.eq_false_iff]
  intro hquoted
  have hquote := (wellFormed_of_mem_located piece hmem).quote_mem_text hquoted
  obtain ⟨pieces, _, rfl, hlocated⟩ := exists_located_eq_place part
  have hvalue : piece.value ∈ pieces := by
    rw [← map_value_place offset pieces, ← hlocated]
    exact List.mem_map_of_mem hmem
  exact hpart (List.mem_flatMap.mpr ⟨piece.value, hvalue, hquote⟩)

/-- What stands before the first quote is scanned as if it stood by itself. -/
theorem located_quote {part : List Char} (hpart : '"' ∉ part) (rest : List Char) (offset : Nat) :
    located offset (part ++ '"' :: rest) =
      located offset part ++ located (offset + byteWidth part) ('"' :: rest) := by
  refine located_append offset fun piece hmem ↦ ?_
  have hquoted := isQuoted_eq_false hpart offset piece (List.mem_of_getLast? hmem)
  cases hvalue : piece.value with
  | token t => exact t.endsBefore_quote
  | separator c => trivial
  | stray c => trivial
  | openString cs =>
    rw [hvalue] at hquoted
    cases hquoted

/-- The string with its quotes around a part, in its place. -/
def closedAt (offset : Nat) (body : List Char) : List (Spanned Piece) :=
  [⟨token ⟨.string, String.ofList body⟩, offset, offset + (byteWidth body + 2)⟩]

/-- The open string of a part, in its place. -/
def openAt (offset : Nat) (body : List Char) : List (Spanned Piece) :=
  [⟨openString ('"' :: body), offset, offset + (byteWidth body + 1)⟩]

theorem located_unclosed {part body : List Char} (hpart : '"' ∉ part) (hbody : '"' ∉ body)
    (offset : Nat) :
    located offset (part ++ '"' :: body) =
      located offset part ++ openAt (offset + byteWidth part) body := by
  have hpiece : (openString ('"' :: body)).WellFormed := ⟨body, rfl, hbody⟩
  have hfound := located_piece _ hpiece (endsBefore_nil _) (offset + byteWidth part)
  have hwidth : (openString ('"' :: body)).width = byteWidth body + 1 := by
    rw [width, Text.byteWidth_cons, Nat.add_comm]
    rfl
  rw [text, List.append_nil, located, hwidth] at hfound
  rw [located_quote hpart, hfound, openAt]

theorem located_closed {part body : List Char} (hpart : '"' ∉ part) (hbody : '"' ∉ body)
    (rest : List Char) (offset : Nat) :
    located offset (part ++ '"' :: (body ++ '"' :: rest)) =
      located offset part ++ (closedAt (offset + byteWidth part) body ++
        located (offset + byteWidth part + (byteWidth body + 2)) rest) := by
  have hpiece : (token ⟨.string, String.ofList body⟩).WellFormed := by
    simpa [WellFormed, Token.WellFormed, TokenKind.IsLexeme] using hbody
  have hends : (token ⟨.string, String.ofList body⟩).EndsBefore rest := trivial
  have hfound := located_piece _ hpiece hends (offset + byteWidth part)
  have hwidth : (token ⟨.string, String.ofList body⟩).width = byteWidth body + 2 := by
    simp [width, Token.width, ← Text.byteWidth_toList]
  have htext : (token ⟨.string, String.ofList body⟩).text ++ rest =
      '"' :: (body ++ '"' :: rest) := by
    simp [text, Token.lexeme]
  rw [htext, hwidth] at hfound
  rw [located_quote hpart, hfound, closedAt, List.singleton_append]

/-- What is found in a text is what its parts between quotes hold by turns. -/
theorem located_eq_alternate (offset : Nat) (cs : List Char) :
    located offset cs = alternate located closedAt openAt offset (cs.splitOn '"') := by
  induction cs using quoteInduction generalizing offset with
  | plain part hpart => rw [List.splitOn_eq_singleton hpart, alternate]
  | unclosed part body hpart hbody =>
    rw [splitOn_unclosed hpart hbody, alternate, located_unclosed hpart hbody]
  | closed part body rest hpart hbody ih =>
    rw [splitOn_closed hpart hbody, alternate_closed _ _ _ _ _ _ (List.splitOn_ne_nil _ _), ← ih,
      located_closed hpart hbody]

end Piece

/-! ### Strings and quotes -/

/-- Without a quote there is neither a token of a string nor an open string. -/
theorem counts_plain {part : List Char} (hpart : '"' ∉ part) (offset : Nat) :
    Token.countKind .string (Piece.tokensOf (Piece.located offset part)) = 0 ∧
      (Piece.located offset part).countP (·.value.isOpenString) = 0 := by
  have hquoted := Piece.isQuoted_eq_false hpart offset
  constructor
  · refine List.countP_eq_zero.mpr fun t ht ↦ ?_
    obtain ⟨span, hmem⟩ := (Piece.mem_tokensOf_iff t _).mp ht
    have hkind : (t.kind == .string) = false := hquoted _ hmem
    rw [hkind]
    exact Bool.false_ne_true
  · refine List.countP_eq_zero.mpr fun piece hmem hopen ↦ ?_
    have hpiece := hquoted piece hmem
    cases hvalue : piece.value <;> rw [hvalue] at hopen hpiece <;> cases hopen
    cases hpiece

/-- Two quotes make a token, and a string is open exactly when a quote is left over. -/
theorem counts_located (offset : Nat) (cs : List Char) :
    Token.countKind .string (Piece.tokensOf (Piece.located offset cs)) = cs.count '"' / 2 ∧
      (Piece.located offset cs).countP (·.value.isOpenString) = cs.count '"' % 2 := by
  induction cs using quoteInduction generalizing offset with
  | plain part hpart =>
    rw [List.count_eq_zero.mpr hpart]
    exact counts_plain hpart offset
  | unclosed part body hpart hbody =>
    obtain ⟨hstrings, hopen⟩ := counts_plain hpart offset
    rw [count_unclosed hpart hbody, Piece.located_unclosed hpart hbody]
    constructor
    · rw [Piece.tokensOf_append, Token.countKind_append, hstrings]
      rfl
    · rw [List.countP_append, hopen]
      rfl
  | closed part body rest hpart hbody ih =>
    obtain ⟨hstrings, hopen⟩ := counts_plain hpart offset
    obtain ⟨hrest, hopen'⟩ := ih (offset + byteWidth part + (byteWidth body + 2))
    have hstring : Token.countKind .string
        (Piece.tokensOf (Piece.closedAt (offset + byteWidth part) body)) = 1 := rfl
    have hclosed : (Piece.closedAt (offset + byteWidth part) body).countP
        (·.value.isOpenString) = 0 := rfl
    rw [count_closed hpart hbody, Piece.located_closed hpart hbody]
    constructor
    · rw [Piece.tokensOf_append, Piece.tokensOf_append, Token.countKind_append,
        Token.countKind_append, hstrings, hstring, hrest]
      omega
    · rw [List.countP_append, List.countP_append, hopen, hclosed, hopen']
      omega

/-! ### Troubles and quotes -/

/-- The troubles of one kind among those of pieces. -/
def Diagnostic.amongPieces (kind : DiagnosticKind) (pieces : List (Spanned Piece)) :
    List Diagnostic :=
  (pieces.filterMap ofPiece?).filter (·.kind == kind)

theorem Diagnostic.amongPieces_append (kind : DiagnosticKind)
    (first second : List (Spanned Piece)) :
    amongPieces kind (first ++ second) = amongPieces kind first ++ amongPieces kind second := by
  simp [amongPieces]

theorem Diagnostic.amongPieces_ofSource (kind : DiagnosticKind) (source : String) :
    amongPieces kind (Piece.located 0 source.toList) =
      (ofSource source).filter (·.kind == kind) := by
  rw [ofSource_eq, Piece.ofSource, amongPieces]

theorem Diagnostic.amongPieces_located (kind : DiagnosticKind) (offset : Nat) (cs : List Char) :
    amongPieces kind (Piece.located offset cs) =
      ((ofSource (String.ofList cs)).filter (·.kind == kind)).map (Diagnostic.shift offset) := by
  rw [amongPieces, troubles_located, List.filter_map]
  rfl

theorem Diagnostic.unterminated_plain {part : List Char} (hpart : '"' ∉ part) (offset : Nat) :
    amongPieces .unterminatedString (Piece.located offset part) = [] := by
  refine List.filter_eq_nil_iff.mpr fun diagnostic hdiagnostic hkind ↦ ?_
  obtain ⟨⟨value, span⟩, hmem, hvalue⟩ := List.mem_filterMap.mp hdiagnostic
  have hquoted := Piece.isQuoted_eq_false hpart offset _ hmem
  cases value with
  | token t => cases hvalue
  | separator c => cases hvalue
  | stray c =>
    cases hvalue
    cases hkind
  | openString cs => cases hquoted

/-- Whether there is an unterminated string is whether the number of quotes is odd, and it reaches
from the last quote to the end. -/
theorem Diagnostic.unterminated_located (offset : Nat) (cs : List Char) :
    (cs.count '"' % 2 = 0 ∧ amongPieces .unterminatedString (Piece.located offset cs) = []) ∨
      (cs.count '"' % 2 = 1 ∧ ∃ before body, cs = before ++ '"' :: body ∧ '"' ∉ body ∧
        amongPieces .unterminatedString (Piece.located offset cs) =
          [make .unterminatedString ⟨offset + byteWidth before, offset + byteWidth cs⟩
            ('"' :: body)]) := by
  induction cs using quoteInduction generalizing offset with
  | plain part hpart =>
    rw [List.count_eq_zero.mpr hpart]
    exact Or.inl ⟨rfl, unterminated_plain hpart offset⟩
  | unclosed part body hpart hbody =>
    have hcount := count_unclosed hpart hbody
    refine Or.inr ⟨by rw [hcount], part, body, rfl, hbody, ?_⟩
    have hwidth : byteWidth (part ++ '"' :: body) = byteWidth part + (byteWidth body + 1) := by
      rw [Text.byteWidth_append, Text.byteWidth_cons, Nat.add_comm (Char.utf8Size _)]
      rfl
    rw [Piece.located_unclosed hpart hbody, amongPieces_append, unterminated_plain hpart, hwidth,
      ← Nat.add_assoc offset]
    rfl
  | closed part body rest hpart hbody ih =>
    have hsplit : amongPieces .unterminatedString
        (Piece.located offset (part ++ '"' :: (body ++ '"' :: rest))) =
          amongPieces .unterminatedString
            (Piece.located (offset + byteWidth part + (byteWidth body + 2)) rest) := by
      rw [Piece.located_closed hpart hbody, amongPieces_append, unterminated_plain hpart]
      rfl
    rw [count_closed hpart hbody, Nat.add_mod_right, hsplit]
    rcases ih (offset + byteWidth part + (byteWidth body + 2)) with heven | hodd
    · exact Or.inl heven
    · obtain ⟨hodd, before, inside, rfl, hinside, htroubles⟩ := hodd
      refine Or.inr ⟨hodd, part ++ '"' :: (body ++ '"' :: before), inside, by simp, hinside, ?_⟩
      rw [htroubles, byteWidth_closed, byteWidth_closed, Nat.add_assoc offset, Nat.add_assoc offset,
        Nat.add_assoc offset]

/-! ### The scan as a split -/

/-- A source is split at its quotes, and the parts are by turns outside and inside a string. The
tokens of a scan are those of scans of the parts outside, and one token for each part inside that is
closed; a part that is not closed has none. Half of the quotes, rounded down, is the number of
strings. A string is unterminated exactly when the number of quotes is odd; then it reaches from the
last quote to the end, and there is no other. The other troubles are those of the parts outside. -/
theorem scan_eq_alternate (settings : ScanSettings) (source : String) :
    let output := scan settings source
    let parts := source.toList.splitOn '"'
    let quotes := source.toList.count '"'
    let troubles := Diagnostic.ofSource source
    parts.length = quotes + 1 ∧
    output.tokens =
      alternate
        (fun offset part ↦
          (scan settings (String.ofList part)).tokens.map (Spanned.shift offset))
        (fun offset body ↦
          [⟨⟨.string, String.ofList body⟩, offset, offset + (byteWidth body + 2)⟩])
        (fun _ _ ↦ []) 0 parts ∧
    Token.countKind .string output.plainTokens = quotes / 2 ∧
    output.metrics.unterminatedStrings = quotes % 2 ∧
    (quotes % 2 = 0 → troubles.filter (·.kind == .unterminatedString) = []) ∧
    (quotes % 2 = 1 → ∃ before body, source.toList = before ++ '"' :: body ∧ '"' ∉ body ∧
      troubles.filter (·.kind == .unterminatedString) =
        [.make .unterminatedString ⟨byteWidth before, source.utf8ByteSize⟩ ('"' :: body)]) ∧
    troubles.filter (·.kind == .unrecognizedCharacter) =
      alternate
        (fun offset part ↦
          ((Diagnostic.ofSource (String.ofList part)).filter
            (·.kind == .unrecognizedCharacter)).map (Diagnostic.shift offset))
        (fun _ _ ↦ []) (fun _ _ ↦ []) 0 parts ∧
    output.diagnostics = troubles.take Limits.current.maxDiagnostics ∧
    output.suppressed = troubles.length - Limits.current.maxDiagnostics := by
  intro output parts quotes troubles
  have hpieces := Piece.located_eq_alternate 0 source.toList
  have hunterminated := Diagnostic.unterminated_located 0 source.toList
  rw [Diagnostic.amongPieces_ofSource, Nat.zero_add, Text.byteWidth_toList] at hunterminated
  refine ⟨length_splitOn_quote _, ?_, ?_, ?_, fun heven ↦ ?_, fun hodd ↦ ?_, ?_,
    diagnostics_scan settings source, suppressed_scan settings source⟩
  · have htokens := map_alternate Piece.located Piece.closedAt Piece.openAt
      (List.filterMap Piece.spannedToken?) rfl
      (fun _ _ ↦ List.filterMap_append) 0 parts
    rw [← hpieces, ← Piece.ofSource, ← tokens_scan settings] at htokens
    simp only [tokens_located settings] at htokens
    exact htokens
  · rw [plainTokens_scan]
    exact (counts_located 0 source.toList).1
  · rw [metrics_scan]
    exact (counts_located 0 source.toList).2
  · rcases hunterminated with ⟨_, hnone⟩ | ⟨hodd, _⟩
    · exact hnone
    · omega
  · rcases hunterminated with ⟨heven, _⟩ | ⟨_, hone⟩
    · omega
    · simpa only [Nat.zero_add] using hone
  · have hstrays := map_alternate Piece.located Piece.closedAt Piece.openAt
      (Diagnostic.amongPieces .unrecognizedCharacter) rfl
      (Diagnostic.amongPieces_append .unrecognizedCharacter) 0 parts
    rw [← hpieces, Diagnostic.amongPieces_ofSource] at hstrays
    simp only [Diagnostic.amongPieces_located] at hstrays
    exact hstrays

end Lexeme
