import Lexeme.Proofs.TokenAt

/-!
# What is read at an offset

Each function that reads a token at an offset, called at any place between two characters before
the end of the source, whatever character stands there (`TokenAt.contracts_of_isValid`). Numbers,
words and strings take the longest run of characters that pass a test (`TokenAt.LongestRun`), an
operator is two characters exactly if they complete each other, and a delimiter is one. A token that
is found reaches up to the offset that is returned with it, which lies between characters of the
source, and what follows there does not continue it (`TokenAt.Reads`).
-/

set_option autoImplicit false
set_option relaxedAutoImplicit false

namespace Lexeme

open Text (isDecimalDigit byteWidth Follows)

namespace TokenAt

/-! ### Runs and tokens of a source -/

/-- The characters between two offsets of a source are the longest run from the first offset on in
which all characters pass a test. -/
structure LongestRun (source : String) (keep : Char → Bool) (start stop : Nat)
    (run : List Char) : Prop where
  slice_eq : slice source start stop = .ok run
  passes : ∀ c ∈ run, keep c = true
  longest : ∀ last part, slice source start last = .ok part → (∀ c ∈ part, keep c = true) →
    last ≤ stop
  stops : ∀ c rest, Follows source stop (c :: rest) → keep c = false

/-- A token stands in a source between two offsets, quotes included, and what follows does not
continue it. -/
structure Reads (source : String) (start : Nat) (token : Token) (stop : Nat) : Prop where
  le : start ≤ stop
  le_size : stop ≤ source.utf8ByteSize
  isValid : String.Pos.Raw.IsValid source ⟨stop⟩
  slice_eq : slice source start stop = .ok token.lexeme
  ends : ∀ rest, Follows source stop rest → token.EndsBefore rest.head?

section Source

variable {source : String} {start : Nat} {rest : List Char}

/-- A slice is what stands at its start, up to its width. -/
theorem of_slice_eq_ok {last : Nat} {part : List Char}
    (hslice : slice source start last = .ok part) :
    ∃ more, Follows source start (part ++ more) ∧ last = start + byteWidth part := by
  have hok : (slice source start last).isOk := by rw [hslice]; rfl
  obtain ⟨hle, hfirst, hlast⟩ := (isOk_slice_iff source start last).mp hok
  obtain ⟨before, after, hsource, rfl⟩ := (Text.isValid_iff_exists_toList source start).mp hfirst
  obtain ⟨upTo, more, hsource', rfl⟩ := (Text.isValid_iff_exists_toList source last).mp hlast
  obtain ⟨middle, rfl, rfl⟩ := Text.exists_between_of_append (hsource.symm.trans hsource') hle
  have hat : Follows source (byteWidth before) (middle ++ more) := ⟨before, hsource, rfl⟩
  rw [Text.byteWidth_append, slice_append hat] at hslice
  obtain rfl := Except.ok.inj hslice
  exact ⟨more, hat, Text.byteWidth_append before middle⟩

/-- A run that the rest does not continue is the longest one. -/
theorem longestRun_of_follows {keep : Char → Bool} {run : List Char}
    (hat : Follows source start (run ++ rest)) (hrun : ∀ c ∈ run, keep c = true)
    (hstop : ∀ c ∈ rest.head?, keep c = false) :
    LongestRun source keep start (start + byteWidth run) run where
  slice_eq := slice_append hat
  passes := hrun
  longest := by
    intro last part hslice hpart
    obtain ⟨more, hpartAt, rfl⟩ := of_slice_eq_ok hslice
    -- A longer run would pass the character at which this one stops.
    by_contra hlonger
    obtain ⟨beyond, rfl, hrest⟩ :=
      Text.exists_between_of_append (hat.text_eq hpartAt) (by omega)
    cases beyond with
    | nil => simp at hlonger
    | cons c beyond =>
      have hkept := hpart c (by simp)
      rw [hstop c (by rw [hrest]; rfl)] at hkept
      cases hkept
  stops := by
    intro c more hmore
    exact hstop c (by rw [hat.advance.text_eq hmore]; rfl)

/-- A token that stands at an offset is read there. -/
theorem reads_of_follows {token : Token} (hat : Follows source start (token.lexeme ++ rest))
    (hends : token.EndsBefore rest.head?) :
    Reads source start token (start + byteWidth token.lexeme) where
  le := Nat.le_add_right _ _
  le_size := hat.advance.le_size
  isValid := hat.advance.isValid
  slice_eq := slice_append hat
  ends := fun _ hmore ↦ hat.advance.text_eq hmore ▸ hends

end Source

/-! ### The readers -/

/-- What the readers find at an offset of a source, where the character `c` stands before `cs`. The
reader of strings is called only at a quote. -/
structure Contracts (source : String) (start : Nat) (c : Char) (cs : List Char) : Prop where
  /-- A number is the longest run of decimal digits, which may be empty. -/
  number : ∃ digits stop, number source start = .ok (⟨.number, String.ofList digits⟩, stop) ∧
    LongestRun source isDecimalDigit start stop digits
  /-- A word is the first character with the longest run of word characters behind it. -/
  word : ∃ others stop, word source start = .ok (⟨.word, String.ofList (c :: others)⟩, stop) ∧
    LongestRun source isWordContinue (start + c.utf8Size) stop others
  /-- There is no string exactly if no other quote follows. -/
  unclosed : c = '"' → (string? source start = .ok none ↔ '"' ∉ cs)
  /-- A string is the text up to the nearest quote, and ends behind that quote. -/
  string : c = '"' → '"' ∈ cs → ∃ body close,
    string? source start = .ok (some (⟨.string, String.ofList body⟩, close + 1)) ∧
      LongestRun source (· != '"') (start + 1) close body ∧
      ∃ rest, Follows source close ('"' :: rest)
  /-- An operator is two characters if they complete each other. -/
  pair : ∀ d ∈ cs.head?, completesPair c d = true → operator source start =
    .ok (⟨.operator, (String.singleton c).push d⟩, start + c.utf8Size + d.utf8Size)
  /-- Otherwise an operator is one character. -/
  single : (∀ d ∈ cs.head?, completesPair c d = false) → operator source start =
    .ok (⟨.operator, String.singleton c⟩, start + c.utf8Size)
  /-- A delimiter is one character. -/
  delimiter : delimiter source start =
    .ok (⟨.delimiter, String.singleton c⟩, start + c.utf8Size)
  /-- A token that is found stands in the source up to the offset that is returned. -/
  reads : ∀ kind, (kind = .string → c = '"') → ∀ token stop,
    ofKind? kind source start = .ok (some (token, stop)) → Reads source start token stop
  /-- The token is the one that is taken from the front of the text. -/
  agrees : ∀ kind, (kind = .string → c = '"') →
    Agrees? source (ofKind? kind source start) (Munch.ofKind? kind (c :: cs))

section Readers

variable {source : String} {start : Nat} {c : Char} {cs : List Char}

theorem number_longest (hat : Follows source start (c :: cs)) :
    ∃ digits stop, number source start = .ok (⟨.number, String.ofList digits⟩, stop) ∧
      LongestRun source isDecimalDigit start stop digits := by
  have hagrees := number_agrees hat
  obtain ⟨digits, rest, hsplit, hdigits, hstop⟩ := Munch.exists_run isDecimalDigit (c :: cs)
  rw [hsplit] at hat hagrees
  rw [Munch.number_append hdigits hstop] at hagrees
  exact ⟨digits, _, hagrees.found_eq digits hat, longestRun_of_follows hat hdigits hstop⟩

theorem word_longest (hat : Follows source start (c :: cs)) :
    ∃ others stop, word source start = .ok (⟨.word, String.ofList (c :: others)⟩, stop) ∧
      LongestRun source isWordContinue (start + c.utf8Size) stop others := by
  have hagrees := word_agrees hat
  obtain ⟨others, rest, rfl, hothers, hstop⟩ := Munch.exists_run isWordContinue cs
  rw [Munch.word_append c hothers hstop] at hagrees
  have hfound := hagrees.found_eq (c :: others) hat
  rw [Text.byteWidth_cons, ← Nat.add_assoc] at hfound
  exact ⟨others, _, hfound, longestRun_of_follows hat.advance_cons hothers hstop⟩

theorem string?_unclosed (hat : Follows source start ('"' :: cs)) (hquote : '"' ∉ cs) :
    string? source start = .ok none := by
  have hagrees := string?_agrees hat
  rwa [Munch.string?_eq_none hquote] at hagrees

theorem string?_closed (hat : Follows source start ('"' :: cs)) (hquote : '"' ∈ cs) :
    ∃ body close, string? source start = .ok (some (⟨.string, String.ofList body⟩, close + 1)) ∧
      LongestRun source (· != '"') (start + 1) close body ∧
      ∃ rest, Follows source close ('"' :: rest) := by
  have hagrees := string?_agrees hat
  obtain ⟨body, rest, rfl, hbody⟩ := List.eq_append_cons_of_mem hquote
  rw [Munch.string?_append hbody] at hagrees
  obtain ⟨stop, hfound, hstop⟩ := hagrees
  have hinside : Follows source (start + 1) (body ++ '"' :: rest) := hat.advance_cons
  have hclose := hinside.advance
  have hbehind : Follows source (start + 1 + byteWidth body + 1) rest := hclose.advance_cons
  rw [hstop.offset_eq hbehind] at hfound
  refine ⟨body, _, hfound, ?_, rest, hclose⟩
  exact longestRun_of_follows hinside (Munch.bne_quote_of_mem hbody) (by simp)

theorem operator_pair (hat : Follows source start (c :: cs)) {d : Char} (hd : d ∈ cs.head?)
    (hpair : completesPair c d = true) : operator source start =
      .ok (⟨.operator, (String.singleton c).push d⟩, start + c.utf8Size + d.utf8Size) := by
  have hagrees := operator_agrees hat
  obtain ⟨rest, rfl⟩ := List.head?_eq_some_iff.mp hd
  rw [Munch.operator_pair hpair] at hagrees
  have hfound := hagrees.found_eq [c, d] hat
  simpa [Nat.add_assoc] using hfound

theorem operator_single (hat : Follows source start (c :: cs))
    (hsingle : ∀ d ∈ cs.head?, completesPair c d = false) : operator source start =
      .ok (⟨.operator, String.singleton c⟩, start + c.utf8Size) := by
  have hagrees := operator_agrees hat
  rw [Munch.operator_single hsingle] at hagrees
  have hfound := hagrees.found_eq [c] hat
  simpa using hfound

theorem delimiter_eq (hat : Follows source start (c :: cs)) :
    delimiter source start = .ok (⟨.delimiter, String.singleton c⟩, start + c.utf8Size) := by
  have hfound := (delimiter_agrees hat).found_eq [c] hat
  simpa using hfound

theorem reads_ofKind? (hat : Follows source start (c :: cs)) {kind : TokenKind}
    (hquote : kind = .string → c = '"') {token : Token} {stop : Nat}
    (hfound : ofKind? kind source start = .ok (some (token, stop))) :
    Reads source start token stop := by
  have hagrees := ofKind?_agrees_of_quote hquote hat
  cases htaken : Munch.ofKind? kind (c :: cs) with
  | none =>
    rw [htaken] at hagrees
    cases hfound.symm.trans hagrees
  | some taken =>
    obtain ⟨found, rest⟩ := taken
    rw [htaken] at hagrees
    obtain ⟨last, hlast, hbehind⟩ := hagrees
    cases hfound.symm.trans hlast
    obtain ⟨htext, hends, -⟩ := Munch.of_ofKind?_eq_some hquote htaken
    rw [htext] at hat
    rw [hbehind.offset_eq hat.advance]
    exact reads_of_follows hat hends

/-- The readers find what they are to find at every place between two characters before the end of
a source. -/
theorem contracts_of_isValid (hvalid : String.Pos.Raw.IsValid source ⟨start⟩)
    (hlt : start < source.utf8ByteSize) :
    ∃ c cs, Follows source start (c :: cs) ∧ Contracts source start c cs := by
  obtain ⟨c, cs, hat⟩ := Follows.exists_of_isValid hvalid hlt
  refine ⟨c, cs, hat, ?_⟩
  exact {
    number := number_longest hat
    word := word_longest hat
    unclosed := by
      rintro rfl
      refine ⟨fun hnone hquote ↦ ?_, string?_unclosed hat⟩
      obtain ⟨body, close, hsome, -⟩ := string?_closed hat hquote
      cases hnone.symm.trans hsome
    string := by
      rintro rfl
      exact string?_closed hat
    pair := fun d hd hpair ↦ operator_pair hat hd hpair
    single := operator_single hat
    delimiter := delimiter_eq hat
    reads := fun kind hquote token stop ↦ reads_ofKind? hat hquote
    agrees := fun kind hquote ↦ ofKind?_agrees_of_quote hquote hat }

end Readers

/-- A quote behind a character of two bytes, before a string with such a character in it. -/
theorem contracts_of_isValid_quote :
    let source := "é\"ß\"<=x_٣"
    String.Pos.Raw.IsValid source ⟨2⟩ ∧ 2 < source.utf8ByteSize ∧
      ∃ c cs, Follows source 2 (c :: cs) ∧ Contracts source 2 c cs := by
  intro source
  have hvalid : String.Pos.Raw.IsValid source ⟨2⟩ := by decide
  have hlt : 2 < source.utf8ByteSize := by decide
  exact ⟨hvalid, hlt, contracts_of_isValid hvalid hlt⟩

end TokenAt

end Lexeme
