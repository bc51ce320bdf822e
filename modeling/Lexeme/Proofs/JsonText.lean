import Lexeme.Proofs.Numerals

/-!
# JSON text

Every value that can be written (`Json.Value.Readable`) is read back from its text, in whatever
layout it is written (`Json.Value.Readable.ofText?_toLine`, `Json.Value.Readable.ofText?_toLines`).
The characters of a string are escaped one by one and come back one by one
(`Json.readString_quote`). For whole values the induction is on the value: its text is read back,
whatever follows it, as long as that does not go on as a number (`Json.IsReadBack`), and if this
holds for its items or members, then an array (`Json.readItems_laidOut`) or an object
(`Json.readMembers_laidOut`) is read up to its end. On one line no text of a value holds a control,
whatever stands in its strings (`Json.Value.Readable.freeOfControls`).
-/

set_option autoImplicit false
set_option relaxedAutoImplicit false

namespace Lexeme.Json

/-! ### Strings -/

/-- An escaped character is read as one code point. -/
theorem codePoints_escape (found : List Nat) (c : Char) (rest : List Char) :
    codePoints found (escape c ++ rest) = codePoints (c.toNat :: found) rest := by
  unfold escape
  split
  case h_8 hquote hbackslash _ _ _ _ _ =>
    split
    · next hcontrol =>
      have hnumber : ∀ n < 32, Text.hexNumber?
          ['0', '0', Nat.digitChar (n / 16), Nat.digitChar (n % 16)] = some n := by decide
      simp only [List.cons_append, List.nil_append]
      rw [codePoints, hnumber _ hcontrol]
    · next hcontrol =>
      rw [List.singleton_append, codePoints.eq_5, if_neg hcontrol]
      · exact hquote
      · exact fun _ _ _ _ _ hc _ ↦ hbackslash hc
      · exact fun _ _ hc _ ↦ hbackslash hc
  all_goals rfl

theorem codePoints_flatMap_escape (cs : List Char) (found : List Nat) (rest : List Char) :
    codePoints found (cs.flatMap escape ++ '"' :: rest) =
      some (found.reverse ++ cs.map Char.toNat, rest) := by
  induction cs generalizing found with
  | nil => simp [codePoints]
  | cons c cs ih =>
    rw [List.flatMap_cons, List.append_assoc, codePoints_escape, ih]
    simp

/-- Characters are no halves of surrogate pairs. -/
theorem joinHalves_map_toNat (cs found : List Char) :
    joinHalves found (cs.map Char.toNat) = some (found.reverse ++ cs) := by
  induction cs generalizing found with
  | nil => simp [joinHalves]
  | cons c cs ih =>
    rw [List.map_cons, joinHalves.eq_def]
    simp only [show c.toNat.isValidChar from c.valid, if_true, Char.ofNat_toNat, ih]
    simp

/-- A string is read back from behind its opening quote. -/
theorem readString_quote (text : String) (rest : List Char) :
    readString (text.toList.flatMap escape ++ '"' :: rest) = some (some text, rest) := by
  rw [readString, codePoints_flatMap_escape]
  simp [joinHalves_map_toNat]

/-! ### Spaces -/

theorem skipSpace_append {spaces : List Char} (hspaces : spaces.all isSpace) (rest : List Char) :
    skipSpace (spaces ++ rest) = skipSpace rest :=
  List.dropWhile_append_of_pos (List.all_eq_true.1 hspaces)

theorem skipSpace_cons {c : Char} (hc : isSpace c = false) (rest : List Char) :
    skipSpace (c :: rest) = c :: rest := by
  simp [skipSpace, hc]

/-! ### Values -/

/-- The value has a text: it has no part that could not be read, and its numbers are written as JSON
writes them. -/
inductive Value.Readable : Value → Prop
  | null : Value.Readable .null
  | boolean (value : Bool) : Value.Readable (.boolean value)
  | number (numeral : Numeral) (hwell : numeral.WellFormed) : Value.Readable (.number numeral)
  | string (text : String) : Value.Readable (.string text)
  | array (items : List Value) (hitems : ∀ item ∈ items, item.Readable) :
      Value.Readable (.array items)
  | object (members : List (String × Value)) (hmembers : ∀ member ∈ members, member.2.Readable) :
      Value.Readable (.object members)

/-- The text of a number starts with a sign or a digit. -/
theorem Numeral.head_text (numeral : Numeral) (hwell : numeral.WellFormed) :
    ∃ c cs, numeral.text = c :: cs ∧ (c = '-' ∨ c.isDigit) := by
  obtain ⟨digit, digits, hwhole⟩ := List.exists_cons_of_ne_nil hwell.ne_nil
  have hdigit : digit.isDigit := hwell.whole digit (hwhole ▸ List.mem_cons_self)
  rw [text, hwhole]
  cases numeral.negative with
  | true => exact ⟨'-', _, rfl, .inl rfl⟩
  | false => exact ⟨digit, _, rfl, .inr hdigit⟩

theorem ne_of_isDigit {c : Char} (hc : c = '-' ∨ c.isDigit) {d : Char} (hd : d.isDigit = false)
    (hsign : d ≠ '-') : c ≠ d := by
  rintro rfl
  rcases hc with hc | hc
  · exact hsign hc
  · exact Bool.false_ne_true (hd.symm.trans hc)

theorem isSpace_of_isDigit {c : Char} (hc : c = '-' ∨ c.isDigit) : isSpace c = false := by
  have hne {d : Char} := ne_of_isDigit hc (d := d)
  simp [isSpace, hne]

/-- The text of a value starts with a character that is no space and ends no array or object. -/
theorem Value.Readable.head_laidOut {value : Value} (hreadable : value.Readable) (layout : Layout)
    (depth : Nat) :
    ∃ c rest, value.laidOut layout depth = c :: rest ∧ isSpace c = false ∧ c ≠ ']' := by
  cases hreadable with
  | null => exact ⟨'n', "ull".toList, by rw [laidOut]; rfl, by decide⟩
  | boolean value =>
    cases value with
    | true => exact ⟨'t', "rue".toList, by rw [laidOut]; rfl, by decide⟩
    | false => exact ⟨'f', "alse".toList, by rw [laidOut]; rfl, by decide⟩
  | number numeral hwell =>
    obtain ⟨c, cs, htext, hc⟩ := numeral.head_text hwell
    rw [laidOut]
    exact ⟨c, cs, htext, isSpace_of_isDigit hc, ne_of_isDigit hc (by decide) (by decide)⟩
  | string text => exact ⟨'"', _, by rw [laidOut]; rfl, by decide⟩
  | array items =>
    cases items with
    | nil => exact ⟨'[', _, by rw [laidOut], by decide⟩
    | cons item items => exact ⟨'[', _, by rw [laidOut]; rfl, by decide⟩
  | object members =>
    cases members with
    | nil => exact ⟨'{', _, by rw [laidOut], by decide⟩
    | cons member members => exact ⟨'{', _, by rw [laidOut]; rfl, by decide⟩

theorem readValue_spaces {spaces : List Char} (hspaces : spaces.all isSpace) (fuel : Nat)
    (cs : List Char) : readValue fuel (spaces ++ cs) = readValue fuel cs := by
  cases fuel with
  | zero => rw [readValue, readValue]
  | succ fuel => rw [readValue, readValue, skipSpace_append hspaces]

theorem readItems_spaces {spaces : List Char} (hspaces : spaces.all isSpace) (fuel : Nat)
    (found : List Value) (cs : List Char) :
    readItems fuel found (spaces ++ cs) = readItems fuel found cs := by
  cases fuel with
  | zero => rw [readItems, readItems]
  | succ fuel => rw [readItems, readItems, readValue_spaces hspaces]

theorem readMembers_spaces {spaces : List Char} (hspaces : spaces.all isSpace) (fuel : Nat)
    (found : List (Option String × Value)) (cs : List Char) :
    readMembers fuel found (spaces ++ cs) = readMembers fuel found cs := by
  cases fuel with
  | zero => rw [readMembers, readMembers]
  | succ fuel => rw [readMembers, readMembers, skipSpace_append hspaces]

theorem endsNumeral_cons {c : Char} (hc : c.isDigit = false ∧ c ≠ '.' ∧ c ≠ 'e' ∧ c ≠ 'E')
    (rest : List Char) : EndsNumeral (c :: rest) := by
  intro d hd
  obtain rfl := Option.some.inj hd
  exact hc

theorem EndsNumeral.spaces_append {rest : List Char} (hrest : EndsNumeral rest)
    {spaces : List Char} (hspaces : spaces.all isSpace) : EndsNumeral (spaces ++ rest) := by
  cases spaces with
  | nil => exact hrest
  | cons space spaces =>
    have hspace : isSpace space := List.all_eq_true.1 hspaces space List.mem_cons_self
    simp only [isSpace, Bool.or_eq_true, beq_iff_eq] at hspace
    rcases hspace with ((rfl | rfl) | rfl) | rfl <;> exact endsNumeral_cons (by decide) _

/-- The value is read back from its text, whatever follows it, in calls as deep as the text has
characters, twice. -/
def IsReadBack (layout : Layout) (value : Value) : Prop :=
  ∀ (depth fuel : Nat) (rest : List Char), EndsNumeral rest →
    2 * (value.laidOut layout depth).length ≤ fuel →
      readValue fuel (value.laidOut layout depth ++ rest) = some (value, rest)

variable {layout : Layout}

/-- The items of an array are read back if each of them is. -/
theorem readItems_laidOut (depth : Nat) {item : Value} {items : List Value}
    (hitem : IsReadBack layout item) (hitems : ∀ item ∈ items, IsReadBack layout item)
    (fuel : Nat) (found : List Value) (rest : List Char)
    (hfuel : 2 * (item.laidOut layout (depth + 1) ++ laidOutItems layout depth items).length ≤
      fuel) :
    readItems fuel found
      (item.laidOut layout (depth + 1) ++ (laidOutItems layout depth items ++ rest)) =
        some (found.reverse ++ item :: items, rest) := by
  induction items generalizing item fuel found with
  | nil =>
    rw [laidOutItems, List.length_append, List.length_append, List.length_singleton] at hfuel
    obtain ⟨fuel, rfl⟩ : ∃ less, fuel = less + 1 := ⟨fuel - 1, by omega⟩
    have hends : EndsNumeral (layout.gap depth ++ ']' :: rest) :=
      (endsNumeral_cons (by decide) rest).spaces_append (layout.gap_space depth)
    have hread := hitem (depth + 1) fuel _ hends (by omega)
    rw [readItems, laidOutItems, List.append_assoc, List.singleton_append, hread]
    simp only [skipSpace_append (layout.gap_space depth)]
    rw [skipSpace_cons (by decide)]
    simp
  | cons next items ih =>
    simp only [laidOutItems, List.length_append, List.length_cons] at hfuel
    obtain ⟨fuel, rfl⟩ : ∃ less, fuel = less + 1 := ⟨fuel - 1, by omega⟩
    have hread := hitem (depth + 1) fuel
      (laidOutItems layout depth (next :: items) ++ rest)
      (by rw [laidOutItems]; exact endsNumeral_cons (by decide) _) (by omega)
    have hrest := ih (hitems next List.mem_cons_self)
      (fun item hmem ↦ hitems item (List.mem_cons_of_mem _ hmem)) fuel (item :: found)
      (by rw [List.length_append]; omega)
    rw [readItems, hread]
    simp only [laidOutItems, List.cons_append, List.append_assoc]
    rw [skipSpace_cons (by decide)]
    simp only [readItems_spaces (layout.gap_space (depth + 1)), hrest]
    simp

/-- A member is read up to its end, where the next one follows, or the end of the object. -/
theorem readMembers_member (depth : Nat) (key : String) {value : Value}
    (hvalue : IsReadBack layout value) (fuel : Nat) (found : List (Option String × Value))
    {rest : List Char} (hends : EndsNumeral rest)
    (hfuel : 2 * (value.laidOut layout depth).length ≤ fuel) :
    let text := quote key ++ ':' :: (layout.colonGap ++ (value.laidOut layout depth ++ rest))
    (∀ more, skipSpace rest = ',' :: more →
      readMembers (fuel + 1) found text = readMembers fuel ((some key, value) :: found) more) ∧
    (∀ more, skipSpace rest = '}' :: more →
      readMembers (fuel + 1) found text = some (((some key, value) :: found).reverse, more)) := by
  dsimp only
  rw [readMembers, quote, List.cons_append, List.cons_append, List.append_assoc,
    List.singleton_append, skipSpace_cons (by decide)]
  simp only [readString_quote]
  rw [skipSpace_cons (by decide)]
  simp only [readValue_spaces layout.colonGap_space, hvalue depth fuel rest hends hfuel]
  exact ⟨fun more hmore ↦ by simp only [hmore], fun more hmore ↦ by simp only [hmore]⟩

/-- The members of an object are read back if their values are. -/
theorem readMembers_laidOut (depth : Nat) (key : String) {value : Value}
    {members : List (String × Value)} (hvalue : IsReadBack layout value)
    (hmembers : ∀ member ∈ members, IsReadBack layout member.2)
    (fuel : Nat) (found : List (Option String × Value)) (rest : List Char)
    (hfuel : 2 * ((value.laidOut layout (depth + 1)).length +
      (laidOutMembers layout depth members).length) ≤ fuel) :
    readMembers fuel found (quote key ++ ':' :: (layout.colonGap ++
        (value.laidOut layout (depth + 1) ++ (laidOutMembers layout depth members ++ rest)))) =
      some (found.reverse ++
        ((key, value) :: members).map (fun member ↦ (some member.1, member.2)), rest) := by
  induction members generalizing key value fuel found with
  | nil =>
    rw [laidOutMembers, List.length_append, List.length_singleton] at hfuel
    obtain ⟨fuel, rfl⟩ : ∃ less, fuel = less + 1 := ⟨fuel - 1, by omega⟩
    have hends : EndsNumeral (layout.gap depth ++ '}' :: rest) :=
      (endsNumeral_cons (by decide) rest).spaces_append (layout.gap_space depth)
    have hend : skipSpace (layout.gap depth ++ '}' :: rest) = '}' :: rest := by
      rw [skipSpace_append (layout.gap_space depth), skipSpace_cons (by decide)]
    have hmember := readMembers_member (depth + 1) key hvalue fuel found hends (by omega)
    rw [laidOutMembers, List.append_assoc, List.singleton_append, hmember.2 rest hend]
    simp
  | cons next members ih =>
    obtain ⟨nextKey, nextValue⟩ := next
    simp only [laidOutMembers, List.length_append, List.length_cons] at hfuel
    obtain ⟨fuel, rfl⟩ : ∃ less, fuel = less + 1 := ⟨fuel - 1, by omega⟩
    have hnext : IsReadBack layout nextValue := hmembers (nextKey, nextValue) List.mem_cons_self
    have hrest := ih nextKey hnext
      (fun member hmem ↦ hmembers member (List.mem_cons_of_mem _ hmem)) fuel
      ((some key, value) :: found) (by omega)
    have hends (more : List Char) : EndsNumeral (',' :: more) := endsNumeral_cons (by decide) more
    have hmember (more : List Char) :=
      readMembers_member (depth + 1) key hvalue fuel found (hends more) (by omega)
    simp only [laidOutMembers, List.cons_append, List.append_assoc]
    rw [(hmember _).1 _ (skipSpace_cons (by decide) _),
      readMembers_spaces (layout.gap_space (depth + 1)), hrest]
    simp

/-- What starts like a number is read as one. -/
theorem readValue_number (fuel : Nat) {c : Char} (hc : c = '-' ∨ c.isDigit) (cs : List Char) :
    readValue (fuel + 1) (c :: cs) =
      (readNumeral (c :: cs)).map fun (numeral, rest) ↦ (.number numeral, rest) := by
  have hne {d : Char} := ne_of_isDigit hc (d := d)
  rw [readValue, skipSpace_cons (isSpace_of_isDigit hc)]
  split
  case h_7 => rfl
  all_goals next hcons => exact absurd (List.cons.inj hcons).1 (hne (by decide) (by decide))

/-- What does not end at once behind a bracket has items. -/
theorem readValue_items (fuel : Nat) {spaces : List Char} (hspaces : spaces.all isSpace) {c : Char}
    (hspace : isSpace c = false) (hbracket : c ≠ ']') (cs : List Char) :
    readValue (fuel + 1) ('[' :: (spaces ++ c :: cs)) =
      (readItems fuel [] (c :: cs)).map fun (items, rest) ↦ (.array items, rest) := by
  rw [readValue, skipSpace_cons (by decide)]
  simp only [skipSpace_append hspaces, skipSpace_cons hspace]
  split
  · next hcons => exact absurd (List.cons.inj hcons).1 hbracket
  · rfl

/-- What does not end at once behind a brace has members. -/
theorem readValue_members (fuel : Nat) {spaces : List Char} (hspaces : spaces.all isSpace)
    (cs : List Char) :
    readValue (fuel + 1) ('{' :: (spaces ++ '"' :: cs)) =
      (readMembers fuel [] ('"' :: cs)).map fun (members, rest) ↦ (objectOf members, rest) := by
  rw [readValue, skipSpace_cons (by decide)]
  simp only [skipSpace_append hspaces]
  rw [skipSpace_cons (by decide)]
  rfl

theorem mapM_map_some (members : List (String × Value)) :
    (members.map fun member ↦ (some member.1, member.2)).mapM
      (fun (key, value) ↦ key.map (·, value)) = some members := by
  induction members with
  | nil => rfl
  | cons member members ih => simp [ih]

theorem objectOf_map_some (members : List (String × Value)) :
    objectOf (members.map fun member ↦ (some member.1, member.2)) = .object members := by
  rw [objectOf, mapM_map_some]

/-- Since no text is empty, only calls that read something matter. -/
theorem Value.Readable.isReadBack_of_succ {value : Value} (hreadable : value.Readable)
    (hread : ∀ (depth fuel : Nat) (rest : List Char), EndsNumeral rest →
      2 * (value.laidOut layout depth).length ≤ fuel + 1 →
        readValue (fuel + 1) (value.laidOut layout depth ++ rest) = some (value, rest)) :
    IsReadBack layout value := by
  intro depth fuel rest hends hfuel
  obtain ⟨c, cs, htext, -, -⟩ := hreadable.head_laidOut layout depth
  cases fuel with
  | zero => simp [htext] at hfuel
  | succ fuel => exact hread depth fuel rest hends hfuel

/-- Every value that can be written is read back from its text. -/
theorem Value.Readable.isReadBack {value : Value} (hreadable : value.Readable) (layout : Layout) :
    IsReadBack layout value := by
  induction hreadable with
  | null =>
    refine isReadBack_of_succ .null fun depth fuel rest _ _ ↦ ?_
    rw [laidOut]
    rfl
  | boolean value =>
    refine isReadBack_of_succ (.boolean value) fun depth fuel rest _ _ ↦ ?_
    cases value <;> (rw [laidOut]; rfl)
  | number numeral hwell =>
    refine isReadBack_of_succ (.number numeral hwell) fun depth fuel rest hends _ ↦ ?_
    obtain ⟨c, cs, htext, hc⟩ := numeral.head_text hwell
    have hread := readNumeral_text numeral hwell hends
    rw [htext, List.cons_append] at hread
    rw [laidOut, htext, List.cons_append, readValue_number fuel hc, hread]
    rfl
  | string text =>
    refine isReadBack_of_succ (.string text) fun depth fuel rest _ _ ↦ ?_
    rw [laidOut, quote, List.cons_append, List.cons_append, List.append_assoc,
      List.singleton_append, readValue, skipSpace_cons (by decide)]
    simp only [readString_quote]
    rfl
  | array items hitems ih =>
    refine isReadBack_of_succ (.array items hitems) fun depth fuel rest hends hfuel ↦ ?_
    cases items with
    | nil =>
      rw [laidOut]
      rfl
    | cons item items =>
      obtain ⟨c, cs, htext, hspace, hbracket⟩ :=
        (hitems item List.mem_cons_self).head_laidOut layout (depth + 1)
      have hread := readItems_laidOut depth (ih item List.mem_cons_self)
        (fun item hmem ↦ ih item (List.mem_cons_of_mem _ hmem)) fuel [] rest
        (by
          simp only [laidOut, List.length_append, List.length_cons] at hfuel ⊢
          omega)
      simp only [htext, List.cons_append] at hread
      simp only [laidOut, htext, List.cons_append, List.append_assoc]
      rw [readValue_items fuel (layout.gap_space (depth + 1)) hspace hbracket, hread]
      rfl
  | object members hmembers ih =>
    refine isReadBack_of_succ (.object members hmembers) fun depth fuel rest hends hfuel ↦ ?_
    cases members with
    | nil =>
      rw [laidOut]
      rfl
    | cons member members =>
      obtain ⟨key, value⟩ := member
      have hread := readMembers_laidOut depth key (ih (key, value) List.mem_cons_self)
        (fun member hmem ↦ ih member (List.mem_cons_of_mem _ hmem)) fuel [] rest
        (by
          simp only [laidOut, List.length_append, List.length_cons] at hfuel ⊢
          omega)
      simp only [quote, List.cons_append, List.append_assoc] at hread
      simp only [laidOut, quote, List.cons_append, List.append_assoc]
      rw [readValue_members fuel (layout.gap_space (depth + 1)), hread]
      exact congrArg (fun object ↦ some (object, rest))
        (objectOf_map_some ((key, value) :: members))

/-! ### Texts -/

theorem Value.Readable.ofText?_laidOut {value : Value} (hreadable : value.Readable)
    (layout : Layout) : ofText? (String.ofList (value.laidOut layout 0)) = some value := by
  have hread := hreadable.isReadBack layout 0 (2 * (value.laidOut layout 0).length + 2) []
    nofun (Nat.le_add_right _ _)
  rw [List.append_nil] at hread
  simp only [ofText?, String.toList_ofList, hread]
  rfl

/-- A value is read back from its text on one line. -/
theorem Value.Readable.ofText?_toLine {value : Value} (hreadable : value.Readable) :
    ofText? value.toLine = some value :=
  hreadable.ofText?_laidOut .line

/-- A value is read back from its text over several lines. -/
theorem Value.Readable.ofText?_toLines {value : Value} (hreadable : value.Readable) :
    ofText? value.toLines = some value :=
  hreadable.ofText?_laidOut .lines

/-! ### Controls -/

/-- No character is a control below U+0020, a line break among them. -/
def FreeOfControls (cs : List Char) : Prop :=
  ∀ c ∈ cs, 0x20 ≤ c.toNat

@[simp] theorem freeOfControls_nil : FreeOfControls [] :=
  List.forall_mem_nil _

@[simp] theorem freeOfControls_cons {c : Char} {cs : List Char} :
    FreeOfControls (c :: cs) ↔ 0x20 ≤ c.toNat ∧ FreeOfControls cs :=
  List.forall_mem_cons

@[simp] theorem freeOfControls_append {cs ds : List Char} :
    FreeOfControls (cs ++ ds) ↔ FreeOfControls cs ∧ FreeOfControls ds :=
  List.forall_mem_append

theorem freeOfControls_of_isDigit {cs : List Char} (hdigits : ∀ c ∈ cs, c.isDigit) :
    FreeOfControls cs := by
  intro c hc
  have hrange := hdigits c hc
  simp only [Char.isDigit, Bool.and_eq_true, decide_eq_true_eq] at hrange
  have hzero : '0'.toNat ≤ c.toNat := hrange.1
  exact Nat.le_trans (by decide) hzero

/-- What a control is written as holds none. -/
theorem freeOfControls_escape (c : Char) : FreeOfControls (escape c) := by
  unfold escape
  split
  case h_8 =>
    split
    · next hcontrol =>
      have hdigits : ∀ n < 32,
          0x20 ≤ (Nat.digitChar (n / 16)).toNat ∧ 0x20 ≤ (Nat.digitChar (n % 16)).toNat := by
        decide
      simp [hdigits _ hcontrol]
    · next hprintable => simpa using hprintable
  all_goals simp

theorem freeOfControls_quote (text : String) : FreeOfControls (quote text) := by
  have hescaped : FreeOfControls (text.toList.flatMap escape) := fun d hd ↦ by
    obtain ⟨c, -, hc⟩ := List.mem_flatMap.1 hd
    exact freeOfControls_escape c d hc
  simp [quote, hescaped]

theorem Numeral.WellFormed.freeOfControls {numeral : Numeral} (hwell : numeral.WellFormed) :
    FreeOfControls numeral.text := by
  have hwhole := freeOfControls_of_isDigit hwell.whole
  have hplaces : FreeOfControls numeral.places := by
    rw [places]
    split
    · exact freeOfControls_nil
    · simpa using freeOfControls_of_isDigit hwell.fraction
  have hpower : FreeOfControls numeral.power := by
    rw [power]
    cases hexponent : numeral.exponent with
    | none => exact freeOfControls_nil
    | some exponent =>
      have hdigits := freeOfControls_of_isDigit (hwell.exponent exponent hexponent).digits
      cases hnegative : exponent.negative <;> simp [hnegative, hdigits]
  cases hnegative : numeral.negative <;> simp [text, hnegative, hwhole, hplaces, hpower]

theorem freeOfControls_laidOutItems {items : List Value}
    (hitems : ∀ item ∈ items, ∀ depth, FreeOfControls (item.laidOut .line depth)) (depth : Nat) :
    FreeOfControls (laidOutItems .line depth items) := by
  induction items with
  | nil => simp [laidOutItems]
  | cons item items ih =>
    obtain ⟨hitem, hrest⟩ := List.forall_mem_cons.1 hitems
    simp [laidOutItems, hitem (depth + 1), ih hrest]

theorem freeOfControls_laidOutMembers {members : List (String × Value)}
    (hmembers : ∀ member ∈ members, ∀ depth, FreeOfControls (member.2.laidOut .line depth))
    (depth : Nat) : FreeOfControls (laidOutMembers .line depth members) := by
  induction members with
  | nil => simp [laidOutMembers]
  | cons member members ih =>
    obtain ⟨hvalue, hrest⟩ := List.forall_mem_cons.1 hmembers
    simp [laidOutMembers, freeOfControls_quote, hvalue (depth + 1), ih hrest]

/-- A value on one line holds no control, whatever stands in its strings. -/
theorem Value.Readable.freeOfControls {value : Value} (hreadable : value.Readable) (depth : Nat) :
    FreeOfControls (value.laidOut .line depth) := by
  induction hreadable generalizing depth with
  | null => simp [laidOut]
  | boolean value => cases value <;> simp [laidOut]
  | number numeral hwell => simpa [laidOut] using hwell.freeOfControls
  | string text => simpa [laidOut] using freeOfControls_quote text
  | array items hitems ih =>
    cases items with
    | nil => simp [laidOut]
    | cons item items =>
      obtain ⟨hitem, hrest⟩ := List.forall_mem_cons.1 ih
      simp [laidOut, hitem (depth + 1), freeOfControls_laidOutItems hrest depth]
  | object members hmembers ih =>
    cases members with
    | nil => simp [laidOut]
    | cons member members =>
      obtain ⟨hvalue, hrest⟩ := List.forall_mem_cons.1 ih
      simp [laidOut, freeOfControls_quote, hvalue (depth + 1),
        freeOfControls_laidOutMembers hrest depth]

end Lexeme.Json
