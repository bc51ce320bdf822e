import Lexeme.Proofs.TomlStrings
import Lexeme.Toml.Document
import Lexeme.Toml.Reader

/-!
# TOML documents

A document of sections is read back as the table of its sections, if its names can stand without
quotes and no name is used twice (`Toml.ofText?_documentText`). The text is read line by line as the
statements of the document (`Toml.isRead_documentText`); what is read of one part of the text and
of another is read of both together (`Toml.IsRead.append`). Statement by statement, the sections
come to be one after the other, and the keys in each (`Toml.foldlM_statements`,
`Toml.foldlM_assign`).
-/

set_option autoImplicit false
set_option relaxedAutoImplicit false

namespace Lexeme.Toml

/-! ### Names -/

/-- The name can stand without quotes. -/
def IsBare (name : String) : Prop :=
  name.toList ≠ [] ∧ name.toList.all isBareKeyChar

instance (name : String) : Decidable (IsBare name) :=
  inferInstanceAs (Decidable (_ ∧ _))

theorem IsBare.forall_mem {name : String} (hbare : IsBare name) :
    ∀ c ∈ name.toList, isBareKeyChar c :=
  List.all_eq_true.1 hbare.2

theorem ne_of_isBareKeyChar {c : Char} (hc : isBareKeyChar c) {d : Char}
    (hd : isBareKeyChar d = false) : c ≠ d := by
  rintro rfl
  exact Bool.false_ne_true (hd.symm.trans hc)

theorem skipSpaces_cons {c : Char} (hc : isSpace c = false) (cs : List Char) :
    skipSpaces (c :: cs) = c :: cs := by
  simp [skipSpaces, hc]

theorem isSpace_of_isBareKeyChar {c : Char} (hc : isBareKeyChar c) : isSpace c = false := by
  have hspace : c ≠ ' ' := ne_of_isBareKeyChar hc rfl
  have htab : c ≠ '\t' := ne_of_isBareKeyChar hc rfl
  simp [isSpace, hspace, htab]

theorem IsBare.exists_cons {name : String} (hbare : IsBare name) :
    ∃ c cs, name.toList = c :: cs ∧ isBareKeyChar c := by
  obtain ⟨c, cs, hname⟩ := List.exists_cons_of_ne_nil hbare.1
  exact ⟨c, cs, hname, hbare.forall_mem c (hname ▸ List.mem_cons_self)⟩

theorem IsBare.readKeyPart {name : String} (hbare : IsBare name) {c : Char}
    (hc : isBareKeyChar c = false) (rest : List Char) :
    readKeyPart (name.toList ++ c :: rest) = some (name, c :: rest) := by
  obtain ⟨first, others, hname, hfirst⟩ := hbare.exists_cons
  have hquote : first ≠ '"' := ne_of_isBareKeyChar hfirst rfl
  have happ : first ≠ '\'' := ne_of_isBareKeyChar hfirst rfl
  rw [Toml.readKeyPart.eq_3 _ (by simp [hname, hquote]) (by simp [hname, happ]),
    List.takeWhile_append_of_pos hbare.forall_mem,
    List.dropWhile_append_of_pos hbare.forall_mem]
  have hstop : ¬isBareKeyChar c = true := Bool.eq_false_iff.1 hc
  rw [List.takeWhile_cons_of_neg hstop, List.dropWhile_cons_of_neg hstop, List.append_nil]
  simp [hbare.1]

/-- A name without quotes is read as a key of one part, and so are the spaces behind it. -/
theorem IsBare.readKey {name : String} (hbare : IsBare name) {c : Char}
    (hc : isBareKeyChar c = false) {rest next : List Char} (hnext : skipSpaces (c :: rest) = next)
    (hdot : ∀ others, next ≠ '.' :: others) :
    readKey (name.toList ++ c :: rest) = some ([name], next) := by
  obtain ⟨first, others, hname, hfirst⟩ := hbare.exists_cons
  have hskip : skipSpaces (name.toList ++ c :: rest) = name.toList ++ c :: rest := by
    rw [hname, List.cons_append, skipSpaces_cons (isSpace_of_isBareKeyChar hfirst)]
  obtain ⟨fuel, hfuel⟩ : ∃ fuel, depthLimit - 1 = fuel + 1 := ⟨_, rfl⟩
  rw [Toml.readKey, hfuel, readKeyParts, hskip, hbare.readKeyPart hc]
  simp only [hnext, List.reverse_singleton]

/-! ### Values -/

/-- The value that is written. -/
def Scalar.toValue : Scalar → Value
  | text content => .string content
  | flag value => .boolean value

theorem head_quote (text : String) :
    ∃ c cs, quote text = c :: cs ∧ (c = '"' ∨ c = '\'') := by
  simp only [quote]
  repeat' split
  all_goals simp [writeBasic, writeLiteral, writeMultiBasic, writeMultiLiteral]

/-- What starts with a quote is read as a string. -/
theorem readValue_string (fuel depth : Nat) {c : Char} (hc : c = '"' ∨ c = '\'') (cs : List Char) :
    readValue (fuel + 1) depth (c :: cs) =
      (readString (c :: cs)).map fun (text, rest) ↦ (.string text, rest) := by
  rcases hc with rfl | rfl <;> rw [readValue]

theorem Scalar.head_written (value : Scalar) :
    ∃ c cs, value.written = c :: cs ∧ isSpace c = false := by
  cases value with
  | text content =>
    obtain ⟨c, cs, hquote, hc⟩ := head_quote content
    exact ⟨c, cs, hquote, by rcases hc with rfl | rfl <;> rfl⟩
  | flag value => cases value <;> exact ⟨_, _, rfl, rfl⟩

/-- A value is read back up to the end of its line. -/
theorem Scalar.readValue_written (value : Scalar) (fuel depth : Nat) (rest : List Char) :
    readValue (fuel + 1) depth (value.written ++ '\n' :: rest) =
      some (value.toValue, '\n' :: rest) := by
  cases value with
  | text content =>
    have hread : readString (quote content ++ '\n' :: rest) = some (content, '\n' :: rest) :=
      readString_quote content (by simp) (by simp)
    obtain ⟨c, cs, hquote, hc⟩ := head_quote content
    rw [hquote, List.cons_append] at hread
    rw [written, hquote, List.cons_append, readValue_string fuel depth hc, hread]
    rfl
  | flag value => cases value <;> rfl

/-! ### Lines -/

/-- A text of whole lines is read as statements, whatever follows it. Every line takes one call. -/
def IsRead (text : List Char) (statements : List Statement) : Prop :=
  ∃ lines ≤ text.length, ∀ (fuel : Nat) (found : List Statement) (rest : List Char),
    readStatements (lines + (fuel + 1)) found (text ++ rest) =
      readStatements (fuel + 1) (statements.reverse ++ found) rest

theorem IsRead.nil : IsRead [] [] :=
  ⟨0, Nat.zero_le _, fun fuel found rest ↦ by simp⟩

theorem IsRead.append {text more : List Char} {statements others : List Statement}
    (htext : IsRead text statements) (hmore : IsRead more others) :
    IsRead (text ++ more) (statements ++ others) := by
  obtain ⟨lines, hlines, hread⟩ := htext
  obtain ⟨moreLines, hmoreLines, hreadMore⟩ := hmore
  refine ⟨lines + moreLines, by rw [List.length_append]; omega, fun fuel found rest ↦ ?_⟩
  rw [List.append_assoc, Nat.add_assoc, ← Nat.add_assoc moreLines, hread, Nat.add_assoc, hreadMore,
    List.reverse_append, List.append_assoc]

/-- Texts of whole lines are read one after the other. -/
theorem IsRead.flatMap {α : Type} {items : List α} {text : α → List Char}
    {statements : α → List Statement}
    (hitems : ∀ item ∈ items, IsRead (text item) (statements item)) :
    IsRead (items.flatMap text) (items.flatMap statements) := by
  induction items with
  | nil => exact .nil
  | cons item items ih =>
    obtain ⟨hitem, hitems⟩ := List.forall_mem_cons.1 hitems
    exact hitem.append (ih hitems)

theorem readStatements_nil (fuel : Nat) (found : List Statement) :
    readStatements (fuel + 1) found [] = some found.reverse :=
  rfl

/-- A line is read as the statements that stand before its end. -/
theorem isRead_line {line : List Char} {statements : List Statement} (hline : line ≠ [])
    (hread : ∀ (fuel : Nat) (rest : List Char),
      readStatement (fuel + 1) (skipSpaces (line ++ rest)) =
        some (statements.reverse, '\n' :: rest)) :
    IsRead line statements := by
  refine ⟨1, List.length_pos_iff.2 hline, fun fuel found rest ↦ ?_⟩
  have hend : skipLineEnd ('\n' :: rest) = some rest := rfl
  rw [Nat.add_comm, readStatements, hread]
  simp only [hend]
  cases rest with
  | nil => rfl
  | cons c rest => rfl

theorem isRead_blank : IsRead ['\n'] [] :=
  isRead_line (List.cons_ne_nil _ _) fun _ _ ↦ rfl

/-- What starts with a bracket is read as a header, unless a second one follows. -/
theorem readStatement_header (fuel : Nat) {c : Char} (hc : c ≠ '[') (cs : List Char) :
    readStatement fuel ('[' :: c :: cs) = readHeader .header [']'] (c :: cs) := by
  rw [readStatement.eq_6]
  simp [hc]

/-- What starts with a character of a key sets this key. -/
theorem readStatement_key (fuel : Nat) {c : Char} (hc : isBareKeyChar c) {cs : List Char}
    {path : List String} {rest : List Char} (hkey : readKey (c :: cs) = some (path, '=' :: rest)) :
    readStatement fuel (c :: cs) =
      (readValue fuel 0 (skipSpaces rest)).map fun (value, rest) ↦
        ([.assign path value], rest) := by
  have hcomment : c ≠ '#' := ne_of_isBareKeyChar hc rfl
  have hfeed : c ≠ '\n' := ne_of_isBareKeyChar hc rfl
  have hreturn : c ≠ '\r' := ne_of_isBareKeyChar hc rfl
  have hbracket : c ≠ '[' := ne_of_isBareKeyChar hc rfl
  rw [readStatement.eq_7, hkey]
  all_goals simp [hcomment, hfeed, hreturn, hbracket]

theorem isRead_header {name : String} (hbare : IsBare name) :
    IsRead (Section.header name) [.header [name]] := by
  refine isRead_line (List.cons_ne_nil _ _) fun fuel rest ↦ ?_
  obtain ⟨first, others, hname, hfirst⟩ := hbare.exists_cons
  have hkey : readKey (name.toList ++ ']' :: '\n' :: rest) = some ([name], ']' :: '\n' :: rest) :=
    hbare.readKey (by decide) (skipSpaces_cons (by decide) _) (by simp)
  have hbracket : first ≠ '[' := ne_of_isBareKeyChar hfirst rfl
  have hskip : skipSpaces (Section.header name ++ rest) =
      '[' :: (name.toList ++ ']' :: '\n' :: rest) := by
    rw [Section.header, List.cons_append, List.cons_append, List.append_assoc]
    exact skipSpaces_cons (by decide) _
  rw [hname] at hkey hskip
  rw [hskip, List.cons_append, readStatement_header _ hbracket, readHeader, ← List.cons_append,
    hkey]
  rfl

theorem isRead_keyLine {key : String} (hbare : IsBare key) (value : Scalar) :
    IsRead (keyLine key value) [.assign [key] value.toValue] := by
  refine isRead_line (by simp [keyLine]) fun fuel rest ↦ ?_
  obtain ⟨first, others, hname, hfirst⟩ := hbare.exists_cons
  obtain ⟨c, cs, hwritten, hc⟩ := value.head_written
  have hkey : readKey (key.toList ++ ' ' :: '=' :: ' ' :: (value.written ++ '\n' :: rest)) =
      some ([key], '=' :: ' ' :: (value.written ++ '\n' :: rest)) :=
    hbare.readKey (by decide) rfl (by simp)
  have hvalue : skipSpaces (' ' :: (value.written ++ '\n' :: rest)) =
      value.written ++ '\n' :: rest := by
    rw [hwritten]
    exact skipSpaces_cons hc _
  have hline : skipSpaces (keyLine key value ++ rest) =
      key.toList ++ ' ' :: '=' :: ' ' :: (value.written ++ '\n' :: rest) := by
    simp only [keyLine, List.append_assoc, hname]
    exact skipSpaces_cons (isSpace_of_isBareKeyChar hfirst) _
  rw [hname] at hkey hline
  rw [hline]
  rw [List.cons_append] at hkey ⊢
  rw [readStatement_key _ hfirst hkey, hvalue, value.readValue_written]
  rfl

/-! ### Sections -/

namespace Section

def statements (part : Section) : List Statement :=
  .header [part.name] :: part.entries.map fun (key, value) ↦ .assign [key] value.toValue

/-- The table that a section holds. -/
def toValue (part : Section) : Value :=
  .table (part.entries.map fun (key, value) ↦ (key, value.toValue))

/-- The names can stand without quotes, and no key is set twice. -/
structure WellFormed (part : Section) : Prop where
  name : IsBare part.name
  keys : ∀ key ∈ part.entries.map Prod.fst, IsBare key
  nodup : (part.entries.map Prod.fst).Nodup

theorem WellFormed.isRead {part : Section} (hpart : part.WellFormed) :
    IsRead part.written part.statements := by
  have hentries : IsRead (part.entries.flatMap fun (key, value) ↦ keyLine key value)
      (part.entries.flatMap fun (key, value) ↦ [.assign [key] value.toValue]) :=
    .flatMap fun entry hentry ↦ isRead_keyLine (hpart.keys _ (List.mem_map_of_mem hentry)) entry.2
  have hboth := (isRead_header hpart.name).append hentries
  rwa [← List.map_eq_flatMap] at hboth

end Section

theorem isRead_documentText {parts : List Section} (hparts : ∀ part ∈ parts, part.WellFormed) :
    IsRead (documentText parts) (parts.flatMap Section.statements) := by
  induction parts with
  | nil => exact .nil
  | cons part parts ih =>
    obtain ⟨hpart, htail⟩ := List.forall_mem_cons.1 hparts
    have hrest := ih htail
    cases parts with
    | nil => simpa [documentText, List.intercalate] using hpart.isRead
    | cons next parts =>
      -- A blank line stands before each section but the first.
      have hall := hpart.isRead.append (isRead_blank.append hrest)
      rwa [documentText, List.map_cons, List.map_cons, List.intercalate_cons_cons,
        List.append_assoc]

/-! ### The table of a document -/

/-- A section while the document is built. -/
def Section.node (part : Section) : Node :=
  .table .header (part.entries.map fun (key, value) ↦ (key, .leaf value.toValue)).reverse

theorem lookup_eq_none {entries : Entries} {key : String} (hkey : key ∉ entries.map Prod.fst) :
    entries.lookup key = none := by
  rw [List.lookup_eq_none_iff]
  intro entry hentry
  simp only [bne_iff_ne]
  rintro rfl
  exact hkey (List.mem_map_of_mem hentry)

/-- A header with a new name starts a table. -/
theorem add_header {entries : Entries} {name : String} (hname : name ∉ entries.map Prod.fst)
    (current : List String) :
    Draft.add ⟨entries, current⟩ (.header [name]) =
      some ⟨(name, .table .header []) :: entries, [name]⟩ := by
  simp [Draft.add, Entries.change, Entries.startTable, lookup_eq_none hname]

/-- A new key is set in the table whose header came last. -/
theorem add_assign {entries : Entries} {key : String} (hkey : key ∉ entries.map Prod.fst)
    (name : String) (value : Value) (outer : Entries) :
    Draft.add ⟨(name, .table .header entries) :: outer, [name]⟩ (.assign [key] value) =
      some ⟨(name, .table .header ((key, .leaf value) :: entries)) :: outer, [name]⟩ := by
  simp [Draft.add, Entries.change, Entries.assign, Entries.replace, lookup_eq_none hkey]

/-- The keys of a section are set one after the other. -/
theorem foldlM_assign (rows : List (String × Scalar)) (entries : Entries)
    (hnodup : (rows.map Prod.fst ++ entries.map Prod.fst).Nodup) (name : String)
    (outer : Entries) :
    (rows.map fun (key, value) ↦ .assign [key] value.toValue).foldlM Draft.add
        ⟨(name, .table .header entries) :: outer, [name]⟩ =
      some ⟨(name, .table .header
        ((rows.map fun (key, value) ↦ (key, .leaf value.toValue)).reverse ++ entries)) ::
          outer, [name]⟩ := by
  induction rows generalizing entries with
  | nil => rfl
  | cons row rows ih =>
    obtain ⟨key, value⟩ := row
    have hkey : key ∉ entries.map Prod.fst := fun hmem ↦
      (List.nodup_cons.1 hnodup).1 (List.mem_append_right _ hmem)
    have hrest := ih ((key, .leaf value.toValue) :: entries) (List.perm_middle.nodup_iff.2 hnodup)
    rw [List.map_cons, List.foldlM_cons, add_assign hkey]
    simpa using hrest

/-- The sections of a document come to be one after the other. -/
theorem foldlM_statements (parts : List Section) (hparts : ∀ part ∈ parts, part.WellFormed)
    (entries : Entries) (hnodup : (parts.map Section.name ++ entries.map Prod.fst).Nodup)
    (current : List String) :
    ∃ last, (parts.flatMap Section.statements).foldlM Draft.add ⟨entries, current⟩ =
      some ⟨(parts.map fun part ↦ (part.name, part.node)).reverse ++ entries, last⟩ := by
  induction parts generalizing entries current with
  | nil => exact ⟨current, rfl⟩
  | cons part parts ih =>
    obtain ⟨hpart, htail⟩ := List.forall_mem_cons.1 hparts
    have hname : part.name ∉ entries.map Prod.fst := fun hmem ↦
      (List.nodup_cons.1 hnodup).1 (List.mem_append_right _ hmem)
    have hrows := foldlM_assign part.entries [] (by simpa using hpart.nodup) part.name entries
    rw [List.append_nil, ← Section.node] at hrows
    obtain ⟨last, hrest⟩ := ih htail ((part.name, part.node) :: entries)
      (List.perm_middle.nodup_iff.2 hnodup) [part.name]
    refine ⟨last, ?_⟩
    rw [List.flatMap_cons, List.foldlM_append, Section.statements, List.foldlM_cons,
      add_header hname]
    simpa [hrows] using hrest

theorem entriesValue_eq_map (entries : Entries) :
    entriesValue entries = entries.map fun (key, node) ↦ (key, node.toValue) := by
  induction entries with
  | nil => rfl
  | cons entry entries ih => rw [entriesValue, ih]; rfl

theorem Section.toValue_node (part : Section) : part.node.toValue = part.toValue := by
  simp [node, toValue, Node.toValue, entriesValue_eq_map]

/-- A document starts with no mark of byte order. -/
theorem dropMark_documentText (parts : List Section) :
    dropMark (documentText parts) = documentText parts := by
  cases parts with
  | nil => rfl
  | cons part parts =>
    obtain ⟨rest, hrest⟩ : ∃ rest, documentText (part :: parts) = '[' :: rest := by
      cases parts with
      | nil => exact ⟨_, rfl⟩
      | cons next parts => exact ⟨_, rfl⟩
    rw [hrest]
    rfl

/-- A document is read back as the table of its sections. -/
theorem ofText?_documentText {parts : List Section} (hparts : ∀ part ∈ parts, part.WellFormed)
    (hnodup : (parts.map Section.name).Nodup) :
    Value.ofText? (String.ofList (documentText parts)) =
      some (.table (parts.map fun part ↦ (part.name, part.toValue))) := by
  obtain ⟨lines, hlines, hread⟩ := isRead_documentText hparts
  obtain ⟨last, hbuilt⟩ := foldlM_statements parts hparts [] (by simpa using hnodup) []
  -- There are calls to spare, since no line is empty.
  obtain ⟨spare, hspare⟩ := Nat.exists_eq_add_of_le hlines
  have hcalls : 2 * (documentText parts).length + 2 = lines + (lines + 2 * spare + 1 + 1) := by
    omega
  have hstatements := hread (lines + 2 * spare + 1) [] []
  rw [← hcalls, List.append_nil, List.append_nil, readStatements_nil, List.reverse_reverse]
    at hstatements
  rw [Value.ofText?, String.toList_ofList, dropMark_documentText]
  simp only [hstatements, Option.bind_eq_bind, Option.bind_some, tableOf?, Draft.empty, hbuilt]
  simp [entriesValue_eq_map, Section.toValue_node]

end Lexeme.Toml
