import Lexeme.CommandLine.Arguments
import Mathlib.Data.List.Infix

/-!
# Words of an accepted command line

A command line that is accepted is read in steps, each of which takes in one word or two
(`CommandLine.Reads`, `CommandLine.reads_of_read_eq`). So what is known of the arguments can be told
from the words alone: options are among the words before the two dashes (`CommandLine.optionWords`),
the scan is strict just if `--strict` is one of them, and a level is chosen just if they give a text
for it that names the level (`CommandLine.strict_parse_iff`, `CommandLine.logLevel_parse_iff`).
-/

set_option autoImplicit false
set_option relaxedAutoImplicit false

namespace Lexeme.CommandLine

/-! ### Single words -/

namespace Word

section Long

variable {name : String} {value : Option String}

theorem eq_of_ofLong_eq_flag {flag : Flag} (h : ofLong name value = .flag flag) :
    name = flag.name ∧ value = none := by
  unfold ofLong at h
  cases value <;> dsimp only at h <;> split at h <;> simp_all
  all_goals (subst h; rfl)

theorem eq_of_ofLong_eq_pending {key : Key} (h : ofLong name value = .pending key) :
    name = key.name ∧ value = none := by
  unfold ofLong at h
  cases value <;> dsimp only at h <;> split at h <;> simp_all
  all_goals (subst h; rfl)

theorem eq_of_ofLong_eq_assignment {key : Key} {text : String}
    (h : ofLong name value = .assignment key text) : name = key.name ∧ value = some text := by
  unfold ofLong at h
  cases value <;> dsimp only at h <;> split at h <;> simp_all
  all_goals (obtain ⟨rfl, -⟩ := h; rfl)

end Long

/-- What stands after a name: nothing, or a sign and a value. -/
def attached : Option String → String
  | none => ""
  | some value => "=" ++ value

theorem exists_ofDashes (rest : List Char) :
    ∃ (name : String) (value : Option String), String.ofList rest = name ++ attached value ∧
      ofDashes rest = ofLong name value := by
  unfold ofDashes
  generalize hname : rest.takeWhile (· != '=') = name
  have hsplit := List.takeWhile_append_dropWhile (p := (· != '=')) (l := rest)
  have hhead := List.head?_dropWhile_not (· != '=') rest
  rw [hname] at hsplit
  cases hrest : rest.dropWhile (· != '=') with
  | nil =>
    refine ⟨String.ofList name, none, ?_, rfl⟩
    rw [← hsplit, hrest, List.append_nil]
    exact String.append_empty.symm
  | cons sign value =>
    refine ⟨String.ofList name, some (String.ofList value), ?_, rfl⟩
    rw [hrest] at hhead
    have hsign : sign = '=' := by simpa using hhead
    rw [← hsplit, hrest, hsign, String.ofList_append]
    have hattached : String.ofList ('=' :: value) = "=" ++ String.ofList value :=
      String.ofList_cons
    exact congrArg _ hattached

/-- Whether only a long name gives the word. -/
def isLong : Word → Bool
  | flag _ => true
  | pending .logLevel => true
  | assignment .logLevel _ => true
  | _ => false

theorem isLong_ofLetter {key : Key} (hkey : key ≠ .logLevel) (rest : List Char) :
    (ofLetter key rest).isLong = false := by
  unfold ofLetter
  cases key <;> split <;> first | rfl | contradiction

theorem isLong_ofShort (letters : List Char) : (ofShort letters).isLong = false := by
  unfold ofShort
  split
  · exact isLong_ofLetter (by decide) _
  · exact isLong_ofLetter (by decide) _
  · rfl
  · rfl
  · rfl

theorem exists_ofLong {text : String} (hlong : (ofText text).isLong = true) :
    ∃ (name : String) (value : Option String), text = "--" ++ (name ++ attached value) ∧
      ofText text = ofLong name value := by
  generalize hword : ofText text = word at hlong ⊢
  unfold ofText at hword
  split at hword <;> subst hword
  · exact absurd hlong Bool.false_ne_true
  · next rest _ htext =>
    obtain ⟨name, value, hrest, hword⟩ := exists_ofDashes rest
    refine ⟨name, value, ?_, hword⟩
    rw [← hrest, ← String.toList_inj, String.toList_append, htext,
      String.toList_ofList (l := rest)]
    rfl
  · rw [isLong_ofShort] at hlong
    exact absurd hlong Bool.false_ne_true
  · exact absurd hlong Bool.false_ne_true

/-- Whether the word is neither a file nor the two dashes. -/
def isOption : Word → Bool
  | file _ => false
  | rule => false
  | _ => true

theorem isOption_ofLong (name : String) (value : Option String) :
    (ofLong name value).isOption = true := by
  unfold ofLong
  cases value <;> dsimp only <;> split <;> rfl

theorem isOption_ofShort (letters : List Char) : (ofShort letters).isOption = true := by
  unfold ofShort ofLetter
  split <;> try split
  all_goals rfl

/-- A word that is no option is the two dashes or a file of its own text. -/
theorem eq_of_not_isOption {text : String} (hoption : (ofText text).isOption = false) :
    text = "--" ∧ ofText text = .rule ∨ ofText text = .file text := by
  generalize hword : ofText text = word at hoption ⊢
  unfold ofText at hword
  split at hword <;> subst hword
  · next htext => exact Or.inl ⟨String.toList_inj.1 htext, rfl⟩
  · next rest _ _ =>
    obtain ⟨name, value, -, hword⟩ := exists_ofDashes rest
    rw [hword, isOption_ofLong] at hoption
    cases hoption
  · rw [isOption_ofShort] at hoption
    cases hoption
  · exact Or.inr rfl

theorem ofText_eq_rule_iff (text : String) : ofText text = .rule ↔ text = "--" := by
  constructor
  · intro h
    have hoption : (ofText text).isOption = false := by rw [h]; rfl
    obtain ⟨htext, -⟩ | hfile := eq_of_not_isOption hoption
    · exact htext
    · cases h.symm.trans hfile
  · rintro rfl
    rfl

theorem eq_of_ofText_eq_file {text path : String} (h : ofText text = .file path) :
    path = text := by
  have hoption : (ofText text).isOption = false := by rw [h]; rfl
  obtain ⟨-, hrule⟩ | hfile := eq_of_not_isOption hoption
  · cases h.symm.trans hrule
  · cases h.symm.trans hfile
    rfl

theorem ofText_eq_flag_iff (text : String) (flag : Flag) :
    ofText text = .flag flag ↔ text = "--" ++ flag.name := by
  constructor
  · intro h
    have hlong : (ofText text).isLong = true := by rw [h]; rfl
    obtain ⟨name, value, htext, hword⟩ := exists_ofLong hlong
    obtain ⟨rfl, rfl⟩ := eq_of_ofLong_eq_flag (hword.symm.trans h)
    rw [htext]
    exact congrArg _ String.append_empty
  · rintro rfl
    cases flag <;> rfl

theorem ofText_eq_pending_iff (text : String) :
    ofText text = .pending .logLevel ↔ text = "--log-level" := by
  constructor
  · intro h
    have hlong : (ofText text).isLong = true := by rw [h]; rfl
    obtain ⟨name, value, htext, hword⟩ := exists_ofLong hlong
    obtain ⟨rfl, rfl⟩ := eq_of_ofLong_eq_pending (hword.symm.trans h)
    exact htext
  · rintro rfl
    rfl

theorem ofText_eq_assignment_iff (text value : String) :
    ofText text = .assignment .logLevel value ↔ text = "--log-level=" ++ value := by
  constructor
  · intro h
    have hlong : (ofText text).isLong = true := by rw [h]; rfl
    obtain ⟨name, value, htext, hword⟩ := exists_ofLong hlong
    obtain ⟨rfl, rfl⟩ := eq_of_ofLong_eq_assignment (hword.symm.trans h)
    rw [htext, attached, ← String.append_assoc, ← String.append_assoc]
    rfl
  · rintro rfl
    have htext : ("--log-level=" ++ value).toList =
        '-' :: '-' :: ("log-level=".toList ++ value.toList) := by
      rw [String.toList_append]
      rfl
    unfold ofText
    rw [htext]
    have hvalue : String.ofList value.toList = value := String.ofList_toList
    calc ofDashes ("log-level=".toList ++ value.toList)
        = .assignment .logLevel (String.ofList value.toList) := rfl
      _ = .assignment .logLevel value := by rw [hvalue]

end Word

/-! ### Reading in steps -/

theorem bind_eq_ok {α β ε : Type} {first : Except ε α} {next : α → Except ε β} {result : β}
    (h : first >>= next = .ok result) : ∃ value, first = .ok value ∧ next value = .ok result := by
  cases first with
  | error error => cases h
  | ok value => exact ⟨value, rfl, h⟩

theorem Arguments.addFile_eq_ok {arguments next : Arguments} {path : String}
    (h : arguments.addFile path = .ok next) :
    next = { arguments with files := arguments.files ++ [path] } := by
  unfold addFile at h
  split at h
  · cases h
  · exact (Except.ok.inj h).symm

theorem Flag.raise_eq_ok {arguments next : Arguments} {flag : Flag}
    (h : flag.raise arguments = .ok next) : next = flag.set arguments := by
  unfold raise at h
  split at h
  · cases h
  · exact (Except.ok.inj h).symm

theorem Key.assign_eq_ok {arguments next : Arguments} {key : Key} {value : String}
    (h : key.assign arguments value = .ok next) :
    key.isAssigned arguments = false ∧ key.set? arguments value = some next := by
  unfold assign at h
  split at h
  · cases h
  · next hassigned =>
    split at h
    · next hset =>
      cases h
      exact ⟨Bool.not_eq_true _ ▸ hassigned, hset⟩
    · cases h

/-- Whether a flag is raised that asks for a strict scan. -/
theorem Flag.strict_set (arguments : Arguments) (flag : Flag) :
    (flag.set arguments).strict = true ↔ flag = .strict ∨ arguments.strict = true := by
  cases flag <;> simp [set]

theorem Flag.logLevel_set (arguments : Arguments) (flag : Flag) :
    (flag.set arguments).logLevel = arguments.logLevel := by
  cases flag <;> rfl

theorem Key.set?_format_eq_some {arguments next : Arguments} {value : String}
    (h : Key.format.set? arguments value = some next) :
    ∃ format, next = { arguments with format := some format } := by
  obtain ⟨format, -, hnext⟩ := Option.map_eq_some_iff.1 h
  exact ⟨format, hnext.symm⟩

theorem Key.set?_config_eq_some {arguments next : Arguments} {value : String}
    (h : Key.config.set? arguments value = some next) :
    next = { arguments with config := some value } :=
  (Option.some.inj (Option.ite_none_left_eq_some.1 h).2).symm

theorem Key.set?_logLevel_eq_some {arguments next : Arguments} {value : String}
    (h : Key.logLevel.set? arguments value = some next) :
    ∃ level, Log.Level.parse? value = some level ∧
      next = { arguments with logLevel := some level } := by
  obtain ⟨level, hlevel, hnext⟩ := Option.map_eq_some_iff.1 h
  exact ⟨level, hlevel, hnext.symm⟩

theorem Key.strict_set? {arguments next : Arguments} {key : Key} {value : String}
    (h : key.set? arguments value = some next) : next.strict = arguments.strict := by
  cases key with
  | format =>
    obtain ⟨format, rfl⟩ := set?_format_eq_some h
    rfl
  | config =>
    rw [set?_config_eq_some h]
  | logLevel =>
    obtain ⟨level, -, rfl⟩ := set?_logLevel_eq_some h
    rfl

theorem Key.logLevel_set? {arguments next : Arguments} {key : Key} {value : String}
    (hkey : key ≠ .logLevel) (h : key.set? arguments value = some next) :
    next.logLevel = arguments.logLevel := by
  cases key with
  | format =>
    obtain ⟨format, rfl⟩ := set?_format_eq_some h
    rfl
  | config =>
    rw [set?_config_eq_some h]
  | logLevel => exact absurd rfl hkey

/-- Files leave everything else as it is. -/
theorem Arguments.foldlM_addFile_eq_ok {paths : List String} {arguments last : Arguments}
    (h : paths.foldlM addFile arguments = .ok last) :
    last = { arguments with files := arguments.files ++ paths } := by
  induction paths generalizing arguments with
  | nil =>
    rw [List.append_nil]
    exact (Except.ok.inj h).symm
  | cons path paths ih =>
    obtain ⟨next, htaken, hrest⟩ := bind_eq_ok h
    rw [ih hrest, addFile_eq_ok htaken, List.append_assoc]
    rfl

/-- Words are read on top of arguments, step by step. -/
inductive Reads : Arguments → List String → Arguments → Prop
  | done (arguments : Arguments) : Reads arguments [] arguments
  | file {arguments next last : Arguments} {text path : String} {rest : List String}
      (hword : Word.ofText text = .file path) (htaken : arguments.addFile path = .ok next)
      (hrest : Reads next rest last) : Reads arguments (text :: rest) last
  | rule {arguments last : Arguments} {text : String} {rest : List String}
      (hword : Word.ofText text = .rule)
      (htaken : rest.foldlM Arguments.addFile arguments = .ok last) :
      Reads arguments (text :: rest) last
  | flag {arguments next last : Arguments} {text : String} {flag : Flag} {rest : List String}
      (hword : Word.ofText text = .flag flag) (htaken : flag.raise arguments = .ok next)
      (hrest : Reads next rest last) : Reads arguments (text :: rest) last
  | assignment {arguments next last : Arguments} {text value : String} {key : Key}
      {rest : List String} (hword : Word.ofText text = .assignment key value)
      (htaken : key.assign arguments value = .ok next)
      (hrest : Reads next rest last) : Reads arguments (text :: rest) last
  | pending {arguments next last : Arguments} {text value : String} {key : Key}
      {rest : List String} (hword : Word.ofText text = .pending key)
      (hvalue : Word.ofText value = .file value) (htaken : key.assign arguments value = .ok next)
      (hrest : Reads next rest last) : Reads arguments (text :: value :: rest) last

/-- Words that are accepted are read in steps. -/
theorem reads_of_read_eq {arguments last : Arguments} {words : List String}
    (h : arguments.read words = .ok last) : Reads arguments words last := by
  induction arguments, words using Arguments.read.induct with
  | case1 arguments =>
    rw [Arguments.read] at h
    exact Except.ok.inj h ▸ .done arguments
  | case2 arguments text rest path hword ih =>
    rw [Arguments.read, hword] at h
    obtain ⟨next, htaken, hrest⟩ := bind_eq_ok h
    exact .file hword htaken (ih next hrest)
  | case3 arguments text rest hword =>
    rw [Arguments.read, hword] at h
    exact .rule hword h
  | case4 arguments text rest flag hword ih =>
    rw [Arguments.read, hword] at h
    obtain ⟨next, htaken, hrest⟩ := bind_eq_ok h
    exact .flag hword htaken (ih next hrest)
  | case5 arguments text rest key value hword ih =>
    rw [Arguments.read, hword] at h
    obtain ⟨next, htaken, hrest⟩ := bind_eq_ok h
    exact .assignment hword htaken (ih next hrest)
  | case6 arguments text key hword =>
    rw [Arguments.read, hword] at h
    cases h
  | case7 arguments text key hword text' rest value hvalue ih =>
    rw [Arguments.read, hword] at h
    simp only [hvalue] at h
    obtain ⟨next, htaken, hrest⟩ := bind_eq_ok h
    obtain rfl := Word.eq_of_ofText_eq_file hvalue
    exact .pending hword hvalue htaken (ih next hrest)
  | case8 arguments text key hword text' rest hvalue =>
    rw [Arguments.read, hword] at h
    simp only at h
    cases h
  | case9 arguments text rest notice hword =>
    rw [Arguments.read, hword] at h
    cases h
  | case10 arguments text rest error hword =>
    rw [Arguments.read, hword] at h
    cases h

/-! ### Options among the words -/

/-- The words before two dashes in a row. -/
def optionWords (words : List String) : List String :=
  words.takeWhile (· ≠ "--")

/-- The words give a text for the level, as the next word or attached to the option. -/
def GivesLevel (words : List String) (text : String) : Prop :=
  ["--log-level", text] <:+: optionWords words ∨ "--log-level=" ++ text ∈ optionWords words

theorem optionWords_cons {text : String} (hrule : text ≠ "--") (rest : List String) :
    optionWords (text :: rest) = text :: optionWords rest :=
  List.takeWhile_cons_of_pos (decide_eq_true hrule)

theorem optionWords_rule (rest : List String) : optionWords ("--" :: rest) = [] :=
  List.takeWhile_cons_of_neg (by simp)

theorem not_givesLevel_nil (text : String) : ¬ GivesLevel [] text := by
  rintro (hnext | hattached)
  · cases List.infix_nil.1 hnext
  · cases hattached

theorem not_givesLevel_rule (rest : List String) (text : String) :
    ¬ GivesLevel ("--" :: rest) text := by
  have hnil := not_givesLevel_nil text
  rwa [GivesLevel, optionWords_rule]

theorem ne_dashes {text : String} {word : Word} (hword : Word.ofText text = word)
    (hrule : word ≠ .rule) : text ≠ "--" := by
  rintro rfl
  exact hrule (hword.symm.trans ((Word.ofText_eq_rule_iff "--").2 rfl))

theorem strict_mem_cons_iff {text : String} {word : Word} (hword : Word.ofText text = word)
    (hrule : word ≠ .rule) (rest : List String) :
    "--strict" ∈ optionWords (text :: rest) ↔
      word = .flag .strict ∨ "--strict" ∈ optionWords rest := by
  have hstrict : "--strict" = text ↔ word = .flag .strict := by
    rw [← hword, Word.ofText_eq_flag_iff, eq_comm]
    rfl
  rw [optionWords_cons (ne_dashes hword hrule), List.mem_cons, hstrict]

theorem givesLevel_cons_iff {text : String} {word : Word} (hword : Word.ofText text = word)
    (hrule : word ≠ .rule) (rest : List String) (level : String) :
    GivesLevel (text :: rest) level ↔
      (word = .pending .logLevel ∧ (optionWords rest).head? = some level) ∨
        word = .assignment .logLevel level ∨ GivesLevel rest level := by
  have hpending : word = .pending .logLevel ↔ "--log-level" = text := by
    rw [← hword, Word.ofText_eq_pending_iff, eq_comm]
  have hassignment : word = .assignment .logLevel level ↔ "--log-level=" ++ level = text := by
    rw [← hword, Word.ofText_eq_assignment_iff, eq_comm]
  have hprefix : [level] <+: optionWords rest ↔ (optionWords rest).head? = some level := by
    cases optionWords rest <;> simp [eq_comm]
  rw [GivesLevel, optionWords_cons (ne_dashes hword hrule), List.infix_cons_iff,
    List.cons_prefix_cons, hprefix, List.mem_cons, hpending, hassignment, GivesLevel]
  tauto

/-! ### What the words say of the arguments -/

namespace Reads

variable {arguments last : Arguments} {words : List String}

theorem strict_iff (h : Reads arguments words last) :
    last.strict = true ↔ "--strict" ∈ optionWords words ∨ arguments.strict = true := by
  induction h with
  | done arguments => simp [optionWords]
  | rule hword htaken =>
    obtain rfl := (Word.ofText_eq_rule_iff _).1 hword
    rw [Arguments.foldlM_addFile_eq_ok htaken, optionWords_rule]
    simp
  | file hword htaken _ ih =>
    rw [ih, Arguments.addFile_eq_ok htaken, strict_mem_cons_iff hword Word.noConfusion]
    simp
  | flag hword htaken _ ih =>
    rw [ih, Flag.raise_eq_ok htaken, Flag.strict_set, strict_mem_cons_iff hword Word.noConfusion,
      Word.flag.injEq]
    tauto
  | assignment hword htaken _ ih =>
    rw [ih, Key.strict_set? (Key.assign_eq_ok htaken).2,
      strict_mem_cons_iff hword Word.noConfusion]
    simp
  | pending hword hvalue htaken _ ih =>
    rw [ih, Key.strict_set? (Key.assign_eq_ok htaken).2,
      strict_mem_cons_iff hword Word.noConfusion, strict_mem_cons_iff hvalue Word.noConfusion]
    simp

/-- The level is the one that was taken in last or an earlier one. -/
theorem logLevel_assign {key : Key} {next : Arguments} {value : String}
    (htaken : key.assign arguments value = .ok next) (level : Log.Level) :
    next.logLevel = some level ↔
      key = .logLevel ∧ Log.Level.parse? value = some level ∨ arguments.logLevel = some level := by
  obtain ⟨hassigned, hset⟩ := Key.assign_eq_ok htaken
  by_cases hkey : key = .logLevel
  · subst hkey
    obtain ⟨chosen, hchosen, rfl⟩ := Key.set?_logLevel_eq_some hset
    have hunset : arguments.logLevel = none := by
      rw [← Option.isNone_iff_eq_none, ← Option.not_isSome]
      exact congrArg not hassigned
    rw [hchosen, hunset]
    simp
  · rw [Key.logLevel_set? hkey hset]
    simp [hkey]

/-- A text for the level that comes with a value taken in for a key. -/
theorem logLevel_step {key : Key} {next : Arguments} {value : String} {rest : List String}
    (htaken : key.assign arguments value = .ok next)
    (hgiven : ∀ text,
      GivesLevel words text ↔ (key = .logLevel ∧ value = text) ∨ GivesLevel rest text)
    (level : Log.Level) :
    ((∃ text, GivesLevel rest text ∧ Log.Level.parse? text = some level) ∨
        next.logLevel = some level) ↔
      (∃ text, GivesLevel words text ∧ Log.Level.parse? text = some level) ∨
        arguments.logLevel = some level := by
  simp only [logLevel_assign htaken, hgiven, or_and_right, exists_or, and_assoc, exists_and_left,
    exists_eq_left']
  rw [or_assoc, or_left_comm]

theorem logLevel_iff (h : Reads arguments words last) (level : Log.Level) :
    last.logLevel = some level ↔
      (∃ text, GivesLevel words text ∧ Log.Level.parse? text = some level) ∨
        arguments.logLevel = some level := by
  induction h with
  | done arguments => simp [not_givesLevel_nil]
  | @rule arguments last text rest hword htaken =>
    obtain rfl := (Word.ofText_eq_rule_iff text).1 hword
    rw [Arguments.foldlM_addFile_eq_ok htaken]
    simp [not_givesLevel_rule]
  | file hword htaken _ ih =>
    rw [ih, Arguments.addFile_eq_ok htaken]
    simp [givesLevel_cons_iff hword Word.noConfusion]
  | flag hword htaken _ ih =>
    rw [ih, Flag.raise_eq_ok htaken, Flag.logLevel_set]
    simp [givesLevel_cons_iff hword Word.noConfusion]
  | assignment hword htaken _ ih =>
    rw [ih]
    refine logLevel_step htaken (fun text ↦ ?_) level
    simp [givesLevel_cons_iff hword Word.noConfusion]
  | @pending arguments next last text value key rest hword hvalue htaken _ ih =>
    rw [ih]
    refine logLevel_step htaken (fun text ↦ ?_) level
    have hhead : (optionWords (value :: rest)).head? = some value := by
      rw [optionWords_cons (ne_dashes hvalue Word.noConfusion)]
      rfl
    simp [givesLevel_cons_iff hword Word.noConfusion, givesLevel_cons_iff hvalue Word.noConfusion,
      hhead]

end Reads

/-! ### Accepted command lines -/

section Parse

variable {environment : Environment} {words : List String} {arguments : Arguments}

/-- What the environment adds to the words is the path of a settings file. -/
theorem exists_reads_of_parse (h : Arguments.parse environment words = .ok arguments) :
    ∃ config, ∃ last, Reads {} words last ∧ arguments = { last with config := config } := by
  obtain ⟨last, hread, hfill⟩ := bind_eq_ok h
  obtain ⟨filled, hfilled, hdemand⟩ := bind_eq_ok hfill
  have harguments : arguments = filled := by
    unfold Arguments.demandInput at hdemand
    split at hdemand
    · exact (Except.ok.inj hdemand).symm
    · cases hdemand
  have hconfig : ∃ config, filled = { last with config := config } := by
    unfold Arguments.fill at hfilled
    split at hfilled
    · exact ⟨_, Key.set?_config_eq_some (Key.assign_eq_ok hfilled).2⟩
    · exact ⟨last.config, (Except.ok.inj hfilled).symm⟩
  obtain ⟨config, rfl⟩ := hconfig
  exact ⟨config, last, reads_of_read_eq hread, harguments⟩

/-- The scan is strict just if this is asked for among the options. -/
theorem strict_parse_iff (h : Arguments.parse environment words = .ok arguments) :
    arguments.strict = true ↔ "--strict" ∈ optionWords words := by
  obtain ⟨config, last, hreads, rfl⟩ := exists_reads_of_parse h
  simpa using hreads.strict_iff

/-- A level is chosen just if the options give a text that names it. -/
theorem logLevel_parse_iff (h : Arguments.parse environment words = .ok arguments)
    (level : Log.Level) :
    arguments.logLevel = some level ↔
      ∃ text, GivesLevel words text ∧ Log.Level.parse? text = some level := by
  obtain ⟨config, last, hreads, rfl⟩ := exists_reads_of_parse h
  simpa using hreads.logLevel_iff level

end Parse

end Lexeme.CommandLine
