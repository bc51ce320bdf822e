import Lexeme.Files.Loader
import Lexeme.Proofs.Lowercase
import Lexeme.Proofs.SettingsLayers
import Lexeme.Proofs.SettingsText
import Mathlib.Data.List.TakeWhile

/-!
# Required extensions

An extension is required without leading dots, in lower case, and only if anything of it is left.
Lower case leads to characters that are their own lower case (`Text.lowercase_lowercase`), so that
what is required is required again when it is given as a text (`Text.requiredExtension?_required`).
A document and an environment variable that give one extension require the same of a file, unless
the extension is a blank one: of a document it is required as it stands, of a variable it is not
(`Files.Loader.requiredExtension_agree`, `Files.Loader.requiredExtension_blank`).
-/

set_option autoImplicit false
set_option relaxedAutoImplicit false

namespace Lexeme

namespace Text

/-! ### Characters in lower case -/

/-- Whether the lower case of a run is outside of another run: beyond one of its ends, or between
its steps. -/
def CaseRun.leavesOut (run other : CaseRun) : Bool :=
  Nat.blt (run.lower + (run.last - run.first)) other.first || Nat.blt other.last run.lower ||
    other.step == 2 && (run.lower + other.first) % 2 == 1 &&
      (run.step == 2 || run.first == run.last)

theorem leavesOut_of_mem :
    (caseRuns.all fun run ↦ caseRuns.all run.leavesOut) = true := by
  decide +kernel

theorem CaseRun.not_covers_lower {run other : CaseRun} (hout : run.leavesOut other = true) {code : Nat}
    (hcovers : run.covers code = true) :
    other.covers (run.lower + (code - run.first)) = false := by
  obtain ⟨hfirst, hlast, hstep⟩ := (run.covers_iff code).1 hcovers
  rw [← Bool.not_eq_true, CaseRun.covers_iff]
  rintro ⟨hlower, hupper, hmod⟩
  simp only [leavesOut, Bool.or_eq_true, Bool.and_eq_true, beq_iff_eq, Nat.blt_eq] at hout
  rcases hout with (hless | hless) | ⟨⟨hother, hodd⟩, heven | hsingle⟩
  · omega
  · omega
  · rw [hother] at hmod
    rw [heven] at hstep
    omega
  · rw [hother] at hmod
    omega

/-- Upper case starts beyond the dot, and no lower case is a dot or a capital I with one above. -/
theorem bounds_of_mem :
    ∀ run ∈ caseRuns, 0x2e < run.first ∧ 0x2e < run.lower ∧
      (run.lower + (run.last - run.first) < 0x130 ∨ 0x130 < run.lower) := by
  decide +kernel

/-- The lower case of a character is the character itself, or it is led to by a run. -/
theorem lowerChar_cases (c : Char) :
    lowerChar c = c ∨ ∃ run ∈ caseRuns, run.covers c.toNat = true ∧
      lowerChar c = Char.ofNat (run.lower + (c.toNat - run.first)) := by
  rw [lowerChar]
  cases hfound : caseRuns.find? (·.covers c.toNat) with
  | none => exact .inl rfl
  | some run =>
    have hcovers := List.find?_some hfound
    exact .inr ⟨run, List.mem_of_find?_eq_some hfound, hcovers, rfl⟩

theorem lowerChar_of_forall {c : Char} (hout : ∀ run ∈ caseRuns, run.covers c.toNat = false) :
    lowerChar c = c := by
  have hfound : caseRuns.find? (·.covers c.toNat) = none :=
    List.find?_eq_none.2 fun run hmem ↦ by simp [hout run hmem]
  rw [lowerChar, hfound]

theorem lowerChar_lowerChar (c : Char) : lowerChar (lowerChar c) = lowerChar c := by
  rcases lowerChar_cases c with hsame | ⟨run, hmem, hcovers, hlower⟩
  · rw [hsame, hsame]
  · refine lowerChar_of_forall fun other hother ↦ ?_
    rw [hlower]
    rcases toNat_ofNat_cases (run.lower + (c.toNat - run.first)) with hcode | hcode
    · rw [hcode]
      exact CaseRun.not_covers_lower
        (List.all_eq_true.1 (List.all_eq_true.1 leavesOut_of_mem run hmem) other hother) hcovers
    · have hfirst := (bounds_of_mem other hother).1
      rw [hcode, ← Bool.not_eq_true, CaseRun.covers_iff]
      omega

/-- A character that no run leads to is the lower case of itself only. -/
theorem eq_of_lowerChar_eq {c d : Char} (hlower : lowerChar c = d) (hpos : 0 < d.toNat)
    (hout : ∀ run ∈ caseRuns, run.lower + (run.last - run.first) < d.toNat ∨ d.toNat < run.lower) :
    c = d := by
  rcases lowerChar_cases c with hsame | ⟨run, hmem, hcovers, hfound⟩
  · exact hsame.symm.trans hlower
  · have hcode := (run.covers_iff c.toNat).1 hcovers
    have hbounds := hout run hmem
    rw [← hlower, hfound] at hbounds hpos
    have hcases := toNat_ofNat_cases (run.lower + (c.toNat - run.first))
    omega

/-- A character that lower case leaves as it is, wherever it stands. -/
def IsLower (c : Char) : Prop :=
  c ≠ 'Σ' ∧ c ≠ 'İ' ∧ lowerChar c = c

instance : DecidablePred IsLower := fun _ ↦ inferInstanceAs (Decidable (_ ∧ _))

theorem isLower_lowerChar {c : Char} (hdotted : c ≠ 'İ') : IsLower (lowerChar c) := by
  refine ⟨fun hsigma ↦ ?_, fun hlower ↦ ?_, lowerChar_lowerChar c⟩
  · -- The capital sigma has a lower case of its own, so it is no lower case.
    have htwice := lowerChar_lowerChar c
    rw [hsigma] at htwice
    exact absurd htwice (by decide)
  · exact hdotted (eq_of_lowerChar_eq hlower (by decide) fun run hmem ↦
      (bounds_of_mem run hmem).2.2)

section Between

variable (before after : List Char) {c : Char}

/-- What the characters of the special cases have in common with any other lower case. -/
theorem forall_mem_lowerBetween {P : Char → Prop}
    (hspecial : P 'ς' ∧ P 'σ' ∧ P 'i' ∧ P '\u0307') (hlower : c ≠ 'İ' → P (lowerChar c)) :
    ∀ d ∈ lowerBetween before c after, P d := by
  obtain ⟨hfinal, hsigma, hi, hdot⟩ := hspecial
  unfold lowerBetween
  split_ifs with _ _ hdotted
  · simpa using hfinal
  · simpa using hsigma
  · simpa using ⟨hi, hdot⟩
  · simpa using hlower hdotted

theorem isLower_of_mem_lowerBetween : ∀ d ∈ lowerBetween before c after, IsLower d :=
  forall_mem_lowerBetween before after (by decide) isLower_lowerChar

theorem ne_dot_of_mem_lowerBetween (hc : c ≠ '.') :
    ∀ d ∈ lowerBetween before c after, d ≠ '.' :=
  forall_mem_lowerBetween before after (by decide) fun _ hdot ↦
    hc (eq_of_lowerChar_eq hdot (by decide) fun run hmem ↦ .inr (bounds_of_mem run hmem).2.1)

theorem lowerBetween_ne_nil (c : Char) : lowerBetween before c after ≠ [] := by
  unfold lowerBetween
  split_ifs <;> simp

theorem lowerBetween_of_isLower (hc : IsLower c) : lowerBetween before c after = [c] := by
  rw [lowerBetween, if_neg hc.1, if_neg hc.2.1, hc.2.2]

end Between

/-! ### Texts in lower case -/

theorem isLower_of_mem_lowerFrom (before cs : List Char) :
    ∀ d ∈ lowerFrom before cs, IsLower d := by
  induction cs generalizing before with
  | nil => exact List.forall_mem_nil _
  | cons c after ih =>
    rw [lowerFrom]
    exact List.forall_mem_append.2
      ⟨isLower_of_mem_lowerBetween before after, ih (c :: before)⟩

theorem lowerFrom_of_isLower (before : List Char) {cs : List Char} (hcs : ∀ c ∈ cs, IsLower c) :
    lowerFrom before cs = cs := by
  induction cs generalizing before with
  | nil => rfl
  | cons c after ih =>
    obtain ⟨hc, hafter⟩ := List.forall_mem_cons.1 hcs
    rw [lowerFrom, lowerBetween_of_isLower before after hc, ih (c :: before) hafter,
      List.singleton_append]

/-- Lower case is left as it is by lower case. -/
theorem lowercase_lowercase (text : String) : lowercase (lowercase text) = lowercase text := by
  simp only [lowercase, String.toList_ofList]
  rw [lowerFrom_of_isLower [] (isLower_of_mem_lowerFrom [] text.toList)]

/-! ### Extensions -/

/-- The text starts with a dot. -/
def StartsWithDot (cs : List Char) : Prop :=
  cs.head? = some '.'

theorem not_startsWithDot_dropWhile (cs : List Char) :
    ¬ StartsWithDot (cs.dropWhile (· == '.')) := by
  intro hdot
  have hhead := List.head?_dropWhile_not (· == '.') cs
  rw [hdot] at hhead
  exact absurd hhead (by decide)

theorem not_startsWithDot_lowerFrom (before : List Char) {cs : List Char}
    (hcs : ¬ StartsWithDot cs) : ¬ StartsWithDot (lowerFrom before cs) := by
  cases cs with
  | nil => exact hcs
  | cons c after =>
    have hc : c ≠ '.' := fun hdot ↦ hcs (congrArg some hdot)
    obtain ⟨d, ds, hlower⟩ := List.exists_cons_of_ne_nil (lowerBetween_ne_nil before after c)
    have hd := ne_dot_of_mem_lowerBetween before after hc d (hlower ▸ List.mem_cons_self)
    rw [lowerFrom, hlower]
    exact fun hdot ↦ hd (Option.some.inj hdot)

theorem lowerFrom_eq_nil_iff (before cs : List Char) : lowerFrom before cs = [] ↔ cs = [] := by
  cases cs with
  | nil => simp [lowerFrom]
  | cons c after => simp [lowerFrom, lowerBetween_ne_nil]

theorem dropDots_of_not_startsWithDot {text : String} (hdot : ¬ StartsWithDot text.toList) :
    dropDots text = text := by
  have hkept : text.toList.dropWhile (· == '.') = text.toList := by
    cases hcs : text.toList with
    | nil => rfl
    | cons c cs =>
      rw [List.dropWhile_cons_of_neg]
      rw [hcs] at hdot
      simpa [StartsWithDot] using hdot
  rw [dropDots, hkept, String.ofList_toList]

theorem toList_plainExtension (text : String) :
    (plainExtension text).toList = lowerFrom [] (text.toList.dropWhile (· == '.')) := by
  simp [plainExtension, lowercase, dropDots]

theorem not_startsWithDot_plainExtension (text : String) :
    ¬ StartsWithDot (plainExtension text).toList := by
  rw [toList_plainExtension]
  exact not_startsWithDot_lowerFrom [] (not_startsWithDot_dropWhile text.toList)

/-- A plain extension is plain already. -/
theorem plainExtension_plainExtension (text : String) :
    plainExtension (plainExtension text) = plainExtension text :=
  calc
    plainExtension (plainExtension text) = lowercase (dropDots (plainExtension text)) := rfl
    _ = lowercase (plainExtension text) := by
      rw [dropDots_of_not_startsWithDot (not_startsWithDot_plainExtension text)]
    _ = plainExtension text := lowercase_lowercase (dropDots text)

theorem requiredExtension?_plainExtension (text : String) :
    requiredExtension? (plainExtension text) = requiredExtension? text := by
  simp only [requiredExtension?, plainExtension_plainExtension]

theorem requiredExtension?_eq_none_iff (text : String) :
    requiredExtension? text = none ↔ ∀ c ∈ text.toList, c = '.' := by
  have hempty : (plainExtension text).isEmpty = true ↔ ∀ c ∈ text.toList, c = '.' := by
    rw [String.isEmpty_iff, ← String.toList_eq_nil_iff, toList_plainExtension,
      lowerFrom_eq_nil_iff, List.dropWhile_eq_nil_iff]
    simp
  rw [← hempty, requiredExtension?]
  split <;> simp_all

/-- What is required of a file is the plain form of a text, if anything is left of it. -/
theorem requiredExtension?_eq_some {text extension : String}
    (hrequired : requiredExtension? text = some extension) :
    extension ≠ "" ∧ plainExtension text = extension := by
  simp only [requiredExtension?, Option.ite_none_left_eq_some, Option.some.injEq,
    String.isEmpty_iff] at hrequired
  obtain ⟨hempty, hplain⟩ := hrequired
  exact ⟨hplain ▸ hempty, hplain⟩

/-- What is required of a file does not start with a dot, and it is required again when it is given
as a text. -/
theorem requiredExtension?_required {text extension : String}
    (hrequired : requiredExtension? text = some extension) :
    requiredExtension? extension = some extension ∧ extension ≠ "" ∧
      ¬ StartsWithDot extension.toList := by
  obtain ⟨hempty, hplain⟩ := requiredExtension?_eq_some hrequired
  refine ⟨?_, hempty, ?_⟩
  · calc
      requiredExtension? extension = requiredExtension? (plainExtension text) := by rw [hplain]
      _ = requiredExtension? text := requiredExtension?_plainExtension text
      _ = some extension := hrequired
  · rw [← hplain]
    exact not_startsWithDot_plainExtension text

/-- A blank text has no dots, so that all of it is an extension. -/
theorem requiredExtension?_eq_none_iff_of_blank {text : String} (hblank : isBlankText text = true) :
    requiredExtension? text = none ↔ text = "" := by
  rw [isBlankText_iff] at hblank
  rw [requiredExtension?_eq_none_iff]
  constructor
  · intro hdots
    rw [← String.toList_eq_nil_iff, List.eq_nil_iff_forall_not_mem]
    intro c hc
    have hdot := hblank c hc
    rw [hdots c hc] at hdot
    exact absurd hdot (by decide)
  · rintro rfl
    simp

end Text

/-! ### Ways to give an extension -/

/-- A blank extension in a variable is none; any other is required as it stands. -/
theorem Environment.extension?_bind {environment : Environment} {name text : String}
    (hset : environment name = some text) :
    (environment.extension? name).bind Text.requiredExtension? =
      if Text.isBlankText text then none else Text.requiredExtension? text := by
  cases hblank : Text.isBlankText text with
  | true => simp [extension?, hset, hblank]
  | false =>
    rw [environment.extension?_of_eq_some hset hblank, Option.bind_some,
      Text.requiredExtension?_plainExtension, if_neg Bool.false_ne_true]

/-- The extension that a document states is the one in the settings. -/
theorem Settings.requiredExtension_of_stated {environment : Environment} {text extension : String}
    {document : Toml.Value} {settings : Settings}
    (hdocument : Toml.Value.ofText? text = some document)
    (hstated : Setting.requiredExtension.stated? document = some (.string extension))
    (hread : ofToml environment text = .ok settings) :
    settings.files.requiredExtension = some extension := by
  have hsettings : Toml.settingsFormat.settings? (.ofEnvironment environment) document =
      some settings := by
    rw [ofToml, hdocument] at hread
    cases hformat : Toml.settingsFormat.settings? (.ofEnvironment environment) document with
    | none => simp [hformat] at hread
    | some other => simpa [hformat] using hread
  have hchosen := (Format.settings?_eq_some_iff.1 hsettings).2.2 .requiredExtension
  rw [Setting.stated?] at hstated
  rw [Format.choose?, hstated] at hchosen
  exact (Option.some.inj hchosen).symm

namespace Files.Loader

/-- An extension that is given in a variable or in a document is required in the same way, unless it
is blank but not empty. What is required is something without leading dots, and giving it once more
changes nothing. -/
theorem requiredExtension_agree {chosen environment : Environment} {text extension : String}
    {document : Toml.Value} {settings : Settings}
    (hchosen : chosen "TOKSCAN_REQUIRED_EXTENSION" = some extension)
    (hdocument : Toml.Value.ofText? text = some document)
    (hstated : Setting.requiredExtension.stated? document = some (.string extension))
    (hread : Settings.ofToml environment text = .ok settings) :
    let byVariable := (ofSettings (.ofEnvironment chosen)).requiredExtension
    let byDocument := (ofSettings settings.files).requiredExtension
    (byVariable = byDocument ↔
      ((∀ c ∈ extension.toList, Text.IsWhite c) → extension = "")) ∧
    ((∀ c ∈ extension.toList, Text.IsWhite c) → byVariable = none) ∧
    (byDocument = none ↔ ∀ c ∈ extension.toList, c = '.') ∧
    ∀ required, required = byVariable ∨ required = byDocument →
      required.bind Text.requiredExtension? = required ∧
        ∀ value, required = some value → value ≠ "" ∧ value.toList.head? ≠ some '.' := by
  intro byVariable byDocument
  have hvariable : byVariable =
      if Text.isBlankText extension then none else Text.requiredExtension? extension :=
    Environment.extension?_bind hchosen
  have hgiven : byDocument = Text.requiredExtension? extension := by
    have hsame := Settings.requiredExtension_of_stated hdocument hstated hread
    change settings.files.requiredExtension.bind Text.requiredExtension? = _
    rw [hsame, Option.bind_some]
  rw [← Text.isBlankText_iff]
  refine ⟨?_, fun hblank ↦ by rw [hvariable, if_pos hblank], ?_, fun required hrequired ↦ ?_⟩
  · rw [hvariable, hgiven]
    cases hblank : Text.isBlankText extension with
    | true => simpa [eq_comm] using Text.requiredExtension?_eq_none_iff_of_blank hblank
    | false => simp
  · rw [hgiven]
    exact Text.requiredExtension?_eq_none_iff extension
  · cases required with
    | none => exact ⟨rfl, nofun⟩
    | some value =>
      have hvalue : Text.requiredExtension? extension = some value := by
        rcases hrequired with hsame | hsame
        · rw [hvariable] at hsame
          exact (Option.ite_none_left_eq_some.1 hsame.symm).2
        · exact (hsame.trans hgiven).symm
      obtain ⟨hagain, hempty, hdot⟩ := Text.requiredExtension?_required hvalue
      rw [Option.bind_some]
      refine ⟨hagain, fun other hother ↦ ?_⟩
      cases hother
      exact ⟨hempty, hdot⟩

/-- An extension with two dots in front and capitals beyond the basic letters is not blank, and
means the same in a variable and in a document. -/
theorem requiredExtension_agree_dotted :
    let settings : Settings := ⟨⟨some "..Tar.İΟΣ", true⟩, .builtIn, .production⟩
    let chosen : Environment :=
      fun name ↦ if name = "TOKSCAN_REQUIRED_EXTENSION" then some "..Tar.İΟΣ" else none
    (∃ document, Toml.Value.ofText? settings.toToml = some document ∧
      Setting.requiredExtension.stated? document = some (.string "..Tar.İΟΣ")) ∧
    chosen "TOKSCAN_REQUIRED_EXTENSION" = some "..Tar.İΟΣ" ∧
    Settings.ofToml .empty settings.toToml = .ok settings ∧
    (ofSettings (.ofEnvironment chosen)).requiredExtension =
      (ofSettings settings.files).requiredExtension := by
  intro settings chosen
  have hdocument := settings.ofText?_toToml
  have hread : Settings.ofToml .empty settings.toToml = .ok settings :=
    Settings.ofToml_toToml_eq .empty settings
  have hchosen : chosen "TOKSCAN_REQUIRED_EXTENSION" = some "..Tar.İΟΣ" := rfl
  have hagree := requiredExtension_agree hchosen hdocument rfl hread
  exact ⟨⟨_, hdocument, rfl⟩, hchosen, hread,
    hagree.1.2 fun hwhite ↦ absurd (hwhite 'T' (by decide)) (by decide)⟩

/-- A blank extension is required if a document gives it, and not if a variable does. -/
theorem requiredExtension_blank :
    let settings : Settings := ⟨⟨some " ", true⟩, .builtIn, .production⟩
    let chosen : Environment :=
      fun name ↦ if name = "TOKSCAN_REQUIRED_EXTENSION" then some " " else none
    Settings.ofToml .empty settings.toToml = .ok settings ∧
    (ofSettings settings.files).requiredExtension = some " " ∧
    (ofSettings (.ofEnvironment chosen)).requiredExtension = none := by
  intro settings chosen
  have hblank : Text.isBlankText " " = true := by
    rw [Text.isBlankText_eq]
    decide
  have hchosen : chosen "TOKSCAN_REQUIRED_EXTENSION" = some " " := rfl
  have hnone : (ofSettings (.ofEnvironment chosen)).requiredExtension =
      if Text.isBlankText " " then none else Text.requiredExtension? " " :=
    Environment.extension?_bind hchosen
  exact ⟨Settings.ofToml_toToml_eq .empty settings, by decide +kernel, by rw [hnone, if_pos hblank]⟩

end Files.Loader

end Lexeme
