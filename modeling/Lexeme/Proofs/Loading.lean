import Lexeme.Files.Loader
import Lexeme.Proofs.FileTree
import Lexeme.Proofs.PathExtensions

/-!
# The outcome of loading a file

Loading a file makes a fixed sequence of checks (`Loader.Check`), and each of them says by itself
what it rejects and with which error (`Loader.Rejects`). The first check that rejects decides on the
error (`Loader.outcome_load_of_rejectsFirst`), and what no check rejects is loaded as it is
(`Loader.exists_holds`).

A file that is found has no canonical path when something on the way to it has a path that is too
long. Then it is not loaded, however short the path is that it is found by (`Loader.load_far`). In
all other cases the canonical path decides on the extension, which follows the last dot of its last
name (`HasExtension`). The parts are put together in `Loader.load_outcome`.
-/

set_option autoImplicit false
set_option relaxedAutoImplicit false

namespace Lexeme.Files

open Log (Traced)

/-! ### Regular files -/

/-- What the system tells about a regular file: its canonical path, its size and its bytes. -/
structure RegularFile where
  canonical : Except Fault String
  size : Nat
  bytes : Except Fault ByteArray

/-- The regular file that is found, if it is one. -/
def Lookup.regular? : Lookup → Option RegularFile
  | file canonical bytes => some ⟨canonical, bytes.size, .ok bytes⟩
  | unreadable canonical size fault => some ⟨canonical, size, .error fault⟩
  | missing _ | directory | device _ => none

namespace Loader

/-! ### Checks -/

/-- What is checked when a file is loaded. -/
inductive Check where
  /-- The path is not blank. -/
  | blankness
  /-- There is something at the path. -/
  | existence
  /-- It is a regular file. -/
  | regularity
  /-- The system tells its canonical path. -/
  | canonicity
  /-- It is not too large. -/
  | size
  /-- It has the extension that is required. -/
  | extension
  /-- It can be read. -/
  | access
  /-- Its bytes are those of a text. -/
  | encoding
  deriving DecidableEq

/-- The checks in the order in which they are made. -/
def Check.inOrder : List Check :=
  [blankness, existence, regularity, canonicity, size, extension, access, encoding]

/-- A check is made before another one. -/
def Check.Before (first second : Check) : Prop :=
  inOrder.idxOf first < inOrder.idxOf second

instance (first second : Check) : Decidable (first.Before second) :=
  inferInstanceAs (Decidable (_ < _))

/-- A check, taken by itself, rejects what is at a path with an error. -/
def Rejects (loader : Loader) (disk : Disk) (path : String) (check : Check)
    (error : FileError) : Prop :=
  match check with
  | .blankness => (∀ c ∈ path.toList, Text.IsWhite c) ∧ error = .invalidPath path
  | .existence => (∃ fault, disk path = .missing fault) ∧ error = .notFound path
  | .regularity =>
    (disk path = .directory ∨ ∃ bytes, disk path = .device bytes) ∧ error = .invalidPath path
  | .canonicity =>
    ∃ file fault, (disk path).regular? = some file ∧ file.canonical = .error fault ∧
      error = .io ("Failed to resolve path '" ++ path ++ "': " ++ fault.message)
  | .size =>
    ∃ file, (disk path).regular? = some file ∧ Limits.current.maxFileSize < file.size ∧
      error = .tooLarge file.size Limits.current.maxFileSize
  | .extension =>
    ∃ file canonical expected found, (disk path).regular? = some file ∧
      file.canonical = .ok canonical ∧ loader.requiredExtension = some expected ∧
      HasExtension canonical found ∧ found ≠ some expected ∧ error = .wrongExtension expected found
  | .access =>
    ∃ file canonical fault, (disk path).regular? = some file ∧ file.canonical = .ok canonical ∧
      file.bytes = .error fault ∧ error = readError canonical fault
  | .encoding =>
    ∃ file canonical bytes, (disk path).regular? = some file ∧ file.canonical = .ok canonical ∧
      file.bytes = .ok bytes ∧ (∀ text : String, text.toUTF8 ≠ bytes) ∧
      error = .invalidEncoding canonical

/-- A check rejects what is at a path with an error, and no check before it rejects it. -/
structure RejectsFirst (loader : Loader) (disk : Disk) (path : String) (check : Check)
    (error : FileError) : Prop where
  rejects : loader.Rejects disk path check error
  first : ∀ earlier : Check, earlier.Before check → ∀ other,
    ¬loader.Rejects disk path earlier other

/-- A loaded file holds the text of the file at a path, and tells what there is to tell about it. -/
structure Holds (disk : Disk) (path : String) (elapsed : Time.Duration) (file : LoadedFile) :
    Prop where
  bytes : disk path = .file (.ok file.metadata.path) file.source.toUTF8
  size : file.metadata.size = file.source.toUTF8.size
  extension : HasExtension file.metadata.path file.metadata.extension
  lineCount : file.metadata.lineCount = file.source.toList.count '\n' +
    if Text.afterFeeds file.source.toList = [] then 0 else 1
  lines : (Text.lines file.source).length = file.metadata.lineCount
  duration : file.duration = elapsed

/-! ### Finding a file -/

section Find

variable {disk : Disk} {path : String} {file : RegularFile}

theorem outcome_find_of_blank (hblank : ∀ c ∈ path.toList, Text.IsWhite c) :
    (find disk path).outcome = .error (.invalidPath path) := by
  rw [find, if_pos (Text.isBlankText_iff.2 hblank)]
  rfl

variable (hpath : ¬∀ c ∈ path.toList, Text.IsWhite c)

include hpath

theorem outcome_find_of_missing {fault : Fault} (hmissing : disk path = .missing fault) :
    (find disk path).outcome = .error (.notFound path) := by
  rw [find, if_neg (mt Text.isBlankText_iff.1 hpath), hmissing]
  rfl

theorem outcome_find_of_not_regular
    (hother : disk path = .directory ∨ ∃ bytes, disk path = .device bytes) :
    (find disk path).outcome = .error (.invalidPath path) := by
  rw [find, if_neg (mt Text.isBlankText_iff.1 hpath)]
  obtain hother | ⟨bytes, hother⟩ := hother
  · rw [hother]
    rfl
  · rw [hother]
    rfl

/-- A regular file is found under its canonical path. -/
theorem outcome_find_regular (hfile : (disk path).regular? = some file) :
    (find disk path).outcome = (resolve path file.canonical).outcome >>= fun canonical ↦
      .ok ⟨canonical, file.size, file.bytes⟩ := by
  rw [find, if_neg (mt Text.isBlankText_iff.1 hpath)]
  cases hdisk : disk path with
  | file canonical bytes | unreadable canonical size fault =>
    rw [hdisk] at hfile
    cases hfile
    exact Traced.outcome_bind ..
  | missing | directory | device =>
    rw [hdisk] at hfile
    cases hfile

end Find

/-! ### Checking and reading what was found -/

section Load

variable (loader : Loader) {disk : Disk} (elapsed : Time.Duration) {path : String}

theorem outcome_checkSize (metadata : Metadata) (path : String) :
    (checkSize metadata path).outcome =
      if Limits.current.maxFileSize < metadata.size then
        .error (.tooLarge metadata.size Limits.current.maxFileSize)
      else .ok () := by
  rw [checkSize]
  split_ifs <;> rfl

theorem outcome_checkExtension_of_ne {metadata : Metadata} (path : String) {expected : String}
    (hrequired : loader.requiredExtension = some expected)
    (hother : metadata.extension ≠ some expected) :
    (loader.checkExtension metadata path).outcome =
      .error (.wrongExtension expected metadata.extension) := by
  rw [checkExtension, hrequired]
  dsimp only
  rw [Metadata.hasExtension, if_neg (by rwa [beq_iff_eq])]
  rfl

theorem outcome_checkExtension_of_forall {metadata : Metadata} (path : String)
    (hsame : ∀ expected, loader.requiredExtension = some expected →
      metadata.extension = some expected) :
    (loader.checkExtension metadata path).outcome = .ok () := by
  rw [checkExtension]
  cases hrequired : loader.requiredExtension with
  | none => rfl
  | some expected =>
    dsimp only
    rw [Metadata.hasExtension, if_pos (beq_iff_eq.2 (hsame expected hrequired))]
    rfl

theorem outcome_read_of_text {found : Found} (path : String) {text : String}
    (htext : found.bytes = .ok text.toUTF8) : (read found path).outcome = .ok text := by
  rw [read, htext]
  dsimp only
  rw [textOf_eq_ok_iff.2 rfl]

theorem outcome_read_of_not_text {found : Found} (path : String) {bytes : ByteArray}
    (hbytes : found.bytes = .ok bytes) (hnone : ∀ text : String, text.toUTF8 ≠ bytes) :
    (read found path).outcome = .error (.invalidEncoding found.path) := by
  rw [read, hbytes]
  dsimp only
  cases htext : textOf bytes with
  | ok text => exact absurd (textOf_eq_ok_iff.1 htext) (hnone text)
  | error cause => rfl

theorem outcome_read_of_fault {found : Found} (path : String) {fault : Fault}
    (hfault : found.bytes = .error fault) :
    (read found path).outcome = .error (readError found.path fault) := by
  rw [read, hfault]
  rfl

/-- What comes of loading a file is decided by what is found, then by its size, then by its
extension, and at last by its bytes. -/
theorem outcome_load :
    (loader.load disk elapsed path).outcome =
      (find disk path).outcome >>= fun found ↦
      (checkSize (inspect found) path).outcome >>= fun _ ↦
      (loader.checkExtension (inspect found) path).outcome >>= fun _ ↦
      (read found path).outcome >>= fun source ↦
      .ok ⟨source, { inspect found with lineCount := Text.lineCount source }, elapsed⟩ := by
  simp only [load, Traced.outcome_bind, Traced.outcome_note, Traced.outcome_pure]
  rfl

variable {file : RegularFile} {canonical : String}

/-- A regular file that has a canonical path is checked under it. -/
theorem outcome_load_regular (hpath : ¬∀ c ∈ path.toList, Text.IsWhite c)
    (hfile : (disk path).regular? = some file) (hcanonical : file.canonical = .ok canonical) :
    let found : Found := ⟨canonical, file.size, file.bytes⟩
    (loader.load disk elapsed path).outcome =
      (checkSize (inspect found) path).outcome >>= fun _ ↦
      (loader.checkExtension (inspect found) path).outcome >>= fun _ ↦
      (read found path).outcome >>= fun source ↦
      .ok ⟨source, { inspect found with lineCount := Text.lineCount source }, elapsed⟩ := by
  rw [outcome_load, outcome_find_regular hpath hfile, hcanonical]
  rfl

/-- What comes of loading a file that is not too large and has the right extension is decided by
reading it. -/
theorem outcome_load_fitting (hpath : ¬∀ c ∈ path.toList, Text.IsWhite c)
    (hfile : (disk path).regular? = some file) (hcanonical : file.canonical = .ok canonical)
    (hsize : ¬Limits.current.maxFileSize < file.size)
    (hextension : ∀ expected, loader.requiredExtension = some expected →
      pathExtension? canonical = some expected) :
    let found : Found := ⟨canonical, file.size, file.bytes⟩
    (loader.load disk elapsed path).outcome =
      (read found path).outcome >>= fun source ↦
      .ok ⟨source, { inspect found with lineCount := Text.lineCount source }, elapsed⟩ := by
  intro found
  have hchecked : (loader.checkExtension (inspect found) path).outcome = .ok () :=
    outcome_checkExtension_of_forall loader path hextension
  rw [outcome_load_regular loader elapsed hpath hfile hcanonical, outcome_checkSize, hchecked]
  exact congrArg (· >>= _) (if_neg hsize)

/-! ### The first check that rejects -/

section Passed

variable {loader}

theorem not_blank_of_passes (hpasses : ∀ error, ¬loader.Rejects disk path .blankness error) :
    ¬∀ c ∈ path.toList, Text.IsWhite c :=
  fun hblank ↦ hpasses _ ⟨hblank, rfl⟩

theorem exists_canonical_of_passes
    (hpasses : ∀ error, ¬loader.Rejects disk path .canonicity error)
    (hfile : (disk path).regular? = some file) : ∃ canonical, file.canonical = .ok canonical := by
  cases hcanonical : file.canonical with
  | ok canonical => exact ⟨canonical, rfl⟩
  | error fault => exact absurd ⟨file, fault, hfile, hcanonical, rfl⟩ (hpasses _)

theorem size_le_of_passes (hpasses : ∀ error, ¬loader.Rejects disk path .size error)
    (hfile : (disk path).regular? = some file) : ¬Limits.current.maxFileSize < file.size :=
  fun hlarge ↦ hpasses _ ⟨file, hfile, hlarge, rfl⟩

theorem extension_eq_of_passes (hpasses : ∀ error, ¬loader.Rejects disk path .extension error)
    (hfile : (disk path).regular? = some file) (hcanonical : file.canonical = .ok canonical)
    (expected : String) (hrequired : loader.requiredExtension = some expected) :
    pathExtension? canonical = some expected := by
  by_contra hother
  exact hpasses _ ⟨file, canonical, expected, _, hfile, hcanonical, hrequired,
    hasExtension_iff.2 rfl, hother, rfl⟩

end Passed

/-- The first check that rejects decides on the error. -/
theorem outcome_load_of_rejectsFirst {check : Check} {error : FileError}
    (hfirst : loader.RejectsFirst disk path check error) :
    (loader.load disk elapsed path).outcome = .error error := by
  obtain ⟨hrejects, hbefore⟩ := hfirst
  cases check with
  | blankness =>
    obtain ⟨hblank, rfl⟩ := hrejects
    rw [outcome_load, outcome_find_of_blank hblank]
    rfl
  | existence =>
    obtain ⟨⟨fault, hmissing⟩, rfl⟩ := hrejects
    have hpath := not_blank_of_passes (hbefore .blankness (by decide))
    rw [outcome_load, outcome_find_of_missing hpath hmissing]
    rfl
  | regularity =>
    obtain ⟨hother, rfl⟩ := hrejects
    have hpath := not_blank_of_passes (hbefore .blankness (by decide))
    rw [outcome_load, outcome_find_of_not_regular hpath hother]
    rfl
  | canonicity =>
    obtain ⟨file, fault, hfile, hcanonical, rfl⟩ := hrejects
    have hpath := not_blank_of_passes (hbefore .blankness (by decide))
    rw [outcome_load, outcome_find_regular hpath hfile, hcanonical]
    rfl
  | size =>
    obtain ⟨file, hfile, hlarge, rfl⟩ := hrejects
    have hpath := not_blank_of_passes (hbefore .blankness (by decide))
    obtain ⟨canonical, hcanonical⟩ :=
      exists_canonical_of_passes (hbefore .canonicity (by decide)) hfile
    rw [outcome_load_regular loader elapsed hpath hfile hcanonical, outcome_checkSize]
    exact congrArg (· >>= _) (if_pos hlarge)
  | extension =>
    obtain ⟨file, canonical, expected, found, hfile, hcanonical, hrequired, hfound, hother, rfl⟩ :=
      hrejects
    obtain rfl := hasExtension_iff.1 hfound
    have hpath := not_blank_of_passes (hbefore .blankness (by decide))
    have hsize := size_le_of_passes (hbefore .size (by decide)) hfile
    have hchecked :
        (loader.checkExtension (inspect ⟨canonical, file.size, file.bytes⟩) path).outcome =
          .error (.wrongExtension expected (pathExtension? canonical)) :=
      outcome_checkExtension_of_ne loader path hrequired hother
    rw [outcome_load_regular loader elapsed hpath hfile hcanonical, outcome_checkSize, hchecked]
    exact congrArg (· >>= _) (if_neg hsize)
  | access =>
    obtain ⟨file, canonical, fault, hfile, hcanonical, hfault, rfl⟩ := hrejects
    have hpath := not_blank_of_passes (hbefore .blankness (by decide))
    have hsize := size_le_of_passes (hbefore .size (by decide)) hfile
    have hextension := extension_eq_of_passes (hbefore .extension (by decide)) hfile hcanonical
    rw [outcome_load_fitting loader elapsed hpath hfile hcanonical hsize hextension,
      outcome_read_of_fault path hfault]
    rfl
  | encoding =>
    obtain ⟨file, canonical, bytes, hfile, hcanonical, hbytes, hnone, rfl⟩ := hrejects
    have hpath := not_blank_of_passes (hbefore .blankness (by decide))
    have hsize := size_le_of_passes (hbefore .size (by decide)) hfile
    have hextension := extension_eq_of_passes (hbefore .extension (by decide)) hfile hcanonical
    rw [outcome_load_fitting loader elapsed hpath hfile hcanonical hsize hextension,
      outcome_read_of_not_text path hbytes hnone]
    rfl

/-- What no check rejects is the path of a file whose bytes are those of a text. -/
theorem exists_text_of_passes (hpasses : ∀ check error, ¬loader.Rejects disk path check error) :
    ∃ canonical, ∃ text : String, disk path = .file (.ok canonical) text.toUTF8 := by
  cases hdisk : disk path with
  | missing fault => exact absurd ⟨⟨fault, hdisk⟩, rfl⟩ (hpasses .existence _)
  | directory => exact absurd ⟨.inl hdisk, rfl⟩ (hpasses .regularity _)
  | device bytes => exact absurd ⟨.inr ⟨bytes, hdisk⟩, rfl⟩ (hpasses .regularity _)
  | unreadable told size fault =>
    have hfile : (disk path).regular? = some ⟨told, size, .error fault⟩ := by rw [hdisk]; rfl
    obtain ⟨canonical, hcanonical⟩ := exists_canonical_of_passes (hpasses .canonicity) hfile
    exact absurd ⟨_, canonical, fault, hfile, hcanonical, rfl, rfl⟩ (hpasses .access _)
  | file told bytes =>
    have hfile : (disk path).regular? = some ⟨told, bytes.size, .ok bytes⟩ := by rw [hdisk]; rfl
    obtain ⟨canonical, hcanonical⟩ := exists_canonical_of_passes (hpasses .canonicity) hfile
    obtain ⟨text, htext⟩ : ∃ text : String, text.toUTF8 = bytes := by
      by_contra hnone
      exact hpasses .encoding _ ⟨_, canonical, bytes, hfile, hcanonical, rfl,
        fun text htext ↦ hnone ⟨text, htext⟩, rfl⟩
    exact ⟨canonical, text, by rw [← hcanonical, htext]⟩

/-- A text in a file can be rejected for its size and for its extension only. -/
theorem rejects_text_iff {text : String} (hpath : ¬∀ c ∈ path.toList, Text.IsWhite c)
    (hdisk : disk path = .file (.ok canonical) text.toUTF8) (check : Check) (error : FileError) :
    loader.Rejects disk path check error ↔
      (check = .size ∧ Limits.current.maxFileSize < text.toUTF8.size ∧
        error = .tooLarge text.toUTF8.size Limits.current.maxFileSize) ∨
      (check = .extension ∧ ∃ expected, loader.requiredExtension = some expected ∧
        pathExtension? canonical ≠ some expected ∧
        error = .wrongExtension expected (pathExtension? canonical)) := by
  cases check with
  | blankness => simp [Rejects, hpath]
  | existence | regularity | canonicity | access => simp [Rejects, hdisk, Lookup.regular?]
  | size => simp [Rejects, hdisk, Lookup.regular?]
  | extension => simp [Rejects, hdisk, Lookup.regular?, hasExtension_iff]
  | encoding =>
    simp only [Rejects, hdisk, Lookup.regular?, reduceCtorEq, false_and, or_self, iff_false]
    rintro ⟨file, found, bytes, hfile, -, hbytes, hnone, -⟩
    cases hfile
    cases hbytes
    exact hnone text rfl

/-- What no check rejects is loaded as it is. -/
theorem exists_holds (hpasses : ∀ check error, ¬loader.Rejects disk path check error) :
    ∃ file, (loader.load disk elapsed path).outcome = .ok file ∧ Holds disk path elapsed file := by
  obtain ⟨canonical, text, hdisk⟩ := exists_text_of_passes loader hpasses
  have hfile : (disk path).regular? =
      some ⟨.ok canonical, text.toUTF8.size, .ok text.toUTF8⟩ := by rw [hdisk]; rfl
  have hpath := not_blank_of_passes (hpasses .blankness)
  have hsize := size_le_of_passes (hpasses .size) hfile
  have hextension := extension_eq_of_passes (hpasses .extension) hfile rfl
  have houtcome := outcome_load_fitting loader elapsed hpath hfile rfl hsize hextension
  dsimp only at houtcome
  rw [outcome_read_of_text path rfl] at houtcome
  exact ⟨_, houtcome, hdisk, rfl, hasExtension_iff.2 rfl, Text.lineCount_eq text,
    Text.length_lines text, rfl⟩

/-- What is loaded of a file in a tree has the canonical path of this file, and a file whose
canonical path cannot be told has something on the way to it whose path is too long. -/
theorem canonicity_lookup {root : Tree} {directory : List String}
    (hdirectory : Tree.IsPlace directory) (hdisk : disk = root.lookup directory) :
    (∀ error, loader.Rejects disk path .canonicity error →
      error = .io ("Failed to resolve path '" ++ path ++ "': " ++ Fault.nameTooLong.message) ∧
      ∃ far, (root.node? far).isSome = true ∧
        Tree.pathEnd ≤ (Tree.pathText far).utf8ByteSize) ∧
    ∀ file, Holds disk path elapsed file →
      root.IsCanonical file.metadata.path (.file file.source.toUTF8) := by
  subst hdisk
  constructor
  · rintro _ ⟨file, fault, hfile, hcanonical, rfl⟩
    cases hlookup : root.lookup directory path with
    | missing | directory | device =>
      rw [hlookup] at hfile
      cases hfile
    | unreadable told size cause =>
      exact absurd hlookup (Tree.lookup_ne_unreadable told size cause)
    | file told bytes =>
      rw [hlookup] at hfile
      cases hfile
      rcases Tree.of_lookup_eq_file hdirectory hlookup with ⟨found, htold, -⟩ | ⟨htold, hfar⟩
      · cases hcanonical.symm.trans htold
      · cases hcanonical.symm.trans htold
        exact ⟨rfl, hfar⟩
  · intro file hholds
    rcases Tree.of_lookup_eq_file hdirectory hholds.bytes with
      ⟨found, htold, hfound, -⟩ | ⟨htold, -⟩
    · cases htold
      exact hfound
    · cases htold

/-- The outcome of loading a file is decided by the first check that rejects what is at the path,
and what no check rejects is loaded as it is. In a tree of files the canonical path of a file cannot
be told only when something on the way to it has a path that is too long, and the path of a loaded
file is canonical. -/
theorem load_outcome (path : String) :
    let outcome := (loader.load disk elapsed path).outcome
    (∀ check error, loader.RejectsFirst disk path check error → outcome = .error error) ∧
    ((∀ check error, ¬loader.Rejects disk path check error) →
      ∃ file, outcome = .ok file ∧ Holds disk path elapsed file) ∧
    ∀ (root : Tree) (directory : List String), Tree.IsPlace directory →
      disk = root.lookup directory →
      (∀ error, loader.Rejects disk path .canonicity error →
        error = .io ("Failed to resolve path '" ++ path ++ "': " ++ Fault.nameTooLong.message) ∧
        ∃ far, (root.node? far).isSome = true ∧
          Tree.pathEnd ≤ (Tree.pathText far).utf8ByteSize) ∧
      ∀ file, Holds disk path elapsed file →
        root.IsCanonical file.metadata.path (.file file.source.toUTF8) :=
  ⟨fun _ _ hfirst ↦ outcome_load_of_rejectsFirst loader elapsed hfirst, exists_holds loader elapsed,
    fun _ _ hdirectory hdisk ↦ canonicity_lookup loader elapsed hdirectory hdisk⟩

/-- A file that is loaded, and the same file when another extension is required. -/
theorem load_outcome_source :
    let root : Tree := .directory [("a.SRC", .file "x\ny".toUTF8)]
    (∃ file, (load ⟨some "src", true⟩ (root.lookup []) .zero "a.SRC").outcome = .ok file ∧
      file.metadata.lineCount = 2 ∧
      root.IsCanonical file.metadata.path (.file file.source.toUTF8)) ∧
    (load ⟨some "txt", true⟩ (root.lookup []) .zero "a.SRC").outcome =
      .error (.wrongExtension "txt" (some "src")) := by
  intro root
  have hparts : Tree.parts "a.SRC" = ["a.SRC"] := by decide
  have hstart : Tree.start [] "a.SRC" = [] := by rw [Tree.start, ite_self]
  have hwalk (fits : List String → Bool) (hfits : fits ["a.SRC"] = true) :
      root.walk fits Tree.linkLimit (Tree.start [] "a.SRC") (Tree.parts "a.SRC") =
        .ok (["a.SRC"], .file "x\ny".toUTF8) := by
    have hnames : ∀ name ∈ ["a.SRC"],
        Tree.IsName name ∧ name.utf8ByteSize ≤ Tree.longestName := by decide
    have hfront (front : List String) (hfront : front <+: ["a.SRC"]) (hnil : front ≠ []) :
        fits ([] ++ front) = true := by
      obtain rfl | ⟨rest, rfl, hrest⟩ := List.prefix_cons_iff.1 hfront
      · exact absurd rfl hnil
      · rw [List.prefix_nil.1 hrest]
        exact hfits
    rw [hstart, hparts]
    exact Tree.walk_names hnames hfront rfl fun _ ↦ Tree.noConfusion
  have hdisk : root.lookup [] "a.SRC" = .file (.ok "/a.SRC") "x\ny".toUTF8 := by
    rw [Tree.lookup_eq_file (by decide) (by decide) (by decide) (hwalk _ rfl), Tree.canonicalPath,
      hwalk _ (by decide)]
    rfl
  have hextension : pathExtension? "/a.SRC" = some "src" := by decide +kernel
  have hpath : ¬∀ c ∈ "a.SRC".toList, Text.IsWhite c :=
    fun hblank ↦ absurd (hblank 'a' (by decide)) (by decide)
  have hrejects := fun loader ↦ rejects_text_iff loader hpath hdisk
  rw [hextension] at hrejects
  constructor
  · obtain ⟨-, hloaded, htree⟩ := load_outcome ⟨some "src", true⟩ .zero "a.SRC"
    obtain ⟨file, hfile, hholds⟩ := hloaded fun check error hrejected ↦ by
      obtain ⟨-, hlarge, -⟩ | ⟨-, expected, hrequired, hother, -⟩ :=
        (hrejects _ check error).1 hrejected
      · exact absurd hlarge (by decide +kernel)
      · exact hother hrequired
    have hbytes : file.source.toUTF8 = "x\ny".toUTF8 :=
      (Lookup.file.inj (hholds.bytes.symm.trans hdisk)).2
    have hsource : file.source = "x\ny" :=
      Except.ok.inj ((textOf_eq_ok_iff.2 hbytes).symm.trans (textOf_eq_ok_iff.2 rfl))
    refine ⟨file, hfile, ?_, (htree root [] Tree.IsPlace.root rfl).2 file hholds⟩
    rw [hholds.lineCount, hsource]
    decide
  · refine (load_outcome ⟨some "txt", true⟩ .zero "a.SRC").1 .extension _ ⟨?_, ?_⟩
    · exact (hrejects _ _ _).2 (.inr ⟨rfl, "txt", rfl, by decide, rfl⟩)
    · intro earlier hearlier other hrejected
      obtain ⟨-, hlarge, -⟩ | ⟨rfl, -⟩ := (hrejects _ earlier other).1 hrejected
      · exact absurd hlarge (by decide +kernel)
      · exact absurd hearlier (by decide)

end Load

/-! ### A file that is too far away -/

/-- Directories inside one another, each with a single name in it, and something at the end. -/
def chain (names : List String) (leaf : Tree) : Tree :=
  names.foldr (fun name inner ↦ .directory [(name, inner)]) leaf

theorem node?_chain (names : List String) (leaf : Tree) :
    (chain names leaf).node? names = some leaf := by
  induction names with
  | nil => rfl
  | cons name names ih =>
    rw [chain, List.foldr_cons, Tree.node?, List.lookup_cons_self, Option.bind_some]
    exact ih

/-- A file that is found by a short path, but whose own path is too long, is not loaded. -/
theorem load_far :
    let name := String.ofList (List.replicate 255 'd')
    let way := List.replicate 16 name
    let bytes := "a b".toUTF8
    let root : Tree := .directory [("link", .link ("/".intercalate way)),
      (name, chain (way.tail ++ ["f.src"]) (.file bytes))]
    (∃ canonical, root.lookup [] "link/f.src" = .file canonical bytes) ∧
    bytes.size ≤ Limits.current.maxFileSize ∧
    (load .builtIn (root.lookup []) .zero "link/f.src").outcome =
      .error (.io "Failed to resolve path 'link/f.src': File name too long (os error 36)") := by
  intro name way bytes root
  have hwidth : name.utf8ByteSize = 255 := by decide +kernel
  have hname : Tree.IsName name := by
    refine ⟨by decide +kernel, by decide +kernel, by decide +kernel, ?_⟩
    rw [String.toList_ofList]
    decide
  have hways : ∀ other ∈ way, Tree.IsName other ∧ other.utf8ByteSize ≤ Tree.longestName :=
    fun other hother ↦ List.eq_of_mem_replicate hother ▸ ⟨hname, hwidth.le⟩
  have hnames : ∀ other ∈ way ++ ["f.src"],
      Tree.IsName other ∧ other.utf8ByteSize ≤ Tree.longestName :=
    List.forall_mem_append.2 ⟨hways, List.forall_mem_singleton.2 (by decide)⟩
  have hstart (text : String) : Tree.start [] text = [] := by
    rw [Tree.start, ite_self]
  have htarget : Tree.parts ("/".intercalate way) = way :=
    Tree.parts_intercalate (List.cons_ne_nil _ _) fun other hother ↦ (hways other hother).1
  have hnode : root.node? ([] ++ (way ++ ["f.src"])) = some (.file bytes) := by
    have hother : (name == "link") = false := by decide +kernel
    change (List.lookup name _).bind (Tree.node? (way.tail ++ ["f.src"])) = _
    rw [List.lookup_cons, hother, List.lookup_cons_self]
    dsimp only [Option.bind_some]
    rw [node?_chain]
  have hwalk : root.walk (fun _ ↦ true) Tree.linkLimit (Tree.start [] "link/f.src")
      (Tree.parts "link/f.src") = .ok (way ++ ["f.src"], .file bytes) := by
    have hparts : Tree.parts "link/f.src" = "link" :: ["f.src"] := by decide
    have hlink : Tree.IsName "link" ∧ "link".utf8ByteSize ≤ Tree.longestName := by decide
    rw [hstart, hparts, Tree.linkLimit, Tree.walk_link rfl hlink.1 hlink.2 rfl rfl, hstart, htarget]
    exact Tree.walk_names hnames (fun _ _ _ ↦ rfl) hnode fun _ ↦ Tree.noConfusion
  have hfar : Tree.hasPath (way ++ ["f.src"]) = false := by
    rw [Tree.hasPath, Tree.utf8ByteSize_pathText, List.map_append, List.map_replicate, hwidth]
    decide
  have hlookup := Tree.lookup_eq_file (by decide) (by decide) (by decide) hwalk
  rw [Tree.canonicalPath_eq_error Tree.IsPlace.root hwalk hfar] at hlookup
  have hsmall : bytes.size ≤ Limits.current.maxFileSize := by decide +kernel
  have hfound : ∃ canonical, root.lookup [] "link/f.src" = .file canonical bytes := ⟨_, hlookup⟩
  refine ⟨hfound, hsmall, ?_⟩
  have hfile : (root.lookup [] "link/f.src").regular? =
      some ⟨.error .nameTooLong, bytes.size, .ok bytes⟩ := by
    rw [hlookup]
    rfl
  have hpath : ¬∀ c ∈ "link/f.src".toList, Text.IsWhite c :=
    fun hblank ↦ absurd (hblank 'l' (by decide)) (by decide)
  rw [outcome_load, outcome_find_regular hpath hfile]
  rfl

end Loader

end Lexeme.Files
