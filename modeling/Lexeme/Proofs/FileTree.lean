import Lexeme.Files.Tree
import Lexeme.Proofs.Lines
import Mathlib.Algebra.GroupWithZero.Nat

/-!
# Paths in a tree of files

What holds at the start of a walk, and is kept when the walk goes up, starts again at the root, or
goes down by a name that fits, holds where the walk ends (`Tree.of_walk_eq_ok`). So the canonical
path of a file names one entry after the other from the root on, without a link on the way
(`Tree.IsCanonical`), and is short enough for an access.

A walk in which places must fit ends where the walk without this condition ends, unless it meets a
place that does not fit (`Tree.walk_of_walk_eq_ok`). So a file that is found has its canonical path,
or there is something on the way to it whose path is too long (`Tree.of_lookup_eq_file`).
-/

set_option autoImplicit false
set_option relaxedAutoImplicit false

namespace Lexeme.Files.Tree

/-- A name that leads from a directory to something in it. -/
structure IsName (name : String) : Prop where
  ne_empty : name ≠ ""
  ne_here : name ≠ "."
  ne_above : name ≠ ".."
  separator_not_mem : '/' ∉ name.toList

instance (name : String) : Decidable (IsName name) :=
  decidable_of_iff (name ≠ "" ∧ name ≠ "." ∧ name ≠ ".." ∧ '/' ∉ name.toList)
    ⟨fun ⟨hempty, hhere, habove, hseparator⟩ ↦ ⟨hempty, hhere, habove, hseparator⟩,
      fun hname ↦ ⟨hname.ne_empty, hname.ne_here, hname.ne_above, hname.separator_not_mem⟩⟩

/-- A path names one entry after the other, from the root to something in a tree. As nothing but
directories can be on the way, there is no link on it. -/
def IsCanonical (root : Tree) (path : String) (tree : Tree) : Prop :=
  ∃ place : List String,
    path = pathText place ∧ (∀ name ∈ place, IsName name) ∧ root.node? place = some tree

/-! ### Parts of a path -/

theorem separator_not_mem_of_mem_parts {path name : String} (hname : name ∈ parts path) :
    '/' ∉ name.toList := by
  obtain ⟨cs, hcs, rfl⟩ := List.mem_map.1 hname
  rw [String.toList_ofList]
  exact Text.not_mem_of_mem_splitOn '/' _ cs hcs

/-- The parts of a path of names are these names. -/
theorem parts_intercalate {names : List String} (hnil : names ≠ [])
    (hnames : ∀ name ∈ names, IsName name) : parts ("/".intercalate names) = names := by
  have hfree : ∀ cs ∈ names.map String.toList, '/' ∉ cs := by
    intro cs hcs
    obtain ⟨name, hname, rfl⟩ := List.mem_map.1 hcs
    exact (hnames name hname).separator_not_mem
  have hseparator : "/".toList = ['/'] := rfl
  rw [parts, String.toList_intercalate, hseparator,
    List.splitOn_intercalate '/' hfree (by simpa using hnil), List.map_map]
  exact List.map_id'' (fun _ ↦ String.ofList_toList) names

theorem node?_append (root : Tree) (place names : List String) :
    root.node? (place ++ names) = (root.node? place).bind (node? names) := by
  induction place generalizing root with
  | nil => rfl
  | cons name place ih =>
    cases root with
    | directory entries =>
      rw [List.cons_append, node?, node?, Option.bind_assoc]
      exact congrArg _ (funext ih)
    | file | device | link => rfl

theorem node?_concat {root : Tree} {place : List String} {entries : List (String × Tree)}
    (hnode : root.node? place = some (.directory entries)) (name : String) :
    root.node? (place ++ [name]) = entries.lookup name := by
  rw [node?_append, hnode, Option.bind_some, node?]
  cases entries.lookup name <;> rfl

/-! ### Walks -/

section Walk

variable {root : Tree} {fits : List String → Bool} {links : Nat} {place names final : List String}
  {tree : Tree}

/-- What is kept by a step up, by a start at the root and by a step down holds at the end of a walk,
and what is found there is what the tree has there. -/
theorem of_walk_eq_ok {P : List String → Prop} (hroot : P [])
    (hup : ∀ place, P place → P place.dropLast)
    (hdown : ∀ place name, P place → IsName name → fits (place ++ [name]) = true →
      P (place ++ [name]))
    (hplace : P place) (hnames : ∀ name ∈ names, '/' ∉ name.toList)
    (hwalk : walk root fits links place names = .ok (final, tree)) :
    P final ∧ root.node? final = some tree := by
  fun_induction walk root fits links place names with
  | case1 links place inner hnode =>
    cases hwalk
    exact ⟨hplace, hnode⟩
  | case3 links place name rest entries hnode hstay ih =>
    exact ih hplace (List.forall_mem_cons.1 hnames).2 hwalk
  | case4 links place rest entries hnode hmove ih =>
    exact ih (hup place hplace) (List.forall_mem_cons.1 hnames).2 hwalk
  | case8 place name rest entries hnode hmove hdeeper hfits target hentry links ih =>
    refine ih ?_ (fun other hother ↦ ?_) hwalk
    · rw [start]
      split_ifs
      exacts [hroot, hplace]
    · obtain hother | hother := List.mem_append.1 hother
      · exact separator_not_mem_of_mem_parts hother
      · exact (List.forall_mem_cons.1 hnames).2 other hother
  | case9 links place name rest entries hnode hmove hdeeper hfits inner hlink hentry ih =>
    obtain ⟨hname, hrest⟩ := List.forall_mem_cons.1 hnames
    have hplain : IsName name := ⟨fun h ↦ hmove (.inl h), fun h ↦ hmove (.inr h), hdeeper, hname⟩
    have hshort : fits (place ++ [name]) = true := by
      rw [not_or] at hfits
      simpa using hfits.2
    exact ih (hdown place name hplace hplain hshort) hrest hwalk
  | _ => cases hwalk

/-- A walk in which places must fit ends where the walk without this condition ends, or something on
the way does not fit. -/
theorem walk_of_walk_eq_ok (fits : List String → Bool) {result : List String × Tree}
    (hwalk : walk root (fun _ ↦ true) links place names = .ok result) :
    walk root fits links place names = .ok result ∨
      walk root fits links place names = .error .nameTooLong ∧
        ∃ far, (root.node? far).isSome = true ∧ fits far = false := by
  fun_induction walk root (fun _ ↦ true) links place names with
  | case1 links place inner hnode =>
    rw [walk, hnode]
    exact .inl hwalk
  | case3 links place name rest entries hnode hstay ih =>
    rw [walk, hnode]
    dsimp only
    rw [if_pos hstay]
    exact ih hwalk
  | case4 links place rest entries hnode hmove ih =>
    rw [walk, hnode]
    dsimp only
    rw [if_neg hmove, if_pos rfl]
    exact ih hwalk
  | case8 place name rest entries hnode hmove hdeeper hfits target hentry links ih =>
    rw [walk, hnode]
    dsimp only
    rw [if_neg hmove, if_neg hdeeper]
    by_cases hfar : fits (place ++ [name]) = true
    · rw [if_neg (by simpa [hfar] using hfits), hentry]
      exact ih hwalk
    · rw [if_pos (by simp [hfar])]
      refine .inr ⟨rfl, place ++ [name], ?_, by simpa using hfar⟩
      rw [node?_concat hnode, hentry]
      rfl
  | case9 links place name rest entries hnode hmove hdeeper hfits inner hlink hentry ih =>
    rw [walk, hnode]
    dsimp only
    rw [if_neg hmove, if_neg hdeeper]
    by_cases hfar : fits (place ++ [name]) = true
    · rw [if_neg (by simpa [hfar] using hfits), hentry]
      cases inner with
      | link target => exact absurd rfl (hlink target)
      | directory | file | device => exact ih hwalk
    · rw [if_pos (by simp [hfar])]
      refine .inr ⟨rfl, place ++ [name], ?_, by simpa using hfar⟩
      rw [node?_concat hnode, hentry]
      rfl
  | _ => cases hwalk

/-- A walk down names that lead to something else than a link ends there, if all places on the way
fit. -/
theorem walk_names (hnames : ∀ name ∈ names, IsName name ∧ name.utf8ByteSize ≤ longestName)
    (hfits : ∀ front, front <+: names → front ≠ [] → fits (place ++ front) = true)
    (hnode : root.node? (place ++ names) = some tree) (hlink : ∀ target, tree ≠ .link target) :
    walk root fits links place names = .ok (place ++ names, tree) := by
  induction names generalizing place with
  | nil =>
    rw [List.append_nil] at hnode ⊢
    rw [walk, hnode]
  | cons name names ih =>
    obtain ⟨⟨hname, hshort⟩, hrest⟩ := List.forall_mem_cons.1 hnames
    have hnext : fits (place ++ [name]) = true := hfits [name] (by simp) (List.cons_ne_nil _ _)
    have hfurther (front : List String) (hfront : front <+: names) (hnil : front ≠ []) :
        fits (place ++ [name] ++ front) = true := by
      rw [← List.append_cons]
      exact hfits (name :: front) (List.cons_prefix_cons.2 ⟨rfl, hfront⟩) (List.cons_ne_nil _ _)
    have hhere := hnode
    rw [node?_append] at hhere
    obtain ⟨here, hplace, hinner⟩ := Option.bind_eq_some_iff.1 hhere
    cases here with
    | file | device | link => cases hinner
    | directory entries =>
      obtain ⟨next, hentry, hinside⟩ := Option.bind_eq_some_iff.1 hinner
      rw [List.append_cons] at hnode ⊢
      rw [walk, hplace]
      dsimp only
      rw [if_neg (not_or.2 ⟨hname.ne_empty, hname.ne_here⟩), if_neg hname.ne_above,
        if_neg (by simp [hshort, hnext]), hentry]
      cases next with
      | link target =>
        cases names with
        | nil =>
          cases hinside
          exact absurd rfl (hlink target)
        | cons => cases hinside
      | directory | file | device => exact ih hrest hfurther hnode

/-- A walk goes on at what a link points to. -/
theorem walk_link {name target : String} {entries : List (String × Tree)}
    (hnode : root.node? place = some (.directory entries)) (hname : IsName name)
    (hshort : name.utf8ByteSize ≤ longestName) (hfits : fits (place ++ [name]) = true)
    (hentry : entries.lookup name = some (.link target)) :
    walk root fits (links + 1) place (name :: names) =
      walk root fits links (start place target) (parts target ++ names) := by
  rw [walk, hnode]
  dsimp only
  rw [if_neg (not_or.2 ⟨hname.ne_empty, hname.ne_here⟩), if_neg hname.ne_above,
    if_neg (by simp [hshort, hfits]), hentry]

end Walk

/-! ### Canonical paths -/

theorem utf8ByteSize_intercalate (name : String) (names : List String) :
    ("/".intercalate (name :: names)).utf8ByteSize =
      name.utf8ByteSize + (names.map (·.utf8ByteSize + 1)).sum := by
  have hseparator : "/".utf8ByteSize = 1 := rfl
  induction names generalizing name with
  | nil => rw [String.intercalate_singleton, List.map_nil, List.sum_nil, Nat.add_zero]
  | cons next names ih =>
    rw [String.intercalate_cons_cons, String.utf8ByteSize_append, String.utf8ByteSize_append, ih,
      List.map_cons, List.sum_cons, hseparator]
    omega

/-- A canonical path has a separator before each name, and it has one at the root. -/
theorem utf8ByteSize_pathText (place : List String) :
    (pathText place).utf8ByteSize = max 1 (place.map (·.utf8ByteSize + 1)).sum := by
  have hseparator : "/".utf8ByteSize = 1 := rfl
  rw [pathText, String.utf8ByteSize_append, hseparator]
  cases place with
  | nil => rfl
  | cons name names =>
    rw [utf8ByteSize_intercalate, List.map_cons, List.sum_cons]
    omega

/-- A place that a program can work in: it is reached by names, and its path is short enough. -/
structure IsPlace (place : List String) : Prop where
  isName : ∀ name ∈ place, IsName name
  hasPath : hasPath place = true

namespace IsPlace

variable {place : List String}

theorem root : IsPlace [] := by
  refine ⟨fun _ hname ↦ absurd hname List.not_mem_nil, ?_⟩
  rw [Tree.hasPath, utf8ByteSize_pathText]
  decide

theorem dropLast (hplace : IsPlace place) : IsPlace place.dropLast := by
  refine ⟨fun name hname ↦ hplace.isName name (List.dropLast_subset place hname), ?_⟩
  have hpath := hplace.hasPath
  rw [Tree.hasPath, decide_eq_true_iff, utf8ByteSize_pathText] at hpath ⊢
  cases place using List.reverseRecOn with
  | nil => exact hpath
  | append_singleton init last =>
    rw [List.map_append, List.sum_append] at hpath
    rw [List.dropLast_concat]
    omega

theorem concat (hplace : IsPlace place) {name : String} (hname : IsName name)
    (hpath : Tree.hasPath (place ++ [name]) = true) : IsPlace (place ++ [name]) := by
  refine ⟨fun other hother ↦ ?_, hpath⟩
  obtain hother | hother := List.mem_append.1 hother
  · exact hplace.isName other hother
  · exact List.mem_singleton.1 hother ▸ hname

theorem start (hplace : IsPlace place) (path : String) : IsPlace (Tree.start place path) := by
  rw [Tree.start]
  split_ifs
  exacts [root, hplace]

end IsPlace

section Lookup

variable {root : Tree} {directory place : List String} {path : String} {tree : Tree}

/-- Every file in a tree can be read. -/
theorem lookup_ne_unreadable (canonical : Except Fault String) (size : Nat) (fault : Fault) :
    root.lookup directory path ≠ .unreadable canonical size fault := by
  rw [lookup]
  split_ifs
  iterate 3 exact Lookup.noConfusion
  split <;> exact Lookup.noConfusion

/-- Something whose own path is too long has no canonical path, although a walk leads to it. -/
theorem canonicalPath_eq_error (hdirectory : IsPlace directory)
    (hwalk : walk root (fun _ ↦ true) linkLimit (start directory path) (parts path) =
      .ok (place, tree)) (hfar : hasPath place = false) :
    canonicalPath root directory path = .error .nameTooLong := by
  rcases walk_of_walk_eq_ok hasPath hwalk with hsame | ⟨hlong, -⟩
  · have hplace := (of_walk_eq_ok IsPlace.root (fun _ ↦ IsPlace.dropLast)
      (fun _ _ hplace hname ↦ hplace.concat hname) (hdirectory.start path)
      (fun _ ↦ separator_not_mem_of_mem_parts) hsame).1
    rw [hplace.hasPath] at hfar
    cases hfar
  · rw [canonicalPath, hlong]
    rfl

/-- A file is found if a walk leads to it. -/
theorem lookup_eq_file {bytes : ByteArray} (hpath : path ≠ "") (hnul : '\x00' ∉ path.toList)
    (hsize : path.utf8ByteSize < pathEnd)
    (hwalk : walk root (fun _ ↦ true) linkLimit (start directory path) (parts path) =
      .ok (place, .file bytes)) :
    root.lookup directory path = .file (canonicalPath root directory path) bytes := by
  have hcontains : path.contains '\x00' = false := by
    rw [String.contains_char_eq, decide_eq_false hnul]
  rw [lookup, if_neg (by rwa [String.isEmpty_iff]), hcontains, if_neg Bool.false_ne_true,
    if_neg (Nat.not_le.2 hsize), hwalk]

/-- A file that is found has a canonical path, which is short enough, unless something on the way
has a path that is too long. -/
theorem of_lookup_eq_file (hdirectory : IsPlace directory) {canonical : Except Fault String}
    {bytes : ByteArray} (hfile : root.lookup directory path = .file canonical bytes) :
    (∃ found, canonical = .ok found ∧ root.IsCanonical found (.file bytes) ∧
      found.utf8ByteSize < pathEnd) ∨
    canonical = .error .nameTooLong ∧
      ∃ far, (root.node? far).isSome = true ∧ pathEnd ≤ (pathText far).utf8ByteSize := by
  obtain ⟨place, hwalk, rfl⟩ : ∃ place,
      walk root (fun _ ↦ true) linkLimit (start directory path) (parts path) =
        .ok (place, .file bytes) ∧ canonicalPath root directory path = canonical := by
    unfold lookup at hfile
    split_ifs at hfile
    split at hfile
    · cases hfile
    · cases hfile
    · cases hfile
      exact ⟨_, ‹_›, rfl⟩
    · cases hfile
    · cases hfile
  rcases walk_of_walk_eq_ok hasPath hwalk with hsame | ⟨hlong, far, hsome, hfar⟩
  · obtain ⟨hplace, hnode⟩ := of_walk_eq_ok IsPlace.root (fun _ ↦ IsPlace.dropLast)
      (fun _ _ hplace hname ↦ hplace.concat hname) (hdirectory.start path)
      (fun _ ↦ separator_not_mem_of_mem_parts) hsame
    refine .inl ⟨pathText place, ?_, ⟨place, rfl, hplace.isName, hnode⟩,
      of_decide_eq_true hplace.hasPath⟩
    rw [canonicalPath, hsame]
    rfl
  · refine .inr ⟨?_, far, hsome, Nat.not_lt.1 (of_decide_eq_false hfar)⟩
    rw [canonicalPath, hlong]
    rfl

end Lookup

end Lexeme.Files.Tree
