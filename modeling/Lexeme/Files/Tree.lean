import Lexeme.Files.Disk

/-!
# Trees of directories

A disk given as a tree of directories. A path is walked part by part; a link is replaced by what it
points to, at most forty times on one walk. Links may lead so deep that a file can be read although
no canonical path of it is short enough.
-/

set_option autoImplicit false
set_option relaxedAutoImplicit false

namespace Lexeme.Files

/-- A directory with what is in it, or something else that has a name in a directory. -/
inductive Tree where
  | directory (entries : List (String × Tree))
  | file (bytes : ByteArray)
  | device (bytes : ByteArray)
  | link (target : String)
  deriving Inhabited

namespace Tree

/-- The tree with a leaf at a path; directories on the way come to be. -/
def insert (leaf : Tree) : List String → Tree → Tree
  | [], tree =>
    match leaf, tree with
    | directory [], directory entries => directory entries
    | _, _ => leaf
  | name :: path, tree =>
    let entries := match tree with
      | directory entries => entries
      | _ => []
    match entries.lookup name with
    | some inner =>
      let inner := insert leaf path inner
      directory (entries.map fun entry ↦ if entry.1 == name then (name, inner) else entry)
    | none => directory (entries ++ [(name, insert leaf path (directory []))])

/-- What is at a path of names, without following links. -/
def node? : List String → Tree → Option Tree
  | [], tree => some tree
  | name :: path, directory entries => (entries.lookup name).bind (node? path)
  | _ :: _, _ => none

/-- The longest name a directory can hold, in bytes. -/
def longestName : Nat := 255

/-- The first length of a path that is too great, in bytes. -/
def pathEnd : Nat := 4096

/-- Number of links that one walk may follow. -/
def linkLimit : Nat := 40

/-- The parts of a path. Two separators in a row have an empty part between them. -/
def parts (path : String) : List String :=
  (path.toList.splitOn '/').map String.ofList

/-- Whether a path starts at the root. -/
def isAbsolute (path : String) : Bool :=
  path.startsWith "/"

/-- Where a path starts: at the root, or else in the working directory. -/
def start (directory : List String) (path : String) : List String :=
  if isAbsolute path then [] else directory

/-- Walks on from a place without links, given as the names from the root. The walk ends at a place
that does not fit. -/
def walk (root : Tree) (fits : List String → Bool) (links : Nat) (place : List String) :
    List String → Except Fault (List String × Tree)
  | [] =>
    match root.node? place with
    | some tree => .ok (place, tree)
    | none => .error .notFound
  | name :: rest =>
    match root.node? place with
    | some (directory entries) =>
      if name = "" ∨ name = "." then walk root fits links place rest
      else if name = ".." then walk root fits links place.dropLast rest
      else if longestName < name.utf8ByteSize ∨ !fits (place ++ [name]) then .error .nameTooLong
      else
        match entries.lookup name with
        | none => .error .notFound
        | some (link target) =>
          match links with
          | 0 => .error .tooManyLinks
          | links + 1 => walk root fits links (start place target) (parts target ++ rest)
        | some _ => walk root fits links (place ++ [name]) rest
    | some _ => .error .notDirectory
    | none => .error .notFound
termination_by rest => (links, rest.length)

/-- The canonical path of a place. -/
def pathText (place : List String) : String :=
  "/" ++ "/".intercalate place

/-- Whether the canonical path of a place is short enough for an access. -/
def hasPath (place : List String) : Bool :=
  (pathText place).utf8ByteSize < pathEnd

/-- The canonical path of what a path leads to. It is found place by place, so that every place on
the way needs a canonical path that is short enough, although a walk alone needs none. -/
def canonicalPath (root : Tree) (directory : List String) (path : String) : Except Fault String :=
  (walk root hasPath linkLimit (start directory path) (parts path)).map fun (place, _) ↦
    pathText place

/-- What is found at a path in a tree, from a working directory. -/
def lookup (root : Tree) (directory : List String) (path : String) : Lookup :=
  if path.isEmpty then .missing .notFound
  else if path.contains '\x00' then .missing .invalidName
  else if pathEnd ≤ path.utf8ByteSize then .missing .nameTooLong
  else
    match walk root (fun _ ↦ true) linkLimit (start directory path) (parts path) with
    | .error fault => .missing fault
    | .ok (_, .directory _) => .directory
    | .ok (_, .file bytes) => .file (canonicalPath root directory path) bytes
    | .ok (_, .device bytes) => .device bytes
    | .ok (_, .link _) => .missing .tooManyLinks

/-- The place that names lead to from a place without links, in a tree in which every name on the way
that was missing has become a directory. -/
def makeWay (root : Tree) (links : Nat) (place : List String) : List String → Tree × List String
  | [] => (root, place)
  | name :: rest =>
    if name = "" ∨ name = "." then makeWay root links place rest
    else if name = ".." then makeWay root links place.dropLast rest
    else
      let next := place ++ [name]
      match root.node? next with
      | some (link target) =>
        match links with
        | 0 => (root, next ++ rest)
        | links + 1 => makeWay root links (start place target) (parts target ++ rest)
      | some _ => makeWay root links next rest
      | none => makeWay (insert (directory []) next root) links next rest
termination_by rest => (links, rest.length)

/-- The tree after something is put at a path, from a working directory. Links on the way are
followed; at the end of the path they are followed too, unless a link is put there. -/
def put (root : Tree) (directory : List String) (path : String) (leaf : Tree) : Tree :=
  let names := parts path
  let way := root.makeWay linkLimit (start directory path)
  match leaf with
  | link _ =>
    let (tree, place) := way names.dropLast
    insert leaf (place ++ names.getLast?.toList) tree
  | _ =>
    let (tree, place) := way names
    insert leaf place tree

end Tree

end Lexeme.Files
