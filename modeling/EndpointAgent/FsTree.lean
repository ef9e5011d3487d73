import EndpointAgent.Basic
import EndpointAgent.Filepath

/-!
# The file-system tree collector

`fs.BuildFSTree(root)` (`internal/collectors/fs`) walks `root` with `filepath.WalkDir` and
hangs each entry under the node of its parent directory, which it finds in a map from path to
node by `filepath.Dir` of the entry's path. The map starts with the root under the literal
`root`, and `WalkDir` passes every path below it through `filepath.Join`, which cleans it. So
when `Clean` changes `root` (a trailing separator, a leading `./`), no `Dir` is ever `root`:
the walk visits every entry, and none is attached. The error of `d.Info()` is dropped, and
an entry removed between the listing and the `Info` call makes `info.Size()` dereference a nil
interface, which panics.

The nodes are the pointers the function allocates, in allocation order, each with the
indices of its children; the root is the first.
-/

set_option autoImplicit false

namespace EndpointAgent

namespace FsTree

open Filepath

/-- What `d.Info()` reports of an entry. -/
structure FileInfo where
  size : Int
  mode : Nat
  modTime : Int
  deriving DecidableEq, Repr

/-- An entry as `WalkDir` meets it: its name, what `d.Info()` returns (`none` for an entry gone
by then), and for a directory what `os.ReadDir` returns, the entries it read in name order and
its error. -/
inductive FsEntry where
  | file (name : String) (info : Option FileInfo)
  | dir (name : String) (info : Option FileInfo) (entries : List FsEntry) (readDirError : Option GoError)

namespace FsEntry

def name : FsEntry → String
  | file name _ | dir name _ _ _ => name

def info : FsEntry → Option FileInfo
  | file _ info | dir _ info _ _ => info

def isDir : FsEntry → Bool
  | file _ _ => false
  | dir _ _ _ _ => true

end FsEntry

/-- One call of the walk function: a path with its entry, or a path with the error `WalkDir`
reports for it. -/
inductive Visit where
  | entry (path : String) (d : FsEntry)
  | error (path : String) (err : GoError)

mutual

/-- `walkDir(path, d, fn)` when `fn` returns nil: the entry, then for a directory the error of
its `os.ReadDir` and the walk of each entry it read, at `filepath.Join(path, name)`. -/
def walkDir (path : String) : FsEntry → List Visit
  | .file name info => [.entry path (.file name info)]
  | .dir name info entries readDirError =>
    .entry path (.dir name info entries readDirError) ::
      ((readDirError.map fun err => [.error path err]).getD [] ++ walkEntries path entries)

def walkEntries (path : String) : List FsEntry → List Visit
  | [] => []
  | d :: rest => walkDir (unix.join [path, d.name]) d ++ walkEntries path rest

end

/-- `filepath.WalkDir(root, fn)`; `lstat` is what `os.Lstat(root)` returns. -/
def walk (root : String) (lstat : Except GoError FsEntry) : List Visit :=
  match lstat with
  | .error err => [.error root err]
  | .ok d => walkDir root d

/-- A `Node` as `BuildFSTree` allocates it, with the indices of its children. -/
structure NodeRec where
  name : String
  path : String
  isDir : Bool
  size : Int
  mode : Nat
  modTime : Int
  children : List Nat
  deriving DecidableEq, Repr

/-- The allocated nodes, and `nodeMap` with the latest assignment first. -/
structure BuildState where
  nodes : List NodeRec
  nodeMap : List (String × Nat)
  deriving DecidableEq, Repr

/-- The root node and the map holding it under `root`. -/
def start (root : String) : BuildState :=
  ⟨[⟨unix.base root, root, true, 0, 0, 0, []⟩], [(root, 0)]⟩

/-- How `BuildFSTree` ends: it returns the nodes, root first (its error is the `WalkDir`
error, nil since the walk function always returns nil), or the walk function panics. -/
inductive BuildOutcome where
  | returned (nodes : List NodeRec)
  | panicked

/-- The walk function of `BuildFSTree` on one visit. `none` is the panic of `info.Size()` on
the nil `FileInfo` of a failed `d.Info()`. -/
def visit (root : String) (s : BuildState) : Visit → Option BuildState
  | .error _ _ => some s
  | .entry path d =>
    if path = root then some s
    else
      match s.nodeMap.lookup (unix.dir path) with
      | none => some s
      | some parent =>
        match d.info with
        | none => none
        | some info =>
          let index := s.nodes.length
          some { nodes := s.nodes.modify (fun p => { p with children := p.children ++ [index] }) parent ++
                   [⟨d.name, path, d.isDir, info.size, info.mode, info.modTime, []⟩]
                 nodeMap := if d.isDir then (path, index) :: s.nodeMap else s.nodeMap }

/-- The walk function over the visits in order; a panic ends the walk. -/
def visitAll (root : String) : BuildState → List Visit → Option BuildState
  | s, [] => some s
  | s, v :: rest => (visit root s v).bind fun s => visitAll root s rest

/-- `BuildFSTree(root)`. -/
def buildFSTree (root : String) (lstat : Except GoError FsEntry) : BuildOutcome :=
  match visitAll root (start root) (walk root lstat) with
  | some s => .returned s.nodes
  | none => .panicked

/-! ## A root that `Clean` changes -/

/-- While the map holds only the root under a path that `Clean` changes, no visit finds a parent. -/
private theorem visit_unclean {root : String} (unclean : unix.clean root ≠ root) (v : Visit) :
    visit root (start root) v = some (start root) := by
  cases v with
  | error => rfl
  | entry path d =>
    rw [visit]
    split
    · rfl
    · have missing : (start root).nodeMap.lookup (unix.dir path) = none := by
        simp [start, unix.dir_ne_of_unclean unclean path]
      rw [missing]

private theorem visitAll_unclean {root : String} (unclean : unix.clean root ≠ root) (visits : List Visit) :
    visitAll root (start root) visits = some (start root) := by
  induction visits with
  | nil => rfl
  | cons v rest ih => rw [visitAll, visit_unclean unclean, Option.some_bind, ih]

/-- For every root that `Clean` changes and every tree under it, `BuildFSTree` returns the root
node alone, whatever entries the walk visits. -/
theorem buildFSTree_unclean_root (root : String) (unclean : unix.clean root ≠ root)
    (lstat : Except GoError FsEntry) :
    buildFSTree root lstat = .returned (start root).nodes := by
  rw [buildFSTree, visitAll_unclean unclean]

/-- `/tmp/` holding the file `a`, and `/tmp` holding a file `a` removed before `d.Info()`. -/
def tmpWithFile (info : Option FileInfo) : FsEntry := .dir "tmp" (some ⟨4096, 2147484141, 0⟩) [.file "a" info] none

/-- The walk of `/tmp/` visits `/tmp/a`, and `BuildFSTree("/tmp/")` returns the root alone.
On `/tmp` the walk attaches `/tmp/a`, and when `a` is gone before its `Info` call the walk
function panics. -/
theorem buildFSTree_unclean_root_tmp :
    walk "/tmp/" (.ok (tmpWithFile (some ⟨1, 420, 0⟩))) =
        [.entry "/tmp/" (tmpWithFile (some ⟨1, 420, 0⟩)), .entry "/tmp/a" (.file "a" (some ⟨1, 420, 0⟩))] ∧
      buildFSTree "/tmp/" (.ok (tmpWithFile (some ⟨1, 420, 0⟩))) =
        .returned [⟨"tmp", "/tmp/", true, 0, 0, 0, []⟩] ∧
      buildFSTree "/tmp" (.ok (tmpWithFile none)) = .panicked := by
  refine ⟨rfl, buildFSTree_unclean_root "/tmp/" (by decide) _, ?_⟩
  rfl

end FsTree

end EndpointAgent
