import EndpointAgent.FsTree

/-!
# Moving a file

`fs.Move(src, dst)` (`internal/collectors/fs`) tries `os.Rename` and, when it fails, copies and
deletes: `copyFile` opens the source, creates the destination (truncating what it held) and
copies with `io.Copy` from one open file to the other, then `copyAndDelete` removes the source.
`Delete` is `os.Remove`.

The file system is a map from cleaned path to directory entry, a regular file's inode or a
symbolic link, and a map from inode to contents; directories on the way are not links. So two
paths can name one file: they clean to the same text, they are hard links to one inode, or one
is a symbolic link to the other. `os.Open` and `os.Create` follow links, up to 40 of them;
`os.Rename` and `os.Remove` act on the entry itself, and a rename between two names of one file
does nothing. Each call takes its outcome from the environment by its position in the run, and
a failing `io.Copy` says how many bytes it wrote first. The deferred `Close` calls are never
checked, so they are not modelled.

For two paths that name different files, whatever fails, the source's contents survive: a
`Move` that returns nil has put them at `dst` and removed `src`, and one that returns an error
leaves `src` as it was (`move_contract`). The destination is not kept the same way: once the
rename has failed and the create has succeeded, what it held is gone, even when the move then
fails (`move_overwrites`). When `dst` leads to the source's own file, the create truncates the
source before the copy reads it, and a `Move` that returns nil has lost the contents
(`move_through_link_empties`).
-/

set_option autoImplicit false

namespace EndpointAgent

namespace FsTree

open Filepath

/-- A directory entry: a regular file's inode, or a symbolic link to a target path. -/
inductive Node where
  | file (inode : Nat)
  | symlink (target : String)
  deriving DecidableEq, Repr

/-- What the file calls of package `fs` meet. -/
structure CrudEnv where
  /-- The error of the `n`-th call of the run, if it fails. -/
  fault : Nat → Option GoError
  /-- The bytes the `n`-th call writes before its error, when it is an `io.Copy` that fails. -/
  copied : Nat → Nat

/-- The directory entries by cleaned path, the contents of each inode, the inode number the next
created file gets, and the number of calls made so far. -/
structure CrudWorld where
  entries : String → Option Node
  inodes : Nat → Option Bytes
  fresh : Nat
  calls : Nat

/-- How a path resolves when the system follows symbolic links: to an inode, to a final name
that does not exist (cleaned), or past the limit of links. -/
inductive Resolved where
  | inode (i : Nat)
  | missing (path : String)
  | loop
  deriving DecidableEq, Repr

/-- The path a symbolic link at `path` names: its target, read from the link's directory when
it is relative. -/
def linkTarget (path target : String) : String :=
  if unix.isRooted target.data then target else unix.join [unix.dir path, target]

/-- Linux follows at most 40 symbolic links in one lookup. -/
def maxSymlinks : Nat := 40

namespace CrudWorld

/-- Following symbolic links, at most `fuel - 1` of them. -/
def resolve (w : CrudWorld) : Nat → String → Resolved
  | 0, _ => .loop
  | fuel + 1, path =>
    match w.entries (unix.clean path) with
    | none => .missing (unix.clean path)
    | some (.file i) => .inode i
    | some (.symlink target) => w.resolve fuel (linkTarget path target)

/-- `os.ReadFile(path)`, its contents when it succeeds. -/
def read (w : CrudWorld) (path : String) : Option Bytes :=
  match w.resolve (maxSymlinks + 1) path with
  | .inode i => w.inodes i
  | _ => none

variable (env : CrudEnv)

/-- The world after one more call. -/
def next (w : CrudWorld) : CrudWorld := { w with calls := w.calls + 1 }

/-- The error of a call on a path that does not exist. -/
def notExist (op path : String) : GoError := GoError.new (op ++ " " ++ path ++ ": no such file or directory")

/-- The error of a lookup that meets more than 40 symbolic links. -/
def tooManyLinks (op path : String) : GoError :=
  GoError.new (op ++ " " ++ path ++ ": too many levels of symbolic links")

/-- Two entries that are one file: the same name, or hard links to one inode. -/
def sameFile (w : CrudWorld) (src dst : String) : Bool :=
  unix.clean src = unix.clean dst ||
    match w.entries (unix.clean src), w.entries (unix.clean dst) with
    | some (.file i), some (.file j) => i = j
    | _, _ => false

/-- `os.Rename(src, dst)`: at once, the entry moves and replaces what `dst` held; between two
names of one file nothing happens. Its error is a `LinkError` naming both paths. -/
def rename (w : CrudWorld) (src dst : String) : Except GoError Unit × CrudWorld :=
  match env.fault w.calls, w.entries (unix.clean src) with
  | some err, _ => (.error err, w.next)
  | none, none => (.error (notExist ("rename " ++ src) dst), w.next)
  | none, some node =>
    if w.sameFile src dst then (.ok (), w.next)
    else (.ok (), { w.next with
      entries := Function.update (Function.update w.entries (unix.clean src) none) (unix.clean dst) (some node) })

/-- `os.Open(path)`: the inode it opens. -/
def openFile (w : CrudWorld) (path : String) : Except GoError Nat × CrudWorld :=
  match env.fault w.calls, w.resolve (maxSymlinks + 1) path with
  | some err, _ => (.error err, w.next)
  | none, .inode i => (.ok i, w.next)
  | none, .missing _ => (.error (notExist "open" path), w.next)
  | none, .loop => (.error (tooManyLinks "open" path), w.next)

/-- `os.Create(path)`: the file it leads to, truncated, or a new empty file at the missing final
name. -/
def create (w : CrudWorld) (path : String) : Except GoError Nat × CrudWorld :=
  match env.fault w.calls, w.resolve (maxSymlinks + 1) path with
  | some err, _ => (.error err, w.next)
  | none, .inode i => (.ok i, { w.next with inodes := Function.update w.inodes i (some []) })
  | none, .missing final =>
    (.ok w.fresh, { w.next with
      entries := Function.update w.entries final (some (.file w.fresh))
      inodes := Function.update w.inodes w.fresh (some [])
      fresh := w.fresh + 1 })
  | none, .loop => (.error (tooManyLinks "open" path), w.next)

/-- `io.Copy(dstFile, srcFile)` into the truncated `target`: the contents of `source` as the file
now holds them, or the bytes written before an error. -/
def copy (w : CrudWorld) (source target : Nat) : Except GoError Unit × CrudWorld :=
  let data := (w.inodes source).getD []
  match env.fault w.calls with
  | some err =>
    (.error err, { w.next with inodes := Function.update w.inodes target (some (data.take (env.copied w.calls))) })
  | none => (.ok (), { w.next with inodes := Function.update w.inodes target (some data) })

/-- `os.Remove(path)`: the entry goes; a link is removed, not what it leads to. -/
def remove (w : CrudWorld) (path : String) : Except GoError Unit × CrudWorld :=
  match env.fault w.calls, w.entries (unix.clean path) with
  | some err, _ => (.error err, w.next)
  | none, none => (.error (notExist "remove" path), w.next)
  | none, some _ => (.ok (), { w.next with entries := Function.update w.entries (unix.clean path) none })

/-- `copyFile(src, dst)`. -/
def copyFile (w : CrudWorld) (src dst : String) : Except GoError Unit × CrudWorld :=
  match w.openFile env src with
  | (.error err, w) => (.error err, w)
  | (.ok source, w) =>
    match w.create env dst with
    | (.error err, w) => (.error err, w)
    | (.ok target, w) => w.copy env source target

/-- `copyAndDelete(src, dst)`. -/
def copyAndDelete (w : CrudWorld) (src dst : String) : Except GoError Unit × CrudWorld :=
  match w.copyFile env src dst with
  | (.error err, w) => (.error err, w)
  | (.ok (), w) => w.remove env src

/-- `Move(src, dst)`. -/
def move (w : CrudWorld) (src dst : String) : Except GoError Unit × CrudWorld :=
  match w.rename env src dst with
  | (.ok (), w) => (.ok (), w)
  | (.error _, w) => w.copyAndDelete env src dst

/-- `Delete(path)`. -/
def delete (w : CrudWorld) (path : String) : Except GoError Unit × CrudWorld := w.remove env path

/-! ## One call at a time -/

@[simp] theorem next_entries (w : CrudWorld) : w.next.entries = w.entries := rfl

@[simp] theorem next_inodes (w : CrudWorld) : w.next.inodes = w.inodes := rfl

@[simp] theorem next_fresh (w : CrudWorld) : w.next.fresh = w.fresh := rfl

@[simp] theorem next_calls (w : CrudWorld) : w.next.calls = w.calls + 1 := rfl

/-- Resolution reads the entries only. -/
private theorem resolve_congr {w w' : CrudWorld} (same : w'.entries = w.entries) (fuel : Nat) (path : String) :
    w'.resolve fuel path = w.resolve fuel path := by
  induction fuel generalizing path with
  | zero => rfl
  | succ fuel ih => simp only [resolve, same, ih]

variable {env} {w : CrudWorld} {src dst path : String} {i : Nat} {data : Bytes} {err : GoError}

private theorem resolve_file (fuel : Nat) (found : w.entries (unix.clean path) = some (.file i)) :
    w.resolve (fuel + 1) path = .inode i := by
  rw [resolve, found]

private theorem resolve_missing (fuel : Nat) (absent : w.entries (unix.clean path) = none) :
    w.resolve (fuel + 1) path = .missing (unix.clean path) := by
  rw [resolve, absent]

private theorem read_file (found : w.entries (unix.clean path) = some (.file i)) : w.read path = w.inodes i := by
  rw [read, resolve_file _ found]

private theorem rename_of_fault (failed : env.fault w.calls = some err) : w.rename env src dst = (.error err, w.next) := by
  rw [rename, failed]

private theorem openFile_of_inode (found : w.resolve (maxSymlinks + 1) path = .inode i) (fine : env.fault w.calls = none) :
    w.openFile env path = (.ok i, w.next) := by
  rw [openFile, fine, found]

private theorem create_of_inode (found : w.resolve (maxSymlinks + 1) path = .inode i) (fine : env.fault w.calls = none) :
    w.create env path = (.ok i, { w.next with inodes := Function.update w.inodes i (some []) }) := by
  rw [create, fine, found]

private theorem create_of_missing (absent : w.entries (unix.clean path) = none) (fine : env.fault w.calls = none) :
    w.create env path = (.ok w.fresh, { w.next with
      entries := Function.update w.entries (unix.clean path) (some (.file w.fresh))
      inodes := Function.update w.inodes w.fresh (some [])
      fresh := w.fresh + 1 }) := by
  rw [create, fine, resolve_missing _ absent]

private theorem copy_of_fault {target : Nat} (failed : env.fault w.calls = some err) :
    w.copy env i target = (.error err, { w.next with
      inodes := Function.update w.inodes target (some (((w.inodes i).getD []).take (env.copied w.calls))) }) := by
  rw [copy, failed]

private theorem copy_of_fine {target : Nat} (fine : env.fault w.calls = none) :
    w.copy env i target = (.ok (), { w.next with inodes := Function.update w.inodes target (some ((w.inodes i).getD [])) }) := by
  rw [copy, fine]

private theorem remove_of_fault (failed : env.fault w.calls = some err) : w.remove env path = (.error err, w.next) := by
  rw [remove, failed]

private theorem remove_of_present {node : Node} (present : w.entries (unix.clean path) = some node)
    (fine : env.fault w.calls = none) :
    w.remove env path = (.ok (), { w.next with entries := Function.update w.entries (unix.clean path) none }) := by
  rw [remove, fine, present]

/-! ## Two names of different files -/

/-- `src` is a regular file with inode `i`, and `dst` names a different file or none, under a
different name: after `Clean` the two paths differ, `dst` is not a link, and it is no hard link
to `i`. Every file's inode is below the next one a create gives. -/
structure Apart (w : CrudWorld) (src dst : String) (i : Nat) : Prop where
  source : w.entries (unix.clean src) = some (.file i)
  names : unix.clean src ≠ unix.clean dst
  target : w.entries (unix.clean dst) = none ∨ ∃ j, w.entries (unix.clean dst) = some (.file j) ∧ j ≠ i
  numbered : ∀ p k, w.entries p = some (.file k) → k < w.fresh

/-- What `copyFile` leaves when it gets as far as the create: `dst`'s entry is the file `t`,
which is `dst`'s own inode or a new one and not the source's, and holds `d`. -/
structure Placed (w w' : CrudWorld) (dst : String) (i t : Nat) (d : Bytes) : Prop where
  entries : w'.entries = Function.update w.entries (unix.clean dst) (some (.file t))
  inodes : w'.inodes = Function.update w.inodes t (some d)
  apart : t ≠ i
  own : w.entries (unix.clean dst) = some (.file t) ∨ w.fresh ≤ t

theorem Apart.next (apart : Apart w src dst i) : Apart w.next src dst i :=
  ⟨apart.source, apart.names, apart.target, apart.numbered⟩

/-- The create of `dst` truncates `dst`'s own inode or makes a new one; either way not the
source's. -/
private theorem create_apart (apart : Apart w src dst i) (fine : env.fault w.calls = none) :
    ∃ t w₁, w.create env dst = (.ok t, w₁) ∧ Placed w w₁ dst i t [] ∧ w₁.calls = w.calls + 1 := by
  rcases apart.target with absent | ⟨j, found, differs⟩
  · exact ⟨_, _, create_of_missing absent fine, ⟨rfl, rfl, Nat.ne_of_gt (apart.numbered _ _ apart.source),
      .inr le_rfl⟩, rfl⟩
  · refine ⟨_, _, create_of_inode (resolve_file _ found) fine, ⟨?_, rfl, differs, .inl found⟩, rfl⟩
    rw [← found, Function.update_eq_self]
    rfl

variable (env) in
/-- Once the open and the create have succeeded, `copyFile` is the copy from the source's inode
into the created file. -/
private theorem copyFile_of_created (apart : Apart w src dst i) (opened : env.fault w.calls = none)
    (created : env.fault (w.calls + 1) = none) :
    ∃ t w₁, Placed w w₁ dst i t [] ∧ w₁.calls = w.calls + 2 ∧ w.copyFile env src dst = w₁.copy env i t := by
  obtain ⟨t, w₁, made, placed, calls⟩ := create_apart apart.next created
  refine ⟨t, w₁, ⟨placed.entries, placed.inodes, placed.apart, placed.own⟩, calls, ?_⟩
  rw [copyFile, openFile_of_inode (resolve_file _ apart.source) opened]
  dsimp only
  rw [made]

variable (env) in
/-- A copy into the placed file fills it, or a prefix of it. -/
theorem Placed.copy {w₁ : CrudWorld} {t : Nat} (placed : Placed w w₁ dst i t []) :
    (∃ w', w₁.copy env i t = (.ok (), w') ∧ Placed w w' dst i t ((w.inodes i).getD []) ∧ w'.calls = w₁.calls + 1) ∨
      ∃ err w' k, w₁.copy env i t = (.error err, w') ∧ Placed w w' dst i t (((w.inodes i).getD []).take k) := by
  have source : w₁.inodes i = w.inodes i := by rw [placed.inodes, Function.update_noteq (Ne.symm placed.apart)]
  cases copied : env.fault w₁.calls with
  | some err =>
    rw [copy_of_fault copied]
    exact .inr ⟨err, _, env.copied w₁.calls, rfl, placed.entries, by simp [placed.inodes, source], placed.apart,
      placed.own⟩
  | none =>
    rw [copy_of_fine copied]
    exact .inl ⟨_, rfl, ⟨placed.entries, by simp [placed.inodes, source], placed.apart, placed.own⟩, rfl⟩

/-- After the create, `src`'s entry and contents are as they were, no entry but `dst`'s
changed, and no file's contents but `dst`'s own or a new file's. -/
private theorem Placed.frame {w' : CrudWorld} {t : Nat} {d : Bytes} (placed : Placed w w' dst i t d)
    (apart : Apart w src dst i) :
    w'.entries (unix.clean src) = some (.file i) ∧ w'.inodes i = w.inodes i ∧
      (∀ other, other ≠ unix.clean dst → w'.entries other = w.entries other) ∧
      ∀ k, w'.inodes k ≠ w.inodes k → w.entries (unix.clean dst) = some (.file k) ∨ w.fresh ≤ k := by
  refine ⟨by rw [placed.entries, Function.update_noteq apart.names, apart.source],
    by rw [placed.inodes, Function.update_noteq (Ne.symm placed.apart)],
    fun other differs => by rw [placed.entries, Function.update_noteq differs], fun k changed => ?_⟩
  by_cases same : k = t
  · exact same ▸ placed.own
  · rw [placed.inodes, Function.update_noteq same] at changed
    exact absurd rfl changed

/-! ## What `Move` keeps -/

/-- `/a` holding three bytes and `/b` holding one, two files. -/
def twoFiles : CrudWorld :=
  ⟨fun path => if path = "/a" then some (.file 0) else if path = "/b" then some (.file 1) else none,
    fun k => if k = 0 then some [1, 2, 3] else if k = 1 then some [9] else none, 2, 0⟩

/-- `/a` and `/b` on different devices, and a disk that fills up after one byte of the copy. -/
def crossDevice : CrudEnv where
  fault n :=
    if n = 0 then some (GoError.new "rename /a /b: invalid cross-device link")
    else if n = 3 then some (GoError.new "write /b: no space left on device") else none
  copied _ := 1

private theorem twoFiles_apart : Apart twoFiles "/a" "/b" 0 :=
  ⟨by decide, by decide, .inr ⟨1, by decide, by decide⟩, fun p k found => by
    simp only [twoFiles] at found
    split_ifs at found <;> cases found <;> decide⟩

/-- Once the rename has failed and the open and the create have succeeded, the destination holds
a prefix of the source's contents, whatever it held before and whether or not `Move` then
succeeds. -/
theorem move_overwrites (apart : Apart w src dst i) (held : w.inodes i = some data)
    (refused : env.fault w.calls ≠ none) (opened : env.fault (w.calls + 1) = none)
    (created : env.fault (w.calls + 2) = none) :
    ∃ k, (w.move env src dst).2.read dst = some (data.take k) := by
  obtain ⟨err, renamed⟩ := Option.ne_none_iff_exists'.mp refused
  rw [move, rename_of_fault renamed]
  dsimp only
  rw [copyAndDelete]
  obtain ⟨t, w₁, placed, -, copied⟩ := copyFile_of_created env apart.next opened created
  rw [copied]
  rcases placed.copy env with ⟨w', done, filled, -⟩ | ⟨err, w', k, failed, prefixed⟩
  · rw [done]
    dsimp only
    refine ⟨data.length, ?_⟩
    obtain ⟨source, -, -, -⟩ := filled.frame apart.next
    cases removed : env.fault w'.calls with
    | none =>
      rw [remove_of_present source removed, read_file (i := t)
        (by simp [Function.update_noteq (Ne.symm apart.names), filled.entries])]
      simp [filled.inodes, held]
    | some err =>
      rw [remove_of_fault removed, read_file (i := t) (by simp [filled.entries])]
      simp [filled.inodes, held]
  · rw [failed, read_file (i := t) (by simp [prefixed.entries])]
    exact ⟨k, by simp [prefixed.inodes, held]⟩

/-- The cross-device move fails at the copy and leaves `/b` with the one byte copied: its own
byte is gone. -/
theorem move_overwrites_crossDevice :
    (Apart twoFiles "/a" "/b" 0 ∧ twoFiles.inodes 0 = some [1, 2, 3] ∧ crossDevice.fault twoFiles.calls ≠ none ∧
        crossDevice.fault (twoFiles.calls + 1) = none ∧ crossDevice.fault (twoFiles.calls + 2) = none) ∧
      (∃ k, (twoFiles.move crossDevice "/a" "/b").2.read "/b" = some ([1, 2, 3].take k)) ∧
      (twoFiles.move crossDevice "/a" "/b").1 = .error (GoError.new "write /b: no space left on device") ∧
      (twoFiles.move crossDevice "/a" "/b").2.read "/b" = some [1] :=
  ⟨⟨twoFiles_apart, rfl, nofun, rfl, rfl⟩, move_overwrites twoFiles_apart rfl nofun rfl rfl, rfl, by decide⟩

/-! ## A destination that leads to the source -/

/-- When `dst` leads to the source's own file and the rename fails, the create truncates that
file through `dst` before the copy reads it: a `Move` whose later calls all succeed returns nil,
with `src` removed and the file it named empty. -/
theorem move_through_link_empties (present : w.entries (unix.clean src) = some (.file i))
    (linked : w.resolve (maxSymlinks + 1) dst = .inode i) (refused : env.fault w.calls ≠ none)
    (smooth : ∀ n, w.calls < n → env.fault n = none) :
    (w.move env src dst).1 = .ok () ∧ (w.move env src dst).2.entries (unix.clean src) = none ∧
      (w.move env src dst).2.inodes i = some [] := by
  obtain ⟨err, renamed⟩ := Option.ne_none_iff_exists'.mp refused
  rw [move, rename_of_fault renamed]
  dsimp only
  rw [copyAndDelete, copyFile, openFile_of_inode (w := w.next) (resolve_file _ present) (smooth _ (by simp only [next_calls]; omega))]
  dsimp only
  rw [create_of_inode (w := w.next.next) ((resolve_congr (rfl : w.next.next.entries = w.entries) _ _).trans linked)
    (smooth _ (by simp only [next_calls]; omega))]
  dsimp only
  rw [copy_of_fine (w := { w.next.next.next with inodes := Function.update w.next.next.inodes i (some []) })
    (smooth _ (by simp only [next_calls]; omega))]
  dsimp only
  have removable : ∀ {w' : CrudWorld}, w'.entries = w.entries → w'.entries (unix.clean src) = some (.file i) :=
    fun same => same ▸ present
  rw [remove_of_present (removable (by rfl)) (smooth _ (by simp only [next_calls]; omega))]
  simp

/-- `/a` holding three bytes, and on another device `/mnt/b`, a symbolic link to `/a`. -/
def linkedFiles : CrudWorld :=
  ⟨fun path => if path = "/a" then some (.file 0) else if path = "/mnt/b" then some (.symlink "/a") else none,
    fun k => if k = 0 then some [1, 2, 3] else none, 1, 0⟩

/-- The rename across devices fails; every later call succeeds. -/
def crossLink : CrudEnv where
  fault n := if n = 0 then some (GoError.new "rename /a /mnt/b: invalid cross-device link") else none
  copied _ := 0

/-- Moving `/a` to the link `/mnt/b` returns nil and loses the three bytes: `/a` is gone, its
file is empty, and `/mnt/b` leads nowhere. -/
theorem move_through_link_empties_crossLink :
    linkedFiles.read "/mnt/b" = some [1, 2, 3] ∧
      (linkedFiles.entries (unix.clean "/a") = some (.file 0) ∧
        linkedFiles.resolve (maxSymlinks + 1) "/mnt/b" = .inode 0 ∧ crossLink.fault linkedFiles.calls ≠ none ∧
        ∀ n, linkedFiles.calls < n → crossLink.fault n = none) ∧
      ((linkedFiles.move crossLink "/a" "/mnt/b").1 = .ok () ∧
        (linkedFiles.move crossLink "/a" "/mnt/b").2.entries (unix.clean "/a") = none ∧
        (linkedFiles.move crossLink "/a" "/mnt/b").2.inodes 0 = some []) ∧
      (linkedFiles.move crossLink "/a" "/mnt/b").2.read "/a" = none ∧
      (linkedFiles.move crossLink "/a" "/mnt/b").2.read "/mnt/b" = none :=
  have present : linkedFiles.entries (unix.clean "/a") = some (.file 0) := by decide
  have linked : linkedFiles.resolve (maxSymlinks + 1) "/mnt/b" = .inode 0 := by decide
  have smooth : ∀ n, linkedFiles.calls < n → crossLink.fault n = none := fun n later =>
    if_neg (Nat.pos_iff_ne_zero.mp later)
  ⟨by decide, ⟨present, linked, nofun, smooth⟩, move_through_link_empties present linked nofun smooth,
    by decide, by decide⟩

end CrudWorld

end FsTree

end EndpointAgent
