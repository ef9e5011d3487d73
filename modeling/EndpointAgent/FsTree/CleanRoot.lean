import EndpointAgent.FsTree

/-!
# `BuildFSTree` from a clean root

When `Clean` leaves `root` as it is, `Dir` of each path the walk visits below it is the path of
the directory whose entries are being walked, and the map holds that directory's node under it:
every entry added to the map since is deeper. So `BuildFSTree` hangs every entry under its
directory's node, and read from the root by following `Children`, the nodes are the directory
tree: each node holds its entry's name, path and `Info`, and its children are the entries
`os.ReadDir` read, in order. An entry whose `Info` fails makes the walk function panic.

The one assumption is that `os.ReadDir` gives names that `Clean` keeps as one element
(`NamedBelow`). That the names in a directory differ is not needed: the map keeps the latest
assignment, and the walk visits a directory's entries right after the directory.
-/

set_option autoImplicit false

namespace EndpointAgent

namespace FsTree

open Filepath

/-- A node and the nodes below it, as a caller of `BuildFSTree` reads them by following
`Children` from the node returned. -/
inductive Tree where
  | node (name path : String) (isDir : Bool) (info : FileInfo) (children : List Tree)

/-- The tree read from the node at `index`, following `Children` at most `fuel` levels deep. -/
def readTree (nodes : List NodeRec) : Nat → Nat → Option Tree
  | 0, _ => none
  | fuel + 1, index => do
    let n ← nodes[index]?
    let children ← n.children.mapM (readTree nodes fuel)
    pure (.node n.name n.path n.isDir ⟨n.size, n.mode, n.modTime⟩ children)

mutual

/-- The tree of the entry `d` at `path`, as the file system holds it; `none` when the `Info` of
an entry in it fails. -/
def entryTree (path : String) : FsEntry → Option Tree
  | .file name info => info.map fun info => .node name path false info []
  | .dir name info entries _ => do
    let info ← info
    let children ← entriesTree path entries
    pure (.node name path true info children)

def entriesTree (path : String) : List FsEntry → Option (List Tree)
  | [] => some []
  | d :: rest => do
    let tree ← entryTree (unix.join [path, d.name]) d
    let trees ← entriesTree path rest
    pure (tree :: trees)

end

/-- The tree `BuildFSTree(root)` is meant to return: the root node, named `Base(root)` with a
zero `Size`, `Mode` and `ModTime`, over the entries of the root directory. -/
def rootTree (root : String) : FsEntry → Option Tree
  | .dir _ _ entries _ => (entriesTree root entries).map (.node (unix.base root) root true ⟨0, 0, 0⟩)
  | .file _ _ => some (.node (unix.base root) root true ⟨0, 0, 0⟩ [])

mutual

/-- Every entry below `d` has a name that `Clean` keeps as one element, as `os.ReadDir` gives
them: not empty, not `.` or `..`, and without a separator. -/
def FsEntry.NamedBelow : FsEntry → Prop
  | .file _ _ => True
  | .dir _ _ entries _ => NamedEntries entries

def NamedEntries : List FsEntry → Prop
  | [] => True
  | d :: rest => unix.IsName d.name.data ∧ d.NamedBelow ∧ NamedEntries rest

end

/-- How many elements `Clean` keeps of a path. -/
def depth (path : String) : Nat := (unix.elements path).2.length

private theorem depth_join_name (path : String) {name : String} (named : unix.IsName name.data) :
    depth (unix.join [path, name]) = depth path + 1 := by
  simp [depth, Separators.elements_join_name path named]

private theorem ne_of_depth_lt {path other : String} (deeper : depth other < depth path) : path ≠ other :=
  fun same => absurd deeper (same ▸ lt_irrefl _)

/-- The path the walk gives an entry of a clean directory is clean, one element deeper, and its
`Dir` is the directory. -/
private theorem entryPath {path name : String} (clean : unix.clean path = path) (named : unix.IsName name.data) :
    unix.clean (unix.join [path, name]) = unix.join [path, name] ∧ depth (unix.join [path, name]) = depth path + 1 ∧
      unix.dir (unix.join [path, name]) = path :=
  ⟨Separators.clean_join_name path named, depth_join_name path named, Separators.dir_join_name clean named⟩

/-- A map whose later assignments are all deeper than `path` finds what it found before. -/
private theorem lookup_deeper {path : String} {added : List (String × Nat)} (deeper : ∀ entry ∈ added, depth path < depth entry.1)
    (nodeMap : List (String × Nat)) : (added ++ nodeMap).lookup path = nodeMap.lookup path := by
  induction added with
  | nil => rfl
  | cons entry rest ih =>
    have differs : (path == entry.1) = false := beq_false_of_ne fun same => by
      have := deeper entry (List.mem_cons_self _ _)
      rw [same] at this
      omega
    rw [List.cons_append, List.lookup_cons, differs, ih fun e mem => deeper e (List.mem_cons_of_mem _ mem)]

/-! ## One visit -/

/-- A node with `added` appended to its children. -/
def NodeRec.addChildren (added : List Nat) (p : NodeRec) : NodeRec := { p with children := p.children ++ added }

private theorem NodeRec.addChildren_nil : NodeRec.addChildren [] = id := by
  funext p
  simp [NodeRec.addChildren]

private theorem NodeRec.addChildren_comp (first rest : List Nat) :
    NodeRec.addChildren rest ∘ NodeRec.addChildren first = NodeRec.addChildren (first ++ rest) := by
  funext p
  simp [NodeRec.addChildren]

private theorem modify_append_of_lt {α : Type} (f : α → α) {l : List α} {k : Nat} (lt : k < l.length) (r : List α) :
    (l ++ r).modify f k = l.modify f k ++ r := by
  induction l generalizing k with
  | nil => exact absurd lt (Nat.not_lt_zero _)
  | cons a l ih =>
    cases k with
    | zero => rfl
    | succ k => simp [ih (Nat.lt_of_succ_lt_succ lt)]

private theorem modify_append_length {α : Type} (f : α → α) {l : List α} {k : Nat} (length : l.length = k) (x : α)
    (r : List α) : (l ++ x :: r).modify f k = l ++ f x :: r := by
  subst length
  induction l with
  | nil => rfl
  | cons a l ih => simp [ih]

variable {root : String} {s : BuildState}

/-- The walk function attaches an entry whose directory's node it finds: a new node at the end,
its index appended to the parent's children, and for a directory the map pointing to it. -/
private theorem visit_attach {path : String} {d : FsEntry} {parent : Nat} {info : FileInfo} (notRoot : path ≠ root)
    (found : s.nodeMap.lookup (unix.dir path) = some parent) (known : d.info = some info) :
    visit root s (.entry path d) = some ⟨s.nodes.modify (NodeRec.addChildren [s.nodes.length]) parent ++
      [⟨d.name, path, d.isDir, info.size, info.mode, info.modTime, []⟩],
      if d.isDir then (path, s.nodes.length) :: s.nodeMap else s.nodeMap⟩ := by
  simp only [visit, if_neg notRoot, found, known]
  rfl

/-- The walk function panics on an entry whose directory's node it finds and whose `Info` fails. -/
private theorem visit_panic {path : String} {d : FsEntry} {parent : Nat} (notRoot : path ≠ root)
    (found : s.nodeMap.lookup (unix.dir path) = some parent) (missing : d.info = none) :
    visit root s (.entry path d) = none := by
  simp only [visit, if_neg notRoot, found, missing]

private theorem visitAll_append (s : BuildState) (xs ys : List Visit) :
    visitAll root s (xs ++ ys) = (visitAll root s xs).bind fun s => visitAll root s ys := by
  induction xs generalizing s with
  | nil => rfl
  | cons v rest ih => rw [List.cons_append, visitAll, visitAll, Option.bind_assoc]; simp only [ih]

/-- The second call for a directory that `os.ReadDir` could not read changes nothing. -/
private theorem visitAll_readDirError (s : BuildState) (path : String) (readDirError : Option GoError) :
    visitAll root s ((readDirError.map fun err => [Visit.error path err]).getD []) = some s := by
  cases readDirError <;> rfl

private theorem visit_root (s : BuildState) (d : FsEntry) : visit root s (.entry root d) = some s := by
  simp [visit]

/-- The visits of a directory whose node the walk function attaches: the directory's, then
those of its entries. -/
private theorem visitAll_walkDir_dir {path name : String} {info : FileInfo} {entries : List FsEntry}
    {readDirError : Option GoError} {parent : Nat} (notRoot : path ≠ root)
    (found : s.nodeMap.lookup (unix.dir path) = some parent) :
    visitAll root s (walkDir path (.dir name (some info) entries readDirError)) =
      visitAll root ⟨s.nodes.modify (NodeRec.addChildren [s.nodes.length]) parent ++
        [⟨name, path, true, info.size, info.mode, info.modTime, []⟩], (path, s.nodes.length) :: s.nodeMap⟩
        (walkEntries path entries) := by
  rw [walkDir, visitAll, visit_attach (d := .dir name (some info) entries readDirError) notRoot found rfl,
    Option.some_bind, visitAll_append, visitAll_readDirError, Option.some_bind]
  rfl

/-! ## Reading the nodes back -/

/-- `nodes`, placed at `index` of any node list, read as `tree`. -/
def Holds (nodes : List NodeRec) (index : Nat) (tree : Tree) : Prop :=
  ∀ all fuel, nodes <+: all.drop index → nodes.length ≤ fuel → readTree all fuel index = some tree

/-- `nodes`, placed at `index` of any node list, read as `trees` from the nodes `children`. -/
def HoldsAll (nodes : List NodeRec) (index : Nat) (children : List Nat) (trees : List Tree) : Prop :=
  ∀ all fuel, nodes <+: all.drop index → nodes.length ≤ fuel → children.mapM (readTree all fuel) = some trees

private theorem prefix_drop_append {α : Type} (xs : List α) {ys all : List α} {index : Nat} (fits : xs ++ ys <+: all.drop index) :
    ys <+: all.drop (index + xs.length) := by
  obtain ⟨rest, split⟩ := fits
  rw [← List.drop_drop, ← split, List.append_assoc, List.drop_left]
  exact List.prefix_append _ _

private theorem holds_node {name path : String} {isDir : Bool} {info : FileInfo} {children : List Nat}
    {nodes : List NodeRec} {index : Nat} {trees : List Tree} (below : HoldsAll nodes (index + 1) children trees) :
    Holds (⟨name, path, isDir, info.size, info.mode, info.modTime, children⟩ :: nodes) index
      (.node name path isDir info trees) := by
  intro all fuel fits long
  rw [List.length_cons] at long
  obtain ⟨fuel, rfl⟩ : ∃ f, fuel = f + 1 := ⟨fuel - 1, by omega⟩
  have here : all[index]? = some ⟨name, path, isDir, info.size, info.mode, info.modTime, children⟩ := by
    obtain ⟨rest, split⟩ := fits
    rw [← List.head?_drop, ← split]
    rfl
  have read := below all fuel (prefix_drop_append [_] fits) (by omega)
  simp only [readTree, here, Option.bind_eq_bind, Option.some_bind, read]
  rfl

private theorem holdsAll_nil (index : Nat) : HoldsAll [] index [] [] := fun _ _ _ _ => rfl

private theorem holdsAll_cons {nodes rest : List NodeRec} {index : Nat} {tree : Tree} {children : List Nat}
    {trees : List Tree} (first : Holds nodes index tree) (others : HoldsAll rest (index + nodes.length) children trees) :
    HoldsAll (nodes ++ rest) index (index :: children) (tree :: trees) := by
  intro all fuel fits long
  rw [List.length_append] at long
  rw [List.mapM_cons, first all fuel ((List.prefix_append _ _).trans fits) (by omega),
    others all fuel (prefix_drop_append nodes fits) (by omega)]
  rfl

/-! ## The walk below a clean directory -/

mutual

/-- The visits of an entry whose directory's node is `parent` attach it there and every entry
below it under its own directory's node: the nodes they add read as the entry's tree, and the
paths they add to the map are no shallower than the entry's. -/
private theorem visitAll_walkDir (s : BuildState) {path : String} {parent : Nat} {tree : Tree} :
    (d : FsEntry) → unix.clean path = path → depth root < depth path →
    s.nodeMap.lookup (unix.dir path) = some parent → parent < s.nodes.length → d.NamedBelow →
    entryTree path d = some tree →
    ∃ nodes added, visitAll root s (walkDir path d) =
        some ⟨s.nodes.modify (NodeRec.addChildren [s.nodes.length]) parent ++ nodes, added ++ s.nodeMap⟩ ∧
      (∀ entry ∈ added, depth path ≤ depth entry.1) ∧ Holds nodes s.nodes.length tree
  | .file name info, _, deeper, found, _, _, built => by
    obtain ⟨info, rfl, rfl⟩ := Option.map_eq_some'.mp built
    refine ⟨_, [], ?_, nofun, holds_node (holdsAll_nil _)⟩
    rw [walkDir, visitAll, visit_attach (d := .file name (some info)) (ne_of_depth_lt deeper) found rfl]
    rfl
  | .dir name info entries readDirError, clean, deeper, found, inList, named, built => by
    simp only [entryTree, Option.bind_eq_bind, Option.bind_eq_some, Option.pure_def, Option.some.injEq] at built
    obtain ⟨info, rfl, trees, listed, rfl⟩ := built
    obtain ⟨children, nodes, added, walked, deeperAdded, holds⟩ := visitAll_walkEntries
      ⟨s.nodes.modify (NodeRec.addChildren [s.nodes.length]) parent ++
        [⟨name, path, true, info.size, info.mode, info.modTime, []⟩], (path, s.nodes.length) :: s.nodeMap⟩
      entries clean deeper.le
      (show ((path, s.nodes.length) :: s.nodeMap).lookup path = some s.nodes.length by simp [List.lookup_cons])
      (by simp) named listed
    refine ⟨⟨name, path, true, info.size, info.mode, info.modTime, children⟩ :: nodes, added ++ [(path, s.nodes.length)],
      ?_, ?_, holds_node (by simpa using holds)⟩
    · rw [visitAll_walkDir_dir (ne_of_depth_lt deeper) found, walked, modify_append_length _ (List.length_modify _ _ _)]
      simp only [List.append_assoc, List.singleton_append]
      rfl
    · intro entry mem
      rcases List.mem_append.mp mem with below | self
      · exact (deeperAdded entry below).le
      · rw [List.mem_singleton.mp self]

/-- The visits of a clean directory's entries, with the directory's node `index`, attach each
entry and everything below it: the nodes they add read as the entries' trees from the children
appended to `index`, and the paths they add to the map are deeper than the directory's. -/
private theorem visitAll_walkEntries (s : BuildState) {path : String} {index : Nat} {trees : List Tree} :
    (entries : List FsEntry) → unix.clean path = path → depth root ≤ depth path →
    s.nodeMap.lookup path = some index → index < s.nodes.length → NamedEntries entries →
    entriesTree path entries = some trees →
    ∃ children nodes added, visitAll root s (walkEntries path entries) =
        some ⟨s.nodes.modify (NodeRec.addChildren children) index ++ nodes, added ++ s.nodeMap⟩ ∧
      (∀ entry ∈ added, depth path < depth entry.1) ∧ HoldsAll nodes s.nodes.length children trees
  | [], _, _, _, _, _, built => by
    cases built
    exact ⟨[], [], [], by simp [walkEntries, visitAll, NodeRec.addChildren_nil], nofun, holdsAll_nil _⟩
  | d :: rest, clean, deeper, found, inList, named, built => by
    obtain ⟨isName, namedBelow, namedRest⟩ := named
    simp only [entriesTree, Option.bind_eq_bind, Option.bind_eq_some, Option.pure_def, Option.some.injEq] at built
    obtain ⟨tree, first, trees, others, rfl⟩ := built
    obtain ⟨childClean, childDepth, childDir⟩ := entryPath clean isName
    have childDeeper : depth root < depth (unix.join [path, d.name]) := by omega
    obtain ⟨sub, added₁, walked₁, deeper₁, holds₁⟩ := visitAll_walkDir s d childClean childDeeper
      (by rw [childDir, found]) inList namedBelow first
    have found₂ : (added₁ ++ s.nodeMap).lookup path = some index := by
      rw [lookup_deeper (fun entry mem => by have := deeper₁ entry mem; omega), found]
    obtain ⟨children, nodes, added₂, walked₂, deeper₂, holds₂⟩ := visitAll_walkEntries
      ⟨s.nodes.modify (NodeRec.addChildren [s.nodes.length]) index ++ sub, added₁ ++ s.nodeMap⟩ rest clean deeper
      found₂ (by simp; omega) namedRest others
    refine ⟨s.nodes.length :: children, sub ++ nodes, added₂ ++ added₁, ?_, ?_,
      holdsAll_cons holds₁ (by simpa [Nat.add_comm] using holds₂)⟩
    · rw [walkEntries, visitAll_append, walked₁, Option.some_bind, walked₂,
        modify_append_of_lt _ (by simpa using inList), List.modify_modify_eq, NodeRec.addChildren_comp]
      simp only [List.append_assoc, List.singleton_append]
    · intro entry mem
      rcases List.mem_append.mp mem with later | earlier
      · exact deeper₂ entry later
      · have := deeper₁ entry earlier
        omega

end

mutual

/-- The visits of an entry below which an `Info` fails end in the panic. -/
private theorem visitAll_walkDir_panics (s : BuildState) {path : String} {parent : Nat} :
    (d : FsEntry) → unix.clean path = path → depth root < depth path →
    s.nodeMap.lookup (unix.dir path) = some parent → parent < s.nodes.length → d.NamedBelow →
    entryTree path d = none → visitAll root s (walkDir path d) = none
  | .file name info, _, deeper, found, _, _, missing => by
    obtain rfl : info = none := Option.map_eq_none'.mp missing
    rw [walkDir, visitAll, visit_panic (d := .file name none) (ne_of_depth_lt deeper) found rfl, Option.none_bind]
  | .dir name none entries readDirError, _, deeper, found, _, _, _ => by
    rw [walkDir, visitAll, visit_panic (d := .dir name none entries readDirError) (ne_of_depth_lt deeper) found rfl,
      Option.none_bind]
  | .dir name (some info) entries readDirError, clean, deeper, found, _, named, missing => by
    have listed : entriesTree path entries = none :=
      Option.eq_none_iff_forall_not_mem.mpr (by simpa [entryTree] using missing)
    rw [visitAll_walkDir_dir (ne_of_depth_lt deeper) found]
    exact visitAll_walkEntries_panics _ entries clean deeper.le
      (show ((path, s.nodes.length) :: s.nodeMap).lookup path = some s.nodes.length by simp [List.lookup_cons])
      (by simp) named listed

/-- The visits of a clean directory's entries, below one of which an `Info` fails, end in the
panic. -/
private theorem visitAll_walkEntries_panics (s : BuildState) {path : String} {index : Nat} :
    (entries : List FsEntry) → unix.clean path = path → depth root ≤ depth path →
    s.nodeMap.lookup path = some index → index < s.nodes.length → NamedEntries entries →
    entriesTree path entries = none → visitAll root s (walkEntries path entries) = none
  | [], _, _, _, _, _, missing => by cases missing
  | d :: rest, clean, deeper, found, inList, named, missing => by
    obtain ⟨isName, namedBelow, namedRest⟩ := named
    obtain ⟨childClean, childDepth, childDir⟩ := entryPath clean isName
    have childDeeper : depth root < depth (unix.join [path, d.name]) := by omega
    have childFound : s.nodeMap.lookup (unix.dir (unix.join [path, d.name])) = some index := by rw [childDir, found]
    rw [walkEntries, visitAll_append]
    cases first : entryTree (unix.join [path, d.name]) d with
    | none =>
      rw [visitAll_walkDir_panics s d childClean childDeeper childFound inList namedBelow first, Option.none_bind]
    | some tree =>
      have others : entriesTree path rest = none :=
        Option.eq_none_iff_forall_not_mem.mpr (by simpa [entriesTree, first] using missing)
      obtain ⟨sub, added, walked, deeperAdded, -⟩ := visitAll_walkDir s d childClean childDeeper childFound inList
        namedBelow first
      have found₂ : (added ++ s.nodeMap).lookup path = some index := by
        rw [lookup_deeper (fun entry mem => show depth path < _ by have := deeperAdded entry mem; omega), found]
      rw [walked, Option.some_bind]
      exact visitAll_walkEntries_panics _ rest clean deeper found₂ (by simp; omega) namedRest others

end

/-! ## `BuildFSTree` -/

/-- From a root that `Clean` leaves as it is, with names as `os.ReadDir` gives them,
`BuildFSTree` returns nodes that, read from the root by following `Children`, are the directory
tree when every entry's `Info` succeeds; when one fails, the walk function panics. -/
theorem buildFSTree_clean_root (root : String) (clean : unix.clean root = root) (d : FsEntry) (named : d.NamedBelow) :
    (∀ tree, rootTree root d = some tree →
      ∃ nodes, buildFSTree root (.ok d) = .returned nodes ∧ readTree nodes nodes.length 0 = some tree) ∧
    (rootTree root d = none → buildFSTree root (.ok d) = .panicked) := by
  cases d with
  | file name info =>
    refine ⟨fun tree built => ?_, nofun⟩
    cases built
    exact ⟨(start root).nodes, by rw [buildFSTree, walk, walkDir, visitAll, visit_root, Option.some_bind, visitAll], rfl⟩
  | dir name info entries readDirError =>
    have started : visitAll root (start root) (walk root (.ok (.dir name info entries readDirError))) =
        visitAll root (start root) (walkEntries root entries) := by
      rw [walk, walkDir, visitAll, visit_root, Option.some_bind, visitAll_append, visitAll_readDirError, Option.some_bind]
    have found : (start root).nodeMap.lookup root = some 0 := by simp [start, List.lookup_cons]
    refine ⟨fun tree built => ?_, fun missing => ?_⟩
    · obtain ⟨trees, listed, rfl⟩ := Option.map_eq_some'.mp built
      obtain ⟨children, nodes, added, walked, -, holds⟩ :=
        visitAll_walkEntries (start root) entries clean le_rfl found (by simp [start]) named listed
      refine ⟨_, by rw [buildFSTree, started, walked], ?_⟩
      exact holds_node holds _ _ (by simp [start, NodeRec.addChildren]) (by simp [start])
    · rw [buildFSTree, started, visitAll_walkEntries_panics (start root) entries clean le_rfl found (by simp [start])
        named (Option.map_eq_none'.mp missing)]

/-- `/tmp` holding the file `a`: `BuildFSTree("/tmp")` returns the root over the node of
`/tmp/a`, and when `a` is gone before its `Info` call, the walk function panics. -/
theorem buildFSTree_clean_root_tmp :
    (∃ nodes, buildFSTree "/tmp" (.ok (tmpWithFile (some ⟨1, 420, 0⟩))) = .returned nodes ∧
      readTree nodes nodes.length 0 =
        some (.node "tmp" "/tmp" true ⟨0, 0, 0⟩ [.node "a" "/tmp/a" false ⟨1, 420, 0⟩ []])) ∧
      buildFSTree "/tmp" (.ok (tmpWithFile none)) = .panicked := by
  have aName : unix.IsName "a".data := ⟨by decide, by decide, by decide, by decide⟩
  have named : ∀ info, (tmpWithFile info).NamedBelow := fun _ => ⟨aName, trivial, trivial⟩
  exact ⟨(buildFSTree_clean_root "/tmp" (by decide) _ (named _)).1 _ rfl,
    (buildFSTree_clean_root "/tmp" (by decide) _ (named none)).2 rfl⟩

end FsTree

end EndpointAgent
