import EndpointAgent.Basic

/-!
# Directories on disk

A directory as the buffer sees it through `os.ReadDir`, `os.ReadFile`, `os.WriteFile`,
`os.Remove` and `filepath.Walk`. Entry names are unique; a subdirectory is kept only
through the bytes `filepath.Walk` finds beneath it, since no other call looks inside.
-/

set_option autoImplicit false

namespace EndpointAgent

/-- One entry of a directory listing. -/
inductive Entry where
  /-- A regular file: its bytes and its modification time (Unix nanoseconds). -/
  | file (data : Bytes) (modTime : Int)
  /-- A subdirectory; `walkSize` is the total size of the files `filepath.Walk` finds in it. -/
  | dir (walkSize : Nat)
  deriving DecidableEq, Repr

namespace Entry

/-- `os.DirEntry.IsDir`. -/
def isDir : Entry → Bool
  | .file _ _ => false
  | .dir _ => true

/-- The bytes a regular file holds; a subdirectory holds none directly. -/
def fileSize : Entry → Nat
  | .file data _ => data.length
  | .dir _ => 0

/-- What `filepath.Walk` adds for this entry and everything beneath it. -/
def walkSize : Entry → Nat
  | .file data _ => data.length
  | .dir size => size

end Entry

/-- A directory: its entries with pairwise distinct names. -/
structure Directory where
  entries : List (String × Entry)
  nodup : (entries.map Prod.fst).Nodup

namespace Directory

/-- The entry stored under `name`. -/
def entry? (d : Directory) (name : String) : Option Entry := d.entries.lookup name

/-- `os.Remove(name)` when it succeeds. -/
def remove (d : Directory) (name : String) : Directory where
  entries := d.entries.filter (·.1 != name)
  nodup := d.nodup.sublist ((List.filter_sublist _).map _)

/-- Store `entry` under `name`, replacing what was there. -/
def put (d : Directory) (name : String) (entry : Entry) : Directory where
  entries := (d.remove name).entries ++ [(name, entry)]
  nodup := by
    rw [List.map_append, List.nodup_append]
    refine ⟨(d.remove name).nodup, List.nodup_singleton _, ?_⟩
    simp [remove]

/-- `os.ReadDir`: the entries sorted by file name (names are distinct, so every sort
gives this order). -/
def readDir (d : Directory) : List (String × Entry) :=
  d.entries.insertionSort fun a b => a.1 ≤ b.1

/-- Total size of the regular files directly in the directory. -/
def fileBytes (d : Directory) : Nat := (d.entries.map fun entry => entry.2.fileSize).sum

/-- What `filepath.Walk` totals over the directory: subdirectories included. -/
def walkBytes (d : Directory) : Nat := (d.entries.map fun entry => entry.2.walkSize).sum

/-- The size of the regular file under `name`, or zero. -/
def fileSizeAt (d : Directory) (name : String) : Nat := ((d.entry? name).map Entry.fileSize).getD 0

theorem readDir_perm (d : Directory) : d.readDir.Perm d.entries := List.perm_insertionSort _ _

@[simp] theorem mem_readDir (d : Directory) (entry : String × Entry) :
    entry ∈ d.readDir ↔ entry ∈ d.entries := d.readDir_perm.mem_iff

private theorem sum_eq_sum_filter_add_lookup (entries : List (String × Entry)) (name : String)
    (size : Entry → Nat) (nodup : (entries.map Prod.fst).Nodup) :
    (entries.map fun entry => size entry.2).sum =
      ((entries.filter (·.1 != name)).map fun entry => size entry.2).sum +
        ((entries.lookup name).map size).getD 0 := by
  induction entries with
  | nil => simp
  | cons head rest ih =>
      obtain ⟨key, entry⟩ := head
      rw [List.map_cons, List.nodup_cons] at nodup
      by_cases same : key = name
      · subst same
        have kept : rest.filter (·.1 != key) = rest :=
          List.filter_eq_self.mpr fun other member => by
            have fresh : other.1 ≠ key := fun equal =>
              nodup.1 (List.mem_map.mpr ⟨other, member, equal⟩)
            simpa using fresh
        simp [kept, Nat.add_comm]
      · have differs : (name == key) = false := by simpa using Ne.symm same
        simp [List.filter_cons, same, List.lookup_cons, differs, ih nodup.2, Nat.add_assoc]

/-- Removing a name takes exactly its file's bytes out of the directory total. -/
theorem fileBytes_remove (d : Directory) (name : String) :
    d.fileBytes = (d.remove name).fileBytes + d.fileSizeAt name :=
  sum_eq_sum_filter_add_lookup d.entries name Entry.fileSize d.nodup

@[simp] theorem entry?_remove_self (d : Directory) (name : String) :
    (d.remove name).entry? name = none := by
  rw [entry?, List.lookup_eq_none_iff]
  intro entry member
  simpa [bne_iff_ne, ne_comm] using (List.mem_filter.mp member).2

private theorem lookup_filter_of_ne (entries : List (String × Entry)) {name other : String}
    (differs : other ≠ name) : (entries.filter (·.1 != name)).lookup other = entries.lookup other := by
  induction entries with
  | nil => rfl
  | cons head rest ih =>
      obtain ⟨key, entry⟩ := head
      by_cases same : key = name
      · subst same
        have skip : (other == key) = false := by simpa using differs
        simp [List.filter_cons, List.lookup_cons, skip, ih]
      · simp [List.filter_cons, same, List.lookup_cons, ih]

theorem entry?_remove_of_ne (d : Directory) {name other : String} (differs : other ≠ name) :
    (d.remove name).entry? other = d.entry? other :=
  lookup_filter_of_ne d.entries differs

@[simp] theorem entry?_put_self (d : Directory) (name : String) (entry : Entry) :
    (d.put name entry).entry? name = some entry := by
  have removed := d.entry?_remove_self name
  simp only [entry?] at removed
  simp [entry?, put, List.lookup_append, removed]

theorem entry?_put_of_ne (d : Directory) {name other : String} (entry : Entry)
    (differs : other ≠ name) : (d.put name entry).entry? other = d.entry? other := by
  have skip : (other == name) = false := by simpa using differs
  rw [← entry?_remove_of_ne d differs]
  simp [entry?, put, List.lookup_append, skip, List.lookup_cons]

@[simp] theorem fileSizeAt_remove_self (d : Directory) (name : String) :
    (d.remove name).fileSizeAt name = 0 := by
  simp [fileSizeAt]

theorem fileSizeAt_remove_of_ne (d : Directory) {name other : String} (differs : other ≠ name) :
    (d.remove name).fileSizeAt other = d.fileSizeAt other := by
  simp [fileSizeAt, entry?_remove_of_ne d differs]

@[simp] theorem mem_remove (d : Directory) (name : String) (entry : String × Entry) :
    entry ∈ (d.remove name).entries ↔ entry ∈ d.entries ∧ entry.1 ≠ name := by
  simp [remove]

private theorem lookup_of_mem (entries : List (String × Entry))
    (nodup : (entries.map Prod.fst).Nodup) {name : String} {entry : Entry}
    (member : (name, entry) ∈ entries) : entries.lookup name = some entry := by
  induction entries with
  | nil => cases member
  | cons head rest ih =>
      obtain ⟨key, value⟩ := head
      rw [List.map_cons, List.nodup_cons] at nodup
      rcases List.mem_cons.mp member with same | later
      · cases same; simp
      · have differs : name ≠ key := fun equal =>
          nodup.1 (List.mem_map.mpr ⟨_, later, equal⟩)
        have skip : (name == key) = false := by simpa using differs
        simp [List.lookup_cons, skip, ih nodup.2 later]

theorem mem_of_entry? (d : Directory) {name : String} {entry : Entry}
    (found : d.entry? name = some entry) : (name, entry) ∈ d.entries := by
  obtain ⟨before, after, split, -⟩ := List.lookup_eq_some_iff.mp found
  rw [split]
  exact List.mem_append_right _ (List.mem_cons_self _ _)

/-- A listed entry is what the directory holds under its name. -/
theorem entry?_of_mem (d : Directory) {name : String} {entry : Entry}
    (member : (name, entry) ∈ d.entries) : d.entry? name = some entry :=
  lookup_of_mem d.entries d.nodup member

end Directory

/-! ## Writing a file -/

/-- How one `os.WriteFile` call ends once its target is not a directory. -/
inductive WriteOutcome where
  /-- Every byte written and the file closed. -/
  | complete (modTime : Int)
  /-- `os.OpenFile` failed: nothing on disk changed. -/
  | openFails (err : GoError)
  /-- The file was created or truncated, then an error came after `written` bytes
  (a short write, or a failing `Close` once everything was written). -/
  | interrupted (written : Nat) (modTime : Int) (err : GoError)

namespace Directory

/-- `os.WriteFile(name, data, perm)`: `O_CREATE|O_TRUNC`, so an existing file of that
name is replaced; a directory of that name makes the open fail. -/
def writeFile (d : Directory) (name : String) (data : Bytes) (outcome : WriteOutcome) :
    Except GoError Unit × Directory :=
  match d.entry? name with
  | some (.dir _) => (.error (GoError.new ("open " ++ name ++ ": is a directory")), d)
  | _ =>
    match outcome with
    | .complete modTime => (.ok (), d.put name (.file data modTime))
    | .openFails err => (.error err, d)
    | .interrupted written modTime err => (.error err, d.put name (.file (data.take written) modTime))

/-- Every way `os.WriteFile` can end: an error with the directory unchanged, the whole
data stored, or an error after a prefix of the data was stored. -/
theorem writeFile_cases (d : Directory) (name : String) (data : Bytes) (outcome : WriteOutcome) :
    (∃ err, d.writeFile name data outcome = (.error err, d)) ∨
    (∃ modTime, outcome = .complete modTime ∧
      d.writeFile name data outcome = (.ok (), d.put name (.file data modTime))) ∨
    (∃ written modTime err, outcome = .interrupted written modTime err ∧
      d.writeFile name data outcome = (.error err, d.put name (.file (data.take written) modTime))) := by
  unfold writeFile
  split
  · exact .inl ⟨_, rfl⟩
  · cases outcome with
    | complete modTime => exact .inr (.inl ⟨modTime, rfl, rfl⟩)
    | openFails err => exact .inl ⟨err, rfl⟩
    | interrupted written modTime err => exact .inr (.inr ⟨written, modTime, err, rfl, rfl⟩)

theorem writeFile_complete (d : Directory) {name : String} (data : Bytes) (modTime : Int)
    (notDir : ∀ size, d.entry? name ≠ some (.dir size)) :
    d.writeFile name data (.complete modTime) = (.ok (), d.put name (.file data modTime)) := by
  unfold writeFile
  split
  · rename_i size found; exact absurd found (notDir size)
  · rfl

end Directory

end EndpointAgent
