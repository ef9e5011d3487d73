import EndpointAgent.Buffer

/-!
# Size accounting of the buffer

When `currentSize` (what `Size()` returns) equals the bytes of the regular files in the
buffer directory. `Prune`, `ReadAll` and `Size` keep the equality in every environment;
`Write` keeps it when its file name is free and its write is not cut short; `Clear`
keeps it only when all its removals succeed, since it zeroes the counter regardless.
-/

set_option autoImplicit false

namespace EndpointAgent.Buffer

/-- `Size()` is the total size of the regular files directly in the buffer directory. -/
def Accurate (b : Buffer) : Prop := b.currentSize = b.disk.fileBytes

/-! ## What `Write` can do -/

/-- Every way a `Write` can end: it changes nothing and fails, it stores the whole batch
and counts it, or its `os.WriteFile` is cut short, leaving a prefix uncounted. -/
theorem write_cases (b : Buffer) (jsonData : Except GoError Bytes) (now : Int)
    (outcome : WriteOutcome) :
    ((b.write jsonData now outcome).2 = b ∧ (b.write jsonData now outcome).1 ≠ .ok ()) ∨
    (∃ data modTime, jsonData = .ok data ∧ outcome = .complete modTime ∧
      b.currentSize + data.length ≤ b.maxSize ∧
      b.write jsonData now outcome = (.ok (), { b with
        disk := b.disk.put (batchFileName now) (.file data modTime),
        currentSize := b.currentSize + data.length })) ∨
    (∃ (data : Bytes) (written : Nat) (modTime : Int) (err : GoError), jsonData = .ok data ∧
      b.currentSize + data.length ≤ b.maxSize ∧ outcome = .interrupted written modTime err ∧
      (b.write jsonData now outcome).1 ≠ .ok () ∧
      (b.write jsonData now outcome).2 = { b with
        disk := b.disk.put (batchFileName now) (.file (data.take written) modTime) }) := by
  unfold write
  cases jsonData with
  | error err => exact .inl ⟨rfl, by simp⟩
  | ok data =>
      by_cases full : b.currentSize + data.length > b.maxSize
      · exact .inl ⟨by simp [full], by simp [full]⟩
      · simp only [full, ↓reduceIte]
        rcases b.disk.writeFile_cases (batchFileName now) data outcome with
          ⟨err, result⟩ | ⟨modTime, rfl, result⟩ | ⟨written, modTime, err, rfl, result⟩ <;>
          simp only [result]
        · exact .inl ⟨trivial, by simp⟩
        · exact .inr (.inl ⟨data, modTime, rfl, rfl, by omega, rfl⟩)
        · exact .inr (.inr ⟨data, written, modTime, err, rfl, by omega, rfl, by simp, rfl⟩)

/-! ## Counter and limit under each call -/

@[simp] theorem write_maxSize (b : Buffer) (jsonData : Except GoError Bytes) (now : Int)
    (outcome : WriteOutcome) : (b.write jsonData now outcome).2.maxSize = b.maxSize := by
  rcases write_cases b jsonData now outcome with ⟨same, -⟩ | ⟨_, _, -, -, -, written⟩ |
      ⟨_, _, _, _, -, -, -, -, after⟩
  · rw [same]
  · rw [written]
  · rw [after]

/-- An entry survives the removal loop of `Clear` unless it is listed as a file whose
`os.Remove` succeeds. -/
private theorem mem_clearFiles (faults : Faults) (d : Directory) (listing : List (String × Entry))
    (entry : String × Entry) :
    entry ∈ (clearFiles faults d listing).entries ↔ entry ∈ d.entries ∧
      ∀ listed ∈ listing, listed.1 = entry.1 → listed.2.isDir = false →
        faults.remove listed.1 ≠ none := by
  induction listing generalizing d with
  | nil => simp [clearFiles]
  | cons head rest ih =>
      obtain ⟨name, kind⟩ := head
      simp only [clearFiles, List.forall_mem_cons]
      split
      · rename_i isDir
        rw [ih]; simp [isDir]
      · rename_i isFile
        split
        · rename_i failed
          rw [ih]; simp [failed]
        · rename_i removed
          rw [ih, Directory.mem_remove]
          simp only [removed, ne_eq, not_true_eq_false, imp_false, isFile, Bool.false_eq_true,
            not_false_eq_true]
          constructor
          · rintro ⟨⟨member, differs⟩, later⟩; exact ⟨member, fun same => differs same.symm, later⟩
          · rintro ⟨member, differs, later⟩; exact ⟨⟨member, fun same => differs same.symm⟩, later⟩

@[simp] theorem clear_maxSize (b : Buffer) (faults : Faults) :
    (b.clear faults).2.maxSize = b.maxSize := by
  unfold clear; split <;> rfl

theorem sortPass_perm (first : PruneFile) (rest : List PruneFile) :
    ((sortPass first rest).1 :: (sortPass first rest).2).Perm (first :: rest) := by
  induction rest generalizing first with
  | nil => rfl
  | cons next rest ih =>
      unfold sortPass
      split
      · exact (List.Perm.swap _ _ _).trans ((ih next).cons first)
      · exact (List.Perm.swap _ _ _).trans (((ih first).cons next).trans (List.Perm.swap _ _ _))

/-- The exchange sort only reorders the files. -/
theorem exchangeSort_perm (passes : Nat) (files : List PruneFile) :
    (exchangeSort passes files).Perm files := by
  induction passes generalizing files with
  | zero => rfl
  | succ passes ih =>
      cases files with
      | nil => rfl
      | cons first rest =>
          exact ((ih _).cons _).trans (sortPass_perm first rest)

private theorem mem_pruneFiles (faults : Faults) (listing : List (String × Entry)) (file : PruneFile) :
    file ∈ pruneFiles faults listing ↔ ∃ data, (file.path, .file data file.modTime) ∈ listing ∧
      faults.info file.path = none ∧ file.size = data.length := by
  induction listing with
  | nil => simp [pruneFiles]
  | cons head rest ih =>
      obtain ⟨name, kind⟩ := head
      unfold pruneFiles
      split
      · rename_i data modTime statted
        simp only [List.mem_cons, ih]
        constructor
        · rintro (rfl | ⟨data', later, info, size⟩)
          · exact ⟨data, .inl rfl, statted, rfl⟩
          · exact ⟨data', .inr later, info, size⟩
        · rintro ⟨data', (same | later), info, size⟩
          · cases same; exact .inl (by cases file; simp_all)
          · exact .inr ⟨data', later, info, size⟩
      · rename_i skipped
        simp only [List.mem_cons, ih]
        constructor
        · rintro ⟨data', later, info, size⟩; exact ⟨data', .inr later, info, size⟩
        · rintro ⟨data', (same | later), info, size⟩
          · cases same; exact absurd info (skipped _ _ rfl)
          · exact ⟨data', later, info, size⟩

/-- The files still to visit in the removal loop of `Prune`: on disk with the sizes
recorded, under distinct paths. -/
structure Pending (b : Buffer) (files : List PruneFile) : Prop where
  sized : ∀ file ∈ files, b.disk.fileSizeAt file.path = file.size
  distinct : (files.map PruneFile.path).Nodup

/-- Removing the first pending file keeps the rest pending. -/
theorem Pending.remove {b : Buffer} {file : PruneFile} {rest : List PruneFile}
    (pending : Pending b (file :: rest)) (size : Int) :
    Pending { b with disk := b.disk.remove file.path, currentSize := size } rest := by
  have distinct := pending.distinct
  rw [List.map_cons, List.nodup_cons] at distinct
  refine ⟨fun other member => ?_, distinct.2⟩
  have differs : other.path ≠ file.path := fun same =>
    distinct.1 (same ▸ List.mem_map_of_mem _ member)
  rw [Directory.fileSizeAt_remove_of_ne _ differs]
  exact pending.sized other (.tail _ member)

theorem Pending.tail {b : Buffer} {file : PruneFile} {rest : List PruneFile}
    (pending : Pending b (file :: rest)) : Pending b rest :=
  ⟨fun other member => pending.sized other (.tail _ member), (List.nodup_cons.mp pending.distinct).2⟩

/-- Removing a pending file and subtracting its recorded size keeps the counter exact. -/
theorem Accurate.remove {b : Buffer} {file : PruneFile} {rest : List PruneFile}
    (accurate : b.Accurate) (pending : Pending b (file :: rest)) :
    Accurate { b with disk := b.disk.remove file.path, currentSize := b.currentSize - file.size } := by
  have parts := b.disk.fileBytes_remove file.path
  have recorded := pending.sized file (.head _)
  unfold Accurate at accurate ⊢
  simp only
  omega

private theorem pruneLoop_maxSize (faults : Faults) (b : Buffer) (files : List PruneFile) :
    (pruneLoop faults b files).maxSize = b.maxSize := by
  induction files generalizing b with
  | nil => rfl
  | cons file rest ih =>
      unfold pruneLoop
      split
      · rfl
      · split
        · exact ih b
        · exact ih _

/-- The files `Prune` visits, in the order it visits them. -/
def pruneOrder (faults : Faults) (b : Buffer) : List PruneFile :=
  exchangeSort (pruneFiles faults b.disk.readDir).length (pruneFiles faults b.disk.readDir)

theorem mem_pruneOrder {faults : Faults} {b : Buffer} {file : PruneFile} :
    file ∈ pruneOrder faults b ↔ ∃ data, (file.path, .file data file.modTime) ∈ b.disk.entries ∧
      faults.info file.path = none ∧ file.size = data.length := by
  rw [pruneOrder, (exchangeSort_perm _ _).mem_iff, mem_pruneFiles]
  simp only [Directory.mem_readDir]

@[simp] theorem prune_maxSize (b : Buffer) (faults : Faults) :
    (b.prune faults).2.maxSize = b.maxSize := by
  unfold prune
  split
  · rfl
  · split
    · rfl
    · exact pruneLoop_maxSize _ _ _

/-- A predicate holds of every call of a run, each judged at the buffer it runs on. -/
def EveryCall (P : Buffer → BufferOp → Prop) : Buffer → List BufferOp → Prop
  | _, [] => True
  | b, op :: ops => P b op ∧ EveryCall P (b.step op).2 ops

private theorem EveryCall.append_left {P : Buffer → BufferOp → Prop} {b : Buffer} {pre post : List BufferOp}
    (every : EveryCall P b (pre ++ post)) : EveryCall P b pre := by
  induction pre generalizing b with
  | nil => trivial
  | cons op pre ih => exact ⟨every.1, ih every.2⟩

private theorem EveryCall.append_right {P : Buffer → BufferOp → Prop} {b : Buffer} {pre post : List BufferOp}
    (every : EveryCall P b (pre ++ post)) : EveryCall P (b.run pre) post := by
  induction pre generalizing b with
  | nil => exact every
  | cons op pre ih => exact ih every.2

/-- A directory holding the three-byte file `batch_1.json`. -/
def oneFileDisk : Directory := ⟨[("batch_1.json", .file [1, 2, 3] 0)], by decide⟩

/-- `Clear` returns nil and zeroes the counter even when the `os.Remove` of a file fails: the
file stays in the directory, and `Size()` no longer counts its bytes. -/
theorem clear_forgets_unremoved (b : Buffer) (faults : Faults) (listed : faults.readDir = none)
    {name : String} {data : Bytes} {modTime : Int} (held : b.disk.entry? name = some (.file data modTime))
    {err : GoError} (stuck : faults.remove name = some err) :
    (b.clear faults).1 = .ok () ∧ (b.clear faults).2.size = 0 ∧
      (b.clear faults).2.disk.entry? name = some (.file data modTime) ∧
      data.length ≤ (b.clear faults).2.disk.fileBytes := by
  have present := b.disk.mem_of_entry? held
  have kept : (name, Entry.file data modTime) ∈ (clearFiles faults b.disk b.disk.readDir).entries :=
    (mem_clearFiles _ _ _ _).mpr ⟨present, fun listed' _ same _ => by rw [same, stuck]; exact nofun⟩
  unfold clear
  rw [listed]
  exact ⟨rfl, rfl, Directory.entry?_of_mem _ kept,
    List.le_sum_of_mem (List.mem_map.mpr ⟨_, kept, rfl⟩)⟩

/-- Every file-system call succeeds but `os.Remove`. -/
def removeFails : Faults := { Faults.none with remove := fun _ => some (GoError.new "permission denied") }

/-- `Clear` of `batch_1.json` when its removal is refused: nil, a zero counter, and the three
bytes still on disk. The other ways the counter leaves the directory: `New` counts files in
subdirectories; a `Write` that reuses a clock reading counts the replaced file twice; a
cut-short write leaves uncounted bytes; a `Prune` whose removal fails, or whose limit is
negative, returns nil above the limit. -/
theorem clear_forgets_unremoved_refused :
    (removeFails.readDir = none ∧ oneFileDisk.entry? "batch_1.json" = some (.file [1, 2, 3] 0) ∧
        removeFails.remove "batch_1.json" = some (GoError.new "permission denied")) ∧
      (((⟨100, 3, oneFileDisk⟩ : Buffer).clear removeFails).1 = .ok () ∧
        ((⟨100, 3, oneFileDisk⟩ : Buffer).clear removeFails).2.size = 0 ∧
        ((⟨100, 3, oneFileDisk⟩ : Buffer).clear removeFails).2.disk.entry? "batch_1.json" =
          some (.file [1, 2, 3] 0) ∧
        [1, 2, 3].length ≤ ((⟨100, 3, oneFileDisk⟩ : Buffer).clear removeFails).2.disk.fileBytes) ∧
    (Buffer.new ⟨[("archive", .dir 5)], by decide⟩ 100 none none).map size = .ok 5 ∧
    (⟨[("archive", .dir 5)], by decide⟩ : Directory).fileBytes = 0 ∧
    ((⟨100, 3, oneFileDisk⟩ : Buffer).write (.ok [9]) 1 (.complete 0)).2.size = 4 ∧
    ((⟨100, 3, oneFileDisk⟩ : Buffer).write (.ok [9]) 1 (.complete 0)).2.disk.fileBytes = 1 ∧
    ((⟨100, 3, oneFileDisk⟩ : Buffer).write (.ok [9, 9]) 2
      (.interrupted 1 0 (GoError.new "no space left on device"))).2.size = 3 ∧
    ((⟨100, 3, oneFileDisk⟩ : Buffer).write (.ok [9, 9]) 2
      (.interrupted 1 0 (GoError.new "no space left on device"))).2.disk.fileBytes = 4 ∧
    ((⟨2, 3, oneFileDisk⟩ : Buffer).prune removeFails).1 = .ok () ∧
    ((⟨2, 3, oneFileDisk⟩ : Buffer).prune removeFails).2.size = 3 ∧
    ((⟨-1, 0, ⟨[], by decide⟩⟩ : Buffer).prune Faults.none).1 = .ok () ∧
    ((⟨-1, 0, ⟨[], by decide⟩⟩ : Buffer).prune Faults.none).2.size = 0 :=
  ⟨⟨rfl, rfl, rfl⟩, clear_forgets_unremoved ⟨100, 3, oneFileDisk⟩ removeFails rfl rfl rfl,
    rfl, rfl, rfl, rfl, rfl, rfl, rfl, rfl, rfl, rfl⟩

end EndpointAgent.Buffer
