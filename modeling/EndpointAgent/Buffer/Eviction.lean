import EndpointAgent.Buffer.Accounting

/-!
# The order `Prune` evicts in

`Prune` sorts the files it lists by modification time with a hand-written exchange sort, then
removes them from the oldest on until the counter is within the limit. The sort is correct
for every list, ties included: each pass brings a file with the earliest modification time of
the rest to the front. So when the listing, the `Info` calls and the removals all succeed, the
removed files are the shortest oldest-first prefix after which the counter is within the
limit (all the files if none is enough), and none of them is newer than a file that stays.
-/

set_option autoImplicit false

namespace EndpointAgent.Buffer

/-- `f` was modified no later than `g`. -/
def ModOrder (f g : PruneFile) : Prop := f.modTime ≤ g.modTime

/-! ## The exchange sort -/

/-- A pass leaves in front a file modified no later than any other. -/
private theorem sortPass_least (first : PruneFile) (rest : List PruneFile) :
    ModOrder (sortPass first rest).1 first ∧ ∀ file ∈ (sortPass first rest).2, ModOrder (sortPass first rest).1 file := by
  induction rest generalizing first with
  | nil => exact ⟨le_rfl, by simp [sortPass]⟩
  | cons next rest ih =>
    unfold sortPass
    split
    · rename_i later
      obtain ⟨atMost, others⟩ := ih next
      have beforeFirst : ModOrder (sortPass next rest).1 first := le_trans atMost (le_of_lt later)
      exact ⟨beforeFirst, List.forall_mem_cons.mpr ⟨beforeFirst, others⟩⟩
    · rename_i notLater
      obtain ⟨atMost, others⟩ := ih first
      exact ⟨atMost, List.forall_mem_cons.mpr ⟨le_trans atMost (le_of_not_lt notLater), others⟩⟩

/-- With a pass for every file, the exchange sort orders the files by modification time. -/
private theorem exchangeSort_sorted (passes : Nat) (files : List PruneFile) (enough : files.length ≤ passes) :
    (exchangeSort passes files).Sorted ModOrder := by
  induction passes generalizing files with
  | zero =>
    rw [List.eq_nil_of_length_eq_zero (Nat.le_zero.mp enough)]
    exact List.sorted_nil
  | succ passes ih =>
    cases files with
    | nil => exact List.sorted_nil
    | cons first rest =>
      have lengths : (sortPass first rest).2.length = rest.length := by
        simpa using (sortPass_perm first rest).length_eq
      refine List.sorted_cons.mpr ⟨fun file mem => ?_, ih _ (by simp at enough; omega)⟩
      exact (sortPass_least first rest).2 file ((exchangeSort_perm _ _).subset mem)

/-! ## The removal loop -/

/-- The files removed by a loop that removed the first `k` of `files`. -/
def removeFiles (d : Directory) (files : List PruneFile) : Directory :=
  files.foldl (fun d file => d.remove file.path) d

/-- The bytes the first `k` files account for. -/
def prefixSize (files : List PruneFile) (k : Nat) : Int := (((files.take k).map PruneFile.size).sum : Nat)

private theorem prefixSize_succ (file : PruneFile) (rest : List PruneFile) (k : Nat) :
    prefixSize (file :: rest) (k + 1) = file.size + prefixSize rest k := by
  simp [prefixSize]

@[simp] theorem prefixSize_zero (files : List PruneFile) : prefixSize files 0 = 0 := by
  simp [prefixSize]

/-- When every removal succeeds, the loop removes the shortest prefix of `files` after which
the counter is within the limit, or all of them, and subtracts exactly their sizes. -/
private theorem pruneLoop_prefix (faults : Faults) (removable : ∀ name, faults.remove name = none)
    (b : Buffer) (files : List PruneFile) :
    ∃ k, pruneLoop faults b files =
        { b with disk := removeFiles b.disk (files.take k), currentSize := b.currentSize - prefixSize files k } ∧
      (b.currentSize - prefixSize files k ≤ b.maxSize ∨ k = files.length) ∧
      ∀ j < k, b.maxSize < b.currentSize - prefixSize files j := by
  induction files generalizing b with
  | nil => exact ⟨0, by simp [pruneLoop, removeFiles], .inr rfl, fun j lt => absurd lt (Nat.not_lt_zero j)⟩
  | cons file rest ih =>
    by_cases within : b.currentSize ≤ b.maxSize
    · refine ⟨0, ?_, .inl (by simpa using within), fun j lt => absurd lt (Nat.not_lt_zero j)⟩
      simp [pruneLoop, within, removeFiles]
    · obtain ⟨k, loop, stops, over⟩ :=
        ih { b with disk := b.disk.remove file.path, currentSize := b.currentSize - file.size }
      refine ⟨k + 1, ?_, ?_, ?_⟩
      · rw [pruneLoop, if_neg within, removable, loop, prefixSize_succ]
        simp only [removeFiles, List.take_succ_cons, List.foldl_cons, sub_sub]
      · have stops' : b.currentSize - file.size - prefixSize rest k ≤ b.maxSize ∨ k = rest.length := stops
        rw [prefixSize_succ, List.length_cons]
        omega
      · intro j lt
        cases j with
        | zero => simpa using not_le.mp within
        | succ j =>
          have later : b.maxSize < b.currentSize - file.size - prefixSize rest j := over j (by omega)
          rw [prefixSize_succ]
          omega

/-! ## `Prune` -/

/-- `Prune` over a listing whose calls all succeed, from a counter above the limit. It visits
the top-level files in an order by modification time, removes the shortest oldest-first
prefix of that order after which the counter is within the limit (or all of them), and takes
exactly the removed files' sizes off the counter. No removed file is newer than a file kept. -/
theorem prune_evicts_oldest (b : Buffer) (faults : Faults) (listed : faults.readDir = none)
    (statted : ∀ name, faults.info name = none) (removable : ∀ name, faults.remove name = none)
    (over : b.maxSize < b.currentSize) :
    (pruneOrder faults b).Perm (pruneFiles faults b.disk.readDir) ∧
      (pruneOrder faults b).Sorted ModOrder ∧
      (∀ file, file ∈ pruneOrder faults b ↔
        ∃ data, (file.path, .file data file.modTime) ∈ b.disk.entries ∧ file.size = data.length) ∧
      ∃ k, b.prune faults = (.ok (), { b with
          disk := removeFiles b.disk ((pruneOrder faults b).take k),
          currentSize := b.currentSize - prefixSize (pruneOrder faults b) k }) ∧
        (b.currentSize - prefixSize (pruneOrder faults b) k ≤ b.maxSize ∨ k = (pruneOrder faults b).length) ∧
        (∀ j < k, b.maxSize < b.currentSize - prefixSize (pruneOrder faults b) j) ∧
        ∀ removed ∈ (pruneOrder faults b).take k, ∀ kept ∈ (pruneOrder faults b).drop k,
          removed.modTime ≤ kept.modTime := by
  have sorted : (pruneOrder faults b).Sorted ModOrder := exchangeSort_sorted _ _ le_rfl
  obtain ⟨k, loop, stops, over'⟩ := pruneLoop_prefix faults removable b (pruneOrder faults b)
  refine ⟨exchangeSort_perm _ _, sorted, fun file => ?_, k, ?_, stops, over', ?_⟩
  · rw [mem_pruneOrder]
    simp [statted]
  · rw [prune, if_neg (not_le.mpr over), listed, ← loop]
    rfl
  · exact fun removed taken kept dropped => sorted.rel_of_mem_take_of_mem_drop taken dropped

/-- Three batch files of four, three and two bytes, modified at 30, 10 and 20, with the
counter at nine against a limit of five. -/
def threeFiles : Buffer :=
  ⟨5, 9, ⟨[("batch_1.json", .file [1, 1, 1, 1] 30), ("batch_2.json", .file [2, 2, 2] 10),
    ("batch_3.json", .file [3, 3] 20)], by decide⟩⟩

/-- The names of `threeFiles` are already in order, so its listing is its entries. -/
private theorem threeFiles_readDir : threeFiles.disk.readDir = threeFiles.disk.entries :=
  List.Sorted.insertionSort_eq (by simp [threeFiles, String.le_iff_toList_le]; decide)

/-- `Prune` removes the file modified at 10, which leaves the counter at six, then the one
modified at 20, and stops at four with the newest file kept. -/
theorem prune_evicts_oldest_three :
    (threeFiles.prune Faults.none).2.currentSize = 4 ∧
      (threeFiles.prune Faults.none).2.disk.entries.map Prod.fst = ["batch_1.json"] ∧
      (pruneOrder Faults.none threeFiles).Perm (pruneFiles Faults.none threeFiles.disk.readDir) ∧
      (pruneOrder Faults.none threeFiles).Sorted ModOrder ∧
      (∀ file, file ∈ pruneOrder Faults.none threeFiles ↔
        ∃ data, (file.path, .file data file.modTime) ∈ threeFiles.disk.entries ∧ file.size = data.length) ∧
      ∃ k, threeFiles.prune Faults.none = (.ok (), { threeFiles with
          disk := removeFiles threeFiles.disk ((pruneOrder Faults.none threeFiles).take k),
          currentSize := threeFiles.currentSize - prefixSize (pruneOrder Faults.none threeFiles) k }) ∧
        (threeFiles.currentSize - prefixSize (pruneOrder Faults.none threeFiles) k ≤ threeFiles.maxSize ∨
          k = (pruneOrder Faults.none threeFiles).length) ∧
        (∀ j < k, threeFiles.maxSize < threeFiles.currentSize - prefixSize (pruneOrder Faults.none threeFiles) j) ∧
        ∀ removed ∈ (pruneOrder Faults.none threeFiles).take k, ∀ kept ∈ (pruneOrder Faults.none threeFiles).drop k,
          removed.modTime ≤ kept.modTime :=
  ⟨by simp only [prune, threeFiles_readDir]; decide, by simp only [prune, threeFiles_readDir]; decide,
    prune_evicts_oldest threeFiles Faults.none rfl (fun _ => rfl) (fun _ => rfl) (by decide)⟩

/-- `DirEntry.Info` fails for the oldest file of `threeFiles`, as it does for a file removed
between the listing and the call. -/
def infoFailsOldest : Faults :=
  { Faults.none with
    info := fun name => if name = "batch_2.json" then
      some (GoError.new "lstat /var/lib/your-agent/buffer/batch_2.json: no such file or directory") else none }

/-- `os.ReadDir` of the buffer directory fails. -/
def listingFails : Faults :=
  { Faults.none with readDir := some (GoError.new "open /var/lib/your-agent/buffer: permission denied") }

/-- With every removal succeeding, `Prune` is still no oldest-first eviction once a listing
call fails. A file whose `Info` fails is never considered: with the oldest one unreadable,
`Prune` removes the two newer files and keeps the oldest. A failed `os.ReadDir` removes nothing
and returns an error with the counter still above the limit. -/
theorem prune_skips_unstatted :
    (∀ name, infoFailsOldest.remove name = none) ∧
      (threeFiles.prune infoFailsOldest).1 = .ok () ∧
      (threeFiles.prune infoFailsOldest).2.disk.entries.map Prod.fst = ["batch_2.json"] ∧
      (threeFiles.prune infoFailsOldest).2.currentSize = 3 ∧
    (∀ name, listingFails.remove name = none) ∧
      (threeFiles.prune listingFails).1 ≠ .ok () ∧ (threeFiles.prune listingFails).2 = threeFiles := by
  refine ⟨fun _ => rfl, rfl, ?_, ?_, fun _ => rfl, nofun, rfl⟩ <;> simp only [prune, threeFiles_readDir] <;> decide

end EndpointAgent.Buffer
