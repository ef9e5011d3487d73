import EndpointAgent.Buffer.Retention

/-!
# The order `ReadAll` replays in

`ReadAll` returns the batch files in the order `os.ReadDir` lists them, the byte order of their
names `batch_<nanos>.json`. After successful writes on an empty buffer that is the order of the
clock readings' decimal texts, not of the readings: `batch_10.json` is listed before
`batch_9.json`, so a batch written at 10 is replayed before one written at 9.
-/

set_option autoImplicit false

namespace EndpointAgent

namespace Directory

/-- Storing under a name the directory does not hold adds the entry at the end. -/
private theorem put_entries_of_fresh (d : Directory) {name : String} (entry : Entry) (fresh : d.entry? name = none) :
    (d.put name entry).entries = d.entries ++ [(name, entry)] := by
  rw [entry?, List.lookup_eq_none_iff] at fresh
  simp only [put, remove, List.append_cancel_right_eq]
  refine List.filter_eq_self.mpr fun other member => ?_
  have differs := fresh other member
  simp only [bne_iff_ne, ne_eq] at differs ⊢
  exact fun same => differs same.symm

end Directory

namespace Buffer

/-- The `Write` calls of some batches, each with its clock reading, its bytes and the
modification time its file gets. -/
def writeCalls (batches : List (Int × Bytes × Int)) : List BufferOp :=
  batches.map fun batch => .write (.ok batch.2.1) batch.1 (.complete batch.2.2)

/-- The directory entry a batch's `Write` leaves. -/
def batchEntry (batch : Int × Bytes × Int) : String × Entry :=
  (batchFileName batch.1, .file batch.2.1 batch.2.2)

/-- Writes at distinct clock readings into free names, within the limit, each add their file
at the end of the directory. -/
private theorem run_writeCalls_entries (b : Buffer) (batches : List (Int × Bytes × Int))
    (fresh : ∀ batch ∈ batches, b.disk.entry? (batchFileName batch.1) = none)
    (distinct : (batches.map Prod.fst).Nodup)
    (fits : b.currentSize + (((batches.map fun batch => batch.2.1.length).sum : Nat) : Int) ≤ b.maxSize) :
    (b.run (writeCalls batches)).disk.entries = b.disk.entries ++ batches.map batchEntry := by
  induction batches generalizing b with
  | nil => simp [writeCalls]
  | cons batch rest ih =>
    obtain ⟨now, data, modTime⟩ := batch
    rw [List.map_cons, List.nodup_cons] at distinct
    simp only [List.map_cons, List.sum_cons, Nat.cast_add] at fits
    have free := fresh _ (List.mem_cons_self _ _)
    have written : (b.write (.ok data) now (.complete modTime)).2 =
        { b with disk := b.disk.put (batchFileName now) (.file data modTime),
                 currentSize := b.currentSize + data.length } := by
      have within : ¬b.currentSize + data.length > b.maxSize := by omega
      simp only [write, if_neg within, Directory.writeFile, free]
    simp only [writeCalls, List.map_cons, run_cons, step_write] at ih ⊢
    rw [written, ih _ (fun later member => ?_) distinct.2 (by simp only; omega),
      Directory.put_entries_of_fresh _ _ free]
    · simp [batchEntry]
    · have differs : batchFileName later.1 ≠ batchFileName now := fun same =>
        distinct.1 (by simpa [← batchFileName_injective same] using List.mem_map_of_mem Prod.fst member)
      rw [Directory.entry?_put_of_ne _ _ differs]
      exact fresh later (List.mem_cons_of_mem _ member)

private theorem readFiles_batchEntries (batches : List (Int × Bytes × Int)) :
    readFiles Faults.none (batches.map batchEntry) = batches.map fun batch => batch.2.1 := by
  induction batches with
  | nil => rfl
  | cons batch rest ih => rw [List.map_cons, List.map_cons, ← ih]; rfl

/-- After successful writes of some batches on an empty buffer, `ReadAll` returns them sorted
by the byte order of their file names, whatever order they were written in. -/
theorem readAll_after_writes (b : Buffer) (empty : b.disk.entries = []) (batches : List (Int × Bytes × Int))
    (distinct : (batches.map Prod.fst).Nodup)
    (fits : b.currentSize + (((batches.map fun batch => batch.2.1.length).sum : Nat) : Int) ≤ b.maxSize) :
    (b.run (writeCalls batches)).readAll Faults.none =
      .ok ((batches.insertionSort fun x y => batchFileName x.1 ≤ batchFileName y.1).map fun batch => batch.2.1) := by
  have entries := run_writeCalls_entries b batches
    (fun batch _ => by rw [Directory.entry?, empty]; rfl) distinct fits
  rw [empty, List.nil_append] at entries
  rw [readAll, Directory.readDir, entries,
    ← List.map_insertionSort _ _ batchEntry batches (fun _ _ _ _ => Iff.rfl), readFiles_batchEntries]
  rfl

/-- Two batches written at 9 and then at 10 are replayed in the other order. -/
theorem replay_order_nine_ten :
    ((⟨100, 0, emptyDisk⟩ : Buffer).run (writeCalls [(9, [9], 0), (10, [10], 0)])).readAll Faults.none =
      .ok [[10], [9]] := by
  rw [readAll_after_writes _ rfl _ (by decide) (by decide)]
  simp [batchFileName, String.le_iff_toList_le]
  decide

end Buffer

end EndpointAgent
