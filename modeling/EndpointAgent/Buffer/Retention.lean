import EndpointAgent.Buffer.Accounting

/-!
# What a successful `Write` leaves behind

A batch file stays on disk with its bytes until a `Clear` or a `Prune` removes it, as long
as no later `Write` reaches `os.WriteFile` with the same clock reading: the file name is
`batch_<nanos>.json` and `os.WriteFile` truncates an existing file of that name.
-/

set_option autoImplicit false

namespace EndpointAgent.Buffer

/-- The empty buffer directory. -/
def emptyDisk : Directory := ⟨[], by decide⟩

/-- A batch `ReadAll` returns was read from a file of the listing. -/
private theorem mem_of_readFiles {faults : Faults} {listing : List (String × Entry)} {data : Bytes}
    (read : data ∈ readFiles faults listing) : ∃ name modTime, (name, .file data modTime) ∈ listing := by
  induction listing with
  | nil => cases read
  | cons head rest ih =>
      obtain ⟨name, kind⟩ := head
      unfold readFiles at read
      split at read
      · rename_i stored modTime _
        rcases List.mem_cons.mp read with rfl | later
        · exact ⟨name, modTime, List.mem_cons_self _ _⟩
        · obtain ⟨other, t, member⟩ := ih later
          exact ⟨other, t, List.mem_cons_of_mem _ member⟩
      · obtain ⟨other, t, member⟩ := ih read
        exact ⟨other, t, List.mem_cons_of_mem _ member⟩

/-- Two `Write`s that see the same clock reading, both within the limit and both with a
complete `os.WriteFile`, return nil, and the second replaces the file of the first: the file
of `now` holds the second batch, and a later `ReadAll` returns the first batch only when it
has the same bytes as the second or another file already held them. -/
theorem same_reading_overwrites (b : Buffer) (first second : Bytes) (now t₁ t₂ : Int)
    (fits : b.currentSize + first.length + second.length ≤ b.maxSize)
    (notDir : ∀ size, b.disk.entry? (batchFileName now) ≠ some (.dir size)) :
    (b.write (.ok first) now (.complete t₁)).1 = .ok () ∧
      ((b.write (.ok first) now (.complete t₁)).2.write (.ok second) now (.complete t₂)).1 = .ok () ∧
      ((b.write (.ok first) now (.complete t₁)).2.write (.ok second) now (.complete t₂)).2.disk.entry?
        (batchFileName now) = some (.file second t₂) ∧
      ∀ faults batches, ((b.write (.ok first) now (.complete t₁)).2.write (.ok second) now
          (.complete t₂)).2.readAll faults = .ok batches → first ∈ batches →
        first = second ∨ ∃ name modTime, name ≠ batchFileName now ∧ (name, .file first modTime) ∈ b.disk.entries := by
  rw [write_complete b now (by omega) notDir]
  dsimp only
  rw [write_complete _ now (by simp only; omega) (by simp)]
  refine ⟨rfl, rfl, Directory.entry?_put_self _ _ _, fun faults batches read member => ?_⟩
  unfold readAll at read
  split at read
  · cases read
  · cases read
    obtain ⟨name, modTime, listed⟩ := mem_of_readFiles member
    simp only [Directory.mem_readDir, Directory.put, List.mem_append, Directory.mem_remove,
      List.mem_singleton, Prod.mk.injEq, Entry.file.injEq] at listed
    rcases listed with ⟨⟨old, differs⟩ | ⟨same, -⟩, differs'⟩ | ⟨-, rfl, -⟩
    · exact .inr ⟨name, modTime, differs, old⟩
    · exact absurd same differs'
    · exact .inl rfl

/-- Two writes at the reading 5 into an empty buffer: both return nil, and `ReadAll` returns
only the second batch. -/
theorem same_reading_overwrites_five :
    (0 + [1].length + [2].length ≤ (100 : Int) ∧ ∀ size, emptyDisk.entry? (batchFileName 5) ≠ some (.dir size)) ∧
      ((⟨100, 0, emptyDisk⟩ : Buffer).write (.ok [1]) 5 (.complete 0)).1 = .ok () ∧
      (((⟨100, 0, emptyDisk⟩ : Buffer).write (.ok [1]) 5 (.complete 0)).2.write (.ok [2]) 5
        (.complete 1)).1 = .ok () ∧
      (((⟨100, 0, emptyDisk⟩ : Buffer).write (.ok [1]) 5 (.complete 0)).2.write (.ok [2]) 5
        (.complete 1)).2.disk.entry? (batchFileName 5) = some (.file [2] 1) ∧
      (((⟨100, 0, emptyDisk⟩ : Buffer).write (.ok [1]) 5 (.complete 0)).2.write (.ok [2]) 5
        (.complete 1)).2.readAll Faults.none = .ok [[2]] :=
  have notDir : ∀ size, emptyDisk.entry? (batchFileName 5) ≠ some (.dir size) := fun _ => nofun
  have overwritten := same_reading_overwrites ⟨100, 0, emptyDisk⟩ [1] [2] 5 0 1 (by decide) notDir
  ⟨⟨by decide, notDir⟩, overwritten.1, overwritten.2.1, overwritten.2.2.1, rfl⟩

end EndpointAgent.Buffer
