import EndpointAgent.Disk
import EndpointAgent.Decimal

/-!
# Persistent buffer

`internal/buffer` (the source file `buffer.go`): a directory of serialized batches with
a byte budget. The struct's `currentSize` is a counter that the operations keep by hand;
the directory itself is part of the state, so that the counter can be compared with
what is on disk. Every file-system call takes its outcome from the caller.
-/

set_option autoImplicit false

namespace EndpointAgent

/-- `buffer.Buffer` (its `maxSize` and `currentSize`) together with the directory it owns. -/
structure Buffer where
  maxSize : Int
  currentSize : Int
  disk : Directory

/-- How the listing-based calls of one operation end (`none` is success): `os.ReadDir`,
and per entry name `os.ReadFile`, `DirEntry.Info` and `os.Remove`. -/
structure Faults where
  readDir : Option GoError
  readFile : String → Option GoError
  info : String → Option GoError
  remove : String → Option GoError

/-- The fault-free environment. -/
def Faults.none : Faults := ⟨Option.none, fun _ => Option.none, fun _ => Option.none, fun _ => Option.none⟩

/-- `fmt.Sprintf("batch_%d.json", time.Now().UnixNano())`. -/
def batchFileName (now : Int) : String := "batch_" ++ toString now ++ ".json"

/-- Batch files get the same name exactly when their clock readings are equal. -/
theorem batchFileName_injective {a b : Int} (same : batchFileName a = batchFileName b) : a = b := by
  have data := congrArg String.data same
  simp only [batchFileName, String.data_append, List.append_assoc, List.append_cancel_left_eq,
    List.append_cancel_right_eq] at data
  exact Decimal.toString_int_injective (String.ext data)

/-- One file as `Prune` records it before sorting. -/
structure PruneFile where
  path : String
  modTime : Int
  size : Nat
  deriving DecidableEq, Repr

namespace Buffer

/-- `New(dir, maxSize, logger)` over the directory `disk`. `mkdirAll` and `walk` are the
outcomes of `os.MkdirAll` and of the `filepath.Walk` in `calculateSize`; a failed walk is
only logged and leaves the counter at zero. -/
def new (disk : Directory) (maxSize : Int) (mkdirAll walk : Option GoError) :
    Except GoError Buffer :=
  match mkdirAll with
  | some err => .error (err.wrap "failed to create buffer directory")
  | none =>
    .ok { maxSize, disk
          currentSize := match walk with
            | some _ => 0
            | none => disk.walkBytes }

/-- `Buffer.Write`. `jsonData` is what `json.Marshal(data)` returned and `now` the clock
reading that names the file. -/
def write (b : Buffer) (jsonData : Except GoError Bytes) (now : Int) (outcome : WriteOutcome) :
    Except GoError Unit × Buffer :=
  match jsonData with
  | .error err => (.error (err.wrap "failed to marshal data"), b)
  | .ok data =>
    if b.currentSize + data.length > b.maxSize then
      (.error (GoError.new ("buffer full (current: " ++ toString b.currentSize ++ ", max: " ++
        toString b.maxSize ++ ")")), b)
    else
      match b.disk.writeFile (batchFileName now) data outcome with
      | (.error err, disk) => (.error (err.wrap "failed to write buffer file"), { b with disk })
      | (.ok (), disk) => (.ok (), { b with disk, currentSize := b.currentSize + data.length })

/-- The loop of `ReadAll` over the listing: directories and unreadable files are skipped. -/
def readFiles (faults : Faults) : List (String × Entry) → List Bytes
  | [] => []
  | (name, entry) :: rest =>
    match entry, faults.readFile name with
    | .file data _, Option.none => data :: readFiles faults rest
    | _, _ => readFiles faults rest

/-- A `Write` of encoded bytes that fit, to a name that is not a directory, whose
`os.WriteFile` completes, stores the bytes under the batch file's name. -/
theorem write_complete (b : Buffer) {data : Bytes} (now : Int) {modTime : Int}
    (fits : b.currentSize + data.length ≤ b.maxSize)
    (notDir : ∀ size, b.disk.entry? (batchFileName now) ≠ some (.dir size)) :
    b.write (.ok data) now (.complete modTime) = (.ok (), { b with
      disk := b.disk.put (batchFileName now) (.file data modTime),
      currentSize := b.currentSize + data.length }) := by
  unfold write
  dsimp only
  rw [if_neg (by omega), Directory.writeFile_complete _ _ _ notDir]

/-- `Buffer.ReadAll`. -/
def readAll (b : Buffer) (faults : Faults) : Except GoError (List Bytes) :=
  match faults.readDir with
  | some err => .error (err.wrap "failed to read buffer directory")
  | Option.none => .ok (readFiles faults b.disk.readDir)

/-- The loop of `Clear` over the listing: every file whose `os.Remove` succeeds goes. -/
def clearFiles (faults : Faults) : Directory → List (String × Entry) → Directory
  | disk, [] => disk
  | disk, (name, entry) :: rest =>
    if entry.isDir then clearFiles faults disk rest
    else
      match faults.remove name with
      | some _ => clearFiles faults disk rest
      | Option.none => clearFiles faults (disk.remove name) rest

/-- `Buffer.Clear`: the counter is reset whatever the removals did. -/
def clear (b : Buffer) (faults : Faults) : Except GoError Unit × Buffer :=
  match faults.readDir with
  | some err => (.error (err.wrap "failed to read buffer directory"), b)
  | Option.none => (.ok (), { b with disk := clearFiles faults b.disk b.disk.readDir, currentSize := 0 })

/-- `Buffer.Size`. -/
def size (b : Buffer) : Int := b.currentSize

/-- The files `Prune` collects: non-directories whose `Info` succeeds. -/
def pruneFiles (faults : Faults) : List (String × Entry) → List PruneFile
  | [] => []
  | (name, entry) :: rest =>
    match entry, faults.info name with
    | .file data modTime, Option.none => ⟨name, modTime, data.length⟩ :: pruneFiles faults rest
    | _, _ => pruneFiles faults rest

/-- One pass `j = i+1 … n-1` of the exchange sort in `Prune`: whenever `files[i]` is
after `files[j]` the two are swapped, so the earliest file ends at position `i`. -/
def sortPass (first : PruneFile) : List PruneFile → PruneFile × List PruneFile
  | [] => (first, [])
  | next :: rest =>
    if first.modTime > next.modTime then
      let (least, others) := sortPass next rest
      (least, first :: others)
    else
      let (least, others) := sortPass first rest
      (least, next :: others)

/-- The exchange sort of `Prune`, one pass per position (`passes` is the list length). -/
def exchangeSort : Nat → List PruneFile → List PruneFile
  | 0, files => files
  | _ + 1, [] => []
  | passes + 1, first :: rest =>
    let (least, others) := sortPass first rest
    least :: exchangeSort passes others

/-- The removal loop of `Prune`: stop once under the limit; a failed removal is skipped. -/
def pruneLoop (faults : Faults) (b : Buffer) : List PruneFile → Buffer
  | [] => b
  | file :: rest =>
    if b.currentSize ≤ b.maxSize then b
    else
      match faults.remove file.path with
      | some _ => pruneLoop faults b rest
      | Option.none =>
        pruneLoop faults
          { b with disk := b.disk.remove file.path, currentSize := b.currentSize - file.size } rest

/-- `Buffer.Prune`. -/
def prune (b : Buffer) (faults : Faults) : Except GoError Unit × Buffer :=
  if b.currentSize ≤ b.maxSize then (.ok (), b)
  else
    match faults.readDir with
    | some err => (.error (err.wrap "failed to read buffer directory"), b)
    | Option.none =>
      let files := pruneFiles faults b.disk.readDir
      (.ok (), pruneLoop faults b (exchangeSort files.length files))

end Buffer

/-- A call on the buffer, with the outcomes of the file-system calls it makes. -/
inductive BufferOp where
  | write (jsonData : Except GoError Bytes) (now : Int) (outcome : WriteOutcome)
  | readAll (faults : Faults)
  | clear (faults : Faults)
  | prune (faults : Faults)
  | size

/-- What a call returns. -/
inductive BufferReply where
  | done (result : Except GoError Unit)
  | batches (result : Except GoError (List Bytes))
  | bytes (size : Int)

namespace Buffer

/-- One call on the buffer. -/
def step (b : Buffer) : BufferOp → BufferReply × Buffer
  | .write jsonData now outcome =>
    let (result, b') := b.write jsonData now outcome
    (.done result, b')
  | .readAll faults => (.batches (b.readAll faults), b)
  | .clear faults =>
    let (result, b') := b.clear faults
    (.done result, b')
  | .prune faults =>
    let (result, b') := b.prune faults
    (.done result, b')
  | .size => (.bytes b.size, b)

@[simp] theorem step_write (b : Buffer) (jsonData : Except GoError Bytes) (now : Int)
    (outcome : WriteOutcome) :
    b.step (.write jsonData now outcome) =
      (.done (b.write jsonData now outcome).1, (b.write jsonData now outcome).2) := rfl

@[simp] theorem step_readAll (b : Buffer) (faults : Faults) :
    b.step (.readAll faults) = (.batches (b.readAll faults), b) := rfl

@[simp] theorem step_size (b : Buffer) : b.step .size = (.bytes b.size, b) := rfl

/-- The buffer after a sequence of calls. -/
def run (b : Buffer) (ops : List BufferOp) : Buffer :=
  ops.foldl (fun b op => (b.step op).2) b

@[simp] theorem run_nil (b : Buffer) : b.run [] = b := rfl

@[simp] theorem run_cons (b : Buffer) (op : BufferOp) (ops : List BufferOp) :
    b.run (op :: ops) = (b.step op).2.run ops := rfl

end Buffer

end EndpointAgent
