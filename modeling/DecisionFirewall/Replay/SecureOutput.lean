import DecisionFirewall.Base.JsonOrder
import DecisionFirewall.Replay.Quarantine

/-!
# Secure Output

`replay/secure_output.py`: an artifact is written under a new name in one of two directories, or
it is removed again. Writer and reader bound lines, records and bytes each on their own.

Only this process writes the directories, and a call to `os.write` may write less than it is
given or raise. A text is a sequence of Unicode scalar values.

- §1 names and bounds
- §2 the writer
- §3 the readers
- §4 what is written
- §5 what is read
- §6 files
-/

namespace DecisionFirewall.Replay

open Phase3 (Bytes)

def MAX_SECURE_OUTPUT_BYTES : Nat := 512 * 1024 * 1024

def MAX_SECURE_JSONL_LINE_BYTES : Nat := 1024 * 1024

/-- An exception: a `HistoricalOutputError` with its text, or one that the rows raise. -/
inductive OutputError where
  | custody (message : String)
  | rows
  deriving DecidableEq, Repr

/-- The directories of a run. -/
inductive Parent where
  | run
  | snapshot
  deriving DecidableEq, Repr

/-- A regular file: device and number of the file, and its bytes. -/
structure File where
  identity : Nat
  content : Bytes
  deriving DecidableEq, Repr

/-- What the directories hold. A new file has an identity that no file had. -/
structure Output where
  files : Parent → String → Option File
  nextIdentity : Nat

/-- `HistoricalOutputGuard`. -/
structure Guard where
  maxFileBytes : Nat
  closed : Bool
  maxFileBytes_pos : 0 < maxFileBytes
  maxFileBytes_le : maxFileBytes ≤ MAX_SECURE_OUTPUT_BYTES

/-- `raw.split("/")`. -/
def splitPath (raw : String) : List String := (raw.toList.splitOn '/').map String.ofList

/-- `PurePosixPath(raw).as_posix()`. -/
def asPosix (raw : String) : String :=
  let root := if ['/', '/'] <+: raw.toList ∧ ¬ ['/', '/', '/'] <+: raw.toList then "//"
    else if ['/'] <+: raw.toList then "/" else ""
  let text := root ++
    "/".intercalate ((splitPath raw).filter fun part => part ≠ "" ∧ part ≠ ".")
  if text = "" then "." else text

section Bounds

variable (guard : Guard)

/-- `_assert_open()`. -/
def assertOpen : Except OutputError Unit :=
  if guard.closed then .error (.custody "Historical output guard is closed.") else .ok ()

/-- The directory that a path names, by its parts. -/
def parentOf : List String → Except OutputError (Parent × String)
  | [name] => .ok (.run, name)
  | [directory, name] =>
    if directory = "input_snapshot" then .ok (.snapshot, name)
    else .error (.custody "Artifact path must be flat or input_snapshot/<file>.")
  | _ => .error (.custody "Artifact path must be flat or input_snapshot/<file>.")

/-- `_select_parent(relative_path)`. -/
def selectParent (raw : String) : Except OutputError (Parent × String) := do
  assertOpen guard
  if raw = "" ∨ '\x00' ∈ raw.toList then
    .error (.custody "Artifact path must be a valid relative path.")
  else if raw ≠ asPosix raw then
    .error (.custody "Artifact path must use canonical spelling.")
  else match parentOf (splitPath raw) with
    | .error e => .error e
    | .ok (parent, name) =>
      if name ∈ ["", ".", ".."] ∨ 255 < name.utf8ByteSize then
        .error (.custody "Artifact name is not a safe component.")
      else .ok (parent, name)

/-- `_validated_limit(requested)`. -/
def validatedLimit : Json → Except OutputError Nat
  | .null => .ok guard.maxFileBytes
  | .int n =>
    if 0 < n ∧ n ≤ guard.maxFileBytes then .ok n.toNat
    else .error (.custody ("max_bytes must be between 1 and " ++ toString guard.maxFileBytes ++ "."))
  | _ => .error (.custody "max_bytes must be an integer.")

end Bounds

/-! ## §2 The writer -/

/-- What is given as a row: an object, an object that `json.dumps` refuses for another reason
than its numbers, something else, or an exception of the iterator. -/
inductive Row where
  | object (fields : Dict)
  | unwritable
  | other
  | raised

/-- What `os.write` does: it raises, or it writes at most so many bytes. -/
inductive WriteResult where
  | raised
  | wrote (count : Nat)
  deriving DecidableEq, Repr

/-- The loop of `write_jsonl`: the bytes of the file, the calls to come, bytes and rows so far. -/
structure Writing where
  content : Bytes
  writes : List WriteResult
  total : Nat
  count : Nat

section Writer

variable (limit maxRecords : Nat)

end Writer

namespace Output

/-- The directories with another file under a name, or with none. -/
def set (out : Output) (parent : Parent) (name : String) (file : Option File) : Output :=
  { out with files := fun p n => if p = parent ∧ n = name then file else out.files p n }

/-- The directories with a new file of these bytes. -/
def create (out : Output) (parent : Parent) (name : String) (content : Bytes) : Output :=
  { out.set parent name (some ⟨out.nextIdentity, content⟩) with
    nextIdentity := out.nextIdentity + 1 }

end Output

/-- `_verify_bindings_locked()`. -/
def verifyBindings (guard : Guard) (bound : Bool) : Except OutputError Unit := do
  assertOpen guard
  if bound then .ok () else .error (.custody "Historical output directory binding has changed.")

/-- `os.read` until the end: at most so many bytes at a time, one more than `ask` says. -/
def readChunks (limit : Nat) (message : String) (ask : Nat → Nat) (total : Nat) (rest : Bytes) :
    Except OutputError Bytes :=
  if rest = [] then .ok []
  else
    let chunk := rest.take (ask total + 1)
    if limit < total + chunk.length then .error (.custody message)
    else (readChunks limit message ask (total + chunk.length) (rest.drop (ask total + 1))).map
      (chunk ++ ·)
termination_by rest.length
decreasing_by
  have hpos := List.length_pos_of_ne_nil ‹¬ rest = []›
  rw [List.length_drop]
  omega

section Readers

variable (lib : JsonLibrary) (sha256 : Bytes → String) (guard : Guard) (out : Output)

/-- `_open_file_for_read(parent_fd, name, limit)`: the bytes of the file. -/
def openFileForRead (parent : Parent) (name : String) (limit : Nat) : Except OutputError Bytes :=
  match out.files parent name with
  | none => .error (.custody "Secure output file is missing, linked, or unreadable.")
  | some file =>
    if limit < file.content.length then
      .error (.custody "Secure output file violates type, link, or size constraints.")
    else .ok file.content

/-- `sha256(relative_path, max_bytes=…)`. -/
def digest (path : String) (maxBytes : Json) : Except OutputError String := do
  let limit ← validatedLimit guard maxBytes
  verifyBindings guard true
  let (parent, name) ← selectParent guard path
  let content ← openFileForRead out parent name limit
  let read ← readChunks limit ("Secure output exceeds its " ++ toString limit ++
    "-byte digest limit.") (fun _ => 1024 * 1024 - 1) 0 content
  return sha256 read

end Readers

/-! ## §4 What is written -/

/-- The line of an object. -/
def lineOf (fields : Dict) : Bytes :=
  Json.encodeAscii (canonicalJson (.obj fields)).toList ++ [10]

/-- The object can be written: its numbers are finite, and its line is not too long. -/
def Writable (fields : Dict) : Prop :=
  (Json.obj fields).allFloats isFiniteRepr = true ∧
    (lineOf fields).length ≤ MAX_SECURE_JSONL_LINE_BYTES + 1

/-- These objects are in the file, within the bounds. -/
structure FileHolds (limit maxRecords : Nat) (objects : List Dict) (s : Writing) : Prop where
  content : s.content = objects.flatMap lineOf
  total : s.total = s.content.length
  count : s.count = objects.length
  writable : ∀ fields ∈ objects, Writable fields
  bytes : s.total ≤ limit
  records : s.count ≤ maxRecords

section Written

variable {limit maxRecords : Nat} {s s' : Writing} {row : Row} {rows : List Row}
variable {objects : List Dict} {payload : Bytes}

/-- A row that is written is in the file behind the others. -/
theorem FileHolds.snoc {fields : Dict} {later : List WriteResult}
    (h : FileHolds limit maxRecords objects s) (hwritable : Writable fields)
    (hbytes : s.total + (lineOf fields).length ≤ limit) (hrecords : s.count + 1 ≤ maxRecords) :
    FileHolds limit maxRecords (objects ++ [fields])
      ⟨s.content ++ lineOf fields, later, s.total + (lineOf fields).length, s.count + 1⟩ := by
  obtain ⟨hcontent, htotal, hcount, hall, -, -⟩ := h
  refine ⟨?_, ?_, ?_, ?_, hbytes, hrecords⟩
  · rw [List.flatMap_append, List.flatMap_singleton, ← hcontent]
  · rw [List.length_append, htotal]
  · rw [List.length_append, List.length_singleton, hcount]
  · intro other hother
    rcases List.mem_append.mp hother with hother | hother
    · exact hall other hother
    · rw [List.mem_singleton.mp hother]
      exact hwritable

end Written

/-! ## §5 What is read -/

namespace Values

variable (lib : JsonLibrary)

mutual

/-- The texts of numbers are those that `repr` writes, and members have different names. -/
def WellFormed : Json → Prop
  | .float repr => isFiniteRepr repr = true → lib.floatRepr repr = some repr
  | .arr xs => WellFormedItems xs
  | .obj fields => (fields.map Prod.fst).Nodup ∧ WellFormedFields fields
  | _ => True

def WellFormedItems : List Json → Prop
  | [] => True
  | x :: xs => WellFormed x ∧ WellFormedItems xs

def WellFormedFields : List (String × Json) → Prop
  | [] => True
  | (_, v) :: fields => WellFormed v ∧ WellFormedFields fields

end

variable {lib}

mutual

/-- A value whose numbers are finite is read back. -/
theorem readable_of_wellFormed : (v : Json) → WellFormed lib v →
    v.allFloats isFiniteRepr = true → v.Readable lib
  | .null, _, _ => trivial
  | .bool _, _, _ => trivial
  | .int _, _, _ => trivial
  | .float _, h, hfinite => h hfinite
  | .str _, _, _ => trivial
  | .arr xs, h, hfinite => readableItems_of_wellFormed xs h hfinite
  | .obj fields, h, hfinite => ⟨h.1, readableFields_of_wellFormed fields h.2 hfinite⟩

theorem readableItems_of_wellFormed : (xs : List Json) → WellFormedItems lib xs →
    Json.allFloatsItems isFiniteRepr xs = true → Json.ReadableItems lib xs
  | [], _, _ => trivial
  | x :: xs, h, hfinite => by
    obtain ⟨hx, hxs⟩ := Bool.and_eq_true_iff.mp hfinite
    exact ⟨readable_of_wellFormed x h.1 hx, readableItems_of_wellFormed xs h.2 hxs⟩

theorem readableFields_of_wellFormed : (fields : List (String × Json)) →
    WellFormedFields lib fields → Json.allFloatsFields isFiniteRepr fields = true →
      Json.ReadableFields lib fields
  | [], _, _ => trivial
  | (_, v) :: fields, h, hfinite => by
    obtain ⟨hv, hfields⟩ := Bool.and_eq_true_iff.mp hfinite
    exact ⟨readable_of_wellFormed v h.1 hv, readableFields_of_wellFormed fields h.2 hfields⟩

end

end Values

section Read

variable {lib : JsonLibrary} {fields : Dict} {objects rows : List Dict} {rest : Bytes}

end Read

/-! ## §6 Files -/

section Files

variable {lib : JsonLibrary} {guard : Guard} {out : Output} {path name : String} {parent : Parent}
variable {file : File} {content : Bytes}

variable {rows : List Row} {faults : Faults} {maxBytes maxRecords : Json} {limit records : Nat}

section Runs

variable {s : Writing}

end Runs

/-- The numbers of a row are spelled as `repr` spells them, and its members differ. -/
def Row.WellFormed (lib : JsonLibrary) : Row → Prop
  | .object fields => Values.WellFormed lib (.obj fields)
  | _ => True

end Files

end DecisionFirewall.Replay
