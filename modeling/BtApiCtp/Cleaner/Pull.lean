/-
# Cleaner.Pull -- the pull backends and the verification of a staged day

The three transports of `cleaner/pull` differ in two ways that matter: which
files a fetch skips, and what a broken copy leaves behind.  The local backend
(the reference implementation) copies straight onto the staged file, so a broken
copy leaves a shorter one; sftp and rsync write elsewhere and rename.  rsync also
looks at modification times, so it may fetch a file of the same size again.

A day is removed one file at a time, in whatever order the directory is walked,
and its removal can break off after any file.
-/
import BtApiCtp.Cleaner.World

namespace BtApiCtp.Cleaner

open Theory Collector

variable {staging : Dict FileKey File} {host : Host} {day : Day}

inductive Transport where
  | local
  | rsync
  | sftp
  deriving DecidableEq, Repr

/-- One remote shard's transport (`PullBackend`). -/
structure Backend where
  name : Host
  transport : Transport
  remoteRoot : String
  deriving DecidableEq, Repr

/-- `is_day_name`. -/
def isDayName (name : String) : Bool := Python.matchesEightDigits name

namespace Backend

variable (backend : Backend)

/-- The trading-day directories of the remote, sorted. -/
def listDays : Action (List Day) :=
  reading fun s =>
    (((s.remote.items.filter fun item => item.1.1 = backend.name ∧ isDayName item.1.2.1).map
      fun item => item.1.2.1).dedup).insertionSort (· ≤ ·)

def listDayFiles (day : Day) : Action (List (DayFile × Nat)) :=
  reading fun s => dayFiles s.remote backend.name day

def hasReport (day : Day) : Action Bool :=
  reading fun s => (s.remote.lookup (backend.name, day, .report)).isSome

/-- Whether a fetch leaves the staged file as it is. -/
def skips (staged : Option File) (listed : Nat) (refetch : Bool) : Bool :=
  match staged with
  | none => false
  | some file => file.size = listed && !(backend.transport = .rsync && refetch)

/-- What a copy that raises leaves at the target. -/
def brokenCopy (staging : Dict FileKey File) (key : FileKey)
    (source : Option File) (extent : Nat) (message : String) : Dict FileKey File :=
  match backend.transport, source with
  | .local, some file =>
    if extent < file.size then staging.insert key ⟨extent, .error message⟩ else staging
  | _, _ => staging

theorem brokenCopy_cases (staging : Dict FileKey File) (key : FileKey)
    (source : Option File) (extent : Nat) (message : String) :
    backend.brokenCopy staging key source extent message = staging ∨
      ∃ file copy, source = some file ∧ copy.size < file.size ∧
        backend.brokenCopy staging key source extent message = staging.insert key copy := by
  unfold brokenCopy
  split
  · rename_i file _
    split
    · rename_i shorter
      exact .inr ⟨file, ⟨extent, .error message⟩, rfl, shorter, rfl⟩
    · exact .inl rfl
  · exact .inl rfl

/-- Copy one listed file into staging unless it is already there. -/
def fetchFile (day : Day) (file : DayFile) (listed : Nat) : Action Unit :=
  Prog.atomic fun c s =>
    let key := (backend.name, day, file)
    if backend.skips (s.staging.lookup key) listed c.refetch then (.ok (), s)
    else
      match c.failure, s.remote.lookup key with
      | none, some source => (.ok (), { s with staging := s.staging.insert key source })
      | none, none => (.error (.other ("no such file: " ++ file.relPath day)), s)
      | some failure, source =>
        (.error failure, { s with
          staging := backend.brokenCopy s.staging key source c.extent failure.message })

/-- `fetch_day`.  Only the local backend refuses a missing day directory itself. -/
def fetchDay (day : Day) : Action Unit := do
  let files ← backend.listDayFiles day
  if backend.transport = .local ∧ files = [] then
    throw (.pull ("remote day not found: " ++ backend.remoteRoot ++ "/" ++ day))
  Prog.forEach files fun file => backend.fetchFile day file.1 file.2

/-- Remove the next file of the day, whichever the walk comes to. -/
def removeOne (day : Day) : Action Unit :=
  fallible fun c s =>
    let files := dayFiles s.remote backend.name day
    match files[c.extent % files.length]? with
    | none => (.ok (), s)
    | some file => (.ok (), { s with remote := s.remote.erase (backend.name, day, file.1) })

/-- Remove the emptied day directory. -/
def removeDirectory (day : Day) : Action Unit :=
  fallible fun _ s =>
    if dayFiles s.remote backend.name day = [] then (.ok (), s)
    else (.error (.other ("directory not empty: " ++ day)), s)

/-- `delete_day`. -/
def deleteDay (day : Day) : Action Unit := do
  let files ← Prog.observe fun s => dayFiles s.remote backend.name day
  Prog.forEach files fun _ => backend.removeOne day
  backend.removeDirectory day

end Backend

/-! ## Verification -/

/-- Outcome of verifying one staged day; it is ok when there is no problem. -/
structure VerifyResult where
  problems : List String := []
  files : List FileRecord := []
  deriving DecidableEq, Repr

def VerifyResult.ok (result : VerifyResult) : Bool := result.problems = []

/-- The rows a staged file counts for: `report.json` none, a parquet file those it opens to. -/
def recordedRows (file : DayFile) (staged : File) : Except String Nat :=
  match file with
  | .report => .ok 0
  | .tick _ _ => staged.content.map List.length

/-- Check one listed file against its staged copy. -/
def verifyFile (staging : Dict FileKey File) (host : Host) (day : Day) (result : VerifyResult)
    (listed : DayFile × Nat) : VerifyResult :=
  let relPath := listed.1.relPath day
  match staging.lookup (host, day, listed.1) with
  | none => { result with problems := result.problems ++ ["missing: " ++ relPath] }
  | some staged =>
    if staged.size ≠ listed.2 then
      { result with
        problems := result.problems ++
          ["size mismatch: " ++ relPath ++ " remote=" ++ toString listed.2 ++ " local=" ++
            toString staged.size] }
    else
      match recordedRows listed.1 staged with
      | .error error =>
        { result with
          problems := result.problems ++ ["unreadable: " ++ relPath ++ " (" ++ error ++ ")"] }
      | .ok rows => { result with files := result.files ++ [⟨relPath, staged.size, rows⟩] }

/-- `verify_staged_day`: the listed files in path order, then the staged files the
remote does not list. -/
def verifyStagedDay (staging : Dict FileKey File) (host : Host) (day : Day)
    (remoteFiles : List (DayFile × Nat)) : VerifyResult :=
  let expected := remoteFiles.insertionSort fun a b => a.1.relPath day ≤ b.1.relPath day
  let result := expected.foldl (verifyFile staging host day) {}
  let unexpected := (dayFiles staging host day).filter fun file =>
    !(remoteFiles.map Prod.fst).contains file.1
  { result with
    problems := result.problems ++
      unexpected.map fun file => "unexpected local file: " ++ file.1.relPath day }

variable {result : VerifyResult}

theorem verifyFile_problems {listed : DayFile × Nat}
    (clean : (verifyFile staging host day result listed).problems = []) :
    result.problems = [] ∧
      ∃ staged, staging.lookup (host, day, listed.1) = some staged ∧ staged.size = listed.2 := by
  unfold verifyFile at clean
  cases found : staging.lookup (host, day, listed.1) with
  | none => simp [found] at clean
  | some staged =>
    by_cases same : staged.size = listed.2
    · cases count : recordedRows listed.1 staged with
      | error error => simp [found, same, count] at clean
      | ok rows => exact ⟨by simpa [found, same, count] using clean, staged, rfl, same⟩
    · simp [found, same] at clean

theorem foldl_verifyFile_problems (files : List (DayFile × Nat))
    (clean : (files.foldl (verifyFile staging host day) result).problems = []) :
    result.problems = [] ∧ ∀ listed ∈ files,
      ∃ staged, staging.lookup (host, day, listed.1) = some staged ∧ staged.size = listed.2 := by
  induction files generalizing result with
  | nil => exact ⟨clean, fun listed mem => absurd mem List.not_mem_nil⟩
  | cons first rest ih =>
    obtain ⟨cleanFirst, restStaged⟩ := ih clean
    obtain ⟨cleanResult, firstStaged⟩ := verifyFile_problems cleanFirst
    refine ⟨cleanResult, fun listed mem => ?_⟩
    rcases List.mem_cons.mp mem with rfl | inRest
    · exact firstStaged
    · exact restStaged listed inRest

/-- A day that verifies has every listed file staged at its listed size. -/
theorem staged_of_verified {remoteFiles : List (DayFile × Nat)}
    (ok : (verifyStagedDay staging host day remoteFiles).ok = true) {file : DayFile} {size : Nat}
    (listed : (file, size) ∈ remoteFiles) :
    ∃ staged, staging.lookup (host, day, file) = some staged ∧ staged.size = size := by
  have clean : (verifyStagedDay staging host day remoteFiles).problems = [] := by
    simpa [VerifyResult.ok] using ok
  have folded := (List.append_eq_nil_iff.mp clean).1
  exact (foldl_verifyFile_problems _ folded).2 (file, size) ((List.mem_insertionSort _).mpr listed)

end BtApiCtp.Cleaner
