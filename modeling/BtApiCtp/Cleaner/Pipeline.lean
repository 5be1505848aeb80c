/-
# Cleaner.Pipeline -- pull, verify, merge, K line, reclaim

The commands of `cleaner/pipeline.py` as programs over `World`, one atomic step
per operation on a disk or on the manifest, and the machine that runs them under
the process lock beside the collectors that write the remote trees.

Reports that nothing reads back (counts, texts for the operator) are left out.
-/
import BtApiCtp.Cleaner.Merge
import BtApiCtp.Cleaner.Pull

namespace BtApiCtp.Cleaner

open Theory Collector

/-- The parts of `CleanerConfig` that decide what a run does, with the classifier
it is given. -/
structure CleanerConfig where
  hosts : List Backend
  deleteRemoteAfterVerify : Bool := true
  kline : KlineConfig

/-! ## Discovery, pull and verification -/

variable (backend : Backend) (backends : List Backend) (config : CleanerConfig)
  (manifest : Manifest)

/-- Add the day to the ready ones if it is complete and not already merged or reclaimed. -/
def discoverDay (ready : List Day) (day : Day) : Action (List Day) := do
  let status ← Prog.observe fun s => s.memory.status backend.name day
  if status = some .merged ∨ status = some .deleted then return ready
  let complete ← tryCatch (backend.hasReport day) fun failure =>
    match failure with
    | .pull _ => pure false
    | .other message => throw (.other message)
  return if complete then ready ++ [day] else ready

/-- The days of one host that need pulling; a host that cannot be listed has none. -/
def discoverHost (onlyDay : Option Day) : Action (List Day) := do
  let days ← tryCatch backend.listDays fun failure =>
    match failure with
    | .pull _ => pure []
    | .other message => throw (.other message)
  Prog.loop (days.filter fun day => onlyDay = none ∨ onlyDay = some day) [] (discoverDay backend)

/-- `_discover`, down to the days that are ready. -/
def discover (onlyDay : Option Day) : Action (Dict Host (List Day)) :=
  Prog.loop backends ∅ fun reports backend => do
    let ready ← discoverHost backend onlyDay
    return reports.insert backend.name ready

/-- The pull of one day inside the `try` of `_pull_and_verify`. -/
def pullDaySteps (day : Day) : Action Unit := do
  mark backend.name day .discovered none none
  let remoteFiles ← backend.listDayFiles day
  backend.fetchDay day
  mark backend.name day .pulled none none
  let verification ← reading fun s => verifyStagedDay s.staging backend.name day remoteFiles
  if verification.ok then mark backend.name day .verified (some verification.files) none
  else mark backend.name day .failed none (some ("; ".intercalate (verification.problems.take 3)))

/-- Pull and verify one day; any exception marks it failed. -/
def pullDay (day : Day) : Action Unit := do
  Prog.modify fun s => { s with pulling := some (backend.name, day) }
  tryCatch (pullDaySteps backend day) fun failure =>
    mark backend.name day .failed none (some failure.message)
  Prog.modify fun s => { s with pulling := none }

/-- `_pull_and_verify`. -/
def pullAndVerify (reports : Dict Host (List Day)) (dryRun : Bool) :
    Action Unit :=
  if dryRun then pure ()
  else
    Prog.forEach backends fun backend =>
      Prog.forEach ((reports.lookup backend.name).getD []) fun day => pullDay backend day

/-! ## Merge and K lines -/

/-- `_verified_days`. -/
def verifiedDays (backends : List Backend) : List Day :=
  ((backends.flatMap fun backend =>
    (manifest.days backend.name).filter fun day =>
      manifest.status backend.name day = some .verified).dedup).insertionSort (· ≤ ·)

/-- `_verified_hosts`: the hosts whose copy of the day verified. -/
def verifiedHosts (backends : List Backend) (day : Day) : List Host :=
  (backends.map Backend.name).filter fun host => manifest.status host day = some .verified

/-- The body of `_merge_days` for one day. -/
def mergeVerified (day : Day) : Action Unit := do
  let hosts ← Prog.observe fun s => verifiedHosts s.memory backends day
  if hosts = [] then return
  mergeDay hosts day
  Prog.forEach hosts fun host => mark host day .merged none none
  dropStagingDay hosts day

/-- `_merge_days` over `_verified_days`. -/
def mergeDays (dryRun : Bool) : Action Unit := do
  let days ← Prog.observe fun s => verifiedDays s.memory backends
  if dryRun then return
  Prog.forEach days fun day => mergeVerified backends day

/-- `_kline_days`. -/
def klineDays (config : KlineConfig) (days : List Day) (dryRun : Bool) : Action Unit :=
  if dryRun then pure ()
  else
    Prog.forEach days fun day => do
      buildDay config day
      markKlined day

/-! ## Reclaim -/

structure ReclaimDecision where
  delete : Bool
  reason : String
  deriving DecidableEq, Repr

/-- The status as the manifest file spells it. -/
def Status.name : Status → String
  | .discovered => "discovered"
  | .pulled => "pulled"
  | .verified => "verified"
  | .merged => "merged"
  | .deleted => "deleted"
  | .failed => "failed"

/-- `plan_reclaim`. -/
def planReclaim (host : Host) (day : Day) (enabled : Bool) :
    ReclaimDecision :=
  if !enabled then ⟨false, "reclaim disabled by config"⟩
  else
    match manifest.status host day with
    | none => ⟨false, "not in manifest"⟩
    | some status =>
      if status ≠ .merged then ⟨false, "status=" ++ status.name⟩
      else ⟨true, "verified and merged"⟩

theorem planReclaim_delete {manifest : Manifest} {host : Host} {day : Day} {enabled : Bool} :
    (planReclaim manifest host day enabled).delete = true ↔
      enabled = true ∧ manifest.status host day = some .merged := by
  unfold planReclaim
  cases enabled with
  | false => simp
  | true =>
    cases found : manifest.status host day with
    | none => simp
    | some status => by_cases merged : status = .merged <;> simp [merged]

/-- `remote_root.rstrip("/\\")`. -/
def stripTrailingSlashes (root : String) : String :=
  String.ofList (root.toList.reverse.dropWhile fun c => c = '/' || c = '\\').reverse

/-- `safe_day_path`, `none` where it raises. -/
def safeDayPath (remoteRoot : String) (day : Day) : Option String :=
  let root := stripTrailingSlashes remoteRoot
  if isDayName day && root != "" then some (root ++ "/" ++ day) else none

/-- Call `delete_day` and record a success; a failure is only noted. -/
def reclaimDay (day : Day) : Action Unit := do
  Prog.modify fun s => { s with log := s.log ++ [.deleteDay backend.name day] }
  let deleted ← tryCatch
    (do
      backend.deleteDay day
      Prog.modify fun s => { s with log := s.log ++ [.deleteDone backend.name day] }
      return true)
    fun _ => do
      Prog.modify fun s => { s with log := s.log ++ [.deleteFailed backend.name day] }
      return false
  if deleted then mark backend.name day .deleted none none

/-- `execute_reclaim`. -/
def executeReclaim (enabled dryRun : Bool) : Action Unit := do
  let days ← Prog.observe fun s => s.memory.days backend.name
  Prog.forEach days fun day => do
    let decision ← Prog.observe fun s => planReclaim s.memory backend.name day enabled
    if (safeDayPath backend.remoteRoot day).isSome ∧ decision.delete = true ∧ dryRun = false then
      reclaimDay backend day

/-- `_reclaim_all`. -/
def reclaimAll (dryRun : Bool) : Action Unit :=
  Prog.forEach config.hosts fun backend =>
    executeReclaim backend config.deleteRemoteAfterVerify dryRun

/-! ## Commands -/

inductive Command where
  | run (config : CleanerConfig) (onlyDay : Option Day) (dryRun : Bool)
  | pullOnly (config : CleanerConfig) (onlyDay : Option Day) (dryRun : Bool)
  | mergeOnly (config : CleanerConfig) (dryRun : Bool)
  | klineOnly (config : CleanerConfig) (days : Option (List Day)) (backfill dryRun : Bool)

/-- `run`. -/
def run (onlyDay : Option Day) (dryRun : Bool) : Action Unit := do
  openManifest
  let reports ← discover config.hosts onlyDay
  pullAndVerify config.hosts reports dryRun
  mergeDays config.hosts dryRun
  let days ← Prog.observe fun s => s.memory.daysNeedingKline
  klineDays config.kline days dryRun
  reclaimAll config dryRun

/-- `pull_only`. -/
def pullOnly (onlyDay : Option Day) (dryRun : Bool) : Action Unit := do
  openManifest
  let reports ← discover config.hosts onlyDay
  pullAndVerify config.hosts reports dryRun

/-- `merge_only`. -/
def mergeOnly (dryRun : Bool) : Action Unit := do
  openManifest
  mergeDays config.hosts dryRun
  let days ← Prog.observe fun s => s.memory.daysNeedingKline
  klineDays config.kline days dryRun

/-- The day directories of the tick tree that `--backfill` selects. -/
def backfillDays (ticks : Dict TickKey (List Row)) : List Day :=
  (((ticks.items.map fun item => item.1.1).filter fun day =>
    Python.isDigit day && day.length == 8).dedup).insertionSort (· ≤ ·)

/-- `kline_only`. -/
def klineOnly (days : Option (List Day)) (backfill dryRun : Bool) :
    Action Unit := do
  openManifest
  let selected ← Prog.observe fun s =>
    if backfill then backfillDays s.ticks
    else
      match days with
      | some days => days.insertionSort (· ≤ ·)
      | none => s.memory.daysNeedingKline
  klineDays config.kline selected dryRun

def Command.program : Command → Action Unit
  | .run config onlyDay dryRun => Cleaner.run config onlyDay dryRun
  | .pullOnly config onlyDay dryRun => Cleaner.pullOnly config onlyDay dryRun
  | .mergeOnly config dryRun => Cleaner.mergeOnly config dryRun
  | .klineOnly config days backfill dryRun => Cleaner.klineOnly config days backfill dryRun

/-! ## The remote side -/

/-- What happens to a remote tree: a collector replaces one final file with its
rows and a batch, or writes the day's report; `replace` is any other change of a
file of the tree. -/
inductive RemoteAct where
  | compact (host : Host) (day : Day) (exchange : ExchangeId) (instrument : InstrumentId)
      (rows : List Row) (mergeExisting : Bool) (size : Nat)
  | finalize (host : Host) (day : Day) (size : Nat)
  | replace (host : Host) (day : Day) (file : DayFile) (content : Option File)

/-- The day directory the change is made in. -/
def RemoteAct.target : RemoteAct → Host × Day
  | .compact host day _ _ _ _ _ => (host, day)
  | .finalize host day _ => (host, day)
  | .replace host day _ _ => (host, day)

/-- The rows a compaction merges its batch with.  It raises before it writes when
it cannot read them. -/
def existingRows (remote : Dict FileKey File) (key : FileKey) (mergeExisting : Bool) :
    Except String (List Row) :=
  if mergeExisting then
    match remote.lookup key with
    | some file => file.content
    | none => .ok []
  else .ok []

/-- One file operation on a remote tree. -/
def RemoteAct.apply : RemoteAct → World → World
  | .compact host day exchange instrument rows mergeExisting size, s =>
    match existingRows s.remote (host, day, .tick exchange instrument) mergeExisting with
    | .error _ => s
    | .ok existing =>
      { s with
        remote := s.remote.insert (host, day, .tick exchange instrument)
          ⟨size, .ok (mergeRows existing rows)⟩
        persisted := s.persisted ++ rows.map fun row => ⟨host, day, exchange, instrument, row⟩ }
  | .finalize host day size, s =>
    { s with
      remote := s.remote.insert (host, day, .report) ⟨size, .ok []⟩
      reported := (host, day) :: s.reported }
  | .replace host day file content, s =>
    { s with
      remote := s.remote.put (host, day, file) content
      reported := if file = .report then (host, day) :: s.reported else s.reported }

/-- The cleaner beside the collectors.  Its process lock admits one run at a time, so there
is one thread, and no memory outlives it. -/
def machine : System World Chance Failure Unit Unit Command RemoteAct where
  thread _ := ()
  program := Command.program
  accept _ s := some s
  owner _ := ()
  finish _ s := { s with memory := ∅, pulling := none }
  exit _ s := { s with memory := ∅, pulling := none }
  env := RemoteAct.apply

/-- What can happen in a run of the cleaner. -/
abbrev Happening := Event Chance Unit Unit Command RemoteAct

/-- A world with no cleaner running. -/
abbrev idle (s : World) : Pool World Chance Failure Unit := ⟨s, ∅⟩

end BtApiCtp.Cleaner
