/-
# Cleaner.Merge -- merging verified copies, and the K lines of a day

`merge_day` folds the staged copies of the given hosts into the authoritative
tree, one instrument at a time; each instrument's file is replaced atomically
with the newest-wins union of what it held and what the copies hold.

`build_day` walks the authoritative files of a day.  A file that cannot be read
is skipped, and the day's K lines are stamped all the same; which instruments
carry bars is decided by the venue's classifier.
-/
import BtApiCtp.Cleaner.World

namespace BtApiCtp.Cleaner

open Theory Collector

variable {day : Day} {exchange : ExchangeId} {instrument : InstrumentId}
  {staging : Dict FileKey File} {hosts : List Host} {host : Host}

/-! ## Merge -/

/-- The instruments with a staged file of the day on one of the hosts, sorted. -/
def stagedInstruments (staging : Dict FileKey File) (hosts : List Host) (day : Day) :
    List (ExchangeId × InstrumentId) :=
  ((staging.items.filterMap fun item =>
    match item.1 with
    | (host, day', .tick exchange instrument) =>
      if host ∈ hosts ∧ day' = day then some (exchange, instrument) else none
    | (_, _, .report) => none).dedup).insertionSort fun a b => toLex a ≤ toLex b

theorem mem_stagedInstruments :
    (exchange, instrument) ∈ stagedInstruments staging hosts day ↔
      ∃ host ∈ hosts, ∃ file, staging.lookup (host, day, .tick exchange instrument) = some file := by
  rw [stagedInstruments, List.mem_insertionSort, List.mem_dedup, List.mem_filterMap]
  constructor
  · rintro ⟨⟨⟨host, day', file⟩, found⟩, mem, hit⟩
    cases file with
    | report => cases hit
    | tick exchange' instrument' =>
      simp only [Option.ite_none_right_eq_some, Option.some.injEq, Prod.mk.injEq] at hit
      obtain ⟨⟨inHosts, rfl⟩, rfl, rfl⟩ := hit
      exact ⟨host, inHosts, found, Dict.mem_items.mp mem⟩
  · rintro ⟨host, inHosts, found, staged⟩
    exact ⟨((host, day, .tick exchange instrument), found), Dict.mem_items.mpr staged,
      by simp [inHosts]⟩

/-- The rows of the staged copies of one instrument, host by host in name order,
or the error of the first copy that does not open. -/
def incomingRows (staging : Dict FileKey File) (day : Day) (exchange : ExchangeId)
    (instrument : InstrumentId) : List Host → Except String (List Row)
  | [] => .ok []
  | host :: hosts =>
    match staging.lookup (host, day, .tick exchange instrument) with
    | none => incomingRows staging day exchange instrument hosts
    | some file =>
      match file.content, incomingRows staging day exchange instrument hosts with
      | .ok rows, .ok rest => .ok (rows ++ rest)
      | .error error, _ => .error error
      | .ok _, .error error => .error error

theorem mem_incomingRows {file : File} {row : Row}
    (staged : staging.lookup (host, day, .tick exchange instrument) = some file)
    (inFile : row ∈ file.rows) :
    ∀ {hosts : List Host} {rows : List Row}, host ∈ hosts →
      incomingRows staging day exchange instrument hosts = .ok rows → row ∈ rows
  | [], _, inHosts, _ => absurd inHosts List.not_mem_nil
  | first :: rest, rows, inHosts, read => by
    unfold incomingRows at read
    by_cases same : host = first
    · subst same
      rw [staged] at read
      unfold File.rows at inFile
      cases content : file.content with
      | error error => simp [content] at inFile
      | ok own =>
        cases tail : incomingRows staging day exchange instrument rest with
        | error error => simp [content, tail] at read
        | ok others =>
          simp only [content, tail, Except.ok.injEq] at read inFile
          rw [← read]
          exact List.mem_append_left others inFile
    · have inRest : host ∈ rest := (List.mem_cons.mp inHosts).resolve_left same
      cases found : staging.lookup (first, day, .tick exchange instrument) with
      | none =>
        simp only [found] at read
        exact mem_incomingRows staged inFile inRest read
      | some copy =>
        cases content : copy.content with
        | error error => simp [found, content] at read
        | ok own =>
          cases tail : incomingRows staging day exchange instrument rest with
          | error error => simp [found, content, tail] at read
          | ok others =>
            simp only [found, content, tail, Except.ok.injEq] at read
            rw [← read]
            exact List.mem_append_right own (mem_incomingRows staged inFile inRest tail)

/-- Python iterates the staging directories, and hence the hosts, in name order. -/
def hostOrder (hosts : List Host) : List Host := hosts.dedup.insertionSort (· ≤ ·)

theorem mem_hostOrder : host ∈ hostOrder hosts ↔ host ∈ hosts := by
  rw [hostOrder, List.mem_insertionSort, List.mem_dedup]

/-- The authoritative file of an instrument merged with `incoming`; nothing is
written when there is nothing to hold. -/
def World.mergeTicks (s : World) (day : Day) (exchange : ExchangeId) (instrument : InstrumentId)
    (incoming : List Row) : World :=
  let existing := s.tickRows day exchange instrument
  let merged := mergeRows existing incoming
  if merged = [] then s
  else
    { s with
      ticks := s.ticks.insert (day, exchange, instrument) merged
      unrecorded := if merged = existing then s.unrecorded else day :: s.unrecorded }

/-- `merge_instrument`. -/
def mergeInstrument (hosts : List Host) (day : Day) (exchange : ExchangeId)
    (instrument : InstrumentId) : Action Unit :=
  fallible fun _ s =>
    match incomingRows s.staging day exchange instrument (hostOrder hosts) with
    | .error error => (.error (.other error), s)
    | .ok incoming => (.ok (), s.mergeTicks day exchange instrument incoming)

section MergeTicks

variable (s : World) (day : Day) (exchange : ExchangeId) (instrument : InstrumentId)
  (incoming : List Row)

/-- A merge touches the tick tree and the note of what is unrecorded. -/
theorem mergeTicks_frame : ∃ ticks unrecorded,
    s.mergeTicks day exchange instrument incoming = { s with ticks, unrecorded } := by
  unfold World.mergeTicks
  dsimp only
  split
  · exact ⟨s.ticks, s.unrecorded, rfl⟩
  · exact ⟨_, _, rfl⟩

theorem tickRows_mergeTicks (day' : Day) (exchange' : ExchangeId) (instrument' : InstrumentId) :
    (s.mergeTicks day exchange instrument incoming).tickRows day' exchange' instrument' =
      if (day', exchange', instrument') = (day, exchange, instrument) then
        mergeRows (s.tickRows day exchange instrument) incoming
      else s.tickRows day' exchange' instrument' := by
  unfold World.mergeTicks
  dsimp only
  split
  · rename_i empty
    split
    · rename_i same
      cases same
      rw [empty]
      exact (mergeRows_eq_nil empty).1
    · rfl
  · rw [World.tickRows, Dict.lookup_insert_eq]
    split
    · rfl
    · rfl

/-- A merge loses nothing that was held. -/
theorem covers_mergeTicks (day' : Day) (exchange' : ExchangeId) (instrument' : InstrumentId)
    (row : Row) (held : Covers (s.tickRows day' exchange' instrument') row) :
    Covers ((s.mergeTicks day exchange instrument incoming).tickRows day' exchange' instrument')
      row := by
  rw [tickRows_mergeTicks]
  split
  · rename_i same
    cases same
    exact covers_mergeRows_left held
  · exact held

end MergeTicks

/-- `merge_day`. -/
def mergeDay (hosts : List Host) (day : Day) : Action Unit := do
  let instruments ← reading fun s => stagedInstruments s.staging hosts day
  Prog.forEach instruments fun key => mergeInstrument hosts day key.1 key.2

/-- Remove one staged file, best effort. -/
def dropStaged (host : Host) (day : Day) (file : DayFile) : Action Unit :=
  Prog.atomic fun c s =>
    match c.failure with
    | some _ => (.ok (), s)
    | none => (.ok (), { s with staging := s.staging.erase (host, day, file) })

/-- `drop_staging_day`: only the merged hosts' copies go. -/
def dropStagingDay (hosts : List Host) (day : Day) : Action Unit :=
  Prog.forEach hosts fun host => do
    let files ← Prog.observe fun s => dayFiles s.staging host day
    Prog.forEach files fun file => dropStaged host day file.1

/-! ## K lines -/

inductive InstrumentKind where
  | future
  | option
  | combination
  | unknown
  deriving DecidableEq, Repr

/-- What an instrument id is, and which K-line symbol directory it belongs to. -/
structure InstrumentClass where
  kind : InstrumentKind
  symbol : Option String
  deriving DecidableEq, Repr

/-- The venue's naming rules and the configured choice about options. -/
structure KlineConfig where
  classifier : ExchangeId → InstrumentId → InstrumentClass
  includeOptions : Bool

variable (config : KlineConfig)

/-- Whether `build_day` builds bars for the instrument. -/
def KlineConfig.builds (exchange : ExchangeId) (instrument : InstrumentId) :
    Bool :=
  let info := config.classifier exchange instrument
  info.kind != .combination && !(info.kind = .option && !config.includeOptions) &&
    (info.kind = .future || info.kind = .option) && (info.symbol.getD "") != ""

/-- The instruments with an authoritative file of the day, sorted. -/
def tickInstruments (ticks : Dict TickKey (List Row)) (day : Day) :
    List (ExchangeId × InstrumentId) :=
  ((ticks.items.filter fun item => item.1.1 = day).map
    fun item => item.1.2).insertionSort fun a b => toLex a ≤ toLex b

theorem mem_tickInstruments {ticks : Dict TickKey (List Row)} :
    (exchange, instrument) ∈ tickInstruments ticks day ↔
      ∃ rows, ticks.lookup (day, exchange, instrument) = some rows := by
  rw [tickInstruments, List.mem_insertionSort]
  constructor
  · intro mem
    obtain ⟨⟨⟨day', key⟩, rows⟩, kept, rfl⟩ := List.mem_map.mp mem
    obtain ⟨inTicks, same⟩ := List.mem_filter.mp kept
    obtain rfl : day' = day := by simpa using same
    exact ⟨rows, Dict.mem_items.mp inTicks⟩
  · rintro ⟨rows, found⟩
    exact List.mem_map.mpr ⟨((day, exchange, instrument), rows),
      List.mem_filter.mpr ⟨Dict.mem_items.mpr found, by simp⟩, rfl⟩

/-- Build one instrument's bars.  A build that raises after writing some of the
periods leaves K lines that are of no one set of rows. -/
def buildInstrument (day : Day) (exchange : ExchangeId)
    (instrument : InstrumentId) : Action Unit :=
  Prog.atomic fun c s =>
    let key := (day, exchange, instrument)
    let rows := s.tickRows day exchange instrument
    if !config.builds exchange instrument then (.ok (), s)
    else if c.unreadable then
      (.ok (), { s with log := s.log ++ [.skippedUnreadable day exchange instrument] })
    else
      match c.failure with
      | none => (.ok (), { s with klines := s.klines.insert key rows })
      | some failure =>
        (.error failure, { s with
          klines := if s.klines.lookup key = some rows then s.klines else s.klines.erase key })

/-- `build_day`. -/
def buildDay (day : Day) : Action Unit := do
  let instruments ← Prog.observe fun s => tickInstruments s.ticks day
  Prog.forEach instruments fun key => buildInstrument config day key.1 key.2

end BtApiCtp.Cleaner
