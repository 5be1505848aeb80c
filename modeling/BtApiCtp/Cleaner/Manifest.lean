/-
# Cleaner.Manifest -- the record that gates remote deletion

One entry per host and trading day (`cleaner/manifest.py`).  `mark` is what
`Manifest.mark` does to the object in memory; whether the result reaches
`manifest.json` is the business of the pipeline's steps (`Cleaner.Pipeline`).
The nested dictionaries of the source (host, then day) are one dictionary here:
nothing depends on the nesting, every walk over it is sorted.
-/
import BtApiCtp.Theory.Dict
import BtApiCtp.Collector.Tick

namespace BtApiCtp.Cleaner

open Theory Collector

abbrev Host := String

inductive Status where
  | discovered
  | pulled
  | verified
  | merged
  | deleted
  | failed
  deriving DecidableEq, Repr

/-- One verified file, as the manifest records it. -/
structure FileRecord where
  relPath : String
  sizeBytes : Nat
  rows : Nat
  deriving DecidableEq, Repr

/-- One host's state for one trading day. -/
structure DayEntry where
  status : Status := .discovered
  files : List FileRecord := []
  pulledAt : Option String := none
  verifiedAt : Option String := none
  mergedAt : Option String := none
  deletedAt : Option String := none
  klinedAt : Option String := none
  error : Option String := none
  deriving DecidableEq, Repr

/-- The timestamp field each status advance writes (`_STATUS_TIMESTAMP`). -/
def DayEntry.stamp (entry : DayEntry) (now : String) : Status → DayEntry
  | .pulled => { entry with pulledAt := some now }
  | .verified => { entry with verifiedAt := some now }
  | .merged => { entry with mergedAt := some now }
  | .deleted => { entry with deletedAt := some now }
  | .discovered | .failed => entry

/-- A success status clears a previous error; `failed` keeps it unless it brings one. -/
def DayEntry.advance (entry : DayEntry) (status : Status) (files : Option (List FileRecord))
    (error : Option String) (now : String) : DayEntry :=
  DayEntry.stamp
    { entry with
      status
      files := files.getD entry.files
      error := if error.isSome then error else if status = .failed then entry.error else none }
    now status

@[simp] theorem DayEntry.stamp_status (entry : DayEntry) (now : String) (status : Status) :
    (entry.stamp now status).status = entry.status := by
  cases status <;> rfl

@[simp] theorem DayEntry.stamp_klinedAt (entry : DayEntry) (now : String) (status : Status) :
    (entry.stamp now status).klinedAt = entry.klinedAt := by
  cases status <;> rfl

@[simp] theorem DayEntry.advance_status (entry : DayEntry) (status : Status)
    (files : Option (List FileRecord)) (error : Option String) (now : String) :
    (entry.advance status files error now).status = status := by
  rw [DayEntry.advance, DayEntry.stamp_status]

@[simp] theorem DayEntry.advance_klinedAt (entry : DayEntry) (status : Status)
    (files : Option (List FileRecord)) (error : Option String) (now : String) :
    (entry.advance status files error now).klinedAt = entry.klinedAt := by
  rw [DayEntry.advance, DayEntry.stamp_klinedAt]

/-- `manifest.json`. -/
abbrev Manifest := Dict (Host × Day) DayEntry

namespace Manifest

variable (manifest : Manifest)

def entry (host : Host) (day : Day) : Option DayEntry :=
  manifest.lookup (host, day)

def status (host : Host) (day : Day) : Option Status :=
  (manifest.entry host day).map DayEntry.status

/-- The days one host has entries for, sorted. -/
def days (host : Host) : List Day :=
  ((manifest.items.filter fun item => item.1.1 = host).map fun item => item.1.2).insertionSort
    (· ≤ ·)

/-- Advance one host/day's state. -/
def mark (host : Host) (day : Day) (status : Status)
    (files : Option (List FileRecord)) (error : Option String) (now : String) : Manifest :=
  manifest.insert (host, day)
    (((manifest.entry host day).getD {}).advance status files error now)

/-- Record that the day's K lines were built, on every host's entry of the day. -/
def markKlined (day : Day) (now : String) : Manifest :=
  manifest.mapValues fun key entry =>
    if key.2 = day then { entry with klinedAt := some now } else entry

/-- Whether the entry is of a day already merged (or reclaimed) whose K lines are missing. -/
def NeedsKline (entry : DayEntry) : Prop :=
  entry.klinedAt = none ∧ (entry.status = .merged ∨ entry.status = .deleted)

instance (entry : DayEntry) : Decidable (NeedsKline entry) :=
  inferInstanceAs (Decidable (_ ∧ _))

def daysNeedingKline : List Day :=
  ((manifest.items.filter fun item => NeedsKline item.2).map fun item => item.1.2).dedup
    |>.insertionSort (· ≤ ·)

/-! ## What the operations do to one entry -/

theorem mem_daysNeedingKline {manifest : Manifest} {day : Day} :
    day ∈ manifest.daysNeedingKline ↔
      ∃ host entry, manifest.entry host day = some entry ∧ NeedsKline entry := by
  rw [daysNeedingKline, List.mem_insertionSort, List.mem_dedup]
  constructor
  · intro mem
    obtain ⟨⟨⟨host, day'⟩, entry⟩, kept, rfl⟩ := List.mem_map.mp mem
    obtain ⟨found, needs⟩ := List.mem_filter.mp kept
    exact ⟨host, entry, Dict.mem_items.mp found, by simpa using needs⟩
  · rintro ⟨host, entry, found, needs⟩
    refine List.mem_map.mpr ⟨((host, day), entry), List.mem_filter.mpr ⟨?_, by simpa using needs⟩,
      rfl⟩
    exact Dict.mem_items.mpr found

section Marking

variable {manifest : Manifest} {host host' : Host} {day day' : Day} {status : Status}
  {files : Option (List FileRecord)} {error : Option String} {now : String}

theorem entry_mark_self :
    (manifest.mark host day status files error now).entry host day =
      some (((manifest.entry host day).getD {}).advance status files error now) :=
  AList.lookup_insert manifest

theorem entry_mark_ne (other : (host', day') ≠ (host, day)) :
    (manifest.mark host day status files error now).entry host' day' = manifest.entry host' day' :=
  AList.lookup_insert_ne other

theorem status_mark :
    (manifest.mark host day status files error now).status host' day' =
      if (host', day') = (host, day) then some status else manifest.status host' day' := by
  rw [Manifest.status, Manifest.status]
  split
  · rename_i same
    cases same
    rw [entry_mark_self, Option.map_some, DayEntry.advance_status]
  · rename_i other
    rw [entry_mark_ne other]

theorem entry_markKlined :
    (manifest.markKlined day now).entry host' day' = (manifest.entry host' day').map fun entry =>
        if day' = day then { entry with klinedAt := some now } else entry :=
  Dict.lookup_mapValues _ manifest (host', day')

@[simp] theorem status_markKlined :
    (manifest.markKlined day now).status host' day' = manifest.status host' day' := by
  rw [Manifest.status, entry_markKlined, Option.map_map, Manifest.status]
  refine congrArg (fun f => Option.map f _) (funext fun entry => ?_)
  by_cases same : day' = day <;> simp [same]

end Marking
end Manifest
end BtApiCtp.Cleaner
