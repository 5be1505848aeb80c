/-
# InstrumentCatalog.Merge -- the instrument catalog of a trading day

`_Catalog` and `_merge_into` of `instrument_catalog_cache.py`.  Two different rows of one
instrument on one exchange are a conflict, and neither is trusted for the rest of the day.

A listing stands for a set of facts of each instrument (`Stands`): it holds all of them, or it
reports a conflict, which it does exactly when two of them clash.  A set has no order, and so
merging has none (`merging_unordered`).
-/
import BtApiCtp.Theory.Dict
import Mathlib.Data.Finset.Insert
import Mathlib.Data.Rat.Defs

namespace BtApiCtp.InstrumentCatalog

open Theory

structure InstrumentCatalogEntry where
  instrumentId : String
  exchangeId : String
  (exchangeInstrumentId productId productClass : Option String := none)
  priceTick : Option ℚ := none
  volumeMultiple : Option Int := none
  expireDate : Option String := none
  isTrading : Option Bool := none
  lifePhase : Option String := none
  (deliveryYear deliveryMonth : Option Int := none)
  (createDate openDate startDeliveryDate endDeliveryDate : Option String := none)
  (maxMarketOrderVolume minMarketOrderVolume : Option Int := none)
  (maxLimitOrderVolume minLimitOrderVolume : Option Int := none)
  (positionType positionDateType underlyingInstrumentId : Option String := none)
  strikePrice : Option ℚ := none
  optionsType : Option String := none
  underlyingMultiple : Option ℚ := none
  combinationType : Option String := none
  deriving DecidableEq

variable {instrument : String} {entry : InstrumentCatalogEntry}
  {entries : List InstrumentCatalogEntry} {facts : Set InstrumentCatalogEntry} {doomed : Prop}

/-- Two different entries share an exchange. -/
def Clash (facts : Set InstrumentCatalogEntry) : Prop :=
  ∃ entry ∈ facts, ∃ other ∈ facts, entry ≠ other ∧ entry.exchangeId = other.exchangeId

theorem Clash.mono {more : Set InstrumentCatalogEntry} (clash : Clash facts) (sub : facts ⊆ more) :
    Clash more := by
  obtain ⟨entry, mem, other, among, apart, same⟩ := clash
  exact ⟨entry, sub mem, other, sub among, apart, same⟩

/-- What `_merge_into` changes: the entries of each instrument, and the conflicts. -/
structure Listing where
  byInstrument : Dict String (List InstrumentCatalogEntry)
  conflicts : Finset String

namespace Listing

variable {listing : Listing}

def entriesOf (listing : Listing) (instrument : String) : List InstrumentCatalogEntry :=
  (listing.byInstrument.lookup instrument).getD []

/-- The loop of `_merge_into`, once. -/
def add (listing : Listing) (entry : InstrumentCatalogEntry) : Listing :=
  if entry.instrumentId ∈ listing.conflicts then listing
  else
    let current := listing.entriesOf entry.instrumentId
    match current.filter fun item => item.exchangeId = entry.exchangeId with
    | [] => { listing with
        byInstrument := listing.byInstrument.insert entry.instrumentId (current ++ [entry]) }
    | first :: _ =>
      if first = entry then listing
      else ⟨listing.byInstrument.erase entry.instrumentId,
        insert entry.instrumentId listing.conflicts⟩

/-- `_merge_into`. -/
def mergeInto (listing : Listing) (entries : List InstrumentCatalogEntry) : Listing :=
  entries.foldl add listing

/-- What the listing says of an instrument is what these facts say, apart from an instrument that
is conflicted whatever is known of it. -/
structure Stands (listing : Listing) (instrument : String) (doomed : Prop)
    (facts : Set InstrumentCatalogEntry) : Prop where
  conflicted : instrument ∈ listing.conflicts ↔ doomed ∨ Clash facts
  entries : ∀ entry, entry ∈ listing.entriesOf instrument ↔
    instrument ∉ listing.conflicts ∧ entry ∈ facts

/-- The facts after an entry, of any instrument, was added. -/
def learn (instrument : String) (facts : Set InstrumentCatalogEntry)
    (entries : List InstrumentCatalogEntry) : Set InstrumentCatalogEntry :=
  facts ∪ { entry | entry ∈ entries ∧ entry.instrumentId = instrument }

theorem add_other (listing : Listing) (other : instrument ≠ entry.instrumentId) :
    (instrument ∈ (listing.add entry).conflicts ↔ instrument ∈ listing.conflicts) ∧
      (listing.add entry).entriesOf instrument = listing.entriesOf instrument := by
  unfold add
  split
  · exact ⟨Iff.rfl, rfl⟩
  dsimp only
  split
  · exact ⟨Iff.rfl, by simp [entriesOf, other]⟩
  split
  · exact ⟨Iff.rfl, rfl⟩
  · simp [entriesOf, other]

theorem entriesOf_insert (listing : Listing) (instrument : String)
    (entries : List InstrumentCatalogEntry) :
    entriesOf { listing with byInstrument := listing.byInstrument.insert instrument entries }
      instrument = entries := by
  simp [entriesOf]

/-- Adding an entry adds a fact to its own instrument. -/
theorem Stands.add_self (stands : Stands listing entry.instrumentId doomed facts) :
    Stands (listing.add entry) entry.instrumentId doomed (insert entry facts) := by
  unfold Listing.add
  split
  · -- what is conflicted stays so
    rename_i conflicted
    refine ⟨iff_of_true conflicted ?_, fun other => ?_⟩
    · exact (stands.conflicted.mp conflicted).imp_right fun clash => clash.mono (Set.subset_insert _ _)
    · simp [stands.entries, conflicted]
  rename_i trusted
  obtain ⟨undoomed, noClash⟩ := not_or.mp (stands.conflicted.not.mp trusted)
  have known : ∀ other, other ∈ listing.entriesOf entry.instrumentId ↔ other ∈ facts := by
    intro other
    simp [stands.entries, trusted]
  dsimp only
  split
  · -- the first entry of its exchange
    rename_i alone
    have apart : ∀ other ∈ facts, other.exchangeId ≠ entry.exchangeId := by
      simpa [List.filter_eq_nil_iff, known] using alone
    refine ⟨iff_of_false trusted (not_or.mpr ⟨undoomed, ?_⟩), fun other => ?_⟩
    · rintro ⟨one, rfl | mem, two, rfl | among, differ, same⟩
      · exact differ rfl
      · exact apart two among same.symm
      · exact apart one mem same
      · exact noClash ⟨one, mem, two, among, differ, same⟩
    · rw [entriesOf_insert, List.mem_append, known, List.mem_singleton, Set.mem_insert_iff, or_comm]
      exact (and_iff_right trusted).symm
  · rename_i first rest found
    have here : first ∈ facts ∧ first.exchangeId = entry.exchangeId := by
      have mem : first ∈ (listing.entriesOf entry.instrumentId).filter fun item =>
          item.exchangeId = entry.exchangeId := found ▸ List.mem_cons_self
      simpa [known] using mem
    split
    · -- the entry again
      rename_i same
      rw [Set.insert_eq_of_mem (same ▸ here.1)]
      exact stands
    · rename_i differs
      refine ⟨iff_of_true (Finset.mem_insert_self _ _) (.inr ?_), fun other => ?_⟩
      · exact ⟨first, .inr here.1, entry, .inl rfl, differs, here.2⟩
      · simp [entriesOf]

variable (stands : Stands listing instrument doomed facts)
include stands

theorem Stands.add (entry : InstrumentCatalogEntry) :
    Stands (listing.add entry) instrument doomed (learn instrument facts [entry]) := by
  by_cases own : instrument = entry.instrumentId
  · subst own
    have learned : learn entry.instrumentId facts [entry] = insert entry facts := by
      ext other
      simp [learn]
      grind
    rw [learned]
    exact stands.add_self
  · have learned : learn instrument facts [entry] = facts := by
      ext other
      simp [learn]
      grind
    obtain ⟨conflicts, same⟩ := listing.add_other own
    rw [learned]
    exact ⟨conflicts.trans stands.conflicted, fun other => by rw [same, conflicts, stands.entries]⟩

theorem Stands.mergeInto (entries : List InstrumentCatalogEntry) :
    Stands (listing.mergeInto entries) instrument doomed (learn instrument facts entries) := by
  induction entries generalizing listing facts with
  | nil =>
    have learned : learn instrument facts [] = facts := by simp [learn]
    rw [learned]
    exact stands
  | cons entry entries ih =>
    have learned : learn instrument facts (entry :: entries) =
        learn instrument (learn instrument facts [entry]) entries := by
      ext other
      simp [learn]
      grind
    rw [learned]
    exact ih (stands.add entry)

/-- A conflicted instrument has no entries, and entries that clash are a conflict. -/
def Sound (listing : Listing) : Prop :=
  ∀ instrument, Stands listing instrument (instrument ∈ listing.conflicts)
    { entry | entry ∈ listing.entriesOf instrument }

theorem Stands.settled :
    Stands listing instrument (instrument ∈ listing.conflicts)
      { entry | entry ∈ listing.entriesOf instrument } := by
  refine ⟨⟨.inl, fun either => ?_⟩, fun entry => ⟨fun mem => ⟨?_, mem⟩, And.right⟩⟩
  · refine either.elim id fun clash => stands.conflicted.mpr (.inr (clash.mono ?_))
    exact fun entry mem => ((stands.entries entry).mp mem).2
  · exact ((stands.entries entry).mp mem).1

omit stands

theorem Sound.mergeInto (sound : listing.Sound) (entries : List InstrumentCatalogEntry) :
    (listing.mergeInto entries).Sound :=
  fun instrument => ((sound instrument).mergeInto entries).settled

/-- A listing of conflicts only. -/
theorem sound_empty (conflicts : Finset String) : Sound ⟨∅, conflicts⟩ := by
  intro instrument
  have none : ∀ entry, entry ∉ entriesOf ⟨∅, conflicts⟩ instrument := by simp [entriesOf]
  refine ⟨⟨.inl, fun either => either.elim id ?_⟩, fun entry => ?_⟩
  · rintro ⟨entry, mem, _⟩
    exact absurd mem (none entry)
  · exact iff_of_false (none entry) fun both => none entry both.2

end Listing

/-- `_Catalog`. -/
structure Catalog extends Listing where
  scope : String
  tradingDay : String
  skippedRows : Nat
  builtAtUtc : String
  sound : toListing.Sound

namespace Catalog

variable (catalog : Catalog)

def merged (entries : List InstrumentCatalogEntry) : Catalog :=
  { catalog with
    toListing := catalog.mergeInto entries
    sound := catalog.sound.mergeInto entries }

/-- `_catalog_from_entries`. -/
def fromEntries (scope tradingDay : String) (entries : List InstrumentCatalogEntry)
    (skippedRows : Nat) (conflicts : List String) (builtAtUtc : String) : Catalog where
  toListing := Listing.mergeInto ⟨∅, conflicts.toFinset⟩ entries
  scope
  tradingDay
  skippedRows
  builtAtUtc
  sound := (Listing.sound_empty _).mergeInto entries

/-- What a catalog and new entries say of an instrument. -/
def known (instrument : String) (entries : List InstrumentCatalogEntry) :
    Set InstrumentCatalogEntry :=
  Listing.learn instrument { entry | entry ∈ catalog.entriesOf instrument } entries

theorem merged_stands (instrument : String)
    (entries : List InstrumentCatalogEntry) :
    (catalog.merged entries).Stands instrument (instrument ∈ catalog.conflicts)
      (catalog.known instrument entries) :=
  (catalog.sound instrument).mergeInto entries

/-- The same conflicts, and the same entries of each instrument. -/
def Alike (catalog other : Catalog) : Prop :=
  catalog.conflicts = other.conflicts ∧
    ∀ instrument entry, entry ∈ catalog.entriesOf instrument ↔ entry ∈ other.entriesOf instrument

/-- Merging does not depend on the order of the entries and conflicts exactly what clashes; a
conflicted instrument has no entries, and entries may be merged in parts. -/
theorem merging_unordered (a b : List InstrumentCatalogEntry) :
    (∀ reordered, a.Perm reordered → (catalog.merged a).Alike (catalog.merged reordered)) ∧
    (∀ instrument, instrument ∈ (catalog.merged a).conflicts ↔
      instrument ∈ catalog.conflicts ∨ Clash (catalog.known instrument a)) ∧
    (∀ instrument ∈ (catalog.merged a).conflicts, (catalog.merged a).entriesOf instrument = []) ∧
    (catalog.merged a).merged b = catalog.merged (a ++ b) := by
  refine ⟨fun reordered perm => ?_, fun instrument => ?_, fun instrument conflicted => ?_, ?_⟩
  · have same : ∀ instrument, catalog.known instrument reordered = catalog.known instrument a := by
      intro instrument
      simp only [known, Listing.learn, perm.mem_iff]
    have conflicts : (catalog.merged a).conflicts = (catalog.merged reordered).conflicts := by
      ext instrument
      rw [(catalog.merged_stands instrument a).conflicted,
        (catalog.merged_stands instrument reordered).conflicted, same]
    refine ⟨conflicts, fun instrument entry => ?_⟩
    rw [(catalog.merged_stands instrument a).entries,
      (catalog.merged_stands instrument reordered).entries, same, conflicts]
  · exact (catalog.merged_stands instrument a).conflicted
  · refine List.eq_nil_iff_forall_not_mem.mpr fun entry mem => ?_
    exact (((catalog.merged_stands instrument a).entries entry).mp mem).1 conflicted
  · simp [merged, Listing.mergeInto]

end Catalog

end BtApiCtp.InstrumentCatalog
