/-
# Collector.Shard -- the universe split over machines

`collector/shard.py`: every machine selects its instruments by its own configuration, and
`validate_shards` checks the configurations together.  `str.upper` and `zlib.crc32` (of the UTF-8
bytes) are parameters; any functions will do.  The check counts by instrument id, which two
exchanges may share.

* `shards_checked`: the check accepts exactly the partitions just where ids are distinct;
* `shared_id_rejected`: a partition that it rejects, and hash shards that it rejects.
-/
import BtApiCtp.Collector.Tick
import BtApiCtp.Theory.Fallible
import Mathlib.Data.List.Dedup

namespace BtApiCtp.Collector

open Theory

/-- What a shard configuration looks at. -/
structure InstrumentSpec where
  exchangeId : ExchangeId
  instrumentId : InstrumentId
  deriving DecidableEq, Repr

/-- `_STRATEGIES`, or another text as `repr` shows it. -/
inductive Strategy where
  | byExchange
  | byPrefix
  | hashMod
  | unknown (shown : String)
  deriving DecidableEq, Repr

structure ShardConfig where
  strategy : Strategy
  exchanges : List ExchangeId := []
  prefixes : List String := []
  shardId : Int := 0
  totalShards : Int := 1
  deriving DecidableEq, Repr

structure ShardValidationReport where
  overlaps : List InstrumentId
  missing : List InstrumentId
  ok : Bool
  deriving DecidableEq, Repr

def validateConfig (config : ShardConfig) : Except String Unit :=
  match config.strategy with
  | .unknown shown => .error ("unknown shard strategy: " ++ shown)
  | .hashMod =>
    if config.totalShards < 1 then .error "total_shards must be >= 1"
    else if 0 ≤ config.shardId ∧ config.shardId < config.totalShards then .ok ()
    else .error "shard_id must satisfy 0 <= shard_id < total_shards"
  | _ => .ok ()

section

variable (upper : String → String) (crc32 : String → Nat)

/-- `_matches`, for a strategy that was validated. -/
def isMatch (spec : InstrumentSpec) (config : ShardConfig) : Bool :=
  match config.strategy with
  | .byExchange => config.exchanges.contains spec.exchangeId
  | .byPrefix => config.prefixes.any fun start =>
    (upper start).toList.isPrefixOf (upper spec.instrumentId).toList
  | .hashMod => (crc32 spec.instrumentId : Int) % config.totalShards = config.shardId
  | .unknown _ => false

def selectInstruments (instruments : List InstrumentSpec) (config : ShardConfig) :
    Except String (List InstrumentSpec) := do
  validateConfig config
  return instruments.filter (isMatch upper crc32 · config)

def sorted (names : List InstrumentId) : List InstrumentId := names.insertionSort (· ≤ ·)

/-- `validate_shards`; `counts` has each id as often as it was selected. -/
def validateShards (configs : List ShardConfig) (allInstruments : List InstrumentSpec) :
    Except String ShardValidationReport := do
  let selected ← configs.mapM (selectInstruments upper crc32 allInstruments)
  let counts := selected.flatten.map (·.instrumentId)
  let overlaps := sorted (counts.dedup.filter (1 < counts.count ·))
  let missing := sorted ((allInstruments.map (·.instrumentId)).dedup.filter (· ∉ counts))
  return { overlaps, missing, ok := overlaps.isEmpty && missing.isEmpty }

variable {upper crc32} {configs : List ShardConfig} {all : List InstrumentSpec}

/-- What the configurations select, one after another. -/
abbrev chosen (upper : String → String) (crc32 : String → Nat) (all : List InstrumentSpec)
    (configs : List ShardConfig) : List InstrumentId :=
  configs.flatMap fun config => (all.filter (isMatch upper crc32 · config)).map (·.instrumentId)

theorem sorted_eq_nil {names : List InstrumentId} : sorted names = [] ↔ names = [] := by
  rw [← List.length_eq_zero_iff, sorted, List.length_insertionSort, List.length_eq_zero_iff]

theorem validateShards_ok (valid : ∀ config ∈ configs, validateConfig config = .ok ()) :
    ∃ report, validateShards upper crc32 configs all = .ok report ∧
      (report.ok = true ↔ (∀ name ∈ chosen upper crc32 all configs,
          (chosen upper crc32 all configs).count name ≤ 1) ∧
        ∀ spec ∈ all, spec.instrumentId ∈ chosen upper crc32 all configs) := by
  have selected : configs.mapM (selectInstruments upper crc32 all) =
      .ok (configs.map fun config => all.filter (isMatch upper crc32 · config)) := by
    rw [mapM_eq_ok_iff, List.forall₂_map_right_iff, List.forall₂_same]
    intro config mem
    rw [selectInstruments, valid config mem]
    rfl
  have counts : (configs.map fun config => all.filter (isMatch upper crc32 · config)).flatten.map
      (·.instrumentId) = chosen upper crc32 all configs := by
    rw [← List.flatMap_def, List.map_flatMap]
  unfold validateShards
  rw [selected]
  refine ⟨_, rfl, ?_⟩
  simp only [counts, Bool.and_eq_true, List.isEmpty_iff, sorted_eq_nil, List.filter_eq_nil_iff,
    List.mem_dedup, decide_eq_true_eq, not_lt, not_not, List.forall_mem_map]

/-- Where ids are distinct, an id is counted once for every configuration that selects its spec. -/
theorem count_chosen (distinct : (all.map (·.instrumentId)).Nodup) {spec : InstrumentSpec}
    (mem : spec ∈ all) :
    (chosen upper crc32 all configs).count spec.instrumentId =
      configs.countP (isMatch upper crc32 spec) := by
  induction configs with
  | nil => rfl
  | cons config configs ih =>
    have once : ((all.filter (isMatch upper crc32 · config)).map (·.instrumentId)).count
        spec.instrumentId = if isMatch upper crc32 spec config then 1 else 0 := by
      have nodup := distinct.sublist
        ((List.filter_sublist (p := (isMatch upper crc32 · config))).map (·.instrumentId))
      split
      · rename_i matched
        exact List.count_eq_one_of_mem nodup
          (List.mem_map_of_mem (List.mem_filter.mpr ⟨mem, matched⟩))
      · rename_i unmatched
        refine List.count_eq_zero.mpr fun among => unmatched ?_
        obtain ⟨other, selected, same⟩ := List.mem_map.mp among
        obtain ⟨here, matched⟩ := List.mem_filter.mp selected
        rw [← List.inj_on_of_nodup_map distinct here mem same]
        exact matched
    rw [chosen, List.flatMap_cons, List.count_append, once, ih, List.countP_cons, Nat.add_comm]

theorem validateShards_iff (distinct : (all.map (·.instrumentId)).Nodup)
    (valid : ∀ config ∈ configs, validateConfig config = .ok ()) :
    ∃ report, validateShards upper crc32 configs all = .ok report ∧
      (report.ok = true ↔ ∀ spec ∈ all, configs.countP (isMatch upper crc32 spec) = 1) := by
  obtain ⟨report, checked, passes⟩ := validateShards_ok valid
  refine ⟨report, checked, passes.trans ⟨fun both spec mem => ?_, fun once => ⟨?_, ?_⟩⟩⟩
  · have chosen := both.2 spec mem
    have most := both.1 _ chosen
    have least := List.count_pos_iff.mpr chosen
    rw [count_chosen distinct mem] at most least
    omega
  · intro name among
    obtain ⟨config, _, here⟩ := List.mem_flatMap.mp among
    obtain ⟨spec, selected, rfl⟩ := List.mem_map.mp here
    have mem := (List.mem_filter.mp selected).1
    rw [count_chosen distinct mem, once spec mem]
  · intro spec mem
    rw [← List.count_pos_iff, count_chosen distinct mem, once spec mem]
    decide

/-- `hash_mod` shards 0 to `total - 1`. -/
def hashShards (total : Nat) : List ShardConfig :=
  (List.range total).map fun index : Nat =>
    { strategy := .hashMod, shardId := index, totalShards := total }

theorem countP_hashShards {total : Nat} (positive : 0 < total) (spec : InstrumentSpec) :
    (hashShards total).countP (isMatch upper crc32 spec) = 1 := by
  have own : ∀ index, isMatch upper crc32 spec
      { strategy := .hashMod, shardId := (index : Nat), totalShards := total } =
        (index == crc32 spec.instrumentId % total) := by
    intro index
    rw [isMatch, ← Int.natCast_mod, Bool.beq_comm]
    exact decide_eq_decide.mpr Int.ofNat_inj
  rw [hashShards, List.countP_map, Function.comp_def]
  simp only [own]
  exact List.count_eq_one_of_mem List.nodup_range (List.mem_range.mpr (Nat.mod_lt _ positive))

theorem hashShards_valid (total : Nat) :
    ∀ config ∈ hashShards total, validateConfig config = .ok () := by
  simp only [hashShards, List.forall_mem_map, List.mem_range]
  intro index below
  simp only [validateConfig]
  rw [if_neg (by omega), if_pos (by omega)]

/-- The one shard of 1 selects everything. -/
theorem chosen_hashShards_one :
    chosen upper crc32 all (hashShards 1) = all.map (·.instrumentId) := by
  have everything : all.filter
      (isMatch upper crc32 · { strategy := .hashMod, shardId := 0, totalShards := 1 }) = all :=
    List.filter_eq_self.mpr fun spec _ => decide_eq_true (Int.emod_one _)
  calc chosen upper crc32 all (hashShards 1)
      = (all.filter (isMatch upper crc32 ·
          { strategy := .hashMod, shardId := 0, totalShards := 1 })).map (·.instrumentId) :=
        List.append_nil _
    _ = all.map (·.instrumentId) := by rw [everything]

end

/-- **Shards**: the configurations are reported ok exactly if each instrument is selected by one of
them, and hash shards are, just where the ids of the instruments are distinct. -/
theorem shards_checked (upper : String → String) (crc32 : String → Nat)
    (all : List InstrumentSpec) :
    ((∀ configs : List ShardConfig, (∀ config ∈ configs, validateConfig config = .ok ()) →
      ∃ report, validateShards upper crc32 configs all = .ok report ∧
        (report.ok = true ↔ ∀ spec ∈ all, configs.countP (isMatch upper crc32 spec) = 1)) ∧
    ∀ total, 0 < total →
      ∃ report, validateShards upper crc32 (hashShards total) all = .ok report ∧
        report.ok = true) ↔ (all.map (·.instrumentId)).Nodup := by
  refine ⟨fun claimed => ?_, fun distinct =>
    ⟨fun configs => validateShards_iff distinct, fun total positive => ?_⟩⟩
  · -- the one shard of 1 already counts every id as often as it occurs
    obtain ⟨report, checked, passed⟩ := claimed.2 1 Nat.one_pos
    obtain ⟨same, checkedAgain, passes⟩ :=
      @validateShards_ok upper crc32 _ all (hashShards_valid 1)
    obtain rfl : report = same := Except.ok.inj (checked.symm.trans checkedAgain)
    rw [chosen_hashShards_one] at passes
    refine List.nodup_iff_count_le_one.mpr fun name => ?_
    by_cases mem : name ∈ all.map (·.instrumentId)
    · exact (passes.mp passed).1 name mem
    · rw [List.count_eq_zero.mpr mem]
      exact Nat.zero_le 1
  · obtain ⟨report, checked, passes⟩ := validateShards_iff distinct (hashShards_valid total)
    exact ⟨report, checked, passes.mpr fun spec _ => countP_hashShards positive spec⟩

def rebar : InstrumentSpec := ⟨"SHFE", "rb2605"⟩

/-- Two exchanges with one instrument id: each spec is selected once, but the id twice. -/
theorem shared_id_rejected : ∃ all configs,
    all.Nodup ∧ (∀ config ∈ configs, validateConfig config = .ok ()) ∧
      (∀ spec ∈ all, configs.countP (isMatch id String.length spec) = 1) ∧
      (validateShards id String.length configs all).map (·.ok) = .ok false ∧
      (validateShards id String.length (hashShards 1) all).map (·.ok) = .ok false :=
  ⟨[rebar, ⟨"DCE", "rb2605"⟩], [{ strategy := .byExchange, exchanges := ["SHFE"] },
    { strategy := .byExchange, exchanges := ["DCE"] }], by decide, by decide, by decide,
    by decide, by decide⟩

end BtApiCtp.Collector
