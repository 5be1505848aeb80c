/-
# Query.Invariant -- what is true of the lane at every moment

`Stored` speaks about the accumulators and the packets that came for them, `Numbered` about
the journal, `Slotted` about the slot: as long as every query that was sent held the slot,
there is at most one in flight, and the slot is its own.
-/
import BtApiCtp.Query.Journal
import BtApiCtp.Query.Writes

namespace BtApiCtp.Query

open Theory

variable {ρ δ : Type} {slot : Option (Int × RequestType × Int)} {generation i : Int} {t : Nat}
  {generation' k : Int}

/-- The packets that came for a query. -/
def Lane.packetsOf (s : Lane ρ δ) (a : Accumulator ρ δ) : List (Packet ρ) :=
  (s.arrived.filter fun x => decide (x.1 = a.connectionGeneration) &&
    decide (x.2.requestId = a.requestId) &&
    decide (x.2.requestType = some a.requestType)).map Prod.snd

structure Stored (rows : Rows ρ δ) (s : Lane ρ δ) : Prop where
  key : ∀ i a, s.accumulators.lookup i = some a → a.requestId = i
  sane : ∀ i a, s.accumulators.lookup i = some a → Sane rows (s.packetsOf a) a
  kept : ∀ i a, s.accumulators.lookup i = some a → i ∈ s.queryHistory ∨ a.isSealed = true
  known : ∀ x ∈ s.arrived, (s.accumulators.lookup x.2.requestId).isSome = true

structure Numbered (s : Lane ρ δ) : Prop where
  bound : ∀ t i, .numbered t i ∈ s.journal → i ≤ s.reqId
  unique : ∀ t u i, .numbered t i ∈ s.journal → .numbered u i ∈ s.journal → t = u
  opened : ∀ t i, .opened t i ∈ s.journal → .numbered t i ∈ s.journal
  tallied : ∀ x, x ∈ (tally s.journal).opening ∨ x ∈ (tally s.journal).busy →
    .opened x.1 x.2 ∈ s.journal
  prompted : Prompted (s.ingress ≠ some false) s.journal

/-- At most one query holds the slot or is in flight, and the slot is its own. -/
structure Alone (journal : List Mark) (slot : Option (Int × RequestType × Int))
    (generation : Int) : Prop where
  exclusive : Exclusive journal
  single : (tally journal).busy.length ≤ 1
  owned : ∀ x ∈ (tally journal).busy, ∃ requestType, slot = some (x.2, requestType, generation)

structure Slotted (s : Lane ρ δ) : Prop where
  generation : ∀ x a, x ∈ (tally s.journal).opening → s.accumulators.lookup x.2 = some a →
    a.connectionGeneration = s.connectionGeneration
  slot : ∀ x, s.queryNativeInflight = some x →
    ∃ a, s.accumulators.lookup x.1 = some a ∧ a.requestType = x.2.1
  alone : s.poisoned = false → Orderly s.journal →
    Alone s.journal s.queryNativeInflight s.connectionGeneration
  loggedIn : s.loggedIn = true → 0 < s.connectionGeneration
  registered : ∀ i a, s.accumulators.lookup i = some a → ∃ t, .numbered t i ∈ s.journal

structure Inv (rows : Rows ρ δ) (s : Lane ρ δ) : Prop where
  stored : Stored rows s
  numbered : Numbered s
  slotted : Slotted s

variable {rows : Rows ρ δ} {s : Lane ρ δ} {m : Mark} {journal : List Mark}

/-! ## A mark -/

variable {a b : Accumulator ρ δ} {f : Accumulator ρ δ → Accumulator ρ δ} {p : Packet ρ}

/-- What must be true where a mark is made. -/
def Mark.Valid (s : Lane ρ δ) : Mark → Prop
  | .numbered _ i => i ≤ s.reqId ∧ ∀ u, .numbered u i ∉ s.journal
  | .opened t i => .numbered t i ∈ s.journal ∧ s.accumulators.lookup i = none
  | .entered t i => .opened t i ∈ s.journal ∧
      ((t, i) ∈ (tally s.journal).held ∨ .terminal i ∈ s.journal ∨
        (s.ingress ≠ some false ∧ Unsteady t i s.journal))
  | _ => True

theorem Numbered.mark (inv : Numbered s) (valid : m.Valid s) : Numbered (s.mark m) where
  bound t i mem := by
    rcases mem_snoc.mp mem with earlier | rfl
    · exact inv.bound t i earlier
    · exact valid.1
  unique t u i first second := by
    rcases mem_snoc.mp first with earlier | rfl
    · rcases List.mem_append.mp second with earlier' | new'
      · exact inv.unique t u i earlier earlier'
      · obtain rfl := List.mem_singleton.mp new'
        exact absurd earlier (valid.2 t)
    · rcases List.mem_append.mp second with earlier' | new'
      · exact absurd earlier' (valid.2 u)
      · simpa [eq_comm] using new'
  opened t i mem := by
    rcases mem_snoc.mp mem with earlier | rfl
    · exact List.mem_append_left _ (inv.opened t i earlier)
    · exact List.mem_append_left _ valid.1
  tallied x mem := by
    change x ∈ (tally (s.journal ++ [m])).opening ∨ x ∈ (tally (s.journal ++ [m])).busy at mem
    rw [tally_append] at mem
    rcases Tally.mem_note mem with old | rfl | rfl
    · exact List.mem_append_left _ (inv.tallied x old)
    · exact List.mem_concat_self
    · exact List.mem_append_left _ valid.1
  prompted := by
    intro before thread requestId after split
    rcases append_singleton_split split with ⟨rfl, rfl, -⟩ | ⟨after', -, earlier⟩
    · exact valid.2
    · exact inv.prompted before thread requestId after' earlier

theorem Alone.mark (alone : Alone journal slot generation) (quiet : m.takesSlot = false) :
    Alone (journal ++ [m]) slot generation := by
  have sub : ((tally (journal ++ [m])).busy).Sublist (tally journal).busy := by
    rw [tally_append]
    exact Tally.busy_note_sublist quiet
  refine ⟨exclusive_append alone.exclusive ?_, sub.length_le.trans alone.single,
    fun x mem => alone.owned x (sub.subset mem)⟩
  rintro t i rfl
  cases quiet

/-- The query that holds the slot is sent. -/
theorem Alone.entered (alone : Alone journal slot generation)
    (held : (t, i) ∈ (tally journal).held) : Alone (journal ++ [.entered t i]) slot generation := by
  obtain ⟨onlyHeld, noneOut⟩ := Tally.eq_of_busy alone.single held
  refine ⟨exclusive_append alone.exclusive fun _ _ _ => noneOut, ?_, ?_⟩
  · rw [tally_append]
    simp [Tally.note, Tally.busy, onlyHeld, noneOut, without]
  · intro x mem
    rw [tally_append] at mem
    have same : x = (t, i) := by
      simpa [Tally.note, Tally.busy, onlyHeld, noneOut, without] using mem
    rw [same]
    exact alone.owned (t, i) (by simp [Tally.busy, onlyHeld])

/-- A query takes the empty slot. -/
theorem Alone.reserved {requestType : RequestType} (alone : Alone journal none generation)
    (current : (t, i) ∈ (tally journal).opening → generation' = generation) :
    Alone (journal ++ [.reserved t i]) (some (i, requestType, generation')) generation := by
  have idle : (tally journal).busy = [] := by
    by_contra busy
    obtain ⟨x, mem⟩ := List.exists_mem_of_ne_nil _ busy
    obtain ⟨kind, owned⟩ := alone.owned x mem
    cases owned
  obtain ⟨noneHeld, noneOut⟩ := List.append_eq_nil_iff.mp idle
  refine ⟨exclusive_append alone.exclusive fun _ _ same => by simp at same, ?_, ?_⟩
  · rw [tally_append]
    by_cases opening : (t, i) ∈ (tally journal).opening <;>
      simp [Tally.note, Tally.busy, opening, noneHeld, noneOut]
  · intro x mem
    rw [tally_append] at mem
    by_cases opening : (t, i) ∈ (tally journal).opening
    · have same : x = (t, i) := by
        simpa [Tally.note, Tally.busy, opening, noneHeld, noneOut] using mem
      rw [same, current opening]
      exact ⟨requestType, rfl⟩
    · simp [Tally.note, Tally.busy, opening, noneHeld, noneOut] at mem

/-- A change of the connection lets every query go. -/
theorem Alone.connection {slot' : Option (Int × RequestType × Int)}
    (alone : Alone journal slot generation) :
    Alone (journal ++ [.connection]) slot' generation' := by
  have empty : (tally (journal ++ [.connection])).busy = [] := by
    rw [tally_append]
    rfl
  refine ⟨exclusive_append alone.exclusive fun _ _ same => by simp at same, ?_, ?_⟩
  · rw [empty]
    exact Nat.zero_le 1
  · rw [empty]
    intro x mem
    cases mem

variable (inv : Slotted s)
include inv

theorem Slotted.mark (valid : m.Valid s)
    (given : ∀ t i, m ≠ .reserved t i) : Slotted (s.mark m) where
  generation x a mem found := by
    change x ∈ (tally (s.journal ++ [m])).opening at mem
    rw [tally_append] at mem
    rcases Tally.mem_note_opening mem with old | rfl
    · exact inv.generation x a old found
    · cases found.symm.trans valid.2
  slot := inv.slot
  alone fine orderly := by
    obtain ⟨before, -, held⟩ := orderly.of_append
    have alone := inv.alone fine before
    cases m with
    | reserved t i => exact absurd rfl (given t i)
    | entered t i => exact alone.entered (held t i rfl)
    | _ => exact alone.mark rfl
  loggedIn := inv.loggedIn
  registered i a found := by
    obtain ⟨t, mem⟩ := inv.registered i a found
    exact ⟨t, List.mem_append_left _ mem⟩

/-! ## The slot -/

/-- Without a busy query the slot may be empty. -/
theorem Slotted.clearSlot (free : s.poisoned = false → Orderly s.journal → (tally s.journal).busy = []) :
    Slotted { s with queryNativeInflight := none } where
  generation := inv.generation
  slot x taken := by cases taken
  alone fine orderly := by
    have alone := inv.alone fine orderly
    refine ⟨alone.exclusive, alone.single, fun x mem => ?_⟩
    rw [free fine orderly] at mem
    cases mem
  loggedIn := inv.loggedIn
  registered := inv.registered

/-- A slot of another connection is nobody's. -/
theorem Slotted.querySlotBlocking : Slotted s.querySlotBlocking.2 := by
  unfold Lane.querySlotBlocking
  split
  · exact inv
  · rename_i slot taken
    split
    · exact inv
    · rename_i stale
      refine inv.clearSlot fun fine orderly => ?_
      by_contra busy
      obtain ⟨x, mem⟩ := List.exists_mem_of_ne_nil _ busy
      obtain ⟨requestType, owned⟩ := (inv.alone fine orderly).owned x mem
      rw [taken] at owned
      exact stale (by rw [Option.some.inj owned])

/-- A slot is given up by the one query that may have it. -/
theorem Slotted.release (requestType : Option RequestType)
    (free : ∀ x ∈ (tally s.journal).busy, x.2 ≠ i) :
    Slotted (s.releaseQuerySlot i requestType) := by
  unfold Lane.releaseQuerySlot
  split
  · exact inv
  · rename_i slot taken
    split
    · rename_i mine
      refine inv.clearSlot fun fine orderly => ?_
      by_contra busy
      obtain ⟨x, mem⟩ := List.exists_mem_of_ne_nil _ busy
      obtain ⟨kind, owned⟩ := (inv.alone fine orderly).owned x mem
      rw [taken] at owned
      exact free x mem (by rw [← mine.1, Option.some.inj owned])
    · exact inv

/-- The lane is free, and a query takes the slot. -/
theorem Slotted.reserve {t : Nat}
    (free : s.queryNativeInflight = none ∨ s.poisoned = true)
    (found : s.accumulators.lookup i = some a) :
    Slotted ({ s with
      queryNativeInflight := some (i, a.requestType, a.connectionGeneration) }.mark
        (.reserved t i)) where
  generation x b mem found' := by
    change x ∈ (tally (s.journal ++ [.reserved t i])).opening at mem
    rw [tally_append] at mem
    rcases Tally.mem_note_opening mem with old | same
    · exact inv.generation x b old found'
    · cases same
  slot x taken := by
    cases taken
    exact ⟨a, found, rfl⟩
  alone fine orderly := by
    have alone := inv.alone fine orderly.of_append.1
    have empty : s.queryNativeInflight = none := by
      rcases free with empty | poisoned
      · exact empty
      · exact absurd (fine.symm.trans poisoned) (by simp)
    rw [empty] at alone
    exact alone.reserved fun opening => inv.generation (t, i) a opening found
  loggedIn := inv.loggedIn
  registered i a found := by
    obtain ⟨t, mem⟩ := inv.registered i a found
    exact ⟨t, List.mem_append_left _ mem⟩

omit inv

/-! ## The accumulators -/

theorem lookup_modifyAccumulator :
    (s.modifyAccumulator i f).accumulators.lookup k = some a ↔
      ∃ b, s.accumulators.lookup k = some b ∧ (if k = i then f b else b) = a := by
  unfold Lane.modifyAccumulator
  rw [Dict.lookup_mapValues, Option.map_eq_some_iff]

theorem Lane.packetsOf_keeps {a' : Accumulator ρ δ} (keeps : Keeps a a') :
    s.packetsOf a' = s.packetsOf a := by
  unfold Lane.packetsOf
  rw [keeps.requestType, keeps.requestId, keeps.connectionGeneration]

theorem Stored.modify (inv : Stored rows s) (keeps : ∀ a, Keeps a (f a))
    (sane : ∀ a, s.accumulators.lookup i = some a → Sane rows (s.packetsOf a) (f a)) :
    Stored rows (s.modifyAccumulator i f) := by
  have each : ∀ k a b, (if k = i then f b else b) = a → Keeps b a := by
    rintro k a b rfl
    split
    · exact keeps b
    · exact .refl b
  refine ⟨fun k a found => ?_, fun k a found => ?_, fun k a found => ?_, fun x mem => ?_⟩
  · obtain ⟨b, before, same⟩ := lookup_modifyAccumulator.mp found
    exact (each k a b same).requestId.trans (inv.key k b before)
  · obtain ⟨b, before, same⟩ := lookup_modifyAccumulator.mp found
    change Sane rows (s.packetsOf a) a
    rw [Lane.packetsOf_keeps (each k a b same)]
    by_cases here : k = i
    · subst here
      rw [if_pos rfl] at same
      rw [← same]
      exact sane b before
    · rw [if_neg here] at same
      rw [← same]
      exact inv.sane k b before
  · obtain ⟨b, before, same⟩ := lookup_modifyAccumulator.mp found
    exact (inv.kept k b before).imp_right (each k a b same).isSealed
  · obtain ⟨b, found⟩ := Option.isSome_iff_exists.mp (inv.known x mem)
    exact Option.isSome_iff_exists.mpr ⟨_, lookup_modifyAccumulator.mpr ⟨b, found, rfl⟩⟩

theorem Slotted.modify (inv : Slotted s) (keeps : ∀ a, Keeps a (f a)) :
    Slotted (s.modifyAccumulator i f) where
  generation x a mem found := by
    obtain ⟨b, before, same⟩ := lookup_modifyAccumulator.mp found
    have old := inv.generation x b mem before
    by_cases here : x.2 = i
    · rw [if_pos here] at same
      rw [← same]
      exact (keeps b).connectionGeneration.trans old
    · rw [if_neg here] at same
      rw [← same]
      exact old
  slot x taken := by
    obtain ⟨a, found, kind⟩ := inv.slot x taken
    refine ⟨_, lookup_modifyAccumulator.mpr ⟨a, found, rfl⟩, ?_⟩
    split
    · exact (keeps a).requestType.trans kind
    · exact kind
  alone := inv.alone
  loggedIn := inv.loggedIn
  registered k a found := by
    obtain ⟨b, before, -⟩ := lookup_modifyAccumulator.mp found
    exact inv.registered k b before

/-! ## A new accumulator -/

theorem sane_blank (blank : a.Blank) : Sane rows [] a := by
  rw [blank]
  refine ⟨⟨[], [], rfl, rfl, fun _ => rfl, fun _ _ mem => ?_, fun _ _ mem => ?_,
    fun last => ?_⟩, fun last => ?_, fun _ _ => Nat.zero_le _, fun last => ?_,
    fun _ => ⟨rfl, rfl, rfl, rfl⟩, fun done => ?_, fun _ signal => ?_⟩
  · cases mem
  · cases mem
  all_goals simp_all [Accumulator.recorded]

/-- Only sealed accumulators leave the history. -/
theorem mem_evict (accumulators : Dict Int (Accumulator ρ δ)) :
    ∀ {ids : List Int}, i ∈ ids → i ∈ Lane.evict accumulators ids ∨
      (accumulators.lookup i).any Accumulator.isSealed = true
  | oldest :: rest, mem => by
    unfold Lane.evict
    split
    · rename_i full
      rcases List.mem_cons.mp mem with rfl | later
      · exact .inr full.2
      · exact mem_evict accumulators later
    · exact .inl mem

theorem lookup_register :
    (s.register a).accumulators.lookup k = some b ↔
      (k = a.requestId ∧ b = a) ∨ (k ≠ a.requestId ∧ s.accumulators.lookup k = some b) := by
  change (s.accumulators.insert a.requestId a).lookup k = some b ↔ _
  rw [Dict.lookup_insert_eq]
  by_cases same : k = a.requestId
  · simp [same, eq_comm]
  · simp [same]

theorem Stored.register (inv : Stored rows s) (blank : a.Blank)
    (absent : s.accumulators.lookup a.requestId = none) : Stored rows (s.register a) := by
  have unheard : s.packetsOf a = [] := by
    unfold Lane.packetsOf
    rw [List.map_eq_nil_iff, List.filter_eq_nil_iff]
    intro x mem fits
    have same : x.2.requestId = a.requestId := by
      simp only [Bool.and_eq_true, decide_eq_true_eq] at fits
      exact fits.1.2
    have known := inv.known x mem
    rw [same, absent] at known
    cases known
  refine ⟨fun k b found => ?_, fun k b found => ?_, fun k b found => ?_, fun x mem => ?_⟩
  · rcases lookup_register.mp found with ⟨rfl, rfl⟩ | ⟨-, before⟩
    · rfl
    · exact inv.key k b before
  · change Sane rows (s.packetsOf b) b
    rcases lookup_register.mp found with ⟨rfl, rfl⟩ | ⟨-, before⟩
    · rw [unheard]
      exact sane_blank blank
    · exact inv.sane k b before
  · have listed : k ∈ s.queryHistory ++ [a.requestId] ∨ b.isSealed = true := by
      rcases lookup_register.mp found with ⟨rfl, rfl⟩ | ⟨-, before⟩
      · simp
      · exact (inv.kept k b before).imp_left (List.mem_append_left _)
    rcases listed with listed | shut
    · rcases mem_evict (s.register a).accumulators listed with stays | evicted
      · exact .inl stays
      · rw [found] at evicted
        exact .inr evicted
    · exact .inr shut
  · obtain ⟨b, before⟩ := Option.isSome_iff_exists.mp (inv.known x mem)
    refine Option.isSome_iff_exists.mpr ⟨b, lookup_register.mpr (.inr ⟨?_, before⟩)⟩
    rintro same
    rw [same, absent] at before
    cases before

theorem Slotted.register (inv : Slotted s) (mine : .numbered t a.requestId ∈ s.journal)
    (absent : s.accumulators.lookup a.requestId = none)
    (current : ∀ x ∈ (tally s.journal).opening, x.2 = a.requestId →
      a.connectionGeneration = s.connectionGeneration) : Slotted (s.register a) where
  generation x b mem found := by
    rcases lookup_register.mp found with ⟨same, rfl⟩ | ⟨-, before⟩
    · exact current x mem same
    · exact inv.generation x b mem before
  slot x taken := by
    obtain ⟨b, found, kind⟩ := inv.slot x taken
    refine ⟨b, lookup_register.mpr (.inr ⟨?_, found⟩), kind⟩
    intro same
    rw [same, absent] at found
    cases found
  alone := inv.alone
  loggedIn := inv.loggedIn
  registered k b found := by
    rcases lookup_register.mp found with ⟨rfl, -⟩ | ⟨-, before⟩
    · exact ⟨t, mine⟩
    · exact inv.registered k b before

/-! ## Packets -/

theorem Lane.packetsOf_arrived (s : Lane ρ δ) (p : Packet ρ) (a : Accumulator ρ δ) :
    (s.hear p).packetsOf a =
      if s.connectionGeneration = a.connectionGeneration ∧ p.requestId = a.requestId ∧
          p.requestType = some a.requestType then s.packetsOf a ++ [p]
      else s.packetsOf a := by
  unfold Lane.packetsOf Lane.hear
  rw [List.filter_append, List.map_append]
  split
  · rename_i fits
    simp [fits]
  · rename_i other
    have never : (decide (s.connectionGeneration = a.connectionGeneration) &&
        decide (p.requestId = a.requestId) && decide (p.requestType = some a.requestType)) = false := by
      simpa [and_assoc] using other
    simp [never]

/-- A packet came for one query, and what is kept of that query follows. -/
theorem Stored.arrived (inv : Stored rows s) {s' : Lane ρ δ} {b' : Accumulator ρ δ}
    (found : s.accumulators.lookup p.requestId = some b)
    (found' : s'.accumulators.lookup p.requestId = some b')
    (others : ∀ k, k ≠ p.requestId → s'.accumulators.lookup k = s.accumulators.lookup k)
    (history : s'.queryHistory = s.queryHistory) (heard : s'.arrived = (s.hear p).arrived)
    (keeps : Keeps b b') (sane : Sane rows (s'.packetsOf b') b') : Stored rows s' := by
  have key := inv.key _ b found
  have either : ∀ k a, s'.accumulators.lookup k = some a →
      (k = p.requestId ∧ a = b') ∨ (k ≠ p.requestId ∧ s.accumulators.lookup k = some a) := by
    intro k a here
    by_cases same : k = p.requestId
    · rw [same, found'] at here
      exact .inl ⟨same, (Option.some.inj here).symm⟩
    · rw [others k same] at here
      exact .inr ⟨same, here⟩
  refine ⟨fun k a here => ?_, fun k a here => ?_, fun k a here => ?_, fun x mem => ?_⟩
  · rcases either k a here with ⟨rfl, rfl⟩ | ⟨-, before⟩
    · exact keeps.requestId.trans key
    · exact inv.key k a before
  · rcases either k a here with ⟨rfl, rfl⟩ | ⟨other, before⟩
    · exact sane
    · have unheard : s'.packetsOf a = s.packetsOf a := by
        have whole := Lane.packetsOf_arrived s p a
        rw [if_neg (fun fits => other (by rw [fits.2.1, inv.key k a before]))] at whole
        rw [← whole]
        unfold Lane.packetsOf
        rw [heard]
      rw [unheard]
      exact inv.sane k a before
  · rw [history]
    rcases either k a here with ⟨rfl, rfl⟩ | ⟨-, before⟩
    · exact (inv.kept _ b found).imp_right keeps.isSealed
    · exact inv.kept k a before
  · rw [heard] at mem
    have known : (s.accumulators.lookup x.2.requestId).isSome = true := by
      rcases List.mem_append.mp mem with earlier | new
      · exact inv.known x earlier
      · rw [List.mem_singleton.mp new, found]
        rfl
    by_cases same : x.2.requestId = p.requestId
    · rw [same, found']
      rfl
    · rw [others _ same]
      exact known

theorem arrive_of_lookup (found : s.accumulators.lookup p.requestId = some b) :
    s.arrive p = s.hear p := by
  rw [Lane.arrive, found, Option.isSome_some, if_pos rfl]

/-- A packet that fits no query changes nothing else. -/
theorem takePacket_cases (rows : Rows ρ δ) (s : Lane ρ δ) (p : Packet ρ) (early : Clocks)
    (now : Int) :
    (s.accumulators.lookup p.requestId = none ∧ s.takePacket rows p early now = s) ∨
    ∃ b, s.accumulators.lookup p.requestId = some b ∧
      ((p.requestId ∈ s.queryHistory ∧ p.requestType = some b.requestType ∧
          s.takePacket rows p early now = (s.hear p).modifyAccumulator p.requestId fun a =>
                if a.connectionGeneration = s.connectionGeneration then a.receive rows p early now
                else a.late) ∨
        (¬ (p.requestId ∈ s.queryHistory ∧ p.requestType = some b.requestType) ∧
          s.takePacket rows p early now = s.hear p)) := by
  cases found : s.accumulators.lookup p.requestId with
  | none => exact .inl ⟨rfl, by simp [Lane.takePacket, Lane.arrive, found]⟩
  | some b =>
    refine .inr ⟨b, rfl, ?_⟩
    unfold Lane.takePacket
    rw [arrive_of_lookup found]
    by_cases fits : p.requestId ∈ s.queryHistory ∧ p.requestType = some b.requestType
    · exact .inl ⟨fits.1, fits.2, if_pos (by simp [found, fits])⟩
    · refine .inr ⟨fits, ?_⟩
      dsimp only
      rw [if_neg (by simpa [found, eq_comm] using fits)]

theorem Stored.takePacket (inv : Stored rows s) (early : Clocks) (now : Int) (kind : p.Answers) :
    Stored rows (s.takePacket rows p early now) := by
  rcases takePacket_cases rows s p early now with ⟨-, same⟩ | ⟨b, found, fit⟩
  · rw [same]
    exact inv
  · have key := inv.key _ b found
    have sane := inv.sane _ b found
    have packets := Lane.packetsOf_arrived s p b
    rcases fit with ⟨listed, sameType, same⟩ | ⟨unfit, same⟩
    · rw [same]
      refine inv.arrived found (lookup_modifyAccumulator.mpr ⟨b, found, if_pos rfl⟩) ?_ rfl rfl
        ?_ ?_
      · intro k other
        refine Option.ext fun a => ?_
        rw [lookup_modifyAccumulator]
        simp [other]
      · split
        · exact keeps_receive
        · exact touch_late.keeps
      · split
        · rename_i current
          rw [Lane.packetsOf_keeps keeps_receive]
          change Sane rows ((s.hear p).packetsOf b) _
          rw [packets, if_pos ⟨current.symm, key.symm, sameType⟩]
          exact sane.receive kind
        · rename_i stale
          rw [Lane.packetsOf_keeps touch_late.keeps]
          change Sane rows ((s.hear p).packetsOf b) _
          rw [packets, if_neg (fun fits => stale fits.1.symm)]
          exact sane.touch touch_late
    · rw [same]
      refine inv.arrived found found (fun _ _ => rfl) rfl rfl (.refl b) ?_
      rw [packets]
      split
      · rename_i fits
        have shut : b.isSealed = true :=
          (inv.kept _ b found).resolve_left fun listed => unfit ⟨listed, fits.2.2⟩
        refine sane.later ?_
        by_contra stays
        rw [(Accumulator.isOpen_iff.mp (by simpa using stays)).1] at shut
        cases shut
      · exact sane

end BtApiCtp.Query
