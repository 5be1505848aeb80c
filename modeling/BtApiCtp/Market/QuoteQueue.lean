/-
# Market.QuoteQueue -- what the consumer of a quote queue learns of lost entries

`BoundedCtpQuoteV2Queue`, the end of `CtpQuoteV2MarketProvider.poll`, and the sequence facts
of `project_ctp_market_tick`.  Native callbacks put entries into the queue of a handle at any
moment, also while its owner projects what it has drained.

An entry is lost in two ways: dropped from a full queue, or drained by a poll that then
raises.  The queue remembers the first kind (`Theory.DropOldest`) and nothing remembers the
second, so an event is only known to say `gap` where no drained entry was lost before it
(`lost_entry_gap`, `failed_poll_continuous`).
-/
import BtApiCtp.Theory.DropOldest
import BtApiCtp.Theory.Fallible

namespace BtApiCtp.Market

open Theory

variable {discarded : List Nat}

/-! ## Projection -/

inductive Continuity where
  | continuous
  | gap
  deriving DecidableEq, Repr

/-- `_volume_quality`. -/
inductive VolumeQuality where
  | continuous
  | baseline
  | discontinuous
  | unavailable
  deriving DecidableEq, Repr

/-- What a ticker row says of its place in the sequence. -/
structure Row where
  continuity : Continuity
  volumeQuality : VolumeQuality
  volumeComplete : Bool
  deriving DecidableEq, Repr

/-- An entry of the queue; the numbers are the order of the callbacks. -/
structure Entry where
  number : Nat
  row : Row
  deriving DecidableEq, Repr

/-- `MarketProviderEvent`, with the sequence facts of its payload. -/
structure Event where
  number : Nat
  continuity : Continuity
  volumeQuality : VolumeQuality
  volumeComplete : Bool
  deriving DecidableEq, Repr

/-- The sequence facts of `project_ctp_market_tick`. -/
def projectCtpMarketTick (entry : Entry) (localMessageLoss : Bool) : Event where
  number := entry.number
  continuity :=
    if entry.row.continuity = .continuous && !localMessageLoss then .continuous else .gap
  -- the row's delta covers only its own interval
  volumeQuality :=
    if localMessageLoss && entry.row.volumeQuality = .continuous then .discontinuous
    else entry.row.volumeQuality
  volumeComplete :=
    if localMessageLoss && entry.row.volumeQuality = .continuous then false
    else entry.row.volumeComplete

inductive ProviderError where
  /-- `INVALID_CTP_MARKET_PROVIDER_CONFIG`. -/
  | configInvalid
  /-- `CTP_MARKET_EVENT_INVALID`. -/
  | eventInvalid
  deriving DecidableEq, Repr

/-- `_project_native_tick`, inside the `try` of `poll`.  `accepts` says which entries pass the
checks of identity, receipt and numbers, some of which read the stream as it is by then. -/
def projectNativeTick (accepts : Entry → Bool) (entry : Entry) (localMessageLoss : Bool) :
    Except ProviderError Event :=
  if accepts entry then .ok (projectCtpMarketTick entry localMessageLoss) else .error .eventInvalid

/-- The loop of `poll` over what it drained. -/
def projectEntries (accepts : Entry → Bool) : Bool → List Entry → Except ProviderError (List Event)
  | _, [] => .ok []
  | lossBeforeFirst, entry :: entries => do
    let event ← projectNativeTick accepts entry lossBeforeFirst
    let events ← projectEntries accepts false entries
    return event :: events

/-! ## Callbacks and polls of one handle -/

variable {earlier later event : Event} {events : List Event}

def maxCtpProviderPollLimit : Nat := 256

/-- One handle within one source scope: its queue, what its owner has drained and not yet
returned, and what became of the other entries. -/
structure Channel (capacity : Nat) where
  queue : DropOldest Entry capacity := .empty
  next : Nat := 0
  draining : Option (List Entry × Bool) := none
  delivered : List Event := []
  /-- Dropped from the full queue. -/
  dropped : List Nat := []
  /-- Drained by a poll that raised. -/
  discarded : List Nat := []

inductive Step where
  /-- `put`, from a native callback. -/
  | tick (row : Row)
  /-- `drain_marking_loss`, by a poll that got that far. -/
  | drain (limit : Nat)
  /-- The rest of that poll. -/
  | project (accepts : Entry → Bool)

namespace Channel

variable {capacity : Nat} (positive : 0 < capacity) (channel : Channel capacity)

def step : Step → Channel capacity
  | .tick row =>
    { channel with
      queue := channel.queue.put positive ⟨channel.next, row⟩
      next := channel.next + 1
      dropped := channel.dropped ++
        if channel.queue.items.length = capacity then
          (channel.queue.items.head?.map Entry.number).toList
        else [] }
  | .drain limit =>
    if channel.draining = none ∧ 1 ≤ limit ∧ limit ≤ maxCtpProviderPollLimit then
      { channel with
        queue := (channel.queue.drain limit).2
        draining := some (channel.queue.drain limit).1 }
    else channel
  | .project accepts =>
    match channel.draining with
    | none => channel
    | some (entries, loss) =>
      match projectEntries accepts loss entries with
      | .ok events =>
        { channel with draining := none, delivered := channel.delivered ++ events }
      | .error _ =>
        { channel with
          draining := none, discarded := channel.discarded ++ entries.map Entry.number }

def run (steps : List Step) : Channel capacity :=
  steps.foldl (step positive) channel

/-- The entry never came to the consumer. -/
def Lost (number : Nat) : Prop :=
  number ∈ channel.dropped ∨ number ∈ channel.discarded

instance (channel : Channel capacity) (number : Nat) : Decidable (channel.Lost number) :=
  inferInstanceAs (Decidable (_ ∨ _))

end Channel

/-! ## Events in sequence -/

/-- The later of two events that follow each other is the next entry, or says `gap`, or a
drained entry between them was lost. -/
def InSequence (discarded : List Nat) (earlier later : Event) : Prop :=
  earlier.number + 1 = later.number ∨
    (∃ number ∈ discarded, earlier.number < number ∧ number < later.number) ∨
    later.continuity = .gap

theorem InSequence.mono (more : List Nat) (holds : InSequence discarded earlier later) :
    InSequence (discarded ++ more) earlier later := by
  rcases holds with next | ⟨number, member, between⟩ | gap
  · exact .inl next
  · exact .inr (.inl ⟨number, List.mem_append_left _ member, between⟩)
  · exact .inr (.inr gap)

/-- Nothing but drained entries that were lost stands between an event and `before`. -/
def Reaches (discarded : List Nat) (before : Nat) (event : Event) : Prop :=
  event.number + 1 = before ∨ ∃ number ∈ discarded, event.number < number ∧ number < before

theorem Reaches.lt {before : Nat} (reaches : Reaches discarded before event) :
    event.number < before := by
  rcases reaches with next | ⟨number, _, above, below⟩
  · omega
  · omega

/-- A poll returns its entries in their order, the first with the loss before it. -/
theorem projectEntries_eq_ok {accepts : Entry → Bool} {loss : Bool} {entries : List Entry}
    (came : projectEntries accepts loss entries = .ok events) :
    events.map Event.number = entries.map Entry.number ∧
      ∀ event ∈ events.head?, loss = true → event.continuity = .gap := by
  induction entries generalizing loss events with
  | nil =>
    cases came
    exact ⟨rfl, fun _ none => by cases none⟩
  | cons entry entries ih =>
    simp only [projectEntries, bind_eq_ok_iff, pure_eq_ok_iff] at came
    obtain ⟨event, projected, rest, later, rfl⟩ := came
    unfold projectNativeTick at projected
    split at projected
    · cases projected
      refine ⟨?_, ?_⟩
      · rw [List.map_cons, List.map_cons, (ih later).1]
        rfl
      · intro event first lost
        cases first
        simp [projectCtpMarketTick, lost]
    · cases projected

/-- Consecutive entries are in sequence. -/
theorem isChain_of_range' {first : Nat}
    (numbered : events.map Event.number = List.range' first events.length) :
    events.IsChain (InSequence discarded) := by
  have consecutive := List.isChain_range' first events.length 1
  rw [← numbered, List.isChain_map] at consecutive
  exact consecutive.imp fun _ _ next => .inl next.symm

namespace Channel

variable {capacity : Nat}

/-- What was drained and not yet returned: the entries from `first` on, after those before
`before`. -/
structure Holds (draining : List Entry × Bool) (before taken first : Nat) : Prop where
  numbered : draining.1.map Entry.number = List.range' first draining.1.length
  before_le : before ≤ first
  loss : draining.2 = true ↔ draining.1 ≠ [] ∧ before < first
  taken_eq : taken = if draining.1 = [] then before else first + draining.1.length

namespace Holds

variable {draining : List Entry × Bool} {before taken first : Nat} {discarded : List Nat}
  {events : List Event}

variable (holds : Holds draining before taken first)
include holds

/-- The first event of a poll is in sequence with the last one before it. -/
theorem inSequence (numbered : events.map Event.number = List.range' first events.length)
    (counted : events.length = draining.1.length) (reaches : Reaches discarded before earlier)
    (next : later ∈ events.head?) (gap : draining.2 = true → later.continuity = .gap) :
    InSequence discarded earlier later := by
  obtain ⟨rest, rfl⟩ := List.head?_eq_some_iff.mp next
  obtain ⟨number, -⟩ : later.number = first ∧ _ := by
    simpa [List.range'_succ] using numbered
  have some : draining.1 ≠ [] := by
    rw [← List.length_pos_iff, ← counted]
    exact Nat.succ_pos _
  rcases holds.before_le.lt_or_eq with behind | rfl
  · exact .inr (.inr (gap (holds.loss.mpr ⟨some, behind⟩)))
  · rcases reaches with adjacent | ⟨other, member, above, below⟩
    · exact .inl (adjacent.trans number.symm)
    · exact .inr (.inl ⟨other, member, above, number ▸ below⟩)

theorem reaches_append (numbered : events.map Event.number = List.range' first events.length)
    (counted : events.length = draining.1.length) {delivered : List Event}
    (reaches : ∀ event ∈ delivered.getLast?, Reaches discarded before event) :
    ∀ event ∈ (delivered ++ events).getLast?, Reaches discarded taken event := by
  rw [List.getLast?_append]
  cases last : events.getLast? with
  | none =>
    have none : draining.1 = [] := by
      rw [← List.length_eq_zero_iff, ← counted, List.getLast?_eq_none_iff.mp last]
      rfl
    rw [Option.none_or, holds.taken_eq, if_pos none]
    exact reaches
  | some event =>
    have number : (events.map Event.number).getLast? = some event.number := by
      rw [List.getLast?_map, last]
      rfl
    have some : draining.1 ≠ [] := by
      rw [← List.length_pos_iff, ← counted]
      exact List.length_pos_of_mem (List.mem_of_getLast? last)
    have positive := List.length_pos_iff.mpr some
    rw [numbered, List.getLast?_range', counted, if_neg positive.ne', Option.some.injEq] at number
    rw [Option.some_or, holds.taken_eq, if_neg some]
    rintro _ ⟨⟩
    exact .inl (by omega)

/-- A poll that raises has lost at least one entry. -/
theorem reaches_discarded (some : draining.1 ≠ [])
    (reaches : Reaches discarded before event) :
    Reaches (discarded ++ draining.1.map Entry.number) taken event := by
  have above := reaches.lt
  have positive := List.length_pos_iff.mpr some
  refine .inr ⟨first, List.mem_append_right _ ?_, above.trans_le holds.before_le, ?_⟩
  · rw [holds.numbered, List.mem_range'_1]
    omega
  · rw [holds.taken_eq, if_neg some]
    omega

end Holds

/-- Every event is in sequence with the one before it; and the next one will be. -/
structure Consistent (channel : Channel capacity) : Prop where
  delivered : channel.delivered.IsChain (InSequence channel.discarded)
  open_ : ∃ before taken head, channel.queue.Follows Entry.number taken head channel.next ∧
    (∀ event ∈ channel.delivered.getLast?, Reaches channel.discarded before event) ∧
    match channel.draining with
    | none => before = taken
    | some draining => ∃ first, Holds draining before taken first

variable (positive : 0 < capacity)

theorem consistent_start : ({} : Channel capacity).Consistent where
  delivered := List.isChain_nil
  open_ := ⟨0, 0, 0, DropOldest.follows_empty, fun _ none => (by cases none), rfl⟩

theorem Consistent.tick {channel : Channel capacity} (consistent : channel.Consistent) (row : Row) :
    (channel.step positive (.tick row)).Consistent := by
  obtain ⟨delivered, before, taken, head, follows, reaches, draining⟩ := consistent
  obtain ⟨head', follows'⟩ := follows.put positive ⟨channel.next, row⟩ rfl
  exact ⟨delivered, before, taken, head', follows', reaches, draining⟩

theorem Consistent.drain {channel : Channel capacity} (consistent : channel.Consistent)
    (limit : Nat) : (channel.step positive (.drain limit)).Consistent := by
  simp only [Channel.step]
  split
  · rename_i allowed
    obtain ⟨delivered, before, taken, head, follows, reaches, idle⟩ := consistent
    rw [allowed.1] at idle
    obtain rfl : before = taken := idle
    obtain ⟨numbered, loss⟩ := follows.drain limit
    by_cases none : (channel.queue.drain limit).1.1 = []
    · refine ⟨delivered, before, before, head, ?_, reaches, head, numbered, follows.taken_le, loss,
        (if_pos none).symm⟩
      rw [DropOldest.drain_eq_self allowed.2.1 none]
      exact follows
    · exact ⟨delivered, before, _, _, follows.drained none, reaches, head, numbered,
        follows.taken_le, loss, (if_neg none).symm⟩
  · exact consistent

theorem Consistent.project {channel : Channel capacity} (consistent : channel.Consistent)
    (accepts : Entry → Bool) : (channel.step positive (.project accepts)).Consistent := by
  obtain ⟨delivered, before, taken, head, follows, reaches, drained⟩ := consistent
  simp only [Channel.step]
  split
  · rename_i idle
    exact ⟨delivered, before, taken, head, follows, reaches, drained⟩
  · rename_i entries loss draining
    rw [draining] at drained
    obtain ⟨first, holds⟩ := drained
    split
    · rename_i events came
      obtain ⟨numbers, gap⟩ := projectEntries_eq_ok came
      have counted : events.length = entries.length := by simpa using congrArg List.length numbers
      have numbered : events.map Event.number = List.range' first events.length := by
        rw [numbers, counted]
        exact holds.numbered
      refine ⟨List.isChain_append.mpr ⟨delivered, isChain_of_range' numbered, ?_⟩, taken, taken,
        head, follows, ?_, rfl⟩
      · intro earlier last later next
        exact holds.inSequence numbered counted (reaches earlier last) next (gap later next)
      · exact holds.reaches_append numbered counted reaches
    · rename_i raised
      refine ⟨delivered.imp fun _ _ => InSequence.mono _, taken, taken, head, follows, ?_, rfl⟩
      have some : entries ≠ [] := by
        rintro rfl
        cases raised
      exact fun event last => holds.reaches_discarded some (reaches event last)

theorem Consistent.step {channel : Channel capacity} (consistent : channel.Consistent) :
    ∀ step, (channel.step positive step).Consistent
  | .tick row => consistent.tick positive row
  | .drain limit => consistent.drain positive limit
  | .project accepts => consistent.project positive accepts

theorem Consistent.run {channel : Channel capacity} (consistent : channel.Consistent) :
    ∀ steps, (channel.run positive steps).Consistent
  | [] => consistent
  | step :: steps => (consistent.step positive step).run steps

end Channel

/-- Of two events that follow each other, with an entry between them that was lost, the later
one says `gap`, unless the entry was drained by a poll that raised. -/
theorem lost_entry_gap {capacity : Nat} (positive : 0 < capacity) (steps : List Step)
    (before after : List Event) (earlier later : Event)
    (delivered : (({} : Channel capacity).run positive steps).delivered =
      before ++ earlier :: later :: after)
    (lost : ∃ number, (({} : Channel capacity).run positive steps).Lost number ∧
      earlier.number < number ∧ number < later.number)
    (polled : ∀ number ∈ (({} : Channel capacity).run positive steps).discarded,
      ¬ (earlier.number < number ∧ number < later.number)) :
    later.continuity = .gap := by
  have chain := (Channel.consistent_start.run positive steps).delivered
  rw [delivered] at chain
  obtain ⟨-, chain, -⟩ := List.isChain_append.mp chain
  obtain ⟨number, -, above, below⟩ := lost
  rcases (List.isChain_cons_cons.mp chain).1 with next | ⟨number, member, between⟩ | gap
  · omega
  · exact absurd between (polled number member)
  · exact gap

/-- A row in sequence. -/
def sampleRow : Row := ⟨.continuous, .continuous, true⟩

/-- A poll of the whole queue, with the entries that pass. -/
def pollAll (accepts : Entry → Bool) : List Step := [.drain 1, .project accepts]

/-- The second of three entries is dropped from a queue with room for one. -/
def overflow : List Step :=
  [.tick sampleRow] ++ pollAll (fun _ => true) ++ [.tick sampleRow, .tick sampleRow] ++
    pollAll fun _ => true

theorem overflow_gap :
    (({} : Channel 1).run Nat.one_pos overflow).delivered =
        [⟨0, .continuous, .continuous, true⟩, ⟨2, .gap, .discontinuous, false⟩] ∧
      (⟨2, .gap, .discontinuous, false⟩ : Event).continuity = .gap :=
  ⟨by decide, lost_entry_gap Nat.one_pos overflow [] [] ⟨0, .continuous, .continuous, true⟩ _
    (by decide) ⟨1, by decide, by decide, by decide⟩ (by decide)⟩

/-- The second of three entries is drained by a poll that raises; the third one is returned
as if nothing had been lost. -/
theorem failed_poll_continuous :
    ∃ steps, ∃ final : Channel 2, final = ({} : Channel 2).run Nat.two_pos steps ∧ final.Lost 1 ∧
      final.delivered = [⟨0, .continuous, .continuous, true⟩, ⟨2, .continuous, .continuous, true⟩] :=
  ⟨[.tick sampleRow] ++ pollAll (fun _ => true) ++ [.tick sampleRow] ++ pollAll (fun _ => false) ++
      [.tick sampleRow] ++ pollAll fun _ => true, _, rfl, by decide, by decide⟩

end BtApiCtp.Market
