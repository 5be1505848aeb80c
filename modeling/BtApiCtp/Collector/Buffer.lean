/-
# Collector.Buffer -- the bounded tick buffer

`TickBuffer` (`collector/buffer.py`).  Every method runs under the buffer's lock, so each is
one function of the buffer.  A tick is refused only when its instrument's bucket has reached
the hard cap, and then it is counted.

* `buffered_ticks`: what is kept, handed out, dropped and asked for over any history of calls.
-/
import BtApiCtp.Theory.Groups
import BtApiCtp.Collector.Tick

namespace BtApiCtp.Collector

open Theory

/-- The fields of a `TickBuffer`; buckets in the order in which they were opened. -/
structure TickBuffer where
  cap : Nat
  hardCap : Nat
  buckets : List (InstrumentId × List TickRecord) := []
  dropped : Nat := 0
  flushRequested : Bool := false
  deriving DecidableEq, Repr

namespace TickBuffer

variable (buffer : TickBuffer) (tick : TickRecord)

/-- `_FLUSH_HARD_CAP_MULTIPLE`. -/
def flushHardCapMultiple : Nat := 2

/-- `TickBuffer(per_instrument_cap=..., overflow_policy=...)`. -/
def make (perInstrumentCap : Int) (overflowPolicy : String) : Except String TickBuffer :=
  if perInstrumentCap < 1 then .error "per_instrument_cap must be >= 1"
  else if overflowPolicy ≠ "drop" ∧ overflowPolicy ≠ "flush" then
    .error "overflow_policy must be one of ('drop', 'flush')"
  else
    let cap := perInstrumentCap.toNat
    .ok { cap, hardCap := if overflowPolicy = "drop" then cap else cap * flushHardCapMultiple }

/-- `append`: whether the tick was kept, and the buffer after it. -/
def append : Bool × TickBuffer :=
  let bucket := Groups.group tick.instrumentId buffer.buckets
  if buffer.hardCap ≤ bucket.length then
    (false, { buffer with dropped := buffer.dropped + 1, flushRequested := true })
  else
    (true, { buffer with
      buckets := Groups.push tick.instrumentId tick buffer.buckets
      flushRequested := buffer.flushRequested || decide (buffer.cap ≤ bucket.length + 1) })

/-- `drain`: the ticks grouped by instrument, and the emptied buffer. -/
def drain : List (InstrumentId × List TickRecord) × TickBuffer :=
  (buffer.buckets.filter fun bucket => bucket.2 ≠ [],
    { buffer with buckets := [], flushRequested := false })

/-- The buffered ticks. -/
def ticks : List TickRecord := Groups.members buffer.buckets

theorem members_drain : Groups.members buffer.drain.1 = buffer.ticks := by
  unfold drain ticks
  induction buffer.buckets with
  | nil => rfl
  | cons bucket buckets ih =>
    by_cases empty : bucket.2 = []
    · simp only [List.filter_cons, empty, ne_eq, not_true_eq_false, decide_false,
        Bool.false_eq_true, if_false, Groups.members_cons, List.nil_append]
      exact ih
    · simp only [List.filter_cons, empty, ne_eq, not_false_eq_true, decide_true, if_true,
        Groups.members_cons]
      rw [ih]

@[simp] theorem ticks_drain : buffer.drain.2.ticks = [] := rfl

/-- An append keeps the tick or counts it as dropped. -/
theorem append_cases :
    ((buffer.append tick).1 = true ∧ (buffer.append tick).2.dropped = buffer.dropped ∧
        (buffer.append tick).2.ticks.Perm (buffer.ticks ++ [tick])) ∨
      ((buffer.append tick).1 = false ∧ (buffer.append tick).2.dropped = buffer.dropped + 1 ∧
        (buffer.append tick).2.ticks = buffer.ticks) := by
  unfold append
  dsimp only
  split
  · exact .inr ⟨rfl, rfl, rfl⟩
  · exact .inl ⟨rfl, rfl, Groups.members_push _ _ _⟩

/-! ## Histories -/

inductive Call where
  | append (tick : TickRecord)
  | drain
  deriving DecidableEq, Repr

/-- A buffer with the ticks it accepted since the last drain, and how many it was given and has
handed out. -/
structure History where
  buffer : TickBuffer
  accepted : List TickRecord := []
  appended : Nat := 0
  drained : Nat := 0

def History.call (h : History) : Call → History
  | .append tick =>
    { h with
      buffer := (h.buffer.append tick).2
      accepted := if (h.buffer.append tick).1 then h.accepted ++ [tick] else h.accepted
      appended := h.appended + 1 }
  | .drain =>
    { h with
      buffer := h.buffer.drain.2
      accepted := []
      drained := h.drained + (Groups.members h.buffer.drain.1).length }

/-- What calls come to, on a new buffer. -/
def after (buffer : TickBuffer) (calls : List Call) : History := calls.foldl History.call { buffer }

/-- The ticks of one instrument. -/
abbrev ticksOf (name : InstrumentId) (ticks : List TickRecord) : List TickRecord :=
  ticks.filter (·.instrumentId = name)

/-- The buckets are the accepted ticks by instrument; `cap` and `hardCap` are the buffer's. -/
structure History.Sound (cap hardCap : Nat) (h : History) : Prop where
  caps : h.buffer.cap = cap ∧ h.buffer.hardCap = hardCap
  grouped : h.buffer.buckets = Groups.groupBy (·.instrumentId) h.accepted
  bounded : ∀ name, (ticksOf name h.accepted).length ≤ hardCap
  counted : h.appended = h.drained + h.accepted.length + h.buffer.dropped
  requested : h.buffer.flushRequested = true ↔ ∃ name, cap ≤ (ticksOf name h.accepted).length

namespace History.Sound

variable {cap hardCap : Nat} {h : History}

theorem group_eq (sound : h.Sound cap hardCap) (name : InstrumentId) :
    Groups.group name h.buffer.buckets = ticksOf name h.accepted := by
  rw [sound.grouped, Groups.group_groupBy]

theorem ticks_perm (sound : h.Sound cap hardCap) : h.buffer.ticks.Perm h.accepted := by
  rw [TickBuffer.ticks, sound.grouped]
  exact Groups.members_groupBy _ _

/-- No bucket is empty, so that a drain hands out all of them. -/
theorem drain_eq (sound : h.Sound cap hardCap) : h.buffer.drain.1 = h.buffer.buckets := by
  have keyed := Groups.keyed_groupBy (·.instrumentId) h.accepted
  rw [← sound.grouped] at keyed
  exact List.filter_eq_self.mpr fun entry mem => decide_eq_true (keyed entry mem).1

theorem append (sound : h.Sound cap hardCap) (positive : 0 < cap) (within : cap ≤ hardCap)
    (tick : TickRecord) : (h.call (.append tick)).Sound cap hardCap := by
  have own := sound.group_eq tick.instrumentId
  obtain ⟨rfl, rfl⟩ := sound.caps
  unfold History.call TickBuffer.append
  by_cases full : h.buffer.hardCap ≤ (Groups.group tick.instrumentId h.buffer.buckets).length
  · simp only [if_pos full, Bool.false_eq_true, if_false]
    have reached : h.buffer.cap ≤ (ticksOf tick.instrumentId h.accepted).length :=
      own ▸ within.trans full
    refine ⟨⟨rfl, rfl⟩, sound.grouped, sound.bounded, ?_, iff_of_true rfl ⟨_, reached⟩⟩
    simp only [sound.counted]
    omega
  · simp only [if_neg full, if_true]
    have longer : ∀ name, (ticksOf name (h.accepted ++ [tick])).length =
        (ticksOf name h.accepted).length + if tick.instrumentId = name then 1 else 0 := by
      intro name
      by_cases same : tick.instrumentId = name <;> simp [List.filter_append, same]
    rw [own] at full
    refine ⟨⟨rfl, rfl⟩, ?_, fun name => ?_, ?_, ?_⟩
    · rw [Groups.groupBy_concat, sound.grouped]
    · rw [longer]
      have before := sound.bounded name
      split
      · rename_i same
        subst same
        omega
      · exact before
    · simp only [sound.counted, List.length_append, List.length_singleton]
      omega
    · simp only [Bool.or_eq_true, sound.requested, decide_eq_true_eq, own, longer]
      constructor
      · rintro (⟨name, reached⟩ | reached)
        · exact ⟨name, reached.trans (Nat.le_add_right _ _)⟩
        · exact ⟨tick.instrumentId, by simpa using reached⟩
      · rintro ⟨name, reached⟩
        by_cases same : tick.instrumentId = name
        · rw [if_pos same, ← same] at reached
          exact .inr reached
        · rw [if_neg same] at reached
          exact .inl ⟨name, reached⟩

theorem drain (sound : h.Sound cap hardCap) (positive : 0 < cap) :
    (h.call .drain).Sound cap hardCap := by
  refine ⟨sound.caps, rfl, fun name => Nat.zero_le _, ?_, iff_of_false nofun ?_⟩
  · simp only [History.call, members_drain, sound.ticks_perm.length_eq, sound.counted,
      List.length_nil]
    rfl
  · rintro ⟨name, reached⟩
    exact absurd reached positive.not_ge

end History.Sound

theorem sound_after {cap hardCap : Nat} (positive : 0 < cap) (within : cap ≤ hardCap)
    (calls : List Call) : (after { cap, hardCap } calls).Sound cap hardCap := by
  induction calls using List.reverseRecOn with
  | nil =>
    refine ⟨⟨rfl, rfl⟩, rfl, fun name => Nat.zero_le _, rfl, iff_of_false nofun ?_⟩
    rintro ⟨name, reached⟩
    exact absurd reached positive.not_ge
  | append_singleton calls last ih =>
    rw [after, List.foldl_append]
    cases last with
    | append tick => exact ih.append positive within tick
    | drain => exact ih.drain positive

/-- Until the next drain, a flush stays requested. -/
theorem History.requested_foldl {h : History} {calls : List Call} (none : .drain ∉ calls)
    (requested : h.buffer.flushRequested = true) :
    (calls.foldl History.call h).buffer.flushRequested = true := by
  induction calls generalizing h with
  | nil => exact requested
  | cons first calls ih =>
    rw [List.mem_cons, not_or] at none
    refine ih none.2 ?_
    cases first with
    | drain => exact absurd rfl none.1
    | append tick =>
      unfold History.call TickBuffer.append
      dsimp only
      split
      · rfl
      · simp [requested]

theorem make_eq_ok {perInstrumentCap : Int} {overflowPolicy : String} {buffer : TickBuffer}
    (made : make perInstrumentCap overflowPolicy = .ok buffer) :
    ∃ cap hardCap, 0 < cap ∧ cap ≤ hardCap ∧ buffer = { cap, hardCap } := by
  unfold make at made
  split at made
  · cases made
  · split at made
    · cases made
    · cases made
      refine ⟨_, _, by omega, ?_, rfl⟩
      split
      · exact le_rfl
      · exact Nat.le_mul_of_pos_right _ (by decide)

/-- **The tick buffer**: after any calls, no bucket is over the hard cap, every tick that was given
was handed out, is buffered or was dropped, the next drain hands out each instrument's ticks as
they were accepted since the last one, and a flush is requested exactly if some bucket has reached
the cap since then. -/
theorem buffered_ticks {perInstrumentCap : Int} {overflowPolicy : String} {buffer : TickBuffer}
    (made : make perInstrumentCap overflowPolicy = .ok buffer) (calls : List Call) :
    let h := after buffer calls
    (∀ name, (Groups.group name h.buffer.buckets).length ≤ buffer.hardCap) ∧
    h.appended = h.drained + h.buffer.ticks.length + h.buffer.dropped ∧
    (∀ name, Groups.group name h.buffer.drain.1 = ticksOf name h.accepted) ∧
    (h.buffer.flushRequested = true ↔ ∃ start rest, calls = start ++ rest ∧ .drain ∉ rest ∧
      ∃ name, buffer.cap ≤ (Groups.group name (after buffer start).buffer.buckets).length) := by
  obtain ⟨cap, hardCap, positive, within, rfl⟩ := make_eq_ok made
  have sound := sound_after positive within
  have here := sound calls
  refine ⟨fun name => ?_, ?_, fun name => ?_, fun requested => ?_, ?_⟩
  · rw [here.group_eq]
    exact here.bounded name
  · rw [here.counted, here.ticks_perm.length_eq]
  · rw [here.drain_eq, here.group_eq]
  · obtain ⟨name, reached⟩ := here.requested.mp requested
    exact ⟨calls, [], (List.append_nil _).symm, List.not_mem_nil, name, (here.group_eq name) ▸ reached⟩
  · rintro ⟨start, rest, rfl, none, name, reached⟩
    rw [(sound start).group_eq] at reached
    simp only [after, List.foldl_append]
    exact History.requested_foldl none ((sound start).requested.mpr ⟨name, reached⟩)

theorem two_ticks_buffered : ∃ buffer, make 1 "flush" = .ok buffer ∧
    ∀ calls name, (Groups.group name (after buffer calls).buffer.buckets).length ≤ 2 := by
  have made : make 1 "flush" = .ok { cap := 1, hardCap := 2 } := rfl
  exact ⟨_, made, fun calls => (buffered_ticks made calls).1⟩

end TickBuffer
end BtApiCtp.Collector
