/-
# Query.Moves -- what one step may do to the lane

`Rely u` is what thread `u` can count on while others act: its own queries stay where they
are, unless a terminal packet or the connection takes them away, and nobody takes the slot
while it has the lane.  `Law` is what every step keeps about queries that have ended.  A
`Move` of a thread keeps the invariant and stays within both; it is enough to look at what a
step consists of, since moves compose.
-/
import BtApiCtp.Query.Invariant
import Mathlib.Data.List.Infix

namespace BtApiCtp.Query

open Theory

variable {ρ δ : Type} {early : Clocks} {now : Int} {journal : List Mark} {generation utc : Int}
  {origin : CompletionOrigin}

/-- A terminal packet came for the query, or the connection has changed. -/
def Gone (u : Nat) (i : Int) (journal : List Mark) : Prop :=
  .terminal i ∈ journal ∨ Unsteady u i journal

structure Rely (u : Nat) (s s' : Lane ρ δ) : Prop where
  journal : s.journal <+: s'.journal
  opened : ∀ i, .opened u i ∈ s'.journal → .opened u i ∈ s.journal
  absent : ∀ i, .numbered u i ∈ s.journal → s.accumulators.lookup i = none →
    s'.accumulators.lookup i = none
  stays : ∀ i a, s.accumulators.lookup i = some a →
    ∃ a', s'.accumulators.lookup i = some a' ∧ Keeps a a'
  opening : ∀ i, (u, i) ∈ (tally s.journal).opening →
    (u, i) ∈ (tally s'.journal).opening ∨ Gone u i s'.journal
  current : ∀ i, (u, i) ∈ (tally s'.journal).opening →
    s'.connectionGeneration = s.connectionGeneration
  held : ∀ i, (u, i) ∈ (tally s.journal).held →
    (u, i) ∈ (tally s'.journal).held ∨ Gone u i s'.journal
  openingBack : ∀ i, (u, i) ∈ (tally s'.journal).opening → (u, i) ∈ (tally s.journal).opening
  heldBack : ∀ i, (u, i) ∈ (tally s'.journal).held → (u, i) ∈ (tally s.journal).held
  outstandingBack : ∀ i, (u, i) ∈ (tally s'.journal).outstanding →
    (u, i) ∈ (tally s.journal).outstanding
  lock : s.queryLock = some u → s'.queryLock = some u
  slot : s.queryLock = some u → s.queryNativeInflight = none → s'.queryNativeInflight = none
  poisoned : s.poisoned = true → s'.poisoned = true
  generation : s.connectionGeneration ≤ s'.connectionGeneration
  /-- Under an ingress that is not poisoned, only the first connection counts. -/
  steady : 0 < s.connectionGeneration → s'.ingress = some false →
    ∀ i, Unsteady u i s'.journal → Unsteady u i s.journal
  ingress : s'.ingress = some false → s.ingress = some false

/-- The mark says that something was written to a query on the client's own account. -/
def Mark.disturbs (i : Int) : Mark → Bool
  | .lost j => j = i
  | .submitFailed j => j = i
  | .submitRejected j => j = i
  | .overdue j => j = i
  | .abandoned _ j => j = i
  | _ => false

/-- An end that was recorded stays recorded, with its records and their digest; what else it fixed
only changes with a mark. -/
def Law (s s' : Lane ρ δ) : Prop :=
  ∃ new, s'.journal = s.journal ++ new ∧
    ∀ i a, s.accumulators.lookup i = some a → a.recorded = true →
      ∃ a', s'.accumulators.lookup i = some a' ∧ a'.recorded = true ∧ a'.records = a.records ∧
        a'.sourceRecordsSha256 = a.sourceRecordsSha256 ∧
        ((∀ m ∈ new, m.disturbs i = false) → a'.outcome = a.outcome)

structure Move (rows : Rows ρ δ) (t : Option Nat) (s s' : Lane ρ δ) : Prop where
  inv : Inv rows s'
  beside : ∀ u, t ≠ some u → Rely u s s'
  law : Law s s'

variable {rows : Rows ρ δ} {s s' s'' : Lane ρ δ} {m : Mark} {t : Option Nat} {u : Nat} {i : Int}

/-! ## Composition -/

variable {a : Accumulator ρ δ} {p : Packet ρ}

theorem Gone.mono {journal' : List Mark} (gone : Gone u i journal)
    (grown : journal <+: journal') : Gone u i journal' := by
  obtain ⟨new, rfl⟩ := grown
  rcases gone with terminal | ⟨before, after, rfl, changed⟩
  · exact .inl (List.mem_append_left _ terminal)
  · exact .inr ⟨before, after ++ new, by simp, List.mem_append_left _ changed⟩

theorem Rely.refl (u : Nat) (s : Lane ρ δ) : Rely u s s where
  journal := List.prefix_rfl
  opened _ := id
  absent _ _ := id
  stays _ a found := ⟨a, found, .refl a⟩
  opening _ := .inl
  current _ _ := rfl
  held _ := .inl
  openingBack _ := id
  heldBack _ := id
  outstandingBack _ := id
  lock := id
  slot _ := id
  poisoned := id
  generation := le_refl _
  steady _ _ _ := id
  ingress := id

theorem Rely.trans (first : Rely u s s') (second : Rely u s' s'') : Rely u s s'' where
  journal := first.journal.trans second.journal
  opened i mem := first.opened i (second.opened i mem)
  absent i mine none := second.absent i (first.journal.subset mine) (first.absent i mine none)
  stays i a found := by
    obtain ⟨b, found', keeps⟩ := first.stays i a found
    obtain ⟨c, found'', keeps'⟩ := second.stays i b found'
    exact ⟨c, found'', keeps.trans keeps'⟩
  opening i here := by
    rcases first.opening i here with still | gone
    · exact second.opening i still
    · exact .inr (gone.mono second.journal)
  current i here := (second.current i here).trans (first.current i (second.openingBack i here))
  held i here := by
    rcases first.held i here with still | gone
    · exact second.held i still
    · exact .inr (gone.mono second.journal)
  openingBack i here := first.openingBack i (second.openingBack i here)
  heldBack i here := first.heldBack i (second.heldBack i here)
  outstandingBack i here := first.outstandingBack i (second.outstandingBack i here)
  lock mine := second.lock (first.lock mine)
  slot mine free := second.slot (first.lock mine) (first.slot mine free)
  poisoned bad := second.poisoned (first.poisoned bad)
  generation := first.generation.trans second.generation
  steady positive fine i unsteady :=
    first.steady positive (second.ingress fine) i
      (second.steady (positive.trans_le first.generation) fine i unsteady)
  ingress fine := first.ingress (second.ingress fine)

theorem Law.of_same (journal : s'.journal = s.journal)
    (accumulators : s'.accumulators = s.accumulators) : Law s s' :=
  ⟨[], by rw [journal, List.append_nil], fun _ a found done =>
    ⟨a, by rw [accumulators, found], done, rfl, rfl, fun _ => rfl⟩⟩

theorem Law.trans (first : Law s s') (second : Law s' s'') : Law s s'' := by
  obtain ⟨new, grown, lasts⟩ := first
  obtain ⟨new', grown', lasts'⟩ := second
  refine ⟨new ++ new', by rw [grown', grown, List.append_assoc], fun i a found done => ?_⟩
  obtain ⟨b, found', done', records, digest, same⟩ := lasts i a found done
  obtain ⟨c, found'', done'', records', digest', same'⟩ := lasts' i b found' done'
  refine ⟨c, found'', done'', records'.trans records, digest'.trans digest, fun quiet => ?_⟩
  rw [same' fun m mem => quiet m (List.mem_append_right _ mem),
    same fun m mem => quiet m (List.mem_append_left _ mem)]

theorem Move.trans (first : Move rows t s s') (second : Move rows t s' s'') : Move rows t s s'' :=
  ⟨second.inv, fun u other => (first.beside u other).trans (second.beside u other),
    first.law.trans second.law⟩

theorem Move.refl (inv : Inv rows s) : Move rows t s s :=
  ⟨inv, fun u _ => .refl u s, .of_same rfl rfl⟩

/-! ## Marks -/

theorem tally_mark (s : Lane ρ δ) (m : Mark) :
    tally (s.mark m).journal = (tally s.journal).note m := tally_append _ _

theorem rely_mark (other : m.thread ≠ some u) (steady : m ≠ .connection) : Rely u s (s.mark m) := by
  have grown : s.journal <+: (s.mark m).journal := List.prefix_append _ _
  have noted : ∀ i, _ := fun i => Tally.mem_note_other (tally s.journal) i other steady
  simp only [← tally_mark] at noted
  refine { Rely.refl u s with
    journal := grown, opened := ?_, opening := ?_, current := fun _ _ => rfl, held := ?_
    openingBack := fun i here => ((noted i).1.mp here).1
    heldBack := fun i here => ((noted i).2.1.mp here).1
    outstandingBack := fun i here => ((noted i).2.2.mp here).1, steady := ?_ }
  · intro i mem
    rcases List.mem_append.mp mem with earlier | new
    · exact earlier
    · rw [← List.mem_singleton.mp new] at other
      exact absurd rfl other
  · intro i here
    by_cases terminal : m = .terminal i
    · exact .inr (.inl (by rw [terminal]; simp [Lane.mark]))
    · exact .inl ((noted i).1.mpr ⟨here, terminal⟩)
  · intro i here
    by_cases terminal : m = .terminal i
    · exact .inr (.inl (by rw [terminal]; simp [Lane.mark]))
    · exact .inl ((noted i).2.1.mpr ⟨here, terminal⟩)
  · intro _ _ i unsteady
    exact (unsteady_append_iff steady).mp unsteady

theorem law_mark : Law s (s.mark m) :=
  ⟨[m], rfl, fun _ a found done => ⟨a, found, done, rfl, rfl, fun _ => rfl⟩⟩

theorem Stored.mark (inv : Stored rows s) : Stored rows (s.mark m) :=
  { inv with }

/-- Every mark but that of a taken slot or a changed connection. -/
theorem Inv.move_mark (inv : Inv rows s) (valid : m.Valid s) (given : ∀ t i, m ≠ .reserved t i)
    (steady : m ≠ .connection) (mine : m.thread = none ∨ m.thread = t) :
    Move rows t s (s.mark m) where
  inv := ⟨inv.stored.mark, inv.numbered.mark valid, inv.slotted.mark valid given⟩
  beside u other := by
    refine rely_mark ?_ steady
    rcases mine with nobody | same
    · rw [nobody]
      simp
    · rw [same]
      exact other
  law := law_mark

/-! ## Numbers and accumulators -/

theorem Inv.move_requestId (inv : Inv rows s) : Move rows t s { s with reqId := s.reqId + 1 } where
  inv := ⟨{ inv.stored with },
    { inv.numbered with bound := fun t i mem => (inv.numbered.bound t i mem).trans (by simp only; omega) },
    { inv.slotted with }⟩
  beside u _ := { Rely.refl u s with }
  law := .of_same rfl rfl

theorem Inv.move_number (inv : Inv rows s) (u : Nat) :
    Move rows (some u) s ({ s with reqId := s.reqId + 1 }.mark (.numbered u (s.reqId + 1))) := by
  have first := inv.move_requestId (t := some u)
  refine first.trans (first.inv.move_mark ⟨le_refl _, fun v mem => ?_⟩ (by simp) (by simp) (.inr rfl))
  have bound := inv.numbered.bound v _ mem
  omega

/-- The thread that got the number puts a new accumulator there. -/
theorem Inv.move_register (inv : Inv rows s) (blank : a.Blank)
    (mine : .numbered u a.requestId ∈ s.journal)
    (absent : s.accumulators.lookup a.requestId = none)
    (current : (u, a.requestId) ∈ (tally s.journal).opening →
      a.connectionGeneration = s.connectionGeneration) :
    Move rows (some u) s (s.register a) where
  inv := by
    refine ⟨inv.stored.register blank absent, { inv.numbered with },
      inv.slotted.register mine absent fun x opening same => ?_⟩
    have opened := inv.numbered.opened _ _ (inv.numbered.tallied x (.inl opening))
    rw [same] at opened
    have whose := inv.numbered.unique _ _ _ opened mine
    exact current (by rw [← whose, ← same]; exact opening)
  beside v other := { Rely.refl v s with
    absent := fun i theirs none => by
      refine Option.eq_none_iff_forall_not_mem.mpr fun b found => ?_
      rcases lookup_register.mp found with ⟨rfl, -⟩ | ⟨-, before⟩
      · exact other (by rw [inv.numbered.unique _ _ _ mine theirs])
      · rw [none] at before
        cases before
    stays := fun i b found => by
      refine ⟨b, lookup_register.mpr (.inr ⟨?_, found⟩), .refl b⟩
      rintro rfl
      rw [absent] at found
      cases found }
  law := by
    refine ⟨[], (List.append_nil _).symm, fun i b found done => ⟨b, ?_, done, rfl, rfl, fun _ => rfl⟩⟩
    refine lookup_register.mpr (.inr ⟨?_, found⟩)
    rintro rfl
    rw [absent] at found
    cases found

/-! ## Writes -/

section Writes

variable {f : Accumulator ρ δ → Accumulator ρ δ}

theorem rely_modify (keeps : ∀ a, Keeps a (f a)) : Rely u s (s.modifyAccumulator i f) :=
  { Rely.refl u s with
    absent := fun k _ none => by
      refine Option.eq_none_iff_forall_not_mem.mpr fun b found => ?_
      obtain ⟨c, before, -⟩ := lookup_modifyAccumulator.mp found
      rw [none] at before
      cases before
    stays := fun k a found => by
      refine ⟨_, lookup_modifyAccumulator.mpr ⟨a, found, rfl⟩, ?_⟩
      split
      · exact keeps a
      · exact .refl a }

theorem law_modify (lasts : ∀ a, s.accumulators.lookup i = some a → Lasts a (f a)) :
    Law s (s.modifyAccumulator i f) := by
  refine ⟨[], (List.append_nil _).symm, fun k a found done => ?_⟩
  refine ⟨_, lookup_modifyAccumulator.mpr ⟨a, found, rfl⟩, ?_⟩
  split
  · rename_i same
    obtain ⟨still, fixed⟩ := lasts a (same ▸ found) done
    have parts := fixed
    simp only [Accumulator.outcome, Prod.mk.injEq] at parts
    exact ⟨still, parts.1, parts.2.1, fun _ => fixed⟩
  · exact ⟨done, rfl, rfl, fun _ => rfl⟩

theorem law_disturb (touch : ∀ a, Touch a (f a)) (disturbs : m.disturbs i = true) :
    Law s ((s.modifyAccumulator i f).mark m) := by
  refine ⟨[m], rfl, fun k a found done => ?_⟩
  refine ⟨_, lookup_modifyAccumulator.mpr ⟨a, found, rfl⟩, ?_⟩
  split
  · rename_i same
    refine ⟨(touch a).recorded.trans done, (touch a).records, (touch a).digest, fun quiet => ?_⟩
    rw [← same, quiet m (List.mem_singleton_self m)] at disturbs
    cases disturbs
  · exact ⟨done, rfl, rfl, fun _ => rfl⟩

theorem Inv.modify (inv : Inv rows s) (touch : ∀ a, Touch a (f a)) :
    Inv rows (s.modifyAccumulator i f) :=
  ⟨inv.stored.modify (fun a => (touch a).keeps)
      fun a found => (inv.stored.sane i a found).touch (touch a),
    { inv.numbered with }, inv.slotted.modify fun a => (touch a).keeps⟩

theorem Inv.move_touch (inv : Inv rows s) (touch : ∀ a, Touch a (f a))
    (lasts : ∀ a, s.accumulators.lookup i = some a → Lasts a (f a)) :
    Move rows t s (s.modifyAccumulator i f) :=
  ⟨inv.modify touch, fun _ _ => rely_modify fun a => (touch a).keeps, law_modify lasts⟩

theorem Mark.harmless_of_disturbs (disturbs : m.disturbs i = true) :
    m.Valid s ∧ (∀ t i, m ≠ .reserved t i) ∧ m ≠ .connection := by
  cases m <;> simp_all [Mark.disturbs, Mark.Valid]

/-- What the client writes on its own account is marked. -/
theorem Inv.move_disturb (inv : Inv rows s) (touch : ∀ a, Touch a (f a))
    (disturbs : m.disturbs i = true) (mine : m.thread = none ∨ m.thread = t) :
    Move rows t s ((s.modifyAccumulator i f).mark m) := by
  obtain ⟨valid, given, steady⟩ := Mark.harmless_of_disturbs (s := s.modifyAccumulator i f) disturbs
  have marked := (inv.modify (i := i) touch).move_mark valid given steady mine
  exact ⟨marked.inv, fun u other => (rely_modify fun a => (touch a).keeps).trans
    (marked.beside u other), law_disturb touch disturbs⟩

end Writes

/-! ## The lane and the slot -/

section Lane

variable (inv : Inv rows s)
include inv

theorem Inv.move_lock (free : s.queryLock = none) :
    Move rows (some u) s { s with queryLock := some u } where
  inv := ⟨{ inv.stored with }, { inv.numbered with }, { inv.slotted with }⟩
  beside v _ := { Rely.refl v s with
    lock := fun theirs => by
      rw [free] at theirs
      cases theirs
    slot := fun _ none => none }
  law := .of_same rfl rfl

theorem Inv.move_unlock (mine : s.queryLock = some u) :
    Move rows (some u) s { s with queryLock := none } where
  inv := ⟨{ inv.stored with }, { inv.numbered with }, { inv.slotted with }⟩
  beside v other := { Rely.refl v s with
    lock := fun theirs => absurd (mine.symm.trans theirs) other
    slot := fun _ none => none }
  law := .of_same rfl rfl

omit inv in
theorem rely_clearSlot : Rely u s { s with queryNativeInflight := none } :=
  { Rely.refl u s with slot := fun _ _ => rfl }

theorem Inv.move_querySlotBlocking : Move rows t s s.querySlotBlocking.2 := by
  have slotted := inv.slotted.querySlotBlocking
  unfold Lane.querySlotBlocking at slotted ⊢
  split
  · exact .refl inv
  · rename_i slot taken
    rw [taken] at slotted
    split
    · exact .refl inv
    · rename_i stale
      simp only [stale, if_false] at slotted
      exact ⟨⟨{ inv.stored with },
        { inv.numbered with }, slotted⟩, fun _ _ => rely_clearSlot, .of_same rfl rfl⟩

theorem Inv.move_release (requestType : Option RequestType)
    (free : ∀ x ∈ (tally s.journal).busy, x.2 ≠ i) :
    Move rows t s (s.releaseQuerySlot i requestType) := by
  have slotted := inv.slotted.release requestType free
  unfold Lane.releaseQuerySlot at slotted ⊢
  split
  · exact .refl inv
  · rename_i slot taken
    rw [taken] at slotted
    split
    · rename_i mine
      simp only [mine] at slotted
      exact ⟨⟨{ inv.stored with },
        { inv.numbered with }, slotted⟩, fun _ _ => rely_clearSlot, .of_same rfl rfl⟩
    · exact .refl inv

omit inv in
theorem releaseQuerySlot_mark (s : Lane ρ δ) (i : Int) (requestType : Option RequestType)
    (m : Mark) :
    (s.releaseQuerySlot i requestType).mark m = (s.mark m).releaseQuerySlot i requestType := by
  obtain ⟨_, _, _, _, _, _, _, slot, _, _, _⟩ := s
  cases slot with
  | none => rfl
  | some slot =>
    unfold Lane.releaseQuerySlot Lane.mark
    dsimp only
    split <;> rfl

/-- A query that is not in flight gives up, and its slot with it. -/
theorem Inv.move_abandon (requestType : Option RequestType)
    (mine : .numbered u i ∈ s.journal) (unsent : (u, i) ∉ (tally s.journal).outstanding) :
    Move rows (some u) s ((s.releaseQuerySlot i requestType).mark (.abandoned u i)) := by
  rw [releaseQuerySlot_mark]
  have marked : Move rows (some u) s (s.mark (.abandoned u i)) :=
    inv.move_mark trivial (by simp) (by simp) (.inr rfl)
  refine marked.trans (marked.inv.move_release _ fun x busy same => ?_)
  have opened := marked.inv.numbered.opened _ _ (marked.inv.numbered.tallied x (.inr busy))
  rw [same] at opened
  have whose := marked.inv.numbered.unique _ _ _ opened (List.mem_append_left _ mine)
  have here : x = (u, i) := Prod.ext whose same
  change x ∈ (tally (s.journal ++ [.abandoned u i])).busy at busy
  rw [tally_append, here] at busy
  simp [Tally.busy, Tally.note, unsent] at busy

/-- The slot is taken by the thread that has the lane. -/
theorem Inv.move_reserve (lane : s.queryLock = some u)
    (free : s.queryNativeInflight = none ∨ s.poisoned = true)
    (found : s.accumulators.lookup i = some a) :
    Move rows (some u) s ({ s with
      queryNativeInflight := some (i, a.requestType, a.connectionGeneration) }.mark
        (.reserved u i)) where
  inv := by
    refine ⟨Stored.mark { inv.stored with }, ?_, inv.slotted.reserve free found⟩
    exact Numbered.mark (s := { s with
      queryNativeInflight := some (i, a.requestType, a.connectionGeneration) })
      { inv.numbered with } trivial
  beside v other := by
    have taken : Rely v s { s with
        queryNativeInflight := some (i, a.requestType, a.connectionGeneration) } :=
      { Rely.refl v s with slot := fun theirs => absurd (lane.symm.trans theirs) other }
    exact taken.trans (rely_mark other (by simp))
  law := (Law.of_same rfl rfl).trans law_mark

/-! ## Packets -/

/-- A slot is only given up for a packet that is about its query. -/
theorem Inv.move_noteTerminal (p : Packet ρ) :
    Move rows t s (s.noteTerminal p) := by
  unfold Lane.noteTerminal
  split
  · dsimp only
    split
    · rw [releaseQuerySlot_mark]
      have marked : Move rows t s (s.mark (.terminal p.requestId)) :=
        inv.move_mark trivial (by simp) (by simp) (.inl rfl)
      refine marked.trans (marked.inv.move_release _ fun x busy => ?_)
      change x ∈ (tally (s.journal ++ [.terminal p.requestId])).busy at busy
      rw [tally_append] at busy
      simp only [Tally.busy, Tally.note, List.mem_append, mem_withoutId] at busy
      rcases busy with held | outstanding
      · exact held.2
      · exact outstanding.2
    · rename_i foreign
      have untouched : s.releaseQuerySlot p.requestId p.requestType = s := by
        unfold Lane.releaseQuerySlot
        split
        · rfl
        · rename_i slot taken
          refine if_neg fun matching => foreign ?_
          obtain ⟨a, found, kind⟩ := inv.slotted.slot slot taken
          rw [matching.1] at found
          rcases matching.2 with same | unknown
          · simp [Lane.isAbout, found, same, kind]
          · simp [Lane.isAbout, unknown]
      rw [untouched]
      exact .refl inv
  · exact .refl inv

omit inv in
theorem rely_hear : Rely u s (s.hear p) := { Rely.refl u s with }

omit inv in
theorem keeps_takePacket (a : Accumulator ρ δ) :
    Keeps a (if a.connectionGeneration = generation then a.receive rows p early now else a.late) := by
  split
  · exact keeps_receive
  · exact touch_late.keeps

theorem Inv.move_takePacket (kind : p.Answers) :
    Move rows t s (s.takePacket rows p early now) := by
  have stored := inv.stored.takePacket early now kind
  have heard : Slotted (s.hear p) :=
    { inv.slotted with }
  rcases takePacket_cases rows s p early now with ⟨-, same⟩ | ⟨b, found, ⟨-, -, same⟩ | ⟨-, same⟩⟩
  · rw [same]
    exact .refl inv
  · rw [same] at stored ⊢
    have same : Law s (s.hear p) := .of_same rfl rfl
    refine ⟨⟨stored, { inv.numbered with }, heard.modify keeps_takePacket⟩,
      fun u _ => rely_hear.trans (rely_modify keeps_takePacket),
      same.trans (law_modify fun a found => ?_)⟩
    split
    · exact (inv.stored.sane _ a found).lasts_receive
    · exact fun done => ⟨done, rfl⟩
  · rw [same] at stored ⊢
    exact ⟨⟨stored, { inv.numbered with }, heard⟩, fun _ _ => rely_hear, .of_same rfl rfl⟩

theorem Inv.move_handleQueryCallback (kind : p.Answers) :
    Move rows t s (s.handleQueryCallback rows p early now) := by
  have noted := inv.move_noteTerminal (t := t) p
  exact noted.trans (noted.inv.move_takePacket kind)

theorem Inv.move_capQuery (p : Packet ρ) : Move rows t s (s.capQuery p).2 := by
  unfold Lane.capQuery
  split
  · exact .refl inv
  · split
    · have counted : Move rows t s (s.modifyAccumulator p.requestId Accumulator.late) :=
        inv.move_touch (fun _ => touch_late) fun _ _ done => ⟨done, rfl⟩
      exact counted.trans (counted.inv.move_noteTerminal p)
    · split
      · exact inv.move_touch (fun _ => touch_pending) fun _ _ done => ⟨done, rfl⟩
      · exact .refl inv

omit inv in
theorem noteTerminal_ingress (s : Lane ρ δ) (p : Packet ρ) :
    (s.noteTerminal p).ingress = s.ingress := by
  unfold Lane.noteTerminal Lane.releaseQuerySlot
  grind [Lane.mark]

omit inv in
theorem capQuery_ingress (s : Lane ρ δ) (p : Packet ρ) : (s.capQuery p).2.ingress = s.ingress := by
  unfold Lane.capQuery
  split
  · rfl
  · split
    · rw [noteTerminal_ingress]
      rfl
    · split <;> rfl

/-! ## The session -/

omit inv in
theorem Prompted.mono {possible possible' : Prop} (prompted : Prompted possible journal)
    (implies : possible → possible') : Prompted possible' journal := by
  intro before thread requestId after split
  rcases prompted before thread requestId after split with held | terminal | loose
  · exact .inl held
  · exact .inr (.inl terminal)
  · exact .inr (.inr ⟨implies loose.1, loose.2⟩)

/-- An ingress that is there is poisoned. -/
theorem Inv.move_poison :
    Move rows t s { s with ingress := s.ingress.map fun _ => true } := by
  cases installed : s.ingress with
  | none =>
    have same : { s with ingress := (none : Option Bool).map fun _ => true } = s := by
      rw [Option.map_none, ← installed]
    rw [same]
    exact .refl inv
  | some poisoned =>
    refine ⟨⟨{ inv.stored with },
      { inv.numbered with prompted := inv.numbered.prompted.mono fun _ => by simp },
      ⟨inv.slotted.generation, inv.slotted.slot, fun fine => ?_, inv.slotted.loggedIn,
        inv.slotted.registered⟩⟩,
      fun u _ => { Rely.refl u s with
        poisoned := fun _ => by simp [Lane.poisoned]
        steady := fun _ fine => by simp at fine
        ingress := fun fine => by simp at fine }, .of_same rfl rfl⟩
    simp [Lane.poisoned] at fine

theorem Inv.move_capture (p : Packet ρ) (captured : Bool) :
    Move rows t s (s.capture p captured).2 := by
  unfold Lane.capture
  split
  · exact .refl inv
  · exact .refl inv
  · rename_i installed
    have capped := inv.move_capQuery (t := t) p
    dsimp only
    split
    · exact capped
    · split
      · exact capped
      · have poisoned := capped.inv.move_poison (t := t)
        rw [capQuery_ingress, installed] at poisoned
        exact capped.trans poisoned

/-- The connection changes: every query is let go. -/
theorem Inv.move_connection {slot : Option (Int × RequestType × Int)}
    (later : s.connectionGeneration ≤ generation)
    (kept : slot = none ∨ slot = s.queryNativeInflight)
    (first : 0 < s.connectionGeneration → s.ingress ≠ some false) :
    Move rows none s ({ s with
      loggedIn := false
      connectionGeneration := generation
      queryNativeInflight := slot }.mark .connection) := by
  have empty : ∀ x, x ∉ (tally (s.journal ++ [.connection])).opening ∧
      x ∉ (tally (s.journal ++ [.connection])).held ∧
      x ∉ (tally (s.journal ++ [.connection])).outstanding := by
    simp [tally_append, Tally.note]
  refine ⟨⟨{ inv.stored with }, ?_, ?_⟩, ?_, ?_⟩
  · have marked := inv.numbered.mark (m := .connection) trivial
    exact { marked with }
  · refine ⟨fun x a mem => absurd mem (empty x).1, fun x taken => ?_, fun fine orderly => ?_,
      by simp [Lane.mark], (inv.slotted.mark (m := .connection) trivial (by simp)).registered⟩
    · rcases kept with none | same
      · rw [none] at taken
        cases taken
      · rw [same] at taken
        exact inv.slotted.slot x taken
    · exact (inv.slotted.alone fine orderly.of_append.1).connection
  · intro u _
    have gone : ∀ i, (u, i) ∈ (tally s.journal).opening ∨ (u, i) ∈ (tally s.journal).busy →
        Gone u i (s.journal ++ [.connection]) := fun i here =>
      .inr (unsteady_connection (inv.numbered.tallied (u, i) here))
    refine { Rely.refl u s with
      journal := List.prefix_append _ _, opened := ?_
      current := fun i here => absurd here (empty (u, i)).1
      opening := fun i here => .inr (gone i (.inl here))
      held := fun i here => .inr (gone i (.inr (List.mem_append_left _ here)))
      openingBack := fun i here => absurd here (empty (u, i)).1
      heldBack := fun i here => absurd here (empty (u, i)).2.1
      outstandingBack := fun i here => absurd here (empty (u, i)).2.2
      slot := ?_, generation := later
      steady := fun positive fine => absurd fine (first positive) }
    · intro i mem
      simpa [Lane.mark] using mem
    · intro _ free
      rcases kept with none | same
      · exact none
      · exact same.trans free
  · exact (Law.of_same rfl rfl).trans law_mark

theorem Inv.move_loseQuery (own : origin = .frontDisconnected ∨ origin = .clientStop) (i : Int) :
    Move rows t s (s.loseQuery origin utc i) := by
  unfold Lane.loseQuery
  split
  · exact .refl inv
  · exact inv.move_disturb (fun _ => touch_connectionLost own) (by simp [Mark.disturbs]) (.inl rfl)

end Lane

theorem Inv.move_loseQueries (own : origin = .frontDisconnected ∨ origin = .clientStop) :
    ∀ (ids : List Int) {s : Lane ρ δ}, Inv rows s →
      Move rows t s (ids.foldl (Lane.loseQuery origin utc) s)
  | [], _, inv => .refl inv
  | i :: ids, _, inv =>
    let lost := inv.move_loseQuery own i
    lost.trans (Inv.move_loseQueries own ids lost.inv)

end BtApiCtp.Query
