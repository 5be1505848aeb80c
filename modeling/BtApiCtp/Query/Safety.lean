/-
# Query.Safety -- every thread keeps to its moves

Each program of the lane, step by step.  What a query thread knows between two steps is
stated so that others cannot spoil it (`Stable`): it has a number that nobody else uses
(`Fresh`), it has read the generation (`Opening`), it holds the slot unless a terminal packet
or the connection took it away (`Holding`), its native call is over (`Settled`).
-/
import BtApiCtp.Query.Moves

namespace BtApiCtp.Query

open Theory

variable {ρ δ α β : Type} {rows : Rows ρ δ} {s : Lane ρ δ} {t : Nat} {i : Int} {call : Call}
  {c : Chance} {found : Option Failure} {name : String} (failure : Failure)

/-! ## Rules -/

variable {f : Chance → Lane ρ δ → α × Lane ρ δ} {p : Action ρ δ α} {a : Accumulator ρ δ}

/-- The program of thread `t` makes moves only, and ends with `Q`. -/
def Secure (rows : Rows ρ δ) (t : Nat) (Q : α → Lane ρ δ → Prop) (p : Action ρ δ α)
    (s : Lane ρ δ) : Prop :=
  Prog.Safe (Inv rows) (Rely t) (Move rows (some t)) Q (fun _ _ => True) p s

def Stable (t : Nat) (P : Lane ρ δ → Prop) : Prop := ∀ s s', Rely t s s' → P s → P s'

theorem Stable.and {P P' : Lane ρ δ → Prop} (first : Stable t P) (second : Stable t P') :
    Stable t fun s => P s ∧ P' s :=
  fun s s' rely both => ⟨first s s' rely both.1, second s s' rely both.2⟩

theorem stable_true : Stable (ρ := ρ) (δ := δ) t fun _ => True := fun _ _ _ _ => trivial

variable {P : Lane ρ δ → Prop} {Q : α → Lane ρ δ → Prop}

theorem Secure.bind {Q' : β → Lane ρ δ → Prop} {f : α → Action ρ δ β}
    (first : Secure rows t Q p s) (rest : ∀ a s, Q a s → Secure rows t Q' (f a) s) :
    Secure rows t Q' (p >>= f) s :=
  Prog.Safe.bind rest first

theorem Secure.await {ready : Lane ρ δ → Bool} (pre : P s) (stable : Stable t P)
    (step : ∀ c s, P s → Inv rows s → ready s = true → Move rows (some t) s (f c s).2 ∧
      Q (f c s).1 (f c s).2) :
    Secure rows t Q (Prog.await ready fun c s => (.ok (f c s).1, (f c s).2)) s := by
  refine Prog.Safe.await P pre (fun s' rely => stable s s' rely) fun c s' here inv able => ?_
  obtain ⟨move, post⟩ := step c s' here inv able
  refine ⟨move.inv, move, fun a same => ?_, fun e same => ?_⟩
  · cases same
    exact post
  · trivial

theorem Secure.atomic (pre : P s) (stable : Stable t P)
    (step : ∀ c s, P s → Inv rows s → Move rows (some t) s (f c s).2 ∧ Q (f c s).1 (f c s).2) :
    Secure rows t Q (Prog.atomic fun c s => (.ok (f c s).1, (f c s).2)) s :=
  .await pre stable fun c s here inv _ => step c s here inv

theorem Secure.look {f : Chance → Lane ρ δ → α} (pre : P s) (stable : Stable t P)
    (post : ∀ c s, P s → Inv rows s → Q (f c s) s) : Secure rows t Q (look f) s :=
  .atomic (f := fun c s => (f c s, s)) pre stable fun c s here inv =>
    ⟨.refl inv, post c s here inv⟩

/-- A step that may raise. -/
theorem Secure.fallible {f : Chance → Lane ρ δ → Except Unit α × Lane ρ δ} (pre : P s)
    (stable : Stable t P) (step : ∀ c s, P s → Inv rows s → Move rows (some t) s (f c s).2 ∧
      ∀ a, (f c s).1 = .ok a → Q a (f c s).2) : Secure rows t Q (Prog.atomic f) s :=
  Prog.Safe.atomic P pre (fun s' rely => stable s s' rely) fun c s' here inv =>
    let ⟨move, post⟩ := step c s' here inv
    ⟨move.inv, move, post, fun _ _ => trivial⟩

theorem Secure.ask {f : Chance → Lane ρ δ → Except Unit α} (pre : P s) (stable : Stable t P)
    (post : ∀ c s a, P s → Inv rows s → f c s = .ok a → Q a s) : Secure rows t Q (ask f) s :=
  .fallible pre stable fun c s here inv => ⟨.refl inv, fun a => post c s a here inv⟩

theorem Secure.tryCatch {handler : Unit → Action ρ δ α} (first : Secure rows t Q p s)
    (caught : ∀ e s, Secure rows t Q (handler e) s) : Secure rows t Q (tryCatch p handler) s :=
  Prog.Safe.tryCatch (fun e s _ => caught e s) first

theorem Secure.throw {e : Unit} : Secure rows t Q (throw e : Action ρ δ α) s := trivial

theorem Secure.change {Q : Unit → Lane ρ δ → Prop} {f : Chance → Lane ρ δ → Lane ρ δ} (pre : P s)
    (stable : Stable t P)
    (step : ∀ c s, P s → Inv rows s → Move rows (some t) s (f c s) ∧ Q () (f c s)) :
    Secure rows t Q (change f) s :=
  .atomic (f := fun c s => ((), f c s)) pre stable step

/-- A look that nothing later depends on. -/
theorem Secure.glance {f : Chance → Lane ρ δ → α} :
    Secure rows t (fun _ _ => True) (Query.look f) s :=
  .look (P := fun _ => True) trivial stable_true fun _ _ _ _ => trivial

/-- A change that is a move whatever the thread knows. -/
theorem Secure.moves {f : Chance → Lane ρ δ → Lane ρ δ}
    (move : ∀ c s, Inv rows s → Move rows (some t) s (f c s)) :
    Secure rows t (fun _ _ => True) (Query.change f) s :=
  .change (P := fun _ => True) trivial stable_true fun c s _ inv => ⟨move c s inv, trivial⟩

theorem Secure.next {Q' : β → Lane ρ δ → Prop} {f : α → Action ρ δ β}
    (first : Secure rows t (fun _ _ => True) p s) (rest : ∀ a s, Secure rows t Q' (f a) s) :
    Secure rows t Q' (p >>= f) s :=
  first.bind fun a s _ => rest a s

theorem Secure.stall [Inhabited α] : Secure rows t Q stall s :=
  .await (P := fun _ => True) (f := fun _ s => (default, s)) trivial stable_true
    fun _ _ _ _ able => by cases able

theorem Secure.when {Q : Unit → Lane ρ δ → Prop} {b : Bool} {p : Action ρ δ Unit}
    (taken : b = true → Secure rows t Q p s) (skipped : b = false → Q () s) :
    Secure rows t Q (Prog.when b p) s :=
  Prog.Safe.when taken skipped

/-- A failure of the client's own. -/
def Failure.Honest : Prop :=
  failure.completionOrigin ≠ .success ∧ failure.completionOrigin ≠ .queryResponse ∧
    failure.completionOrigin ≠ .responseError ∧ failure.completionOrigin ≠ .recordLimit

/-! ## What a query thread knows -/

/-- The thread has the lane; the client has been connected. -/
def Laned (t : Nat) (s : Lane ρ δ) : Prop := s.queryLock = some t ∧ 0 < s.connectionGeneration

/-- Nothing is in the way of the next query. -/
def Free (t : Nat) (s : Lane ρ δ) : Prop :=
  Laned t s ∧ (s.queryNativeInflight = none ∨ s.poisoned = true)

/-- The number is new. -/
structure Fresh (t : Nat) (i : Int) (s : Lane ρ δ) : Prop where
  mine : .numbered t i ∈ s.journal
  unopened : .opened t i ∉ s.journal
  absent : s.accumulators.lookup i = none

/-- The generation was read, and the query is not yet in the slot. -/
structure Opening (t : Nat) (i : Int) (s : Lane ρ δ) : Prop where
  mine : .numbered t i ∈ s.journal
  opened : .opened t i ∈ s.journal
  phase : (t, i) ∈ (tally s.journal).opening ∨ Gone t i s.journal
  idle : (t, i) ∉ (tally s.journal).held ∧ (t, i) ∉ (tally s.journal).outstanding

/-- The accumulator is not yet there. -/
structure Unregistered (t : Nat) (a : Accumulator ρ δ) (s : Lane ρ δ) : Prop
    extends Opening t a.requestId s where
  absent : s.accumulators.lookup a.requestId = none
  current : (t, a.requestId) ∈ (tally s.journal).opening →
    a.connectionGeneration = s.connectionGeneration

/-- The query has the slot, unless it was taken away, and is not sent. -/
structure Holding (t : Nat) (i : Int) (s : Lane ρ δ) : Prop where
  mine : .numbered t i ∈ s.journal
  opened : .opened t i ∈ s.journal
  phase : (t, i) ∈ (tally s.journal).held ∨ Gone t i s.journal
  unsent : (t, i) ∉ (tally s.journal).outstanding

/-- The query neither has the slot nor is in flight. -/
structure Settled (t : Nat) (i : Int) (s : Lane ρ δ) : Prop where
  mine : .numbered t i ∈ s.journal
  idle : (t, i) ∉ (tally s.journal).held ∧ (t, i) ∉ (tally s.journal).outstanding

/-- Under an ingress the connection has not changed since. -/
structure Steady (t : Nat) (i : Int) (s : Lane ρ δ) : Prop where
  positive : 0 < s.connectionGeneration
  steady : s.ingress = some false → ¬ Unsteady t i s.journal

/-- The accumulator of the query. -/
def HasType (i : Int) (requestType : RequestType) (s : Lane ρ δ) : Prop :=
  ∃ a, s.accumulators.lookup i = some a ∧ a.requestType = requestType

theorem stable_positive : Stable (ρ := ρ) (δ := δ) t fun s => 0 < s.connectionGeneration :=
  fun _ _ rely positive => positive.trans_le rely.generation

theorem stable_laned : Stable (ρ := ρ) (δ := δ) t (Laned t) :=
  fun s s' rely laned => ⟨rely.lock laned.1, stable_positive s s' rely laned.2⟩

theorem stable_free : Stable (ρ := ρ) (δ := δ) t (Free t) := by
  intro s s' rely free
  exact ⟨stable_laned s s' rely free.1, free.2.imp (rely.slot free.1.1) rely.poisoned⟩

theorem stable_fresh : Stable (ρ := ρ) (δ := δ) t (Fresh t i) :=
  fun _ _ rely fresh => ⟨rely.journal.subset fresh.mine,
    fun mem => fresh.unopened (rely.opened i mem), rely.absent i fresh.mine fresh.absent⟩

theorem stable_opening : Stable (ρ := ρ) (δ := δ) t (Opening t i) :=
  fun _ _ rely opening => ⟨rely.journal.subset opening.mine, rely.journal.subset opening.opened,
    opening.phase.elim (rely.opening i) fun gone => .inr (gone.mono rely.journal),
    fun held => opening.idle.1 (rely.heldBack i held),
    fun sent => opening.idle.2 (rely.outstandingBack i sent)⟩

theorem stable_unregistered : Stable t (Unregistered t a) :=
  fun s s' rely un => ⟨stable_opening s s' rely un.toOpening, rely.absent _ un.mine un.absent,
    fun here => (un.current (rely.openingBack _ here)).trans (rely.current _ here).symm⟩

theorem stable_holding : Stable (ρ := ρ) (δ := δ) t (Holding t i) :=
  fun _ _ rely holding => ⟨rely.journal.subset holding.mine, rely.journal.subset holding.opened,
    holding.phase.elim (rely.held i) fun gone => .inr (gone.mono rely.journal),
    fun sent => holding.unsent (rely.outstandingBack i sent)⟩

theorem stable_settled : Stable (ρ := ρ) (δ := δ) t (Settled t i) :=
  fun _ _ rely settled => ⟨rely.journal.subset settled.mine,
    fun held => settled.idle.1 (rely.heldBack i held),
    fun sent => settled.idle.2 (rely.outstandingBack i sent)⟩

theorem stable_steady : Stable (ρ := ρ) (δ := δ) t (Steady t i) :=
  fun s s' rely steady => ⟨stable_positive s s' rely steady.positive, fun fine unsteady =>
    steady.steady (rely.ingress fine) (rely.steady steady.positive fine i unsteady)⟩

theorem stable_hasType {requestType : RequestType} :
    Stable (ρ := ρ) (δ := δ) t (HasType i requestType) := by
  rintro s s' rely ⟨a, found, kind⟩
  obtain ⟨a', found', keeps⟩ := rely.stays i a found
  exact ⟨a', found', keeps.requestType.trans kind⟩

theorem Stable.imp {lane : Prop} (stable : Stable t P) : Stable t fun s => lane → P s :=
  fun s s' rely holds inLane => stable s s' rely (holds inLane)

/-! ## A new query -/

variable {lane : Prop} {requestType : RequestType}

theorem secure_nextRequestId (pre : lane → Free t s) :
    Secure rows t (fun i s => Fresh t i s ∧ (lane → Free t s)) (nextRequestId t) s := by
  refine .atomic (P := fun s => lane → Free t s)
    (f := fun _ s => (s.reqId + 1, { s with reqId := s.reqId + 1 }.mark (.numbered t (s.reqId + 1))))
    pre stable_free.imp ?_
  intro _ s free inv
  refine ⟨inv.move_number t, ⟨?_, ?_, ?_⟩, free⟩
  · exact List.mem_concat_self
  · intro mem
    have opened : .opened t (s.reqId + 1) ∈ s.journal := by simpa [Lane.mark] using mem
    have bound := inv.numbered.bound _ _ (inv.numbered.opened _ _ opened)
    omega
  · refine Option.eq_none_iff_forall_not_mem.mpr fun a found => ?_
    obtain ⟨u, numbered⟩ := inv.slotted.registered _ a found
    have bound := inv.numbered.bound _ _ numbered
    omega

/-- The generation is read. -/
theorem Fresh.opened (fresh : Fresh t i s) (inv : Inv rows s) (same : a.requestId = i)
    (current : a.connectionGeneration = s.connectionGeneration) :
    Unregistered t a (s.mark (.opened t i)) := by
  subst same
  have unnoted : (t, a.requestId) ∉ (tally s.journal).busy :=
    fun busy => fresh.unopened (inv.numbered.tallied _ (.inr busy))
  refine ⟨⟨List.mem_append_left _ fresh.mine, List.mem_concat_self, .inl ?_, ?_, ?_⟩, fresh.absent,
    fun _ => current⟩
  · rw [tally_mark]
    exact List.mem_cons_self
  · rw [tally_mark]
    exact fun held => unnoted (List.mem_append_left _ held)
  · rw [tally_mark]
    exact fun sent => unnoted (List.mem_append_right _ sent)

theorem Fresh.steady (fresh : Fresh t i s) (positive : 0 < s.connectionGeneration) :
    Steady t i (s.mark (.opened t i)) :=
  ⟨positive, fun _ unsteady => not_unsteady_of_not_mem fresh.unopened
    ((unsteady_append_iff (by simp)).mp unsteady)⟩

theorem secure_newQueryAccumulator (lane : Prop) {limit : Option Nat} (pre : lane → Free t s) :
    Secure rows t (fun i s => Opening t i s ∧ HasType i requestType s ∧
      (lane → Free t s ∧ Steady t i s)) (newQueryAccumulator t requestType limit) s := by
  unfold newQueryAccumulator
  refine (secure_nextRequestId pre).bind fun i s here => ?_
  refine .bind (Q := fun a s => a.Blank ∧ a.requestType = requestType ∧ a.requestId = i ∧
    Unregistered t a s ∧ (lane → Free t s ∧ Steady t i s)) ?_ fun a s here => ?_
  · refine .atomic (P := fun s => Fresh t i s ∧ (lane → Free t s))
      (f := fun c s => (({ requestType, requestId := i, recordLimit := limit
                           connectionGeneration := s.connectionGeneration
                           startedMonotonic := c.clocks.monotonic } : Accumulator ρ δ),
        s.mark (.opened t i))) here (stable_fresh.and stable_free.imp) ?_
    intro c s now inv
    refine ⟨?_, rfl, rfl, rfl, now.1.opened inv rfl rfl, fun inLane =>
      ⟨now.2 inLane, now.1.steady (now.2 inLane).1.2⟩⟩
    exact inv.move_mark ⟨now.1.mine, now.1.absent⟩ (by simp) (by simp) (.inr rfl)
  · obtain ⟨blank, kind, same, here⟩ := here
    refine .bind (Q := fun _ s => Opening t i s ∧ HasType i requestType s ∧
      (lane → Free t s ∧ Steady t i s)) ?_ fun _ s here => here
    refine .change here (stable_unregistered.and (stable_free.and stable_steady).imp)
      fun c s now inv => ⟨inv.move_register blank now.1.mine now.1.absent now.1.current, ?_⟩
    have registered : (s.register a).accumulators.lookup i = some a :=
      lookup_register.mpr (.inl ⟨same.symm, rfl⟩)
    refine ⟨?_, ⟨a, registered, kind⟩, fun inLane => ⟨(now.2 inLane).1, ?_⟩⟩
    · exact ⟨same ▸ now.1.mine, same ▸ now.1.opened, same ▸ now.1.phase, same ▸ now.1.idle⟩
    · exact ⟨(now.2 inLane).2.positive, (now.2 inLane).2.steady⟩

theorem secure_localQueryFailure (honest : failure.Honest) :
    Secure rows t (fun _ _ => True) (localQueryFailure t requestType failure) s := by
  unfold localQueryFailure
  refine (secure_newQueryAccumulator False (fun never => never.elim)).bind fun i s here => ?_
  refine .moves fun c s inv => ?_
  exact inv.move_disturb (fun _ => touch_failLocally honest) (by simp [Mark.disturbs]) (.inr rfl)

/-! ## The lane -/

/-- A reason to give up, or the way is free. -/
def Verdict (t : Nat) (found : Option Failure) (s : Lane ρ δ) : Prop :=
  match found with
  | some failure => failure.Honest
  | none => Free t s

theorem honest_cancelled : Failure.cancelled.Honest := by simp [Failure.Honest, Failure.cancelled]

theorem honest_deadlineExceeded : Failure.deadlineExceeded.Honest := by
  simp [Failure.Honest, Failure.deadlineExceeded]

theorem honest_notLoggedIn : Failure.notLoggedIn.Honest := by
  simp [Failure.Honest, Failure.notLoggedIn]

theorem honest_slotBusy : Failure.slotBusy.Honest := by simp [Failure.Honest, Failure.slotBusy]

theorem Call.preflight_cases {s : Lane ρ δ} (looked : call.preflight c s = .ok found) :
    (∃ failure, found = some failure ∧ failure.Honest) ∨
      (found = none ∧ s.isReadOnlyReady = true) := by
  unfold Call.preflight at looked
  split at looked
  · cases looked
  split at looked
  · exact .inl ⟨_, (Except.ok.inj looked).symm, honest_deadlineExceeded⟩
  split at looked
  · cases looked
  split at looked
  · exact .inl ⟨_, (Except.ok.inj looked).symm, honest_cancelled⟩
  split at looked
  · exact .inl ⟨_, (Except.ok.inj looked).symm, honest_notLoggedIn⟩
  · rename_i ready
    split at looked
    · exact .inl ⟨_, (Except.ok.inj looked).symm, by simp [Failure.Honest]⟩
    · exact .inr ⟨(Except.ok.inj looked).symm, by simpa using ready⟩

theorem Call.prepare_cases (looked : call.prepare c = .ok found) :
    (∃ failure, found = some failure ∧ failure.Honest) ∨ found = none := by
  unfold Call.prepare at looked
  split at looked
  · cases looked
  split at looked
  · exact .inl ⟨_, (Except.ok.inj looked).symm, honest_cancelled⟩
  split at looked
  · exact .inl ⟨_, (Except.ok.inj looked).symm, honest_deadlineExceeded⟩
  · cases looked
    cases c.readback with
    | none => exact .inr rfl
    | some message => exact .inl ⟨_, rfl, by simp [Failure.Honest]⟩

theorem querySlotBlocking_cases (s : Lane ρ δ) :
    (s.queryNativeInflight = none ∧ s.querySlotBlocking = (false, s)) ∨
      s.querySlotBlocking = (!s.poisoned, s) ∨
      s.querySlotBlocking = (false, { s with queryNativeInflight := none }) := by
  unfold Lane.querySlotBlocking
  split
  · rename_i empty
    exact .inl ⟨empty, rfl⟩
  · split
    · exact .inr (.inl rfl)
    · exact .inr (.inr rfl)

theorem querySlotBlocking_laned (laned : Laned t s) : Laned t s.querySlotBlocking.2 := by
  rcases querySlotBlocking_cases s with ⟨-, same⟩ | same | same <;> rw [same] <;> exact laned

theorem querySlotBlocking_free (laned : Laned t s) (passable : s.querySlotBlocking.1 = false) :
    Free t s.querySlotBlocking.2 := by
  refine ⟨querySlotBlocking_laned laned, ?_⟩
  rcases querySlotBlocking_cases s with ⟨empty, same⟩ | same | same
  · rw [same]
    exact .inl empty
  · rw [same] at passable ⊢
    exact .inr (by simpa using passable)
  · rw [same]
    exact .inl rfl

theorem secure_pollQuerySlot (call : Call) (slotDeadline : Int) :
    ∀ (polls : Nat) {s : Lane ρ δ}, Laned t s →
      Secure rows t (Verdict t) (pollQuerySlot call slotDeadline polls) s
  | 0, _, _ => .stall
  | polls + 1, s, laned => by
    unfold pollQuerySlot
    refine .bind (Q := fun found s => Laned t s ∧
      ∀ verdict, found = some verdict → Verdict t verdict s) ?_ fun found s here => ?_
    · refine .fallible laned stable_laned fun c s laned inv => ?_
      have moved := inv.move_querySlotBlocking (t := some t)
      have still := querySlotBlocking_laned laned
      have free := querySlotBlocking_free laned
      split
      · exact ⟨.refl inv, nofun⟩
      split
      · refine ⟨.refl inv, fun a same => ?_⟩
        cases same
        exact ⟨laned, fun verdict same => Option.some.inj same ▸ honest_cancelled⟩
      · dsimp only
        split
        · rename_i passable
          refine ⟨moved, fun a same => ?_⟩
          cases same
          exact ⟨still, fun verdict same => Option.some.inj same ▸ free passable⟩
        · split
          · refine ⟨moved, fun a same => ?_⟩
            cases same
            exact ⟨still, fun verdict same => Option.some.inj same ▸ honest_slotBusy⟩
          · refine ⟨moved, fun a same => ?_⟩
            cases same
            exact ⟨still, nofun⟩
    · match found with
      | none => exact secure_pollQuerySlot call slotDeadline polls here.1
      | some (some failure) => exact here.2 _ rfl
      | some none =>
        refine .look (here.2 _ rfl : Free t s) stable_free fun c s free _ => ?_
        split
        · exact free
        · exact honest_notLoggedIn

theorem secure_waitForQuerySlot (call : Call) (laned : Laned t s) :
    Secure rows t (Verdict t) (waitForQuerySlot call) s := by
  unfold waitForQuerySlot
  refine .bind (Q := fun blocking s => Laned t s ∧ (blocking = false → Free t s)) ?_
    fun blocking s here => ?_
  · refine .atomic (f := fun _ s => s.querySlotBlocking) laned stable_laned ?_
    intro c s laned inv
    exact ⟨inv.move_querySlotBlocking, querySlotBlocking_laned laned, querySlotBlocking_free laned⟩
  · cases blocking with
    | false => exact here.2 rfl
    | true =>
      refine .bind (Q := fun _ s => Laned t s) ?_ fun slotDeadline s laned => ?_
      · exact .look here.1 stable_laned fun _ _ laned _ => laned
      · exact secure_pollQuerySlot call slotDeadline call.polls laned

theorem secure_admitQuery (call : Call) (laned : Laned t s) :
    Secure rows t (Verdict t) (admitQuery call) s := by
  unfold admitQuery
  refine .bind (Q := fun _ s => Laned t s) ?_ fun tooLate s laned => ?_
  · exact .look laned stable_laned fun _ _ laned _ => laned
  · cases tooLate with
    | true => exact honest_deadlineExceeded
    | false =>
      refine (secure_waitForQuerySlot call laned).bind fun found s here => ?_
      match found with
      | some failure => exact here
      | none =>
        refine .ask (here : Free t s) stable_free fun c s found free _ looked => ?_
        rcases Call.prepare_cases looked with ⟨failure, rfl, honest⟩ | rfl
        · exact honest
        · exact free

theorem secure_acquireLane (call : Call) (positive : 0 < s.connectionGeneration) :
    Secure rows t (fun acquired s => acquired = true → Laned t s) (acquireLane t call) s := by
  refine Prog.Safe.await (fun s => 0 < s.connectionGeneration) positive
    (fun s' rely => stable_positive s s' rely) ?_
  intro c s positive inv _
  split
  · rename_i free
    have unlocked : s.queryLock = none := by
      simp only [Bool.and_eq_true, Option.isNone_iff_eq_none] at free
      exact free.1
    have move := inv.move_lock (u := t) unlocked
    exact ⟨move.inv, move, fun _ _ _ => ⟨rfl, positive⟩, fun _ _ => trivial⟩
  · refine ⟨inv, .refl inv, fun a same won => ?_, fun _ _ => trivial⟩
    rw [← Except.ok.inj same] at won
    cases won

theorem secure_releaseLane (pre : P s) (stable : Stable t P)
    (keeps : ∀ s, P s → P { s with queryLock := none }) :
    Secure rows t (fun _ s => P s) (releaseLane t) s := by
  refine .change pre stable fun c s here inv => ?_
  split
  · rename_i mine
    exact ⟨inv.move_unlock mine, keeps s here⟩
  · exact ⟨.refl inv, here⟩

/-! ## The slot and the native call -/

theorem Opening.reserved (opening : Opening t i s) {slot : Option (Int × RequestType × Int)} :
    Holding t i ({ s with queryNativeInflight := slot }.mark (.reserved t i)) := by
  refine ⟨List.mem_append_left _ opening.mine, List.mem_append_left _ opening.opened, ?_, ?_⟩
  · rcases opening.phase with here | gone
    · rw [tally_mark]
      exact .inl (by simp [Tally.note, here])
    · exact .inr (gone.mono (List.prefix_append _ _))
  · rw [tally_mark]
    by_cases here : (t, i) ∈ (tally s.journal).opening <;> simp [Tally.note, here, opening.idle.2]

theorem secure_reserveSlot
    (pre : Opening t i s ∧ HasType i requestType s ∧ Free t s ∧ Steady t i s) :
    Secure rows t (fun _ s => Holding t i s ∧ Steady t i s) (reserveSlot t i requestType) s := by
  refine .change pre (stable_opening.and (stable_hasType.and (stable_free.and stable_steady)))
    fun c s here inv => ?_
  obtain ⟨opening, ⟨a, found, rfl⟩, free, steady⟩ := here
  rw [found]
  refine ⟨inv.move_reserve free.1.1 free.2 found, opening.reserved, steady.positive, ?_⟩
  intro fine unsteady
  exact steady.steady fine ((unsteady_append_iff (by simp)).mp unsteady)

/-- A query that gave up neither holds the slot nor is in flight. -/
theorem Settled.free (settled : Settled t i s) (inv : Inv rows s) :
    ∀ x ∈ (tally s.journal).busy, x.2 ≠ i := by
  intro x busy same
  have opened := inv.numbered.opened _ _ (inv.numbered.tallied x (.inr busy))
  rw [same] at opened
  have here : x = (t, i) := Prod.ext (inv.numbered.unique _ _ _ opened settled.mine) same
  rw [here] at busy
  rcases List.mem_append.mp busy with held | sent
  · exact settled.idle.1 held
  · exact settled.idle.2 sent

theorem secure_markQueryDeadlineExceeded :
    Secure rows t (fun _ _ => True) (markQueryDeadlineExceeded i) s :=
  .moves fun _ _ inv =>
    inv.move_disturb (fun _ => touch_markDeadlineExceeded) (by simp [Mark.disturbs]) (.inl rfl)

theorem secure_failSubmit_unsent (pre : Holding t i s) :
    Secure rows t (fun _ _ => True) (failSubmit t i requestType false name) s := by
  refine .change pre stable_holding fun c s holding inv => ⟨?_, trivial⟩
  have gaveUp := inv.move_abandon (some requestType) holding.mine holding.unsent
  exact gaveUp.trans (gaveUp.inv.move_disturb (i := i) (m := .submitFailed i)
    (fun _ => touch_submitException) (by simp [Mark.disturbs]) (.inl rfl))

theorem secure_failSubmit_entered (pre : Settled t i s) :
    Secure rows t (fun _ _ => True) (failSubmit t i requestType true name) s := by
  refine .change pre stable_settled fun c s settled inv => ⟨?_, trivial⟩
  have released := inv.move_release (t := some t) (some requestType) (settled.free inv)
  exact released.trans (released.inv.move_disturb (i := i) (m := .submitFailed i)
    (fun _ => touch_submitException) (by simp [Mark.disturbs]) (.inl rfl))

/-- The native method is entered. -/
theorem secure_enter (pre : Holding t i s ∧ Steady t i s) :
    Secure rows t (fun _ s => .numbered t i ∈ s.journal ∧ (t, i) ∉ (tally s.journal).held)
      (change fun _ s => s.mark (.entered t i)) s := by
  refine .change pre (stable_holding.and stable_steady) fun c s here inv => ?_
  obtain ⟨holding, steady⟩ := here
  have ready : Mark.Valid s (.entered t i) := by
    refine ⟨holding.opened, ?_⟩
    rcases holding.phase with held | terminal | unsteady
    · exact .inl held
    · exact .inr (.inl terminal)
    · exact .inr (.inr ⟨fun fine => steady.steady fine unsteady, unsteady⟩)
  refine ⟨inv.move_mark ready (by simp) (by simp) (.inr rfl),
    List.mem_append_left _ holding.mine, ?_⟩
  rw [tally_mark]
  simp [Tally.note]

/-- The native method raised, or refused. -/
def Unanswered (outcome : Option (Except String (Option Int))) : Prop :=
  ∀ ret, outcome = some (.ok ret) → (ret.filter (· ≠ 0)).isSome = true

theorem stable_entered : Stable (ρ := ρ) (δ := δ) t fun s =>
    .numbered t i ∈ s.journal ∧ (t, i) ∉ (tally s.journal).held :=
  fun _ _ rely here => ⟨rely.journal.subset here.1, fun held => here.2 (rely.heldBack i held)⟩

theorem secure_returnNative (pre : .numbered t i ∈ s.journal ∧ (t, i) ∉ (tally s.journal).held) :
    Secure rows t (fun outcome s => Unanswered outcome → Settled t i s) (returnNative t i) s := by
  refine .fallible pre stable_entered fun c s here inv => ?_
  have ended : Move rows (some t) s (s.mark (.ended t i)) :=
    inv.move_mark trivial (by simp) (by simp) (.inr rfl)
  have settled : Settled t i (s.mark (.ended t i)) := by
    refine ⟨List.mem_append_left _ here.1, ?_⟩
    rw [tally_mark]
    exact ⟨here.2, by simp [Tally.note]⟩
  split
  iterate 3 · exact ⟨ended, fun _ _ _ => settled⟩
  · rename_i ret _ answered accepted
    refine ⟨.refl inv, fun outcome same unanswered => ?_⟩
    rw [← Except.ok.inj same] at unanswered
    have refused := unanswered ret (congrArg some answered)
    rw [answered] at accepted
    rw [rejection] at accepted
    rw [accepted] at refused
    cases refused

theorem secure_raiseOut : Secure rows t (fun _ _ => True) (raiseOut t i) s :=
  .fallible trivial stable_true fun c s _ inv => by
    refine ⟨?_, fun _ _ => trivial⟩
    dsimp only
    split
    · exact inv.move_mark trivial (by simp) (by simp) (.inr rfl)
    · exact .refl inv

/-! ## The wait -/

theorem Stored.lasts_of_unobserved (inv : Stored rows s) {a' : Accumulator ρ δ}
    (found : s.accumulators.lookup i = some a) (unobserved : a.terminalObserved = false) :
    Lasts a a' := by
  intro done
  have event := ((inv.sane i a found).ended done).1
  simp [Accumulator.terminalObserved, event] at unobserved

theorem Inv.move_progressiveRound (inv : Inv rows s) (call : Call) (hard : Int)
    (lastProgress : Option Int) (idleDeadline : Int) (c : Chance) :
    Move rows (some t) s (progressiveRound call i hard lastProgress idleDeadline c s).2 := by
  unfold progressiveRound
  split
  · exact .refl inv
  · rename_i a found
    have only : ∀ b, s.accumulators.lookup i = some b → b = a := fun b other =>
      Option.some.inj (other.symm.trans found)
    split
    · exact .refl inv
    split
    · exact .refl inv
    split
    · exact .refl inv
    · rename_i unobserved
      have quiet : a.terminalObserved = false := by simpa using unobserved
      dsimp only
      split
      · refine inv.move_touch (fun _ => touch_cancelWaiting) fun b other => ?_
        rw [only b other]
        exact inv.stored.lasts_of_unobserved found quiet
      · split
        · refine inv.move_touch (fun _ => touch_expireWaiting) fun b other => ?_
          rw [only b other]
          exact inv.stored.lasts_of_unobserved found quiet
        · exact .refl inv

theorem secure_waitProgressively (call : Call) (hard : Int) :
    ∀ (polls : Nat) (lastProgress : Option Int) (idleDeadline : Int) {s : Lane ρ δ},
      Secure rows t (fun _ _ => True)
        (waitProgressively call i hard polls lastProgress idleDeadline) s
  | 0, _, _, _ => .stall
  | polls + 1, lastProgress, idleDeadline, s => by
    unfold waitProgressively
    refine .next ?_ fun wait s => ?_
    · exact .atomic (P := fun _ => True)
        (f := progressiveRound call i hard lastProgress idleDeadline) trivial stable_true
        fun c s _ inv => ⟨inv.move_progressiveRound call hard lastProgress idleDeadline c, trivial⟩
    · cases wait with
      | again lastProgress idleDeadline =>
        exact secure_waitProgressively call hard polls lastProgress idleDeadline
      | finished observed cancelled | returned | raised => exact trivial

theorem secure_waitStoppably (call : Call) (waitDeadline : Int) :
    ∀ (polls : Nat) {s : Lane ρ δ},
      Secure rows t (fun _ _ => True) (waitStoppably call i waitDeadline polls) s
  | 0, _ => .stall
  | polls + 1, s => by
    unfold waitStoppably
    refine .next .glance fun wait s => ?_
    · cases wait with
      | none => exact secure_waitStoppably call waitDeadline polls
      | some wait => exact trivial

theorem secure_awaitEvent (call : Call) :
    Secure rows t (fun _ _ => True) (awaitEvent call i) s := by
  unfold awaitEvent
  cases call.maxDuration with
  | some maxDuration =>
    refine .next .glance fun started s => ?_
    · exact secure_waitProgressively call _ call.polls none (started + call.timeout)
  | none =>
    match call.numeric, call.stoppable with
    | false, _ => exact trivial
    | true, false =>
      exact .glance
    | true, true =>
      refine .next .glance fun waitDeadline s => ?_
      · exact secure_waitStoppably call waitDeadline call.polls

/-- Only a late end is written over, and then it is marked. -/
theorem secure_settleQuery (call : Call) (observed cancelled : Bool) :
    Secure rows t (fun _ _ => True) (settleQuery call i observed cancelled) s := by
  refine .moves fun c s inv => ?_
  dsimp only
  split
  · exact inv.move_disturb (fun _ => touch_settle) (by simp [Mark.disturbs]) (.inl rfl)
  · rename_i onTime
    refine inv.move_touch (fun _ => touch_settle) fun a found => ?_
    refine (inv.stored.sane i a found).lasts_settle ?_
    simpa [found] using onTime

/-! ## The query -/

theorem secure_afterSubmit (call : Call) (ret : Option Int)
    (pre : (ret.filter (· ≠ 0)).isSome = true → Settled t i s) :
    Secure rows t (fun _ _ => True) (afterSubmit t call i ret) s := by
  unfold afterSubmit
  refine .bind (Q := fun _ s => (ret.filter (· ≠ 0)).isSome = true → Settled t i s) ?_
    fun _ s settled => ?_
  · refine .change pre stable_settled.imp fun c s settled inv => ⟨?_, fun refused => ?_⟩
    · exact inv.move_touch (fun _ => touch_submitCode) fun _ _ done => ⟨done, rfl⟩
    · exact ⟨(settled refused).mine, (settled refused).idle⟩
  refine .next ?_ fun _ s => ?_
  · refine .when (fun refused => ?_) fun _ => trivial
    exact .change (settled refused) stable_settled fun c s settled inv =>
      ⟨inv.move_release _ (settled.free inv), trivial⟩
  refine .next .glance fun tooLate s => ?_
  cases tooLate with
  | true => exact secure_markQueryDeadlineExceeded
  | false =>
    cases refused : ret.filter (· ≠ 0) with
    | some code =>
      have nonzero : code ≠ 0 := by
        simpa using (Option.filter_eq_some_iff.mp refused).2
      exact .moves fun c s inv => inv.move_disturb (fun _ => touch_submitRejected nonzero)
        (by simp [Mark.disturbs]) (.inl rfl)
    | none =>
      refine (secure_awaitEvent call).bind fun wait s _ => ?_
      cases wait with
      | finished observed cancelled => exact secure_settleQuery call observed cancelled
      | raised => exact secure_raiseOut
      | returned | again lastProgress idleDeadline => exact trivial

theorem secure_submitQuery (call : Call) (pre : Holding t i s ∧ Steady t i s) :
    Secure rows t (fun _ _ => True) (submitQuery t call i) s := by
  unfold submitQuery
  have stable : Stable (ρ := ρ) (δ := δ) t fun s => Holding t i s ∧ Steady t i s :=
    stable_holding.and stable_steady
  refine .bind (Q := fun _ s => Holding t i s ∧ Steady t i s) ?_ fun verdict s here => ?_
  · exact .look pre stable fun _ _ here _ => here
  match verdict with
  | (true, _, _) => exact secure_raiseOut
  | (false, true, _) =>
    refine .change here.1 stable_holding fun c s holding inv => ⟨?_, trivial⟩
    have gaveUp := inv.move_abandon (some call.requestType) holding.mine holding.unsent
    exact gaveUp.trans (gaveUp.inv.move_touch (i := i) (fun _ => touch_cancelUnsent)
      fun a found => (gaveUp.inv.stored.sane i a found).lasts_cancelUnsent)
  | (false, false, true) =>
    refine .next ?_ fun _ s => secure_markQueryDeadlineExceeded
    exact .change here.1 stable_holding fun c s holding inv =>
      ⟨inv.move_abandon _ holding.mine holding.unsent, trivial⟩
  | (false, false, false) =>
    refine .bind (Q := fun _ s => Holding t i s ∧ Steady t i s) ?_ fun blocked s here => ?_
    · exact .look here stable fun _ _ here _ => here
    cases blocked with
    | some name => exact secure_failSubmit_unsent here.1
    | none =>
      refine (secure_enter here).bind fun _ s entered => ?_
      refine (secure_returnNative entered).bind fun outcome s settled => ?_
      match outcome with
      | none => exact secure_raiseOut
      | some (.error name) => exact secure_failSubmit_entered (settled fun _ same => by cases same)
      | some (.ok ret) =>
        refine secure_afterSubmit call ret fun refused => settled fun other same => ?_
        rw [← Except.ok.inj (Option.some.inj same)]
        exact refused

theorem secure_executeQuery (call : Call) :
    Secure rows t (fun _ _ => True) (executeQuery t call) s := by
  unfold executeQuery
  refine .bind (Q := fun early s => (∀ failure, early = some failure → failure.Honest) ∧
    (early = none → 0 < s.connectionGeneration)) ?_ fun early s here => ?_
  · refine .ask (P := fun _ => True) trivial stable_true fun c s found _ inv looked => ?_
    rcases Call.preflight_cases looked with ⟨failure, rfl, honest⟩ | ⟨rfl, ready⟩
    · exact ⟨fun other found => Option.some.inj found ▸ honest, fun none => by cases none⟩
    · refine ⟨fun other found => (by cases found), fun _ => inv.slotted.loggedIn ?_⟩
      simp only [Lane.isReadOnlyReady, Bool.and_eq_true] at ready
      exact ready.1
  cases early with
  | some failure => exact secure_localQueryFailure failure (here.1 failure rfl)
  | none =>
    refine (secure_acquireLane call (here.2 rfl)).bind fun acquired s laned => ?_
    cases acquired with
    | false => exact secure_localQueryFailure _ honest_deadlineExceeded
    | true =>
      have released : ∀ e s, Secure rows t (Verdict t) (do
          releaseLane t
          throw e : Action ρ δ (Option Failure)) s := fun e s =>
        (secure_releaseLane (P := fun _ => True) trivial stable_true fun _ _ => trivial).bind
          fun _ _ _ => .throw
      refine ((secure_admitQuery call (laned rfl)).tryCatch released).bind fun found s verdict => ?_
      cases found with
      | some failure =>
        refine (secure_localQueryFailure failure verdict).bind fun _ s _ => ?_
        exact secure_releaseLane (P := fun _ => True) trivial stable_true fun _ _ => trivial
      | none =>
        refine (secure_newQueryAccumulator True fun _ => verdict).bind fun i s opened => ?_
        have ready := opened.2.2 trivial
        refine (secure_reserveSlot ⟨opened.1, opened.2.1, ready.1, ready.2⟩).bind
          fun _ s holding => ?_
        refine (secure_releaseLane holding (stable_holding.and stable_steady) ?_).bind
          fun _ s holding => secure_submitQuery call holding
        intro s here
        exact ⟨{ here.1 with }, ⟨here.2.positive, here.2.steady⟩⟩

/-! ## Callbacks -/

theorem secure_onRspQry (p : Packet ρ) :
    Secure rows t (fun _ _ => True) (onRspQry rows requestType p) s := by
  unfold onRspQry
  refine .next ?_ fun captured s => ?_
  · refine .atomic (P := fun _ => True) (f := fun c s => s.capture _ c.captured) trivial
      stable_true fun c s _ inv => ⟨?_, trivial⟩
    exact inv.move_capture _ c.captured
  refine .when (fun _ => ?_) fun _ => trivial
  refine .moves fun c s inv => ?_
  split
  · exact inv.move_handleQueryCallback (.inl rfl)
  · exact .refl inv

theorem secure_onRspError (p : Packet ρ) :
    Secure rows t (fun _ _ => True) (onRspError rows p) s := by
  unfold onRspError
  refine .next ?_ fun captured s => ?_
  · refine .fallible trivial stable_true fun c s _ inv => ⟨?_, fun _ _ => trivial⟩
    split
    iterate 2 · exact .refl inv
    · rename_i installed
      split
      · exact .refl inv
      · have poisoned := inv.move_poison (t := some t)
        rw [installed] at poisoned
        exact poisoned
  refine .when (fun _ => ?_) fun _ => trivial
  refine .next .glance fun kind s => ?_
  refine .moves fun c s inv => ?_
  split
  · exact inv.move_handleQueryCallback (.inr rfl)
  · exact .refl inv

end BtApiCtp.Query
