/-
# Query.Sealing -- what a query leaves behind

An accumulator that is not sealed keeps a managed lease from being acquired (as long as the
connection is the same) and everything after it in the history from being evicted.  So each
call of `_execute_query` should seal the one it registered, however it ends.

* `ended_query_sealed`: it does, unless an exception left it while it was not sealed, or it was
  cancelled before the native call although a packet had already ended it.
* `raising_stop_unsealed`: a stop predicate that raises leaves it unsealed.
-/
import BtApiCtp.Query.Completeness

namespace BtApiCtp.Query

open Python Theory

variable {ρ δ α β : Type} {rows : Rows ρ δ} {s s' : Lane ρ δ} {t : Nat} {i j : Int} {m : Mark}
  {requestType : RequestType} {call : Call}

/-! ## What an unsealed accumulator does -/

variable {s'' : Lane ρ δ} {f : Accumulator ρ δ → Accumulator ρ δ} {p : Packet ρ}
  {a : Accumulator ρ δ}

/-- A query of `t` is sealed, or was left unsealed by an exception, or was given up before the
native call although a packet had ended it. -/
structure Closed (t : Nat) (i : Int) (s : Lane ρ δ) : Prop where
  numbered : .numbered t i ∈ s.journal
  shut : ∀ a, s.accumulators.lookup i = some a → a.isSealed = true ∨ .raised t i ∈ s.journal ∨
    (.abandoned t i ∈ s.journal ∧ a.recorded = true)

/-- Every query `t` has opened is closed. -/
def Finished (t : Nat) (s : Lane ρ δ) : Prop := ∀ i, .opened t i ∈ s.journal → Closed t i s

/-- Every query `t` has opened is closed, but for the one at hand. -/
structure Working (t : Nat) (i : Int) (s : Lane ρ δ) : Prop where
  numbered : .numbered t i ∈ s.journal
  others : ∀ j, j ≠ i → .opened t j ∈ s.journal → Closed t j s

/-- What closes a query stays. -/
theorem Closed.step (closed : Closed t i s) (grown : s.journal ⊆ s'.journal)
    (stays : ∀ a', s'.accumulators.lookup i = some a' →
      ∃ a, s.accumulators.lookup i = some a ∧ Keeps a a') : Closed t i s' := by
  refine ⟨grown closed.numbered, fun a' found => ?_⟩
  obtain ⟨a, before, keeps⟩ := stays a' found
  rcases closed.shut a before with shut | raised | ⟨abandoned, recorded⟩
  · exact .inl (keeps.isSealed shut)
  · exact .inr (.inl (grown raised))
  · exact .inr (.inr ⟨grown abandoned, keeps.recorded recorded⟩)

theorem Closed.kept (closed : Closed t i s) (grown : s.journal ⊆ s'.journal)
    (same : s'.accumulators.lookup i = s.accumulators.lookup i) : Closed t i s' :=
  closed.step grown fun a' found => ⟨a', same.symm.trans found, .refl a'⟩

theorem Closed.moved (rely : Rely t s s') (closed : Closed t i s) : Closed t i s' := by
  refine closed.step rely.journal.subset fun a' found => ?_
  cases before : s.accumulators.lookup i with
  | none => cases (rely.absent i closed.numbered before).symm.trans found
  | some a =>
    obtain ⟨b, there, keeps⟩ := rely.stays i a before
    cases there.symm.trans found
    exact ⟨a, rfl, keeps⟩

theorem stable_finished : Stable (ρ := ρ) (δ := δ) t (Finished t) :=
  fun _ _ rely finished i opened => (finished i (rely.opened i opened)).moved rely

/-- A step that opens nothing and writes to no other query. -/
structure Quiet (t : Nat) (i : Int) (s s' : Lane ρ δ) : Prop where
  journal : s.journal ⊆ s'.journal
  opened : ∀ j, j ≠ i → .opened t j ∈ s'.journal → .opened t j ∈ s.journal
  others : ∀ j, j ≠ i → s'.accumulators.lookup j = s.accumulators.lookup j

theorem Quiet.trans (first : Quiet t i s s') (second : Quiet t i s' s'') : Quiet t i s s'' :=
  ⟨fun _ mem => second.journal (first.journal mem),
    fun j ne mem => first.opened j ne (second.opened j ne mem),
    fun j ne => (second.others j ne).trans (first.others j ne)⟩

theorem Quiet.of_eq (journal : s'.journal = s.journal)
    (accumulators : s'.accumulators = s.accumulators) : Quiet t i s s' := by
  refine ⟨?_, ?_, ?_⟩
  · rw [journal]
    exact fun _ => id
  · rw [journal]
    exact fun _ _ => id
  · rw [accumulators]
    exact fun _ _ => rfl

theorem Quiet.of_append (own : ∀ j, j ≠ i → m ≠ .opened t j)
    (journal : s'.journal = s.journal ++ [m]) (accumulators : s'.accumulators = s.accumulators) :
    Quiet t i s s' := by
  refine ⟨?_, fun j ne mem => ?_, fun _ _ => by rw [accumulators]⟩
  · rw [journal]
    exact List.subset_append_left _ _
  · rw [journal] at mem
    rcases mem_snoc.mp mem with earlier | new
    · exact earlier
    · exact absurd new.symm (own j ne)

theorem quiet_mark (own : ∀ j, j ≠ i → m ≠ .opened t j) : Quiet t i s (s.mark m) :=
  .of_append own rfl rfl

theorem quiet_modify : Quiet t i s (s.modifyAccumulator i f) := by
  refine ⟨fun _ => id, fun _ _ => id, fun j ne => ?_⟩
  unfold Lane.modifyAccumulator
  rw [Dict.lookup_mapValues]
  simp [ne]

theorem quiet_release {requestType : Option RequestType} {k : Int} :
    Quiet t i s (s.releaseQuerySlot k requestType) := by
  unfold Lane.releaseQuerySlot
  split
  · exact .of_eq rfl rfl
  · split
    iterate 2 · exact .of_eq rfl rfl

theorem Working.quiet (working : Working t i s) (quiet : Quiet t i s s') : Working t i s' := by
  refine ⟨quiet.journal working.numbered, fun j ne opened => ?_⟩
  exact (working.others j ne (quiet.opened j ne opened)).kept quiet.journal (quiet.others j ne)

/-- A step that is quiet whichever query is at hand. -/
theorem Finished.quiet (finished : Finished t s) (quiet : ∀ i, Quiet t i s s') :
    Finished t s' := by
  intro j opened
  have apart := quiet (j + 1)
  have ne : j ≠ j + 1 := by omega
  exact (finished j (apart.opened j ne opened)).kept apart.journal (apart.others j ne)

theorem Finished.of_eq (finished : Finished t s) (journal : s'.journal = s.journal)
    (accumulators : s'.accumulators = s.accumulators) : Finished t s' :=
  finished.quiet fun _ => .of_eq journal accumulators

/-- The query at hand gets a number. -/
theorem Finished.number (finished : Finished t s) {k : Int} :
    Working t i ({ s with reqId := k }.mark (.numbered t i)) := by
  refine ⟨List.mem_concat_self, fun j _ opened => ?_⟩
  rcases List.mem_append.mp opened with earlier | new
  · exact (finished j earlier).kept (List.subset_append_left _ _) rfl
  · simp at new

/-- The query at hand is closed as well. -/
theorem Working.finish (working : Working t i s)
    (shut : ∀ a, s.accumulators.lookup i = some a → a.isSealed = true ∨ .raised t i ∈ s.journal ∨
      (.abandoned t i ∈ s.journal ∧ a.recorded = true)) : Finished t s := by
  intro j opened
  by_cases same : j = i
  · subst same
    exact ⟨working.numbered, shut⟩
  · exact working.others j same opened

/-- A mark other than that of an opened query. -/
theorem Finished.mark (finished : Finished t s) (own : ∀ j, m ≠ .opened t j) :
    Finished t (s.mark m) :=
  finished.quiet fun _ => quiet_mark fun j _ => own j

theorem Working.raise (working : Working t i s) :
    Finished t (if (s.accumulators.lookup i).any (!·.isSealed) then s.mark (.raised t i) else s) := by
  split
  · exact (working.quiet (quiet_mark (by simp))).finish fun _ _ =>
      .inr (.inl (List.mem_concat_self))
  · rename_i shut
    refine working.finish fun a found => .inl ?_
    simpa [found] using shut

/-- Cancelled before the native call: nothing is written if a packet came before. -/
theorem Working.cancel (working : Working t i s) (inv : Inv rows s) {clocks : Clocks}
    {requestType : Option RequestType} :
    Finished t (((s.releaseQuerySlot i requestType).modifyAccumulator i
      fun a => a.cancelUnsent clocks).mark (.abandoned t i)) := by
  have quiet : Quiet t i s (((s.releaseQuerySlot i requestType).modifyAccumulator i
      fun a => a.cancelUnsent clocks).mark (.abandoned t i)) :=
    (quiet_release.trans quiet_modify).trans (quiet_mark (by simp))
  refine (working.quiet quiet).finish fun a found => ?_
  have there : ((s.releaseQuerySlot i requestType).modifyAccumulator i
      fun a => a.cancelUnsent clocks).accumulators.lookup i = some a := found
  obtain ⟨b, before, same⟩ := lookup_modifyAccumulator.mp there
  rw [if_pos rfl] at same
  have apart : Quiet t (i + 1) s (s.releaseQuerySlot i requestType) := quiet_release
  have stored := (apart.others i (by omega)).symm.trans before
  rw [← same]
  unfold Accumulator.cancelUnsent
  split
  · rename_i came
    cases shut : b.isSealed with
    | true => exact .inl rfl
    | false =>
      have recorded := (inv.stored.sane i b stored).signalled shut (by simpa using came)
      exact .inr (.inr ⟨List.mem_concat_self, recorded⟩)
  · exact .inl rfl

/-! ## Programs -/

/-- Others interfere; the program ends with `Q`, and leaves nothing open if it raises. -/
def Leaves (rows : Rows ρ δ) (t : Nat) (Q : α → Lane ρ δ → Prop) (p : Action ρ δ α)
    (s : Lane ρ δ) : Prop :=
  Prog.Safe (fun _ => True) (fun s s' => Rely t s s' ∧ Inv rows s') (fun _ _ => True) Q
    (fun _ => Finished t) p s

variable {P : Lane ρ δ → Prop} {Q : α → Lane ρ δ → Prop}

theorem Leaves.bind {Q' : β → Lane ρ δ → Prop} {p : Action ρ δ α} {f : α → Action ρ δ β}
    (first : Leaves rows t Q p s) (rest : ∀ a s, Q a s → Leaves rows t Q' (f a) s) :
    Leaves rows t Q' (p >>= f) s :=
  Prog.Safe.bind rest first

theorem Leaves.await {ready : Lane ρ δ → Bool} {f : Chance → Lane ρ δ → Except Unit α × Lane ρ δ}
    (pre : P s) (stable : Stable t P)
    (onOk : ∀ c s a, P s → Inv rows s → (f c s).1 = .ok a → Q a (f c s).2)
    (onError : ∀ c s e, P s → Inv rows s → (f c s).1 = .error e → Finished t (f c s).2) :
    Leaves rows t Q (Prog.await ready f) s := by
  intro s' rely _ _ c
  have here := stable s s' rely.1 pre
  refine ⟨trivial, trivial, ?_⟩
  change Leaves rows t Q (.done (f c s').1) (f c s').2
  cases result : (f c s').1 with
  | ok a => exact onOk c s' a here rely.2 result
  | error e => exact onError c s' e here rely.2 result

/-- A step that cannot raise. -/
theorem Leaves.atomic {f : Chance → Lane ρ δ → α × Lane ρ δ} (pre : P s) (stable : Stable t P)
    (step : ∀ c s, P s → Inv rows s → Q (f c s).1 (f c s).2) :
    Leaves rows t Q (Prog.atomic fun c s => (.ok (f c s).1, (f c s).2)) s := by
  refine .await pre stable (fun c s a here inv same => ?_) fun c s e here inv same => ?_
  · cases same
    exact step c s here inv
  · cases same

theorem Leaves.look {f : Chance → Lane ρ δ → α} (pre : P s) (stable : Stable t P)
    (post : ∀ c s, P s → Inv rows s → Q (f c s) s) : Leaves rows t Q (look f) s :=
  .atomic (f := fun c s => (f c s, s)) pre stable post

theorem Leaves.change {Q : Unit → Lane ρ δ → Prop} {f : Chance → Lane ρ δ → Lane ρ δ} (pre : P s)
    (stable : Stable t P) (step : ∀ c s, P s → Inv rows s → Q () (f c s)) :
    Leaves rows t Q (change f) s :=
  .atomic (f := fun c s => ((), f c s)) pre stable step

/-- Looking, with nothing open. -/
theorem Leaves.ask {f : Chance → Lane ρ δ → Except Unit α} (finished : Finished t s) :
    Leaves rows t (fun _ => Finished t) (ask f) s :=
  .await finished stable_finished (fun _ _ _ here _ _ => here) fun _ _ _ here _ _ => here

theorem Leaves.stall [Inhabited α] : Leaves rows t Q stall s := by
  intro s' _ _ able
  cases able

/-- Looking changes nothing. -/
theorem Leaves.keep {f : Chance → Lane ρ δ → α} (pre : P s) (stable : Stable t P) :
    Leaves rows t (fun _ => P) (Query.look f) s :=
  .look pre stable fun _ _ here _ => here

theorem Finished.querySlotBlocking (finished : Finished t s) :
    Finished t s.querySlotBlocking.2 := by
  rcases querySlotBlocking_cases s with ⟨-, same⟩ | same | same
  iterate 2
    · rw [same]
      exact finished
  · rw [same]
    exact finished.of_eq rfl rfl

variable (working : Working t i s)
include working

omit working

theorem Finished.move (finished : Finished t s) (move : Move rows none s s') : Finished t s' :=
  stable_finished _ _ (move.beside t (by simp)) finished

/-- Nothing is unsealed, by whatever step. -/
def Keeping (s s' : Lane ρ δ) : Prop :=
  ∀ i a, s.accumulators.lookup i = some a → ∃ a', s'.accumulators.lookup i = some a' ∧ Keeps a a'

theorem Keeping.refl (s : Lane ρ δ) : Keeping s s := fun _ a found => ⟨a, found, .refl a⟩

theorem Keeping.trans (first : Keeping s s') (second : Keeping s' s'') : Keeping s s'' := by
  intro i a found
  obtain ⟨b, found', keeps⟩ := first i a found
  obtain ⟨c, found'', keeps'⟩ := second i b found'
  exact ⟨c, found'', keeps.trans keeps'⟩

/-- What any other thread may rely on. -/
theorem Move.keeping {u : Option Nat} (move : Move rows u s s') : Keeping s s' := by
  obtain ⟨other, ne⟩ : ∃ other, u ≠ some other := by
    cases u with
    | none => exact ⟨0, by simp⟩
    | some t => exact ⟨t + 1, by simp⟩
  exact (move.beside other ne).stays

end BtApiCtp.Query
