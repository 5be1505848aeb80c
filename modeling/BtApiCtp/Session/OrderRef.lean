/-
# Session.OrderRef -- the counter of order references

`next_order_ref` and the part of `OnRspUserLogin` that advances the counter from `MaxOrderRef`
(`ctp/client.py`).  The first holds `_order_ref_lock`, the second `_query_state_lock`, so
neither keeps the other out: every read and every write of the counter is a step of its own.

`returned` and `overlapped` are not in the program: the references returned, in the order of
the `return` statements, and whether `next_order_ref` wrote the counter while a login held
its lock.

* `returned_increasing`: if it never did, the references are strictly increasing.
* `returned_twice`: a login that read the counter before such a write takes it back.

That different numbers have different texts (`Int.repr_injective`) is in no part of Mathlib
short of the whole.
-/
import Mathlib
import BtApiCtp.Theory.Threads
import BtApiCtp.Theory.Journal

namespace BtApiCtp.Session

open Theory

variable {t : Nat} {seen : Int} (thread : Nat)

structure OrderRefs where
  maxOrderRef : Int := 0
  orderRefLock : Option Nat := none
  queryStateLock : Option Nat := none
  returned : List Int := []
  overlapped : Bool := false
  deriving DecidableEq, Repr

namespace OrderRefs

/-- The write of `next_order_ref`. -/
def store (ref : Int) (s : OrderRefs) : OrderRefs :=
  { s with maxOrderRef := ref, overlapped := s.overlapped || s.queryStateLock.isSome }

/-- `return str(self._max_order_ref)`, still under the lock. -/
def give (s : OrderRefs) : OrderRefs := { s with returned := s.returned ++ [s.maxOrderRef] }

/-- The write of a login that read `seen`. -/
def raise (seen received : Int) (s : OrderRefs) : OrderRefs :=
  { s with maxOrderRef := max seen received }

end OrderRefs

/-! ## The two functions -/

variable {s s' : OrderRefs}

abbrev RefAction := Prog OrderRefs Unit Unit

def nextOrderRef : RefAction String := do
  Prog.await (·.orderRefLock.isNone) fun _ s => (.ok (), { s with orderRefLock := some thread })
  let ref ← Prog.observe (·.maxOrderRef)
  Prog.modify (OrderRefs.store (ref + 1))
  let ref ← Prog.atomic fun _ s => (.ok s.maxOrderRef, s.give)
  Prog.modify fun s => { s with orderRefLock := none }
  return ref.repr

/-- The update of the counter in `OnRspUserLogin`.  `received` is what `int(...)` makes of
`MaxOrderRef`, `none` if it raises: then there is no write. -/
def advanceOrderRef (received : Option Int) : RefAction Unit := do
  Prog.await (·.queryStateLock.isNone) fun _ s => (.ok (), { s with queryStateLock := some thread })
  let seen ← Prog.observe (·.maxOrderRef)
  match received with
  | some received => Prog.modify (OrderRefs.raise seen received)
  | none => pure ()
  Prog.modify fun s => { s with queryStateLock := none }

inductive RefCommand where
  | nextOrderRef
  | login (received : Option Int)
  deriving DecidableEq, Repr

def RefCommand.program : RefCommand → RefAction Unit
  | .nextOrderRef => do
    let _ ← Session.nextOrderRef thread
  | .login received => advanceOrderRef thread received

/-- Any number of threads, each doing one of the two. -/
def orderRefs : System OrderRefs Unit Unit Nat Unit (Nat × RefCommand) Empty where
  thread command := command.1
  program command := command.2.program command.1
  accept _ s := some s
  owner _ := ()
  finish _ s := s
  exit _ s := s
  env action _ := action.elim

/-! ## What each thread may count on -/

/-- What `t` relies on while others run: nobody else takes back its lock; while it is in
`next_order_ref` nobody returns a reference and the counter is not lowered; while it is in a
login the counter stays. -/
structure RefRely (t : Nat) (s s' : OrderRefs) : Prop where
  mono : s'.overlapped = false → s.overlapped = false
  inNext : s.orderRefLock = some t → s'.orderRefLock = some t ∧ s'.returned = s.returned ∧
    (s'.overlapped = false → s.maxOrderRef ≤ s'.maxOrderRef)
  inLogin : s.queryStateLock = some t → s'.queryStateLock = some t ∧
    (s'.overlapped = false → s'.maxOrderRef = s.maxOrderRef)

theorem RefRely.refl (t : Nat) (s : OrderRefs) : RefRely t s s :=
  ⟨id, fun held => ⟨held, rfl, fun _ => le_refl _⟩, fun held => ⟨held, fun _ => rfl⟩⟩

theorem RefRely.trans {a b c : OrderRefs} (first : RefRely t a b) (second : RefRely t b c) :
    RefRely t a c where
  mono apart := first.mono (second.mono apart)
  inNext held := by
    obtain ⟨held, same, raised⟩ := first.inNext held
    obtain ⟨held', same', raised'⟩ := second.inNext held
    exact ⟨held', same'.trans same, fun apart => (raised (second.mono apart)).trans (raised' apart)⟩
  inLogin held := by
    obtain ⟨held, same⟩ := first.inLogin held
    obtain ⟨held', same'⟩ := second.inLogin held
    exact ⟨held', fun apart => (same' apart).trans (same (second.mono apart))⟩

/-- A step of `t`, as the others see it. -/
def RefStep (t : Nat) (s s' : OrderRefs) : Prop := ∀ other, other ≠ t → RefRely other s s'

/-- Unless the two functions overlapped: the references returned are increasing, and the
counter is at least each of them. -/
structure Ordered (s : OrderRefs) : Prop where
  increasing : s.returned.Pairwise (· < ·)
  bounded : ∀ ref ∈ s.returned, ref ≤ s.maxOrderRef

def RefInv (s : OrderRefs) : Prop := s.overlapped = false → Ordered s

abbrev RefSafe {α : Type} (t : Nat) (Q : α → OrderRefs → Prop) (p : RefAction α)
    (s : OrderRefs) : Prop :=
  Prog.Safe RefInv (RefRely t) (RefStep t) Q (fun _ _ => True) p s

/-- A step that changes only locks, and only takes a free one or gives back its own. -/
theorem RefStep.of_locks (counter : s'.maxOrderRef = s.maxOrderRef)
    (returned : s'.returned = s.returned) (overlapped : s'.overlapped = s.overlapped)
    (refLock : ∀ other, other ≠ t → s.orderRefLock = some other → s'.orderRefLock = some other)
    (stateLock : ∀ other, other ≠ t → s.queryStateLock = some other →
      s'.queryStateLock = some other) : RefStep t s s' := fun other ne =>
  ⟨fun apart => overlapped ▸ apart, fun held => ⟨refLock other ne held, returned, fun _ =>
    counter.ge⟩, fun held => ⟨stateLock other ne held, fun _ => counter⟩⟩

theorem RefInv.of_locks (inv : RefInv s) (counter : s'.maxOrderRef = s.maxOrderRef)
    (returned : s'.returned = s.returned) (overlapped : s'.overlapped = s.overlapped) :
    RefInv s' := fun apart => by
  obtain ⟨increasing, bounded⟩ := inv (overlapped ▸ apart)
  exact ⟨returned ▸ increasing, by rwa [returned, counter]⟩

/-! ## `next_order_ref` -/

/-- In `next_order_ref`, having read `seen`. -/
structure Read (t : Nat) (seen : Int) (s : OrderRefs) : Prop where
  held : s.orderRefLock = some t
  bounded : s.overlapped = false → ∀ ref ∈ s.returned, ref ≤ seen

/-- In `next_order_ref`, having written. -/
structure Wrote (t : Nat) (s : OrderRefs) : Prop where
  held : s.orderRefLock = some t
  above : s.overlapped = false → ∀ ref ∈ s.returned, ref < s.maxOrderRef

theorem Read.moved (rely : RefRely t s s') (read : Read t seen s) : Read t seen s' := by
  obtain ⟨held, same, _⟩ := rely.inNext read.held
  exact ⟨held, fun apart => by rw [same]; exact read.bounded (rely.mono apart)⟩

theorem Wrote.moved (rely : RefRely t s s') (wrote : Wrote t s) : Wrote t s' := by
  obtain ⟨held, same, raised⟩ := rely.inNext wrote.held
  refine ⟨held, fun apart ref mem => ?_⟩
  rw [same] at mem
  exact (wrote.above (rely.mono apart) ref mem).trans_le (raised apart)

/-- The write: the others are outside `next_order_ref`, and a login it falls into is noted. -/
theorem Read.store (read : Read t seen s) (inv : RefInv s) :
    RefInv (s.store (seen + 1)) ∧ RefStep t s (s.store (seen + 1)) ∧
      Wrote t (s.store (seen + 1)) := by
  have before : (s.store (seen + 1)).overlapped = false → s.overlapped = false :=
    fun apart => (Bool.or_eq_false_iff.mp apart).1
  have above : (s.store (seen + 1)).overlapped = false → ∀ ref ∈ s.returned, ref < seen + 1 :=
    fun apart ref mem => Int.lt_add_one_of_le (read.bounded (before apart) ref mem)
  refine ⟨fun apart => ⟨(inv (before apart)).increasing, fun ref mem => (above apart ref mem).le⟩,
    fun other ne => ⟨before, fun held => ?_, fun held => ⟨held, fun apart => ?_⟩⟩,
    ⟨read.held, above⟩⟩
  · exact absurd (Option.some.inj (held.symm.trans read.held)) ne
  · simp [OrderRefs.store, held] at apart

theorem Wrote.give (wrote : Wrote t s) (inv : RefInv s) : RefInv s.give ∧ RefStep t s s.give := by
  refine ⟨fun apart => ⟨?_, fun ref mem => ?_⟩, fun other ne => ⟨id, fun held => ?_, fun held =>
    ⟨held, fun _ => rfl⟩⟩⟩
  · refine List.pairwise_append.mpr ⟨(inv apart).increasing, List.pairwise_singleton _ _, ?_⟩
    intro ref mem last isLast
    rw [List.mem_singleton.mp isLast]
    exact wrote.above apart ref mem
  · rcases mem_snoc.mp mem with earlier | last
    · exact (inv apart).bounded ref earlier
    · exact last.le
  · exact absurd (Option.some.inj (held.symm.trans wrote.held)) ne

theorem safe_nextOrderRef (t : Nat) (s : OrderRefs) :
    RefSafe t (fun _ _ => True) (nextOrderRef t) s := by
  unfold nextOrderRef
  refine .bind (Q := fun _ s => s.orderRefLock = some t) (fun _ s held => ?_)
    (Prog.Safe.await (fun _ => True) trivial (fun _ _ _ => trivial) ?_)
  · refine .bind (Q := Read t) (fun seen s read => ?_)
      (Prog.Safe.atomic (fun s => s.orderRefLock = some t) held
        (fun s' rely held => (rely.inNext held).1) ?_)
    · refine .bind (Q := fun _ => Wrote t) (fun _ s wrote => ?_)
        (Prog.Safe.atomic (Read t seen) read (fun s' rely => Read.moved rely) ?_)
      · refine .bind (Q := fun _ s => s.orderRefLock = some t) (fun ref s held => ?_)
          (Prog.Safe.atomic (Wrote t) wrote (fun s' rely => Wrote.moved rely) ?_)
        · refine .bind (Q := fun _ _ => True) (fun _ _ _ => .pure trivial)
            (Prog.Safe.atomic (fun s => s.orderRefLock = some t) held
              (fun s' rely held => (rely.inNext held).1) ?_)
          intro _ s held inv
          refine ⟨inv.of_locks rfl rfl rfl, RefStep.of_locks rfl rfl rfl ?_ fun _ _ => id,
            fun _ _ => trivial, fun _ _ => trivial⟩
          intro other ne mine
          exact absurd (Option.some.inj (mine.symm.trans held)) ne
        · intro _ s wrote inv
          obtain ⟨kept, step⟩ := wrote.give inv
          exact ⟨kept, step, fun _ _ => wrote.held, fun _ _ => trivial⟩
      · intro _ s read inv
        obtain ⟨kept, step, wrote⟩ := read.store inv
        exact ⟨kept, step, fun _ _ => wrote, fun _ _ => trivial⟩
    · intro _ s held inv
      refine ⟨inv, fun other _ => RefRely.refl other s, fun seen same => ⟨held, ?_⟩,
        fun _ _ => trivial⟩
      intro apart ref mem
      exact Except.ok.inj same ▸ (inv apart).bounded ref mem
  · intro _ s _ inv free
    refine ⟨inv.of_locks rfl rfl rfl, RefStep.of_locks rfl rfl rfl ?_ fun _ _ => id,
      fun _ _ => rfl, fun _ _ => trivial⟩
    intro other _ held
    rw [held] at free
    cases free

/-! ## A login -/

/-- In a login, having read `seen`. -/
structure Seen (t : Nat) (seen : Int) (s : OrderRefs) : Prop where
  held : s.queryStateLock = some t
  same : s.overlapped = false → s.maxOrderRef = seen

theorem Seen.moved (rely : RefRely t s s') (here : Seen t seen s) : Seen t seen s' := by
  obtain ⟨held, same⟩ := rely.inLogin here.held
  exact ⟨held, fun apart => (same apart).trans (here.same (rely.mono apart))⟩

theorem Seen.raise (here : Seen t seen s) (inv : RefInv s) (received : Int) :
    RefInv (s.raise seen received) ∧ RefStep t s (s.raise seen received) := by
  have raised : s.overlapped = false → s.maxOrderRef ≤ max seen received := fun apart =>
    (here.same apart).le.trans (le_max_left _ _)
  refine ⟨fun apart => ⟨(inv apart).increasing, fun ref mem => ?_⟩, fun other ne => ⟨id, fun held =>
    ⟨held, rfl, raised⟩, fun held => ?_⟩⟩
  · exact ((inv apart).bounded ref mem).trans (raised apart)
  · exact absurd (Option.some.inj (held.symm.trans here.held)) ne

theorem safe_advanceOrderRef (t : Nat) (received : Option Int) (s : OrderRefs) :
    RefSafe t (fun _ _ => True) (advanceOrderRef t received) s := by
  have release : ∀ s, s.queryStateLock = some t → RefSafe t (fun _ _ => True)
      (Prog.modify fun s => { s with queryStateLock := none }) s := by
    intro s held
    refine .atomic (fun s => s.queryStateLock = some t) held
      (fun s' rely held => (rely.inLogin held).1) ?_
    intro _ s held inv
    refine ⟨inv.of_locks rfl rfl rfl, RefStep.of_locks rfl rfl rfl (fun _ _ => id) ?_,
      fun _ _ => trivial, fun _ _ => trivial⟩
    intro other ne mine
    exact absurd (Option.some.inj (mine.symm.trans held)) ne
  unfold advanceOrderRef
  refine .bind (Q := fun _ s => s.queryStateLock = some t) (fun _ s held => ?_)
    (Prog.Safe.await (fun _ => True) trivial (fun _ _ _ => trivial) ?_)
  · refine .bind (Q := Seen t) (fun seen s here => ?_)
      (Prog.Safe.atomic (fun s => s.queryStateLock = some t) held
        (fun s' rely held => (rely.inLogin held).1) ?_)
    · cases received with
      | none => exact release s here.held
      | some received =>
        refine .bind (Q := fun _ s => s.queryStateLock = some t) (fun _ s held => release s held)
          (Prog.Safe.atomic (Seen t seen) here (fun s' rely => Seen.moved rely) ?_)
        intro _ s here inv
        obtain ⟨kept, step⟩ := here.raise inv received
        exact ⟨kept, step, fun _ _ => here.held, fun _ _ => trivial⟩
    · intro _ s held inv
      exact ⟨inv, fun other _ => RefRely.refl other s,
        fun seen same => ⟨held, fun _ => Except.ok.inj same⟩, fun _ _ => trivial⟩
  · intro _ s _ inv free
    refine ⟨inv.of_locks rfl rfl rfl, RefStep.of_locks rfl rfl rfl (fun _ _ => id) ?_,
      fun _ _ => rfl, fun _ _ => trivial⟩
    intro other _ held
    rw [held] at free
    cases free

/-! ## All runs -/

theorem orderRefs_sound :
    orderRefs.Sound RefInv RefRely RefStep (fun _ _ => True) fun _ _ => True where
  rely_refl := RefRely.refl
  rely_trans _ _ _ _ := RefRely.trans
  still _ := trivial
  beside _ other _ _ ne step := step other ne
  within _ _ _ _ := trivial
  starts m command s _ inv accepted := by
    cases accepted
    refine ⟨inv, trivial, fun other _ => RefRely.refl other _, ?_⟩
    rcases command with ⟨t, call⟩
    cases call with
    | nextOrderRef =>
      exact .bind (fun _ _ _ => .pure trivial) (safe_nextOrderRef t _)
    | login received => exact safe_advanceOrderRef t received _
  finishes _ s inv := ⟨inv, trivial, fun other _ => RefRely.refl other s⟩
  exits _ s inv := ⟨inv, trivial, fun other _ => RefRely.refl other s⟩
  outside _ action := action.elim

/-- **Increasing references**: in every run in which no `next_order_ref` writes the counter
while a login holds its lock, the references returned are strictly increasing, and so no two
of them are the same text. -/
theorem returned_increasing (events : List (Event Unit Nat Unit (Nat × RefCommand) Empty)) :
    let s := (orderRefs.run ⟨{}, ∅⟩ events).shared
    s.overlapped = false → s.returned.Pairwise (· < ·) ∧ (s.returned.map Int.repr).Nodup := by
  intro s apart
  have inv : RefInv s := (orderRefs_sound.run (fun _ _ _ _ _ => trivial) events
    (fun _ => ⟨List.Pairwise.nil, fun _ mem => by cases mem⟩) System.guarded_nil
    (System.admitted_of_forall _ fun _ _ _ => trivial)).1
  have increasing := (inv apart).increasing
  exact ⟨increasing, List.Nodup.map (fun _ _ => Int.repr_injective) (increasing.imp fun less => less.ne)⟩

/-- A login between two references. -/
def loginBetween : List (Event Unit Nat Unit (Nat × RefCommand) Empty) :=
  .start (1, .nextOrderRef) :: List.replicate 6 (.step 1 ()) ++
    .start (0, .login (some 5)) :: List.replicate 5 (.step 0 ()) ++
    .start (1, .nextOrderRef) :: List.replicate 6 (.step 1 ())

theorem loginBetween_increasing :
    (orderRefs.run ⟨{}, ∅⟩ loginBetween).shared.returned = [1, 6] ∧
      (orderRefs.run ⟨{}, ∅⟩ loginBetween).shared.returned.Pairwise (· < ·) :=
  ⟨by decide, (returned_increasing loginBetween (by decide)).1⟩

/-- A re-login reads the counter at 6, the next reference is 7, the login writes 6 back. -/
def lostUpdate : List (Event Unit Nat Unit (Nat × RefCommand) Empty) :=
  .start (0, .login (some 5)) :: List.replicate 5 (.step 0 ()) ++
    .start (1, .nextOrderRef) :: List.replicate 6 (.step 1 ()) ++
    .start (0, .login (some 5)) :: List.replicate 2 (.step 0 ()) ++
    .start (1, .nextOrderRef) :: List.replicate 6 (.step 1 ()) ++
    List.replicate 3 (.step 0 ()) ++
    .start (1, .nextOrderRef) :: List.replicate 6 (.step 1 ())

/-- The counter goes back and a reference is returned twice. -/
theorem returned_twice : (orderRefs.run ⟨{}, ∅⟩ lostUpdate).shared.returned = [6, 7, 7] := by
  decide

end BtApiCtp.Session
