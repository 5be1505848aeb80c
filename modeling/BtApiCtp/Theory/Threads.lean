/-
# Theory.Threads -- programs that run side by side

A system runs threads over one shared state.  A command starts a thread, unless the
system refuses it or the thread is still there; threads take their steps in any order; a
process is killed together with all of its threads; the environment acts at any moment.

`Sound` is the rule for such systems: if every thread is safe (`Theory.Program`) under what
it relies on, and every step of one thread is within what every other one relies on, then
the invariant holds in every state of every run and every transition is within the law `T`.
-/
import BtApiCtp.Theory.Program
import BtApiCtp.Theory.Dict
import Mathlib.Data.List.Chain

namespace BtApiCtp.Theory

/-- What can happen: `Θ` names threads, `ω` processes, `κ` commands, `ι` actions of the
environment. -/
inductive Event (φ Θ ω κ ι : Type) where
  | start (command : κ)
  | step (thread : Θ) (choice : φ)
  | kill (process : ω)
  | env (action : ι)

/-- The shared state and what is left of the threads' programs. -/
structure Pool (σ φ ε Θ : Type) where
  shared : σ
  threads : Dict Θ (Prog σ φ ε Unit) := ∅

structure System (σ φ ε Θ ω κ ι : Type) where
  /-- The thread a command starts. -/
  thread : κ → Θ
  program : κ → Prog σ φ ε Unit
  /-- What starting does to the state, `none` if the command cannot be started now. -/
  accept : κ → σ → Option σ
  owner : Θ → ω
  /-- What the end of a thread does. -/
  finish : Θ → σ → σ
  /-- What the death of a process does. -/
  exit : ω → σ → σ
  env : ι → σ → σ

namespace System

variable {σ φ ε Θ ω κ ι : Type} [DecidableEq Θ] [DecidableEq ω] (S : System σ φ ε Θ ω κ ι)

def next (m : Pool σ φ ε Θ) : Event φ Θ ω κ ι → Pool σ φ ε Θ
  | .start command =>
    match m.threads.lookup (S.thread command), S.accept command m.shared with
    | none, some s => ⟨s, m.threads.insert (S.thread command) (S.program command)⟩
    | _, _ => m
  | .step thread c =>
    match m.threads.lookup thread with
    | some (.act ready effect rest) =>
      if ready m.shared then
        ⟨effect c m.shared, m.threads.insert thread (rest c m.shared)⟩
      else m
    | some (.done _) => ⟨S.finish thread m.shared, m.threads.erase thread⟩
    | none => m
  | .kill process =>
    ⟨S.exit process m.shared, m.threads.filter fun thread _ => S.owner thread ≠ process⟩
  | .env action => { m with shared := S.env action m.shared }

def run (m : Pool σ φ ε Θ) (events : List (Event φ Θ ω κ ι)) : Pool σ φ ε Θ :=
  events.foldl S.next m

/-- The shared states a run goes through, the first one included. -/
def trace (m : Pool σ φ ε Θ) : List (Event φ Θ ω κ ι) → List σ
  | [] => [m.shared]
  | event :: events => m.shared :: trace (S.next m event) events

theorem run_mem_trace : ∀ (events : List (Event φ Θ ω κ ι)) (m : Pool σ φ ε Θ),
    (S.run m events).shared ∈ S.trace m events
  | [], _ => List.mem_singleton_self _
  | event :: events, m => List.mem_cons_of_mem _ (run_mem_trace events (S.next m event))

/-! ## Admitted runs -/

variable {m' m : Pool σ φ ε Θ}

/-- Every event of a run is allowed where it happens. -/
def Admitted (allowed : Pool σ φ ε Θ → Event φ Θ ω κ ι → Prop) :
    Pool σ φ ε Θ → List (Event φ Θ ω κ ι) → Prop
  | _, [] => True
  | m, event :: events => allowed m event ∧ Admitted allowed (S.next m event) events

section Admitted

variable {allowed : Pool σ φ ε Θ → Event φ Θ ω κ ι → Prop}

theorem admitted_of_forall :
    ∀ {events : List (Event φ Θ ω κ ι)} {m : Pool σ φ ε Θ},
      (∀ m, ∀ event ∈ events, allowed m event) → S.Admitted allowed m events
  | [], _, _ => trivial
  | event :: _, m, all =>
    ⟨all m event List.mem_cons_self,
      admitted_of_forall fun m' other mem => all m' other (List.mem_cons_of_mem _ mem)⟩

theorem admitted_append {rest : List (Event φ Θ ω κ ι)} :
    ∀ {events : List (Event φ Θ ω κ ι)} {m : Pool σ φ ε Θ}, S.Admitted allowed m events →
      S.Admitted allowed (S.run m events) rest → S.Admitted allowed m (events ++ rest)
  | [], _, _, later => later
  | _ :: _, _, first, later => ⟨first.1, admitted_append first.2 later⟩

/-- A stronger condition on events admits fewer runs, as long as an invariant that the
weaker one keeps supplies the difference. -/
theorem Admitted.weaken {strong weak : Pool σ φ ε Θ → Event φ Θ ω κ ι → Prop}
    {J : Pool σ φ ε Θ → Prop} (implies : ∀ m event, J m → strong m event → weak m event)
    (keeps : ∀ m event, J m → weak m event → J (S.next m event)) :
    ∀ {events : List (Event φ Θ ω κ ι)} {m : Pool σ φ ε Θ}, J m →
      S.Admitted strong m events → S.Admitted weak m events
  | [], _, _, _ => trivial
  | event :: _, m, holds, admitted =>
    let weaker := implies m event holds admitted.1
    ⟨weaker, Admitted.weaken implies keeps (keeps m event holds weaker) admitted.2⟩

end Admitted

/-! ## The rule -/

/-- Every unfinished thread is safe at the shared state. -/
def Guarded (I : σ → Prop) (R G : Θ → σ → σ → Prop) (m : Pool σ φ ε Θ) : Prop :=
  ∀ thread ready effect rest, m.threads.lookup thread = some (.act ready effect rest) →
    Prog.Safe I (R thread) (G thread) (fun _ _ => True) (fun _ _ => True)
      (.act ready effect rest) m.shared

/-- What has to be shown of a system. -/
structure Sound (I : σ → Prop) (R G : Θ → σ → σ → Prop) (T : σ → σ → Prop)
    (allowed : Pool σ φ ε Θ → Event φ Θ ω κ ι → Prop) : Prop where
  rely_refl : ∀ thread s, R thread s s
  rely_trans : ∀ thread a b c, R thread a b → R thread b c → R thread a c
  still : ∀ s, T s s
  /-- A step of one thread is within what every other thread relies on. -/
  beside : ∀ thread other a b, other ≠ thread → G thread a b → R other a b
  within : ∀ thread a b, G thread a b → T a b
  starts : ∀ m command s, allowed m (.start command) → I m.shared →
    S.accept command m.shared = some s →
      I s ∧ T m.shared s ∧ (∀ other, other ≠ S.thread command → R other m.shared s) ∧
        Prog.Safe I (R (S.thread command)) (G (S.thread command)) (fun _ _ => True)
          (fun _ _ => True) (S.program command) s
  finishes : ∀ thread s, I s → I (S.finish thread s) ∧ T s (S.finish thread s) ∧
    ∀ other, other ≠ thread → R other s (S.finish thread s)
  exits : ∀ process s, I s → I (S.exit process s) ∧ T s (S.exit process s) ∧
    ∀ other, S.owner other ≠ process → R other s (S.exit process s)
  outside : ∀ m action, allowed m (.env action) → I m.shared →
    I (S.env action m.shared) ∧ T m.shared (S.env action m.shared) ∧
      ∀ other, R other m.shared (S.env action m.shared)

variable {S} {I : σ → Prop} {R G : Θ → σ → σ → Prop} {T : σ → σ → Prop}
  {allowed : Pool σ φ ε Θ → Event φ Θ ω κ ι → Prop}

theorem guarded_nil {s : σ} : Guarded (φ := φ) (ε := ε) I R G ⟨s, ∅⟩ := by
  intro thread ready effect rest found
  cases found

/-- Threads that only see a change they rely on stay guarded. -/
theorem Guarded.moved (trans : ∀ thread a b c, R thread a b → R thread b c → R thread a c)
    (guarded : Guarded I R G m) (moved : ∀ thread p, m'.threads.lookup thread = some p →
      (m.threads.lookup thread = some p ∧ R thread m.shared m'.shared) ∨
        Prog.Safe I (R thread) (G thread) (fun _ _ => True) (fun _ _ => True) p m'.shared) :
    Guarded I R G m' := by
  intro thread ready effect rest found
  rcases moved thread _ found with ⟨before, rely⟩ | safe
  · exact Prog.Safe.moved (trans thread) (guarded thread ready effect rest before) rely
  · exact safe

/-- One event keeps the invariant and stays within `T`. -/
theorem Sound.next (sound : S.Sound I R G T allowed) (inv : I m.shared)
    (guarded : Guarded I R G m) (event : Event φ Θ ω κ ι) (admitted : allowed m event) :
    I (S.next m event).shared ∧ Guarded I R G (S.next m event) ∧
      T m.shared (S.next m event).shared := by
  cases event with
  | start command =>
    unfold System.next
    dsimp only
    split
    · rename_i s absent admits
      obtain ⟨kept, lawful, rely, safe⟩ := sound.starts m command s admitted inv admits
      refine ⟨kept, guarded.moved sound.rely_trans fun thread p found => ?_, lawful⟩
      rw [Dict.lookup_insert_eq] at found
      split at found
      · rename_i same
        rw [same, ← Option.some.inj found]
        exact .inr safe
      · rename_i other
        exact .inl ⟨found, rely thread other⟩
    · exact ⟨inv, guarded, sound.still _⟩
  | step thread c =>
    unfold System.next
    dsimp only
    split
    · rename_i ready effect rest running
      split
      · rename_i able
        obtain ⟨kept, step, safe⟩ := guarded thread ready effect rest running m.shared
          (sound.rely_refl thread m.shared) inv able c
        refine ⟨kept, guarded.moved sound.rely_trans fun other p found => ?_,
          sound.within thread _ _ step⟩
        rw [Dict.lookup_insert_eq] at found
        split at found
        · rename_i same
          rw [same, ← Option.some.inj found]
          exact .inr safe
        · rename_i ne
          exact .inl ⟨found, sound.beside thread other _ _ ne step⟩
      · exact ⟨inv, guarded, sound.still _⟩
    · obtain ⟨kept, lawful, rely⟩ := sound.finishes thread m.shared inv
      refine ⟨kept, guarded.moved sound.rely_trans fun other p found => ?_, lawful⟩
      rw [Dict.lookup_erase_eq] at found
      split at found
      · cases found
      · rename_i ne
        exact .inl ⟨found, rely other ne⟩
    · exact ⟨inv, guarded, sound.still _⟩
  | kill process =>
    obtain ⟨kept, lawful, rely⟩ := sound.exits process m.shared inv
    refine ⟨kept, guarded.moved sound.rely_trans fun other p found => ?_, lawful⟩
    change (m.threads.filter _).lookup other = some p at found
    rw [Dict.lookup_filter, Option.filter_eq_some_iff] at found
    exact .inl ⟨found.1, rely other (by simpa using found.2)⟩
  | env action =>
    obtain ⟨kept, lawful, rely⟩ := sound.outside m action admitted inv
    exact ⟨kept, guarded.moved sound.rely_trans fun other p found =>
      .inl ⟨found, rely other⟩, lawful⟩

/-- What a run comes to: the invariant, and the law between its two ends. -/
theorem Sound.run (sound : S.Sound I R G T allowed) (trans : ∀ a b c, T a b → T b c → T a c) :
    ∀ (events : List (Event φ Θ ω κ ι)) {m : Pool σ φ ε Θ}, I m.shared → Guarded I R G m →
      S.Admitted allowed m events → I (S.run m events).shared ∧ Guarded I R G (S.run m events) ∧
        T m.shared (S.run m events).shared
  | [], m, inv, guarded, _ => ⟨inv, guarded, sound.still m.shared⟩
  | event :: events, _, inv, guarded, admitted => by
    obtain ⟨kept, safe, within⟩ := sound.next inv guarded event admitted.1
    obtain ⟨kept', safe', within'⟩ := sound.run trans events kept safe admitted.2
    exact ⟨kept', safe', trans _ _ _ within within'⟩

/-- **An invariant of every run**: what every thread keeps step by step, and the
environment keeps, holds in every state of a run, wherever processes were killed. -/
theorem Sound.trace_invariant (sound : S.Sound I R G T allowed) :
    ∀ (events : List (Event φ Θ ω κ ι)) {m : Pool σ φ ε Θ}, I m.shared → Guarded I R G m →
      S.Admitted allowed m events → ∀ s ∈ S.trace m events, I s
  | [], _, inv, _, _, s, mem => by
    rw [List.mem_singleton.mp mem]
    exact inv
  | event :: events, m, inv, guarded, admitted, s, mem => by
    obtain ⟨kept, safe, _⟩ := sound.next inv guarded event admitted.1
    rcases List.mem_cons.mp mem with rfl | later
    · exact inv
    · exact sound.trace_invariant events kept safe admitted.2 s later

/-- **A law of every transition**: consecutive states of a run are related by `T`. -/
theorem Sound.trace_isChain (sound : S.Sound I R G T allowed) :
    ∀ (events : List (Event φ Θ ω κ ι)) {m : Pool σ φ ε Θ}, I m.shared → Guarded I R G m →
      S.Admitted allowed m events → (S.trace m events).IsChain T
  | [], _, _, _, _ => List.isChain_singleton _
  | event :: events, _, inv, guarded, admitted => by
    obtain ⟨kept, safe, within⟩ := sound.next inv guarded event admitted.1
    have rest := sound.trace_isChain events kept safe admitted.2
    cases events with
    | nil => exact List.isChain_pair.mpr within
    | cons _ _ => exact List.isChain_cons_cons.mpr ⟨within, rest⟩

/-! ## Threads that have ended -/

/-- `F` is true of every thread that runs no program; a program that is under way brings it
about wherever it ends. -/
def Settles (I : σ → Prop) (R : Θ → σ → σ → Prop) (F : Θ → σ → Prop) (m : Pool σ φ ε Θ) : Prop :=
  ∀ thread, match m.threads.lookup thread with
    | none => F thread m.shared
    | some p => Prog.Safe (fun _ => True) (fun s s' => R thread s s' ∧ I s') (fun _ _ => True)
        (fun _ => F thread) (fun _ => F thread) p m.shared

section Settles

variable {F : Θ → σ → Prop}

/-- Threads that only see a change they rely on stay settled. -/
theorem Settles.moved (trans : ∀ thread a b c, R thread a b → R thread b c → R thread a c)
    (stable : ∀ thread s s', R thread s s' → F thread s → F thread s') (settles : Settles I R F m)
    (inv : I m'.shared) {thread : Θ} (same : m'.threads.lookup thread = m.threads.lookup thread)
    (rely : R thread m.shared m'.shared) :
    match m'.threads.lookup thread with
    | none => F thread m'.shared
    | some p => Prog.Safe (fun _ => True) (fun s s' => R thread s s' ∧ I s') (fun _ _ => True)
        (fun _ => F thread) (fun _ => F thread) p m'.shared := by
  have before := settles thread
  rw [same]
  cases found : m.threads.lookup thread with
  | none =>
    rw [found] at before
    exact stable thread _ _ rely before
  | some p =>
    rw [found] at before
    cases p with
    | done result =>
      cases result with
      | ok a | error e => exact stable thread _ _ rely before
    | act ready effect next =>
      exact Prog.Safe.moved (fun a b c first second =>
        ⟨trans thread a b c first.1 second.1, second.2⟩) before ⟨rely, inv⟩

end Settles

end System
end BtApiCtp.Theory
