/-
# Theory.Program -- programs that fail, wait, are killed, and are interfered with

A program over a shared state is a tree of atomic steps.  A step is taken when it is
ready (a lock is free, a thread has ended); the environment then supplies a choice (`φ`:
whether the operation succeeds, how far a failing one got), the state changes once, and
the program goes on from what it saw.  Nothing happens between two steps of a program
except what others do, so

* a process killed anywhere is a program that takes no further step;
* interference is a relation `R` applied before every step.

`Safe I R G Q E p s` says that from `s`, whatever the choices and whatever
interference within `R` keeps the invariant `I`, every step of `p` keeps `I` and
stays within `G`, a result satisfies `Q` and an exception `E`.  It is a property
of the whole tree, so it speaks about every point at which `p` can be cut.  The rules below
follow the program text; `Theory.Threads` carries them to programs that run side by side.
-/
import Mathlib.Data.List.Basic

namespace BtApiCtp.Theory

/-- A program over state `σ`, with a choice in `φ` at each step, that returns an
`α` or raises an `ε`. -/
inductive Prog (σ φ ε α : Type) : Type
  | done (result : Except ε α)
  | act (ready : σ → Bool) (effect : φ → σ → σ) (next : φ → σ → Prog σ φ ε α)

namespace Prog

variable {σ φ ε α β : Type}

def bind : Prog σ φ ε α → (α → Prog σ φ ε β) → Prog σ φ ε β
  | .done (.ok a), f => f a
  | .done (.error e), _ => .done (.error e)
  | .act ready effect next, f => .act ready effect fun c s => (next c s).bind f

/-- Run `handler` on the exception `p` raises, at the state it was raised in. -/
def handle : Prog σ φ ε α → (ε → Prog σ φ ε α) → Prog σ φ ε α
  | .done (.ok a), _ => .done (.ok a)
  | .done (.error e), handler => handler e
  | .act ready effect next, handler => .act ready effect fun c s => (next c s).handle handler

instance : Monad (Prog σ φ ε) where
  pure a := .done (.ok a)
  bind := bind

instance : MonadExceptOf ε (Prog σ φ ε) where
  throw e := .done (.error e)
  tryCatch := handle

/-- One atomic step, taken when it is ready: its result and the state after it. -/
def await (ready : σ → Bool) (f : φ → σ → Except ε α × σ) : Prog σ φ ε α :=
  .act ready (fun c s => (f c s).2) fun c s => .done (f c s).1

/-- One atomic step that never waits. -/
def atomic (f : φ → σ → Except ε α × σ) : Prog σ φ ε α := await (fun _ => true) f

/-- Read the state, in one step that changes nothing. -/
def observe (f : σ → α) : Prog σ φ ε α := atomic fun _ s => (.ok (f s), s)

def modify (f : σ → σ) : Prog σ φ ε Unit := atomic fun _ s => (.ok (), f s)

/-- `if b: p`. -/
def when (b : Bool) (p : Prog σ φ ε Unit) : Prog σ φ ε Unit := if b then p else pure ()

/-- `if not b: raise e`. -/
def require (b : Prop) [Decidable b] (e : ε) : Prog σ φ ε Unit :=
  if b then Pure.pure () else throw e

/-- What `p` comes to, a result or an exception, as a value. -/
def attempt (p : Prog σ φ ε α) : Prog σ φ ε (Except ε α) :=
  tryCatch (p >>= fun a => pure (.ok a)) fun e => pure (.error e)

/-- `for x in xs: acc = body acc x`, then `acc`. -/
def loop {γ : Type} : List β → γ → (γ → β → Prog σ φ ε γ) → Prog σ φ ε γ
  | [], acc, _ => pure acc
  | x :: xs, acc, body => body acc x >>= fun acc' => loop xs acc' body

/-- `for x in xs: body x`. -/
def forEach (xs : List β) (body : β → Prog σ φ ε Unit) : Prog σ φ ε Unit :=
  loop xs () fun _ x => body x

/-! ## Safety under interference -/

variable {e : ε} {f : φ → σ → Except ε α × σ} {ready : σ → Bool} {Q : α → σ → Prop} {s s' : σ}
  {result : Except ε α} {p : Prog σ φ ε α}

/-- Every step of `p` from `s` keeps `I` and stays in `G`, under interference in
`R`; a value it returns satisfies `Q`, an exception it raises satisfies `E`. -/
def Safe (I : σ → Prop) (R G : σ → σ → Prop) (Q : α → σ → Prop) (E : ε → σ → Prop) :
    Prog σ φ ε α → σ → Prop
  | .done (.ok a), s => Q a s
  | .done (.error e), s => E e s
  | .act ready effect next, s => ∀ s', R s s' → I s' → ready s' = true → ∀ c,
      I (effect c s') ∧ G s' (effect c s') ∧ Safe I R G Q E (next c s') (effect c s')

variable {I : σ → Prop} {R G : σ → σ → Prop} {E E' : ε → σ → Prop}

theorem Safe.mono {Q' : α → σ → Prop} (onOk : ∀ a s, Q a s → Q' a s)
    (onError : ∀ e s, E e s → E' e s) :
    ∀ {p : Prog σ φ ε α} {s : σ}, Safe I R G Q E p s → Safe I R G Q' E' p s
  | .done (.ok a), s, safe => onOk a s safe
  | .done (.error e), s, safe => onError e s safe
  | .act _ _ next, _, safe => fun s' rely inv able c =>
    let step := safe s' rely inv able c
    ⟨step.1, step.2.1, Safe.mono onOk onError (p := next c s') step.2.2⟩

theorem Safe.pure {a : α} (post : Q a s) : Safe I R G Q E (Pure.pure a : Prog σ φ ε α) s := post

theorem Safe.throw (post : E e s) : Safe I R G Q E (MonadExcept.throw e : Prog σ φ ε α) s := post

/-- Sequencing: the second program starts in the state the first one left, and
an exception of the first is an exception of the whole. -/
theorem Safe.bind {Q' : β → σ → Prop} {f : α → Prog σ φ ε β}
    (rest : ∀ a s, Q a s → Safe I R G Q' E (f a) s) :
    ∀ {p : Prog σ φ ε α} {s : σ}, Safe I R G Q E p s → Safe I R G Q' E (p >>= f) s
  | .done (.ok a), s, safe => rest a s safe
  | .done (.error _), _, safe => safe
  | .act _ _ next, _, safe => fun s' rely inv able c =>
    let step := safe s' rely inv able c
    ⟨step.1, step.2.1, Safe.bind rest (p := next c s') step.2.2⟩

theorem Safe.tryCatch {handler : ε → Prog σ φ ε α}
    (caught : ∀ e s, E e s → Safe I R G Q E' (handler e) s) :
    ∀ {p : Prog σ φ ε α} {s : σ}, Safe I R G Q E p s →
      Safe I R G Q E' (MonadExcept.tryCatch p handler) s
  | .done (.ok _), _, safe => safe
  | .done (.error e), s, safe => caught e s safe
  | .act _ _ next, _, safe => fun s' rely inv able c =>
    let step := safe s' rely inv able c
    ⟨step.1, step.2.1, Safe.tryCatch caught (p := next c s') step.2.2⟩

/-- An atomic step from an assertion that interference keeps. -/
theorem Safe.await (P : σ → Prop) (pre : P s) (stable : ∀ s', R s s' → P s → P s')
    (step : ∀ c s', P s' → I s' → ready s' = true → I (f c s').2 ∧ G s' (f c s').2 ∧
      (∀ a, (f c s').1 = .ok a → Q a (f c s').2) ∧
      (∀ e, (f c s').1 = .error e → E e (f c s').2)) : Safe I R G Q E (await ready f) s := by
  intro s' rely inv able c
  obtain ⟨kept, within, onOk, onError⟩ := step c s' (stable s' rely pre) inv able
  refine ⟨kept, within, ?_⟩
  change Safe I R G Q E (.done (f c s').1) (f c s').2
  cases result : (f c s').1 with
  | ok a => exact onOk a result
  | error e => exact onError e result

theorem Safe.atomic (P : σ → Prop) (pre : P s) (stable : ∀ s', R s s' → P s → P s')
    (step : ∀ c s', P s' → I s' → I (f c s').2 ∧ G s' (f c s').2 ∧
      (∀ a, (f c s').1 = .ok a → Q a (f c s').2) ∧
      (∀ e, (f c s').1 = .error e → E e (f c s').2)) : Safe I R G Q E (atomic f) s :=
  Safe.await P pre stable fun c s' here inv _ => step c s' here inv

theorem Safe.when {Q : Unit → σ → Prop} {b : Bool} {p : Prog σ φ ε Unit}
    (taken : b = true → Safe I R G Q E p s) (skipped : b = false → Q () s) :
    Safe I R G Q E (when b p) s := by
  cases b with
  | true => exact taken rfl
  | false => exact skipped rfl

theorem Safe.require {Q : Unit → σ → Prop} {b : Prop} [Decidable b] (met : b → Q () s)
    (unmet : ¬ b → E e s) : Safe I R G Q E (require b e : Prog σ φ ε Unit) s := by
  unfold Prog.require
  split
  · rename_i holds
    exact met holds
  · rename_i fails
    exact unmet fails

/-- Raise what a calculation raised. -/
def lift : Except ε α → Prog σ φ ε α
  | .ok a => Pure.pure a
  | .error e => MonadExcept.throw e

theorem Safe.lift (onOk : ∀ a, result = .ok a → Q a s)
    (onError : ∀ e, result = .error e → E e s) : Safe I R G Q E (lift result : Prog σ φ ε α) s := by
  cases result with
  | ok a => exact onOk a rfl
  | error e => exact onError e rfl

/-- After an attempt, what is known depends on how it went. -/
theorem Safe.attempt (safe : Safe I R G Q E p s) :
    Safe I R G (fun r s => (∀ a, r = .ok a → Q a s) ∧ ∀ e, r = .error e → E e s) E'
      (attempt p) s := by
  refine Safe.tryCatch (E := E) (fun e s raised => ?_) (Safe.bind (fun a s post => ?_) safe)
  · exact ⟨nofun, fun e' same => Except.error.inj same ▸ raised⟩
  · exact ⟨fun a' same => Except.ok.inj same ▸ post, nofun⟩

/-- A loop keeps an assertion on what is left and what was gathered, if its body does. -/
theorem Safe.loop {γ : Type} {Q : γ → σ → Prop} {body : γ → β → Prog σ φ ε γ}
    (P : List β → γ → σ → Prop)
    (step : ∀ x xs acc s, P (x :: xs) acc s → Safe I R G (P xs) E (body acc x) s)
    (exit : ∀ acc s, P [] acc s → Q acc s) :
    ∀ {xs : List β} {acc : γ} {s : σ}, P xs acc s → Safe I R G Q E (loop xs acc body) s
  | [], acc, s, pre => exit acc s pre
  | x :: xs, acc, s, pre =>
    Safe.bind (fun _ _ mid => Safe.loop P step exit mid) (step x xs acc s pre)

theorem Safe.forEach {Q : Unit → σ → Prop} {body : β → Prog σ φ ε Unit} (P : List β → σ → Prop)
    (step : ∀ x xs s, P (x :: xs) s → Safe I R G (fun _ => P xs) E (body x) s)
    (exit : ∀ s, P [] s → Q () s) {xs : List β} (pre : P xs s) :
    Safe I R G Q E (forEach xs body) s :=
  Safe.loop (fun xs _ => P xs) (fun x xs _ => step x xs) (fun _ => exit) pre

/-- A loop whose body is only run on what is in the list. -/
theorem Safe.forEach_mem {Q : Unit → σ → Prop} {body : β → Prog σ φ ε Unit} {xs : List β}
    (P : List β → σ → Prop)
    (step : ∀ x ∈ xs, ∀ rest s, P (x :: rest) s → Safe I R G (fun _ => P rest) E (body x) s)
    (exit : ∀ s, P [] s → Q () s) (pre : P xs s) : Safe I R G Q E (Prog.forEach xs body) s := by
  refine .forEach (fun rest s => rest ⊆ xs ∧ P rest s) (fun x rest s here => ?_)
    (fun s done => exit s done.2) ⟨List.Subset.refl xs, pre⟩
  obtain ⟨mem, among⟩ := List.cons_subset.mp here.1
  exact (step x mem rest s here.2).mono (fun _ _ post => ⟨among, post⟩) fun _ _ raised => raised

/-- A program that is not finished is still safe after interference. -/
theorem Safe.moved (trans : ∀ a b c, R a b → R b c → R a c) {effect : φ → σ → σ}
    {next : φ → σ → Prog σ φ ε α} {t : σ} (safe : Safe I R G Q E (.act ready effect next) s)
    (interfered : R s t) : Safe I R G Q E (.act ready effect next) t :=
  fun s' rely => safe s' (trans _ _ _ interfered rely)

/-! ## Runs of one program -/

/-- From `s`, interfered with in `R`, the program comes to `result` in the state `s'`. -/
inductive Ends (R : σ → σ → Prop) : Prog σ φ ε α → σ → Except ε α → σ → Prop
  | done (result : Except ε α) (s : σ) : Ends R (.done result) s result s
  | act {ready : σ → Bool} {effect : φ → σ → σ} {next : φ → σ → Prog σ φ ε α} {s s₁ s' : σ}
      {result : Except ε α} (c : φ) (interfered : R s s₁) (able : ready s₁ = true)
      (rest : Ends R (next c s₁) (effect c s₁) result s') :
      Ends R (.act ready effect next) s result s'

/-- What a safe program comes to satisfies its postconditions. -/
theorem Ends.safe (ends : Ends R p s result s') (keeps : ∀ s s', I s → R s s' → I s') (inv : I s)
    (safe : Safe I R G Q E p s) :
    (∀ a, result = .ok a → Q a s') ∧ ∀ e, result = .error e → E e s' := by
  induction ends with
  | done result s =>
    cases result with
    | ok a => exact ⟨fun _ same => Except.ok.inj same ▸ safe, nofun⟩
    | error e => exact ⟨nofun, fun _ same => Except.error.inj same ▸ safe⟩
  | act c interfered able _ ih =>
    obtain ⟨kept, _, rest⟩ := safe _ interfered (keeps _ _ inv interfered) able c
    exact ih kept rest

/-- From `s`, interfered with in `R`, the program may be cut in the state `s'`. -/
inductive Visits (R : σ → σ → Prop) : Prog σ φ ε α → σ → σ → Prop
  | here (p : Prog σ φ ε α) (s : σ) : Visits R p s s
  | act {ready : σ → Bool} {effect : φ → σ → σ} {next : φ → σ → Prog σ φ ε α} {s s₁ s' : σ}
      (c : φ) (interfered : R s s₁) (able : ready s₁ = true)
      (rest : Visits R (next c s₁) (effect c s₁) s') : Visits R (.act ready effect next) s s'

/-- A safe program keeps its invariant wherever it is cut. -/
theorem Visits.safe (visits : Visits R p s s') (keeps : ∀ s s', I s → R s s' → I s') (inv : I s)
    (safe : Safe I R G Q E p s) : I s' := by
  induction visits with
  | here => exact inv
  | act c interfered able _ ih =>
    obtain ⟨kept, _, rest⟩ := safe _ interfered (keeps _ _ inv interfered) able c
    exact ih kept rest

theorem Ends.visits (ends : Ends R p s result s') : Visits R p s s' := by
  induction ends with
  | done result s => exact .here _ s
  | act c interfered able _ ih => exact .act c interfered able ih

/-- Run the program alone, with these choices. -/
def run : List φ → Prog σ φ ε α → σ → Option (Except ε α × σ)
  | _, .done result, s => some (result, s)
  | [], .act _ _ _, _ => none
  | c :: cs, .act ready effect next, s =>
    if ready s then run cs (next c s) (effect c s) else none

theorem ends_of_run (refl : ∀ s, R s s) :
    ∀ {choices : List φ} {p : Prog σ φ ε α} {s : σ}, run choices p s = some (result, s') →
      Ends R p s result s'
  | [], .done _, _, ran | _ :: _, .done _, _, ran => by
    cases ran
    exact .done _ _
  | [], .act _ _ _, _, ran => nomatch ran
  | c :: _, .act ready _ _, s, ran => by
    unfold run at ran
    split at ran
    · rename_i able
      exact .act c (refl s) able (ends_of_run refl ran)
    · cases ran

/-- A run that can be computed is one that can happen. -/
theorem exists_ends (refl : ∀ s, R s s) (choices : List φ) (check : Except ε α → σ → Bool)
    (found : (run choices p s).any (fun final => check final.1 final.2) = true) :
    ∃ result s', Ends R p s result s' ∧ check result s' = true := by
  cases ran : run choices p s with
  | none =>
    rw [ran] at found
    cases found
  | some final =>
    rw [ran] at found
    exact ⟨final.1, final.2, ends_of_run refl ran, found⟩

end Prog

end BtApiCtp.Theory
