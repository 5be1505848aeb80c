/-
# Theory.Section -- what runs under a lock

A section has a shared state to itself: it returns or raises, and what it changed before it
raised stays changed.  `Within P x s` says that from `s` the section `x` makes a transition
within `P`, whether it returns or raises; its rules follow the text of a section, and a later
part may use what the earlier ones came to.  What that is, the lemmas `..._eq_ok` take apart.
A section is one step of a program (`Theory.Program`).
-/
import BtApiCtp.Theory.Program

namespace BtApiCtp.Theory

variable {u : Unit}

/-- A calculation on a state that may raise, and keeps the state if it does. -/
def Section (σ ε α : Type) := σ → Except ε α × σ

namespace Section

variable {σ ε φ α β : Type}

instance : Monad (Section σ ε) where
  pure a := fun s => (.ok a, s)
  bind x f := fun s =>
    match x s with
    | (.ok a, s') => f a s'
    | (.error e, s') => (.error e, s')

def raise (e : ε) : Section σ ε α := fun s => (.error e, s)

/-- Read something off the state. -/
def read (f : σ → α) : Section σ ε α := fun s => (.ok (f s), s)

def update (f : σ → σ) : Section σ ε Unit := fun s => (.ok (), f s)

/-- `if not b: raise e`, for a condition on the state. -/
def require (b : σ → Bool) (e : ε) : Section σ ε Unit :=
  fun s => if b s then (.ok (), s) else (.error e, s)

/-- `if not b: ...; raise e`, where something is changed first. -/
def requireOr (b : σ → Bool) (f : σ → σ) (e : ε) : Section σ ε Unit :=
  fun s => if b s then (.ok (), s) else (.error e, f s)

/-- Raise what a calculation raised. -/
def lift (result : Except ε α) : Section σ ε α := fun s => (result, s)

/-- A calculation on the state that changes nothing. -/
def ask (f : σ → Except ε α) : Section σ ε α := fun s => (f s, s)

/-- `try: x; except ...: f; raise`. -/
def onError (x : Section σ ε α) (f : ε → σ → σ) : Section σ ε α := fun s =>
  match x s with
  | (.ok a, s') => (.ok a, s')
  | (.error e, s') => (.error e, f e s')

/-! ## What a section came to -/

variable {x : Section σ ε α} {e : ε} {result : Except ε α} {f : σ → σ} {b : σ → Bool} {a : α}

section Ok

variable {s s' : σ} {a : α}

theorem pure_eq_ok {b : α} : (pure a : Section σ ε α) s = (.ok b, s') ↔ a = b ∧ s' = s := by
  constructor
  · intro came
    cases came
    exact ⟨rfl, rfl⟩
  · rintro ⟨rfl, rfl⟩
    rfl

theorem bind_eq_ok {f : α → Section σ ε β} {b : β} {s'' : σ} :
    (x >>= f) s = (.ok b, s'') ↔ ∃ a s', x s = (.ok a, s') ∧ f a s' = (.ok b, s'') := by
  change (match x s with
    | (.ok a, s') => f a s'
    | (.error e, s') => (.error e, s')) = (.ok b, s'') ↔ _
  rcases x s with ⟨result, s'⟩
  cases result with
  | ok a =>
    constructor
    · intro came
      exact ⟨a, s', rfl, came⟩
    · rintro ⟨a', t, same, came⟩
      cases same
      exact came
  | error e =>
    constructor
    · intro came
      cases came
    · rintro ⟨a', t, same, _⟩
      cases same

theorem ask_eq_ok {f : σ → Except ε α} : ask f s = (.ok a, s') ↔ f s = .ok a ∧ s' = s := by
  constructor
  · intro came
    obtain ⟨first, rfl⟩ := Prod.mk.inj came
    exact ⟨first, rfl⟩
  · rintro ⟨found, rfl⟩
    exact congrArg (fun result => (result, s')) found

theorem lift_eq_ok : (lift result : Section σ ε α) s = (.ok a, s') ↔ result = .ok a ∧ s' = s :=
  ask_eq_ok (f := fun _ => result)

theorem update_eq_ok : (update f : Section σ ε Unit) s = (.ok u, s') ↔ s' = f s := by
  constructor
  · intro came
    cases came
    rfl
  · rintro rfl
    rfl

theorem requireOr_eq_ok : requireOr b f e s = (.ok u, s') ↔ b s = true ∧ s' = s := by
  unfold requireOr
  split
  · rename_i holds
    simp [holds, eq_comm]
  · rename_i fails
    simp [fails]

theorem require_eq_ok : require b e s = (.ok u, s') ↔ b s = true ∧ s' = s :=
  requireOr_eq_ok (f := id)

end Ok

/-! ## Transitions -/

/-- From `s`, the section makes a transition within `P`. -/
def Within (P : σ → σ → Prop) (x : Section σ ε α) (s : σ) : Prop := P s (x s).2

section Within

variable {P : σ → σ → Prop} {s : σ}

theorem Within.pure (stays : P s s) : Within P (Pure.pure a : Section σ ε α) s := stays

theorem Within.raise (stays : P s s) : Within P (raise e : Section σ ε α) s := stays

theorem Within.update (moved : P s (f s)) : Within P (update f : Section σ ε Unit) s :=
  moved

/-- Sequencing with a law of its own for the first part. -/
theorem Within.bindThen {Q : σ → σ → Prop} {f : α → Section σ ε β}
    (compose : ∀ a b c, P a b → Q b c → Q a c) (stop : ∀ a b, P a b → Q a b)
    (first : Within P x s) (rest : ∀ a s', x s = (.ok a, s') → Within Q (f a) s') :
    Within Q (x >>= f) s := by
  change Q s (match x s with
    | (.ok a, s') => f a s'
    | (.error e, s') => (.error e, s')).2
  unfold Within at first
  rcases came : x s with ⟨result, s'⟩
  rw [came] at first
  cases result with
  | ok a => exact compose _ _ _ first (rest a s' came)
  | error e => exact stop _ _ first

/-- Sequencing: the second part starts where the first one ended. -/
theorem Within.bind {f : α → Section σ ε β} (trans : ∀ a b c, P a b → P b c → P a c)
    (first : Within P x s) (rest : ∀ a s', x s = (.ok a, s') → Within P (f a) s') :
    Within P (x >>= f) s :=
  Within.bindThen trans (fun _ _ within => within) first rest

theorem Within.requireOr (stays : P s s) (unmet : b s = false → P s (f s)) :
    Within P (requireOr b f e) s := by
  unfold Within Section.requireOr
  split
  · exact stays
  · rename_i fails
    exact unmet (by simpa using fails)

theorem Within.require (stays : P s s) : Within P (require b e) s :=
  Within.requireOr (f := id) stays fun _ => stays

theorem Within.onError {f : ε → σ → σ} (trans : ∀ a b c, P a b → P b c → P a c)
    (first : Within P x s) (raised : ∀ e s', x s = (.error e, s') → P s' (f e s')) :
    Within P (onError x f) s := by
  unfold Within Section.onError
  unfold Within at first
  rcases came : x s with ⟨result, s'⟩
  rw [came] at first
  cases result with
  | ok a => exact first
  | error e => exact trans _ _ _ first (raised e s' came)

/-! What only looks at the state is followed by the rest in the same state. -/

variable {g : α → Section σ ε β} {h : Unit → Section σ ε β}

theorem Within.readThen {f : σ → α} (rest : Within P (g (f s)) s) :
    Within P (Section.read f >>= g) s :=
  rest

theorem Within.askThen {f : σ → Except ε α} (stays : P s s)
    (rest : ∀ a, f s = .ok a → Within P (g a) s) : Within P (Section.ask f >>= g) s := by
  change P s (match (f s, s) with
    | (.ok a, s') => g a s'
    | (.error e, s') => (.error e, s')).2
  cases came : f s with
  | ok a => exact rest a came
  | error e => exact stays

theorem Within.liftThen (stays : P s s) (rest : ∀ a, result = .ok a → Within P (g a) s) :
    Within P (Section.lift result >>= g) s :=
  .askThen stays rest

theorem Within.requireOrThen (unmet : b s = false → P s (f s))
    (rest : b s = true → Within P (h ()) s) : Within P (Section.requireOr b f e >>= h) s := by
  unfold Within Section.requireOr
  dsimp only [Bind.bind]
  cases met : b s with
  | true => exact rest met
  | false => exact unmet met

theorem Within.requireThen (stays : P s s) (rest : b s = true → Within P (h ()) s) :
    Within P (Section.require b e >>= h) s :=
  .requireOrThen (f := id) (fun _ => stays) rest

end Within

theorem onError_eq_ok {f : ε → σ → σ} {s s' : σ} :
    onError x f s = (.ok a, s') ↔ x s = (.ok a, s') := by
  unfold onError
  rcases x s with ⟨result, t⟩
  cases result with
  | ok b => exact Iff.rfl
  | error e => simp

/-! ## Postconditions -/

/-- From `s`, the section returns with `Q` or raises with `E`. -/
def Post (Q : α → σ → Prop) (E : ε → σ → Prop) (x : Section σ ε α) (s : σ) : Prop :=
  match x s with
  | (.ok a, s') => Q a s'
  | (.error e, s') => E e s'

section Post

variable {Q : α → σ → Prop} {E : ε → σ → Prop} {s : σ}

theorem Post.pure (post : Q a s) : Post Q E (Pure.pure a : Section σ ε α) s := post

theorem Post.raise (post : E e s) : Post Q E (raise e : Section σ ε α) s := post

theorem Post.update {Q : Unit → σ → Prop} (post : Q () (f s)) :
    Post Q E (update f : Section σ ε Unit) s :=
  post

theorem Post.ask {f : σ → Except ε α} (onOk : ∀ a, f s = .ok a → Q a s)
    (onError : ∀ e, f s = .error e → E e s) : Post Q E (ask f) s := by
  unfold Post Section.ask
  cases came : f s with
  | ok a => exact onOk a came
  | error e => exact onError e came

theorem Post.require {Q : Unit → σ → Prop} (met : b s = true → Q () s)
    (unmet : b s = false → E e s) : Post Q E (require b e) s := by
  unfold Post Section.require
  cases holds : b s with
  | true => exact met holds
  | false => exact unmet holds

/-- What holds either way, holds of the state that is left. -/
theorem Post.state {P : σ → Prop} (post : Post (fun _ => P) (fun _ => P) x s) : P (x s).2 := by
  unfold Post at post
  rcases came : x s with ⟨result, s'⟩
  rw [came] at post
  cases result with
  | ok a => exact post
  | error e => exact post

theorem Post.mono {Q' : α → σ → Prop} {E' : ε → σ → Prop} (post : Post Q E x s)
    (onOk : ∀ a s, Q a s → Q' a s) (onError : ∀ e s, E e s → E' e s) : Post Q' E' x s := by
  unfold Post at post ⊢
  rcases came : x s with ⟨result, s'⟩
  rw [came] at post
  cases result with
  | ok a => exact onOk a s' post
  | error e => exact onError e s' post

/-- Sequencing: the second part starts with what the first one left. -/
theorem Post.bind {Q' : β → σ → Prop} {f : α → Section σ ε β} (first : Post Q E x s)
    (rest : ∀ a s', Q a s' → Post Q' E (f a) s') : Post Q' E (x >>= f) s := by
  unfold Post at first
  change match (match x s with
    | (.ok a, s') => f a s'
    | (.error e, s') => (.error e, s')) with
    | (.ok a, s') => Q' a s'
    | (.error e, s') => E e s'
  rcases came : x s with ⟨result, s'⟩
  rw [came] at first
  cases result with
  | ok a => exact rest a s' first
  | error e => exact first

/-! What cannot raise, or only looks at the state, and then the rest. -/

variable {Q : β → σ → Prop} {f : α → Section σ ε β}

theorem Post.readThen {g : σ → α} (rest : Post Q E (f (g s)) s) :
    Post Q E (Section.read g >>= f) s :=
  rest

theorem Post.updateThen {g : σ → σ} {f : Unit → Section σ ε β} (rest : Post Q E (f ()) (g s)) :
    Post Q E (Section.update g >>= f) s :=
  rest

theorem Post.askThen {g : σ → Except ε α} (onError : ∀ e, E e s)
    (rest : ∀ a, g s = .ok a → Post Q E (f a) s) : Post Q E (Section.ask g >>= f) s := by
  refine .bind (Q := fun a s' => g s = .ok a ∧ s' = s) (.ask (fun _ came => ⟨came, rfl⟩)
    fun e _ => onError e) ?_
  rintro a _ ⟨came, rfl⟩
  exact rest a came

theorem Post.liftThen (onError : ∀ e, E e s)
    (rest : ∀ a, Post Q E (f a) s) : Post Q E (Section.lift result >>= f) s :=
  .askThen onError fun a _ => rest a

theorem Post.requireThen {f : Unit → Section σ ε β} (unmet : E e s) (rest : Post Q E (f ()) s) :
    Post Q E (Section.require b e >>= f) s := by
  refine .bind (Q := fun _ s' => s' = s) (.require (fun _ => rfl) fun _ => unmet) ?_
  rintro _ _ rfl
  exact rest

end Post

end Section

end BtApiCtp.Theory
