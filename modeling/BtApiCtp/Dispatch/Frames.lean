/-
# Dispatch.Frames -- what most sections leave alone

Many sections of the authority only check, freeze, or change the grant, the targets or the
sessions.  `Tolerant P` says that `P` allows that much, and every such section is then within
`P`.  `Still` is what the other sections satisfy as well, those that settle a ticket apart: the
table of order states is as it was, and no rejection is noted.
-/
import BtApiCtp.Dispatch.Calls
import BtApiCtp.Theory.Journal

namespace BtApiCtp.Dispatch

open Python Theory

variable {s : Authority}

namespace Authority

variable (host : Session.Host) (answers : Answers)

/-! ## Sections that only check, freeze or change the grant -/

/-- `P` allows to freeze, and to change what neither latches, ledger, table, journal nor the
call under way depend on. -/
structure Tolerant (P : Authority → Authority → Prop) : Prop where
  refl : ∀ s, P s s
  trans : ∀ a b c, P a b → P b c → P a c
  quiet : ∀ {s s' : Authority}, s'.limits = s.limits → s'.latches = s.latches →
    s'.observed.ledger = s.observed.ledger → s'.orderState = s.orderState →
    s'.journal = s.journal → s'.pending = s.pending → P s s'
  freeze : ∀ reason s, P s (Authority.freeze reason s)

namespace Tolerant

variable {P : Authority → Authority → Prop} (tolerant : Tolerant P)

include tolerant

theorem bind {α β : Type} {x : Locked α} {f : α → Locked β} (first : x.Within P s)
    (rest : ∀ a s', (f a).Within P s') : (x >>= f).Within P s :=
  .bind tolerant.trans first fun a s' _ => rest a s'

theorem disarmLocked (answer : DisarmAnswer) (s : Authority) :
    (disarmLocked answer).Within P s := by
  have dropped : P s s.dropGrant := tolerant.quiet rfl rfl rfl rfl rfl rfl
  have frozen : ∀ reason, P s (s.dropGrant.freeze reason) := fun reason =>
    tolerant.trans _ _ _ dropped (tolerant.freeze reason _)
  unfold Section.Within Authority.disarmLocked
  split
  · exact dropped
  split
  · exact frozen _
  · exact frozen _
  split
  · exact dropped
  · exact frozen _

theorem freezeAndDisarm (reason : String) (answer : DisarmAnswer) (s : Authority) :
    P s (s.freezeAndDisarm reason answer) := by
  unfold Authority.freezeAndDisarm
  dsimp only
  split
  · exact tolerant.trans _ _ _ (tolerant.freeze reason s) (tolerant.disarmLocked answer _)
  · exact tolerant.freeze reason s

theorem discardCancelTarget (object : Option Nat) (s : Authority) :
    P s (s.discardCancelTarget object) := by
  cases object with
  | none => exact tolerant.refl s
  | some object => exact tolerant.quiet rfl rfl rfl rfl rfl rfl

theorem requireArmable (s : Authority) : requireArmable.Within P s :=
  have stays := tolerant.refl s
  .requireThen stays fun _ => .requireThen stays fun _ => .requireThen stays fun _ => .require stays

theorem verifyAdmission (route : Route) (current : SessionIdentity) (state : Value)
    (s : Authority) : (verifyAdmission host answers route current state).Within P s :=
  have stays := tolerant.refl s
  .liftThen stays fun _ _ => .liftThen stays fun _ _ => .requireThen stays fun _ =>
    .liftThen stays fun _ _ => .liftThen stays fun _ _ => .pure stays

theorem releaseArmedGate (observed : Value)
    (s : Authority) : (releaseArmedGate host answers observed).Within P s := by
  have stays := tolerant.refl s
  unfold Authority.releaseArmedGate
  split
  · split
    · exact .requireThen stays fun _ => .requireThen stays fun _ => tolerant.disarmLocked _ s
    · exact .update (tolerant.quiet rfl rfl rfl rfl rfl rfl)
    · exact .raise stays
  · exact .raise stays

theorem configureArmTemplates (templates : Dict Route ArmTemplate) (s : Authority) :
    (configureArmTemplates templates).Within P s := by
  refine tolerant.bind (tolerant.requireArmable s) fun _ s => .readThen ?_
  have stays := tolerant.refl s
  split
  · exact .require stays
  · exact .requireThen stays fun _ => .update (tolerant.quiet rfl rfl rfl rfl rfl rfl)

theorem requireWrite (route : Route) (s : Authority) :
    (requireWrite host answers route).Within P s := by
  have stays := tolerant.refl s
  refine .requireThen stays fun _ => .liftThen stays fun current _ => .askThen stays fun _ _ => ?_
  refine .requireThen stays fun _ => .requireThen stays fun _ => .requireThen stays fun _ => ?_
  refine .requireOrThen (fun _ => tolerant.freezeAndDisarm _ _ s) fun _ => ?_
  refine .liftThen stays fun afterwards _ => .liftThen stays fun _ _ => ?_
  exact .requireOr stays fun _ => tolerant.freezeAndDisarm _ _ s

theorem claimTarget (request : ScopeRequest) (identity : Identity) (s : Authority) :
    (claimTarget host answers request identity).Within P s := by
  have stays := tolerant.refl s
  unfold Authority.claimTarget
  split
  · split
    · exact .raise stays
    split
    · exact .raise stays
    · refine tolerant.bind ?_ fun _ s' => .pure (tolerant.refl s')
      exact .requireThen stays fun _ => .requireThen stays fun _ =>
        tolerant.bind (.update (tolerant.quiet rfl rfl rfl rfl rfl rfl)) fun _ s' =>
          .pure (tolerant.refl s')
  · exact .requireThen stays fun _ => .pure stays

/-! ## Session scopes and cancel targets -/

theorem enterSession (thread : Nat) (expected : SessionIdentity) (answers : Answers)
    (s : Authority) : (enterSession thread expected answers).Within P s :=
  have stays := tolerant.refl s
  .liftThen stays fun _ _ => .liftThen stays fun _ _ => .requireThen stays fun _ =>
    .update (tolerant.quiet rfl rfl rfl rfl rfl rfl)

theorem leaveSession (s : Authority) : P s s.leaveSession := by
  unfold Authority.leaveSession
  split
  · exact tolerant.refl s
  · exact tolerant.quiet rfl rfl rfl rfl rfl rfl

theorem bindCancelTargetIssuer (issuer issuerSeal : Nat) (s : Authority) :
    (bindCancelTargetIssuer issuer issuerSeal).Within P s :=
  have stays := tolerant.refl s
  .requireThen stays fun _ => .requireThen stays fun _ =>
    .update (tolerant.quiet rfl rfl rfl rfl rfl rfl)

theorem registerCancelTarget (target : CancelTarget)
    (s : Authority) : (registerCancelTarget host answers target).Within P s := by
  have stays := tolerant.refl s
  refine .requireThen stays fun _ => .requireThen stays fun _ => .requireThen stays fun _ => ?_
  refine .liftThen stays fun _ _ => .askThen stays fun _ _ => .requireThen stays fun _ => ?_
  refine .requireThen stays fun _ => .requireThen stays fun _ => .requireThen stays fun _ => ?_
  exact .update (tolerant.quiet rfl rfl rfl rfl rfl rfl)

theorem orderEvidence (thread : Nat) (answers : Answers)
    (operation : Operation) (reading : EvidenceReading) (s : Authority) :
    P s (perform host thread answers (.orderEvidence operation reading) s) := by
  cases reading with
  | untyped | sessionMismatch | outcomeUnknown => exact tolerant.freezeAndDisarm _ answers.disarm s
  | plain => exact tolerant.refl s

end Tolerant

/-! ## Sections that settle no ticket -/

/-- Limits and order states are as they were, and no rejection is noted. -/
structure Still (s s' : Authority) : Prop where
  limits : s'.limits = s.limits
  table : s'.orderState = s.orderState
  unrejected : ∀ number, .rejected number ∈ s'.journal → .rejected number ∈ s.journal

namespace Still

theorem refl (s : Authority) : Still s s := ⟨rfl, rfl, fun _ mem => mem⟩

theorem trans (a b c : Authority) (first : Still a b) (second : Still b c) : Still a c :=
  ⟨second.limits.trans first.limits, second.table.trans first.table,
    fun number mem => first.unrejected number (second.unrejected number mem)⟩

/-- Another mark is noted. -/
theorem noted {s' : Authority} (mark : Mark) (limits : s'.limits = s.limits)
    (table : s'.orderState = s.orderState) (journal : s'.journal = s.journal ++ [mark])
    (other : ∀ number, mark ≠ .rejected number) : Still s s' := by
  refine ⟨limits, table, fun number mem => ?_⟩
  rw [journal] at mem
  rcases mem_snoc.mp mem with old | new
  · exact old
  · exact absurd new.symm (other number)

theorem tolerant : Tolerant Still where
  refl := refl
  trans := trans
  quiet limits _ _ table journal _ := ⟨limits, table, fun _ mem => journal ▸ mem⟩
  freeze reason s := by
    unfold Authority.freeze
    split
    · exact refl s
    · exact noted .froze rfl rfl rfl (by simp)

end Still

theorem beginArm_still (pending : Nat → Pending) (s : Authority) :
    (beginArm pending).Within Still s :=
  Still.tolerant.bind (Still.tolerant.requireArmable s) fun _ s' =>
    .update (.noted (.armBegan s'.grant.armCalls) rfl rfl rfl (by simp))

theorem beginCheck_still (route : Route) (scope : Option ScopeRequest) (s : Authority) :
    (beginCheck route scope).Within Still s :=
  Still.tolerant.bind (Still.tolerant.requireArmable s) fun _ _ =>
    .update ⟨rfl, rfl, fun _ mem => mem⟩

theorem armRegisteredSimExecution_still (call : Nat) (route : Route) (s : Authority) :
    (armRegisteredSimExecution host answers call route).Within Still s := by
  refine .requireThen (.refl s) fun _ => .liftThen (.refl s) fun current _ => ?_
  refine .askThen (.refl s) fun _ _ => ?_
  split
  · exact .raise (.refl s)
  · exact Still.tolerant.bind (.update (Still.tolerant.freeze _ s)) fun _ s' => .raise (.refl s')
  · exact Still.tolerant.bind (.update (Still.tolerant.freeze _ s)) fun _ s' => .raise (.refl s')
  · refine Still.tolerant.bind (.update ⟨rfl, rfl, fun _ mem => mem⟩) fun _ s₄ => ?_
    refine Still.tolerant.bind (.onError Still.trans (Still.tolerant.verifyAdmission ..)
      fun _ _ _ => Still.tolerant.freezeAndDisarm ..) fun snapshot s₅ => ?_
    exact .update (.noted (.armed call) rfl rfl rfl (by simp))

theorem ensureRegisteredSimArmFor_still (call : Nat) (route : Route) (s : Authority) :
    (ensureRegisteredSimArmFor host answers call route).Within Still s := by
  refine .liftThen (.refl s) fun current _ => .askThen (.refl s) fun _ _ => ?_
  refine .requireThen (.refl s) fun _ => .readThen ?_
  split
  · exact .update (.noted (.armed call) rfl rfl rfl (by simp))
  · refine .liftThen (.refl s) fun observed _ => ?_
    refine Still.tolerant.bind (Still.tolerant.releaseArmedGate host answers observed s)
      fun _ s => .requireThen (.refl s) fun _ => ?_
    exact Still.tolerant.bind (Still.tolerant.requireArmable s) fun _ _ =>
      .update (.noted (.armBegan call) rfl rfl rfl (by simp))

theorem resume_still (pending : Pending)
    (s : Authority) : (resume host answers pending).Within Still s := by
  cases pending with
  | arming call route => exact armRegisteredSimExecution_still host answers call route s
  | ensuring call route => exact ensureRegisteredSimArmFor_still host answers call route s
  | checking route scope =>
    refine Still.tolerant.bind (Still.tolerant.requireWrite host answers route s) fun _ s' => ?_
    cases scope with
    | none => exact .pure (.refl s')
    | some request =>
      exact .liftThen (.refl s') fun identity _ =>
        Still.tolerant.bind (Still.tolerant.claimTarget host answers request identity s')
          fun _ _ => .update ⟨rfl, rfl, fun _ mem => mem⟩
  | entering request identity stateRef target =>
    have discarded := Still.tolerant.discardCancelTarget target
    exact .requireOrThen (fun _ => discarded s) fun _ => .requireOrThen (fun _ => discarded s)
      fun _ => .update (.noted (.admitted s.latches.tickets.length) rfl rfl rfl (by simp))

/-- The calls that neither settle a ticket nor report an order. -/
def Call.plain : Call → Bool
  | .recordNativeReturn .. | .recordPreDispatchRejection .. | .leaveScope ..
  | .rememberOrderTerminal _ => false
  | _ => true

theorem perform_still (thread : Nat) (answers : Answers) {call : Call}
    (plain : call.plain = true) (s : Authority) : Still s (perform host thread answers call s) := by
  cases call with
  | configureArmTemplates templates => exact Still.tolerant.configureArmTemplates templates s
  | armRegisteredSimExecution route | ensureRegisteredSimArmFor route => exact beginArm_still _ s
  | disarmRegisteredSimExecution => exact Still.tolerant.disarmLocked answers.disarm s
  | freezeRegisteredSimExecution reason =>
    exact Still.trans _ _ _ (Still.tolerant.freeze reason s)
      (Still.tolerant.disarmLocked answers.disarm _)
  | requireWrite route => exact beginCheck_still route none s
  | enterScope request =>
    exact Section.Within.requireThen (.refl s) fun _ => beginCheck_still _ _ s
  | enterSession expected => exact Still.tolerant.enterSession thread expected answers s
  | leaveSession => exact Still.tolerant.leaveSession s
  | bindCancelTargetIssuer issuer issuerSeal =>
    exact Still.tolerant.bindCancelTargetIssuer issuer issuerSeal s
  | registerCancelTarget target => exact Still.tolerant.registerCancelTarget host answers target s
  | discardCancelTarget object => exact ⟨rfl, rfl, fun _ mem => mem⟩
  | orderEvidence operation reading =>
    exact Still.tolerant.orderEvidence host thread answers operation reading s
  | recordNativeReturn number value | recordPreDispatchRejection number error
  | leaveScope number raised | rememberOrderTerminal orderRef => cases plain

end Authority

end BtApiCtp.Dispatch
