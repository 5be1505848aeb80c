/-
# Dispatch.Latching -- what is never taken back, and what every scope leaves

Three latches keep the authority from ever dispatching again: an outcome that is not known, a
freeze, and a callback that left an order's outcome open.  `latched_and_recorded` says of every
run that after any of them no scope is admitted and no arm call passes its first check, and
that every scope that has ended left exactly one evidence, or none after a rejection that was
verified to precede the dispatch.

An arm call that had passed its check may still succeed after a callback was latched in its
middle; after the other two latches no arm succeeds at all, as they need `_lock`.
-/
import BtApiCtp.Dispatch.Frames
import BtApiCtp.Dispatch.Moves

namespace BtApiCtp.Dispatch

open Python Theory Relation
open Section hiding read

variable {s s' : Authority} {answers : Answers} {host : Session.Host} {call number : Nat}
  {pending : Pending} {ticket : Ticket} {u : Unit} {current : SessionIdentity} {route : Route}
  {evidence : Evidence}

namespace Authority

/-! ## What the sections do -/

/-- The section goes by moves and leaves what is under way as it is. -/
def Calm (s s' : Authority) : Prop := ReflTransGen Move s s' ∧ s'.pending = s.pending

namespace Calm

theorem refl (s : Authority) : Calm s s := ⟨.refl, rfl⟩

theorem trans (a b c : Authority) (first : Calm a b) (second : Calm b c) : Calm a c :=
  ⟨first.1.trans second.1, second.2.trans first.2⟩

/-- Latches, ledger and journal are as they were. -/
theorem quiet (limits : s'.limits = s.limits) (latches : s'.latches = s.latches)
    (ledger : s'.observed.ledger = s.observed.ledger) (journal : s'.journal = s.journal)
    (pending : s'.pending = s.pending) : Calm s s' :=
  ⟨.single (.quiet limits latches ledger journal), pending⟩

theorem tolerant : Tolerant Calm where
  refl := refl
  trans := trans
  quiet limits latches ledger _ journal pending := quiet limits latches ledger journal pending
  freeze reason s := by
    refine ⟨.single (.freeze s reason), ?_⟩
    unfold Authority.freeze
    split
    · rfl
    · rfl

end Calm

variable (orderRef : String)

/-- Nothing but the order states changes. -/
theorem rememberOrderState_eq (state : OrderState) (s : Authority) :
    ∃ table, s.rememberOrderState orderRef state = { s with orderState := table } := by
  unfold rememberOrderState
  dsimp only
  split
  · exact ⟨s.orderState, rfl⟩
  · exact ⟨_, rfl⟩

theorem rememberOrderState_calm (state : OrderState) (s : Authority) :
    Calm s (s.rememberOrderState orderRef state) := by
  obtain ⟨table, same⟩ := rememberOrderState_eq orderRef state s
  rw [same]
  exact .quiet rfl rfl rfl rfl rfl

theorem trackOrderRef_calm (s : Authority) :
    Calm s (s.trackOrderRef orderRef) :=
  .quiet rfl rfl rfl rfl rfl

/-! ## Checks -/

theorem requireArmable_eq_ok (passed : requireArmable s = (.ok u, s')) : s.Armable ∧ s' = s := by
  simp only [requireArmable, bind_eq_ok, require_eq_ok] at passed
  obtain ⟨_, _, ⟨-, rfl⟩, _, _, ⟨none, rfl⟩, _, _, ⟨unfrozen, rfl⟩, resolved, rfl⟩ := passed
  exact ⟨⟨⟨by simpa using unfrozen, by simpa using none⟩, by simpa using resolved⟩, rfl⟩

/-! ## Arms -/

theorem verifyAdmission_eq_ok {state : Value} {snapshot : Snapshot}
    (verified : verifyAdmission host answers route current state s = (.ok snapshot, s')) :
    s' = s := by
  simp only [verifyAdmission, readGateState, currentSession, bind_eq_ok,
    lift_eq_ok, require_eq_ok, pure_eq_ok] at verified
  obtain ⟨_, _, ⟨-, rfl⟩, _, _, ⟨-, rfl⟩, _, _, ⟨-, rfl⟩, _, _, ⟨-, rfl⟩, _, _, ⟨-, rfl⟩, -, rfl⟩ :=
    verified
  rfl

/-- The arm call has passed its check, and nothing that needs `_lock` was latched since. -/
def Arming (s : Authority) (call : Nat) : Prop := s.Steady ∧ .armBegan call ∈ s.journal

theorem armed_calm (arming : s.Arming call) (snapshot : Snapshot) :
    Calm s ({ s with grant := { s.grant with lastArmSnapshot := some snapshot } }.note
      (.armed call)) := by
  set granted : Authority := { s with grant := { s.grant with lastArmSnapshot := some snapshot } }
  have stillArming : granted.Arming call := arming
  refine Calm.trans s granted _ (.quiet rfl rfl rfl rfl rfl) ⟨?_, rfl⟩
  exact .single (.armed granted call stillArming.1 stillArming.2)

theorem armRegisteredSimExecution_calm (route : Route) (arming : s.Arming call) :
    (armRegisteredSimExecution host answers call route).Within Calm s := by
  refine .requireThen (.refl s) fun _ => .liftThen (.refl s) fun current _ => ?_
  refine .askThen (.refl s) fun _ _ => ?_
  split
  · exact .raise (.refl s)
  · exact .bind Calm.trans (.update (Calm.tolerant.freeze _ s)) fun _ _ _ => .raise (.refl _)
  · exact .bind Calm.trans (.update (Calm.tolerant.freeze _ s)) fun _ _ _ => .raise (.refl _)
  · refine .bind Calm.trans (.update (.quiet rfl rfl rfl rfl rfl)) fun _ s₄ held => ?_
    have held := update_eq_ok.mp held
    have stillArming : s₄.Arming call := by
      rw [held]
      exact arming
    refine .bind Calm.trans (.onError Calm.trans (Calm.tolerant.verifyAdmission ..)
      fun _ _ _ => Calm.tolerant.freezeAndDisarm _ _ _) fun snapshot s₅ verified => ?_
    obtain rfl := verifyAdmission_eq_ok (onError_eq_ok.mp verified)
    exact .update (armed_calm stillArming snapshot)

/-! ## Calls that are cut -/

/-- What a call under way can count on. -/
def PendingOk (s : Authority) : Prop :=
  match s.pending with
  | none => True
  | some (.arming call _) => s.Arming call
  | some (.ensuring call _) => s.Arming call
  | some (.checking _ _) => s.Steady
  | some (.entering _ _ _ _) => s.Steady

theorem pendingOk_of_none (pending : s.pending = none) : s.PendingOk := by
  unfold PendingOk
  rw [pending]
  trivial

/-- Others may only add to the journal. -/
theorem PendingOk.kept (ok : s.PendingOk) (pending : s'.pending = s.pending)
    (latches : s'.latches = s.latches) (journal : ∀ mark ∈ s.journal, mark ∈ s'.journal) :
    s'.PendingOk := by
  unfold PendingOk at ok ⊢
  rw [pending]
  unfold Arming Steady at ok ⊢
  rw [latches]
  split at ok
  · trivial
  iterate 2 · exact ⟨ok.1, journal _ ok.2⟩
  · exact ok
  · exact ok

/-- The section goes by moves; if it is cut, what is left can count on what it needs. -/
def Leads (s s' : Authority) : Prop :=
  ReflTransGen Move s s' ∧ (s.pending = none → s'.PendingOk)

theorem Calm.leads (calm : Calm s s') : Leads s s' :=
  ⟨calm.1, fun none => pendingOk_of_none (calm.2.trans none)⟩

theorem leads_bind {α β : Type} {x : Locked α} {f : α → Locked β} (first : x.Within Calm s)
    (rest : ∀ a s', x s = (.ok a, s') → (f a).Within Leads s') : (x >>= f).Within Leads s :=
  .bindThen (fun _ _ _ calm leads =>
    ⟨calm.1.trans leads.1, fun none => leads.2 (calm.2.trans none)⟩) (fun _ _ => Calm.leads) first rest

theorem suspend_leads (ok : (s.suspend pending).PendingOk) : Leads s (s.suspend pending) :=
  ⟨.single (.quiet rfl rfl rfl rfl), fun _ => ok⟩

/-- An arm call that has just passed its check. -/
theorem began_leads (armable : s.Armable)
    (ok : ((s.note (.armBegan call)).suspend pending).PendingOk) :
    Leads s ((s.note (.armBegan call)).suspend pending) :=
  ⟨.trans (.single (.began s call armable)) (suspend_leads ok).1, fun _ => ok⟩

theorem arming_noted (armable : s.Armable) (call : Nat) : (s.note (.armBegan call)).Arming call :=
  ⟨armable.1, List.mem_concat_self⟩

theorem beginArm_leads {pending : Nat → Pending} (s : Authority)
    (ok : ∀ call (s : Authority), s.Arming call → (s.suspend (pending call)).PendingOk) :
    (beginArm pending).Within Leads s := by
  refine leads_bind (Calm.tolerant.requireArmable s) fun _ s' passed => ?_
  obtain ⟨armable, rfl⟩ := requireArmable_eq_ok passed
  set numbered : Authority :=
    { s' with grant := { s'.grant with armCalls := s'.grant.armCalls + 1 } } with isNumbered
  have stillArmable : numbered.Armable := armable
  have began : Leads numbered ((numbered.note (.armBegan s'.grant.armCalls)).suspend
      (pending s'.grant.armCalls)) :=
    began_leads stillArmable (ok _ _ (arming_noted stillArmable _))
  have renumbered : Move s' numbered := .quiet rfl rfl rfl rfl
  exact ⟨.head renumbered began.1, began.2⟩

theorem ensureRegisteredSimArmFor_leads (route : Route) (arming : s.Arming call) :
    (ensureRegisteredSimArmFor host answers call route).Within Leads s := by
  have stays : ∀ s, Leads s s := fun s => (Calm.refl s).leads
  refine .liftThen (stays s) fun current _ => .askThen (stays s) fun _ _ => ?_
  refine .requireThen (stays s) fun _ => .readThen ?_
  split
  · exact Calm.leads ⟨.single (.armed s call arming.1 arming.2), rfl⟩
  · refine .liftThen (stays s) fun observed _ => ?_
    refine leads_bind (Calm.tolerant.releaseArmedGate host answers observed s) fun _ s _ => ?_
    refine .requireThen (stays s) fun _ => ?_
    refine leads_bind (Calm.tolerant.requireArmable s) fun _ s passed => ?_
    obtain ⟨armable, rfl⟩ := requireArmable_eq_ok passed
    exact began_leads armable (arming_noted armable call)

/-! ## Scopes -/

theorem beginCheck_leads (route : Route) (scope : Option ScopeRequest) (s : Authority) :
    (beginCheck route scope).Within Leads s := by
  refine leads_bind (Calm.tolerant.requireArmable s) fun _ s' passed => ?_
  obtain ⟨armable, rfl⟩ := requireArmable_eq_ok passed
  exact suspend_leads armable.1

theorem requireWrite_eq_ok (passed : requireWrite host answers route s = (.ok u, s')) : s' = s := by
  simp only [requireWrite, currentSession, bind_eq_ok, require_eq_ok,
    requireOr_eq_ok, lift_eq_ok, ask_eq_ok] at passed
  obtain ⟨_, _, ⟨-, rfl⟩, _, _, ⟨-, rfl⟩, _, _, ⟨-, rfl⟩, _, _, ⟨-, rfl⟩, _, _, ⟨-, rfl⟩, _, _,
    ⟨-, rfl⟩, _, _, ⟨-, rfl⟩, _, _, ⟨-, rfl⟩, _, _, ⟨-, rfl⟩, -, rfl⟩ := passed
  rfl

/-- A claimed target changes nothing but the targets. -/
theorem claimTarget_eq_ok {request : ScopeRequest} {identity : Identity} {target : Option Nat}
    (claimed : claimTarget host answers request identity s = (.ok target, s')) :
    s'.latches = s.latches := by
  unfold claimTarget at claimed
  cases asked : request.cancelTarget with
  | none =>
    simp only [asked, bind_eq_ok, require_eq_ok, pure_eq_ok] at claimed
    obtain ⟨_, _, ⟨-, rfl⟩, -, rfl⟩ := claimed
    rfl
  | some target =>
    simp only [asked] at claimed
    split at claimed
    · cases claimed
    cases target with
    | none => cases claimed
    | some target =>
      simp only [claimCancelTarget, bind_eq_ok, require_eq_ok, update_eq_ok, pure_eq_ok] at claimed
      obtain ⟨_, _, ⟨_, _, ⟨-, rfl⟩, _, _, ⟨-, rfl⟩, _, _, rfl, -, rfl⟩, -, rfl⟩ := claimed
      rfl

theorem prepareScope_leads (request : ScopeRequest) (steady : s.Steady) :
    (prepareScope host answers request).Within Leads s := by
  refine .liftThen (Calm.refl s).leads fun identity _ => ?_
  refine leads_bind (Calm.tolerant.claimTarget host answers request identity s) fun target s' claimed => ?_
  have stillSteady : s'.Steady := by
    unfold Steady
    rw [claimTarget_eq_ok claimed]
    exact steady
  exact suspend_leads stillSteady

theorem admitScope_calm (request : ScopeRequest) (identity : Identity) (stateRef : String)
    (target : Option Nat) (steady : s.Steady) :
    (admitScope request identity stateRef target).Within Calm s := by
  have discarded := Calm.tolerant.discardCancelTarget target s
  refine .requireOrThen (fun _ => discarded) fun resolved => ?_
  refine .requireOrThen (fun _ => discarded) fun _ => ?_
  have armable : s.Armable := ⟨steady, by simpa using resolved⟩
  exact .update ⟨.single (.admitted s request identity stateRef target armable), rfl⟩

theorem resume_leads (ok : (s.suspend pending).PendingOk) :
    (resume host answers pending).Within Leads s := by
  cases pending with
  | arming call route =>
    have arming : s.Arming call := ok
    exact (armRegisteredSimExecution_calm route arming).leads
  | ensuring call route =>
    have arming : s.Arming call := ok
    exact ensureRegisteredSimArmFor_leads route arming
  | checking route scope =>
    refine leads_bind (Calm.tolerant.requireWrite host answers route s) fun _ s' passed => ?_
    obtain rfl := requireWrite_eq_ok passed
    cases scope with
    | none => exact Calm.leads (.refl s')
    | some request => exact prepareScope_leads request ok
  | entering request identity stateRef target =>
    have steady : s.Steady := ok
    exact (admitScope_calm request identity stateRef target steady).leads

/-! ## Tickets -/

theorem tolerant_tickets :
    Tolerant fun s s' : Authority => s'.latches.tickets = s.latches.tickets where
  refl _ := rfl
  trans _ _ _ first second := second.trans first
  quiet _ latches _ _ _ _ := congrArg Latches.tickets latches
  freeze reason s := by
    unfold Authority.freeze
    split
    · rfl
    · rfl

theorem rememberOrderState_latches (state : OrderState) (s : Authority) :
    (s.rememberOrderState orderRef state).latches = s.latches := by
  obtain ⟨table, same⟩ := rememberOrderState_eq orderRef state s
  rw [same]

theorem rememberOrderState_journal (state : OrderState) (s : Authority) :
    (s.rememberOrderState orderRef state).journal = s.journal := by
  obtain ⟨table, same⟩ := rememberOrderState_eq orderRef state s
  rw [same]

theorem settleKnown_calm (identity : Identity) (s : Authority) :
    Calm s (s.settleKnown identity) ∧
      (s.settleKnown identity).latches.tickets = s.latches.tickets := by
  unfold settleKnown
  split
  · rename_i orderRef _ _
    refine ⟨(rememberOrderState_calm orderRef .active s).trans _ _ _ (trackOrderRef_calm _ _), ?_⟩
    exact congrArg Latches.tickets (rememberOrderState_latches orderRef .active s)
  · exact ⟨.refl s, rfl⟩

/-- Recording the evidence is the move; the rest is calm and leaves the tickets alone. -/
theorem finishDispatchTicket_calm (number : Nat) (ticket : Ticket) (code : Option Int)
    (errorType : Option String) (answer : DisarmAnswer) (s : Authority) :
    Calm (s.record number (evidenceOf number ticket code errorType))
        (s.finishDispatchTicket number ticket code errorType answer) ∧
      (s.finishDispatchTicket number ticket code errorType answer).latches.tickets =
        (s.finishTicket number).latches.tickets := by
  unfold finishDispatchTicket
  dsimp only
  split
  · rename_i known
    simp only [Authority.record, known, reduceCtorEq, if_false]
    exact settleKnown_calm ticket.identity _
  · rename_i unknown
    simp only [Authority.record, unknown, if_true]
    unfold settleUnknown
    dsimp only
    refine ⟨(rememberOrderState_calm _ _ _).trans _ _ _ (Calm.tolerant.freezeAndDisarm _ _ _), ?_⟩
    rw [tolerant_tickets.freezeAndDisarm, rememberOrderState_latches]
    rfl

section Found

variable (found : s.latches.tickets[number]? = some ticket)

include found

/-- An unfinished ticket belongs to an open scope. -/
theorem Inv.goingof_unfinished (inv : Inv s)
    (unfinished : ticket.finished = false) : s.Open number ticket := by
  refine ⟨found, ?_, unfinished⟩
  have shape := inv.trails number
  rw [found] at shape
  cases active : ticket.active with
  | true => rfl
  | false => simp [Trailed, unfinished, active] at shape

theorem finishTicket_found :
    (s.finishTicket number).latches.tickets[number]? = some { ticket with finished := true } := by
  change (s.latches.tickets.modify number _)[number]? = _
  rw [List.getElem?_modify, found]
  simp

theorem recordNativeReturn_calm (inv : Inv s) (value : Value) (answer : DisarmAnswer) :
    Calm s (recordNativeReturn number ticket value answer s).2 := by
  unfold recordNativeReturn
  split
  · exact .refl s
  rename_i unfinished
  have isOpen := inv.goingof_unfinished found (Bool.eq_false_iff.mpr unfinished)
  rw [if_neg (by simp [isOpen.2.1])]
  obtain ⟨calm, -⟩ := finishDispatchTicket_calm number ticket (codeOf value) none answer
    (s.note (.returned number value))
  have recorded : Calm s _ := ⟨.single (.returned s number ticket value isOpen), rfl⟩
  dsimp only
  split
  iterate 2 · exact recorded.trans _ _ _ calm

theorem recordPreDispatchRejection_calm (inv : Inv s) (error : Raised) (answers : Answers) :
    Calm s (recordPreDispatchRejection number ticket error answers s).2 := by
  unfold recordPreDispatchRejection
  split
  · exact .refl s
  rename_i unfinished
  have isOpen := inv.goingof_unfinished found (Bool.eq_false_iff.mpr unfinished)
  split
  · exact .refl s
  rw [if_neg (by simp [isOpen.2.1])]
  exact ⟨.single (.rejected s number ticket isOpen), rfl⟩

/-- When its scope ends, a ticket is finished. -/
theorem settleTicket_calm (active : ticket.active = true) (raised : Option Raised)
    (answers : Answers) :
    Calm s (s.settleTicket number ticket raised answers) ∧
      (s.settleTicket number ticket raised answers).latches.tickets[number]? =
        some { ticket with finished := true } := by
  unfold settleTicket
  split
  · rename_i finished
    refine ⟨.refl s, found.trans ?_⟩
    rw [← finished]
  rename_i unfinished
  have isOpen : s.Open number ticket := ⟨found, active, Bool.eq_false_iff.mpr unfinished⟩
  have abandoned : ∀ errorType,
      Calm s (s.finishDispatchTicket number ticket none (some errorType) answers.disarm) ∧
        (s.finishDispatchTicket number ticket none (some errorType)
          answers.disarm).latches.tickets[number]? = some { ticket with finished := true } := by
    intro errorType
    obtain ⟨calm, tickets⟩ :=
      finishDispatchTicket_calm number ticket none (some errorType) answers.disarm s
    refine ⟨Calm.trans s _ _ ⟨.single (.abandoned s number ticket errorType isOpen), rfl⟩ calm, ?_⟩
    rw [tickets]
    exact finishTicket_found found
  split
  · exact abandoned _
  · rename_i error
    unfold recordPreDispatchRejection
    rw [if_neg unfinished]
    split
    · rename_i rejected came
      split at came
      · cases came
      rw [if_neg (by simp [active])] at came
      obtain ⟨-, rfl⟩ := Prod.mk.inj came
      exact ⟨⟨.single (.rejected s number ticket isOpen), rfl⟩, finishTicket_found found⟩
    · exact abandoned _

theorem leaveScope_calm (active : ticket.active = true) (raised : Option Raised)
    (answers : Answers) : Calm s (s.leaveScope number ticket raised answers) := by
  obtain ⟨settled, finished⟩ := settleTicket_calm found active raised answers
  unfold Authority.leaveScope
  refine settled.trans _ _ _ ?_
  generalize s.settleTicket number ticket raised answers = s' at finished
  refine Calm.trans s' (s'.close number) _ ⟨.single (.ended s' number _ finished active rfl), rfl⟩ ?_
  unfold closeTicket
  cases ticket.target with
  | none | some target => exact .quiet rfl rfl rfl rfl rfl

end Found

/-! ## Runs -/

theorem withTicket_calm (thread number : Nat) {use : Ticket → Authority → Authority}
    (calm : ∀ ticket, s.latches.tickets[number]? = some ticket → Calm s (use ticket s)) :
    Calm s (s.withTicket thread number use) := by
  unfold withTicket
  split
  · rename_i ticket found
    split
    · exact calm ticket found
    · exact .refl s
  · exact .refl s

theorem perform_leads (host : Session.Host) (thread : Nat) (answers : Answers) (call : Call)
    (inv : Inv s) : Leads s (perform host thread answers call s) := by
  cases call with
  | configureArmTemplates templates => exact (Calm.tolerant.configureArmTemplates templates s).leads
  | armRegisteredSimExecution route | ensureRegisteredSimArmFor route =>
    exact beginArm_leads s fun _ _ arming => arming
  | disarmRegisteredSimExecution => exact (Calm.tolerant.disarmLocked answers.disarm s).leads
  | freezeRegisteredSimExecution reason =>
    exact ((Calm.tolerant.freeze reason s).trans _ _ _ (Calm.tolerant.disarmLocked answers.disarm _)).leads
  | requireWrite route => exact beginCheck_leads route none s
  | enterScope request =>
    exact Within.requireThen (Calm.refl s).leads fun _ => beginCheck_leads _ _ s
  | recordNativeReturn number value =>
    have calm : Calm s (s.withTicket thread number fun ticket s =>
        (recordNativeReturn number ticket value answers.disarm s).2) :=
      withTicket_calm thread number fun _ found =>
        recordNativeReturn_calm found inv value answers.disarm
    exact calm.leads
  | recordPreDispatchRejection number error =>
    have calm : Calm s (s.withTicket thread number fun ticket s =>
        (recordPreDispatchRejection number ticket error answers s).2) :=
      withTicket_calm thread number fun _ found =>
        recordPreDispatchRejection_calm found inv error answers
    exact calm.leads
  | leaveScope number raised =>
    refine Calm.leads (withTicket_calm thread number fun ticket found => ?_)
    split
    · rename_i active
      exact leaveScope_calm found active raised answers
    · exact .refl s
  | enterSession expected => exact (Calm.tolerant.enterSession thread expected answers s).leads
  | leaveSession => exact (Calm.tolerant.leaveSession s).leads
  | bindCancelTargetIssuer issuer issuerSeal =>
    exact (Calm.tolerant.bindCancelTargetIssuer issuer issuerSeal s).leads
  | registerCancelTarget target => exact (Calm.tolerant.registerCancelTarget host answers target s).leads
  | discardCancelTarget object => exact Calm.leads (.quiet rfl rfl rfl rfl rfl)
  | rememberOrderTerminal orderRef => exact (rememberOrderState_calm orderRef .terminal s).leads
  | orderEvidence operation reading =>
    exact (Calm.tolerant.orderEvidence host thread answers operation reading s).leads

theorem callbackEffect_moves (thread : Nat) (effect : CallbackEffect) (ok : s.PendingOk) :
    ReflTransGen Move s (effect.act thread s) ∧ (effect.act thread s).PendingOk := by
  cases effect with
  | ignored => exact ⟨.refl, ok⟩
  | remembered orderRef state =>
    change ReflTransGen Move s (if s.free thread then _ else s) ∧
      PendingOk (if s.free thread then _ else s)
    split
    · obtain ⟨table, same⟩ := rememberOrderState_eq orderRef state s
      rw [same]
      exact ⟨.single (.quiet rfl rfl rfl rfl), ok.kept rfl rfl fun _ mem => mem⟩
    · exact ⟨.refl, ok⟩
  | latched orderRef identityIncomplete =>
    refine ⟨.single (.latch s orderRef identityIncomplete), ok.kept rfl rfl fun mark mem => ?_⟩
    exact List.mem_append_left _ mem

/-- One event goes by moves, and what is left under way can count on what it needs. -/
theorem step_moves (host : Session.Host) (event : Event) (inv : Inv s) (ok : s.PendingOk) :
    ReflTransGen Move s (step host s event) ∧ (step host s event).PendingOk := by
  cases event with
  | call thread call answers =>
    unfold step
    dsimp only
    split
    · rename_i free
      have idle : s.pending = none := by
        simp only [Authority.free, Bool.and_eq_true, Option.isNone_iff_eq_none] at free
        exact free.1.1
      obtain ⟨moves, pendingOk⟩ := perform_leads host thread answers call inv
      exact ⟨moves, pendingOk idle⟩
    · exact ⟨.refl, ok⟩
  | proceed answers =>
    unfold step
    dsimp only
    split
    · rename_i pending underWay
      set idle : Authority := { s with pending := none } with isIdle
      have resumable : (idle.suspend pending).PendingOk := by
        refine ok.kept ?_ rfl fun _ mem => mem
        rw [underWay]
        rfl
      obtain ⟨moves, pendingOk⟩ := resume_leads resumable
      have waiting : Move s idle := .quiet rfl rfl rfl rfl
      exact ⟨.head waiting moves, pendingOk rfl⟩
    · exact ⟨.refl, ok⟩
  | callback thread payload known session =>
    exact callbackEffect_moves thread (observeOrderCallback payload known session) ok
  | trackOrderRef orderRef =>
    exact ⟨(trackOrderRef_calm orderRef s).1, ok.kept rfl rfl fun _ mem => mem⟩

theorem Inv.moves (moves : ReflTransGen Move s s') (inv : Inv s) : Inv s' := by
  induction moves with
  | refl => exact inv
  | tail _ move ih => exact ih.move move

theorem Move.limits (move : Move s s') : s'.limits = s.limits := by
  cases move with
  | quiet limits => exact limits
  | freeze reason =>
    unfold Authority.freeze
    split <;> rfl
  | _ => rfl

theorem moves_limits (moves : ReflTransGen Move s s') : s'.limits = s.limits := by
  induction moves with
  | refl => rfl
  | tail _ move ih => exact move.limits.trans ih

theorem run_moves (host : Session.Host) (limits : Limits) (events : List Event) :
    ReflTransGen Move { limits } (run host limits events) := by
  have steps : ∀ (events : List Event) {s : Authority}, Inv s → s.PendingOk →
      ReflTransGen Move s (events.foldl (step host) s) := by
    intro events
    induction events with
    | nil => exact fun _ _ => .refl
    | cons event rest ih =>
      intro s inv ok
      obtain ⟨moves, pendingOk⟩ := step_moves host event inv ok
      exact moves.trans (ih (inv.moves moves) pendingOk)
  exact steps events (inv_fresh limits) trivial

/-! ## The guarantee -/

/-- The evidence that was recorded for a ticket. -/
def evidencesOf (journal : List Mark) (number : Nat) : List Evidence := evidences (trail journal number)

theorem mem_trail {journal : List Mark} {mark : Mark} (about : mark.ticket? = some number) :
    mark ∈ journal ↔ mark ∈ trail journal number := by
  simp [trail, about]

/-- A trail is empty, or that of an active ticket, or that of a scope that has ended. -/
theorem Inv.trail_cases (inv : Inv s) (number : Nat) :
    trail s.journal number = [] ∨
      (∃ ticket, s.latches.tickets[number]? = some ticket ∧ ticket.active = true ∧
        Mark.ended number ∉ trail s.journal number) ∨
      ∃ settled, Settlement number settled ∧
        trail s.journal number = .admitted number :: settled ++ [.ended number] := by
  have shape := inv.trails number
  cases found : s.latches.tickets[number]? with
  | none =>
    rw [found] at shape
    exact .inl shape
  | some ticket =>
    rw [found] at shape
    unfold Trailed at shape
    cases finished : ticket.finished <;> cases active : ticket.active <;>
      simp only [finished, active] at shape
    case false.true => exact .inr (.inl ⟨ticket, rfl, active, by simp [shape]⟩)
    case true.true =>
      obtain ⟨settled, how, same⟩ := shape
      refine .inr (.inl ⟨ticket, rfl, active, ?_⟩)
      rw [same]
      cases how with
      | returned | abandoned | rejected => simp
    case true.false => exact .inr (.inr shape)

/-- The trail of a scope that has ended. -/
theorem Inv.ended_trail (inv : Inv s) (ended : .ended number ∈ s.journal) :
    ∃ settled, Settlement number settled ∧
      trail s.journal number = .admitted number :: settled ++ [.ended number] := by
  have mem : Mark.ended number ∈ trail s.journal number := (mem_trail rfl).mp ended
  rcases inv.trail_cases number with empty | ⟨_, _, _, unended⟩ | shape
  · rw [empty] at mem
    cases mem
  · exact absurd mem unended
  · exact shape

/-- A scope that was admitted and has not ended has an active ticket. -/
theorem Inv.admitted_active (inv : Inv s) (entered : .admitted number ∈ s.journal)
    (unended : .ended number ∉ s.journal) :
    ∃ ticket, s.latches.tickets[number]? = some ticket ∧ ticket.active = true := by
  have mem : Mark.admitted number ∈ trail s.journal number := (mem_trail rfl).mp entered
  rcases inv.trail_cases number with empty | ⟨ticket, found, active, _⟩ | ⟨settled, _, shape⟩
  · rw [empty] at mem
    cases mem
  · exact ⟨ticket, found, active⟩
  · have ended : Mark.ended number ∈ trail s.journal number := by
      rw [shape]
      exact List.mem_concat_self
    exact absurd ((mem_trail rfl).mpr ended) unended

/-- **Latches hold, and every scope leaves its evidence.**  In every run of calls, scopes and
callbacks:

* after an unknown outcome, a freeze or a latched callback no scope is admitted and no arm call
  passes its check; an arm that succeeds after it had passed its check before it, and what was
  latched is a callback;
* an admitted scope has a ticket that is active until the scope has ended, and leaving it ends it;
* a scope that has ended has exactly one evidence, known if and only if the native method
  returned the int 0 and otherwise unknown, or none and a verified rejection before dispatch;
* the history holds the latest evidence, up to its limit. -/
theorem latched_and_recorded (host : Session.Host) (limits : Limits) (events : List Event) :
    let s := run host limits events
    (∀ before latch after, s.journal = before ++ latch :: after → latch.isLatch = true →
      (∀ number, .admitted number ∉ after) ∧ (∀ call, .armBegan call ∉ after) ∧
        ∀ call, .armed call ∈ after → .armBegan call ∈ before ∧ latch = .callbackLatched) ∧
    (∀ number, .admitted number ∈ s.journal → .ended number ∉ s.journal →
      ∃ ticket, s.latches.tickets[number]? = some ticket ∧ ticket.active = true ∧
        (s.free ticket.thread = true → ∀ raised answers, .ended number ∈
          (step host s (.call ticket.thread (.leaveScope number raised) answers)).journal)) ∧
    (∀ number, .ended number ∈ s.journal →
      (.rejected number ∈ s.journal ∧ evidencesOf s.journal number = []) ∨
      (.rejected number ∉ s.journal ∧ ∃ evidence, evidencesOf s.journal number = [evidence] ∧
        (evidence.status = .known ↔ .returned number (.int 0) ∈ s.journal))) ∧
    s.latches.dispatchHistory =
      (evidences s.journal).drop ((evidences s.journal).length - limits.historyLimit) := by
  intro s
  have moves : ReflTransGen Move { limits } s := run_moves host limits events
  have inv : Inv s := (inv_fresh limits).moves moves
  refine ⟨fun before latch after split isLatch => ?_, fun number entered unended => ?_,
    fun number ended => ?_, ?_⟩
  · have order := inv.order
    rw [split] at order
    obtain ⟨-, tail, -⟩ := List.pairwise_append.mp order
    have allows := (List.pairwise_cons.mp tail).1
    have noEntry : ∀ mark ∈ after, mark.isEntry = false := fun mark mem => (allows mark mem).1 isLatch
    refine ⟨fun number mem => ?_, fun call mem => ?_, fun call mem => ?_⟩
    iterate 2 · cases noEntry _ mem
    · have soft : latch.isHardLatch ≠ true := fun hard => (allows _ mem).2 hard call rfl
      have callback : latch = .callbackLatched := by
        cases latch with
        | callbackLatched => rfl
        | _ => exact absurd isLatch soft
      refine ⟨?_, callback⟩
      obtain ⟨front, back, rfl⟩ := List.append_of_mem mem
      obtain ⟨earlier, found, rfl⟩ := inv.preceded (before ++ latch :: front) (.armed call) back
        (by rw [split, List.append_assoc, List.cons_append]) ⟨_, rfl⟩
      rcases List.mem_append.mp found with here | rest
      · exact here
      rcases List.mem_cons.mp rest with same | inFront
      · rw [callback] at same
        cases same
      · cases noEntry _ (List.mem_append_left _ inFront)
  · obtain ⟨ticket, found, active⟩ := inv.admitted_active entered unended
    refine ⟨ticket, found, active, fun free raised answers => ?_⟩
    -- leaving a scope ends it, whatever was raised in it
    have left : step host s (.call ticket.thread (.leaveScope number raised) answers) =
        s.leaveScope number ticket raised answers := by
      simp [step, free, perform, withTicket, found, active]
    rw [left]
    exact List.mem_append_right _ (List.mem_singleton.mpr rfl)
  · obtain ⟨settled, how, shape⟩ := inv.ended_trail ended
    have rejections : Mark.rejected number ∈ s.journal ↔ _ := mem_trail rfl
    have returns : Mark.returned number (.int 0) ∈ s.journal ↔ _ := mem_trail rfl
    rw [rejections, returns]
    unfold evidencesOf
    rw [shape]
    cases how with
    | returned ticket value =>
      refine .inr ⟨by simp, _, rfl, ?_⟩
      rw [evidenceOf_status]
      cases value with
      | int code => simp [codeOf, eq_comm]
      | _ => simp [codeOf]
    | abandoned ticket errorType =>
      refine .inr ⟨by simp, _, rfl, ?_⟩
      rw [evidenceOf_status]
      simp
    | rejected => exact .inl ⟨by simp, rfl⟩
  · rw [inv.history, moves_limits moves]

end Authority

end BtApiCtp.Dispatch
