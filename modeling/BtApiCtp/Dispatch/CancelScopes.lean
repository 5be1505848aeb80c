/-
# Dispatch.CancelScopes -- what a rejected cancel scope was

The authority decides from the exception of a scope's body whether the cancel was rejected
before dispatch, and asks the client for its evidence.  Here both run together: the submissions
of `Submission.Entries` and the authority, whose question is answered by the client's books.

A scope is closed as rejected only if the native method was not entered for it
(`rejected_scope_unsent`), as long as its own cancel is not sent with a lease.  A leased call
enters the native method, raises the same error for a result other than 0 and leaves no evidence;
its scope is closed as rejected (`leased_cancel_rejected`).
-/
import BtApiCtp.Dispatch.OrderStates
import BtApiCtp.Submission.Entries

namespace BtApiCtp.Dispatch

open Python Theory
open Submission (Client NativeCall Recorded Chance Sending Disturbance desk leasedCancel
  submitWithManagedNativeCallLease)

variable {number other thread : Nat} {answers : Answers} {s : Authority} {ticket : Ticket}
  {host : Session.Host}

/-! ## Only a verified rejection is noted -/

namespace Authority

/-- The ticket that a call asks about, and the error. -/
def Call.judged : Call → Option (Nat × Raised)
  | .recordPreDispatchRejection number error | .leaveScope number (some error) =>
    some (number, error)
  | _ => none

/-- This call may note the rejection of this ticket. -/
def Verifies (s : Authority) (call : Call) (answers : Answers) (number : Nat) : Prop :=
  ∃ ticket error, call.judged = some (number, error) ∧
    s.latches.tickets[number]? = some ticket ∧
    isVerifiedPreDispatchRejection ticket error answers = true

theorem recordPreDispatchRejection_rejected {error : Raised}
    (before : .rejected other ∉ s.journal)
    (after : .rejected other ∈ (recordPreDispatchRejection number ticket error answers s).2.journal) :
    other = number ∧ isVerifiedPreDispatchRejection ticket error answers = true := by
  unfold recordPreDispatchRejection at after
  split at after
  · exact absurd after before
  split at after
  · exact absurd after before
  rename_i verified
  split at after
  · exact absurd after before
  · rcases mem_snoc.mp after with old | new
    · exact absurd old before
    · exact ⟨Mark.rejected.inj new, by simpa using verified⟩

theorem leaveScope_rejected {raised : Option Raised} (before : .rejected other ∉ s.journal)
    (after : .rejected other ∈ (s.leaveScope number ticket raised answers).journal) :
    other = number ∧ ∃ error, raised = some error ∧
      isVerifiedPreDispatchRejection ticket error answers = true := by
  have settled : .rejected other ∈ (s.settleTicket number ticket raised answers).journal := by
    unfold Authority.leaveScope closeTicket at after
    rcases mem_snoc.mp after with old | new
    · cases isTarget : ticket.target with
      | none | some target => simpa [isTarget, discardCancelTarget, setTicket] using old
    · cases new
  unfold settleTicket at settled
  split at settled
  · exact absurd settled before
  split at settled
  · exact absurd ((finishDispatchTicket_tabled ..).2 other settled) before
  · rename_i error
    split at settled
    · rename_i rejected came
      rw [show rejected = (recordPreDispatchRejection number ticket error answers s).2 by
        rw [came]] at settled
      obtain ⟨same, verified⟩ := recordPreDispatchRejection_rejected before settled
      exact ⟨same, error, rfl, verified⟩
    · exact absurd ((finishDispatchTicket_tabled ..).2 other settled) before

theorem withTicket_rejected {use : Ticket → Authority → Authority}
    (before : .rejected number ∉ s.journal)
    (after : .rejected number ∈ (s.withTicket thread other use).journal) :
    ∃ ticket, s.latches.tickets[other]? = some ticket ∧
      .rejected number ∈ (use ticket s).journal := by
  unfold withTicket at after
  split at after
  · rename_i ticket found
    split at after
    · exact ⟨ticket, found, after⟩
    · exact absurd after before
  · exact absurd after before

theorem perform_rejected {call : Call} (before : .rejected number ∉ s.journal)
    (after : .rejected number ∈ (perform host thread answers call s).journal) :
    Verifies s call answers number := by
  cases plain : call.plain with
  | true => exact absurd ((perform_still host thread answers plain s).unrejected number after) before
  | false =>
    cases call with
    | recordNativeReturn other value =>
      obtain ⟨ticket, -, noted⟩ := withTicket_rejected before after
      exact absurd ((recordNativeReturn_tabled ..).2 number noted) before
    | recordPreDispatchRejection other error =>
      obtain ⟨ticket, found, noted⟩ := withTicket_rejected before after
      obtain ⟨rfl, verified⟩ := recordPreDispatchRejection_rejected before noted
      exact ⟨ticket, error, rfl, found, verified⟩
    | leaveScope other raised =>
      obtain ⟨ticket, found, noted⟩ := withTicket_rejected before after
      split at noted
      · obtain ⟨rfl, error, rfl, verified⟩ := leaveScope_rejected before noted
        exact ⟨ticket, error, rfl, found, verified⟩
      · exact absurd noted before
    | rememberOrderTerminal orderRef =>
      change .rejected number ∈ (s.rememberOrderState orderRef .terminal).journal at after
      rw [rememberOrderState_journal] at after
      exact absurd after before
    | _ => cases plain

theorem act_rejected (effect : CallbackEffect)
    (after : .rejected number ∈ (effect.act thread s).journal) : .rejected number ∈ s.journal := by
  cases effect with
  | ignored => exact after
  | remembered orderRef state =>
    simp only [CallbackEffect.act] at after
    split at after
    · rwa [rememberOrderState_journal] at after
    · exact after
  | latched orderRef identityIncomplete =>
    rcases mem_snoc.mp after with old | new
    · exact old
    · cases new

/-- **Only a verified rejection is noted**, by whatever event. -/
theorem step_rejected {event : Event} (before : .rejected number ∉ s.journal)
    (after : .rejected number ∈ (step host s event).journal) :
    ∃ thread call answers, event = .call thread call answers ∧ Verifies s call answers number := by
  cases event with
  | call thread call answers =>
    refine ⟨thread, call, answers, rfl, ?_⟩
    simp only [step] at after
    split at after
    · exact perform_rejected before after
    · exact absurd after before
  | proceed answers =>
    simp only [step] at after
    split at after
    · rename_i pending found
      have still := resume_still host answers pending { s with pending := none }
      exact absurd (still.unrejected number after) before
    · exact absurd after before
  | callback thread payload known session =>
    exact absurd (act_rejected (observeOrderCallback payload known session) after) before
  | trackOrderRef orderRef => exact absurd after before

end Authority

open Authority

/-! ## The client's answer -/

variable (client : Client)

/-- `get_order_action_evidence(request_id, order_action_ref=…)` for a dispatch identity. -/
def actionEvidence (identity : Identity) : Option BtApiCtp.Answers.Evidence :=
  match identity.orderActionRef with
  | some ref => client.getOrderActionEvidence identity.requestId (toString ref)
  | none =>
    match client.books.actions.history.items.filter (·.1.1 = identity.requestId) with
    | [found] => some found.2
    | _ => none

/-- The key of this action. -/
def KeyOf (identity : Identity) (key : BtApiCtp.Answers.RequestKey) : Prop :=
  key.1 = identity.requestId ∧
    ∀ ref, identity.orderActionRef = some ref → key.2 = toString ref

/-- The native method was entered for this action. -/
def EnteredFor (identity : Identity) (call : NativeCall) : Prop :=
  call.kind = .action ∧ KeyOf identity call.key

/-- What was sent is found. -/
theorem actionEvidence_isSome {client : Client} {identity : Identity}
    (recorded : Recorded (KeyOf identity) client) {call : NativeCall}
    (mem : call ∈ client.nativeCalls) (entered : EnteredFor identity call) :
    (actionEvidence client identity).isSome = true := by
  have onBooks : call.key ∈ client.books.actions.history :=
    recorded.found mem entered.1 entered.2
  obtain ⟨action, number, reference⟩ := entered
  unfold actionEvidence
  split
  · rename_i ref isRef
    have key : (identity.requestId, toString ref) = call.key := by
      rw [← number, ← reference ref isRef]
    unfold Submission.Client.getOrderActionEvidence
    rw [key]
    exact AList.lookup_isSome.mpr onBooks
  · obtain ⟨evidence, found⟩ := Option.isSome_iff_exists.mp (AList.lookup_isSome.mpr onBooks)
    have only : client.books.actions.history.items.filter (·.1.1 = identity.requestId) =
        [(call.key, evidence)] := by
      refine Dict.items_filter_eq_singleton found (by simpa using number) fun key value here same => ?_
      exact recorded.unique key (AList.lookup_isSome.mp (Option.isSome_of_eq_some here)) call.key
        onBooks ((by simpa using same : key.1 = identity.requestId).trans number.symm)
    rw [only]
    rfl

/-! ## Both together -/

structure Floor where
  pool : Pool Client Chance Trader.Exn Nat
  authority : Authority

inductive Happening where
  | client (event : Theory.Event Chance Nat Unit (Nat × Sending) Disturbance)
  | authority (event : Authority.Event)

/-- The client finds nothing for the ticket that a call asks about. -/
def absentFor (s : Authority) (call : Call) : Bool :=
  match call.judged with
  | none => true
  | some (number, _) =>
    s.latches.tickets[number]?.all fun ticket => (actionEvidence client ticket.identity).isNone

/-- The authority's question is answered from the books. -/
def informed (s : Authority) : Authority.Event → Authority.Event
  | .call thread call answers => .call thread call { answers with
      actionEvidenceAbsent := answers.actionEvidenceAbsent && absentFor client s call }
  | event => event

def Floor.next (host : Session.Host) (floor : Floor) : Happening → Floor
  | .client event => { floor with pool := desk.next floor.pool event }
  | .authority event => { floor with
      authority := step host floor.authority (informed floor.pool.shared floor.authority event) }

/-- A new client and a new authority. -/
def Floor.fresh (scope : BtApiCtp.Answers.Scope) (limits : Limits) : Floor where
  pool := { shared := Submission.Client.fresh scope }
  authority := { limits }

def Floor.run (host : Session.Host) (floor : Floor) (happenings : List Happening) : Floor :=
  happenings.foldl (Floor.next host) floor

/-- The key of a cancel that is sent with a lease. -/
def Happening.leased : Happening → Option BtApiCtp.Answers.RequestKey
  | .client event => leasedCancel event
  | .authority _ => none

/-! ## Runs -/

/-- Without leased cancels under some keys the client's books of these stay in order. -/
theorem run_recorded {Own : BtApiCtp.Answers.RequestKey → Prop} (host : Session.Host)
    (happenings : List Happening) {floor : Floor} (recorded : Recorded Own floor.pool.shared)
    (guarded : System.Guarded (Recorded Own) (Submission.Spares Own) (Submission.Considerate Own)
      floor.pool)
    (direct : ∀ happening ∈ happenings, ∀ key, happening.leased = some key → ¬ Own key) :
    Recorded Own (floor.run host happenings).pool.shared := by
  induction happenings generalizing floor with
  | nil => exact recorded
  | cons happening happenings ih =>
    have here := direct happening List.mem_cons_self
    have later := fun other mem => direct other (List.mem_cons_of_mem _ mem)
    cases happening with
    | client event =>
      obtain ⟨kept, safe, -⟩ := Submission.desk_sound.next recorded guarded event here
      exact ih kept safe later
    | authority event => exact ih recorded guarded later

/-- A scope that is closed as rejected before dispatch is that of a cancel; and where its own
cancel is not sent with a lease, the native method was not entered for it. -/
theorem rejected_scope_unsent (host : Session.Host) (scope : BtApiCtp.Answers.Scope)
    (limits : Limits) (happenings : List Happening) (happening : Happening) (number : Nat) :
    let floor := (Floor.fresh scope limits).run host happenings
    .rejected number ∉ floor.authority.journal →
    .rejected number ∈ (floor.next host happening).authority.journal →
    ∃ ticket, floor.authority.latches.tickets[number]? = some ticket ∧
      ticket.identity.operation = .cancel ∧
      ((∀ happening ∈ happenings, ∀ key, happening.leased = some key →
          ¬ KeyOf ticket.identity key) →
        ∀ call ∈ floor.pool.shared.nativeCalls, ¬ EnteredFor ticket.identity call) := by
  intro floor before after
  cases happening with
  | client event => exact absurd after before
  | authority event =>
    obtain ⟨thread, call, answers, isCall, ticket, error, judged, found, verified⟩ :=
      step_rejected before after
    cases event with
    | call thread' call' answers' =>
      obtain ⟨-, rfl, rfl⟩ := Event.call.inj isCall
      simp only [isVerifiedPreDispatchRejection, Bool.and_eq_true, decide_eq_true_eq] at verified
      obtain ⟨⟨⟨isCancel, -⟩, -⟩, -, absent⟩ := verified
      refine ⟨ticket, found, isCancel, fun direct call mem entered => ?_⟩
      have recorded : Recorded (KeyOf ticket.identity) floor.pool.shared :=
        run_recorded host happenings (Submission.recorded_fresh scope) System.guarded_nil direct
      have present := actionEvidence_isSome recorded mem entered
      simp only [absentFor, judged, found, Option.all_some, Option.isNone_iff_eq_none] at absent
      rw [absent] at present
      cases present
    | _ => cases isCall

/-! ## Sample scopes -/

def sampleSession : SessionIdentity where
  accountFingerprint := "ab"
  connectionGeneration := 1
  tradingDay := "20260105"
  readOnlyReady := true
  tradingReady := true
  ids := none

/-- An armed gate. -/
def sampleGate : Value :=
  .mapping "dict" [(.str "managed", .bool true), (.str "armed", .bool true),
    (.str "instrument", .str "SHFE.RB2605"), (.str "connection_generation", .int 1),
    (.str "trading_day", .str "20260105"),
    (.str "proof_sha256", .str (String.ofList (List.replicate 64 'a'))),
    (.str "environment_profile", .str "sim"), (.str "revocation_reason", .none)]

def sampleAnswers : Answers where
  session _ := some sampleSession
  gate _ := some sampleGate
  arm := .admitted 0 sampleGate
  requireWrite := .passed
  disarm := .unavailable
  monotonic := 0
  deadlineContract := true
  actionEvidenceAbsent := true

/-- Request 7 cancels order 12. -/
def sampleScope : ScopeRequest where
  thread := 0
  instrumentId := "RB2605"
  exchangeId := "SHFE"
  orderRef := some "12"
  operation := some (some .cancel)
  requestId := .int 7
  dispatchIdentity := .mapping "dict" [(.str "instrument_id", .str "RB2605"),
    (.str "exchange_id", .str "SHFE"), (.str "order_ref", .str "12"),
    (.str "order_action_ref", .int 7), (.str "action_flag", .str "0")]
  cancelTarget := none

def gateError : Raised where
  typeName := "CtpExecutionGateError"
  gateError := true
  isException := true

/-- A scope for request 7 is open, on a client with this ingress. -/
def opened (callbackIngress : Bool) : List Happening :=
  [.client (.env (.session (some 0) callbackIngress Submission.sampleClient.scope)),
    .authority (.call 0 (.armRegisteredSimExecution ("RB2605", "SHFE")) sampleAnswers),
    .authority (.proceed sampleAnswers), .authority (.call 0 (.enterScope sampleScope) sampleAnswers),
    .authority (.proceed sampleAnswers), .authority (.proceed sampleAnswers)]

/-- Its body raises the error of a gate. -/
def failed : Happening := .authority (.call 0 (.leaveScope 0 (some gateError)) sampleAnswers)

/-- The deadline of a cancel passes before it is entered. -/
def lateCancel : List Happening :=
  .client (.start (1, .direct (.action Submission.sampleCancel))) ::
    [0, 0, 0, 1, 1, 1].map fun time => .client (.step 1 { monotonic := time })

/-- Its scope is closed as rejected. -/
theorem late_cancel_unsent : ∃ ticket,
    ((Floor.fresh Submission.sampleClient.scope (keeping 1)).run plainHost
      (opened false ++ lateCancel)).authority.latches.tickets[0]? = some ticket ∧
    ticket.identity.operation = .cancel ∧
    ∀ call ∈ ((Floor.fresh Submission.sampleClient.scope (keeping 1)).run plainHost
      (opened false ++ lateCancel)).pool.shared.nativeCalls, ¬ EnteredFor ticket.identity call := by
  have direct : ∀ happening ∈ opened false ++ lateCancel, happening.leased = none := by decide
  have journal : ((Floor.fresh Submission.sampleClient.scope (keeping 1)).run plainHost
      (opened false ++ lateCancel)).authority.journal = [.armBegan 0, .armed 0, .admitted 0] := rfl
  obtain ⟨ticket, found, isCancel, unsent⟩ := rejected_scope_unsent plainHost
    Submission.sampleClient.scope (keeping 1) (opened false ++ lateCancel) failed 0
    (by rw [journal]; simp) (List.mem_of_getElem? (i := 3) rfl)
  refine ⟨ticket, found, isCancel, unsent fun happening mem key leased => ?_⟩
  rw [direct happening mem] at leased
  cases leased

/-- The native method refuses a cancel that is sent with a lease. -/
def refused : Chance := { native := .ok (.int (-1)) }

def leasedCall : List Happening :=
  .client (.start (1, .leased .action (7, "7"))) ::
    List.replicate 3 (.client (.step 1 refused))

/-- The leased call entered the native method and raised the error of a gate, and the scope that
it was made for is closed as rejected before dispatch. -/
theorem leased_cancel_rejected :
    let before := (Floor.fresh Submission.sampleClient.scope (keeping 1)).run plainHost (opened true)
    let floor := before.run plainHost leasedCall
    (Prog.run (List.replicate 3 refused)
        (submitWithManagedNativeCallLease ⟨1, .action, (7, "7")⟩) before.pool.shared).map Prod.fst =
      some (.error (.executionGate "ctp_managed_native_call_result_ambiguous")) ∧
    .rejected 0 ∉ floor.authority.journal ∧
    .rejected 0 ∈ (floor.next plainHost failed).authority.journal ∧
    ∃ ticket, floor.authority.latches.tickets[0]? = some ticket ∧
      ticket.identity.operation = .cancel ∧
      ∃ call ∈ floor.pool.shared.nativeCalls, EnteredFor ticket.identity call := by
  intro before floor
  have journal : floor.authority.journal = [.armBegan 0, .armed 0, .admitted 0] := rfl
  have calls : floor.pool.shared.nativeCalls = [⟨1, .action, (7, "7")⟩] := rfl
  refine ⟨rfl, by rw [journal]; simp, List.mem_of_getElem? (i := 3) rfl, _, rfl, rfl,
    ⟨1, .action, (7, "7")⟩, calls ▸ List.mem_singleton_self _, rfl, rfl, fun ref isRef => ?_⟩
  cases isRef
  rfl

end BtApiCtp.Dispatch
