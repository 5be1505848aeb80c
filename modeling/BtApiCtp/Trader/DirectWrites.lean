/-
# Trader.DirectWrites -- what a direct write may say about itself

* `report_honest_iff_plain`: what each outcome of the native method is reported as.  A write
  is reported as not sent only if it was not entered or was refused with a nonzero `int`, and
  any other is reported as sent or as unknown, if and only if the native method does not
  raise and, for a cancel, returns an `int` or something that equals zero.
* `cancel_names_target_iff`: a cancel names the target's own identity, unless it goes by a
  session with a front or session number of zero, which the feed fills in from the login, or
  by a text with blanks around it, which the provider strips.
-/
import BtApiCtp.Trader.Calls

namespace BtApiCtp.Trader

open Theory Python

variable {e : Exn} {target : NativeOrderIdentity} {named : CancelTarget}
  {outcome : Except Exn NativeValue} {value : NativeValue}

/-! ## What a write is reported as -/

/-- The exception says that the outcome is unknown. -/
def Exn.tellsUnknown : Exn → Bool
  | .directWrite code _ => code = "ctp_direct_submit_outcome_unknown"
  | _ => false

/-- What the caller of a write learns of it. -/
inductive Report where
  | sent
  | notSent
  | outcomeUnknown
  /-- An exception that says nothing about the outcome. -/
  | raised (e : Exn)
  deriving DecidableEq

def report : Except Exn DirectSubmitResult → Report
  | .ok result => if result.sent then .sent else .notSent
  | .error e => if e.tellsUnknown then .outcomeUnknown else .raised e

/-- The native method returned a nonzero integer. -/
def refused : Except Exn NativeValue → Bool
  | .ok (.int code) => code != 0
  | _ => false

/-- The native method was never entered, or it returned a nonzero integer. -/
def Desk.NotTaken (caller : Nat) (s : Desk) : Prop :=
  ∀ call ∈ s.callsOf caller, refused call.outcome = true

instance (caller : Nat) (s : Desk) : Decidable (s.NotTaken caller) :=
  inferInstanceAs (Decidable (∀ call ∈ s.callsOf caller, _))

/-- A write is reported as not sent only if it was not taken, and as sent or as unknown
otherwise. -/
def Honest (caller : Nat) (result : Except Exn DirectSubmitResult) (s : Desk) : Prop :=
  (report result = .notSent → s.NotTaken caller) ∧
    (¬ s.NotTaken caller → report result = .sent ∨ report result = .outcomeUnknown)

/-- An exception that leaves the feed, whether or not the native method was entered. -/
def raisedReport (e : Exn) : Report :=
  if e.isRefusal then .notSent else report (.error e)

/-- What each outcome of `ReqOrderInsert` is reported as. -/
def insertReport : Except Exn NativeValue → Report
  | .ok (.int code) => if code = 0 then .sent else .notSent
  | .ok _ => .outcomeUnknown
  | .error (.outcomeUnknown _ _ _) => .outcomeUnknown
  | .error e => raisedReport e

/-- What each outcome of `ReqOrderAction` is reported as. -/
def cancelReport : Except Exn NativeValue → Report
  | .error e => raisedReport e
  | .ok value =>
    match value.submitCode, value.equalsZero with
    | .error e, _ => raisedReport e
    | .ok _, .error e => raisedReport e
    | .ok _, .ok zero => if zero then .sent else .notSent

/-- `ReqOrderInsert` does not raise, unless to say that the outcome is unknown. -/
def insertPlain : Except Exn NativeValue → Bool
  | .ok _ => true
  | .error (.outcomeUnknown _ _ _) => true
  | .error e => e.tellsUnknown

/-- Nor does `ReqOrderAction`, nor does the value it returns; and a value that is not an
`int` equals zero. -/
def cancelPlain : Except Exn NativeValue → Bool
  | .error e => e.tellsUnknown
  | .ok (.int _) => true
  | .ok value =>
    match value.submitCode, value.equalsZero with
    | .error e, _ => e.tellsUnknown
    | .ok _, .error e => e.tellsUnknown
    | .ok _, .ok zero => zero

/-- A write that made no call is not reported as sent, and one that made a call is reported by
what came of it. -/
def Reported (table : Except Exn NativeValue → Report) (caller : Nat)
    (result : Except Exn DirectSubmitResult) (s : Desk) : Prop :=
  (s.callsOf caller = [] ∧ report result ≠ .sent) ∨
    ∃ call, s.callsOf caller = [call] ∧ report result = table call.outcome

variable {caller : Nat} {plain : Except Exn NativeValue → Bool}
  {table : Except Exn NativeValue → Report} {result : Except Exn DirectSubmitResult} {s : Desk}

theorem report_error_ne_sent : report (.error e) ≠ .sent := by
  simp only [report]
  split <;> simp

theorem reported_of_none (made : s.Made caller none) (unsent : report result ≠ .sent) :
    Reported table caller result s :=
  .inl ⟨made, unsent⟩

theorem reported_of_one (made : s.Made caller (some outcome))
    (told : report result = table outcome) : Reported table caller result s := by
  obtain ⟨call, one, rfl⟩ := made
  exact .inr ⟨call, one, told⟩

theorem report_submitResult_error (identity : NativeOrderIdentity) :
    report (submitResult identity (.error e)) = insertReport (.error e) := by
  cases e <;> rfl

theorem report_cancelResult_error (target : NativeOrderIdentity) :
    report (cancelResult target (.error e)) = raisedReport e := by
  cases e <;> rfl

theorem submitResult_reported (identity : NativeOrderIdentity) (answer : Except Exn Bool)
    (onOk : ∀ status, answer = .ok status → s.Placed caller status)
    (onError : ∀ e, answer = .error e → s.NotPlaced caller e) :
    Reported insertReport caller (submitResult identity answer) s := by
  cases answer with
  | ok status =>
    rcases onOk status rfl with ⟨made, rfl⟩ | ⟨code, made, rfl⟩
    · exact reported_of_none made (by simp [submitResult, report])
    · apply reported_of_one made
      by_cases zero : code = 0
      · simp [submitResult, report, insertReport, zero]
      · simp [submitResult, report, insertReport, zero, beq_eq_false_iff_ne.mpr zero]
  | error e =>
    rcases onError e rfl with (made | made) | ⟨value, _, _, _, notInt, rfl, made⟩
    · apply reported_of_none made
      rw [report_submitResult_error]
      cases e <;> simp [insertReport, raisedReport, Exn.isRefusal, report_error_ne_sent]
    · exact reported_of_one made (report_submitResult_error identity)
    · apply reported_of_one made
      cases value with
      | int code => simp [NativeValue.exactInt] at notInt
      | none | object name toInt equalsZero =>
        simp [submitResult, report, insertReport, Exn.tellsUnknown]

theorem cancelResult_reported (target : NativeOrderIdentity) (answer : Except Exn Bool)
    (onOk : ∀ status, answer = .ok status → s.Cancelled caller status)
    (onError : ∀ e, answer = .error e → s.NotCancelled caller e) :
    Reported cancelReport caller (cancelResult target answer) s := by
  cases answer with
  | ok status =>
    rcases onOk status rfl with ⟨made, rfl⟩ | ⟨value, ⟨code, read⟩, zero, made⟩
    · exact reported_of_none made (by simp [cancelResult, report])
    · apply reported_of_one made
      cases status <;> simp [cancelResult, report, cancelReport, read, zero]
  | error e =>
    have told := report_cancelResult_error (e := e) target
    rcases onError e rfl with
      ((made | made) | ⟨value, raised, made⟩) | ⟨value, ⟨code, read⟩, raised, made⟩
    · apply reported_of_none made
      rw [told, raisedReport]
      split
      · simp
      · exact report_error_ne_sent
    · exact reported_of_one made told
    · exact reported_of_one made (by rw [told]; simp [cancelReport, raised])
    · exact reported_of_one made (by rw [told]; simp [cancelReport, read, raised])

/-- The report is right exactly when every call is one that the table gets right. -/
theorem Reported.honest_iff (reported : Reported table caller result s)
    (right : ∀ outcome, plain outcome = true ↔ refused outcome = true ∨
      table outcome = .sent ∨ table outcome = .outcomeUnknown) :
    Honest caller result s ↔ ∀ call ∈ s.callsOf caller, plain call.outcome = true := by
  rcases reported with ⟨none, _⟩ | ⟨call, one, told⟩
  · simp [Honest, Desk.NotTaken, none]
  · simp only [Honest, Desk.NotTaken, one, List.mem_singleton, forall_eq, told, right]
    constructor
    · rintro ⟨_, taken⟩
      exact (Classical.em _).imp_right taken
    · rintro (was | sent | unknown)
      · exact ⟨fun _ => was, fun not => absurd was not⟩
      · exact ⟨fun unsent => by simp [sent] at unsent, fun _ => .inl sent⟩
      · exact ⟨fun unsent => by simp [unknown] at unsent, fun _ => .inr unknown⟩

theorem raisedReport_sent_or_unknown :
    (raisedReport e = .sent ∨ raisedReport e = .outcomeUnknown) ↔ e.tellsUnknown = true := by
  cases e with
  | directWrite code detail =>
    by_cases same : code = "ctp_direct_submit_outcome_unknown" <;>
      simp [raisedReport, report, Exn.isRefusal, Exn.tellsUnknown, same]
  | _ => simp [raisedReport, report, Exn.isRefusal, Exn.tellsUnknown]

theorem insertPlain_iff (outcome : Except Exn NativeValue) :
    insertPlain outcome = true ↔ refused outcome = true ∨
      insertReport outcome = .sent ∨ insertReport outcome = .outcomeUnknown := by
  cases outcome with
  | ok value =>
    cases value with
    | int code => by_cases zero : code = 0 <;> simp [insertPlain, refused, insertReport, zero]
    | none | object name toInt equalsZero => simp [insertPlain, insertReport]
  | error e =>
    cases e with
    | outcomeUnknown clientOrderId requestId typeName => simp [insertPlain, insertReport]
    | _ =>
      simp only [insertPlain, insertReport, refused, raisedReport_sent_or_unknown,
        Bool.false_eq_true, false_or]

theorem cancelPlain_iff (outcome : Except Exn NativeValue) :
    cancelPlain outcome = true ↔ refused outcome = true ∨
      cancelReport outcome = .sent ∨ cancelReport outcome = .outcomeUnknown := by
  cases outcome with
  | error e => simp [cancelPlain, cancelReport, refused, raisedReport_sent_or_unknown]
  | ok value =>
    cases value with
    | none => simp [cancelPlain, refused, cancelReport, NativeValue.submitCode,
        NativeValue.equalsZero]
    | int code =>
      by_cases zero : code = 0 <;> simp [cancelPlain, refused, cancelReport,
        NativeValue.submitCode, NativeValue.equalsZero, zero]
    | object name toInt equalsZero =>
      simp only [cancelPlain, refused, cancelReport, NativeValue.equalsZero,
        Bool.false_eq_true, false_or]
      cases (NativeValue.object name toInt equalsZero).submitCode with
      | error e => exact raisedReport_sent_or_unknown.symm
      | ok code =>
        cases equalsZero with
        | error e => exact raisedReport_sent_or_unknown.symm
        | ok zero => cases zero <;> simp

theorem reported_of_ends {p : Action DirectSubmitResult} {s' : Desk}
    (safe : Sends (fun _ => True) caller (fun r => Reported table caller (.ok r))
      (fun e => Reported table caller (.error e)) p s)
    (ends : p.Ends (Undisturbed caller) s result s') : Reported table caller result s' := by
  have inv : s.Fits (fun _ => True) caller := fun _ _ => trivial
  have ended := ends.safe fits_keeps inv safe
  cases result with
  | ok r => exact ended.1 r rfl
  | error e => exact ended.2 e rfl

section

variable {platform : Platform} {feed : Feed} {s' : Desk} (fresh : s.callsOf caller = [])
include fresh

theorem submitOrder_reported {reservationId : String} {identity : NativeOrderIdentity}
    {request : OrderRequest}
    (ends : (submitOrder platform feed caller reservationId identity request).Ends
      (Undisturbed caller) s result s') : Reported insertReport caller result s' := by
  refine reported_of_ends (sends_submitOrder fresh (fun _ => trivial)
    (fun _ _ made => reported_of_none made report_error_ne_sent) fun answer s onOk onError => ?_)
    ends
  have reported := submitResult_reported identity answer onOk onError
  exact ⟨fun r same => same ▸ reported, fun e same => same ▸ reported⟩

theorem cancelOrder_reported {symbol : String}
    (ends : (cancelOrder feed caller target symbol).Ends (Undisturbed caller) s result s') :
    Reported cancelReport caller result s' := by
  refine reported_of_ends (sends_cancelOrder fresh (fun _ _ _ _ _ _ => trivial)
    (fun _ _ made => reported_of_none made report_error_ne_sent) fun answer s onOk onError => ?_)
    ends
  have reported := cancelResult_reported target answer onOk onError
  exact ⟨fun r same => same ▸ reported, fun e same => same ▸ reported⟩

end

/-- In every session state and under every interference that leaves the caller's calls alone,
a run that started with no call of the caller makes one at most, and is reported as the table
says; the report is right if and only if the native method behaved plainly. -/
theorem report_honest_iff_plain (platform : Platform) (feed : Feed) (caller : Nat) (s s' : Desk)
    (result : Except Exn DirectSubmitResult) (fresh : s.callsOf caller = []) :
    (∀ reservationId identity request,
      (submitOrder platform feed caller reservationId identity request).Ends
        (Undisturbed caller) s result s' →
      Reported insertReport caller result s' ∧
        (Honest caller result s' ↔
          ∀ call ∈ s'.callsOf caller, insertPlain call.outcome = true)) ∧
    ∀ target symbol, (cancelOrder feed caller target symbol).Ends (Undisturbed caller) s result s' →
      Reported cancelReport caller result s' ∧
        (Honest caller result s' ↔
          ∀ call ∈ s'.callsOf caller, cancelPlain call.outcome = true) := by
  constructor
  · intro reservationId identity request ends
    have reported := submitOrder_reported fresh ends
    exact ⟨reported, reported.honest_iff insertPlain_iff⟩
  · intro target symbol ends
    have reported := cancelOrder_reported fresh ends
    exact ⟨reported, reported.honest_iff cancelPlain_iff⟩

/-- An order reserved in session 11 of front 7. -/
def reserved : NativeOrderIdentity where
  clientOrderId := some "000000000001"
  orderRef := some "000000000001"
  exchangeId := some "SHFE"
  frontId := some 7
  sessionId := some 11
  sessionGeneration := some 3

/-- That session, with nothing sent yet. -/
def quietDesk : Desk where
  api := some 1
  connectionGeneration := 3
  tradingDay := "20260917"
  frontId := 7
  sessionId := 11
  reservations := (∅ : Dict String NativeOrderIdentity).insert "r" reserved

def exactPlatform : Platform where
  positionIntent _ := .ok "open"
  float := .finite
  repr := id

def oneLot : OrderRequest where
  symbol := "rb2610"
  side := "buy"
  quantity := .finite 1
  price := some (.finite 3500)

/-- Nothing is refused on the way, and the native method comes to this. -/
def smoothly (native : Except Exn NativeValue) : List Chance := List.replicate 40 { native }

def submitOne : Action DirectSubmitResult :=
  submitOrder exactPlatform ⟨"9999", "u1"⟩ 0 "r" reserved oneLot

def cancelOne (target : NativeOrderIdentity) : Action DirectSubmitResult :=
  cancelOrder ⟨"9999", "u1"⟩ 0 target "rb2610"

/-- A write from that session that goes smoothly ends with what can be checked. -/
theorem ends_smoothly (p : Action DirectSubmitResult) (native : Except Exn NativeValue)
    (check : Except Exn DirectSubmitResult → Desk → Bool)
    (found : (p.run (smoothly native) quietDesk).any (fun final => check final.1 final.2) = true) :
    ∃ result s', p.Ends (Undisturbed 0) quietDesk result s' ∧ check result s' = true :=
  Prog.exists_ends (Undisturbed.refl 0) _ check found

/-- A native method that returns -1 is reported as not sent, rightly. -/
theorem report_honest_refused :
    (∃ result s', submitOne.Ends (Undisturbed 0) quietDesk result s' ∧
      report result = .notSent ∧ s'.callsOf 0 ≠ [] ∧ Honest 0 result s') ∧
    ∃ result s', (cancelOne reserved).Ends (Undisturbed 0) quietDesk result s' ∧
      report result = .notSent ∧ s'.callsOf 0 ≠ [] ∧ Honest 0 result s' := by
  constructor
  · obtain ⟨result, s', ends, checked⟩ := ends_smoothly submitOne (.ok (.int (-1)))
      (fun result s' => report result = .notSent && !(s'.callsOf 0).isEmpty &&
        (s'.callsOf 0).all fun call => insertPlain call.outcome) (by decide +kernel)
    simp only [Bool.and_eq_true, decide_eq_true_eq, Bool.not_eq_true', List.all_eq_true] at checked
    refine ⟨result, s', ends, checked.1.1, by simpa using checked.1.2, ?_⟩
    exact ((report_honest_iff_plain _ _ 0 quietDesk s' result rfl).1 _ _ _ ends).2.mpr checked.2
  · obtain ⟨result, s', ends, checked⟩ := ends_smoothly (cancelOne reserved) (.ok (.int (-1)))
      (fun result s' => report result = .notSent && !(s'.callsOf 0).isEmpty &&
        (s'.callsOf 0).all fun call => cancelPlain call.outcome) (by decide +kernel)
    simp only [Bool.and_eq_true, decide_eq_true_eq, Bool.not_eq_true', List.all_eq_true] at checked
    refine ⟨result, s', ends, checked.1.1, by simpa using checked.1.2, ?_⟩
    exact ((report_honest_iff_plain exactPlatform _ 0 quietDesk s' result rfl).2 _ _ ends).2.mpr
      checked.2

/-- `ReqOrderInsert` was entered and raised a `ValueError`, and `ReqOrderAction` was entered
and returned `None`: both writes are reported as not sent.  Another exception of
`ReqOrderInsert` leaves as it is, with no report. -/
theorem entered_yet_unsent :
    (∃ result s', submitOne.Ends (Undisturbed 0) quietDesk result s' ∧
      report result = .notSent ∧ ¬ s'.NotTaken 0) ∧
    (∃ result s', (cancelOne reserved).Ends (Undisturbed 0) quietDesk result s' ∧
      report result = .notSent ∧ ¬ s'.NotTaken 0) ∧
    ∃ result s', submitOne.Ends (Undisturbed 0) quietDesk result s' ∧
      report result = .raised (.other "RuntimeError" "") ∧ ¬ s'.NotTaken 0 := by
  have taken : ∀ (p : Action DirectSubmitResult) native told,
      (p.run (smoothly native) quietDesk).any
        (fun final => decide (report final.1 = told ∧ ¬ final.2.NotTaken 0)) = true →
      ∃ result s', p.Ends (Undisturbed 0) quietDesk result s' ∧ report result = told ∧
        ¬ s'.NotTaken 0 := by
    intro p native told found
    obtain ⟨result, s', ends, checked⟩ := ends_smoothly p native
      (fun result s' => decide (report result = told ∧ ¬ s'.NotTaken 0)) found
    exact ⟨result, s', ends, of_decide_eq_true checked⟩
  refine ⟨?_, ?_, ?_⟩
  · exact taken submitOne (.error (.value none "char array too long")) _ (by decide +kernel)
  · exact taken (cancelOne reserved) (.ok .none) _ (by decide +kernel)
  · exact taken submitOne (.error (.other "RuntimeError" "")) _ (by decide +kernel)

/-! ## Whose order a cancel names -/

/-- The reference that the target carries: its `order_ref`, or its `client_order_id` where it
has none. -/
def NativeOrderIdentity.reference (target : NativeOrderIdentity) : Option String :=
  if target.orderRef.getD "" = "" then target.clientOrderId else target.orderRef

/-- The number that the venue gave the target: as it was received, where the target has it. -/
def NativeOrderIdentity.venueId (target : NativeOrderIdentity) : Option String :=
  if target.orderSysIdRaw.getD "" = "" then target.orderSysId else target.orderSysIdRaw

/-- The field names the target by its session identity or by its venue identity, each exactly
as the target carries it. -/
def NativeOrderIdentity.Names (target : NativeOrderIdentity) (field : InputOrderActionField) :
    Prop :=
  (field.orderRef ≠ "" ∧ target.frontId = some field.frontId ∧
      target.sessionId = some field.sessionId ∧ target.reference = some field.orderRef) ∨
    (field.orderSysId ≠ "" ∧ target.exchangeId = some field.exchangeId ∧
      target.venueId = some field.orderSysId)

instance (target : NativeOrderIdentity) (field : InputOrderActionField) :
    Decidable (target.Names field) :=
  inferInstanceAs (Decidable (_ ∨ _))

/-- A front or session number that the target does not have (zero is the field's own default)
is not in the field either. -/
def NativeOrderIdentity.FillsNothing (target : NativeOrderIdentity)
    (field : InputOrderActionField) : Prop :=
  (target.frontId.getD 0 = 0 → field.frontId = 0) ∧
    (target.sessionId.getD 0 = 0 → field.sessionId = 0)

/-- The target is cancelled by its session identity. -/
def NativeOrderIdentity.GoesBySession (target : NativeOrderIdentity) : Prop :=
  target.frontId.isSome ∧ target.sessionId.isSome ∧ text target.reference ≠ ""

/-- A text with no blanks around it. -/
def Unpadded (value : Option String) : Prop :=
  ∃ given, value = some given ∧ strip given = given

/-- What the cancel goes by needs no change: the numbers of a session are not zero, and no
text that the provider strips has blanks around it. -/
structure NativeOrderIdentity.Exact (target : NativeOrderIdentity) : Prop where
  bySession : target.GoesBySession →
    target.frontId ≠ some 0 ∧ target.sessionId ≠ some 0 ∧ Unpadded target.reference
  byVenue : ¬ target.GoesBySession → Unpadded target.exchangeId ∧
    (target.orderSysIdRaw.getD "" = "" → Unpadded target.orderSysId)

theorem eq_text_iff_unpadded {value : Option String} :
    value = some (text value) ↔ Unpadded value := by
  cases value with
  | none => simp [Unpadded]
  | some given => simp [Unpadded, text, eq_comm]

/-- The venue's number is sent as the target carries it, or stripped. -/
theorem venueId_eq_own_iff : target.venueId = some target.ownOrderSysId ↔
    (target.orderSysIdRaw.getD "" = "" → Unpadded target.orderSysId) := by
  unfold NativeOrderIdentity.venueId NativeOrderIdentity.ownOrderSysId
  split
  · rename_i none
    simp [none, eq_text_iff_unpadded]
  · rename_i given
    cases raw : target.orderSysIdRaw with
    | none => simp [raw] at given
    | some exact_ =>
      have nonempty : exact_ ≠ "" := by simpa [raw] using given
      simp [nonempty]

theorem venueTarget_eq_ok (chosen : target.venueTarget = .ok named) :
    named = { exchangeId := text target.exchangeId, orderId := some target.ownOrderSysId } := by
  unfold NativeOrderIdentity.venueTarget at chosen
  split at chosen
  · exact (Except.ok.inj chosen).symm
  · cases chosen

/-- The two ways to name a target. -/
theorem cancelTarget_eq_ok (chosen : target.cancelTarget = .ok named) :
    (∃ frontId sessionId, target.frontId = some frontId ∧ target.sessionId = some sessionId ∧
      target.ownOrderRef ≠ "" ∧
      named = { exchangeId := text target.exchangeId, orderRef := target.ownOrderRef,
                frontId, sessionId }) ∨
    (¬ target.GoesBySession ∧
      named = { exchangeId := text target.exchangeId, orderId := some target.ownOrderSysId }) := by
  unfold NativeOrderIdentity.cancelTarget at chosen
  split at chosen
  · rename_i frontId sessionId front session
    split at chosen
    · rename_i hasRef
      exact .inl ⟨frontId, sessionId, front, session, hasRef, (Except.ok.inj chosen).symm⟩
    · rename_i noRef
      exact .inr ⟨fun goes => noRef goes.2.2, venueTarget_eq_ok chosen⟩
  · rename_i absent
    refine .inr ⟨fun goes => ?_, venueTarget_eq_ok chosen⟩
    obtain ⟨frontId, front⟩ := Option.isSome_iff_exists.mp goes.1
    obtain ⟨sessionId, session⟩ := Option.isSome_iff_exists.mp goes.2.1
    exact absent frontId sessionId front session

/-- A number is filled in exactly if it is zero, and a text is changed exactly if it has
blanks around it. -/
theorem cancelField_names_iff {feed : Feed} {symbol : String}
    (chosen : target.cancelTarget = .ok named) (front session : Int) (requestId : Int)
    (present : orderIdentityPresent (cancelField feed symbol named front session requestId) = true) :
    (target.Names (cancelField feed symbol named front session requestId) ∧
      target.FillsNothing (cancelField feed symbol named front session requestId)) ↔
        target.Exact := by
  rcases cancelTarget_eq_ok chosen with
    ⟨frontId, sessionId, hasFront, hasSession, hasRef, rfl⟩ | ⟨venue, rfl⟩
  · have goes : target.GoesBySession := ⟨by simp [hasFront], by simp [hasSession], hasRef⟩
    -- a field without an `OrderSysID` passes the client only with both numbers
    have nonzero : (if frontId = 0 then front else frontId) ≠ 0 ∧
        (if sessionId = 0 then session else sessionId) ≠ 0 := by
      simpa [orderIdentityPresent, cancelField, hasRef] using present
    simp only [NativeOrderIdentity.Names, NativeOrderIdentity.FillsNothing, cancelField, hasRef,
      if_false, hasFront, hasSession, Option.getD_some, Option.getD_none]
    constructor
    · rintro ⟨names, keepsFront, keepsSession⟩
      refine ⟨fun _ => ⟨?_, ?_, ?_⟩, fun not => absurd goes not⟩
      · intro zero
        exact nonzero.1 (keepsFront (Option.some.inj (hasFront.symm.trans zero)))
      · intro zero
        exact nonzero.2 (keepsSession (Option.some.inj (hasSession.symm.trans zero)))
      · rcases names with ⟨_, _, _, carried⟩ | ⟨absent, _⟩
        · exact eq_text_iff_unpadded.mp carried
        · exact absurd rfl absent
    · intro plain
      obtain ⟨front', session', unpadded⟩ := plain.bySession goes
      have frontNonzero : frontId ≠ 0 := fun zero => front' (zero ▸ hasFront)
      have sessionNonzero : sessionId ≠ 0 := fun zero => session' (zero ▸ hasSession)
      refine ⟨.inl ⟨hasRef, ?_, ?_, eq_text_iff_unpadded.mpr unpadded⟩,
        fun zero => absurd zero frontNonzero, fun zero => absurd zero sessionNonzero⟩
      · rw [if_neg frontNonzero]
      · rw [if_neg sessionNonzero]
  · have given : target.ownOrderSysId ≠ "" := by
      have both : target.ownOrderSysId ≠ "" ∧ text target.exchangeId ≠ "" := by
        simpa [orderIdentityPresent, cancelField] using present
      exact both.1
    have fills : target.FillsNothing (cancelField feed symbol
        { exchangeId := text target.exchangeId, orderId := some target.ownOrderSysId }
        front session requestId) :=
      ⟨fun _ => rfl, fun _ => rfl⟩
    constructor
    · rintro ⟨⟨absent, _⟩ | ⟨_, exchange, number⟩, _⟩
      · exact absurd rfl absent
      · exact ⟨fun goes => absurd goes venue,
          fun _ => ⟨eq_text_iff_unpadded.mp exchange, venueId_eq_own_iff.mp number⟩⟩
    · intro plain
      obtain ⟨exchange, number⟩ := plain.byVenue venue
      exact ⟨.inr ⟨given, eq_text_iff_unpadded.mpr exchange, venueId_eq_own_iff.mpr number⟩, fills⟩

/-- Wherever a cancel is cut, with any numbers in the current session, each native call it
made names the target's own identity and fills no number in, if and only if what the target
goes by needs no change. -/
theorem cancel_names_target_iff (feed : Feed) (caller : Nat) (target : NativeOrderIdentity)
    (symbol : String) (s s' : Desk) (fresh : s.callsOf caller = [])
    (visits : (cancelOrder feed caller target symbol).Visits (Undisturbed caller) s s') :
    ∀ call ∈ s'.callsOf caller, ∃ field, call.request = .reqOrderAction field ∧
      ((target.Names field ∧ target.FillsNothing field) ↔ target.Exact) := by
  have inv : s.Fits (fun request => ∃ field, request = .reqOrderAction field ∧
      ((target.Names field ∧ target.FillsNothing field) ↔ target.Exact)) caller := by
    intro call member
    rw [fresh] at member
    cases member
  refine visits.safe fits_keeps inv (sends_cancelOrder (Q := fun _ _ => True)
    (E := fun _ _ => True) fresh (fun named chosen front session requestId present => ?_)
    (fun _ _ _ => trivial) fun _ _ _ _ => ⟨fun _ _ => trivial, fun _ _ => trivial⟩)
  exact ⟨_, rfl, cancelField_names_iff chosen front session requestId present⟩

/-- An order of another session that the venue numbered, as it was received. -/
def foreign : NativeOrderIdentity where
  exchangeId := some "SHFE"
  orderSysId := some "88"
  orderSysIdRaw := some "          88"

/-- A cancel of the target enters the native method, and names it. -/
def CancelledByName (target : NativeOrderIdentity) : Prop :=
  ∃ s', (cancelOne target).Visits (Undisturbed 0) quietDesk s' ∧ s'.callsOf 0 ≠ [] ∧
    ∀ call ∈ s'.callsOf 0, ∃ field, call.request = .reqOrderAction field ∧ target.Names field

/-- The reserved order is cancelled under its own numbers, the foreign one under its own. -/
theorem cancel_names_target_reserved : CancelledByName reserved ∧ CancelledByName foreign := by
  have named : ∀ target : NativeOrderIdentity, target.Exact →
      ((cancelOne target).run (smoothly (.ok (.int 0))) quietDesk).any
        (fun final => !(final.2.callsOf 0).isEmpty) = true → CancelledByName target := by
    intro target exact_ found
    obtain ⟨result, s', ends, checked⟩ := ends_smoothly (cancelOne target) (.ok (.int 0))
      (fun _ s' => !(s'.callsOf 0).isEmpty) found
    refine ⟨s', ends.visits, by simpa using checked, fun call member => ?_⟩
    obtain ⟨field, sent, names⟩ :=
      cancel_names_target_iff _ 0 target _ quietDesk s' rfl ends.visits call member
    exact ⟨field, sent, (names.mpr exact_).1⟩
  have noSession : ¬ foreign.GoesBySession := fun goes => absurd goes.1 (by decide)
  constructor
  · refine named reserved ⟨fun _ => ⟨by decide, by decide, _, rfl, by decide +kernel⟩, ?_⟩
      (by decide +kernel)
    exact fun not => absurd ⟨rfl, rfl, by decide +kernel⟩ not
  · refine named foreign ⟨fun goes => absurd goes noSession, fun _ => ⟨⟨_, rfl, ?_⟩, ?_⟩⟩
      (by decide +kernel)
    · decide +kernel
    · exact fun none => absurd none (by decide)

/-- An order known to the venue whose front number is zero. -/
def frontless : NativeOrderIdentity :=
  { reserved with frontId := some 0, sessionId := some 5, orderSysId := some "88" }

/-- An order of another session with the venue's number as it was received, and only so. -/
def padded : NativeOrderIdentity where
  exchangeId := some "SHFE"
  orderSysId := some "          88"

/-- The first is cancelled under the number of the current front, the other under a number
that the venue did not give. -/
theorem zero_front_filled :
    (∃ s', (cancelOne frontless).Visits (Undisturbed 0) quietDesk s' ∧
      ∃ call ∈ s'.callsOf 0, ∃ field, call.request = .reqOrderAction field ∧
        field.frontId = quietDesk.frontId ∧ ¬ frontless.Names field) ∧
    ∃ s', (cancelOne padded).Visits (Undisturbed 0) quietDesk s' ∧
      ∃ call ∈ s'.callsOf 0, ∃ field, call.request = .reqOrderAction field ∧
        field.orderSysId = "88" ∧ ¬ padded.Names field := by
  have sends : ∀ (target : NativeOrderIdentity) (check : InputOrderActionField → Bool),
      ((cancelOne target).run (smoothly (.ok (.int 0))) quietDesk).any (fun final =>
        (final.2.callsOf 0).any fun call =>
          match call.request with
          | .reqOrderAction field => check field
          | .reqOrderInsert _ => false) = true →
      ∃ s', (cancelOne target).Visits (Undisturbed 0) quietDesk s' ∧
        ∃ call ∈ s'.callsOf 0, ∃ field, call.request = .reqOrderAction field ∧
          check field = true := by
    intro target check found
    obtain ⟨result, s', ends, checked⟩ := ends_smoothly (cancelOne target) (.ok (.int 0))
      (fun _ s' => (s'.callsOf 0).any fun call =>
        match call.request with
        | .reqOrderAction field => check field
        | .reqOrderInsert _ => false) found
    obtain ⟨call, member, found⟩ := List.any_eq_true.mp checked
    cases sent : call.request with
    | reqOrderInsert field => simp [sent] at found
    | reqOrderAction field =>
      exact ⟨s', ends.visits, call, member, field, sent, by simpa [sent] using found⟩
  constructor
  · simpa using sends frontless
      (fun field => decide (field.frontId = quietDesk.frontId ∧ ¬ frontless.Names field))
      (by decide +kernel)
  · simpa using sends padded
      (fun field => decide (field.orderSysId = "88" ∧ ¬ padded.Names field))
      (by decide +kernel)

end BtApiCtp.Trader
