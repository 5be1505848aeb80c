/-
# Trader.Calls -- the native calls of one order write

Each layer of a write is followed through its steps with one assertion: how many native calls
the caller has made since it started, and what the one call came to.  Everything else on the
desk may change under it at any moment (`Undisturbed` fixes only the caller's own calls).
`Fit` is what a caller wants to know of every request that it sends.
-/
import BtApiCtp.Theory.Fallible
import BtApiCtp.Trader.Provider

namespace BtApiCtp.Trader

open Theory Python

variable {s s' : Desk} {E : Exn → Desk → Prop} {requestId : Int} {platform : Platform} {feed : Feed}
  {symbol : String} {api : Option Nat} {simnow : Bool} {preDispatch : Desk → Except Exn Desk}
  {c : Chance} {field : InputOrderField} {order : MappedOrder} {clientOrderId exchangeId : String}
  {target : CancelTarget} {Q : DirectSubmitResult → Desk → Prop}

/-- Others change anything but the caller's calls. -/
def Undisturbed (caller : Nat) (s s' : Desk) : Prop := s'.callsOf caller = s.callsOf caller

theorem Undisturbed.refl (caller : Nat) (s : Desk) : Undisturbed caller s s := rfl

/-- What came of the caller's calls: there was none, or there was one. -/
def Desk.Made (s : Desk) (caller : Nat) : Option (Except Exn NativeValue) → Prop
  | none => s.callsOf caller = []
  | some outcome => ∃ call, s.callsOf caller = [call] ∧ call.outcome = outcome

/-- Every request the caller sent is fit. -/
def Desk.Fits (Fit : NativeRequest → Prop) (caller : Nat) (s : Desk) : Prop :=
  ∀ call ∈ s.callsOf caller, Fit call.request

variable {Fit : NativeRequest → Prop} {caller : Nat} {made : Option (Except Exn NativeValue)}

theorem Desk.Made.moved (before : s.Made caller made)
    (same : s'.callsOf caller = s.callsOf caller) : s'.Made caller made := by
  cases made with
  | none => exact same.trans before
  | some outcome =>
    obtain ⟨call, one, came⟩ := before
    exact ⟨call, same.trans one, came⟩

theorem Desk.Fits.moved (before : s.Fits Fit caller)
    (same : s'.callsOf caller = s.callsOf caller) : s'.Fits Fit caller := by
  unfold Desk.Fits
  rw [same]
  exact before

theorem fits_keeps (s s' : Desk) (before : s.Fits Fit caller) (others : Undisturbed caller s s') :
    s'.Fits Fit caller :=
  before.moved others

/-- Under interference, every request sent is fit, results satisfy `Q` and exceptions `E`. -/
abbrev Sends (Fit : NativeRequest → Prop) (caller : Nat) {α : Type} (Q : α → Desk → Prop)
    (E : Exn → Desk → Prop) (p : Action α) (s : Desk) : Prop :=
  Prog.Safe (Desk.Fits Fit caller) (Undisturbed caller) (fun _ _ => True) Q E p s

/-! ## Steps that call nothing -/

/-- A step that leaves the calls alone leaves what is known of them. -/
theorem Sends.still {α : Type} {f : Chance → Desk → Except Exn α × Desk}
    (before : s.Made caller made) (frame : ∀ c s, (f c s).2.calls = s.calls)
    (onError : ∀ c s e, (f c s).1 = .error e → ∀ s, s.Made caller made → E e s) :
    Sends Fit caller (fun _ s => s.Made caller made) E (Prog.atomic f) s := by
  refine .atomic (fun s => s.Made caller made) before (fun s' others here => here.moved others)
    fun c s' here fits => ?_
  have same : (f c s').2.callsOf caller = s'.callsOf caller := by
    simp only [Desk.callsOf, frame]
  have after := here.moved same
  exact ⟨fits.moved same, trivial, fun _ _ => after, fun e raised => onError c s' e raised _ after⟩

theorem sends_modify {f : Desk → Desk} (before : s.Made caller made)
    (frame : ∀ s, (f s).calls = s.calls) :
    Sends Fit caller (fun _ s => s.Made caller made) E (Prog.modify f) s :=
  .still before (fun _ => frame) fun _ _ _ raised => by cases raised

section

variable {s : Desk} {E : Exn → Desk → Prop} (before : s.Made caller made)
  (onError : ∀ e s, s.Made caller made → E e s)

include before onError

theorem sends_gate : Sends Fit caller (fun _ s => s.Made caller made) E gate s := by
  refine .still before (fun c s => ?_) fun _ _ e _ => onError e
  split <;> rfl

theorem sends_observe {α : Type} (f : Desk → α) :
    Sends Fit caller (fun _ s => s.Made caller made) E (Prog.observe f) s :=
  Sends.still before (fun _ _ => rfl) fun _ _ e _ => onError e

theorem sends_nextRequestId : Sends Fit caller (fun _ s => s.Made caller made) E nextRequestId s :=
  Sends.still before (fun _ _ => rfl) fun _ _ e _ => onError e

theorem sends_sessionFields :
    Sends Fit caller (fun _ s => s.Made caller made) E sessionFields s := by
  refine .still before (fun c s => ?_) fun _ _ e _ => onError e
  split <;> rfl

theorem sends_settlementReadbackForWrite :
    Sends Fit caller (fun _ s => s.Made caller made) E settlementReadbackForWrite s := by
  refine .still before (fun c s => ?_) fun _ _ e _ => onError e
  split <;> rfl

theorem sends_popReservation (reservationId : String) :
    Sends Fit caller (fun _ s => s.Made caller made) E (popReservation reservationId) s := by
  refine .still before (fun c s => ?_) fun _ _ e _ => onError e
  split <;> rfl

theorem sends_require {b : Prop} [Decidable b] {e : Exn} :
    Sends Fit caller (fun _ s => b ∧ s.Made caller made) E (Prog.require b e) s :=
  .require (fun holds => ⟨holds, before⟩) fun _ => onError e s before

theorem sends_lift {α : Type} {result : Except Exn α} :
    Sends Fit caller (fun a s => result = .ok a ∧ s.Made caller made) E (Prog.lift result) s :=
  .lift (fun _ got => ⟨got, before⟩) fun e _ => onError e s before

theorem sends_checkSession (identity : NativeOrderIdentity) :
    Sends Fit caller (fun _ s => s.Made caller made) E (checkSession identity) s :=
  .bind (fun _ _ here => (sends_require here onError).mono (fun _ _ post => post.2) fun _ _ e => e)
    (sends_sessionFields before onError)

theorem sends_rereadSession :
    Sends Fit caller (fun _ s => s.Made caller made) E rereadSession s := by
  unfold rereadSession
  refine .bind (fun _ s here => ?_) (sends_sessionFields before onError)
  exact .pure here

theorem sends_ensureArmed : Sends Fit caller (fun _ s => s.Made caller made) E ensureArmed s :=
  .bind (fun _ _ here => sends_gate here onError) (sends_gate before onError)

theorem sends_ensureArmedForSubmit :
    Sends Fit caller (fun _ s => s.Made caller made) E ensureArmedForSubmit s := by
  refine .tryCatch (E := fun _ s => s.Made caller made) (fun e s here => ?_)
    (sends_ensureArmed before fun _ _ after => after)
  split
  iterate 2 · exact .throw (onError _ s here)

end

/-! ## The native call -/

theorem finalGate_calls (frame : ∀ s s', preDispatch s = .ok s' → s'.calls = s.calls)
    (passed : finalGate api simnow preDispatch c s = .ok s') : s'.calls = s.calls := by
  unfold finalGate at passed
  simp only [bind_eq_ok_iff, pure_eq_ok_iff] at passed
  obtain ⟨_, _, _, _, _, _, _, _, t, dispatched, rfl⟩ := passed
  exact frame s t dispatched

/-- What the method came to, if it was entered. -/
def Dispatch.outcome : Dispatch → Option (Except Exn NativeValue)
  | .blocked _ => none
  | .entered outcome => some outcome

/-- A request that was blocked was not sent; one that was entered was sent once. -/
theorem sends_invoke {request : NativeRequest} (before : s.Made caller none) (fit : Fit request)
    (frame : ∀ s s', preDispatch s = .ok s' → s'.calls = s.calls) :
    Sends Fit caller (fun dispatch s => s.Made caller dispatch.outcome) E
      (invokeSessionNativeRequest caller api request requestId simnow preDispatch) s := by
  unfold invokeSessionNativeRequest
  refine .bind (Q := fun _ (s : Desk) => s.Made caller none) (fun passed s here => ?_) ?_
  · cases passed with
    | some e => exact .pure here
    | none =>
      refine .bind (Q := fun outcome (s : Desk) => s.Made caller (some outcome))
        (fun outcome s entered => ?_) ?_
      · refine .bind (Q := fun _ (s : Desk) => s.Made caller (some outcome))
          (fun _ s left => .pure left) (sends_modify entered fun _ => rfl)
      · refine .atomic (fun s => s.Made caller none) here
          (fun s' others here => here.moved others) fun c s' here fits => ?_
        -- the call is appended to an empty list of this caller's calls
        have one : (s'.calls ++ [(⟨caller, request, requestId, c.native⟩ : NativeCall)]).filter
            (fun call => call.caller = caller) = [⟨caller, request, requestId, c.native⟩] := by
          rw [List.filter_append, show s'.calls.filter _ = [] from here]
          simp
        refine ⟨?_, trivial, ?_, nofun⟩
        · intro call member
          have member' : call ∈ [(⟨caller, request, requestId, c.native⟩ : NativeCall)] :=
            one ▸ member
          rw [List.mem_singleton.mp member']
          exact fit
        · intro outcome same
          cases same
          exact ⟨_, one, rfl⟩
  · refine .atomic (fun s => s.Made caller none) before
      (fun s' others here => here.moved others) fun c s' here fits => ?_
    cases passed : finalGate api simnow preDispatch c s' with
    | error e => exact ⟨fits, trivial, fun _ _ => here, nofun⟩
    | ok t =>
      have same : t.callsOf caller = s'.callsOf caller := by
        simp only [Desk.callsOf, finalGate_calls frame passed]
      exact ⟨fits.moved same, trivial, fun _ _ => here.moved same, nofun⟩

/-! ## The client -/

theorem recordInsert_calls (s s' : Desk) (recorded : recordInsert field requestId s = .ok s') :
    s'.calls = s.calls := by
  unfold recordInsert demand at recorded
  split at recorded
  · cases recorded
    rfl
  · cases recorded

theorem noteInsert_calls (s : Desk) (key : Int × String)
    (f : OrderInsertEvidence → OrderInsertEvidence) : (s.noteInsert key f).calls = s.calls := by
  unfold Desk.noteInsert
  split <;> rfl

theorem noteAction_calls (s : Desk) (key : Int × String)
    (f : OrderActionEvidence → OrderActionEvidence) : (s.noteAction key f).calls = s.calls := by
  unfold Desk.noteAction
  split <;> rfl

theorem dropAction_calls (s : Desk) (key : Int × String) : (s.dropAction key).calls = s.calls := by
  unfold Desk.dropAction
  split <;> rfl

/-- An exception came out of the one call, or there was none. -/
def Desk.Raised (caller : Nat) (e : Exn) (s : Desk) : Prop :=
  s.Made caller none ∨ s.Made caller (some (.error e))

theorem sends_submitOrderInsert (before : s.Made caller none) (fit : Fit (.reqOrderInsert field)) :
    Sends Fit caller (fun value s => s.Made caller (some (.ok value))) (Desk.Raised caller)
      (submitOrderInsert caller field requestId) s := by
  unfold submitOrderInsert
  refine .bind (fun admitted s here => .bind (fun dispatch s sent => ?_)
    (sends_invoke here fit recordInsert_calls)) (Sends.still before (fun _ _ => rfl)
      fun _ _ _ _ _ after => .inl after)
  match dispatch, sent with
  | .blocked _, sent => exact .throw (.inl sent)
  | .entered (.error e), sent =>
    exact .bind (fun _ _ noted => .throw (.inr noted))
      (sends_modify sent fun s => noteInsert_calls s _ _)
  | .entered (.ok value), sent =>
    exact .bind (E := Desk.Raised caller) (fun _ _ noted => .pure noted)
      (sends_modify sent fun s => noteInsert_calls s _ _)

/-- What `submit_order_action` lets out once the method was entered. -/
def Desk.RaisedByAction (caller : Nat) (e : Exn) (s : Desk) : Prop :=
  s.Raised caller e ∨ ∃ value, value.submitCode = .error e ∧ s.Made caller (some (.ok value))

theorem sends_submitOrderAction {field : InputOrderActionField} (before : s.Made caller none)
    (fit : orderIdentityPresent field = true → Fit (.reqOrderAction field)) :
    Sends Fit caller
      (fun value s => (∃ code, value.submitCode = .ok code) ∧ s.Made caller (some (.ok value)))
      (Desk.RaisedByAction caller) (submitOrderAction caller field requestId) s := by
  unfold submitOrderAction
  refine .bind (Q := fun _ s => orderIdentityPresent field = true ∧ s.Made caller none)
    (fun admitted s here => .bind (fun dispatch s sent => ?_)
      (sends_invoke here.2 (fit here.1) fun _ _ same => Except.ok.inj same ▸ rfl)) ?_
  · match dispatch, sent with
    | .blocked _, sent =>
      exact .bind (fun _ _ dropped => .throw (.inl (.inl dropped)))
        (sends_modify sent fun s => dropAction_calls s _)
    | .entered (.error e), sent =>
      exact .bind (fun _ _ noted => .throw (.inl (.inr noted)))
        (sends_modify sent fun s => noteAction_calls s _ _)
    | .entered (.ok value), sent =>
      dsimp only
      cases read : value.submitCode with
      | error e => exact .throw (.inr ⟨value, read, sent⟩)
      | ok code =>
        exact .bind (fun _ _ noted => .pure ⟨⟨code, read⟩, noted⟩)
          (sends_modify sent fun s => noteAction_calls s _ _)
  · refine .atomic (fun s => s.Made caller none) before
      (fun s' others here => here.moved others) fun c s' here fits => ?_
    cases passed : admitAction field requestId c s' with
    | error e => exact ⟨fits, trivial, nofun, fun _ _ => .inl (.inl here)⟩
    | ok admitted =>
      unfold admitAction at passed
      simp only [bind_eq_ok_iff, pure_eq_ok_iff, demand_eq_ok_iff] at passed
      obtain ⟨_, _, _, _, _, _, _, _, _, valid, _, _, _, _, _, _, rfl⟩ := passed
      exact ⟨fits.moved rfl, trivial, fun _ _ => ⟨valid.2.2.1, here.moved rfl⟩, by simp⟩

/-! ## The feed -/

/-- An insert that the feed answers with a status: there was no call, or one that returned
an `int`, zero if and only if the status is `True`. -/
def Desk.Placed (caller : Nat) (status : Bool) (s : Desk) : Prop :=
  (s.Made caller none ∧ status = false) ∨
    ∃ code : Int, s.Made caller (some (.ok (.int code))) ∧ status = (code == 0)

/-- An insert that the feed raises from. -/
def Desk.NotPlaced (caller : Nat) (e : Exn) (s : Desk) : Prop :=
  s.Raised caller e ∨ ∃ value clientOrderId requestId typeName, value.exactInt = none ∧
    e = .outcomeUnknown clientOrderId requestId typeName ∧ s.Made caller (some (.ok value))

theorem notPlaced (e : Exn) (s : Desk) (here : s.Made caller none) : s.NotPlaced caller e :=
  .inl (.inl here)

section Feed

variable (before : s.Made caller none)
include before

theorem sends_placeOrder (fit : ∀ field, Fit (.reqOrderInsert field)) :
    Sends Fit caller (Desk.Placed caller) (Desk.NotPlaced caller)
      (placeOrder platform feed caller order clientOrderId exchangeId) s := by
  refine .bind (fun _ _ permitted => ?_) (sends_gate before notPlaced)
  refine .bind (fun terms _ priced => ?_) (sends_lift permitted notPlaced)
  refine .bind (fun requestId _ numbered => ?_) (sends_nextRequestId priced.2 notPlaced)
  refine .bind (fun _ _ positive => ?_) (sends_require numbered notPlaced)
  refine .bind (fun value s came => ?_)
    ((sends_submitOrderInsert positive.2 (fit _)).mono (fun _ _ came => came)
      fun _ _ raised => .inl raised)
  cases value with
  | int code => exact .pure (.inr ⟨code, came, rfl⟩)
  | none | object name toInt equalsZero => exact .throw (.inr ⟨_, _, _, _, rfl, rfl, came⟩)

theorem sends_makeOrderNative (fit : ∀ field, Fit (.reqOrderInsert field)) :
    Sends Fit caller (Desk.Placed caller) (Desk.NotPlaced caller)
      (makeOrderNative platform feed caller order clientOrderId exchangeId) s := by
  refine .bind (fun _ _ permitted => ?_) (sends_gate before notPlaced)
  refine .bind (fun _ _ exact_ => ?_) (sends_require permitted notPlaced)
  refine .bind (fun _ _ ready => ?_) (sends_gate exact_.2 notPlaced)
  refine .bind (fun hasTrader _ looked => ?_) (sends_observe ready notPlaced _)
  cases hasTrader with
  | true => exact sends_placeOrder looked fit
  | false => exact .pure (.inl ⟨looked, rfl⟩)

/-- A cancel that the feed answers with a status. -/
def Desk.Cancelled (caller : Nat) (status : Bool) (s : Desk) : Prop :=
  (s.Made caller none ∧ status = false) ∨
    ∃ value, (∃ code, value.submitCode = .ok code) ∧ value.equalsZero = .ok status ∧
      s.Made caller (some (.ok value))

/-- A cancel that the feed raises from. -/
def Desk.NotCancelled (caller : Nat) (e : Exn) (s : Desk) : Prop :=
  s.RaisedByAction caller e ∨
    ∃ value, (∃ code, value.submitCode = .ok code) ∧ value.equalsZero = .error e ∧
      s.Made caller (some (.ok value))

omit before in
theorem notCancelled (e : Exn) (s : Desk) (here : s.Made caller none) : s.NotCancelled caller e :=
  .inl (.inl (.inl here))

variable (fit : ∀ front session requestId,
  orderIdentityPresent (cancelField feed symbol target front session requestId) = true →
    Fit (.reqOrderAction (cancelField feed symbol target front session requestId)))
include fit

theorem sends_sendCancel :
    Sends Fit caller (Desk.Cancelled caller) (Desk.NotCancelled caller)
      (sendCancel feed caller symbol target) s := by
  refine .bind (fun _ _ permitted => ?_) (sends_gate before notCancelled)
  refine .bind (fun front _ first => ?_) (sends_observe permitted notCancelled _)
  refine .bind (fun session _ second => ?_) (sends_observe first notCancelled _)
  refine .bind (fun requestId _ numbered => ?_) (sends_nextRequestId second notCancelled)
  refine .bind (fun value s came => ?_)
    ((sends_submitOrderAction numbered (fit front session requestId)).mono (fun _ _ came => came)
      fun _ _ raised => .inl raised)
  exact .lift (fun status same => .inr ⟨value, came.1, same, came.2⟩)
    fun e same => .inr ⟨value, came.1, same, came.2⟩

theorem sends_cancelOrderNative :
    Sends Fit caller (Desk.Cancelled caller) (Desk.NotCancelled caller)
      (cancelOrderNative feed caller symbol target) s := by
  refine .bind (fun _ _ permitted => ?_) (sends_gate before notCancelled)
  refine .bind (fun _ _ ready => ?_) (sends_gate permitted notCancelled)
  refine .bind (fun hasTrader _ looked => ?_) (sends_observe ready notCancelled _)
  cases hasTrader with
  | true => exact sends_sendCancel looked fit
  | false => exact .pure (.inl ⟨looked, rfl⟩)

end Feed

/-! ## The provider -/

/-- `submit_order` up to what it makes of the feed's answer. -/
theorem sends_submitOrder {reservationId : String} {identity : NativeOrderIdentity}
    {request : OrderRequest} (before : s.Made caller none)
    (fit : ∀ field, Fit (.reqOrderInsert field))
    (onError : ∀ e (s : Desk), s.Made caller none → E e s)
    (answered : ∀ answer s, (∀ status, answer = .ok status → s.Placed caller status) →
      (∀ e, answer = .error e → s.NotPlaced caller e) →
        (∀ r, submitResult identity answer = .ok r → Q r s) ∧
          ∀ e, submitResult identity answer = .error e → E e s) :
    Sends Fit caller Q E (submitOrder platform feed caller reservationId identity request) s := by
  unfold submitOrder
  refine .bind (fun _ _ popped => ?_) (sends_popReservation before onError _)
  refine .bind (fun _ _ connected => ?_) (sends_gate popped onError)
  refine .bind (fun _ _ same => ?_) (sends_checkSession connected onError _)
  refine .bind (fun order _ mapped => ?_) (sends_lift same onError)
  refine .bind (fun readback _ read => ?_) (sends_settlementReadbackForWrite mapped.2 onError)
  refine .bind (fun _ _ still => ?_)
    (Prog.Safe.when (fun _ => sends_checkSession read onError _) fun _ => read)
  refine .bind (fun _ _ consumed => ?_) (sends_gate still onError)
  refine .bind (fun _ _ armed => ?_) (sends_ensureArmedForSubmit consumed onError)
  refine .bind (fun answer s came => ?_) (Prog.Safe.attempt (sends_makeOrderNative armed fit))
  obtain ⟨onOk, onRaise⟩ := answered answer s came.1 came.2
  exact .lift onOk onRaise

/-- `cancel_order` up to what it makes of the feed's answer. -/
theorem sends_cancelOrder {target : NativeOrderIdentity} (before : s.Made caller none)
    (fit : ∀ named, target.cancelTarget = .ok named → ∀ front session requestId,
      orderIdentityPresent (cancelField feed symbol named front session requestId) = true →
        Fit (.reqOrderAction (cancelField feed symbol named front session requestId)))
    (onError : ∀ e (s : Desk), s.Made caller none → E e s)
    (answered : ∀ answer s, (∀ status, answer = .ok status → s.Cancelled caller status) →
      (∀ e, answer = .error e → s.NotCancelled caller e) →
        (∀ r, cancelResult target answer = .ok r → Q r s) ∧
          ∀ e, cancelResult target answer = .error e → E e s) :
    Sends Fit caller Q E (cancelOrder feed caller target symbol) s := by
  unfold cancelOrder
  refine .bind (fun _ _ connected => ?_) (sends_gate before onError)
  refine .bind (fun _ _ open_ => ?_) (sends_sessionFields connected onError)
  refine .bind (fun named _ chosen => ?_) (sends_lift open_ onError)
  refine .bind (fun readback _ read => ?_) (sends_settlementReadbackForWrite chosen.2 onError)
  refine .bind (fun _ _ still => ?_)
    (Prog.Safe.when (fun _ => sends_rereadSession read onError) fun _ => read)
  refine .bind (fun _ t consumed => ?_) (sends_gate still onError)
  have cancels : Sends Fit caller (Desk.Cancelled caller) (Desk.NotCancelled caller)
      (ensureArmed >>= fun _ => cancelOrderNative feed caller symbol named) t :=
    .bind (fun _ _ armed => sends_cancelOrderNative armed (fit named chosen.1))
      (sends_ensureArmed consumed notCancelled)
  refine .bind (fun answer s came => ?_) (Prog.Safe.attempt cancels)
  obtain ⟨onOk, onRaise⟩ := answered answer s came.1 came.2
  exact .lift onOk onRaise

end BtApiCtp.Trader
