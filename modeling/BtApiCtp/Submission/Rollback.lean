/-
# Submission.Rollback -- a request that was not entered leaves no trace

A submission that raises without having entered its native method leaves histories, identities,
reserved intents and counts exactly as it found them (`failed_submission_leaves_books`).  While
it runs, everything but the books may change under it.  The argument follows the text: what the
books are at each point (`Stands`), and that a withdrawal undoes what was recorded.
-/
import BtApiCtp.Submission.Books

namespace BtApiCtp.Submission

open Theory Python Answers
open Trader (Exn NativeValue demand demand_eq_ok_iff firstRaised usedRequestId)

variable {admitted : Admission} {s s' : Client} {api : Option Nat} {simnow : Bool}
  {preDispatch : Client → Except Exn Client} {f : Client → Client} {calls : List NativeCall}
  {call : NativeCall} {key : RequestKey} {b books : Books} {request : ActionRequest}
  {intent : Option String} {c : Chance} {P : Client → Prop} {deadline : Option ℚ} (caller : Nat)

/-! ## Withdrawing what was recorded -/

theorem Books.unrecordRequest_recordRequest (b : Books) (requestType : String) :
    (b.recordRequest requestType).unrecordRequest requestType = b := by
  unfold Books.recordRequest Books.unrecordRequest
  simp

theorem lookup_record {ι : Type} (r : Register ι) (key : RequestKey) (evidence : Evidence)
    (identity : ι) : (r.record key evidence identity).history.lookup key = some evidence :=
  AList.lookup_insert _

theorem notMem_of_lookup {ν : Type} {d : Dict RequestKey ν}
    (absent : (d.lookup key).isNone = true) : key ∉ d := by
  rw [← AList.lookup_isSome, Bool.not_eq_true, Option.isSome_eq_false_iff]
  exact absent

theorem withdrawInsert_recorded (fresh : (b.inserts.history.lookup key).isNone = true)
    (scope : Scope) (requestId : Int) (identity : OrderInsertIdentity) :
    (({ b with inserts := b.inserts.record key (evidenceOf scope requestId) identity } :
      Books).recordRequest "order_insert").withdrawInsert key = b := by
  have found : ((b.inserts.record key (evidenceOf scope requestId) identity).history.lookup
      key).any (!·.callbackReceived) = true := by
    rw [lookup_record]
    rfl
  refine (if_pos found).trans ?_
  change Books.unrecordRequest (Books.recordRequest
    { b with inserts := (b.inserts.record key _ identity).drop key } "order_insert") _ = b
  rw [Books.unrecordRequest_recordRequest, Register.drop_record (notMem_of_lookup fresh)]

theorem withdrawAction_recordAction
    (fresh : (b.actions.history.lookup admitted.key).isNone = true)
    (unseen : intent.all (· ∉ b.managedCancelActionsSeen) = true) (scope : Scope) :
    (b.recordAction request intent admitted scope).withdrawAction admitted.key intent = b := by
  have dropped : (b.actions.record admitted.key (evidenceOf scope admitted.requestId)
      request.identity).drop admitted.key = b.actions :=
    Register.drop_record (notMem_of_lookup fresh) _ _
  have found : ∀ b' : Books, b'.actions = b.actions.record admitted.key
      (evidenceOf scope admitted.requestId) request.identity →
      (b'.actions.history.lookup admitted.key).isSome = true := by
    intro b' same
    rw [same, lookup_record]
    rfl
  unfold Books.withdrawAction Books.recordAction
  cases intent with
  | none =>
    rw [if_pos (found _ rfl)]
    change Books.unrecordRequest (Books.recordRequest
      { b with actions := (b.actions.record admitted.key _ _).drop admitted.key } _) _ = b
    rw [Books.unrecordRequest_recordRequest, dropped]
  | some intent =>
    rw [if_pos (found _ rfl)]
    have unreserved : (insert intent b.managedCancelActionsSeen).erase intent =
        b.managedCancelActionsSeen :=
      Finset.erase_insert (by simpa using unseen)
    change Books.unrecordRequest (Books.recordRequest { b with
        actions := (b.actions.record admitted.key _ _).drop admitted.key
        managedCancelActionsSeen := (insert intent b.managedCancelActionsSeen).erase intent }
      _) _ = b
    rw [Books.unrecordRequest_recordRequest, dropped, unreserved]

/-! ## What the checks have seen -/

theorem admitAction_eq_ok (ok : admitAction request intent c s = .ok admitted) :
    (s.books.actions.history.lookup admitted.key).isNone = true ∧
      intent.all (· ∉ s.books.managedCancelActionsSeen) = true := by
  simp only [admitAction, bind_eq_ok_iff, demand_eq_ok_iff, pure_eq_ok_iff] at ok
  obtain ⟨_, -, _, -, _, -, _, -, _, -, _, absent, _, -, _, unseen, _, -, rfl⟩ := ok
  exact ⟨absent, unseen⟩

/-- The books after `record_dispatch`. -/
def RecordedInsert (before : Books) (request : InsertRequest) (admitted : Admission)
    (books : Books) : Prop :=
  (before.inserts.history.lookup admitted.key).isNone = true ∧ ∃ scope,
    books = ({ before with
      inserts := before.inserts.record admitted.key (evidenceOf scope admitted.requestId)
        request.identity } : Books).recordRequest "order_insert"

theorem finalGate_eq_ok (ok : finalGate api simnow preDispatch c s = .ok s') :
    ∃ t, preDispatch s = .ok t ∧
      s' = { t with nativeRequestInflightRefs := t.nativeRequestInflightRefs + 1 } := by
  simp only [finalGate, bind_eq_ok_iff, pure_eq_ok_iff] at ok
  obtain ⟨_, -, _, -, _, -, _, -, t, recorded, rfl⟩ := ok
  exact ⟨t, recorded, rfl⟩

/-! ## One native request -/

/-- What is known after a native request. -/
def Dispatched (Before After Entered : Client → Prop) : Dispatch → Client → Prop
  | .blocked _ false => Before
  | .blocked _ true => After
  | .entered _ => Entered

section

variable {I : Client → Prop} {R G : Client → Client → Prop} {E : Exn → Client → Prop}

theorem safe_atomic {α : Type} {Q : α → Client → Prop}
    {f : Chance → Client → Except Exn α × Client} (pre : P s)
    (stable : ∀ s s', R s s' → P s → P s')
    (step : ∀ c s, P s → I s → I (f c s).2 ∧ G s (f c s).2 ∧
      (∀ a, (f c s).1 = .ok a → Q a (f c s).2) ∧ ∀ e, (f c s).1 = .error e → E e (f c s).2) :
    Prog.Safe I R G Q E (Prog.atomic f) s :=
  .atomic P pre (fun s' => stable s s') step

theorem safe_modify {Q : Unit → Client → Prop} (pre : P s) (stable : ∀ s s', R s s' → P s → P s')
    (step : ∀ s, P s → I s → I (f s) ∧ G s (f s) ∧ Q () (f s)) :
    Prog.Safe I R G Q E (Prog.modify f : Action Unit) s := by
  refine safe_atomic pre stable fun _ s' here inv => ?_
  obtain ⟨kept, within, post⟩ := step s' here inv
  exact ⟨kept, within, fun _ _ => post, fun _ raised => by cases raised⟩

/-- The rule of a native request: what holds before it, after `pre_dispatch` and after the
entry, each kept by what others do. -/
theorem invoke_safe (Before After Entered : Client → Prop) (call : NativeCall) (before : Before s)
    (stableBefore : ∀ s s', R s s' → Before s → Before s')
    (stableAfter : ∀ s s', R s s' → After s → After s')
    (stableEntered : ∀ s s', R s s' → Entered s → Entered s') (still : ∀ s, I s → G s s)
    (gate : ∀ c s s', Before s → I s → finalGate api simnow preDispatch c s = .ok s' →
      I s' ∧ G s s' ∧ After s')
    (enter : ∀ s, After s → I s → I (s.enter call) ∧ G s (s.enter call) ∧ Entered (s.enter call))
    (leave : ∀ s, I s → I s.leave ∧ G s s.leave ∧ (After s → After s.leave) ∧
      (Entered s → Entered s.leave)) :
    Prog.Safe I R G (Dispatched Before After Entered) E
      (invokeSessionNativeRequest call api simnow deadline preDispatch) s := by
  let Passed : Option Exn → Client → Prop := fun passed =>
    if passed.isSome then Before else After
  refine .bind (Q := Passed) (fun passed s₁ known => ?_) (safe_atomic before stableBefore ?_)
  · cases passed with
    | some e => exact .pure known
    | none =>
      refine .bind (Q := fun _ => After) (fun stop s₂ known => ?_)
        (safe_atomic known stableAfter fun _ s' here inv =>
          ⟨inv, still s' inv, fun _ _ => here, fun _ raised => by cases raised⟩)
      cases stop with
      | some e =>
        refine .bind (Q := fun _ => After) (fun _ _ known => .pure known)
          (safe_modify known stableAfter fun s' here inv => ?_)
        obtain ⟨kept, within, after, -⟩ := leave s' inv
        exact ⟨kept, within, after here⟩
      | none =>
        refine .bind (Q := fun _ => Entered) (fun outcome s₃ known => ?_)
          (safe_atomic known stableAfter fun _ s' here inv => ?_)
        · refine .bind (Q := fun _ => Entered) (fun _ _ known => .pure known)
            (safe_modify known stableEntered fun s' here inv => ?_)
          obtain ⟨kept, within, -, entered⟩ := leave s' inv
          exact ⟨kept, within, entered here⟩
        · obtain ⟨kept, within, entered⟩ := enter s' here inv
          exact ⟨kept, within, fun _ _ => entered, fun _ raised => by cases raised⟩
  · intro c s' here inv
    cases passed : finalGate api simnow preDispatch c s' with
    | error e =>
      refine ⟨inv, still s' inv, fun a came => ?_, fun _ raised => by cases raised⟩
      cases came
      exact here
    | ok t =>
      obtain ⟨kept, within, after⟩ := gate c s' t here inv passed
      refine ⟨kept, within, fun a came => ?_, fun _ raised => by cases raised⟩
      cases came
      exact after

end

/-! ## Steps -/

/-- Others change anything but the books and what was entered. -/
def Aside (s s' : Client) : Prop := s'.books = s.books ∧ s'.nativeCalls = s.nativeCalls

theorem Aside.refl (s : Client) : Aside s s := ⟨rfl, rfl⟩

/-- These are the books, and this is what was entered. -/
def Stands (P : Books → Prop) (calls : List NativeCall) (s : Client) : Prop :=
  P s.books ∧ s.nativeCalls = calls

theorem Stands.moved {P : Books → Prop} (stands : Stands P calls s) (aside : Aside s s') :
    Stands P calls s' :=
  ⟨aside.1 ▸ stands.1, aside.2.trans stands.2⟩

/-- Under interference beside the books, results satisfy `Q` and exceptions `E`. -/
abbrev Leaves {α : Type} (Q : α → Client → Prop) (E : Exn → Client → Prop) (p : Action α)
    (s : Client) : Prop :=
  Prog.Safe (fun _ => True) Aside (fun _ _ => True) Q E p s

section

variable {α : Type} {P : Books → Prop} {calls : List NativeCall} {s : Client}
  {Q : α → Client → Prop} {E : Exn → Client → Prop}

/-- One step from where the books stand. -/
theorem Leaves.step {f : Chance → Client → Except Exn α × Client} (stands : Stands P calls s)
    (onOk : ∀ c s a, Stands P calls s → (f c s).1 = .ok a → Q a (f c s).2)
    (onError : ∀ c s e, Stands P calls s → (f c s).1 = .error e → E e (f c s).2) :
    Leaves Q E (Prog.atomic f) s :=
  safe_atomic stands (fun _ _ aside here => here.moved aside) fun c s' here _ =>
    ⟨trivial, trivial, fun a came => onOk c s' a here came, fun e raised => onError c s' e here raised⟩

theorem Leaves.modify {Q : Unit → Client → Prop} (stands : Stands P calls s)
    (post : ∀ s, Stands P calls s → Q () (f s)) : Leaves Q E (Prog.modify f) s :=
  safe_modify stands (fun _ _ aside here => here.moved aside) fun s' here _ =>
    ⟨trivial, trivial, post s' here⟩

end

theorem invoke_leaves {Before : Books → Prop} (After : Books → Prop) {E : Exn → Client → Prop}
    (recorded : ∀ s s', Before s.books → preDispatch s = .ok s' →
      After s'.books ∧ s'.nativeCalls = s.nativeCalls) (stands : Stands Before calls s) :
    Leaves (Dispatched (Stands Before calls) (Stands After calls)
        (Stands (fun _ => True) (calls ++ [call]))) E
      (invokeSessionNativeRequest call api simnow deadline preDispatch) s := by
  have moved : ∀ {P : Books → Prop} {calls : List NativeCall} (s s' : Client), Aside s s' →
      Stands P calls s → Stands P calls s' := fun _ _ aside here => here.moved aside
  refine invoke_safe _ _ _ call stands moved moved moved (fun _ _ => trivial) ?_ ?_ ?_
  · intro c s' t here _ passed
    obtain ⟨u, ran, rfl⟩ := finalGate_eq_ok passed
    obtain ⟨after, same⟩ := recorded s' u here.1 ran
    exact ⟨trivial, trivial, after, same.trans here.2⟩
  · intro s' here _
    exact ⟨trivial, trivial, trivial, congrArg (· ++ [call]) here.2⟩
  · intro s' _
    exact ⟨trivial, trivial, id, id⟩

/-! ## Whole calls -/

/-- Whoever raised without a new entry has left the books as they were. -/
def Untraced (books : Books) (calls : List NativeCall) (_ : Exn) (s : Client) : Prop :=
  s.nativeCalls = calls → s.books = books

/-- An entry was made. -/
abbrev EnteredOnce (calls : List NativeCall) (call : NativeCall) : Client → Prop :=
  Stands (fun _ => True) (calls ++ [call])

theorem untraced_of_entered {e : Exn} (entered : EnteredOnce calls call s) :
    Untraced books calls e s := by
  intro same
  have grown := entered.2
  rw [same] at grown
  exact absurd grown (by simp)

/-- After an entry it no longer matters what the call does. -/
theorem entered_leaves {α : Type} {p : Action α} (entered : EnteredOnce calls call s)
    (frame : ∀ s, (f s).nativeCalls = s.nativeCalls)
    (rest : ∀ s, EnteredOnce calls call s → Leaves (fun _ _ => True) (Untraced books calls) p s) :
    Leaves (fun _ _ => True) (Untraced books calls) (Prog.modify f >>= fun _ => p) s :=
  .bind (fun _ s' known => rest s' known) (Leaves.modify entered fun s here =>
    ⟨trivial, (frame s).trans here.2⟩)

theorem submitOrderInsert_leaves (request : InsertRequest) (s : Client) :
    Leaves (fun _ _ => True) (Untraced s.books s.nativeCalls) (submitOrderInsert caller request)
      s := by
  have stands : Stands (· = s.books) s.nativeCalls s := ⟨rfl, rfl⟩
  refine .bind (Q := fun _ => Stands (· = s.books) s.nativeCalls) (fun admitted s₁ known => ?_)
    (Leaves.step stands (fun _ _ _ here _ => here) fun _ _ _ here _ _ => here.1)
  refine .bind (fun dispatch s₂ known => ?_)
    (invoke_leaves (RecordedInsert s.books request admitted) ?_ known)
  · cases dispatch with
    | blocked e recorded =>
      cases recorded with
      | false =>
        have known : Stands (· = s.books) s.nativeCalls s₂ := known
        exact .bind (Q := fun _ => Stands (· = s.books) s.nativeCalls)
          (fun _ s₃ known => .throw fun _ => known.1)
          (Leaves.modify known fun _ here => here)
      | true =>
        have known : Stands (RecordedInsert s.books request admitted) s.nativeCalls s₂ := known
        refine .bind (Q := fun _ => Stands (· = s.books) s.nativeCalls)
          (fun _ s₃ known => .throw fun _ => known.1)
          (Leaves.modify known fun s' here => ⟨?_, here.2⟩)
        obtain ⟨⟨fresh, scope, books⟩, -⟩ := here
        change s'.books.withdrawInsert admitted.key = s.books
        rw [books]
        exact withdrawInsert_recorded fresh scope admitted.requestId request.identity
    | entered outcome =>
      cases outcome with
      | error e =>
        exact entered_leaves known (fun _ => rfl) fun _ entered =>
          .throw (untraced_of_entered entered)
      | ok value =>
        exact entered_leaves known (fun _ => rfl) fun _ _ => .pure trivial
  · intro s' t same ran
    simp only [recordDispatch, bind_eq_ok_iff, demand_eq_ok_iff, pure_eq_ok_iff] at ran
    obtain ⟨_, ⟨absent, -⟩, rfl⟩ := ran
    exact ⟨same ▸ ⟨absent, s'.scope, rfl⟩, rfl⟩

/-- The books after the first section of a cancel. -/
def RecordedAction (before : Books) (request : ActionRequest) (intent : Option String)
    (admitted : Admission) (books : Books) : Prop :=
  (before.actions.history.lookup admitted.key).isNone = true ∧
    intent.all (· ∉ before.managedCancelActionsSeen) = true ∧
    ∃ scope, books = before.recordAction request intent admitted scope

theorem submitOrderAction_leaves (request : ActionRequest) (s : Client) :
    Leaves (fun _ _ => True) (Untraced s.books s.nativeCalls) (submitOrderAction caller request)
      s := by
  have stands : Stands (· = s.books) s.nativeCalls s := ⟨rfl, rfl⟩
  refine .bind (Q := fun _ => Stands (· = s.books) s.nativeCalls) (fun intent s₁ known => ?_)
    (Leaves.step stands (fun _ _ _ here _ => here) fun _ _ _ here _ _ => here.1)
  refine .bind
    (Q := fun admitted => Stands (RecordedAction s.books request intent admitted) s.nativeCalls)
    (fun admitted s₂ known => ?_) (Leaves.step known ?_ ?_)
  · refine .bind (fun dispatch s₃ known => ?_)
      (invoke_leaves (RecordedAction s.books request intent admitted) ?_ known)
    · cases dispatch with
      | blocked e recorded =>
        have known : Stands (RecordedAction s.books request intent admitted) s.nativeCalls s₃ := by
          cases recorded with
          | false | true => exact known
        refine .bind (Q := fun _ => Stands (· = s.books) s.nativeCalls)
          (fun _ s₄ known => .throw fun _ => known.1)
          (Leaves.modify known fun s' here => ⟨?_, here.2⟩)
        obtain ⟨⟨fresh, unseen, scope, books⟩, -⟩ := here
        change s'.books.withdrawAction admitted.key intent = s.books
        rw [books]
        exact withdrawAction_recordAction fresh unseen scope
      | entered outcome =>
        cases outcome with
        | error e =>
          exact entered_leaves known (fun _ => rfl) fun _ entered =>
            .throw (untraced_of_entered entered)
        | ok value =>
          dsimp only
          cases value.submitCode with
          | error e => exact .throw (untraced_of_entered known)
          | ok submitCode =>
            exact entered_leaves known (fun _ => rfl) fun _ _ => .pure trivial
    · intro s' t recorded ran
      cases ran
      exact ⟨recorded, rfl⟩
  · intro c s' admitted here came
    cases checked : admitAction request intent c s' with
    | error e =>
      rw [checked] at came
      cases came
    | ok found =>
      rw [checked] at came
      cases came
      obtain ⟨fresh, unseen⟩ := admitAction_eq_ok checked
      rw [here.1] at fresh unseen
      exact ⟨⟨fresh, unseen, s'.scope, by rw [← here.1]⟩, here.2⟩
  · intro c s' e here raised
    cases checked : admitAction request intent c s' with
    | error e' => exact fun _ => here.1
    | ok found =>
      rw [checked] at raised
      cases raised

theorem program_leaves (command : Command) (s : Client) :
    Leaves (fun _ _ => True) (Untraced s.books s.nativeCalls) (command.program caller) s := by
  cases command with
  | insert request => exact submitOrderInsert_leaves caller request s
  | action request => exact submitOrderAction_leaves caller request s

/-- **A submission that raises without having entered its native method leaves the books as it
found them**: both histories, both identity tables, the reserved intents and the counts. -/
theorem failed_submission_leaves_books (command : Command) {s s' : Client} {e : Exn}
    (ends : Prog.Ends Aside (command.program caller) s (.error e) s')
    (unentered : s'.nativeCalls = s.nativeCalls) : s'.books = s.books :=
  (ends.safe (fun _ _ _ _ => trivial) trivial (program_leaves caller command s)).2 e rfl unentered

def sampleClient : Client where
  api := some 0
  scope := { accountFingerprint := "ab", connectionGeneration := 1, tradingDay := "20260105" }

/-- A cancel of request 7 with a deadline. -/
def sampleCancel : ActionRequest where
  identity :=
    { brokerId := "9999", investorId := "1", orderActionRef := "7", orderRef := "12"
      fieldRequestId := some 7, frontId := some 1, sessionId := some 1, exchangeId := "SHFE"
      orderSysId := "", actionFlag := "0", instrumentId := "rb2605" }
  requestId := .int 7
  deadline := some (.at 1)

/-- Its deadline passes when the request is already on the books. -/
theorem late_cancel_leaves_books : ∃ s',
    Prog.Ends Aside ((Command.action sampleCancel).program 0) sampleClient
      (.error (.executionGate "ctp_execution_gate_cancel_deadline_expired")) s' ∧
    s'.nativeCalls = sampleClient.nativeCalls ∧ s'.books = sampleClient.books := by
  let now (time : ℚ) : Chance := { monotonic := time }
  have ran : Prog.run [now 0, now 0, now 0, now 1, now 1, now 1]
      ((Command.action sampleCancel).program 0) sampleClient = some (_, _) := rfl
  have ends := Prog.ends_of_run Aside.refl ran
  exact ⟨_, ends, rfl, failed_submission_leaves_books 0 (.action sampleCancel) ends rfl⟩

end BtApiCtp.Submission
