/-
# Submission.Entries -- a cancel that was sent is on the books

Submissions run side by side on one client, and callbacks, sessions and other requests change
it at any moment.  Every entry of `submit_order_action` into the native method is then found in
the history under its key (`desk_sound`): a call takes a cancel off the books only if it put it
there itself and has not entered the method, and no other call can have the same key meanwhile.

With a managed callback ingress a cancel is sent with a lease instead; such a call enters the
native method and leaves nothing on the books.  What is shown of some keys therefore asks that
no cancel under one of these is sent so.
-/
import BtApiCtp.Submission.Rollback
import BtApiCtp.Theory.Threads
import BtApiCtp.Theory.Journal

namespace BtApiCtp.Submission

open Theory Python Answers
open Trader (Exn NativeValue demand demand_eq_ok_iff firstRaised usedRequestId)

variable {s s' : Client} {caller : Nat} {key : RequestKey} {admitted : Admission}

/-! ## Calls with a lease -/

/-- What `_submit_with_managed_native_call_lease` checks under the lock. -/
def leaseGate (c : Chance) (s : Client) : Except Exn Unit := do
  demand (s.callbackIngress = true) "ctp_managed_native_call_lease_invalid"
  firstRaised [c.raises]
  firstRaised [c.lookupRaises]
  demand (c.callable = true) "ctp_managed_native_call_method_unavailable"

/-- `_submit_with_managed_native_call_lease`, for the native call it is pinned to. -/
def submitWithManagedNativeCallLease (call : NativeCall) : Action NativeValue := do
  Prog.atomic fun c s =>
    match leaseGate c s with
    | .error e => (.error e, s)
    | .ok () => (.ok (), { s with nativeRequestInflightRefs := s.nativeRequestInflightRefs + 1 })
  let outcome ← Prog.atomic fun c s => (.ok c.native, s.enter call)
  let lifecycleInvalid ← Prog.atomic fun c s =>
    (.ok (c.lifecycleInvalid || !s.callbackIngress), s.leave)
  match outcome with
  | .error e => throw e
  | .ok value =>
    if value.exactInt ≠ some 0 ∨ lifecycleInvalid = true then
      throw (.executionGate "ctp_managed_native_call_result_ambiguous")
    else return value

/-! ## The desk -/

/-- How an order or a cancel is sent. -/
inductive Sending where
  | direct (command : Command)
  | leased (kind : Kind) (key : RequestKey)

def Sending.program (caller : Nat) : Sending → Action NativeValue
  | .direct command => command.program caller
  | .leased kind key => submitWithManagedNativeCallLease ⟨caller, kind, key⟩

/-- What else happens to a client. -/
inductive Disturbance where
  /-- A callback replaces the evidence of an order or a cancel. -/
  | insertCallback (key : RequestKey) (evidence : Evidence)
  | actionCallback (key : RequestKey) (evidence : Evidence)
  | session (api : Option Nat) (callbackIngress : Bool) (scope : Scope)
  /-- Another request is counted. -/
  | request (requestType : String)

def Disturbance.act : Disturbance → Client → Client
  | .insertCallback key evidence, s => { s with books := { s.books with
      inserts := s.books.inserts.note key fun _ => evidence } }
  | .actionCallback key evidence, s => { s with books := { s.books with
      actions := s.books.actions.note key fun _ => evidence } }
  | .session api callbackIngress scope, s => { s with api, callbackIngress, scope }
  | .request requestType, s => { s with books := s.books.recordRequest requestType }

/-- Submissions on one client, each by a thread of its own. -/
def desk : System Client Chance Exn Nat Unit (Nat × Sending) Disturbance where
  thread submission := submission.1
  program submission := submission.2.program submission.1 >>= fun _ => pure ()
  accept _ s := some s
  owner _ := ()
  finish _ s := s
  exit _ s := s
  env := Disturbance.act

/-- The key of what starts on the desk, if it is a cancel with a lease. -/
def leasedCancel : Event Chance Nat Unit (Nat × Sending) Disturbance → Option RequestKey
  | .start (_, .leased .action key) => some key
  | _ => none

/-! ## What holds on the desk -/

-- The keys that no cancel with a lease has.
variable {Own : RequestKey → Prop}

/-- A cancel was sent by the call that recorded it. -/
structure Recorded (Own : RequestKey → Prop) (s : Client) : Prop where
  owned : ∀ key caller, s.actionOwners.lookup key = some caller → key ∈ s.books.actions.history
  sent : ∀ call ∈ s.nativeCalls, call.kind = .action → Own call.key →
    s.actionOwners.lookup call.key = some call.caller
  unique : ∀ key ∈ s.books.actions.history, ∀ other ∈ s.books.actions.history,
    key.1 = other.1 → key = other

theorem Recorded.found (recorded : Recorded Own s) {call : NativeCall}
    (mem : call ∈ s.nativeCalls) (action : call.kind = .action) (own : Own call.key) :
    call.key ∈ s.books.actions.history :=
  recorded.owned _ _ (recorded.sent call mem action own)

/-- What a caller counts on: the cancels it recorded stay its own. -/
def Spares (Own : RequestKey → Prop) (caller : Nat) (s s' : Client) : Prop :=
  ∀ key, s.actionOwners.lookup key = some caller → s'.actionOwners.lookup key = some caller ∧
    ∀ call ∈ s'.nativeCalls, call.kind = .action → Own call.key → call.key = key →
      call ∈ s.nativeCalls

theorem Spares.refl (caller : Nat) (s : Client) : Spares Own caller s s :=
  fun _ mine => ⟨mine, fun _ mem _ _ _ => mem⟩

theorem Spares.trans (caller : Nat) (a b c : Client) (first : Spares Own caller a b)
    (second : Spares Own caller b c) : Spares Own caller a c := by
  intro key mine
  obtain ⟨still, before⟩ := first key mine
  obtain ⟨stillNow, later⟩ := second key still
  exact ⟨stillNow, fun call mem action own same =>
    before call (later call mem action own same) action own same⟩

/-- What a caller does spares everybody else. -/
def Considerate (Own : RequestKey → Prop) (caller : Nat) (s s' : Client) : Prop :=
  ∀ other, other ≠ caller → Spares Own other s s'

/-- Keys, owners and sent cancels are as they were. -/
structure Apart (Own : RequestKey → Prop) (s s' : Client) : Prop where
  keys : ∀ key, key ∈ s'.books.actions.history ↔ key ∈ s.books.actions.history
  owners : s'.actionOwners = s.actionOwners
  calls : ∀ call ∈ s'.nativeCalls, call.kind = .action → Own call.key → call ∈ s.nativeCalls

theorem Apart.spares (apart : Apart Own s s') (caller : Nat) : Spares Own caller s s' :=
  fun _ mine => ⟨apart.owners ▸ mine, fun call mem action own _ => apart.calls call mem action own⟩

theorem Apart.recorded (apart : Apart Own s s') (recorded : Recorded Own s) : Recorded Own s' where
  owned key caller mine := (apart.keys key).mpr (recorded.owned key caller (apart.owners ▸ mine))
  sent call mem action own :=
    apart.owners ▸ recorded.sent call (apart.calls call mem action own) action own
  unique key mem other mem' := recorded.unique key ((apart.keys key).mp mem) other
    ((apart.keys other).mp mem')

theorem Apart.of_same (actions : s'.books.actions = s.books.actions)
    (owners : s'.actionOwners = s.actionOwners) (calls : s'.nativeCalls = s.nativeCalls) :
    Apart Own s s' :=
  ⟨fun _ => by rw [actions], owners, fun _ mem _ _ => calls ▸ mem⟩

/-- Steps of a submission on this desk. -/
abbrev Keeps (Own : RequestKey → Prop) (caller : Nat) {α : Type} (Q : α → Client → Prop)
    (p : Action α) (s : Client) : Prop :=
  Prog.Safe (Recorded Own) (Spares Own caller) (Considerate Own caller) Q (fun _ _ => True) p s

section

variable {caller : Nat} {α : Type} {s : Client}

/-- A step that is apart from the cancels. -/
theorem keeps_apart {f : Chance → Client → Except Exn α × Client}
    (apart : ∀ c s, Apart Own s (f c s).2) : Keeps Own caller (fun _ _ => True) (Prog.atomic f) s :=
  safe_atomic (P := fun _ => True) trivial (fun _ _ _ _ => trivial) fun c s' _ recorded =>
    ⟨(apart c s').recorded recorded, fun other _ => (apart c s').spares other,
      fun _ _ => trivial, fun _ _ => trivial⟩

theorem keeps_modify {f : Client → Client} (apart : ∀ s, Apart Own s (f s)) :
    Keeps Own caller (fun _ _ => True) (Prog.modify f) s :=
  keeps_apart fun _ s' => apart s'

end

/-! ## Orders -/

theorem enter_apart {call : NativeCall} (foreign : call.kind = .action → ¬ Own call.key)
    (s : Client) : Apart Own s (s.enter call) := by
  refine ⟨fun _ => Iff.rfl, rfl, fun call mem action own => ?_⟩
  rcases mem_snoc.mp mem with old | rfl
  · exact old
  · exact absurd own (foreign action)

theorem withdrawInsert_actions (books : Books) (key : RequestKey) :
    (books.withdrawInsert key).actions = books.actions := by
  unfold Books.withdrawInsert
  split
  · rfl
  · rfl

theorem submitOrderInsert_keeps (caller : Nat) (request : InsertRequest) (s : Client) :
    Keeps Own caller (fun _ _ => True) (submitOrderInsert caller request) s := by
  have stable : ∀ s s' : Client, Spares Own caller s s' → True → True := fun _ _ _ _ => trivial
  refine .bind (fun admitted s₁ _ => ?_) (keeps_apart fun _ s => Apart.of_same rfl rfl rfl)
  refine .bind (fun dispatch s₂ _ => ?_) (invoke_safe (fun _ => True)
    (fun _ => True) (fun _ => True) _ trivial stable stable stable
    (fun s _ other _ => Spares.refl other s) ?_ ?_ ?_)
  · cases dispatch with
    | blocked e recorded =>
      refine .bind (Q := fun _ _ => True) (fun _ _ _ => .throw trivial) (keeps_modify fun s => ?_)
      cases recorded with
      | false => exact Apart.of_same rfl rfl rfl
      | true =>
        exact Apart.of_same (withdrawInsert_actions s.books admitted.key) rfl rfl
    | entered outcome =>
      cases outcome with
      | error e =>
        exact .bind (Q := fun _ _ => True) (fun _ _ _ => .throw trivial)
          (keeps_modify fun s => Apart.of_same rfl rfl rfl)
      | ok value =>
        exact .bind (Q := fun _ _ => True) (fun _ _ _ => .pure trivial)
          (keeps_modify fun s => Apart.of_same rfl rfl rfl)
  · intro c s' t _ recorded passed
    obtain ⟨u, ran, rfl⟩ := finalGate_eq_ok passed
    have apart : Apart Own s' { u with
        nativeRequestInflightRefs := u.nativeRequestInflightRefs + 1 } := by
      simp only [recordDispatch, bind_eq_ok_iff, pure_eq_ok_iff] at ran
      obtain ⟨_, -, rfl⟩ := ran
      exact .of_same rfl rfl rfl
    exact ⟨apart.recorded recorded, fun other _ => apart.spares other, trivial⟩
  · intro s' _ recorded
    have apart : Apart Own s' (s'.enter ⟨caller, .insert, admitted.key⟩) :=
      enter_apart (fun action => by cases action) s'
    exact ⟨apart.recorded recorded, fun other _ => apart.spares other, trivial⟩
  · intro s' recorded
    have apart : Apart Own s' s'.leave := Apart.of_same rfl rfl rfl
    exact ⟨apart.recorded recorded, fun other _ => apart.spares other, id, id⟩

/-! ## Cancels -/

/-- The caller has recorded this cancel, and nobody has sent it. -/
def Held (Own : RequestKey → Prop) (caller : Nat) (key : RequestKey) (s : Client) : Prop :=
  s.actionOwners.lookup key = some caller ∧
    ∀ call ∈ s.nativeCalls, call.kind = .action → Own call.key → call.key ≠ key

theorem Held.stable (s s' : Client) (spares : Spares Own caller s s')
    (held : Held Own caller key s) : Held Own caller key s' := by
  obtain ⟨mine, calls⟩ := spares key held.1
  exact ⟨mine, fun call mem action own same =>
    held.2 call (calls call mem action own same) action own same⟩

theorem usedRequestId_of_mem {ν : Type} {d : Dict RequestKey ν} (mem : key ∈ d) :
    usedRequestId d key.1 = true := by
  obtain ⟨v, found⟩ := Option.isSome_iff_exists.mp (AList.lookup_isSome.mpr mem)
  exact List.any_eq_true.mpr ⟨(key, v), Dict.mem_items.mpr found, by simp⟩

/-- The step that records a cancel. -/
theorem record_keeps {caller : Nat} {request : ActionRequest} {intent : Option String}
    {c : Chance} (recorded : Recorded Own s) (ok : admitAction request intent c s = .ok admitted) :
    let s' : Client := { s with
      books := s.books.recordAction request intent admitted s.scope
      actionOwners := s.actionOwners.insert admitted.key caller }
    Recorded Own s' ∧ Considerate Own caller s s' ∧ Held Own caller admitted.key s' := by
  intro s'
  have checks := ok
  simp only [admitAction, bind_eq_ok_iff, demand_eq_ok_iff, pure_eq_ok_iff] at checks
  obtain ⟨_, -, requestId, -, _, -, _, -, _, -, _, absent, _, unused, _, -, _, -, isAdmitted⟩ := checks
  have number : admitted.key.1 = requestId := by rw [← isAdmitted]
  have fresh : admitted.key ∉ s.books.actions.history :=
    notMem_of_lookup (admitAction_eq_ok ok).1
  have history : ∀ key, key ∈ s'.books.actions.history ↔
      key = admitted.key ∨ key ∈ s.books.actions.history := by
    intro key
    have same : s'.books.actions = s.books.actions.record admitted.key
        (evidenceOf s.scope admitted.requestId) request.identity := by
      cases intent with
      | none => rfl
      | some intent => rfl
    rw [same]
    exact AList.mem_insert _
  have others : ∀ key other, s.actionOwners.lookup key = some other →
      s'.actionOwners.lookup key = some other := by
    intro key other theirs
    have differs : key ≠ admitted.key := fun same => fresh (same ▸ recorded.owned key other theirs)
    exact (Dict.lookup_insert_eq ..).trans ((if_neg differs).trans theirs)
  refine ⟨⟨?_, ?_, ?_⟩, ?_, ?_⟩
  · intro key owner theirs
    rw [show s'.actionOwners = s.actionOwners.insert admitted.key caller from rfl,
      Dict.lookup_insert_eq] at theirs
    rw [history]
    split at theirs
    · rename_i same
      exact .inl same
    · exact .inr (recorded.owned key owner theirs)
  · intro call mem action own
    exact others _ _ (recorded.sent call mem action own)
  · have unrelated : ∀ key ∈ s.books.actions.history, key.1 ≠ admitted.key.1 := by
      intro key mem same
      have used := usedRequestId_of_mem mem
      rw [same, number, unused] at used
      cases used
    intro key mem other mem' same
    rcases (history key).mp mem with rfl | old
    · rcases (history other).mp mem' with rfl | old'
      · rfl
      · exact absurd same.symm (unrelated other old')
    · rcases (history other).mp mem' with rfl | old'
      · exact absurd same (unrelated key old)
      · exact recorded.unique key old other old' same
  · intro other _ key theirs
    exact ⟨others key other theirs, fun call mem _ _ _ => mem⟩
  · refine ⟨AList.lookup_insert _, fun call mem action own same => fresh ?_⟩
    rw [← same]
    exact recorded.found mem action own

/-- The step that takes it off the books. -/
theorem withdraw_keeps (intent : Option String) (recorded : Recorded Own s)
    (held : Held Own caller key s) :
    let s' : Client := { s with
      books := s.books.withdrawAction key intent
      actionOwners := s.actionOwners.erase key }
    Recorded Own s' ∧ Considerate Own caller s s' := by
  intro s'
  have found : (s.books.actions.history.lookup key).isSome = true :=
    AList.lookup_isSome.mpr (recorded.owned key caller held.1)
  have history : s'.books.actions.history = s.books.actions.history.erase key := by
    change (s.books.withdrawAction key intent).actions.history = _
    unfold Books.withdrawAction
    rw [if_pos found]
    cases intent with
    | none => rfl
    | some intent => rfl
  have others : ∀ other, other ≠ key →
      s'.actionOwners.lookup other = s.actionOwners.lookup other := fun other differs =>
    (Dict.lookup_erase_eq ..).trans (if_neg differs)
  refine ⟨⟨?_, ?_, ?_⟩, ?_⟩
  · intro other owner theirs
    have differs : other ≠ key := by
      rintro rfl
      rw [show s'.actionOwners.lookup other = none from AList.lookup_erase other _] at theirs
      cases theirs
    rw [history, AList.mem_erase]
    exact ⟨differs, recorded.owned other owner (others other differs ▸ theirs)⟩
  · intro call mem action own
    rw [others _ (held.2 call mem action own)]
    exact recorded.sent call mem action own
  · intro first mem second mem'
    rw [history, AList.mem_erase] at mem mem'
    exact recorded.unique first mem.2 second mem'.2
  · intro other differs first theirs
    refine ⟨?_, fun call mem _ _ _ => mem⟩
    have notMine : first ≠ key := by
      rintro rfl
      exact differs (Option.some.inj (theirs.symm.trans held.1))
    rw [others first notMine]
    exact theirs

/-- The native method is entered. -/
theorem enter_keeps (recorded : Recorded Own s) (held : Held Own caller key s) :
    Recorded Own (s.enter ⟨caller, .action, key⟩) ∧
      Considerate Own caller s (s.enter ⟨caller, .action, key⟩) := by
  refine ⟨⟨recorded.owned, ?_, recorded.unique⟩, ?_⟩
  · intro call mem action own
    rcases mem_snoc.mp mem with old | rfl
    · exact recorded.sent call old action own
    · exact held.1
  · intro other differs first theirs
    refine ⟨theirs, fun call mem _ _ same => ?_⟩
    rcases mem_snoc.mp mem with old | rfl
    · exact old
    · have mine : s.actionOwners.lookup first = some caller := same ▸ held.1
      exact absurd (Option.some.inj (theirs.symm.trans mine)) differs

theorem submitOrderAction_keeps (caller : Nat) (request : ActionRequest) (s : Client) :
    Keeps Own caller (fun _ _ => True) (submitOrderAction caller request) s := by
  have stable : ∀ s s' : Client, Spares Own caller s s' → True → True := fun _ _ _ _ => trivial
  refine .bind (fun intent s₁ _ => ?_) (keeps_apart fun _ s => Apart.of_same rfl rfl rfl)
  refine .bind (Q := fun admitted => Held Own caller admitted.key) (fun admitted s₂ held => ?_)
    (safe_atomic (P := fun _ => True) trivial stable fun c s' _ recorded => ?_)
  · refine .bind (fun dispatch s₃ known => ?_)
      (invoke_safe (Held Own caller admitted.key) (Held Own caller admitted.key) (fun _ => True) _
        held Held.stable Held.stable stable (fun s _ other _ => Spares.refl other s) ?_ ?_ ?_)
    · cases dispatch with
      | blocked e blockedAfter =>
        have held : Held Own caller admitted.key s₃ := by
          cases blockedAfter with
          | false | true => exact known
        refine .bind (Q := fun _ _ => True) (fun _ _ _ => .throw trivial)
          (safe_modify held Held.stable fun s' held recorded => ?_)
        obtain ⟨kept, considerate⟩ := withdraw_keeps intent recorded held
        exact ⟨kept, considerate, trivial⟩
      | entered outcome =>
        have noted : ∀ f, Keeps Own caller (fun _ _ => True) (Prog.modify fun s => { s with
            books := { s.books with actions := s.books.actions.note admitted.key f } }) s₃ :=
          fun f => keeps_modify fun s =>
            ⟨fun _ => Register.mem_mapValues _ _ _, rfl, fun _ mem _ _ => mem⟩
        cases outcome with
        | error e => exact .bind (Q := fun _ _ => True) (fun _ _ _ => .throw trivial) (noted _)
        | ok value =>
          dsimp only
          cases value.submitCode with
          | error e => exact .throw trivial
          | ok submitCode =>
            exact .bind (Q := fun _ _ => True) (fun _ _ _ => .pure trivial) (noted _)
    · intro c s' t held recorded passed
      obtain ⟨u, ran, rfl⟩ := finalGate_eq_ok passed
      cases ran
      have apart : Apart Own s' { s' with
          nativeRequestInflightRefs := s'.nativeRequestInflightRefs + 1 } := Apart.of_same rfl rfl rfl
      exact ⟨apart.recorded recorded, fun other _ => apart.spares other, held⟩
    · intro s' held recorded
      obtain ⟨kept, considerate⟩ := enter_keeps recorded held
      exact ⟨kept, considerate, trivial⟩
    · intro s' recorded
      have apart : Apart Own s' s'.leave := Apart.of_same rfl rfl rfl
      exact ⟨apart.recorded recorded, fun other _ => apart.spares other, id, id⟩
  · cases checked : admitAction request intent c s' with
    | error e =>
      exact ⟨recorded, fun other _ => Spares.refl other s', fun _ came => (by cases came),
        fun _ _ => trivial⟩
    | ok found =>
      obtain ⟨kept, considerate, held⟩ := record_keeps recorded checked
      refine ⟨kept, considerate, fun admitted came => ?_, fun _ _ => trivial⟩
      cases came
      exact held

/-! ## Runs -/

theorem disturbance_apart (action : Disturbance) (s : Client) : Apart Own s (action.act s) := by
  cases action with
  | insertCallback key evidence | session api callbackIngress scope | request requestType =>
    exact Apart.of_same rfl rfl rfl
  | actionCallback key evidence =>
    exact ⟨fun _ => Register.mem_mapValues _ _ _, rfl, fun _ mem _ _ => mem⟩

/-- An order that is sent with a lease, or a cancel under another key. -/
theorem leased_keeps {call : NativeCall} (foreign : call.kind = .action → ¬ Own call.key)
    (s : Client) :
    Keeps Own caller (fun _ _ => True) (submitWithManagedNativeCallLease call) s := by
  refine .bind (fun _ s₁ _ => ?_) (keeps_apart fun c s => ?_)
  · refine .bind (fun outcome s₂ _ => ?_) (keeps_apart fun _ s => enter_apart foreign s)
    refine .bind (fun lifecycleInvalid s₃ _ => ?_) (keeps_apart fun _ s =>
      Apart.of_same rfl rfl rfl)
    cases outcome with
    | error e => exact .throw trivial
    | ok value =>
      dsimp only
      split
      · exact .throw trivial
      · exact .pure trivial
  · cases leaseGate c s with
    | error e | ok _ => exact Apart.of_same rfl rfl rfl

/-- As long as no cancel under such a key is sent with a lease. -/
theorem desk_sound : desk.Sound (Recorded Own) (Spares Own) (Considerate Own) (fun _ _ => True)
    fun _ event => ∀ key, leasedCancel event = some key → ¬ Own key where
  rely_refl := Spares.refl
  rely_trans := Spares.trans
  still _ := trivial
  beside _ other _ _ differs considerate := considerate other differs
  within _ _ _ _ := trivial
  starts m submission s unleased recorded accepted := by
    cases accepted
    refine ⟨recorded, trivial, fun other _ => Spares.refl other _, ?_⟩
    refine .bind (Q := fun _ _ => True) (fun _ _ _ => .pure trivial) ?_
    obtain ⟨caller, how⟩ := submission
    cases how with
    | direct command =>
      cases command with
      | insert request => exact submitOrderInsert_keeps caller request _
      | action request => exact submitOrderAction_keeps caller request _
    | leased kind key =>
      refine leased_keeps (fun action => ?_) _
      cases action
      exact unleased key rfl
  finishes _ s recorded := ⟨recorded, trivial, fun other _ => Spares.refl other s⟩
  exits _ s recorded := ⟨recorded, trivial, fun other _ => Spares.refl other s⟩
  outside m action _ recorded :=
    have apart := disturbance_apart action m.shared
    ⟨apart.recorded recorded, trivial, apart.spares⟩

/-- A new client. -/
def Client.fresh (scope : Scope) : Client := { scope }

theorem recorded_fresh (scope : Scope) : Recorded Own (Client.fresh scope) :=
  ⟨fun _ _ theirs => (by cases theirs), fun _ mem => absurd mem List.not_mem_nil,
    fun _ mem => absurd mem (AList.notMem_empty _)⟩

end BtApiCtp.Submission
