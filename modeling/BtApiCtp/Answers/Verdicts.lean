/-
# Answers.Verdicts -- what becomes of a status as callbacks come in

`status_rises_iff`: a recorded status falls exactly when a rejected request gets a matching
callback that decides nothing, and the order in which callbacks come in does not matter
exactly when they do not bring both such a callback and a rejection.
-/
import BtApiCtp.Answers.Ledger

namespace BtApiCtp.Answers

open Theory Session

variable {vs : List Status}

/-! ## The order of statuses -/

def Status.rank : Status → Nat
  | .unknown => 0
  | .accepted => 1
  | .rejected => 2

theorem Status.rank_injective : Function.Injective Status.rank := by
  intro x y same
  cases x <;> cases y <;> first | rfl | cases same

/-- `unknown < accepted < rejected`. -/
instance : LinearOrder Status := LinearOrder.lift' Status.rank Status.rank_injective

/-- Only against a callback that decides nothing does a rejection not stand. -/
theorem settle_eq (old new : Status) :
    settle old new = if old = .rejected ∧ new = .unknown then .unknown else max old new := by
  cases old <;> cases new <;> decide

theorem settle_lt_iff (old new : Status) :
    settle old new < old ↔ old = .rejected ∧ new = .unknown := by
  cases old <;> cases new <;> decide

/-! ## Looking into the history -/

namespace Ledger

variable {kind : Kind} {l l' : Ledger kind} {key k : RequestKey} {f : Entry kind → Entry kind}
  {cb : Callback kind} {d : Delivery kind}

theorem lookup_update : (l.update key f).entries.lookup k =
    if k = key then (l.entries.lookup k).map f else l.entries.lookup k := by
  rw [update, Dict.lookup_mapValues]
  split
  · rfl
  · exact Option.map_id'

theorem keys_update : (l.update key f).entries.keys = l.entries.keys := by
  simp [update, AList.keys, List.keys, Dict.mapValues, Function.comp_def]

theorem mem_candidates (member : key ∈ l.candidates cb) : key ∈ l.entries.keys := by
  unfold candidates at member
  cases source : cb.source with
  | response =>
    simp only [source] at member
    split at member
    · exact (List.mem_filter.mp member).1
    · exact (List.mem_filter.mp (List.mem_filter.mp member).1).1
  | errorReturn =>
    simp only [source] at member
    split at member <;> split at member <;> simp_all

theorem lookup_of_target (found : l.target cb = some key) :
    ∃ entry, l.entries.lookup key = some entry := by
  have member : key ∈ l.candidates cb := by
    unfold target at found
    split at found
    · rename_i only
      rw [only, Option.some.inj found]
      exact List.mem_singleton.mpr rfl
    · cases found
  exact Option.isSome_iff_exists.mp (AList.lookup_isSome.mpr (mem_candidates member))

/-- The request that a callback is about depends on what was sent, not on what came back. -/
theorem target_congr (sameKeys : l'.entries.keys = l.entries.keys)
    (sameIdentity : ∀ k, (l'.entries.lookup k).map Entry.identity =
      (l.entries.lookup k).map Entry.identity) : l'.target cb = l.target cb := by
  have same : l'.candidates cb = l.candidates cb := by
    simp only [candidates, sameKeys, sameIdentity]
  rw [target, target, same]

end Ledger

/-! ## One callback -/

section Record

variable {kind : Kind} {entry entry' : Entry kind} {scope : Scope} {cb : Callback kind} {now : Int}

/-- The callback is about this request, in its session. -/
def Entry.Matches (entry : Entry kind) (scope : Scope) (cb : Callback kind) : Prop :=
  entry.identityMatches cb = true ∧ entry.scopeMatches scope = true

instance (entry : Entry kind) (scope : Scope) (cb : Callback kind) :
    Decidable (entry.Matches scope cb) := inferInstanceAs (Decidable (_ ∧ _))

/-- A matching callback has the number and the fields that the request was sent with. -/
theorem judge_of_matches (fits : entry.Matches scope cb) :
    judge scope entry cb = judgeFitting kind cb := by
  have same : entry.identity = cb.identity := by simpa [Entry.identityMatches] using fits.1
  obtain ⟨numbered, present, isCancel⟩ := entry.admissible
  rw [same] at numbered present isCancel
  simp [judge, fits.1, fits.2, numbered, present, isCancel]

theorem judge_of_not_matches (stray : ¬ entry.Matches scope cb) :
    (judge scope entry cb).status = .unknown := by
  unfold judge
  split
  · rfl
  · rename_i matching
    split
    · rfl
    · split
      · rfl
      · rename_i inScope
        exact absurd ⟨by simpa using matching, by simpa using inScope⟩ stray

theorem record_eq_some (recorded : entry.record scope cb now = some entry') :
    (entry.evidence.status = .unknown ∨ entry.Matches scope cb) ∧
    entry'.identity = entry.identity ∧
    entry'.evidence.requestId = entry.evidence.requestId ∧
    entry'.evidence.accountFingerprint = entry.evidence.accountFingerprint ∧
    entry'.evidence.connectionGeneration = entry.evidence.connectionGeneration ∧
    entry'.evidence.tradingDay = entry.evidence.tradingDay ∧
    entry'.evidence.evidenceSource = some cb.source ∧
    entry'.evidence.callbackReceived = true ∧
    entry'.evidence.evidenceReceived = (judge scope entry cb).evidenceReceived ∧
    entry'.evidence.errorCode = (rspError cb.rspInfo).1 ∧
    entry'.evidence.status = settle entry.evidence.status (judge scope entry cb).status := by
  unfold Entry.record at recorded
  split at recorded
  · cases recorded
  · rename_i free
    cases recorded
    refine ⟨?_, rfl, rfl, rfl, rfl, rfl, rfl, rfl, rfl, rfl, rfl⟩
    by_cases open_ : entry.evidence.status = .unknown
    · exact .inl open_
    · right
      simpa [Entry.Matches, open_] using free

theorem record_eq_none (ignored : entry.record scope cb now = none) : ¬ entry.Matches scope cb := by
  unfold Entry.record at ignored
  split at ignored
  · rename_i stray
    rintro ⟨matching, inScope⟩
    rcases stray.2 with other | other
    · rw [matching] at other
      cases other
    · rw [inScope] at other
      cases other
  · cases ignored

end Record

namespace Ledger

variable {kind : Kind} {l : Ledger kind} {key : RequestKey} {d : Delivery kind}

variable (l : Ledger kind)

/-- What a callback says about a request that it matches. -/
def verdict (key : RequestKey) (d : Delivery kind) : Option Status :=
  if d.current = true ∧ l.target d.callback = some key then
    (l.entries.lookup key).bind fun entry =>
      if entry.Matches l.scope d.callback then some (judgeFitting kind d.callback).status else none
  else none

/-- Everything that a callback can do. -/
theorem deliver_cases (d : Delivery kind) :
    ((l.deliver d = l ∨ l.deliver d = l.late) ∧ ∀ key, l.verdict key d = none) ∨
    ∃ key entry entry', d.current = true ∧ l.target d.callback = some key ∧
      l.entries.lookup key = some entry ∧
      entry.record l.scope d.callback d.now = some entry' ∧
      l.deliver d = l.update key fun _ => entry' := by
  by_cases current : d.current = true
  · cases found : l.target d.callback with
    | none =>
      refine .inl ⟨.inr ?_, fun key => ?_⟩
      · simp [deliver, current, found]
      · simp [verdict, found]
    | some key =>
      obtain ⟨entry, here⟩ := lookup_of_target found
      cases recorded : entry.record l.scope d.callback d.now with
      | none =>
        have stray := record_eq_none recorded
        refine .inl ⟨.inr ?_, fun k => ?_⟩
        · simp [deliver, current, found, here, recorded]
        · by_cases same : key = k
          · subst same
            simp [verdict, found, here, stray]
          · simp [verdict, found, same]
      | some entry' =>
        exact .inr ⟨key, entry, entry', current, rfl, here, recorded,
          by simp [deliver, current, found, here, recorded]⟩
  · refine .inl ⟨.inl ?_, fun key => ?_⟩
    · simp [deliver, current]
    · simp [verdict, current]

theorem deliver_scope (d : Delivery kind) : (l.deliver d).scope = l.scope := by
  obtain ⟨same | same, -⟩ | ⟨_, _, _, -, -, -, -, same⟩ := l.deliver_cases d <;> rw [same] <;> rfl

theorem deliver_keys (d : Delivery kind) :
    (l.deliver d).entries.keys = l.entries.keys := by
  obtain ⟨same | same, -⟩ | ⟨_, _, _, -, -, -, -, same⟩ := l.deliver_cases d
  · rw [same]
  · rw [same, late]
  · rw [same, keys_update]

/-- What a request was sent under, and in which session. -/
def Entry.sent (entry : Entry kind) : kind.Identity × String × Int × String :=
  (entry.identity, entry.evidence.accountFingerprint, entry.evidence.connectionGeneration,
    entry.evidence.tradingDay)

theorem deliver_sent (d : Delivery kind) (key : RequestKey) :
    ((l.deliver d).entries.lookup key).map Entry.sent = (l.entries.lookup key).map Entry.sent := by
  obtain ⟨same | same, -⟩ | ⟨target, entry, entry', -, -, here, recorded, same⟩ := l.deliver_cases d
  · rw [same]
  · rw [same, late]
  · rw [same, lookup_update]
    split
    · rename_i at_
      obtain ⟨-, identity, -, account, generation, day, -⟩ := record_eq_some recorded
      rw [at_, here]
      simp [Entry.sent, identity, account, generation, day]
    · rfl

/-- A callback says the same before and after another one. -/
theorem verdict_deliver (d d' : Delivery kind) (key : RequestKey) :
    (l.deliver d').verdict key d = l.verdict key d := by
  have sent := l.deliver_sent d'
  have target : (l.deliver d').target d.callback = l.target d.callback := by
    apply target_congr (l.deliver_keys d')
    intro k
    have same := congrArg (Option.map Prod.fst) (sent k)
    rw [Option.map_map, Option.map_map] at same
    exact same
  unfold verdict
  rw [target, l.deliver_scope d']
  have same := sent key
  cases before : l.entries.lookup key with
  | none =>
    rw [before] at same
    rw [Option.map_eq_none_iff.mp same]
  | some entry =>
    rw [before] at same
    obtain ⟨entry', after, alike⟩ := Option.map_eq_some_iff.mp same
    simp only [Entry.sent, Prod.mk.injEq] at alike
    obtain ⟨identity, account, generation, day⟩ := alike
    rw [after]
    simp [Entry.Matches, Entry.identityMatches, Entry.scopeMatches, identity, account,
      generation, day]

/-- What a callback does to a status is decided by its verdict. -/
theorem status_deliver (d : Delivery kind) (key : RequestKey) :
    (l.deliver d).status key = match l.verdict key d with
      | some new => (l.status key).map fun old => settle old new
      | none => l.status key := by
  obtain ⟨same | same, silent⟩ | ⟨target, entry, entry', current, found, here, recorded, same⟩ :=
    l.deliver_cases d
  · rw [same, silent key]
  · rw [same, silent key]
    rfl
  · rw [same]
    by_cases at_ : key = target
    · subst at_
      obtain ⟨free, -, -, -, -, -, -, -, -, -, settled⟩ := record_eq_some recorded
      simp only [status, lookup_update, here, verdict, current, found, and_self, if_true,
        Option.map_some, Option.bind_some, settled]
      by_cases fits : entry.Matches l.scope d.callback
      · simp [fits, judge_of_matches fits]
      · -- a callback that does not match can only meet a request that is still open
        have open_ := free.resolve_right fits
        simp [fits, judge_of_not_matches fits, open_, settle]
    · simp [status, lookup_update, at_, verdict, found, Ne.symm at_]

end Ledger

/-! ## Statuses along a run -/

namespace Ledger

variable {kind : Kind} {l : Ledger kind} {key : RequestKey} {old new : Status}
  (ds : List (Delivery kind))

/-- Nothing but a callback changes a status. -/
theorem status_step {event : Event kind} (quiet : ∀ d, event ≠ .callback d)
    (before : l.status key = some old) (after : (l.step event).status key = some new) :
    new = old := by
  have unchanged : ∀ f : Entry kind → Entry kind,
      (∀ entry, (f entry).evidence.status = entry.evidence.status) → ∀ k,
      (l.update k f).status key = l.status key := by
    intro f kept k
    simp only [status, lookup_update]
    split
    · rw [Option.map_map]
      exact congrArg (Option.map · (l.entries.lookup key)) (funext kept)
    · rfl
  have same : (l.step event).status key = l.status key := by
    cases event with
    | submit requestId identity =>
      simp only [step, submit]
      split
      · split
        · rfl
        · rename_i unused
          have other : key ≠ (requestId, kind.ref identity) := by
            rintro rfl
            obtain ⟨entry, here, -⟩ := Option.map_eq_some_iff.mp before
            apply unused
            rw [Trader.usedRequestId, List.any_eq_true]
            exact ⟨_, Dict.mem_items.mpr here, by simp⟩
          simp [status, other]
      · rfl
    | withdraw k =>
      simp only [step, withdraw] at after ⊢
      split at after
      · split at after
        · rename_i removed
          simp only [status, Dict.lookup_erase_eq] at after ⊢
          split at after
          · cases after
          · rename_i other
            simp [other, removed]
        · rename_i kept
          simp [kept]
      · rfl
    | raised k =>
      apply unchanged
      intro entry
      split <;> rfl
    | returned k submitCode =>
      apply unchanged
      intro entry
      rfl
    | callback d => exact absurd rfl (quiet d)
    | orderReturn => rfl
    | session scope => rfl
  rw [same, before] at after
  exact (Option.some.inj after).symm

/-- No callback on the way lowers the status. -/
def Rising (l : Ledger kind) (key : RequestKey) : List (Delivery kind) → Prop
  | [] => True
  | d :: ds =>
    (∀ old new, l.status key = some old → (l.deliver d).status key = some new → old ≤ new) ∧
      (l.deliver d).Rising key ds

theorem status_deliverAll :
    ∀ l : Ledger kind, (l.deliverAll ds).status key =
      (l.status key).map fun old => (ds.filterMap (l.verdict key)).foldl settle old := by
  induction ds with
  | nil =>
    intro l
    simp [deliverAll]
  | cons d ds ih =>
    intro l
    have same : (l.deliver d).verdict key = l.verdict key :=
      funext fun d' => l.verdict_deliver d' d key
    rw [deliverAll, List.foldl_cons, ← deliverAll, ih, same, status_deliver]
    cases said : l.verdict key d with
    | none => simp [said]
    | some new => simp [said, Function.comp_def]

/-- The verdicts that come in do not bring a callback that decides nothing to a rejected
request, in any order. -/
def Decisive (old : Status) (verdicts : List Status) : Prop :=
  ¬ ((old = .rejected ∨ Status.rejected ∈ verdicts) ∧ Status.unknown ∈ verdicts)

theorem Decisive.cons {old v : Status} (decisive : Decisive old (v :: vs)) :
    settle old v = max old v ∧ Decisive (max old v) vs := by
  simp only [Decisive, List.mem_cons, not_and_or, not_or] at decisive ⊢
  constructor
  · rw [settle_eq, if_neg]
    rintro ⟨rfl, rfl⟩
    simp at decisive
  · rcases decisive with ⟨notRejected, ⟨first, rest⟩⟩ | ⟨_, rest⟩
    · left
      refine ⟨?_, rest⟩
      revert notRejected first
      cases old <;> cases v <;> decide
    · exact .inr rest

/-- Then the status is the highest of all. -/
theorem foldl_settle :
    ∀ {old : Status}, Decisive old vs → vs.foldl settle old = vs.foldl max old := by
  induction vs with
  | nil =>
    intro old _
    rfl
  | cons v vs ih =>
    intro old decisive
    obtain ⟨settled, rest⟩ := decisive.cons
    rw [List.foldl_cons, List.foldl_cons, settled, ih rest]

theorem Decisive.perm {old : Status} {vs' : List Status} (same : vs'.Perm vs) :
    Decisive old vs' ↔ Decisive old vs := by
  simp only [Decisive, same.mem_iff]

theorem rising_of_decisive :
    ∀ {l : Ledger kind} {old : Status}, l.status key = some old →
      Decisive old (ds.filterMap (l.verdict key)) → l.Rising key ds := by
  induction ds with
  | nil =>
    intro l old _ _
    trivial
  | cons d ds ih =>
    intro l old before decisive
    have same : (l.deliver d).verdict key = l.verdict key :=
      funext fun d' => l.verdict_deliver d' d key
    have after := l.status_deliver d key
    cases said : l.verdict key d with
    | none =>
      simp only [said, before] at after
      simp only [List.filterMap_cons, said] at decisive
      refine ⟨fun o n was is => ?_, ih after (by rwa [same])⟩
      rw [before] at was
      rw [after] at is
      exact le_of_eq (Option.some.inj (was.symm.trans is))
    | some v =>
      simp only [List.filterMap_cons, said] at decisive
      obtain ⟨settled, rest⟩ := decisive.cons
      simp only [said, before, Option.map_some, settled] at after
      refine ⟨fun o n was is => ?_, ih after (by rwa [same])⟩
      rw [before] at was
      rw [after] at is
      rw [← Option.some.inj was, ← Option.some.inj is]
      exact le_max_left old v

/-- A callback that decides nothing, right after a rejection, lowers the status. -/
theorem not_rising {ds : List (Delivery kind)} {old : Status} (before : l.status key = some old)
    (indecisive : ¬ Decisive old (ds.filterMap (l.verdict key))) :
    ∃ order, order.Perm ds ∧ ¬ l.Rising key order := by
  simp only [Decisive, not_not, List.mem_filterMap] at indecisive
  obtain ⟨rejecting, u, undecided, saysNothing⟩ := indecisive
  have falls : ∀ {l' : Ledger kind}, l'.status key = some .rejected →
      l'.verdict key u = some .unknown → ∀ ds, ¬ l'.Rising key (u :: ds) := by
    intro l' was said ds rising
    have after := l'.status_deliver u key
    simp only [said, was, Option.map_some] at after
    exact absurd (rising.1 _ _ was after) (by decide)
  rcases rejecting with rfl | ⟨r, rejects, tells⟩
  · exact ⟨u :: ds.erase u, (List.perm_cons_erase undecided).symm, falls before saysNothing _⟩
  · have distinct : u ≠ r := by
      rintro rfl
      rw [tells] at saysNothing
      cases saysNothing
    have inRest : u ∈ ds.erase r := (List.mem_erase_of_ne distinct).mpr undecided
    refine ⟨r :: u :: (ds.erase r).erase u, ?_, ?_⟩
    · exact (((List.perm_cons_erase inRest).symm).cons r).trans (List.perm_cons_erase rejects).symm
    · intro rising
      have after := l.status_deliver r key
      have rejected : settle old .rejected = .rejected := by cases old <;> rfl
      simp only [tells, before, Option.map_some, rejected] at after
      exact falls after (by rw [verdict_deliver, saysNothing]) _ rising.2

end Ledger

/-- Whatever happens, the status of a request falls exactly when it is rejected and gets a
matching callback that decides nothing.  And of the orders in which callbacks can come in,
all raise the status and end in the same one, exactly when there is no such callback next to
a rejection. -/
theorem status_rises_iff (kind : Kind) (l : Ledger kind) (key : RequestKey) (old : Status)
    (recorded : l.status key = some old) :
    (∀ event new, (l.step event).status key = some new → (new < old ↔ old = .rejected ∧
        ∃ d, event = .callback d ∧ l.verdict key d = some .unknown)) ∧
    ∀ ds : List (Delivery kind), ((∀ order, order.Perm ds → l.Rising key order ∧
          (l.deliverAll order).status key = (l.deliverAll ds).status key) ↔
        ¬ ((old = .rejected ∨ ∃ d ∈ ds, l.verdict key d = some .rejected) ∧
          ∃ d ∈ ds, l.verdict key d = some .unknown)) := by
  constructor
  · intro event new after
    cases event with
    | callback d =>
      have settled := l.status_deliver d key
      change (l.deliver d).status key = some new at after
      rw [after, recorded] at settled
      cases said : l.verdict key d with
      | none =>
        simp only [said, Option.some.injEq] at settled
        simp [settled, said]
      | some v =>
        simp only [said, Option.map_some, Option.some.injEq] at settled
        rw [settled, settle_lt_iff]
        simp [said]
    | _ =>
      have same := Ledger.status_step (by simp) recorded after
      simp [same]
  · intro ds
    have decisive_iff : Ledger.Decisive old (ds.filterMap (l.verdict key)) ↔
        ¬ ((old = .rejected ∨ ∃ d ∈ ds, l.verdict key d = some .rejected) ∧
          ∃ d ∈ ds, l.verdict key d = some .unknown) := by
      simp [Ledger.Decisive]
    rw [← decisive_iff]
    constructor
    · intro orders
      by_contra indecisive
      obtain ⟨order, perm, falls⟩ := Ledger.not_rising recorded indecisive
      exact falls (orders order perm).1
    · intro decisive order perm
      have same := perm.filterMap (l.verdict key)
      have decisive' := (Ledger.Decisive.perm same).mpr decisive
      refine ⟨Ledger.rising_of_decisive order recorded decisive', ?_⟩
      rw [Ledger.status_deliverAll, Ledger.status_deliverAll, recorded, Option.map_some,
        Option.map_some, Ledger.foldl_settle decisive', Ledger.foldl_settle decisive]
      congr 1
      exact same.foldl_eq' (fun x _ y _ z => max_right_comm z x y) old

/-- A request as it is sent, and the callbacks it can get. -/
def sampleIdentity : (kind : Kind) → kind.Identity
  | .insert =>
    { brokerId := "9999", investorId := "u1", userId := "u1", instrumentId := "rb2610",
      exchangeId := "SHFE", orderRef := "1", fieldRequestId := some 5 : OrderInsertIdentity }
  | .action =>
    { brokerId := "9999", investorId := "u1", orderActionRef := "1", orderRef := "1",
      fieldRequestId := some 5, frontId := some 7, sessionId := some 11, exchangeId := "SHFE",
      orderSysId := "", actionFlag := "0", instrumentId := "rb2610" : OrderActionIdentity }

def sampleLedger (kind : Kind) : Ledger kind :=
  Ledger.submit ⟨⟨"f1", 3, "20260917"⟩, ∅, 0⟩ 5 (sampleIdentity kind)

def sampleCallback (kind : Kind) (source : Source) (errorId : Option Int) : Delivery kind where
  current := true
  callback :=
    { source
      identity := sampleIdentity kind
      rspInfo := errorId.map fun code => { errorId := some code }
      requestId := some 5
      isLast := some true }
  now := 0

/-- A rejection that comes twice, in either order. -/
theorem status_rises_iff_twice :
    (sampleLedger .insert).status (5, "1") = some .unknown ∧
    ∀ order, order.Perm [sampleCallback .insert .response (some 22),
        sampleCallback .insert .errorReturn (some 22)] →
      (sampleLedger .insert).Rising (5, "1") order := by
  refine ⟨by decide, fun order perm => ?_⟩
  exact (((status_rises_iff .insert (sampleLedger .insert) (5, "1") .unknown (by decide)).2 _).mpr
    (by decide) order perm).1

/-- An order and a cancel that were rejected are unknown again once an error return without
error information comes in; the other way round they stay rejected. -/
theorem rejection_forgotten :
    ((sampleLedger .insert).deliver (sampleCallback .insert .response (some 22))).status (5, "1") =
      some .rejected ∧
    ((sampleLedger .insert).deliverAll [sampleCallback .insert .response (some 22),
      sampleCallback .insert .errorReturn none]).status (5, "1") = some .unknown ∧
    ((sampleLedger .insert).deliverAll [sampleCallback .insert .errorReturn none,
      sampleCallback .insert .response (some 22)]).status (5, "1") = some .rejected ∧
    ((sampleLedger .action).deliver (sampleCallback .action .response (some 26))).status (5, "1") =
      some .rejected ∧
    ((sampleLedger .action).deliverAll [sampleCallback .action .response (some 26),
      sampleCallback .action .errorReturn none]).status (5, "1") = some .unknown := by
  decide

end BtApiCtp.Answers
