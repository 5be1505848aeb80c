/-
# ClosePlan.Allocation -- a plan closes what was asked, from rows that have it

What one leg's actions do is `Settles`, and both allocation routines come to it
(`splitActions_settles`, `genericActions_settles`).  Legs have distinct keys and rows distinct
identities, so no row is drawn on for two legs, and the parts of the legs add up to a plan that
is `Balanced` (`built_plan_balanced`).
-/
import BtApiCtp.ClosePlan.Planner

namespace BtApiCtp.ClosePlan

open Theory Python

variable {tradingDay : String} {leg : Leg} {terms : Terms} {part : List RawAction × List Offset}
  {date : PositionDate} {platform : Platform} {plan : CtpClosePlan} (holdings : Holdings tradingDay)

/-! ## Rows and their keys -/

variable {row other : PositionRow tradingDay} {rows : List (PositionRow tradingDay)}

theorem PositionDate.text_injective : Function.Injective PositionDate.text := by
  intro a b same
  cases a <;> cases b <;> simp_all [PositionDate.text]

theorem PosiDirection.text_injective : Function.Injective PosiDirection.text := by
  intro a b same
  cases a <;> cases b <;> simp_all [PosiDirection.text]

theorem sourceRowKeys_eq_iff :
    row.sourceRowKeys = other.sourceRowKeys ↔
      row.target = other.target ∧ row.positionDate = other.positionDate := by
  simp only [PositionRow.sourceRowKeys, PositionRow.target, List.cons.injEq, Prod.mk.injEq,
    true_and, and_true, PosiDirection.text_injective.eq_iff, PositionDate.text_injective.eq_iff]
  tauto

theorem identity_eq_iff :
    row.identity = other.identity ↔ row.sourceRowKeys = other.sourceRowKeys := by
  rw [sourceRowKeys_eq_iff]
  simp only [PositionRow.identity, PositionRow.target, Prod.mk.injEq, and_true]
  tauto

/-- Among the rows of a query, the keys tell which row it is. -/
theorem Holdings.row_of_keys (here : row ∈ holdings.rows)
    (there : other ∈ holdings.rows) (same : row.sourceRowKeys = other.sourceRowKeys) :
    row = other :=
  List.inj_on_of_nodup_map holdings.distinct here there (identity_eq_iff.mpr same)

theorem Leg.mem_matching : row ∈ leg.matching rows ↔ row ∈ rows ∧ row.target = leg.target := by
  simp [Leg.matching]

theorem Leg.target_eq_iff {other : Leg} : leg.target = other.target ↔ leg.key = other.key := by
  have sides : (directionToSide leg.positionSide).1 = (directionToSide other.positionSide).1 ↔
      leg.positionSide = other.positionSide := by
    cases leg.positionSide <;> cases other.positionSide <;> simp [directionToSide]
  simp only [Leg.target, Leg.key, Prod.mk.injEq, sides]
  tauto

/-! ## Buckets -/

theorem mem_of_byDate (found : byDate rows date = some row) :
    row ∈ rows ∧ row.positionDate = date := by
  have member := List.mem_reverse.mp (List.mem_of_find?_eq_some found)
  have dated := List.find?_some found
  exact ⟨member, by simpa using dated⟩

theorem byDate_isSome (member : row ∈ rows) :
    ∃ found, byDate rows row.positionDate = some found := by
  apply Option.isSome_iff_exists.mp
  apply List.find?_isSome.mpr
  exact ⟨row, List.mem_reverse.mpr member, by simp⟩

theorem mem_of_buckets {dates : List PositionDate}
    (member : row ∈ dates.filterMap (byDate rows)) : row ∈ rows := by
  obtain ⟨_, _, found⟩ := List.mem_filterMap.mp member
  exact (mem_of_byDate found).1

/-- The buckets stand in the order of their dates. -/
theorem buckets_dates (rows : List (PositionRow tradingDay)) (dates : List PositionDate) :
    ((dates.filterMap (byDate rows)).map PositionRow.positionDate).Sublist dates := by
  induction dates with
  | nil => exact List.Sublist.slnil
  | cons date dates ih =>
    cases found : byDate rows date with
    | none =>
      rw [List.filterMap_cons_none found]
      exact ih.cons _
    | some row =>
      rw [List.filterMap_cons_some found, List.map_cons, (mem_of_byDate found).2]
      exact ih.cons_cons _

theorem Priority.order_nodup (priority : Priority) : priority.order.Nodup := by
  cases priority <;> decide

/-- No two buckets are the same row. -/
theorem buckets_distinct (rows : List (PositionRow tradingDay)) (priority : Priority) :
    ((priority.order.filterMap (byDate rows)).map PositionRow.sourceRowKeys).Nodup := by
  have dates := priority.order_nodup.sublist (buckets_dates rows priority.order)
  rw [List.Nodup, List.pairwise_map] at dates ⊢
  refine dates.imp fun apart same => apart ?_
  exact (sourceRowKeys_eq_iff.mp same).2

/-! ## One leg -/

/-- What actions draw from a row. -/
def drawnBy (row : PositionRow tradingDay) (actions : List RawAction) : Nat :=
  Drawdown.total RawAction.sourceRowKeys RawAction.quantity row.sourceRowKeys actions

/-- What the actions of one leg come to. -/
structure Settles (rows : List (PositionRow tradingDay)) (priority : Priority) (leg : Leg)
    (actions : List RawAction) : Prop where
  total : (actions.map RawAction.quantity).sum = leg.quantity
  positive : ∀ action ∈ actions, 0 < action.quantity
  belongs : ∀ action ∈ actions, action.legKey = leg.key
  closing : ∀ action ∈ actions, action.side = (directionToSide leg.positionSide).2
  /-- Every action names a row of the leg, and lots of its date if it names lots at all. -/
  drawn : ∀ action ∈ actions, ∃ row ∈ rows, row.target = leg.target ∧
    action.sourceRowKeys = row.sourceRowKeys ∧
      (action.offset = .close ∨ action.offset = row.positionDate.offset)
  bounded : ∀ row ∈ rows, drawnBy row actions ≤ row.position
  /-- The second bucket comes into play only where the first is used up. -/
  ordered : ∀ first second, priority.order = [first, second] →
    (∃ action ∈ actions, action.offset = second.offset) →
      ∀ row ∈ rows, row.target = leg.target → row.positionDate = first →
        drawnBy row actions = row.position

theorem drawnBy_split (terms : Terms) (leg : Leg) (row : PositionRow tradingDay)
    (draws : List (PositionRow tradingDay × Nat)) :
    drawnBy row (draws.map (splitAction terms leg)) =
      Drawdown.totalDrawn PositionRow.sourceRowKeys row.sourceRowKeys draws :=
  Drawdown.total_map _ _ _ _ _

theorem PositionDate.offset_injective : Function.Injective PositionDate.offset := by
  intro a b same
  cases a <;> cases b <;> simp_all [PositionDate.offset]

/-- `_split_actions` draws on the buckets until nothing remains. -/
theorem splitActions_settles (came : splitActions terms holdings.rows leg = .ok part) :
    Settles holdings.rows terms.request.priority leg part.1 := by
  simp only [splitActions, bind_eq_ok_iff, pure_eq_ok_iff, check_eq_ok_iff, beq_iff_eq] at came
  obtain ⟨_, _, _, _, _, _, _, _, _, nothing, rfl⟩ := came
  have distinct := buckets_distinct (leg.matching holdings.rows) terms.request.priority
  constructor
  case total =>
    have conserved := Drawdown.draw_conserves PositionRow.position leg.quantity
      (terms.request.priority.order.filterMap (byDate (leg.matching holdings.rows)))
    rw [nothing, Nat.add_zero] at conserved
    rw [List.map_map]
    exact conserved
  case positive =>
    intro action member
    obtain ⟨entry, drawn, rfl⟩ := List.mem_map.mp member
    exact (Drawdown.draw_spec _ drawn).2.1
  case belongs =>
    intro action member
    obtain ⟨entry, _, rfl⟩ := List.mem_map.mp member
    rfl
  case closing =>
    intro action member
    obtain ⟨entry, _, rfl⟩ := List.mem_map.mp member
    rfl
  case drawn =>
    intro action member
    obtain ⟨entry, drawn, rfl⟩ := List.mem_map.mp member
    have bucket := mem_of_buckets (Drawdown.draw_spec _ drawn).1
    obtain ⟨among, target⟩ := Leg.mem_matching.mp bucket
    exact ⟨entry.1, among, target, rfl, .inr rfl⟩
  case bounded =>
    intro row member
    rw [drawnBy_split]
    by_cases bucket : row ∈ terms.request.priority.order.filterMap
        (byDate (leg.matching holdings.rows))
    · exact Drawdown.totalDrawn_le distinct bucket
    · have none_ : ∀ other ∈ terms.request.priority.order.filterMap
          (byDate (leg.matching holdings.rows)), other.sourceRowKeys ≠ row.sourceRowKeys := by
        intro other among same
        have inside := (Leg.mem_matching.mp (mem_of_buckets among)).1
        exact bucket (holdings.row_of_keys inside member same ▸ among)
      rw [Drawdown.totalDrawn_absent none_]
      exact Nat.zero_le _
  case ordered =>
    intro first second order used row member target dated
    rw [drawnBy_split]
    rw [order] at distinct used ⊢
    -- the first bucket is this very row, since its date and target are
    obtain ⟨found, here⟩ := byDate_isSome (Leg.mem_matching.mpr ⟨member, target⟩)
    obtain ⟨among, foundDate⟩ := mem_of_byDate here
    obtain ⟨inside, foundTarget⟩ := Leg.mem_matching.mp among
    have itself : found = row := holdings.row_of_keys inside member
      (sourceRowKeys_eq_iff.mpr ⟨foundTarget.trans target.symm, foundDate⟩)
    rw [itself, dated] at here
    rw [List.filterMap_cons_some here] at distinct used ⊢
    obtain ⟨action, later, offset⟩ := used
    obtain ⟨entry, drawn, rfl⟩ := List.mem_map.mp later
    rw [Drawdown.totalDrawn_head distinct]
    rcases (Drawdown.mem_draw_cons _).mp drawn with ⟨_, rfl⟩ | rest
    · have twice : first = second := dated.symm.trans (PositionDate.offset_injective offset)
      have nodup := terms.request.priority.order_nodup
      rw [order, twice] at nodup
      simp at nodup
    · exact Drawdown.draw_in_order _ rest

/-- `_generic_actions` closes the whole leg from the one row it has. -/
theorem genericActions_eq_ok (came : genericActions terms rows leg = .ok part) :
    ∃ row, leg.matching rows = [row] ∧ leg.quantity ≤ row.position ∧ ∃ age,
      part.1 = [actionWithoutId terms leg row .close leg.quantity age] := by
  simp only [genericActions, bind_eq_ok_iff, pure_eq_ok_iff, check_eq_ok_iff,
    decide_eq_true_eq] at came
  obtain ⟨_, _, row, combined, _, _, _, enough, _, _, _, _, rfl⟩ := came
  refine ⟨row, ?_, enough, _, rfl⟩
  unfold combinedRow at combined
  split at combined
  · rename_i only alone
    simp only [bind_eq_ok_iff, pure_eq_ok_iff] at combined
    obtain ⟨_, _, rfl⟩ := combined
    exact alone
  · cases combined

theorem genericActions_settles (came : genericActions terms holdings.rows leg = .ok part) :
    Settles holdings.rows terms.request.priority leg part.1 := by
  obtain ⟨row, alone, enough, age, same⟩ := genericActions_eq_ok came
  obtain ⟨among, target⟩ : row ∈ holdings.rows ∧ row.target = leg.target := by
    rw [← Leg.mem_matching, alone]
    exact List.mem_singleton_self row
  rw [same]
  constructor
  case total => simp [actionWithoutId]
  case positive =>
    intro action member
    rw [List.mem_singleton.mp member]
    exact leg.positive
  case belongs =>
    intro action member
    rw [List.mem_singleton.mp member]
    rfl
  case closing =>
    intro action member
    rw [List.mem_singleton.mp member]
    rfl
  case drawn =>
    intro action member
    rw [List.mem_singleton.mp member]
    exact ⟨row, among, target, rfl, .inl rfl⟩
  case bounded =>
    intro other member
    unfold drawnBy
    rw [Drawdown.total_cons, Drawdown.total_nil, Nat.add_zero]
    split
    · rename_i keys
      rw [← holdings.row_of_keys among member keys]
      exact enough
    · exact Nat.zero_le _
  case ordered =>
    intro first second _ used
    obtain ⟨action, member, offset⟩ := used
    rw [List.mem_singleton.mp member] at offset
    cases second <;> cases offset

/-! ## The plan -/

/-- The side that closes what a row holds. -/
def PosiDirection.opposite : PosiDirection → Side
  | .long => .sell
  | .short => .buy

/-- What the actions of a plan close for a leg. -/
def closedFor (leg : Leg) (actions : List CtpCloseAction) : Nat :=
  Drawdown.total (fun action => action.toRawAction.legKey) (fun action => action.quantity) leg.key
    actions

/-- What the actions of a plan draw from a row. -/
def drawnFrom (row : PositionRow tradingDay) (actions : List CtpCloseAction) : Nat :=
  Drawdown.total (fun action => action.sourceRowKeys) (fun action => action.quantity)
    row.sourceRowKeys actions

/-- A plan that closes what its request asks, from rows that have it. -/
structure Balanced (rows : List (PositionRow tradingDay)) (request : Request)
    (actions : List CtpCloseAction) : Prop where
  exact : ∀ leg ∈ request.legs.items, closedFor leg actions = leg.quantity
  belongs : ∀ action ∈ actions, ∃ leg ∈ request.legs.items, action.toRawAction.legKey = leg.key
  positive : ∀ action ∈ actions, 0 < action.quantity
  bounded : ∀ row ∈ rows, drawnFrom row actions ≤ row.position
  drawn : ∀ action ∈ actions, ∃ row ∈ rows, action.sourceRowKeys = row.sourceRowKeys
  /-- On the side opposite to the row's, and from lots of the age the action names. -/
  lots : ∀ action ∈ actions, ∀ row ∈ rows, action.sourceRowKeys = row.sourceRowKeys →
    action.side = row.direction.opposite ∧
      (action.offset = .closeToday → row.positionDate = .today) ∧
      (action.offset = .closeYesterday → row.positionDate = .history)
  ordered : ∀ leg ∈ request.legs.items, ∀ first second, request.priority.order = [first, second] →
    (∃ action ∈ actions, action.toRawAction.legKey = leg.key ∧ action.offset = second.offset) →
      ∀ row ∈ rows, row.target = leg.target → row.positionDate = first →
        drawnFrom row actions = row.position

theorem Legs.targets_distinct (legs : Legs) : (legs.items.map Leg.target).Nodup := by
  have keys := legs.distinct
  rw [List.Nodup, List.pairwise_map] at keys ⊢
  exact keys.imp fun apart same => apart (Leg.target_eq_iff.mp same)

section Plan

variable {rows : List (PositionRow tradingDay)} {request : Request} {parts : List (List RawAction)}
  {actions : List CtpCloseAction}

theorem side_of_target (target : row.target = leg.target) :
    (directionToSide leg.positionSide).2 = row.direction.opposite := by
  have direction : row.direction = (directionToSide leg.positionSide).1 := by
    simp only [PositionRow.target, Leg.target, Prod.mk.injEq] at target
    exact target.2.2.1
  rw [direction]
  cases leg.positionSide <;> rfl

/-- An offset that names lots names those of the row. -/
theorem offset_names {offset : Offset} (fits : offset = .close ∨ offset = date.offset) :
    (offset = .closeToday → date = .today) ∧ (offset = .closeYesterday → date = .history) := by
  rcases fits with rfl | rfl
  · exact ⟨nofun, nofun⟩
  · cases date <;> exact ⟨by simp [PositionDate.offset], by simp [PositionDate.offset]⟩

variable (settled : List.Forall₂ (Settles rows request.priority) request.legs.items parts)
  (flat : actions.map CtpCloseAction.toRawAction = parts.flatten)
include settled flat

/-- Each leg wrote its part of the ledger, under its own key. -/
theorem closedFor_eq {part : List RawAction} (member : (leg, part) ∈ request.legs.items.zip parts) :
    closedFor leg actions = (part.map RawAction.quantity).sum := by
  have raw : closedFor leg actions =
      Drawdown.total RawAction.legKey RawAction.quantity leg.key parts.flatten := by
    rw [← flat, Drawdown.total_map]
    rfl
  have written : List.Forall₂ (fun (other : Leg) part => other.key ≠ leg.key →
      Drawdown.total RawAction.legKey RawAction.quantity leg.key part = 0)
      request.legs.items parts := by
    refine settled.imp fun other part settles elsewhere => Drawdown.total_eq_zero _ _ ?_
    intro action among
    rw [settles.belongs action among]
    exact elsewhere
  rw [raw, Drawdown.total_flatten_unique _ _ written request.legs.distinct member rfl]
  exact Drawdown.total_eq_sum _ _ (List.forall₂_zip settled member).belongs

omit flat in
/-- A row is drawn on by no leg but the one with its target. -/
theorem drawn_elsewhere (row : PositionRow tradingDay) :
    List.Forall₂ (fun (leg : Leg) part => leg.target ≠ row.target → drawnBy row part = 0)
      request.legs.items parts := by
  refine settled.imp fun leg part settles elsewhere => Drawdown.total_eq_zero _ _ ?_
  intro action among same
  obtain ⟨source, _, target, keys, _⟩ := settles.drawn action among
  have both := sourceRowKeys_eq_iff.mp (keys.symm.trans same)
  exact elsewhere (target.symm.trans both.1)

omit settled in
theorem drawnFrom_eq (row : PositionRow tradingDay) :
    drawnFrom row actions = drawnBy row parts.flatten := by
  unfold drawnBy
  rw [← flat, Drawdown.total_map]
  rfl

/-- What a row gives comes from the part of its leg. -/
theorem drawnFrom_of_leg {part : List RawAction}
    (member : (leg, part) ∈ request.legs.items.zip parts) (target : leg.target = row.target) :
    drawnFrom row actions = drawnBy row part := by
  rw [drawnFrom_eq flat]
  exact Drawdown.total_flatten_unique _ _ (drawn_elsewhere settled row)
    request.legs.targets_distinct member target

/-- Every action of the plan is an action of some leg's part. -/
theorem action_of_leg {action : CtpCloseAction} (member : action ∈ actions) :
    ∃ leg part, (leg, part) ∈ request.legs.items.zip parts ∧
      Settles rows request.priority leg part ∧ action.toRawAction ∈ part := by
  have inside : action.toRawAction ∈ parts.flatten := by
    rw [← flat]
    exact List.mem_map_of_mem member
  obtain ⟨part, among, here⟩ := List.mem_flatten.mp inside
  obtain ⟨leg, pair, settles⟩ := forall₂_of_mem_right settled among
  exact ⟨leg, part, pair, settles, here⟩

theorem balanced_of_settled : Balanced rows request actions := by
  constructor
  case exact =>
    intro leg member
    obtain ⟨part, pair, settles⟩ := forall₂_of_mem_left settled member
    rw [closedFor_eq settled flat pair]
    exact settles.total
  case belongs =>
    intro action member
    obtain ⟨leg, part, pair, settles, here⟩ := action_of_leg settled flat member
    exact ⟨leg, (List.of_mem_zip pair).1, settles.belongs _ here⟩
  case positive =>
    intro action member
    obtain ⟨_, _, _, settles, here⟩ := action_of_leg settled flat member
    exact settles.positive _ here
  case bounded =>
    intro row member
    by_cases wanted : row.target ∈ request.legs.items.map Leg.target
    · obtain ⟨leg, requested, target⟩ := List.mem_map.mp wanted
      obtain ⟨part, pair, settles⟩ := forall₂_of_mem_left settled requested
      rw [drawnFrom_of_leg settled flat pair target]
      exact settles.bounded row member
    · have untouched : drawnBy row parts.flatten = 0 :=
        Drawdown.total_flatten_absent _ _ (drawn_elsewhere settled row) wanted
      rw [drawnFrom_eq flat, untouched]
      exact Nat.zero_le _
  case drawn =>
    intro action member
    obtain ⟨_, _, _, settles, here⟩ := action_of_leg settled flat member
    obtain ⟨row, among, _, keys, _⟩ := settles.drawn _ here
    exact ⟨row, among, keys⟩
  case lots =>
    intro action member row _ keys
    obtain ⟨leg, _, _, settles, here⟩ := action_of_leg settled flat member
    obtain ⟨source, _, target, sourceKeys, offset⟩ := settles.drawn _ here
    obtain ⟨sameTarget, sameDate⟩ := sourceRowKeys_eq_iff.mp (sourceKeys.symm.trans keys)
    rw [settles.closing _ here, side_of_target (sameTarget.symm.trans target), ← sameDate]
    refine ⟨rfl, fun today => ?_, fun yesterday => ?_⟩
    · exact (offset_names (today ▸ offset)).1 rfl
    · exact (offset_names (yesterday ▸ offset)).2 rfl
  case ordered =>
    intro leg requested first second order used row member target dated
    obtain ⟨action, among, belongs, offset⟩ := used
    obtain ⟨other, part, pair, settles, here⟩ := action_of_leg settled flat among
    have key : other.key = leg.key := (settles.belongs _ here).symm.trans belongs
    have otherTarget : row.target = other.target := target.trans (Leg.target_eq_iff.mpr key).symm
    rw [drawnFrom_of_leg settled flat pair otherTarget.symm]
    exact settles.ordered first second order ⟨_, here, offset⟩ row member otherTarget dated

end Plan

theorem map_makeAction (platform : Platform) (planSha : String) (rawActions : List RawAction) :
    (rawActions.mapIdx (makeAction platform planSha)).map CtpCloseAction.toRawAction =
      rawActions := by
  apply List.ext_getElem
  · simp
  · intro index _ _
    simp [makeAction]

theorem sealPlan_actions {unsealed : CtpClosePlan} {rawActions : List RawAction}
    (came : sealPlan platform unsealed rawActions = .ok plan) :
    plan.actions.map CtpCloseAction.toRawAction = rawActions := by
  simp only [sealPlan, bind_eq_ok_iff, pure_eq_ok_iff] at came
  obtain ⟨planSha, _, rfl⟩ := came
  exact map_makeAction platform planSha rawActions

/-- **Conservation**: a plan that was built closes exactly what each leg asked for, draws on no
row beyond its position, and takes the second bucket only after the first. -/
theorem built_plan_balanced {platform : Platform}
    {evidence request policy currentContext nowUtc monotonicNow : Value} {plan : CtpClosePlan}
    (built : buildCtpClosePlan platform evidence request policy currentContext nowUtc
      monotonicNow = .ok plan) :
    ∃ context profile source, ∃ holdings : Holdings context.tradingDay, ∃ wanted,
      validateContext platform evidence currentContext = .ok context ∧
      validatePolicy platform policy = .ok profile ∧
      extractEvidence platform evidence context = .ok (source, holdings) ∧
      normalizeRequest platform request = .ok wanted ∧
      Balanced holdings.rows wanted plan.actions := by
  simp only [buildWith, prepareWith, Inputs.planWith, Inputs.allocate, bind_eq_ok_iff, pure_eq_ok_iff,
    mapM_eq_ok_iff] at built
  obtain ⟨_, ⟨context, scope, profile, profiled, _, _, ⟨source, holdings⟩, extracted, wanted,
    normalized, rfl⟩, _, _, ⟨utc, mono, now, nowMono⟩, _, policySha, _, requestSha, _, version, _, parts, allocated,
    _, _, sealed⟩ := built
  refine ⟨context, profile, source, holdings, wanted, scope, profiled, extracted, normalized, ?_⟩
  have settled : List.Forall₂ (Settles holdings.rows wanted.priority) wanted.legs.items
      (parts.map Prod.fst) := by
    rw [List.forall₂_map_right_iff]
    refine allocated.imp fun leg part came => ?_
    generalize profile.rowModel = rowModel at came
    cases rowModel with
    | splitByPositionDate => exact splitActions_settles holdings came
    | combinedTodayAndHistory => exact genericActions_settles holdings came
  exact balanced_of_settled settled (by rw [sealPlan_actions sealed, List.flatMap_def])

/-! ## A split close of four lots, two of them older -/

def digits64 : String := "0123456789abcdef0123456789abcdef0123456789abcdef0123456789abcdef"

def samplePlatform : Platform where
  sha256 _ := digits64
  fromisoformat _ := none
  localOffset _ := 0
  decimalOfText _ := none
  padsYears := true

def sampleMoment (seconds : Int) : Value := .datetime ⟨63750000000000000 + seconds * 1000000, some 0⟩

/-- A policy of one row model; its offsets and the rest of its profile are given. -/
def policyOf (policyId rowModel : String) (exchanges : List String)
    (offsets wireOffsets : List (String × Value)) (profile : Fields) : Value := table <|
  [("policy_id", .str policyId), ("version", .str "1"),
    ("status", .str "SYNTHETIC_PLANNING_PROFILE"), ("execution_policy_verified", .bool false),
    ("source_document_sha256", .str policySourceSha256), ("native_profile", .str syntheticProfile),
    ("row_model", .str rowModel), ("exchanges", texts exchanges),
    ("freeze_mode", .str "zero_freeze_only"),
    ("required_explicit_zero_fields", texts zeroFreezeFields),
    ("real_full_ctp_applicability", .str executionBlockReason),
    ("offsets", table offsets), ("wire_offsets", table wireOffsets),
    ("source_location", texts ["positions"])] ++ commonProfile ++ profile

def samplePolicy : Value :=
  policyOf splitPolicyId "split_by_position_date" splitExchanges
    [("today", .str "close_today"), ("history", .str "close_yesterday")]
    [("close_today", .str "3"), ("close_yesterday", .str "4")] splitProfile

def untimedContext : List (String × Value) :=
  [("account_fingerprint", .str "account"), ("trading_day", .str "20260302"),
    ("connection_generation", .int 1), ("clock_domain_id", .str "clock"),
    ("session_binding_id", .str "session"), ("native_profile", .str syntheticProfile),
    ("evidence_source_hash", .str digits64), ("expires_at_utc", sampleMoment 3)]

def sampleContext : Value := table (untimedContext ++ [("expires_monotonic_ns", .int 3000000000)])

/-- A row without frozen lots. -/
def rowOf (instrument exchange direction date : String) (position today history : Nat) : Value :=
  table <|
  [("InstrumentID", .str instrument), ("ExchangeID", .str exchange),
    ("PosiDirection", .str direction), ("HedgeFlag", .str "1"), ("PositionDate", .str date),
    ("TradingDay", .str "20260302"), ("Position", .int position), ("TodayPosition", .int today),
    ("YdPosition", .int history), ("BrokerID", .str "9999"), ("InvestorID", .str "1")] ++
  zeroFreezeFields.map fun name => (name, .int 0)

def sampleRow (date : String) (position today : Nat) : Value :=
  rowOf "rb2610" "SHFE" "2" date position today 0

/-- The answer of a query with these rows. -/
def evidenceWith (records : List Value) : Value := table
  [("records", .list records), ("query_request_id", .int 7),
    ("account_fingerprint", .str "account"), ("connection_generation", .int 1),
    ("trading_day", .str "20260302"), ("complete", .bool true), ("is_last_seen", .bool true),
    ("completed_at_utc", sampleMoment 0), ("expires_at_utc", sampleMoment 4),
    ("completed_monotonic_ns", .int 0), ("expires_monotonic_ns", .int 4000000000),
    ("clock_domain_id", .str "clock"), ("source_hash", .str digits64),
    ("query_scope", .str "all_account_positions")]

def sampleEvidence : Value := evidenceWith [sampleRow "1" 3 3, sampleRow "2" 2 0]

/-- A request to close four lots, with its time in the monotonic clock first or where it is. -/
def requestFor (instrument exchange : String) (first clock : List (String × Value)) : Value := table <|
  first ++ [("candidate_id", .str "candidate"), ("candidate_sha256", .str digits64),
    ("cycle_id", .str "cycle"), ("execution_role", .str "exit"),
    ("expires_at_utc", sampleMoment 3)] ++ clock ++
  [("legs", .list [table [("leg_id", .str "leg"), ("InstrumentID", .str instrument),
    ("ExchangeID", .str exchange), ("HedgeFlag", .str "1"), ("position_side", .str "long"),
    ("quantity", .int 4)]])]

def sampleRequest : Value :=
  requestFor "rb2610" "SHFE" [] [("expires_monotonic_ns", .int 3000000000)]

theorem sample_isOk :
    (buildCtpClosePlan samplePlatform sampleEvidence sampleRequest samplePolicy sampleContext
      (sampleMoment 1) (.int 1000000000)).isOk = true := by
  decide +kernel

theorem sample_plan_balanced :
    ∃ plan, buildCtpClosePlan samplePlatform sampleEvidence sampleRequest samplePolicy sampleContext
        (sampleMoment 1) (.int 1000000000) = .ok plan ∧
      ∃ context profile source, ∃ holdings : Holdings context.tradingDay, ∃ wanted,
        validateContext samplePlatform sampleEvidence sampleContext = .ok context ∧
        validatePolicy samplePlatform samplePolicy = .ok profile ∧
        extractEvidence samplePlatform sampleEvidence context = .ok (source, holdings) ∧
        normalizeRequest samplePlatform sampleRequest = .ok wanted ∧
        Balanced holdings.rows wanted plan.actions := by
  obtain ⟨plan, built⟩ := exists_ok sample_isOk
  exact ⟨plan, built, built_plan_balanced built⟩

end BtApiCtp.ClosePlan
