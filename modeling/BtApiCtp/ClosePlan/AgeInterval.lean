/-
# ClosePlan.AgeInterval -- what a generic close may take

Under the combined row model the venue decides how many of the lots it closes are of today.
`PositionRow.CanTake` is what it can decide, whatever the planner says; a generic action states
it exactly (`canTake_iff`), an age request passes if and only if it holds for all of it
(`genericActions_eq_ok_iff`), and the fee of closing today's lots is asked for if and only if
some of it needs that fee.
-/
import BtApiCtp.ClosePlan.Stages

namespace BtApiCtp.ClosePlan

open Theory Python

variable {tradingDay : String} {quantity : Nat} {leg : Leg} {terms : Terms} {inputs : Inputs}
  {platform : Platform} {nowUtc monotonicNow : Value} {requestSha : String} {plan : CtpClosePlan}
  {part : List RawAction × List Offset}

/-- The venue can close `quantity` lots of the row with `today` of today's lots among them. -/
def PositionRow.CanTake (row : PositionRow tradingDay) (quantity today : Nat) : Prop :=
  ∃ history, today ≤ row.todayPosition ∧ history ≤ row.position - row.todayPosition ∧
    today + history = quantity

/-- An age request is about all lots that are closed. -/
def AgeRequest.Met (quantity today : Nat) : AgeRequest → Prop
  | .onlyToday => today = quantity
  | .onlyYesterday => today = 0

/-- `today_min` of an action. -/
def PositionRow.todayMin (row : PositionRow tradingDay) (quantity : Nat) : Nat :=
  quantity - (row.position - row.todayPosition)

/-- `today_max` of an action. -/
def PositionRow.todayMax (row : PositionRow tradingDay) (quantity : Nat) : Nat :=
  min quantity row.todayPosition

variable {row : PositionRow tradingDay}

theorem canTake_iff {today : Nat} :
    row.CanTake quantity today ↔ row.todayMin quantity ≤ today ∧ today ≤ row.todayMax quantity := by
  unfold PositionRow.CanTake PositionRow.todayMin PositionRow.todayMax
  constructor
  · rintro ⟨history, enough, older, rfl⟩
    omega
  · intro within
    exact ⟨quantity - today, by omega, by omega, by omega⟩

theorem todayMin_le_todayMax (enough : quantity ≤ row.position) :
    row.todayMin quantity ≤ row.todayMax quantity := by
  have := row.today_le_position
  unfold PositionRow.todayMin PositionRow.todayMax
  omega

/-- The planner's comparison is about everything the venue can decide. -/
theorem met_iff (enough : quantity ≤ row.position) (age : AgeRequest) :
    (∀ today, row.CanTake quantity today → age.Met quantity today) ↔
      row.todayMin quantity = row.todayMax quantity ∧ age.Met quantity (row.todayMax quantity) := by
  have le := todayMin_le_todayMax enough
  simp only [canTake_iff]
  constructor
  · intro all
    have low := all _ ⟨Nat.le_refl _, le⟩
    have high := all _ ⟨le, Nat.le_refl _⟩
    refine ⟨?_, high⟩
    cases age with
    | onlyToday | onlyYesterday => exact low.trans high.symm
  · rintro ⟨same, met⟩ today ⟨above, below⟩
    have only : today = row.todayMax quantity := Nat.le_antisymm below (same ▸ above)
    exact only ▸ met

/-- Some possible allocation takes a lot of today. -/
theorem todayMax_pos_iff (enough : quantity ≤ row.position) :
    0 < row.todayMax quantity ↔ ∃ today, row.CanTake quantity today ∧ 0 < today := by
  simp only [canTake_iff]
  constructor
  · intro positive
    exact ⟨_, ⟨todayMin_le_todayMax enough, Nat.le_refl _⟩, positive⟩
  · rintro ⟨today, ⟨_, below⟩, positive⟩
    exact Nat.lt_of_lt_of_le positive below

/-! ## One leg -/

variable {rows : List (PositionRow tradingDay)}

/-- The one row from which a leg can be closed. -/
structure Closable (rows : List (PositionRow tradingDay)) (leg : Leg) (row : PositionRow tradingDay) :
    Prop where
  alone : leg.matching rows = [row]
  combined : row.positionDate = .today
  unfrozen : validateFreeze [row] = .ok ()
  enough : leg.quantity ≤ row.position

/-- Every possible allocation is of the age that was asked for, if one was. -/
def MeetsAge (age : Option AgeRequest) (row : PositionRow tradingDay) (quantity : Nat) : Prop :=
  ∀ asked, age = some asked → ∀ today, row.CanTake quantity today → asked.Met quantity today

theorem meetsAge_none : MeetsAge none row quantity := by
  intro _ asked
  cases asked

/-- The action and the fees of a leg that is closed from `row`. -/
def genericPart (terms : Terms) (leg : Leg) (row : PositionRow tradingDay) :
    List RawAction × List Offset :=
  ([actionWithoutId terms leg row .close leg.quantity
      (.generic (row.todayMin leg.quantity) (row.todayMax leg.quantity))],
    if row.todayMax leg.quantity = 0 then [.close] else [.close, .closeToday])

theorem combinedRow_eq_ok_iff :
    combinedRow rows = .ok row ↔ rows = [row] ∧ row.positionDate = .today := by
  unfold combinedRow
  split
  · rename_i only
    simp only [bind_eq_ok_iff, check_eq_ok_iff, pure_eq_ok_iff, exists_const, beq_iff_eq,
      List.cons.injEq, and_true]
    constructor
    · rintro ⟨dated, rfl⟩
      exact ⟨rfl, dated⟩
    · rintro ⟨rfl, dated⟩
      exact ⟨dated, rfl⟩
  · rename_i several
    constructor
    · intro came
      cases came
    · rintro ⟨rfl, _⟩
      exact absurd rfl (several row)

/-- The two comparisons of `_generic_actions` with the age that was asked for. -/
theorem meetsAge_iff {age : Option AgeRequest} (enough : quantity ≤ row.position) :
    MeetsAge age row quantity ↔
      (!(age == some .onlyToday && !(row.todayMin quantity == row.todayMax quantity &&
          row.todayMax quantity == quantity))) = true ∧
        (!(age == some .onlyYesterday && !(row.todayMin quantity == row.todayMax quantity &&
          row.todayMax quantity == 0))) = true := by
  unfold MeetsAge
  cases age with
  | none => simp
  | some asked =>
    simp only [Option.some.injEq, forall_eq', met_iff enough]
    cases asked <;> simp [AgeRequest.Met]

/-- `_generic_actions` accepts a leg if and only if there is one row for it and every possible
allocation is of the age that was asked for. -/
theorem genericActions_eq_ok_iff :
    genericActions terms rows leg = .ok part ↔
      ∃ row, Closable rows leg row ∧ MeetsAge terms.request.genericAgeRequest row leg.quantity ∧
        part = genericPart terms leg row := by
  simp only [genericActions, bind_eq_ok_iff, pure_eq_ok_iff, check_eq_ok_iff, combinedRow_eq_ok_iff,
    decide_eq_true_eq, exists_const]
  constructor
  · rintro ⟨_, _, row, ⟨alone, combined⟩, _, unfrozen, enough, onlyToday, onlyYesterday, rfl⟩
    exact ⟨row, ⟨alone, combined, unfrozen, enough⟩,
      (meetsAge_iff enough).mpr ⟨onlyToday, onlyYesterday⟩, rfl⟩
  · rintro ⟨row, ⟨alone, combined, unfrozen, enough⟩, meets, rfl⟩
    obtain ⟨onlyToday, onlyYesterday⟩ := (meetsAge_iff enough).mp meets
    exact ⟨(), by simp [checkMatching, alone], row, ⟨alone, combined⟩, (), unfrozen, enough, onlyToday,
      onlyYesterday, rfl⟩

/-! ## Plans -/

/-- The same terms, for whatever age the venue chooses. -/
def Terms.anyAge (terms : Terms) : Terms :=
  { terms with request := { terms.request with genericAgeRequest := none } }

/-- The same inputs, for whatever age the venue chooses. -/
def Inputs.anyAge (inputs : Inputs) : Inputs :=
  { inputs with request := { inputs.request with genericAgeRequest := none } }

/-- Every possible allocation of every leg is of the age that was asked for. -/
def Inputs.MeetsAge (inputs : Inputs) : Prop :=
  ∀ leg ∈ inputs.request.legs.items, ∀ row ∈ leg.matching inputs.holdings.rows,
    ClosePlan.MeetsAge inputs.request.genericAgeRequest row leg.quantity

theorem genericActions_anyAge :
    genericActions terms rows leg = .ok part ↔ genericActions terms.anyAge rows leg = .ok part ∧
        ∀ row ∈ leg.matching rows, MeetsAge terms.request.genericAgeRequest row leg.quantity := by
  simp only [genericActions_eq_ok_iff]
  constructor
  · rintro ⟨row, closable, meets, rfl⟩
    refine ⟨⟨row, closable, meetsAge_none, rfl⟩, fun other mem => ?_⟩
    rw [closable.alone, List.mem_singleton] at mem
    exact mem ▸ meets
  · rintro ⟨⟨row, closable, _, rfl⟩, meets⟩
    refine ⟨row, closable, meets row ?_, rfl⟩
    rw [closable.alone]
    exact List.mem_singleton_self row

theorem forall₂_anyAge {legs : List Leg} {parts : List (List RawAction × List Offset)} :
    List.Forall₂ (fun leg part => genericActions terms rows leg = .ok part) legs parts ↔
      List.Forall₂ (fun leg part => genericActions terms.anyAge rows leg = .ok part) legs parts ∧
        ∀ leg ∈ legs, ∀ row ∈ leg.matching rows,
          MeetsAge terms.request.genericAgeRequest row leg.quantity := by
  induction legs generalizing parts with
  | nil => simp
  | cons leg legs ih =>
    cases parts with
    | nil => simp
    | cons part parts =>
      rw [List.forall₂_cons, List.forall₂_cons, List.forall_mem_cons, ih, genericActions_anyAge]
      exact and_and_and_comm

theorem Inputs.allocate_anyAge (generic : inputs.policy.rowModel = .combinedTodayAndHistory)
    (same : terms.request = inputs.request) :
    inputs.allocate platform terms requestSha = .ok plan ↔
      inputs.anyAge.allocate platform terms.anyAge requestSha = .ok plan ∧ inputs.MeetsAge := by
  rw [allocate_eq_ok_iff, allocate_eq_ok_iff]
  change (∃ parts, List.Forall₂ (fun leg part => legActions inputs.policy.rowModel terms
      inputs.holdings.rows leg = .ok part) inputs.request.legs.items parts ∧ _) ↔
    (∃ parts, List.Forall₂ (fun leg part => legActions inputs.policy.rowModel terms.anyAge
      inputs.holdings.rows leg = .ok part) inputs.request.legs.items parts ∧ _) ∧ _
  rw [generic]
  unfold MeetsAge
  rw [← same]
  constructor
  · rintro ⟨parts, came, rest⟩
    obtain ⟨free, meets⟩ := forall₂_anyAge.mp came
    exact ⟨⟨parts, free, rest⟩, meets⟩
  · rintro ⟨⟨parts, free, rest⟩, meets⟩
    exact ⟨parts, forall₂_anyAge.mpr ⟨free, meets⟩, rest⟩

/-- A generic plan with an age request is the plan without it, if every possible allocation is of
that age; otherwise there is none. -/
theorem Inputs.plan_anyAge (generic : inputs.policy.rowModel = .combinedTodayAndHistory) :
    inputs.plan platform nowUtc monotonicNow = .ok plan ↔
      inputs.anyAge.plan platform nowUtc monotonicNow = .ok plan ∧ inputs.MeetsAge := by
  have each : ∀ utc mono policySha version requestSha,
      inputs.allocate platform (inputs.terms utc mono policySha version) requestSha = .ok plan ↔
        inputs.anyAge.allocate platform (inputs.anyAge.terms utc mono policySha version) requestSha =
          .ok plan ∧ inputs.MeetsAge := fun _ _ _ _ _ => allocate_anyAge generic rfl
  simp only [Inputs.planWith, bind_eq_ok_iff, Prod.exists, each, ← and_assoc, exists_and_right]
  rfl

/-- The action of a leg states exactly what the venue can take. -/
def StatesInterval (rows : List (PositionRow tradingDay)) (leg : Leg) (action : RawAction) : Prop :=
  ∃ row todayMin todayMax, leg.matching rows = [row] ∧
    action.ageAllocation = .generic todayMin todayMax ∧ todayMin ≤ todayMax ∧
    ∀ today, row.CanTake leg.quantity today ↔ todayMin ≤ today ∧ today ≤ todayMax

/-- The venue may take a lot of today for one of the legs. -/
def MayTakeToday (rows : List (PositionRow tradingDay)) (legs : List Leg) : Prop :=
  ∃ leg ∈ legs, ∃ row ∈ leg.matching rows, ∃ today, row.CanTake leg.quantity today ∧ 0 < today

section Parts

variable {terms : Terms} {rows : List (PositionRow tradingDay)} {legs : List Leg}
  {parts : List (List RawAction × List Offset)}

theorem forall₂_statesInterval
    (came : List.Forall₂ (fun leg part => genericActions terms rows leg = .ok part) legs parts) :
    List.Forall₂ (StatesInterval rows) legs (parts.flatMap Prod.fst) := by
  induction came with
  | nil => exact .nil
  | cons first _ ih =>
    obtain ⟨row, closable, _, rfl⟩ := genericActions_eq_ok_iff.mp first
    exact .cons ⟨row, _, _, closable.alone, rfl, todayMin_le_todayMax closable.enough,
      fun _ => canTake_iff⟩ ih

theorem closeToday_mem_genericPart :
    .closeToday ∈ (genericPart terms leg row).2 ↔ 0 < row.todayMax leg.quantity := by
  unfold genericPart
  split
  · simp_all
  · simp; omega

theorem closeToday_mem_parts
    (came : List.Forall₂ (fun leg part => genericActions terms rows leg = .ok part) legs parts) :
    .closeToday ∈ parts.flatMap Prod.snd ↔ MayTakeToday rows legs := by
  induction came with
  | nil => simp [MayTakeToday]
  | cons first _ ih =>
    obtain ⟨row, closable, _, rfl⟩ := genericActions_eq_ok_iff.mp first
    rw [List.flatMap_cons, List.mem_append, ih, closeToday_mem_genericPart,
      todayMax_pos_iff closable.enough]
    simp [MayTakeToday, closable.alone]

end Parts

/-- **The venue's choice**: a generic plan states for each leg exactly the quantities of today's
lots that the venue can take, of which there is at least one; an age request is accepted if and
only if all of them satisfy it; and the fee of closing today's lots is required if and only if
one of them takes such a lot. -/
theorem generic_plan_states_choice {platform : Platform}
    {evidence request policy currentContext : Value} {inputs : Inputs}
    (prepared : prepare platform evidence request policy currentContext = .ok inputs)
    (generic : inputs.policy.rowModel = .combinedTodayAndHistory) (nowUtc monotonicNow : Value) :
    ((∃ plan, buildCtpClosePlan platform evidence request policy currentContext nowUtc
          monotonicNow = .ok plan) ↔
        (∃ plan, inputs.anyAge.plan platform nowUtc monotonicNow = .ok plan) ∧ inputs.MeetsAge) ∧
      ∀ plan, buildCtpClosePlan platform evidence request policy currentContext nowUtc
          monotonicNow = .ok plan →
        List.Forall₂ (fun leg action => StatesInterval inputs.holdings.rows leg action.toRawAction)
            inputs.request.legs.items plan.actions ∧
          (.closeToday ∈ plan.feeRolesRequired ↔
            MayTakeToday inputs.holdings.rows inputs.request.legs.items) := by
  rw [buildCtpClosePlan_of_prepare prepared]
  constructor
  · simp [Inputs.plan_anyAge generic]
  · intro plan built
    obtain ⟨terms, requestSha, _, allocated⟩ := Inputs.plan_eq_ok_iff.mp built
    obtain ⟨parts, came, _, sealed⟩ := Inputs.allocate_eq_ok_iff.mp allocated
    rw [generic] at came
    constructor
    · rw [← List.forall₂_map_right_iff, sealPlan_actions sealed]
      exact forall₂_statesInterval came
    · simp only [sealPlan, bind_eq_ok_iff, pure_eq_ok_iff] at sealed
      obtain ⟨planSha, _, rfl⟩ := sealed
      exact List.mem_eraseDups.trans (closeToday_mem_parts came)

/-! ## Four lots of a combined row with three of today and two older -/

def genericSamplePolicy : Value :=
  policyOf genericPolicyId "combined_today_and_history" genericExchanges
    [("generic", .str "close")] [("close", .str "1")] genericProfile

def genericSampleEvidence : Value := evidenceWith [rowOf "m2609" "DCE" "2" "1" 5 3 2]

def genericSampleRequest : Value :=
  requestFor "m2609" "DCE" [] [("expires_monotonic_ns", .int 3000000000)]

theorem generic_sample_states_choice :
    ∃ inputs, prepare samplePlatform genericSampleEvidence genericSampleRequest genericSamplePolicy
        sampleContext = .ok inputs ∧
      inputs.policy.rowModel = .combinedTodayAndHistory ∧
      ∃ plan, buildCtpClosePlan samplePlatform genericSampleEvidence genericSampleRequest
          genericSamplePolicy sampleContext (sampleMoment 1) (.int 1000000000) = .ok plan ∧
        List.Forall₂ (fun leg action => StatesInterval inputs.holdings.rows leg action.toRawAction)
            inputs.request.legs.items plan.actions ∧
          (.closeToday ∈ plan.feeRolesRequired ↔
            MayTakeToday inputs.holdings.rows inputs.request.legs.items) := by
  have models : ((prepare samplePlatform genericSampleEvidence genericSampleRequest
      genericSamplePolicy sampleContext).toOption.map fun inputs =>
        (inputs.policy.rowModel,
          (inputs.plan samplePlatform (sampleMoment 1) (.int 1000000000)).isOk)) =
      some (.combinedTodayAndHistory, true) := by decide +kernel
  obtain ⟨inputs, prepared, models⟩ := exists_ok_of_map models
  obtain ⟨generic, planned⟩ := Prod.mk.inj models
  obtain ⟨plan, built⟩ := exists_ok planned
  rw [← buildCtpClosePlan_of_prepare prepared] at built
  exact ⟨inputs, prepared, generic, plan, built,
    (generic_plan_states_choice prepared generic (sampleMoment 1) (.int 1000000000)).2 plan built⟩

end BtApiCtp.ClosePlan
