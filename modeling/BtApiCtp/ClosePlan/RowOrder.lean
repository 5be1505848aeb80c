/-
# ClosePlan.RowOrder -- the order of the rows does not matter, nor do rows that no leg asks for

The records of a query are a sequence, but a plan depends only on which rows are among them: the
account they name is the same for all (`parseRows_eq_ok_iff`), their identities are told apart,
and an allocation looks only at the rows of its leg's target, of which there is at most one for
each date (`byDate_perm`).  `plan_of_more_rows` puts the records in another order and adds rows
that no leg asks for, and the plan stays as it is to its last digest.
-/
import BtApiCtp.ClosePlan.EvidenceFields
import Mathlib.Data.List.Perm.Subperm

namespace BtApiCtp.ClosePlan

open Theory Python

variable {tradingDay : String} {leg : Leg} {terms : Terms} {part : List RawAction × List Offset}
  {declared : Declared} {name : String} {platform : Platform} {records : List Value}
  {evidence : Value} {context : Context} {source : EvidenceMeta} {u : Unit} {rowModel : RowModel}
  {text : String} {inputs : Inputs} {nowUtc monotonicNow : Value} {plan : CtpClosePlan}

/-! ## Allocation -/

variable {holdings : Holdings context.tradingDay} {rows : List (PositionRow tradingDay)}

section Allocation

variable {rows others : List (PositionRow tradingDay)}

/-- In rows of one target that have distinct identities, a date names one row. -/
theorem byDate_eq_some_iff
    (unique : ∀ row ∈ rows, ∀ other ∈ rows, row.positionDate = other.positionDate → row = other)
    {date : PositionDate} {row : PositionRow tradingDay} :
    byDate rows date = some row ↔ row ∈ rows ∧ row.positionDate = date := by
  constructor
  · exact mem_of_byDate
  · rintro ⟨mem, rfl⟩
    obtain ⟨found, same⟩ := byDate_isSome mem
    obtain ⟨among, dated⟩ := mem_of_byDate same
    rw [same, unique found among row mem dated]

theorem byDate_perm
    (unique : ∀ row ∈ rows, ∀ other ∈ rows, row.positionDate = other.positionDate → row = other)
    (perm : others.Perm rows) : byDate others = byDate rows := by
  funext date
  apply Option.ext
  intro row
  have unique' : ∀ row ∈ others, ∀ other ∈ others,
      row.positionDate = other.positionDate → row = other := fun row mem other mem' =>
    unique row (perm.mem_iff.mp mem) other (perm.mem_iff.mp mem')
  rw [byDate_eq_some_iff unique', byDate_eq_some_iff unique, perm.mem_iff]

theorem unique_of_matching (leg : Leg) (distinct : (rows.map PositionRow.identity).Nodup) :
    ∀ row ∈ leg.matching rows, ∀ other ∈ leg.matching rows,
      row.positionDate = other.positionDate → row = other := by
  intro row mem other mem' dated
  obtain ⟨among, target⟩ := Leg.mem_matching.mp mem
  obtain ⟨among', target'⟩ := Leg.mem_matching.mp mem'
  refine List.inj_on_of_nodup_map distinct among among' (identity_eq_iff.mpr ?_)
  exact sourceRowKeys_eq_iff.mpr ⟨target.trans target'.symm, dated⟩

/-- Rows that a leg does not ask for are not among those it is closed from. -/
theorem matching_perm {added : List (PositionRow tradingDay)} (perm : others.Perm (rows ++ added))
    (unasked : ∀ row ∈ added, row.target ≠ leg.target) :
    (leg.matching others).Perm (leg.matching rows) := by
  have none : leg.matching added = [] :=
    List.filter_eq_nil_iff.mpr fun row mem same => unasked row mem (of_decide_eq_true same)
  have filtered := perm.filter fun row => decide (row.target = leg.target)
  rw [List.filter_append] at filtered
  change (leg.matching others).Perm (leg.matching rows ++ leg.matching added) at filtered
  rwa [none, List.append_nil] at filtered

theorem checkMatching_eq_ok_iff : checkMatching leg rows = .ok u ↔ leg.matching rows ≠ [] := by
  unfold checkMatching
  split
  · rename_i empty
    rw [List.isEmpty_iff] at empty
    simp only [empty, ne_eq, not_true_eq_false, iff_false]
    split <;> exact fun came => by cases came
  · rename_i full
    rw [List.isEmpty_iff] at full
    exact ⟨fun _ => full, fun _ => rfl⟩

theorem forM_perm {f : PositionRow tradingDay → Calc Unit} (perm : others.Perm rows) :
    others.forM f = .ok u ↔ rows.forM f = .ok u := by
  simp only [forM_eq_ok_iff, perm.mem_iff]

theorem splitActions_perm (distinct : (rows.map PositionRow.identity).Nodup)
    (perm : (leg.matching others).Perm (leg.matching rows))
    (came : splitActions terms rows leg = .ok part) : splitActions terms others leg = .ok part := by
  simp only [splitActions, bind_eq_ok_iff, checkMatching_eq_ok_iff] at came ⊢
  rw [byDate_perm (unique_of_matching leg distinct) perm, (perm.map PositionRow.position).sum_eq]
  obtain ⟨_, matched, _, split, _, unfrozen, rest⟩ := came
  refine ⟨(), fun empty => matched ?_, (), (forM_perm perm).mpr split, (),
    (forM_perm perm).mpr unfrozen, rest⟩
  rw [empty] at perm
  exact perm.symm.eq_nil

theorem genericActions_perm (perm : (leg.matching others).Perm (leg.matching rows))
    (came : genericActions terms rows leg = .ok part) :
    genericActions terms others leg = .ok part := by
  obtain ⟨row, alone, _⟩ := genericActions_eq_ok came
  have same : leg.matching others = leg.matching rows := by
    rw [alone] at perm ⊢
    exact List.perm_singleton.mp perm
  simp only [genericActions, bind_eq_ok_iff, checkMatching_eq_ok_iff, same] at came ⊢
  exact came

end Allocation

/-! ## The account of the rows -/

/-- The account that rows name under `name` is the declared one, and one for all of them. -/
def OneAccount (declared : Declared) (rows : List (PositionRow tradingDay)) (name : String) : Prop :=
  ∃ text, (∀ prior, declared.lookup name = some prior → prior = text) ∧
    ∀ row ∈ rows, row.account name = text

theorem OneAccount.subset {others : List (PositionRow tradingDay)}
    (one : OneAccount declared rows name) (sub : ∀ row ∈ others, row ∈ rows) :
    OneAccount declared others name := by
  obtain ⟨text, prior, all⟩ := one
  exact ⟨text, prior, fun row mem => all row (sub row mem)⟩

theorem declareAccount_eq_ok_iff {declared' : Declared} {message : String} :
    declareAccount declared name text message = .ok declared' ↔
      (declared.lookup name = none ∧ declared' = (name, text) :: declared) ∨
        (declared.lookup name = some text ∧ declared' = declared) := by
  unfold declareAccount
  cases known : declared.lookup name with
  | none => simp [eq_comm]
  | some prior =>
    simp only [bind_eq_ok_iff, check_eq_ok_iff, pure_eq_ok_iff, exists_const, beq_iff_eq,
      reduceCtorEq, false_and, Option.some.injEq, false_or]
    rw [eq_comm (a := declared)]

section Declared

variable {declared declared' : Declared} {row : PositionRow tradingDay}
  {rows : List (PositionRow tradingDay)} {name other message : String}

theorem oneAccount_nil : OneAccount declared ([] : List (PositionRow tradingDay)) name := by
  refine ⟨(declared.lookup name).getD "", fun prior known => ?_, nofun⟩
  rw [known]
  rfl

/-- A row has declared its account for the rows behind it. -/
theorem oneAccount_of_declared
    (declares : declareAccount declared name (row.account name) message = .ok declared') :
    OneAccount declared' rows name ↔ OneAccount declared (row :: rows) name := by
  unfold OneAccount
  simp only [List.forall_mem_cons]
  rcases declareAccount_eq_ok_iff.mp declares with ⟨unknown, rfl⟩ | ⟨known, rfl⟩
  · simp [unknown, reduceCtorEq]
  · simp only [known, Option.some.injEq, forall_eq']
    constructor
    · rintro ⟨text, rfl, all⟩
      exact ⟨_, rfl, rfl, all⟩
    · rintro ⟨text, rfl, _, all⟩
      exact ⟨_, rfl, all⟩

theorem oneAccount_of_ne (apart : other ≠ name)
    (declares : declareAccount declared name (row.account name) message = .ok declared') :
    OneAccount declared' rows other ↔ OneAccount declared rows other := by
  rcases declareAccount_eq_ok_iff.mp declares with ⟨_, rfl⟩ | ⟨_, rfl⟩
  · unfold OneAccount
    rw [List.lookup_cons, beq_false_of_ne apart]
  · rfl

theorem declares_of_oneAccount (message : String) (one : OneAccount declared (row :: rows) name) :
    ∃ declared', declareAccount declared name (row.account name) message = .ok declared' := by
  obtain ⟨text, prior, all⟩ := one
  cases known : declared.lookup name with
  | none => exact ⟨_, declareAccount_eq_ok_iff.mpr (.inl ⟨known, rfl⟩)⟩
  | some said =>
    have own : said = row.account name := (prior said known).trans (all row List.mem_cons_self).symm
    exact ⟨_, declareAccount_eq_ok_iff.mpr (.inr ⟨own ▸ known, rfl⟩)⟩

end Declared

/-- The rows of a query are those of its records, if all are of one account. -/
theorem parseRows_eq_ok_iff :
    parseRows platform tradingDay declared records = .ok rows ↔
      List.Forall₂ (fun record row => parseRow platform record tradingDay = .ok row) records rows ∧
        OneAccount declared rows "BrokerID" ∧ OneAccount declared rows "InvestorID" := by
  induction records generalizing declared rows with
  | nil =>
    rw [List.forall₂_nil_left_iff]
    constructor
    · intro came
      cases came
      exact ⟨rfl, oneAccount_nil, oneAccount_nil⟩
    · rintro ⟨rfl, _⟩
      rfl
  | cons record records ih =>
    simp only [parseRows, bind_eq_ok_iff, pure_eq_ok_iff, List.foldlM_cons, List.foldlM_nil, ih,
      List.forall₂_cons_left_iff]
    constructor
    · rintro ⟨row, parsed, declared₂, ⟨declared₁, broker, _, investor, rfl⟩, others, ⟨rest,
        sameBroker, sameInvestor⟩, rfl⟩
      refine ⟨⟨row, others, parsed, rest, rfl⟩, ?_, ?_⟩
      · rw [← oneAccount_of_declared broker, ← oneAccount_of_ne (by decide) investor]
        exact sameBroker
      · rw [← oneAccount_of_ne (by decide) broker, ← oneAccount_of_declared investor]
        exact sameInvestor
    · rintro ⟨⟨row, others, parsed, rest, rfl⟩, oneBroker, oneInvestor⟩
      obtain ⟨declared₁, broker⟩ := declares_of_oneAccount
        "row account identity differs from source: " oneBroker
      rw [← oneAccount_of_ne (by decide) broker] at oneInvestor
      obtain ⟨declared₂, investor⟩ := declares_of_oneAccount
        "row account identity differs from source: " oneInvestor
      refine ⟨row, parsed, declared₂, ⟨declared₁, broker, declared₂, investor, rfl⟩, others,
        ⟨rest, ?_, ?_⟩, rfl⟩
      · rw [oneAccount_of_ne (by decide) investor, oneAccount_of_declared broker]
        exact oneBroker
      · rw [oneAccount_of_declared investor]
        exact oneInvestor

/-! ## Evidence -/

/-- Evidence that has the same fields besides its records. -/
structure SameBesidesRecords (evidence other : Value) : Prop where
  bare : isBare other = isBare evidence
  fields : ∀ name, (name != "records" && name != "rows") = true →
    getField other name = getField evidence name

/-- Everything `_extract_evidence` looks at before the records. -/
structure Sound (round : ℚ → Option ℚ) (platform : Platform) (evidence : Value) (context : Context)
    (source : EvidenceMeta) (declared : Declared) : Prop where
  bare : isBare evidence = false
  checked : ∃ requestId envelope, validateScope evidence context = .ok requestId ∧
    validateEnding evidence = .ok envelope ∧
    queryTimesWith round platform evidence context requestId = .ok source ∧
    (∀ status ∈ sourceStatusSources evidence envelope, validateSourceStatus platform
      source.completedAtUtc source.completedMonotonicNs status = .ok ()) ∧
    validateEnvelope envelope context requestId = .ok () ∧
    validateCoverage evidence envelope context = .ok () ∧
    declaredAccount evidence envelope = .ok declared

theorem dedup_length_le_one {texts : List String} (all : ∀ t ∈ texts, t = text) :
    texts.dedup.length ≤ 1 := by
  have sub : texts.dedup ⊆ [text] := fun t mem =>
    List.mem_singleton.mpr (all t (List.mem_dedup.mp mem))
  exact ((List.nodup_dedup texts).subperm sub).length_le

/-- Rows of one account pass the last comparison. -/
theorem oneAccount_dedup (one : OneAccount declared rows name) :
    (rows.map (·.account name)).dedup.length ≤ 1 := by
  obtain ⟨text, _, all⟩ := one
  exact dedup_length_le_one (List.forall_mem_map.mpr all)

theorem demand_of {p : Prop} [Decidable p] (holds : p) (code message : String) :
    demand p code message = .ok ⟨holds⟩ :=
  dif_pos holds

theorem extractEvidence_eq_ok_iff {round : ℚ → Option ℚ} :
    extractEvidenceWith round platform evidence context = .ok (source, holdings) ↔
      ∃ records declared, recordsOf evidence = .ok records ∧
        Sound round platform evidence context source declared ∧
        List.Forall₂ (fun record row => parseRow platform record context.tradingDay = .ok row)
          records holdings.rows ∧
        OneAccount declared holdings.rows "BrokerID" ∧
        OneAccount declared holdings.rows "InvestorID" := by
  simp only [extractEvidenceWith, examineWith, bind_eq_ok_iff, forM_eq_ok_iff, parseRows_eq_ok_iff,
    check_eq_ok_iff, Bool.not_eq_true', pure_eq_ok_iff, exists_const]
  constructor
  · rintro ⟨whole, records, held, requestId, scope, envelope, ending, times, timed, _, statuses, _,
      enveloped, _, covered, declared, declares, rows, ⟨parsed, broker, investor⟩, ⟨distinct⟩, _, _,
      same⟩
    cases same
    exact ⟨records, declared, held, ⟨whole, requestId, envelope, scope, ending, timed, statuses,
      enveloped, covered, declares⟩, parsed, broker, investor⟩
  · rintro ⟨records, declared, held, ⟨whole, requestId, envelope, scope, ending, timed, statuses,
      enveloped, covered, declares⟩, parsed, broker, investor⟩
    refine ⟨whole, records, held, requestId, scope, envelope, ending, source, timed, (), statuses, (),
      enveloped, (), covered, declared, declares, holdings.rows, ⟨parsed, broker, investor⟩,
      ⟨holdings.distinct⟩, demand_of holdings.distinct _ _, ?_, rfl⟩
    simp [oneAccount_dedup broker, oneAccount_dedup investor]

/-! ## Other records -/

namespace SameBesidesRecords

variable {evidence other : Value} (same : SameBesidesRecords evidence other)

include same

theorem sameReads : SameReads evidence other :=
  .of_fields same.bare fun name apart => same.fields name (by
    simp only [partNames, List.mem_cons, not_or] at apart
    simp [apart])

theorem validateEnding :
    ClosePlan.validateEnding other = ClosePlan.validateEnding evidence := by
  have envelope := same.fields "query_envelope" (by decide)
  have envelopes : SameEnvelope (getField evidence "query_envelope")
      (getField other "query_envelope") := envelope ▸ .refl _
  simpa using same.sameReads.validateEnding_bind envelopes pure pure (by rw [envelope])

theorem sound (sound : Sound binary64 platform evidence context source declared) :
    Sound binary64 platform other context source declared := by
  obtain ⟨whole, requestId, envelope, scope, ending, times, statuses, enveloped, covered,
    declares⟩ := sound
  have reads := same.sameReads
  refine ⟨same.bare.trans whole, requestId, envelope, ?_, ?_, ?_, ?_, enveloped, ?_, ?_⟩
  · rw [reads.validateScope, scope]
  · rw [same.validateEnding, ending]
  · exact (reads.queryTimes ..).trans times
  · intro status mem
    rcases List.mem_cons.mp mem with rfl | nested
    · rw [reads.validateSourceStatus]
      exact statuses evidence List.mem_cons_self
    · exact statuses status (List.mem_cons_of_mem _ nested)
  · rw [reads.validateCoverage (.refl _), covered]
  · rw [reads.declaredAccount (.refl _), declares]

end SameBesidesRecords

/-- Records that may be added: rows of the same account, with identities of their own, whose
target no leg asks for. -/
structure Unasked (platform : Platform) (inputs : Inputs) (extra : List Value)
    (added : List (PositionRow inputs.context.tradingDay)) : Prop where
  parsed : List.Forall₂ (fun record row =>
    parseRow platform record inputs.context.tradingDay = .ok row) extra added
  account : ∀ name ∈ ["BrokerID", "InvestorID"], ∀ row ∈ added, ∀ held ∈ inputs.holdings.rows,
    row.account name = held.account name
  distinct : ((inputs.holdings.rows ++ added).map PositionRow.identity).Nodup
  unasked : ∀ leg ∈ inputs.request.legs.items, ∀ row ∈ added, row.target ≠ leg.target

theorem legActions_matching (came : legActions rowModel terms rows leg = .ok part) :
    leg.matching rows ≠ [] := by
  cases rowModel with
  | splitByPositionDate =>
    simp only [legActions, splitActions, bind_eq_ok_iff, checkMatching_eq_ok_iff] at came
    exact came.choose_spec.1
  | combinedTodayAndHistory =>
    simp only [legActions, genericActions, bind_eq_ok_iff, checkMatching_eq_ok_iff] at came
    exact came.choose_spec.1

/-- A plan is not made from nothing. -/
theorem rows_ne_nil (planned : inputs.plan platform nowUtc monotonicNow = .ok plan) :
    inputs.holdings.rows ≠ [] := by
  obtain ⟨terms, requestSha, _, allocated⟩ := Inputs.plan_eq_ok_iff.mp planned
  obtain ⟨parts, came, bounded, _⟩ := Inputs.allocate_eq_ok_iff.mp allocated
  intro empty
  rw [empty] at came
  generalize inputs.request.legs.items = legs at came
  cases came with
  | nil => simp at bounded
  | cons first _ => exact legActions_matching first rfl

section MoreRows

variable {platform : Platform} {inputs : Inputs} {extra : List Value}
  {added : List (PositionRow inputs.context.tradingDay)}

theorem Unasked.oneAccount (unasked : Unasked platform inputs extra added)
    (named : name ∈ ["BrokerID", "InvestorID"]) (some_held : inputs.holdings.rows ≠ [])
    (one : OneAccount declared inputs.holdings.rows name) :
    OneAccount declared (inputs.holdings.rows ++ added) name := by
  obtain ⟨text, prior, all⟩ := one
  obtain ⟨held, mem⟩ := List.exists_mem_of_ne_nil _ some_held
  refine ⟨text, prior, fun row among => ?_⟩
  rcases List.mem_append.mp among with old | new
  · exact all row old
  · exact (unasked.account name named row new held mem).trans (all held mem)

/-- The same inputs with other rows. -/
def Inputs.withRows (inputs : Inputs) (holdings : Holdings inputs.context.tradingDay) : Inputs :=
  { inputs with holdings }

theorem Inputs.plan_withRows (unasked : Unasked platform inputs extra added)
    {holdings : Holdings inputs.context.tradingDay}
    (perm : holdings.rows.Perm (inputs.holdings.rows ++ added))
    (planned : inputs.plan platform nowUtc monotonicNow = .ok plan) :
    (inputs.withRows holdings).plan platform nowUtc monotonicNow = .ok plan := by
  obtain ⟨terms, requestSha, cleared, allocated⟩ := Inputs.plan_eq_ok_iff.mp planned
  obtain ⟨parts, came, bounded, sealed⟩ := Inputs.allocate_eq_ok_iff.mp allocated
  refine Inputs.plan_eq_ok_iff.mpr ⟨terms, requestSha, ⟨cleared.exchanges, cleared.agreed,
    cleared.digested⟩, Inputs.allocate_eq_ok_iff.mpr ⟨parts, ?_, bounded, sealed⟩⟩
  refine ((List.forall₂_and_left _ _).mpr ⟨unasked.unasked, came⟩).imp fun leg part both => ?_
  obtain ⟨first, came⟩ := both
  have perm := matching_perm perm first
  change legActions inputs.policy.rowModel _ _ _ = _
  generalize inputs.policy.rowModel = rowModel at came ⊢
  cases rowModel with
  | splitByPositionDate => exact splitActions_perm inputs.holdings.distinct perm came
  | combinedTodayAndHistory => exact genericActions_perm perm came

theorem prepare_withRows {other request policy currentContext : Value}
    (prepared : prepare platform evidence request policy currentContext = .ok inputs)
    (same : SameBesidesRecords evidence other) {records' : List Value}
    (held : recordsOf evidence = .ok records) (held' : recordsOf other = .ok records')
    (perm : records'.Perm (records ++ extra)) (unasked : Unasked platform inputs extra added)
    (some_held : inputs.holdings.rows ≠ []) :
    ∃ holdings, holdings.rows.Perm (inputs.holdings.rows ++ added) ∧
      prepare platform other request policy currentContext = .ok (inputs.withRows holdings) := by
  simp only [prepareWith_eq_ok_iff] at prepared ⊢
  obtain ⟨scope, profiled, agreed, extracted, normalized⟩ := prepared
  obtain ⟨given, declared, found, sound, parsed, broker, investor⟩ :=
    extractEvidence_eq_ok_iff.mp extracted
  cases Except.ok.inj (found.symm.trans held)
  obtain ⟨rows, parsed', perm'⟩ :=
    List.perm_comp_forall₂ perm (List.rel_append parsed unasked.parsed)
  have distinct : (rows.map PositionRow.identity).Nodup :=
    (perm'.map PositionRow.identity).nodup_iff.mpr unasked.distinct
  have sub : ∀ row ∈ rows, row ∈ inputs.holdings.rows ++ added := fun row mem =>
    perm'.mem_iff.mp mem
  refine ⟨⟨rows, distinct⟩, perm', (same.sameReads.validateContext _ _).trans scope, profiled, agreed,
    extractEvidence_eq_ok_iff.mpr ⟨records', declared, held', same.sound sound, parsed', ?_, ?_⟩,
    normalized⟩
  · exact (unasked.oneAccount (by decide) some_held broker).subset sub
  · exact (unasked.oneAccount (by decide) some_held investor).subset sub

end MoreRows

/-- **The order of the rows**: evidence whose records are put in another order, or to which valid
rows of the same account are added that no leg asks for, gives the same plan. -/
theorem plan_of_more_rows {platform : Platform}
    {evidence other request policy currentContext nowUtc monotonicNow : Value} {inputs : Inputs}
    {plan : CtpClosePlan}
    (built : buildCtpClosePlan platform evidence request policy currentContext nowUtc
      monotonicNow = .ok plan)
    (prepared : prepare platform evidence request policy currentContext = .ok inputs)
    (same : SameBesidesRecords evidence other) {records records' extra : List Value}
    (held : recordsOf evidence = .ok records) (held' : recordsOf other = .ok records')
    (perm : records'.Perm (records ++ extra))
    {added : List (PositionRow inputs.context.tradingDay)}
    (unasked : Unasked platform inputs extra added) :
    buildCtpClosePlan platform other request policy currentContext nowUtc monotonicNow =
      .ok plan := by
  rw [buildCtpClosePlan_of_prepare prepared] at built
  obtain ⟨holdings, rows, prepared'⟩ := prepare_withRows prepared same held held' perm unasked
    (rows_ne_nil built)
  rw [buildCtpClosePlan_of_prepare prepared']
  exact Inputs.plan_withRows unasked rows built

/-! ## The sample with its rows exchanged and one of another instrument added -/

def unaskedRow : Value := rowOf "cu2610" "SHFE" "3" "1" 9 9 0

def reorderedEvidence : Value :=
  evidenceWith [sampleRow "2" 2 0, unaskedRow, sampleRow "1" 3 3]

theorem sameBesidesRecords_table (records records' : Value) (fields : List (String × Value)) :
    SameBesidesRecords (table (("records", records) :: fields))
      (table (("records", records') :: fields)) where
  bare := rfl
  fields name apart := by
    have ne : (Key.str name == Key.str "records") = false := by
      refine beq_false_of_ne fun same => ?_
      simp [Key.str.inj same] at apart
    simp only [table, Fields.toValue, getField, Value.field, List.map_cons, List.lookup_cons, ne]

/-- Whether records may be added. -/
def mayAdd (platform : Platform) (inputs : Inputs) (extra : List Value) : Bool :=
  match extra.mapM fun record => parseRow platform record inputs.context.tradingDay with
  | .error _ => false
  | .ok added =>
    decide (∀ name ∈ ["BrokerID", "InvestorID"], ∀ row ∈ added, ∀ held ∈ inputs.holdings.rows,
      row.account name = held.account name) &&
    decide ((inputs.holdings.rows ++ added).map PositionRow.identity).Nodup &&
    decide (∀ leg ∈ inputs.request.legs.items, ∀ row ∈ added, row.target ≠ leg.target)

theorem unasked_of_mayAdd {extra : List Value} (may : mayAdd platform inputs extra = true) :
    ∃ added, Unasked platform inputs extra added := by
  unfold mayAdd at may
  split at may
  · cases may
  · rename_i added parsed
    simp only [Bool.and_eq_true, decide_eq_true_eq] at may
    exact ⟨added, mapM_eq_ok_iff.mp parsed, may.1.1, may.1.2, may.2⟩

theorem reordered_sample_plan :
    ∃ plan, buildCtpClosePlan samplePlatform sampleEvidence sampleRequest samplePolicy sampleContext
        (sampleMoment 1) (.int 1000000000) = .ok plan ∧
      buildCtpClosePlan samplePlatform reorderedEvidence sampleRequest samplePolicy sampleContext
        (sampleMoment 1) (.int 1000000000) = .ok plan := by
  have passes : ((prepare samplePlatform sampleEvidence sampleRequest samplePolicy
      sampleContext).toOption.map fun inputs =>
        (mayAdd samplePlatform inputs [unaskedRow],
          (inputs.plan samplePlatform (sampleMoment 1) (.int 1000000000)).isOk)) =
      some (true, true) := by decide +kernel
  obtain ⟨inputs, prepared, passes⟩ := exists_ok_of_map passes
  obtain ⟨may, planned⟩ := Prod.mk.inj passes
  obtain ⟨added, unasked⟩ := unasked_of_mayAdd may
  obtain ⟨plan, built⟩ := exists_ok planned
  rw [← buildCtpClosePlan_of_prepare prepared] at built
  have perm : [sampleRow "2" 2 0, unaskedRow, sampleRow "1" 3 3].Perm
      ([sampleRow "1" 3 3, sampleRow "2" 2 0] ++ [unaskedRow]) :=
    @List.perm_append_comm _ [sampleRow "2" 2 0, unaskedRow] [sampleRow "1" 3 3]
  exact ⟨plan, built, plan_of_more_rows built prepared
    (sameBesidesRecords_table _ _ _) rfl rfl perm unasked⟩

end BtApiCtp.ClosePlan
