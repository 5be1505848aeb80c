/-
# ClosePlan.EvidenceFields -- evidence is what its fields say

Evidence is a mapping or any object with attributes, and it is only ever asked for a field by its
names.  Two pieces of evidence whose fields and clocks read alike (`SameReads`), and so do those
of the envelopes in them (`SameEnvelope`), are therefore examined alike, apart from their records.
-/
import BtApiCtp.ClosePlan.Stages

namespace BtApiCtp.ClosePlan

open Theory Python

variable {evidence : Value} {names : List String} (platform : Platform)

/-! ## Fields by their names -/

theorem read_congr {other : Value}
    (same : ∀ name ∈ names, getField other name = getField evidence name) :
    read other names = read evidence names := by
  have found : (names.filterMap fun name => (getField other name).map fun item => (name, item)) =
      names.filterMap fun name => (getField evidence name).map fun item => (name, item) := by
    refine List.filterMap_congr fun name mem => ?_
    rw [same name mem]
  unfold read
  rw [found]

/-- The names under which evidence is read, apart from its monotonic times, its records and its
envelope. -/
def plainNames : List String :=
  ["source_hash", "clock_domain_id", "request_type", "query_request_id", "request_id",
    "account_fingerprint", "connection_generation", "trading_day", "complete",
    "evidence_complete", "query_complete", "is_last_seen", "query_is_last_seen", "timed_out",
    "unsupported", "error_code", "submit_code", "completed_at_utc", "completed_utc",
    "expires_at_utc", "source_expiry_utc", "read_only_ready", "is_read_only_ready",
    "query_read_only_ready", "query_timed_out", "query_unsupported", "query_error_code",
    "query_submit_code", "query_scope", "BrokerID", "broker_id", "InvestorID", "investor_id"]

def expiresNsNames : List String := ["expires_monotonic_ns", "source_expiry_monotonic_ns"]

def expiresSecondsNames : List String := ["expires_monotonic", "source_expiry_monotonic"]

/-- Evidence that reads the same besides its records and its envelope. -/
structure SameReads (evidence other : Value) : Prop where
  bare : isBare other = isBare evidence
  fields : ∀ name ∈ plainNames, getField other name = getField evidence name
  completed : ∀ label, clockFrom other completedNsNames completedSecondsNames label =
    clockFrom evidence completedNsNames completedSecondsNames label
  expires : ∀ label, clockFrom other expiresNsNames expiresSecondsNames label =
    clockFrom evidence expiresNsNames expiresSecondsNames label
  completedStatus : ∀ mono, statusCompletedMono other mono = statusCompletedMono evidence mono

/-- What a field holds before and after: the same, or mappings that read the same. -/
def SameNested (before after : Option Value) : Prop :=
  after = before ∨ ∃ kind entries kind' entries', before = some (.mapping kind entries) ∧
    after = some (.mapping kind' entries') ∧
    SameReads (.mapping kind entries) (.mapping kind' entries')

/-- Envelopes that are read alike, and so are the mappings in them. -/
structure SameEnvelope (before after : Option Value) : Prop where
  own : SameNested before after
  inner : ∀ name ∈ ["session_scope", "query_source"],
    SameNested (before.bind (getField · name)) (after.bind (getField · name))

theorem SameEnvelope.refl (envelope : Option Value) : SameEnvelope envelope envelope :=
  ⟨.inl rfl, fun _ _ => .inl rfl⟩

theorem clockFrom_eq_of_read {evidence other : Value} {names names' : List String}
    (first : read other names = read evidence names)
    (second : read other names' = read evidence names') (label : String) :
    clockFrom other names names' label = clockFrom evidence names names' label := by
  unfold clockFrom
  rw [first, second]

/-- The names under which mappings or records are read. -/
def partNames : List String :=
  ["records", "rows", "query_envelope", "session_scope", "query_source"]

theorem SameReads.of_fields {evidence other : Value} (bare : isBare other = isBare evidence)
    (fields : ∀ name, name ∉ partNames → getField other name = getField evidence name) :
    SameReads evidence other := by
  have plain : ∀ names : List String, (∀ name ∈ names, name ∉ partNames) →
      read other names = read evidence names := fun names apart =>
    read_congr fun name mem => fields name (apart name mem)
  have completed := clockFrom_eq_of_read (plain completedNsNames (by decide))
    (plain completedSecondsNames (by decide))
  refine ⟨bare, fun name mem => fields name ?_, completed,
    clockFrom_eq_of_read (plain _ (by decide)) (plain _ (by decide)), fun mono => ?_⟩
  · exact (by decide : ∀ name ∈ plainNames, name ∉ partNames) name mem
  · unfold statusCompletedMono
    rw [plain _ (by decide), plain _ (by decide), completed]

theorem read_one (source : Value) (name : String) :
    read source [name] = pure (getField source name) := by
  unfold read
  cases found : getField source name <;> simp [found] <;> rfl

namespace SameReads

variable {evidence other : Value} (same : SameReads evidence other) (platform : Platform)

include same

theorem read (plain : names ⊆ plainNames) :
    ClosePlan.read other names = ClosePlan.read evidence names :=
  read_congr fun name mem => same.fields name (plain mem)

theorem validateContext (context : Value) :
    ClosePlan.validateContext platform other context =
      ClosePlan.validateContext platform evidence context := by
  unfold ClosePlan.validateContext
  simp (disch := decide) only [same.read]

theorem validateScope (context : Context) :
    ClosePlan.validateScope other context = ClosePlan.validateScope evidence context := by
  unfold ClosePlan.validateScope
  simp (disch := decide) only [same.read]

theorem queryTimes (context : Context) (requestId : Int) :
    ClosePlan.queryTimes platform other context requestId =
      ClosePlan.queryTimes platform evidence context requestId := by
  have expires := same.expires "query expiry monotonic"
  unfold expiresNsNames expiresSecondsNames at expires
  unfold ClosePlan.queryTimes queryTimesWith
  simp (disch := decide) only [same.read, same.completed, expires]

theorem validateSourceStatus (completed completedMono : Int) :
    ClosePlan.validateSourceStatus platform completed completedMono other =
      ClosePlan.validateSourceStatus platform completed completedMono evidence := by
  unfold ClosePlan.validateSourceStatus statusFlag statusCode statusCompletedUtc
  simp (disch := decide) only [same.read, same.completedStatus]

end SameReads

/-! ## The envelope -/

/-- `None` has no fields, so it need not be told apart. -/
theorem collectDeclared_some (declared : Declared) (source : Value) :
    collectDeclaredAccountIdentity declared (some source) = declaredBy source declared := by
  cases source <;> rfl

theorem SameReads.collectDeclared {evidence other : Value} (same : SameReads evidence other)
    (declared : Declared) : collectDeclaredAccountIdentity declared (some other) =
      collectDeclaredAccountIdentity declared (some evidence) := by
  simp (disch := decide) only [collectDeclared_some, declaredBy, List.foldlM_cons, List.foldlM_nil,
    same.read]

theorem nested_eq (envelope : Option Value) (name : String) :
    nested envelope name =
      ((envelope.filter Value.isMapping).bind (getField · name)).filter Value.isMapping := by
  cases envelope with
  | none => rfl
  | some value =>
    cases value with
    | mapping kind entries =>
      change _ = (Value.field entries name).filter Value.isMapping
      unfold nested
      dsimp only
      cases Value.field entries name with
      | none => rfl
      | some inner => cases inner <;> rfl
    | _ => rfl

namespace SameNested

variable {before after : Option Value} (same : SameNested before after)
include same

theorem filter : SameNested (before.filter Value.isMapping) (after.filter Value.isMapping) := by
  rcases same with rfl | ⟨kind, entries, kind', entries', rfl, rfl, reads⟩
  · exact .inl rfl
  · exact .inr ⟨kind, entries, kind', entries', rfl, rfl, reads⟩

theorem getField {name : String} (plain : name ∈ plainNames) :
    after.bind (ClosePlan.getField · name) = before.bind (ClosePlan.getField · name) := by
  rcases same with rfl | ⟨_, _, _, _, rfl, rfl, reads⟩
  · rfl
  · exact reads.fields name plain

theorem validateSourceStatus (platform : Platform) (completed completedMono : Int) :
    forM after.toList (ClosePlan.validateSourceStatus platform completed completedMono) =
      forM before.toList (ClosePlan.validateSourceStatus platform completed completedMono) := by
  rcases same with rfl | ⟨_, _, _, _, rfl, rfl, reads⟩
  · rfl
  · simp [reads.validateSourceStatus]

theorem checkGiven (expected : List (String × Value))
    (plain : ∀ entry ∈ expected, entry.1 ∈ plainNames) (message : String) :
    ClosePlan.checkGiven after expected message = ClosePlan.checkGiven before expected message := by
  unfold ClosePlan.checkGiven
  induction expected with
  | nil => rfl
  | cons entry expected ih =>
    rw [List.forall_mem_cons] at plain
    simp only [List.forM_eq_forM, List.forM_cons] at ih ⊢
    rw [same.getField plain.1, ih plain.2]

theorem collectDeclared (declared : Declared) : collectDeclaredAccountIdentity declared after =
    collectDeclaredAccountIdentity declared before := by
  rcases same with rfl | ⟨_, _, _, _, rfl, rfl, reads⟩
  · rfl
  · exact reads.collectDeclared declared

end SameNested

namespace SameEnvelope

variable {before after : Option Value} (same : SameEnvelope before after)
include same

theorem nested {name : String} (mem : name ∈ ["session_scope", "query_source"]) :
    SameNested (ClosePlan.nested before name) (ClosePlan.nested after name) := by
  rw [nested_eq, nested_eq]
  refine SameNested.filter ?_
  have inner := same.inner name mem
  rcases same.own with rfl | ⟨_, _, _, _, rfl, rfl, _⟩
  · exact .inl rfl
  · exact inner

theorem sessionScope :
    SameNested (ClosePlan.nested before "session_scope") (ClosePlan.nested after "session_scope") :=
  same.nested (by decide)

theorem querySource :
    SameNested (ClosePlan.nested before "query_source") (ClosePlan.nested after "query_source") :=
  same.nested (by decide)

theorem validateEnvelope (context : Context) (requestId : Int) :
    ClosePlan.validateEnvelope after context requestId =
      ClosePlan.validateEnvelope before context requestId := by
  have plain : ∀ entry ∈ [("request_type", .str "positions"), ("request_id", .int requestId)] ++
      context.scope ++ [("clock_domain_id", .str context.clockDomainId)],
      entry.1 ∈ plainNames := by simp [Context.scope, plainNames]
  have own := same.own.checkGiven (context.scope.take 2) (by simp [Context.scope, plainNames])
  have scope := same.sessionScope.checkGiven context.scope (by simp [Context.scope, plainNames])
  have source := same.querySource.checkGiven _ plain
  rcases same.own with rfl | ⟨_, _, _, _, rfl, rfl, reads⟩
  · rfl
  · unfold ClosePlan.validateEnvelope
    simp (disch := decide) only [reads.read, own, scope, source]

theorem scopeMatches (context : Context) :
    ClosePlan.scopeMatches after context = ClosePlan.scopeMatches before context := by
  unfold ClosePlan.scopeMatches
  rcases same.sessionScope with equal | ⟨_, _, _, _, first, second, reads⟩
  · rw [equal]
  · simp (disch := decide) [first, second, Context.scope, reads.fields]

end SameEnvelope

/-! ## The evidence -/

namespace SameReads

variable {evidence other : Value} (same : SameReads evidence other) (platform : Platform)
include same

theorem validateEnding_bind {β : Type}
    (envelopes : SameEnvelope (getField evidence "query_envelope")
      (getField other "query_envelope"))
    (next next' : Option Value → Calc β)
    (rest : next' (getField other "query_envelope") = next (getField evidence "query_envelope")) :
    (ClosePlan.validateEnding other >>= next') = (ClosePlan.validateEnding evidence >>= next) := by
  unfold ClosePlan.validateEnding
  simp (disch := decide) only [same.read, read_one, same.fields, bind_assoc, pure_bind, rest,
    List.forM_eq_forM, List.forM_cons, List.forM_nil]
  refine bind_congr fun complete => bind_congr fun lastSeen => ?_
  rcases envelopes.own with equal | ⟨_, entries, _, entries', first, second, reads⟩
  · rw [equal]
  · have last : Value.field entries' "is_last_seen" = Value.field entries "is_last_seen" :=
      reads.fields _ (by decide)
    rw [first, second]
    cases lastSeen <;> simp only [last]

section Envelope

variable {before after : Option Value} (envelopes : SameEnvelope before after)
include envelopes

theorem validateCoverage (context : Context) :
    ClosePlan.validateCoverage other after context =
      ClosePlan.validateCoverage evidence before context := by
  unfold ClosePlan.validateCoverage
  simp (disch := decide) only [same.read, envelopes.scopeMatches context,
    envelopes.sessionScope.getField]
  refine bind_congr fun own => ?_
  rcases envelopes.own with rfl | ⟨_, entries, _, entries', rfl, rfl, reads⟩
  · rfl
  · have scope : Value.field entries' "query_scope" = Value.field entries "query_scope" :=
      reads.fields _ (by decide)
    cases own <;> simp only [scope]

theorem declaredAccount :
    ClosePlan.declaredAccount other after = ClosePlan.declaredAccount evidence before := by
  have inner : ∀ name ∈ ["session_scope", "query_source"], SameNested
      (before.bind fun value => if value.isMapping then getField value name else none)
      (after.bind fun value => if value.isMapping then getField value name else none) := by
    intro name mem
    have inner := envelopes.inner name mem
    rcases envelopes.own with rfl | ⟨_, _, _, _, rfl, rfl, _⟩
    · exact .inl rfl
    · exact inner
  unfold ClosePlan.declaredAccount
  simp only [List.foldlM_cons, List.foldlM_nil, same.collectDeclared,
    envelopes.own.collectDeclared, (inner _ (by decide : "session_scope" ∈ _)).collectDeclared,
    (inner _ (by decide : "query_source" ∈ _)).collectDeclared]

theorem validateStatuses (completed completedMono : Int) :
    (sourceStatusSources other after).forM
        (ClosePlan.validateSourceStatus platform completed completedMono) =
      (sourceStatusSources evidence before).forM
        (ClosePlan.validateSourceStatus platform completed completedMono) := by
  unfold sourceStatusSources
  simp only [List.forM_eq_forM, List.cons_append, List.forM_cons, List.forM_append,
    same.validateSourceStatus, envelopes.own.filter.validateSourceStatus,
    envelopes.sessionScope.validateSourceStatus, envelopes.querySource.validateSourceStatus]

end Envelope

/-- The same records are examined alike. -/
theorem extractEvidence (context : Context)
    (envelopes : SameEnvelope (getField evidence "query_envelope")
      (getField other "query_envelope"))
    (records : ∀ name ∈ ["records", "rows"], getField other name = getField evidence name) :
    ClosePlan.extractEvidence platform other context =
      ClosePlan.extractEvidence platform evidence context := by
  have examined : ∀ records, examineWith binary64 platform other context records =
      examineWith binary64 platform evidence context records := by
    intro records
    unfold examineWith
    rw [same.validateScope]
    refine bind_congr fun requestId => same.validateEnding_bind envelopes _ _ ?_
    simp only [same.queryTimes, same.validateStatuses platform envelopes,
      envelopes.validateEnvelope, same.validateCoverage envelopes, same.declaredAccount envelopes]
  simp only [extractEvidenceWith, same.bare, recordsOf, read_congr records, examined]

end SameReads

end BtApiCtp.ClosePlan
