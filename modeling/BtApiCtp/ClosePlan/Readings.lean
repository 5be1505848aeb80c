/-
# ClosePlan.Readings -- what is read of a request, a policy and a context

Each of the three is a mapping that is frozen and then read field by field.  An input passed if
every field was read (`normalizeRequest_eq_ok_iff`, `validatePolicy_eq_ok_iff`,
`validateContext_eq_ok_iff`), and a field is read by its name alone, so that dictionaries with the
same fields are read alike.
-/
import BtApiCtp.ClosePlan.Stages
import BtApiCtp.Python.Dictionary

namespace BtApiCtp.ClosePlan

open Theory Python

variable {platform : Platform} {field name : String} {value : Value} {fields others : Fields}
  {names : List String} {code : String} {utc : Int} {entries : List (Key × Value)}

/-- What a caller submits beside the evidence. -/
structure Submission where
  request : Value
  policy : Value
  currentContext : Value

/-! ## Times -/

/-- The moment in UTC that a value is, or that its text names. -/
def readUtc (platform : Platform) : Value → Option Int
  | .datetime moment => moment.offset.bind (utcOf moment.wall)
  | .str text => (platform.fromisoformat (spellOutUtc text)).bind fun moment =>
    moment.offset.bind (utcOf moment.wall)
  | _ => none

/-- The time of the monotonic clock that a value is. -/
def readClock (seconds : Bool) : Value → Option Int
  | .int ns => if 0 ≤ ns then some ns else none
  | .float (.finite exact) shortest _ =>
    if (seconds && decide (0 ≤ exact)) = true ∧ (shortest * 1000000000).den = 1 then
      some (shortest * 1000000000).num
    else none
  | _ => none

theorem instant_eq_ok_iff {moment : Datetime} :
    instant moment field code = .ok utc ↔ moment.offset.bind (utcOf moment.wall) = some utc := by
  unfold instant
  cases moment.offset with
  | none => simp [fail]
  | some offset =>
    simp only [Option.bind_some]
    cases utcOf moment.wall offset <;> simp

/-- A moment is read whatever its field is called. -/
theorem parseUtc_eq_ok_iff :
    parseUtc platform (some value) field code = .ok utc ↔ readUtc platform value = some utc := by
  cases value with
  | datetime moment => exact instant_eq_ok_iff
  | str text =>
    simp only [parseUtc, readUtc]
    cases platform.fromisoformat (spellOutUtc text) with
    | none => simp [fail]
    | some moment => exact instant_eq_ok_iff
  | _ => simp [parseUtc, readUtc, fail]

theorem utc_of_parsed {item : Option Value} (parsed : parseUtc platform item field code = .ok utc) :
    ∃ value, item = some value ∧ readUtc platform value = some utc := by
  cases item with
  | none => cases parsed
  | some value => exact ⟨value, rfl, parseUtc_eq_ok_iff.mp parsed⟩

theorem clockNs_eq_ok_iff {seconds : Bool} {mono : Int} :
    clockNs value field seconds = .ok mono ↔ readClock seconds value = some mono := by
  cases value with
  | int ns =>
    simp only [clockNs, readClock, bind_eq_ok_iff, check_eq_ok_iff, exists_const, pure_eq_ok_iff,
      decide_eq_true_iff, Option.ite_none_right_eq_some, Option.some.injEq]
  | float number shortest text =>
    cases number with
    | finite exact =>
      simp only [clockNs, readClock, bind_eq_ok_iff, check_eq_ok_iff, exists_const,
        pure_eq_ok_iff, beq_iff_eq, Option.ite_none_right_eq_some, Option.some.injEq, and_assoc]
    | _ => simp [clockNs, readClock, fail]
  | _ => simp [clockNs, readClock, fail]

/-! ## Dictionaries by their fields -/

theorem getField_toValue (fields : Fields) (name : String) :
    getField fields.toValue name = fields.get name := by
  unfold getField Fields.toValue Value.field Fields.get
  induction fields with
  | nil => rfl
  | cons entry fields ih =>
    have names : (Key.str name == Key.str entry.1) = (name == entry.1) :=
      Bool.eq_iff_iff.mpr (by simp)
    simp only [List.map_cons, List.lookup_cons, names, ih]
    rfl

theorem read_toValue (fields : Fields) (name : String) :
    read fields.toValue [name] = .ok (fields.get name) := by
  unfold read
  rw [List.filterMap_cons, getField_toValue]
  cases fields.get name <;> rfl

/-- A field that must be there. -/
theorem readConsistent_toValue (fields : Fields) (name label : String) :
    readConsistent fields.toValue [name] label =
      match fields.get name with
      | none => fail "O3B_REQUIRED_FIELD_MISSING" label
      | some item => .ok item := by
  unfold readConsistent
  rw [read_toValue]
  cases fields.get name <;> rfl

theorem clockFrom_of_read {source : Value} {nsNames secondsNames : List String}
    {ns seconds : Option Value} (first : read source nsNames = .ok ns)
    (second : read source secondsNames = .ok seconds) (label : String) :
    clockFrom source nsNames secondsNames label = clockOf ns seconds label := by
  unfold clockFrom
  rw [first, second]
  rfl

theorem clockFrom_toValue (fields : Fields) (ns seconds label : String) :
    clockFrom fields.toValue [ns] [seconds] label =
      clockOf (fields.get ns) (fields.get seconds) label :=
  clockFrom_of_read (read_toValue fields ns) (read_toValue fields seconds) label

/-- The fields of a frozen mapping. -/
def Frozen (value : Value) (fields : Fields) : Prop :=
  ∃ kind entries, value = .mapping kind entries ∧ snapshotEntries entries = .ok fields

/-- An entry and the field it is frozen to. -/
def Freezes (entry : Key × Value) (field : String × Value) : Prop :=
  entry.1 = .str field.1 ∧ snapshot entry.2 = .ok field.2

theorem snapshotEntries_eq_ok_iff :
    snapshotEntries entries = .ok fields ↔ List.Forall₂ Freezes entries fields := by
  induction entries generalizing fields with
  | nil =>
    rw [List.forall₂_nil_left_iff]
    exact ⟨fun came => (Except.ok.inj came).symm, fun same => same ▸ rfl⟩
  | cons entry entries ih =>
    obtain ⟨key, given⟩ := entry
    rw [List.forall₂_cons_left_iff]
    cases key with
    | other description =>
      refine iff_of_false (nofun) ?_
      rintro ⟨_, _, ⟨same, _⟩, _⟩
      cases same
    | str name =>
      simp only [snapshotEntries, bind_eq_ok_iff, pure_eq_ok_iff, ih]
      constructor
      · rintro ⟨first, here, rest, there, rfl⟩
        exact ⟨(name, first), rest, ⟨rfl, here⟩, there, rfl⟩
      · rintro ⟨⟨_, first⟩, rest, ⟨same, here⟩, there, rfl⟩
        cases same
        exact ⟨first, here, rest, there, rfl⟩

/-- A field is frozen by itself. -/
theorem get_of_freezes (frozen : List.Forall₂ Freezes entries fields) (name : String) :
    fields.get name = (Value.field entries name).bind fun item => (snapshot item).toOption := by
  unfold Fields.get Value.field
  induction frozen with
  | nil => rfl
  | @cons entry field entries fields head _ ih =>
    obtain ⟨key, given⟩ := entry
    obtain ⟨own, item⟩ := field
    obtain ⟨same, came⟩ := head
    cases same
    have names : (Key.str name == Key.str own) = (name == own) := Bool.eq_iff_iff.mpr (by simp)
    simp only [List.lookup_cons, names] at came ⊢
    cases name == own with
    | true => simp [came, Except.toOption]
    | false => exact ih

theorem Frozen.get (frozen : Frozen value fields) (name : String) :
    fields.get name = (getField value name).bind fun item => (snapshot item).toOption := by
  obtain ⟨kind, entries, rfl, frozen⟩ := frozen
  exact get_of_freezes (snapshotEntries_eq_ok_iff.mp frozen) name

theorem Frozen.get_eq_none (frozen : Frozen value fields) (absent : getField value name = none) :
    fields.get name = none := by
  rw [frozen.get, absent]
  rfl

/-- Two dictionaries have the same fields, apart from some. -/
def SameBut (names : List String) (fields others : Fields) : Prop :=
  ∀ name, name ∉ names → fields.get name = others.get name

section SameBut

variable (same : SameBut names fields others)
include same

theorem SameBut.get (kept : name ∉ names) : fields.get name = others.get name := same name kept

theorem SameBut.scopeText (kept : name ∉ names) :
    ClosePlan.scopeText fields name = ClosePlan.scopeText others name := by
  rw [ClosePlan.scopeText, same.get kept, ← ClosePlan.scopeText]

theorem SameBut.requestText (kept : name ∉ names) :
    ClosePlan.requestText fields name = ClosePlan.requestText others name := by
  rw [ClosePlan.requestText, same.get kept, ← ClosePlan.requestText]

theorem SameBut.mono {more : List String} (within : names ⊆ more) : SameBut more fields others :=
  fun name kept => same name fun mem => kept (within mem)

theorem SameBut.weaken (name : String) : SameBut (name :: names) fields others :=
  fun other kept => same other fun mem => kept (List.mem_cons_of_mem _ mem)

omit same in
theorem SameBut.pop_own (same : SameBut (name :: names) fields others) :
    SameBut names (fields.pop name) (others.pop name) := by
  intro other kept
  by_cases here : other = name
  · rw [here, Fields.get_pop_self, Fields.get_pop_self]
  · rw [Fields.get_pop_of_ne here, Fields.get_pop_of_ne here]
    exact same other (by simp [here, kept])

omit same in
theorem SameBut.set_own (same : SameBut (name :: names) fields others) (item : Value) :
    SameBut names (fields.set name item) (others.set name item) := by
  intro other kept
  by_cases here : other = name
  · rw [here, Fields.get_set_self, Fields.get_set_self]
  · rw [Fields.get_set_of_ne here, Fields.get_set_of_ne here]
    exact same other (by simp [here, kept])

theorem SameBut.pop (name : String) : SameBut names (fields.pop name) (others.pop name) :=
  (same.weaken name).pop_own

end SameBut

/-- Two dictionaries have the same keys in the same order, with related values. -/
def Alike (R : String → Value → Value → Prop) (fields others : Fields) : Prop :=
  List.Forall₂ (fun field other => field.1 = other.1 ∧ R field.1 field.2 other.2) fields others

namespace Alike

variable {R : String → Value → Value → Prop} {fields others : Fields}

theorem get (alike : Alike R fields others) (name : String) :
    (fields.get name = none ∧ others.get name = none) ∨
      ∃ value other, fields.get name = some value ∧ others.get name = some other ∧
        R name value other := by
  induction alike with
  | nil => exact .inl ⟨rfl, rfl⟩
  | @cons field other fields others head _ ih =>
    obtain ⟨key, value⟩ := field
    obtain ⟨key', value'⟩ := other
    obtain ⟨same, head⟩ := head
    cases same
    simp only [Fields.get, List.lookup_cons] at ih ⊢
    cases found : name == key with
    | true =>
      rw [beq_iff_eq] at found
      exact .inr ⟨value, value', rfl, rfl, found ▸ head⟩
    | false => exact ih

theorem isSome (alike : Alike R fields others) (name : String) :
    (fields.get name).isSome = (others.get name).isSome := by
  rcases alike.get name with ⟨none, none'⟩ | ⟨_, _, some, some', _⟩
  · rw [none, none']
  · rw [some, some']
    rfl

theorem sameBut (alike : Alike R fields others)
    (equal : ∀ name value other, name ∉ names → R name value other → value = other) :
    SameBut names fields others := by
  intro name kept
  rcases alike.get name with ⟨none, none'⟩ | ⟨_, _, some, some', related⟩
  · rw [none, none']
  · rw [some, some', equal _ _ _ kept related]

theorem mono {S : String → Value → Value → Prop} (alike : Alike R fields others)
    (implied : ∀ name value other, (name, value) ∈ fields → R name value other → S name value other) :
    Alike S fields others := by
  induction alike with
  | nil => exact .nil
  | @cons field other fields others head _ ih =>
    exact .cons ⟨head.1, implied _ _ _ List.mem_cons_self head.2⟩
      (ih fun name value other mem => implied name value other (List.mem_cons_of_mem _ mem))

theorem pop (alike : Alike R fields others) (name : String) :
    Alike R (fields.pop name) (others.pop name) := by
  induction alike with
  | nil => exact .nil
  | @cons field other fields others head _ ih =>
    simp only [Fields.pop, List.filter_cons, ← head.1] at ih ⊢
    split
    · exact .cons head ih
    · exact ih

theorem set (alike : Alike R fields others) {other : Value} (here : R name value other) :
    Alike R (fields.set name value) (others.set name other) := by
  have present := alike.isSome name
  simp only [Fields.get] at present
  simp only [Fields.set, present]
  split
  · refine List.forall₂_map_left_iff.mpr (List.forall₂_map_right_iff.mpr ?_)
    refine List.Forall₂.imp (fun field other head => ?_) alike
    rw [← head.1]
    split
    · exact ⟨rfl, here⟩
    · exact head
  · exact List.rel_append alike (.cons ⟨rfl, here⟩ .nil)

/-- Related values are put into both. -/
theorem update {news olds : Fields} (alike : Alike R fields others) (entries : Alike R news olds) :
    Alike R (news.foldl (fun fields entry => fields.set entry.1 entry.2) fields)
      (olds.foldl (fun fields entry => fields.set entry.1 entry.2) others) := by
  induction entries generalizing fields others with
  | nil => exact alike
  | @cons new old news olds head _ ih =>
    obtain ⟨name, value⟩ := new
    obtain ⟨_, value'⟩ := old
    obtain ⟨same, head⟩ := head
    cases same
    exact ih (alike.set head)

end Alike

/-! ## The policy -/

/-- A policy whose fields were read. -/
structure Policy.Reads (platform : Platform) (fields : Fields) (policy : Policy) : Prop where
  normalized : ∃ aliased normal, normalizeProfileAliases fields = .ok aliased ∧
    normalizePolicyDeadline platform aliased = .ok (normal, policy.deadline) ∧
    policyProfile normal = .ok (policy.policyId, policy.rowModel, policy.exchanges) ∧
    policy.material = policyMaterial normal
  nativeProfile : policy.nativeProfile = syntheticProfile

theorem validatePolicy_eq_ok_iff {policy : Value} {profile : Policy} :
    validatePolicy platform policy = .ok profile ↔
      ∃ fields, Frozen policy fields ∧ profile.Reads platform fields := by
  constructor
  · intro came
    cases policy with
    | mapping kind entries =>
      simp only [validatePolicy, bind_eq_ok_iff, pure_eq_ok_iff] at came
      obtain ⟨_, same, fields, frozen, aliased, aliases, ⟨normal, deadline⟩, timed,
        ⟨id, model, venues⟩, read,
        rfl⟩ := came
      cases same
      exact ⟨fields, ⟨kind, entries, rfl, frozen⟩, ⟨aliased, normal, aliases, timed, read, rfl⟩, rfl⟩
    | _ => cases came
  · rintro ⟨fields, ⟨kind, entries, rfl, frozen⟩, ⟨aliased, normal, aliases, timed, read, material⟩,
      native⟩
    simp only [validatePolicy, bind_eq_ok_iff, pure_eq_ok_iff]
    refine ⟨entries, rfl, fields, frozen, aliased, aliases, _, timed, _, read, ?_⟩
    rw [← material, ← native]

/-- Fields that are no part of a deadline. -/
def deadlineNames : List String := ["expires_at_utc", "expires_monotonic_ns", "expires_monotonic"]

/-- The names of a profile field. -/
def profileAliases : List (String × String) :=
  [("document_family", "source_document_family"), ("document_version", "source_document_version")]

/-- What a field is once an alias is resolved. -/
def resolved (get : String → Option Value) (canonical alias_ name : String) : Option Value :=
  if name = alias_ then none
  else if name = canonical then (get canonical).or (get alias_)
  else get name

/-- What a field is once both are resolved. -/
def profileField (get : String → Option Value) : String → Option Value :=
  resolved (resolved get "document_family" "source_document_family") "document_version"
    "source_document_version"

theorem profileField_of_ne {get : String → Option Value}
    (apart : ∀ names ∈ profileAliases, name ≠ names.1 ∧ name ≠ names.2) :
    profileField get name = get name := by
  simp only [profileAliases, List.forall_mem_cons] at apart
  simp [profileField, resolved, apart]

theorem profileField_deadline {get : String → Option Value} (mem : name ∈ deadlineNames) :
    profileField get name = get name :=
  profileField_of_ne ((by decide : ∀ name ∈ deadlineNames, ∀ names ∈ profileAliases,
    name ≠ names.1 ∧ name ≠ names.2) name mem)

theorem normalizeProfileAlias_get {aliased : Fields} {canonical alias_ : String}
    (came : normalizeProfileAlias fields canonical alias_ = .ok aliased) :
    aliased.get = resolved fields.get canonical alias_ := by
  simp only [normalizeProfileAlias, bind_eq_ok_iff] at came
  obtain ⟨_, _, came⟩ := came
  funext name
  unfold resolved
  cases first : fields.get canonical <;> cases second : fields.get alias_ <;>
    simp only [first, second, pure_eq_ok_iff] at came <;> subst came <;>
    by_cases there : name = alias_ <;> by_cases here : name = canonical <;>
    simp_all [Fields.get_pop_self, Fields.get_pop_of_ne, Fields.get_set_self, Fields.get_set_of_ne]

theorem normalizeProfileAliases_get {aliased : Fields}
    (came : normalizeProfileAliases fields = .ok aliased) :
    aliased.get = profileField fields.get := by
  simp only [normalizeProfileAliases, bind_eq_ok_iff] at came
  obtain ⟨family, first, second⟩ := came
  rw [normalizeProfileAlias_get second, normalizeProfileAlias_get first]
  rfl

/-- Related fields stay related when an alias is resolved in both. -/
theorem normalizeProfileAlias_related {aliased : Fields} {canonical alias_ : String}
    {R : Fields → Fields → Prop} (related : R fields others)
    (own : others.get canonical = fields.get canonical)
    (other : others.get alias_ = fields.get alias_)
    (set : ∀ item, R (fields.set canonical item) (others.set canonical item))
    (pop : ∀ fields others, R fields others → R (fields.pop alias_) (others.pop alias_))
    (came : normalizeProfileAlias fields canonical alias_ = .ok aliased) :
    ∃ aliased', normalizeProfileAlias others canonical alias_ = .ok aliased' ∧
      R aliased aliased' := by
  unfold normalizeProfileAlias at *
  rw [own, other]
  simp only [bind_eq_ok_iff] at came ⊢
  obtain ⟨_, agreed, came⟩ := came
  cases first : fields.get canonical <;> cases second : fields.get alias_ <;>
    simp only [first, second, pure_eq_ok_iff] at came agreed ⊢ <;> cases came
  case none.some item => exact ⟨_, ⟨(), agreed, rfl⟩, pop _ _ (set item)⟩
  all_goals exact ⟨_, ⟨(), agreed, rfl⟩, pop _ _ related⟩

/-- A deadline by both clocks, or none. -/
theorem normalizePolicyDeadline_eq_ok_iff {normal : Fields} {deadline : Option (Int × Int)} :
    normalizePolicyDeadline platform fields = .ok (normal, deadline) ↔
      ((∀ name ∈ deadlineNames, fields.get name = none) ∧ fields = normal ∧ none = deadline) ∨
        ∃ item utc mono, fields.get "expires_at_utc" = some item ∧ readUtc platform item = some utc ∧
          clockOf (fields.get "expires_monotonic_ns") (fields.get "expires_monotonic")
            "policy expiry monotonic" = .ok mono ∧
          ((fields.set "expires_at_utc" (utcValue utc)).set "expires_monotonic_ns" (.int mono)).pop
            "expires_monotonic" = normal ∧ some (utc, mono) = deadline := by
  simp only [normalizePolicyDeadline, bind_eq_ok_iff, policyCheck, check_eq_ok_iff, exists_const,
    beq_iff_eq, deadlineNames, List.forall_mem_cons, List.not_mem_nil, IsEmpty.forall_iff,
    implies_true, and_true]
  cases utcGiven : fields.get "expires_at_utc" with
  | none =>
    simp only [pure_eq_ok_iff, Prod.mk.injEq, Option.isSome_none, Bool.false_eq, Bool.or_eq_false_iff,
      Option.isSome_eq_false_iff, Option.isNone_iff_eq_none, true_and, reduceCtorEq, false_and,
      exists_false, or_false]
  | some item =>
    simp only [bind_eq_ok_iff, pure_eq_ok_iff, Prod.mk.injEq, clockFrom_toValue, parseUtc_eq_ok_iff,
      Fields.get_set_of_ne (show "expires_monotonic_ns" ≠ "expires_at_utc" by decide),
      Fields.get_set_of_ne (show "expires_monotonic" ≠ "expires_at_utc" by decide), Option.isSome_some,
      reduceCtorEq, false_and, false_or, Option.some.injEq]
    constructor
    · rintro ⟨_, utc, parsed, mono, clocked, same⟩
      exact ⟨item, utc, mono, rfl, parsed, clocked, same⟩
    · rintro ⟨_, utc, mono, rfl, parsed, clocked, same⟩
      refine ⟨?_, utc, parsed, mono, clocked, same⟩
      cases ns : fields.get "expires_monotonic_ns" <;> cases seconds : fields.get "expires_monotonic" <;>
        simp [ns, seconds, clockOf, fail] at clocked ⊢

theorem normalizePolicyDeadline_get {normal : Fields} {deadline : Option (Int × Int)}
    (came : normalizePolicyDeadline platform fields = .ok (normal, deadline))
    (apart : name ∉ deadlineNames) : normal.get name = fields.get name := by
  simp only [deadlineNames, List.mem_cons, List.not_mem_nil, or_false, not_or] at apart
  rcases normalizePolicyDeadline_eq_ok_iff.mp came with ⟨_, rfl, _⟩ | ⟨_, _, _, _, _, _, rfl, _⟩
  · rfl
  · rw [Fields.get_pop_of_ne apart.2.2, Fields.get_set_of_ne apart.2.1, Fields.get_set_of_ne apart.1]

section Congruence

variable (same : SameBut names fields others)
include same

theorem requireProfileMaterial_congr (expected : List (String × Value))
    (kept : ∀ entry ∈ expected, entry.1 ∉ names) :
    requireProfileMaterial fields expected = requireProfileMaterial others expected := by
  unfold requireProfileMaterial
  induction expected with
  | nil => rfl
  | cons entry expected ih =>
    rw [List.forall_mem_cons] at kept
    simp only [List.forM_eq_forM, List.forM_cons] at ih ⊢
    unfold profileMaterialMatches at ih ⊢
    rw [same entry.1 kept.1, ih kept.2]

theorem checkRowModel_congr (kept : ∀ name ∈ ["offsets", "wire_offsets"], name ∉ names) (id : String)
    (venues : List String) (model : RowModel) :
    checkRowModel fields id venues model = checkRowModel others id venues model := by
  have offsets : fields.get "offsets" = others.get "offsets" :=
    same _ (kept _ (by decide))
  have wire : fields.get "wire_offsets" = others.get "wire_offsets" :=
    same _ (kept _ (by decide))
  cases model <;> simp only [checkRowModel, offsets, wire]

theorem validateSourceLocation_congr (kept : "source_location" ∉ names) :
    validateSourceLocation fields = validateSourceLocation others := by
  unfold validateSourceLocation
  rw [same _ kept]

end Congruence

/-- A profile is read apart from the deadline. -/
theorem policyProfile_congr (same : SameBut deadlineNames fields others) :
    policyProfile fields = policyProfile others := by
  have first := same.pop "policy_version"
  have second := first.pop "policy_source_sha256"
  have common := requireProfileMaterial_congr second commonProfile (by decide)
  have split := requireProfileMaterial_congr second splitProfile (by decide)
  have generic := requireProfileMaterial_congr second genericProfile (by decide)
  have offsets := checkRowModel_congr second (by decide)
  have location := validateSourceLocation_congr second (by decide)
  have profile : ∀ model : RowModel, requireProfileMaterial
      ((fields.pop "policy_version").pop "policy_source_sha256")
      (if model = .splitByPositionDate then splitProfile else genericProfile) =
      requireProfileMaterial ((others.pop "policy_version").pop "policy_source_sha256")
      (if model = .splitByPositionDate then splitProfile else genericProfile) := by
    intro model
    split
    · exact split
    · exact generic
  unfold SameBut at same first second
  simp (disch := decide) only [policyProfile, readConsistent_toValue, same, first, second, common,
    profile, offsets, location]

/-- The fields of a policy that are renamed or normalised. -/
def resolvedNames : List String :=
  deadlineNames ++ profileAliases.flatMap (fun names => [names.1, names.2]) ++
    ["policy_version", "policy_source_sha256"]

theorem Policy.Reads.get_material {policy : Policy}
    (reads : policy.Reads platform fields) (apart : name ∉ resolvedNames) :
    policy.material.get name = fields.get name := by
  obtain ⟨⟨aliased, normal, aliases, timed, _, material⟩, _⟩ := reads
  simp only [resolvedNames, List.mem_append, not_or] at apart
  obtain ⟨⟨timely, documented⟩, others⟩ := apart
  simp only [List.mem_cons, List.not_mem_nil, or_false, not_or, List.mem_flatMap, not_exists, not_and]
    at documented others
  rw [material, policyMaterial, Fields.get_pop_of_ne others.2, Fields.get_pop_of_ne others.1,
    normalizePolicyDeadline_get timed timely, normalizeProfileAliases_get aliases,
    profileField_of_ne documented]

/-! ## The request -/

/-- What the request is brought up to date with for its digest. -/
def Request.normalized (request : Request) : List (String × Value) :=
  [("candidate_id", .str request.candidateId), ("candidate_sha256", .str request.candidateSha256),
    ("cycle_id", .str request.cycleId), ("execution_role", .str request.executionRole.text),
    ("expires_at_utc", utcValue request.expiresAtUtc),
    ("expires_monotonic_ns", .int request.expiresMonotonicNs),
    ("priority", .str request.priority.text),
    ("generic_age_request", (request.genericAgeRequest.map fun age => .str age.text).getD .none),
    ("legs", .tuple (request.legs.items.map Leg.toValue))]

/-- A request whose fields were read. -/
structure Request.Reads (platform : Platform) (fields : Fields) (request : Request) : Prop where
  legs : ∃ rawLegs, requestedLegs fields = .ok rawLegs ∧ normalizeLegs rawLegs = .ok request.legs
  candidateId : requestText fields "candidate_id" = .ok request.candidateId
  candidateSha256 : strictHex (fields.get "candidate_sha256") "candidate_sha256"
    "O3B_REQUEST_INVALID" = .ok request.candidateSha256
  cycleId : requestText fields "cycle_id" = .ok request.cycleId
  executionRole : ∃ role, requestText fields "execution_role" = .ok role ∧
    ExecutionRole.ofText role = some request.executionRole
  expiresAtUtc : parseUtc platform (fields.get "expires_at_utc") "request expiry"
    "O3B_CLOCK_INVALID" = .ok request.expiresAtUtc
  expiresMonotonicNs : clockOf (fields.get "expires_monotonic_ns") (fields.get "expires_monotonic")
    "request expiry monotonic" = .ok request.expiresMonotonicNs
  priority : normalizePriority (fields.get "priority") (fields.get "allocation_priority") =
    .ok request.priority
  genericAgeRequest : normalizeAge (fields.get "generic_age_request") =
    .ok request.genericAgeRequest
  claimed : claimedDigest (fields.get "request_sha256") (fields.get "request_digest")
    "request_sha256" "O3B_REQUEST_INVALID" "conflicting request digests" =
    .ok request.claimedRequestSha256
  material : request.material = requestMaterial fields request.normalized

/-- Requests that differ in their priority and their deadline only. -/
theorem Request.Reads.carried {request : Request} {material others : Fields} {utc mono : Int}
    (reads : request.Reads platform fields)
    (same : SameBut (["priority", "allocation_priority"] ++ deadlineNames) fields others)
    (priority : normalizePriority (others.get "priority") (others.get "allocation_priority") =
      .ok request.priority)
    (expiry : parseUtc platform (others.get "expires_at_utc") "request expiry" "O3B_CLOCK_INVALID" =
      .ok utc)
    (clock : clockOf (others.get "expires_monotonic_ns") (others.get "expires_monotonic")
      "request expiry monotonic" = .ok mono)
    (made : material = requestMaterial others
      { request with expiresAtUtc := utc, expiresMonotonicNs := mono }.normalized) :
    { request with expiresAtUtc := utc, expiresMonotonicNs := mono, material }.Reads platform
      others := by
  refine ⟨?legs, ?_, ?_, ?_, ?role, expiry, clock, priority, ?_, ?_, made⟩
  case legs =>
    rw [requestedLegs, ← same.get (by decide)]
    exact reads.legs
  case role =>
    rw [← same.requestText (by decide)]
    exact reads.executionRole
  all_goals simp (disch := decide) only [← same.get, ← same.requestText, reads.candidateId,
    reads.candidateSha256, reads.cycleId, reads.genericAgeRequest, reads.claimed]

theorem normalizeRequest_eq_ok_iff {request : Value} {wanted : Request} :
    normalizeRequest platform request = .ok wanted ↔
      ∃ fields, Frozen request fields ∧ wanted.Reads platform fields := by
  constructor
  · intro came
    cases request with
    | mapping kind entries =>
      simp only [normalizeRequest, bind_eq_ok_iff, clockFrom_toValue] at came
      obtain ⟨_, same, fields, frozen, rawLegs, raw, candidateId, candidate, candidateSha256, sha,
        cycleId, cycle, role, named, came⟩ := came
      cases same
      cases known : ExecutionRole.ofText role with
      | none =>
        rw [known] at came
        cases came
      | some executionRole =>
        simp only [known, bind_eq_ok_iff, pure_eq_ok_iff] at came
        obtain ⟨_, same, expiresAtUtc, utc, expiresMonotonicNs, mono, priority, first, age, aged,
          legs, normalized, claimed, claims, rfl⟩ := came
        cases same
        exact ⟨fields, ⟨kind, entries, rfl, frozen⟩, ⟨rawLegs, raw, normalized⟩, candidate, sha,
          cycle, ⟨role, named, known⟩, utc, mono, first, aged, claims, by rw [Request.normalized]⟩
    | _ => cases came
  · rintro ⟨fields, ⟨kind, entries, rfl, frozen⟩, ⟨⟨rawLegs, raw, normalized⟩, candidate, sha, cycle,
      ⟨role, named, known⟩, utc, mono, first, aged, claims, material⟩⟩
    simp only [normalizeRequest, bind_eq_ok_iff, clockFrom_toValue]
    refine ⟨_, rfl, fields, frozen, rawLegs, raw, _, candidate, _, sha, _, cycle, role, named, ?_⟩
    simp only [known, bind_eq_ok_iff, pure_eq_ok_iff]
    refine ⟨_, rfl, _, utc, _, mono, _, first, _, aged, _, normalized, _, claims, ?_⟩
    rw [← Request.normalized, ← material]

/-! ## The context -/

def contextNames : List String :=
  ["account_fingerprint", "trading_day", "connection_generation", "clock_domain_id",
    "session_binding_id", "native_profile", "evidence_source_hash", "expires_at_utc"]

/-- A context whose fields were read, and which the evidence agrees with. -/
structure Context.Reads (platform : Platform) (evidence : Value) (fields : Fields)
    (context : Context) : Prop where
  complete : ∀ name ∈ contextNames, (fields.get name).isSome = true
  accountFingerprint : scopeText fields "account_fingerprint" = .ok context.accountFingerprint
  clockDomainId : scopeText fields "clock_domain_id" = .ok context.clockDomainId
  sessionBindingId : scopeText fields "session_binding_id" = .ok context.sessionBindingId
  nativeProfile : scopeText fields "native_profile" = .ok context.nativeProfile
  tradingDay : scopeDay platform (fields.get "trading_day") = .ok context.tradingDay
  connectionGeneration : positiveInt (fields.get "connection_generation") =
    some context.connectionGeneration
  evidenceSourceHash : strictHex (fields.get "evidence_source_hash") "evidence_source_hash"
    "O3B_CURRENT_SCOPE_MISMATCH" = .ok context.evidenceSourceHash
  expiresAtUtc : parseUtc platform (fields.get "expires_at_utc") "current expiry"
    "O3B_CLOCK_INVALID" = .ok context.expiresAtUtc
  expiresMonotonicNs : clockOf (fields.get "expires_monotonic_ns") (fields.get "expires_monotonic")
    "current expiry monotonic" = .ok context.expiresMonotonicNs
  evidenceHash : ∃ hash, read evidence ["source_hash"] = .ok (some hash) ∧
    strictHex (some hash) "source_hash" "O3B_CURRENT_SCOPE_MISMATCH" = .ok context.evidenceSourceHash
  evidenceClock : ∃ clock, read evidence ["clock_domain_id"] = .ok clock ∧
    agree clock (some (.str context.clockDomainId)) = true

theorem validateContext_eq_ok_iff {evidence currentContext : Value} {context : Context} :
    validateContext platform evidence currentContext = .ok context ↔
      ∃ fields, Frozen currentContext fields ∧ context.Reads platform evidence fields := by
  constructor
  · intro came
    cases currentContext with
    | mapping kind entries =>
      simp only [validateContext, bind_eq_ok_iff, clockFrom_toValue, scopeCheck, check_eq_ok_iff,
        forM_eq_ok_iff, exists_const] at came
      obtain ⟨_, same, fields, frozen, complete, account, fingerprint, clock, domain, session,
        binding, native, profile, day, dated, came⟩ := came
      cases same
      cases known : positiveInt (fields.get "connection_generation") with
      | none =>
        rw [known] at came
        cases came
      | some generation =>
        simp only [known, bind_eq_ok_iff] at came
        obtain ⟨_, same, hash, hashed, utc, parsed, mono, clocked, found, read, came⟩ := came
        cases same
        cases found with
        | none => cases came
        | some own =>
          simp only [bind_eq_ok_iff, check_eq_ok_iff, exists_const, pure_eq_ok_iff,
            beq_iff_eq] at came
          obtain ⟨ownHash, ownHashed, rfl, ownClock, readClock, agreed, rfl⟩ := came
          exact ⟨fields, ⟨kind, entries, rfl, frozen⟩, complete, fingerprint, domain, binding,
            profile, dated, known, hashed, parsed, clocked, ⟨own, read, ownHashed⟩,
            ⟨ownClock, readClock, agreed⟩⟩
    | _ => cases came
  · rintro ⟨fields, ⟨kind, entries, rfl, frozen⟩, ⟨complete, fingerprint, domain, binding, profile,
      dated, known, hashed, parsed, clocked, ⟨own, read, ownHashed⟩, ⟨ownClock, readClock, agreed⟩⟩⟩
    simp only [validateContext, bind_eq_ok_iff, clockFrom_toValue, scopeCheck, check_eq_ok_iff,
      forM_eq_ok_iff, exists_const]
    refine ⟨_, rfl, fields, frozen, complete, _, fingerprint, _, domain, _, binding, _, profile, _,
      dated, ?_⟩
    simp only [known, bind_eq_ok_iff]
    refine ⟨_, rfl, _, hashed, _, parsed, _, clocked, _, read, ?_⟩
    simp only [bind_eq_ok_iff, check_eq_ok_iff, exists_const, pure_eq_ok_iff, beq_iff_eq]
    exact ⟨_, ownHashed, rfl, _, readClock, agreed, trivial⟩

end BtApiCtp.ClosePlan
