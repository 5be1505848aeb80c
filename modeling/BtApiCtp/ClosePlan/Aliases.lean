/-
# ClosePlan.Aliases -- a field under another of its names

A request may give its split priority, a policy its document and every input a monotonic time under
one of several names.  Most of them are resolved before anything is compared or hashed: `priority`
of a request, `document_family` and `document_version` of a policy, and a time in nanoseconds or as
`float` in seconds, of the policy, the context, the evidence and the envelope in it.  Either name
gives the same plan then (`Aliased.plan`).
-/
import BtApiCtp.ClosePlan.Canonical
import BtApiCtp.ClosePlan.PairedClocks

namespace BtApiCtp.ClosePlan

open Theory Python

variable {platform : Platform} {given other item source : Value} {entries : List (Key × Value)}
  {fields others aliased : Fields} {names : List String} {name canonical alias_ : String}
  {time : Int} {policy : Policy} {context : Context} {first second : String} {request : Request}
  {normal material : Fields} {deadline : Option (Int × Int)} {inputs : Inputs}

/-! ## Replacing a field -/

variable {result : EvidenceMeta × Holdings context.tradingDay}

/-- Entries before and after one of them is replaced by another, whose key they did not have. -/
structure ReplacedEntries (old : String) (value : Value) (new : String) (value' : Value)
    (entries entries' : List (Key × Value)) : Prop where
  apart : ∃ rest, entries.Perm ((.str old, value) :: rest) ∧ entries'.Perm ((.str new, value') :: rest)
  distinct : (entries.map Prod.fst).Nodup
  fresh : .str new ∉ entries.map Prod.fst

/-- A mapping or an object before and after a field is replaced by another. -/
inductive Replaced (old : String) (value : Value) (new : String) (value' : Value) :
    Value → Value → Prop
  | mapping {kind : String} {entries entries' : List (Key × Value)}
      (replaced : ReplacedEntries old value new value' entries entries') :
      Replaced old value new value' (.mapping kind entries) (.mapping kind entries')
  | object {identity : Nat} {entries entries' : List (Key × Value)}
      (replaced : ReplacedEntries old value new value' entries entries') :
      Replaced old value new value' (.object identity entries) (.object identity entries')

/-- What a lookup finds before and after. -/
structure Renamed (old : String) (value : Value) (new : String) (value' : Value)
    (get get' : String → Option Value) : Prop where
  other : ∀ name, name ≠ old → name ≠ new → get' name = get name
  before : get old = some value ∧ get new = none
  after : get' old = none ∧ get' new = some value'

variable {old new : String} {value value' : Value}

namespace ReplacedEntries

variable {entries entries' : List (Key × Value)}

theorem symm (replaced : ReplacedEntries old value new value' entries entries') :
    ReplacedEntries new value' old value entries' entries := by
  obtain ⟨⟨rest, before, after⟩, distinct, fresh⟩ := replaced
  have keys := (before.map Prod.fst).nodup_iff.mp distinct
  rw [List.map_cons, List.nodup_cons] at keys
  have absent := (before.map Prod.fst).mem_iff.not.mp fresh
  rw [List.map_cons, List.mem_cons, not_or] at absent
  refine ⟨⟨rest, after, before⟩, ?_, ?_⟩
  · rw [(after.map Prod.fst).nodup_iff, List.map_cons, List.nodup_cons]
    exact ⟨absent.2, keys.2⟩
  · rw [(after.map Prod.fst).mem_iff, List.map_cons, List.mem_cons, not_or]
    exact ⟨Ne.symm absent.1, keys.1⟩

theorem renamed (replaced : ReplacedEntries old value new value' entries entries') :
    Renamed old value new value' (Value.field entries) (Value.field entries') := by
  have swapped := replaced.symm
  obtain ⟨⟨rest, before, after⟩, distinct, fresh⟩ := replaced
  have first : ∀ name, Value.field entries name = ((.str old, value) :: rest).lookup (.str name) :=
    fun name => lookup_perm before distinct (.str name)
  have second : ∀ name, Value.field entries' name = ((.str new, value') :: rest).lookup (.str name) :=
    fun name => lookup_perm after swapped.distinct (.str name)
  refine ⟨fun name apart apart' => ?_, ⟨?_, ?_⟩, ?_, ?_⟩
  · rw [first, second, List.lookup_cons, List.lookup_cons,
      beq_false_of_ne (fun same => apart' (Key.str.inj same)),
      beq_false_of_ne (fun same => apart (Key.str.inj same))]
  · rw [first, List.lookup_cons, beq_self_eq_true]
  · exact lookup_eq_none_iff_keys.mpr fresh
  · exact lookup_eq_none_iff_keys.mpr swapped.fresh
  · rw [second, List.lookup_cons, beq_self_eq_true]

end ReplacedEntries

theorem Replaced.symm (replaced : Replaced old value new value' given other) :
    Replaced new value' old value other given := by
  cases replaced with
  | mapping replaced => exact .mapping replaced.symm
  | object replaced => exact .object replaced.symm

theorem Replaced.renamed (replaced : Replaced old value new value' given other) :
    Renamed old value new value' (getField given) (getField other) := by
  cases replaced with
  | mapping replaced | object replaced => exact replaced.renamed

/-! ## Frozen fields -/

theorem keys_of_freezes (frozen : List.Forall₂ Freezes entries fields) :
    entries.map Prod.fst = (fields.map Prod.fst).map Key.str := by
  induction frozen with
  | nil => rfl
  | cons head _ ih => rw [List.map_cons, List.map_cons, List.map_cons, ih, head.1]

theorem exists_freezes_iff :
    (∃ fields, List.Forall₂ Freezes entries fields) ↔
      ∀ entry ∈ entries, ∃ field, Freezes entry field := by
  induction entries with
  | nil => exact ⟨fun _ _ mem => absurd mem List.not_mem_nil, fun _ => ⟨[], .nil⟩⟩
  | cons entry entries ih =>
    rw [List.forall_mem_cons, ← ih]
    constructor
    · rintro ⟨_, frozen⟩
      obtain ⟨field, fields, here, there, _⟩ := List.forall₂_cons_left_iff.mp frozen
      exact ⟨⟨field, here⟩, fields, there⟩
    · rintro ⟨⟨field, here⟩, fields, there⟩
      exact ⟨field :: fields, .cons here there⟩

/-- Fields before and after one of them is given under another name. -/
structure RenamedField (old : String) (value : Value) (new : String) (value' : Value)
    (fields others : Fields) : Prop where
  distinct : (fields.map Prod.fst).Nodup
  distinct' : (others.map Prod.fst).Nodup
  gets : Renamed old value new value' fields.get others.get

theorem Replaced.value_frozen (replaced : Replaced old value new value' given other)
    (frozen : Frozen given fields) : ∃ item, snapshot value = .ok item := by
  obtain ⟨kind, entries, rfl, frozen⟩ := frozen
  cases replaced with
  | mapping replaced =>
    obtain ⟨rest, before, _⟩ := replaced.apart
    obtain ⟨field, _, came⟩ := exists_freezes_iff.mp ⟨_, snapshotEntries_eq_ok_iff.mp frozen⟩ _
      (before.mem_iff.mpr List.mem_cons_self)
    exact ⟨field.2, came⟩

/-- What a frozen mapping becomes when a field of it is replaced. -/
theorem Replaced.frozen {item' : Value} (replaced : Replaced old value new value' given other)
    (frozen : Frozen given fields) (came : snapshot value = .ok item)
    (came' : snapshot value' = .ok item') :
    ∃ others, Frozen other others ∧ RenamedField old item new item' fields others := by
  obtain ⟨kind, entries, rfl, frozen⟩ := frozen
  rw [snapshotEntries_eq_ok_iff] at frozen
  cases replaced with
  | @mapping _ _ entries' replaced =>
    obtain ⟨rest, before, after⟩ := replaced.apart
    have all : ∀ entry ∈ entries', ∃ field, Freezes entry field := by
      intro entry mem
      rcases List.mem_cons.mp (after.mem_iff.mp mem) with rfl | kept
      · exact ⟨(new, item'), rfl, came'⟩
      · exact exists_freezes_iff.mp ⟨_, frozen⟩ entry
          (before.mem_iff.mpr (List.mem_cons_of_mem _ kept))
    obtain ⟨others, frozen'⟩ := exists_freezes_iff.mpr all
    have distinct := replaced.distinct
    have distinct' := replaced.symm.distinct
    rw [keys_of_freezes frozen] at distinct
    rw [keys_of_freezes frozen'] at distinct'
    have gets := replaced.renamed
    refine ⟨others, ⟨kind, entries', rfl, snapshotEntries_eq_ok_iff.mpr frozen'⟩, distinct.of_map,
      distinct'.of_map, fun name apart apart' => ?_, ⟨?_, ?_⟩, ?_, ?_⟩
    · rw [get_of_freezes frozen', get_of_freezes frozen, gets.other name apart apart']
    · rw [get_of_freezes frozen, gets.before.1, Option.bind_some, came]
      rfl
    · rw [get_of_freezes frozen, gets.before.2, Option.bind_none]
    · rw [get_of_freezes frozen', gets.after.1, Option.bind_none]
    · rw [get_of_freezes frozen', gets.after.2, Option.bind_some, came']
      rfl

/-! ## The request -/

/-- Either of two names is replaced by the other. -/
def OneOf (first second old new : String) : Prop :=
  (old = first ∧ new = second) ∨ (old = second ∧ new = first)

theorem OneOf.symm (pair : OneOf first second old new) : OneOf first second new old := by
  rcases pair with ⟨here, there⟩ | ⟨here, there⟩
  · exact .inr ⟨there, here⟩
  · exact .inl ⟨there, here⟩

theorem OneOf.apart (pair : OneOf first second old new) (apart : name ≠ first ∧ name ≠ second) :
    name ≠ old ∧ name ≠ new := by
  rcases pair with ⟨rfl, rfl⟩ | ⟨rfl, rfl⟩
  · exact apart
  · exact apart.symm

theorem RenamedField.sameBut (renamed : RenamedField old value new value' fields others)
    (pair : OneOf first second old new) : SameBut [first, second] fields others := by
  intro name apart
  simp only [List.mem_cons, List.not_mem_nil, or_false, not_or] at apart
  rcases pair with ⟨rfl, rfl⟩ | ⟨rfl, rfl⟩
  · exact (renamed.gets.other name apart.1 apart.2).symm
  · exact (renamed.gets.other name apart.2 apart.1).symm

theorem distinct_requestMaterial (distinct : (fields.map Prod.fst).Nodup)
    (entries : List (String × Value)) : ((requestMaterial fields entries).map Prod.fst).Nodup := by
  have popped := (SameDict.refl distinct).pop "allocation_priority"
  exact ((((popped.update entries).pop _).pop _).pop _).distinct

theorem sameDict_requestMaterial {entries : List (String × Value)}
    (distinct : (fields.map Prod.fst).Nodup) (distinct' : (others.map Prod.fst).Nodup)
    (same : SameBut ["allocation_priority", "priority"] fields others)
    (set : "priority" ∈ entries.map Prod.fst) :
    SameDict (requestMaterial fields entries) (requestMaterial others entries) := by
  have updated : SameBut [] (entries.foldl (fun fields entry => fields.set entry.1 entry.2)
      (fields.pop "allocation_priority")) (entries.foldl (fun fields entry =>
      fields.set entry.1 entry.2) (others.pop "allocation_priority")) := by
    intro name _
    by_cases here : name ∈ entries.map Prod.fst
    · exact Fields.get_update_of_mem here
    · rw [Fields.get_update_of_not_mem here, Fields.get_update_of_not_mem here]
      exact same.pop_own name fun mem => here (List.mem_singleton.mp mem ▸ set)
  exact .of_get (distinct_requestMaterial distinct _) (distinct_requestMaterial distinct' _)
    fun name => ((updated.pop "request_sha256").pop "request_digest").pop "_claimed_request_sha256"
      name List.not_mem_nil

theorem Request.Reads.renamed (pair : OneOf "priority" "allocation_priority" old new)
    (renamed : RenamedField old value new value fields others)
    (reads : request.Reads platform fields) :
    ∃ material, { request with material := material }.Reads platform others ∧
      SameDict request.material material := by
  have same := renamed.sameBut pair
  have material := sameDict_requestMaterial renamed.distinct renamed.distinct'
    (renamed.sameBut (Or.symm pair))
    (by simp [Request.normalized] : "priority" ∈ request.normalized.map Prod.fst)
  have priority : normalizePriority (others.get "priority") (others.get "allocation_priority") =
      .ok request.priority := by
    rw [← reads.priority]
    obtain ⟨_, before, after⟩ := renamed.gets
    rcases pair with ⟨rfl, rfl⟩ | ⟨rfl, rfl⟩
    iterate 2
      · rw [before.1, before.2, after.1, after.2]
        rfl
  have utc := reads.expiresAtUtc
  have clock := reads.expiresMonotonicNs
  rw [same.get (by decide)] at utc
  rw [same.get (by decide), same.get (by decide)] at clock
  generalize made : requestMaterial others request.normalized = own at material
  exact ⟨own, reads.carried (same.mono (by decide)) priority utc clock made.symm,
    reads.material ▸ material⟩

/-! ## Clocks -/

/-- What a value under one of the names of a clock tells: nanoseconds as an `int`, also under a name
of seconds, or seconds as a `float`, whose decimal has the sign of the number. -/
inductive Tells (nsNames secondsNames : List String) (time : Int) : String → Value → Prop
  | ns {name : String} (mem : name ∈ nsNames) : Tells nsNames secondsNames time name (.int time)
  | count {name : String} (mem : name ∈ secondsNames) :
      Tells nsNames secondsNames time name (.int time)
  | seconds {name : String} {exact shortest : ℚ} {text : String} (mem : name ∈ secondsNames)
      (same : shortest * 1000000000 = time) (sign : 0 ≤ exact ↔ 0 ≤ time) :
      Tells nsNames secondsNames time name (.float (.finite exact) shortest text)

theorem filterMap_absent (absent : ∀ name ∈ names, getField source name = none) :
    (names.filterMap fun name => (getField source name).map fun item => (name, item)) = [] :=
  List.filterMap_eq_nil_iff.mpr fun name mem => by rw [absent name mem, Option.map_none]

theorem read_of_absent (absent : ∀ name ∈ names, getField source name = none) :
    read source names = .ok none := by
  unfold read
  rw [filterMap_absent absent]

theorem read_of_alone (distinct : names.Nodup) (mem : name ∈ names)
    (found : getField source name = some item)
    (alone : ∀ other ∈ names, other ≠ name → getField source other = none) :
    read source names = .ok (some item) := by
  obtain ⟨before, after, rfl⟩ := List.append_of_mem mem
  have fresh := (List.nodup_cons.mp (List.nodup_middle.mp distinct)).1
  have absent : ∀ other ∈ before ++ after, getField source other = none := fun other among =>
    alone other (List.perm_middle.mem_iff.mpr (List.mem_cons_of_mem _ among))
      fun same => fresh (same ▸ among)
  rw [List.forall_mem_append] at absent
  unfold read
  rw [List.filterMap_append, List.filterMap_cons, found, filterMap_absent absent.1,
    filterMap_absent absent.2]
  rfl

namespace Tells

variable {nsNames secondsNames : List String} (tells : Tells nsNames secondsNames time name item)
include tells

theorem mem : name ∈ nsNames ++ secondsNames := by
  cases tells with
  | ns mem => exact List.mem_append_left _ mem
  | count mem | seconds mem => exact List.mem_append_right _ mem

theorem snapshot : ClosePlan.snapshot item = .ok item := by
  cases tells <;> rfl

end Tells

section OneName

variable {nsNames secondsNames : List String} {time : Int} {evidence other : Value}

/-- A time of a source that is given under one name only. -/
structure OneName (nsNames secondsNames : List String) (time : Int) (name : String) (item : Value)
    (evidence : Value) : Prop where
  tells : Tells nsNames secondsNames time name item
  found : getField evidence name = some item
  alone : ∀ other ∈ nsNames ++ secondsNames, other ≠ name → getField evidence other = none

/-- The clock of a source that has one of its names. -/
theorem OneName.reads (one : OneName nsNames secondsNames time name item source)
    (distinct : (nsNames ++ secondsNames).Nodup) :
    ∃ ns seconds, read source nsNames = .ok ns ∧ read source secondsNames = .ok seconds ∧
      (ns.isSome || seconds.isSome) = true ∧
      ∀ label mono,
        clockFrom source nsNames secondsNames label = .ok mono ↔ 0 ≤ time ∧ mono = time := by
  obtain ⟨tells, found, alone⟩ := one
  have parts := List.nodup_append.mp distinct
  cases tells with
  | ns mem =>
    have first := read_of_alone parts.1 mem found fun other among =>
      alone other (List.mem_append_left _ among)
    have second : read source secondsNames = .ok none := read_of_absent fun other among =>
      alone other (List.mem_append_right _ among) (Ne.symm (parts.2.2 _ mem _ among))
    refine ⟨_, _, first, second, rfl, fun label mono => ?_⟩
    rw [clockFrom_of_read first second, clockOf, clockNs_eq_ok_iff]
    simp [readClock, @eq_comm _ time]
  | count mem | seconds mem =>
    have first : read source nsNames = .ok none := read_of_absent fun other among =>
      alone other (List.mem_append_left _ among) (parts.2.2 _ among _ mem)
    have second := read_of_alone parts.2.1 mem found fun other among =>
      alone other (List.mem_append_right _ among)
    refine ⟨_, _, first, second, rfl, fun label mono => ?_⟩
    rw [clockFrom_of_read first second, clockOf, clockNs_eq_ok_iff]
    simp [readClock, *, Rat.den_intCast, Rat.num_intCast, @eq_comm _ time]

/-- A source with a time under another name has it under that name only. -/
theorem OneName.replaced (gets : Renamed old value new value' (getField evidence) (getField other))
    (before : OneName nsNames secondsNames time old value evidence)
    (after : Tells nsNames secondsNames time new value') :
    OneName nsNames secondsNames time new value' other := by
  refine ⟨after, gets.after.2, fun name mem apart => ?_⟩
  by_cases here : name = old
  · rw [here, gets.after.1]
  · rw [gets.other name here apart]
    exact before.alone name mem here

/-- The time is read whatever it is called. -/
theorem OneName.clockFrom_iff (one : OneName nsNames secondsNames time name item evidence)
    (distinct : (nsNames ++ secondsNames).Nodup) (label : String) (mono : Int) :
    clockFrom evidence nsNames secondsNames label = .ok mono ↔ 0 ≤ time ∧ mono = time := by
  obtain ⟨_, _, _, _, _, reads⟩ := one.reads distinct
  exact reads label mono

theorem OneName.frozen {item : Value} (one : OneName nsNames secondsNames time name item given)
    (frozen : Frozen given fields) : OneName nsNames secondsNames time name item fields.toValue := by
  refine ⟨one.tells, ?_, fun key mem apart => ?_⟩
  · rw [getField_toValue, frozen.get, one.found, Option.bind_some, one.tells.snapshot]
    rfl
  · rw [getField_toValue, frozen.get_eq_none (one.alone key mem apart)]

end OneName

/-- The names of the expiry of a request, a policy or a context. -/
abbrev ExpiryName : Int → String → Value → Value → Prop :=
  OneName ["expires_monotonic_ns"] ["expires_monotonic"]

/-- Fields whose deadline has the same clock. -/
structure SameClock (fields others : Fields) : Prop where
  distinct : (fields.map Prod.fst).Nodup
  distinct' : (others.map Prod.fst).Nodup
  clock : ∀ label mono, clockOf (fields.get "expires_monotonic_ns") (fields.get "expires_monotonic")
      label = .ok mono →
    clockOf (others.get "expires_monotonic_ns") (others.get "expires_monotonic") label = .ok mono

/-- Fields whose deadline has its clock under another name. -/
structure Retimed (fields others : Fields) : Prop extends SameClock fields others where
  same : SameBut ["expires_monotonic_ns", "expires_monotonic"] fields others
  timed : ∃ name ∈ ["expires_monotonic_ns", "expires_monotonic"], fields.get name ≠ none

theorem Replaced.retimed {time : Int} (replaced : Replaced old value new value' given other)
    (before : ExpiryName time old value given) (after : ExpiryName time new value' other)
    (frozen : Frozen given fields) : ∃ others, Frozen other others ∧ Retimed fields others := by
  obtain ⟨others, frozen', renamed⟩ :=
    replaced.frozen frozen before.tells.snapshot after.tells.snapshot
  refine ⟨others, frozen', ⟨renamed.distinct, renamed.distinct', fun label mono => ?_⟩,
    fun name apart => ?_, old, before.tells.mem, ?_⟩
  · rw [← clockFrom_toValue, ← clockFrom_toValue, (before.frozen frozen).clockFrom_iff (by decide),
      (after.frozen frozen').clockFrom_iff (by decide)]
    exact id
  · exact (renamed.gets.other name (fun same => apart (same ▸ before.tells.mem))
      fun same => apart (same ▸ after.tells.mem)).symm
  · simp [renamed.gets.before.1]

theorem Request.Reads.retimed (retimed : Retimed fields others)
    (reads : request.Reads platform fields) :
    ∃ material, { request with material := material }.Reads platform others := by
  have same := retimed.same
  have utc := reads.expiresAtUtc
  have priority := reads.priority
  rw [same.get (by decide)] at utc
  rw [same.get (by decide), same.get (by decide)] at priority
  have clock := retimed.clock _ _ reads.expiresMonotonicNs
  generalize made : requestMaterial others request.normalized = own
  exact ⟨own, reads.carried (same.mono (by decide)) priority utc clock made.symm⟩

/-! ## The policy -/

section Policy

variable {fields aliased : Fields}

theorem normalizeProfileAlias_isOk :
    (∃ aliased, normalizeProfileAlias fields canonical alias_ = .ok aliased) ↔
      agree (fields.get canonical) (fields.get alias_) = true := by
  unfold normalizeProfileAlias
  cases fields.get canonical <;> cases fields.get alias_ <;>
    simp only [bind_eq_ok_iff, policyCheck, check_eq_ok_iff, pure_eq_ok_iff, exists_const,
      exists_and_left, exists_eq', and_true]

theorem normalizeProfileAliases_isOk : (∃ aliased, normalizeProfileAliases fields = .ok aliased) ↔
    ∀ names ∈ profileAliases, agree (fields.get names.1) (fields.get names.2) = true := by
  simp only [normalizeProfileAliases, profileAliases, bind_eq_ok_iff, List.forall_mem_cons,
    List.not_mem_nil, IsEmpty.forall_iff, implies_true, and_true]
  rw [exists_comm]
  simp only [exists_and_left, normalizeProfileAlias_isOk]
  constructor
  · rintro ⟨family, first, agreed⟩
    refine ⟨normalizeProfileAlias_isOk.mp ⟨_, first⟩, ?_⟩
    rwa [normalizeProfileAlias_get first] at agreed
  · rintro ⟨agreed, agreed'⟩
    obtain ⟨family, first⟩ := normalizeProfileAlias_isOk.mpr agreed
    refine ⟨family, first, ?_⟩
    rwa [normalizeProfileAlias_get first]

theorem normalizeProfileAlias_distinct (distinct : (fields.map Prod.fst).Nodup)
    (came : normalizeProfileAlias fields canonical alias_ = .ok aliased) :
    (aliased.map Prod.fst).Nodup := by
  have same := SameDict.refl distinct
  obtain ⟨_, _, kept⟩ := normalizeProfileAlias_related same rfl rfl (same.set _)
    (fun _ _ same => same.pop _) came
  exact kept.distinct

/-- Policies that are the same once their aliases and their deadline are resolved. -/
structure PolicyAlike (fields others : Fields) : Prop extends SameClock fields others where
  agreed : ∀ names ∈ profileAliases,
    agree (others.get names.1) (others.get names.2) = agree (fields.get names.1) (fields.get names.2)
  same : ∀ name ∉ ["expires_monotonic_ns", "expires_monotonic"],
    profileField fields.get name = profileField others.get name
  without : (∀ name ∈ deadlineNames, profileField fields.get name = none) →
    profileField fields.get = profileField others.get

theorem Policy.Reads.alike (alike : PolicyAlike fields others) (reads : policy.Reads platform fields) :
    ∃ material, { policy with material := material }.Reads platform others ∧
      SameDict policy.material material := by
  obtain ⟨⟨aliased, normal, aliases, timed, profile, material⟩, native⟩ := reads
  obtain ⟨aliased', aliases'⟩ := normalizeProfileAliases_isOk.mpr fun names mem =>
    (alike.agreed names mem).trans (normalizeProfileAliases_isOk.mp ⟨_, aliases⟩ names mem)
  have same : SameBut ["expires_monotonic_ns", "expires_monotonic"] aliased aliased' := by
    intro name apart
    rw [normalizeProfileAliases_get aliases, normalizeProfileAliases_get aliases',
      alike.same name apart]
  have distinct : ∀ {fields aliased}, (fields.map Prod.fst).Nodup →
      normalizeProfileAliases fields = .ok aliased → (aliased.map Prod.fst).Nodup := by
    intro fields aliased distinct came
    obtain ⟨_, first, second⟩ := bind_eq_ok_iff.mp came
    exact normalizeProfileAlias_distinct (normalizeProfileAlias_distinct distinct first) second
  have normalized : ∃ normal',
      normalizePolicyDeadline platform aliased' = .ok (normal', policy.deadline) ∧
        SameDict normal normal' := by
    have own := SameDict.refl (distinct alike.distinct aliases)
    have own' := SameDict.refl (distinct alike.distinct' aliases')
    rw [normalizePolicyDeadline_eq_ok_iff, normalizeProfileAliases_get aliases] at timed
    simp only [normalizePolicyDeadline_eq_ok_iff, normalizeProfileAliases_get aliases']
    rcases timed with ⟨absent, rfl, none⟩ | ⟨item, utc, mono, given, parsed, clocked, rfl, some⟩
    · have equal := alike.without absent
      refine ⟨aliased', .inl ⟨fun name mem => ?_, rfl, none⟩, .of_get own.distinct own'.distinct ?_⟩
      · rw [← equal]
        exact absent name mem
      · rw [normalizeProfileAliases_get aliases, normalizeProfileAliases_get aliases', equal]
        exact fun _ => rfl
    · refine ⟨_, .inr ⟨item, utc, mono, ?_, parsed, alike.clock _ _ clocked, rfl, some⟩, ?_⟩
      · rw [← alike.same _ (by decide)]
        exact given
      · have timed := (((same.weaken "expires_at_utc").set_own (utcValue utc)).set_own
          (.int mono)).pop_own
        exact .of_get (((own.set _ (utcValue utc)).set _ (.int mono)).pop _).distinct
          (((own'.set _ (utcValue utc)).set _ (.int mono)).pop _).distinct
          fun name => timed name List.not_mem_nil
  obtain ⟨normal', timed', same⟩ := normalized
  refine ⟨policyMaterial normal', ⟨⟨aliased', normal', aliases', timed', ?_, rfl⟩, native⟩, ?_⟩
  · rw [← policyProfile_congr fun name _ => same.get name]
    exact profile
  · rw [material]
    exact (same.pop _).pop _

end Policy

theorem resolved_congr {get get' : String → Option Value}
    (same : ∀ name, name ∉ names → get name = get' name) (apart : canonical ∉ names)
    (apart' : alias_ ∉ names) (name : String) (kept : name ∉ names) :
    resolved get canonical alias_ name = resolved get' canonical alias_ name := by
  unfold resolved
  rw [same name kept, same canonical apart, same alias_ apart']

theorem Retimed.policyAlike (retimed : Retimed fields others) : PolicyAlike fields others := by
  have same := retimed.same
  refine ⟨retimed.toSameClock, fun names mem => ?_, fun name apart => ?_, fun absent => ?_⟩
  · have apart := (by decide : ∀ names ∈ profileAliases,
      names.1 ∉ ["expires_monotonic_ns", "expires_monotonic"] ∧
        names.2 ∉ ["expires_monotonic_ns", "expires_monotonic"]) names mem
    rw [same.get apart.1, same.get apart.2]
  · exact resolved_congr (resolved_congr same (by decide) (by decide)) (by decide) (by decide) _ apart
  · obtain ⟨name, mem, given⟩ := retimed.timed
    have among := (by decide : ["expires_monotonic_ns", "expires_monotonic"] ⊆ deadlineNames) mem
    exact absurd ((profileField_deadline among).symm.trans (absent name among)) given

theorem RenamedField.policyAlike (names : (canonical, alias_) ∈ profileAliases)
    (pair : OneOf canonical alias_ old new)
    (renamed : RenamedField old value new value fields others) : PolicyAlike fields others := by
  obtain ⟨distinct, distinct', other, before, after⟩ := renamed
  have kept : ∀ name ∈ ["expires_monotonic_ns", "expires_monotonic"],
      others.get name = fields.get name := by
    intro name mem
    have apart := pair.apart ((by decide : ∀ names ∈ profileAliases,
      ∀ name ∈ ["expires_monotonic_ns", "expires_monotonic"], name ≠ names.1 ∧ name ≠ names.2)
      _ names name mem)
    exact other name apart.1 apart.2
  simp only [profileAliases, List.mem_cons, Prod.mk.injEq, List.not_mem_nil, or_false] at names
  have resolves : profileField others.get = profileField fields.get := by
    funext name
    unfold profileField resolved
    rcases names with ⟨rfl, rfl⟩ | ⟨rfl, rfl⟩ <;> rcases pair with ⟨rfl, rfl⟩ | ⟨rfl, rfl⟩ <;>
      simp (disch := decide) only [before, after, other] <;> split_ifs <;> simp_all
  refine ⟨⟨distinct, distinct', fun label mono clocked => ?_⟩, ?_,
    fun name _ => (congrFun resolves name).symm, fun _ => resolves.symm⟩
  · rw [kept _ (by decide), kept _ (by decide)]
    exact clocked
  · intro own mem
    simp only [profileAliases, List.mem_cons, List.not_mem_nil, or_false] at mem
    rcases mem with rfl | rfl <;> rcases names with ⟨rfl, rfl⟩ | ⟨rfl, rfl⟩ <;>
      rcases pair with ⟨rfl, rfl⟩ | ⟨rfl, rfl⟩ <;> simp (disch := decide) [before, after, other, agree]

/-! ## The context -/

theorem Context.Reads.retimed {evidence : Value} (retimed : Retimed fields others)
    (reads : context.Reads platform evidence fields) : context.Reads platform evidence others := by
  have same := retimed.same
  refine ⟨fun name mem => ?_, ?_, ?_, ?_, ?_, ?_, ?_, ?_, ?_,
    retimed.clock _ _ reads.expiresMonotonicNs, reads.evidenceHash, reads.evidenceClock⟩
  · have kept := (by decide : ∀ name ∈ contextNames,
      name ∉ ["expires_monotonic_ns", "expires_monotonic"]) name mem
    rw [← same.get kept]
    exact reads.complete name mem
  all_goals simp (disch := decide) only [← same.get, ← same.scopeText, reads.accountFingerprint,
    reads.clockDomainId, reads.sessionBindingId, reads.nativeProfile, reads.tradingDay,
    reads.connectionGeneration, reads.evidenceSourceHash, reads.expiresAtUtc]

/-! ## The evidence -/

/-- The names of a clock of the evidence. -/
inductive EvidenceClock : List String → List String → Prop
  | completed : EvidenceClock completedNsNames completedSecondsNames
  | expires : EvidenceClock expiresNsNames expiresSecondsNames

section EvidenceClock

variable {nsNames secondsNames : List String} {time : Int} {evidence other : Value}

theorem statusCompletedMono_of_given {ns seconds : Option Value}
    (first : read source completedNsNames = .ok ns)
    (second : read source completedSecondsNames = .ok seconds)
    (given : (ns.isSome || seconds.isSome) = true) (mono : Int) :
    statusCompletedMono source mono = (do
      let actual ← clockFrom source completedNsNames completedSecondsNames
        "source completion monotonic"
      check (actual == mono) "O3B_POSITION_EVIDENCE_INCONSISTENT"
        "source completion monotonic differs from query completion") := by
  unfold statusCompletedMono
  rw [first, second]
  exact if_pos given

variable (clock : EvidenceClock nsNames secondsNames)
include clock

theorem EvidenceClock.distinct : (nsNames ++ secondsNames).Nodup := by cases clock <;> decide

theorem EvidenceClock.apart :
    ∀ name ∈ nsNames ++ secondsNames, name ∉ plainNames ∧ name ∉ partNames := by
  cases clock <;> decide

theorem EvidenceClock.sameReads
    (gets : Renamed old value new value' (getField evidence) (getField other))
    (bare : isBare other = isBare evidence) (positive : 0 ≤ time)
    (before : OneName nsNames secondsNames time old value evidence)
    (after : OneName nsNames secondsNames time new value' other) : SameReads evidence other := by
  have plain : ∀ names : List String, (∀ name ∈ names, name ∉ nsNames ++ secondsNames) →
      read other names = read evidence names := by
    intro names kept
    refine read_congr fun name mem => gets.other name ?_ ?_
    · exact fun same => kept name mem (same ▸ before.tells.mem)
    · exact fun same => kept name mem (same ▸ after.tells.mem)
  obtain ⟨ns, seconds, readNs, readSeconds, given, reads⟩ := before.reads clock.distinct
  obtain ⟨ns', seconds', readNs', readSeconds', given', reads'⟩ := after.reads clock.distinct
  have same : ∀ label, clockFrom other nsNames secondsNames label =
      clockFrom evidence nsNames secondsNames label := fun label =>
    ((reads' label time).mpr ⟨positive, rfl⟩).trans ((reads label time).mpr ⟨positive, rfl⟩).symm
  refine ⟨bare, fun name mem => gets.other name ?_ ?_, ?_, ?_, ?_⟩
  · exact fun same => (clock.apart _ (same ▸ before.tells.mem)).1 mem
  · exact fun same => (clock.apart _ (same ▸ after.tells.mem)).1 mem
  · cases clock with
    | completed => exact same
    | expires => exact clockFrom_eq_of_read (plain _ (by decide)) (plain _ (by decide))
  · cases clock with
    | completed => exact clockFrom_eq_of_read (plain _ (by decide)) (plain _ (by decide))
    | expires => exact same
  · intro mono
    cases clock with
    | completed =>
      rw [statusCompletedMono_of_given readNs readSeconds given,
        statusCompletedMono_of_given readNs' readSeconds' given', same]
    | expires =>
      unfold statusCompletedMono
      rw [plain _ (by decide), plain _ (by decide),
        clockFrom_eq_of_read (plain _ (by decide)) (plain _ (by decide))]

/-- Evidence that passed has its times. -/
theorem EvidenceClock.nonneg_of_accepted (one : OneName nsNames secondsNames time name item evidence)
    (came : extractEvidence platform evidence context = .ok result) : 0 ≤ time := by
  have times := times_of_accepted came
  cases clock with
  | completed => exact ((one.clockFrom_iff (by decide) _ _).mp times.completed).1
  | expires => exact ((one.clockFrom_iff (by decide) _ _).mp times.expires).1

/-- The parts of a source are not among its times. -/
theorem EvidenceClock.part (gets : Renamed old value new value' (getField evidence) (getField other))
    (before : Tells nsNames secondsNames time old value)
    (after : Tells nsNames secondsNames time new value') (mem : name ∈ partNames) :
    getField other name = getField evidence name :=
  gets.other name (fun same => (clock.apart _ (same ▸ before.mem)).2 mem)
    fun same => (clock.apart _ (same ▸ after.mem)).2 mem

/-- Evidence with a time under another name is examined alike. -/
theorem EvidenceClock.extractEvidence (replaced : Replaced old value new value' evidence other)
    (before : OneName nsNames secondsNames time old value evidence)
    (after : Tells nsNames secondsNames time new value')
    (came : extractEvidence platform evidence context = .ok result) :
    SameReads evidence other ∧ ClosePlan.extractEvidence platform other context = .ok result := by
  have gets := replaced.renamed
  have bare : isBare other = isBare evidence := by cases replaced <;> rfl
  have kept : ∀ name ∈ partNames, getField other name = getField evidence name := fun _ mem =>
    clock.part gets before.tells after mem
  have reads := clock.sameReads gets bare (clock.nonneg_of_accepted before came) before
    (before.replaced gets after)
  refine ⟨reads, ?_⟩
  rw [reads.extractEvidence platform context (kept "query_envelope" (by decide) ▸ .refl _)
    fun name mem => kept name ((by decide : ["records", "rows"] ⊆ partNames) mem), came]

end EvidenceClock

/-! ## The envelope of the evidence -/

/-- A mapping or an object before and after one of its fields holds another value. -/
structure Changed (name : String) (held held' source other : Value) : Prop where
  bare : isBare other = isBare source
  before : getField source name = some held
  after : getField other name = some held'
  fields : ∀ key, key ≠ name → getField other key = getField source key

theorem Changed.symm {held held' : Value} (changed : Changed name held held' source other) :
    Changed name held' held other source :=
  ⟨changed.bare.symm, changed.after, changed.before,
    fun key apart => (changed.fields key apart).symm⟩

theorem Changed.sameReads {held held' : Value} (changed : Changed name held held' source other)
    (part : name ∈ partNames) : SameReads source other :=
  .of_fields changed.bare fun key apart => changed.fields key fun same => apart (same ▸ part)

/-- Evidence before and after its envelope, or the mapping under one of two names in that, is
another mapping. -/
inductive Enclosed (held held' : Value) : Value → Value → Prop
  | envelope {evidence other : Value} (changed : Changed "query_envelope" held held' evidence other) :
      Enclosed held held' evidence other
  | inner {evidence other : Value} {kind kind' name : String} {entries entries' : List (Key × Value)}
      (mem : name ∈ ["session_scope", "query_source"])
      (envelope : Changed "query_envelope" (.mapping kind entries) (.mapping kind' entries')
        evidence other)
      (changed : Changed name held held' (.mapping kind entries) (.mapping kind' entries')) :
      Enclosed held held' evidence other

section Enclosed

variable {evidence other : Value} {kind kind' : String} {entries entries' : List (Key × Value)}

theorem Enclosed.symm {held held' : Value} (enclosed : Enclosed held held' evidence other) :
    Enclosed held' held other evidence := by
  cases enclosed with
  | envelope changed => exact .envelope changed.symm
  | inner mem envelope changed => exact .inner mem envelope.symm changed.symm

theorem validateEnding_envelope {envelope : Option Value}
    (came : validateEnding evidence = .ok envelope) :
    envelope = getField evidence "query_envelope" := by
  simp only [validateEnding, read_one, pure_bind, bind_eq_ok_iff, pure_eq_ok_iff] at came
  obtain ⟨_, _, _, _, _, _, _, _, _, _, rfl⟩ := came
  rfl

variable (enclosed : Enclosed (.mapping kind entries) (.mapping kind' entries') evidence other)
include enclosed

theorem Enclosed.changed :
    ∃ held held', Changed "query_envelope" held held' evidence other := by
  cases enclosed with
  | envelope changed => exact ⟨_, _, changed⟩
  | inner _ envelope _ => exact ⟨_, _, envelope⟩

theorem Enclosed.mem_sources : .mapping kind entries ∈
    sourceStatusSources evidence (getField evidence "query_envelope") := by
  cases enclosed with
  | envelope changed =>
    rw [changed.before]
    exact List.mem_cons_of_mem _ (List.mem_append_left _ (List.mem_append_left _
      List.mem_cons_self))
  | inner mem envelope changed =>
    have found := nested_eq (getField evidence "query_envelope")
    simp only [List.mem_cons, List.not_mem_nil, or_false] at mem
    rw [envelope.before] at found ⊢
    have held : nested _ _ = some (.mapping kind entries) :=
      (found _).trans (congrArg (Option.filter Value.isMapping) changed.before)
    unfold sourceStatusSources
    rcases mem with rfl | rfl <;> simp [held]

/-- A mapping whose completion time is under another name leaves the envelope as it reads. -/
theorem Enclosed.sameEnvelope
    (reads : SameReads (.mapping kind entries) (.mapping kind' entries'))
    (parts : ∀ name ∈ partNames, getField (.mapping kind' entries') name =
      getField (.mapping kind entries) name) :
    SameEnvelope (getField evidence "query_envelope") (getField other "query_envelope") := by
  cases enclosed with
  | envelope changed =>
    rw [changed.before, changed.after]
    refine ⟨.inr ⟨_, _, _, _, rfl, rfl, reads⟩, fun name mem => .inl (parts name ?_)⟩
    exact (by decide : ["session_scope", "query_source"] ⊆ partNames) mem
  | @inner _ _ part _ _ mem envelope changed =>
    rw [envelope.before, envelope.after]
    have inside := (by decide : ["session_scope", "query_source"] ⊆ partNames) mem
    refine ⟨.inr ⟨_, _, _, _, rfl, rfl, changed.sameReads inside⟩, fun name _ => ?_⟩
    by_cases here : name = part
    · subst here
      exact .inr ⟨_, _, _, _, changed.before, changed.after, reads⟩
    · exact .inl (changed.fields name here)

variable {context : Context} {result : EvidenceMeta × Holdings context.tradingDay}
  (before : OneName completedNsNames completedSecondsNames time old value (.mapping kind entries))
  (came : extractEvidence platform evidence context = .ok result)
include before came

/-- A completion time in an envelope that passed is the evidence's. -/
theorem Enclosed.completed : 0 ≤ time ∧ result.1.completedMonotonicNs = time := by
  obtain ⟨_, _, _, ⟨_, _, envelope, _, ending, _, statuses, _⟩, _⟩ := extractEvidence_eq_ok_iff.mp came
  rw [validateEnding_envelope ending] at statuses
  have passed := statuses _ enclosed.mem_sources
  simp only [validateSourceStatus, bind_eq_ok_iff] at passed
  obtain ⟨_, _, _, _, _, _, _, _, _, _, _, _, _, _, _, _, completed⟩ := passed
  obtain ⟨_, _, readNs, readSeconds, given, reads⟩ := before.reads (by decide)
  simp only [statusCompletedMono_of_given readNs readSeconds given, bind_eq_ok_iff, check_eq_ok_iff,
    beq_iff_eq] at completed
  obtain ⟨mono, clocked, rfl⟩ := completed
  exact (reads _ _).mp clocked

/-- Evidence whose envelope has the completion time under another name is examined alike. -/
theorem Enclosed.extractEvidence
    (replaced : Replaced old value new value' (.mapping kind entries) (.mapping kind' entries'))
    (after : Tells completedNsNames completedSecondsNames time new value') :
    SameReads evidence other ∧ ClosePlan.extractEvidence platform other context = .ok result := by
  have gets := replaced.renamed
  have reads := EvidenceClock.completed.sameReads gets rfl (enclosed.completed before came).1 before
    (before.replaced gets after)
  have envelopes := enclosed.sameEnvelope reads fun _ mem =>
    EvidenceClock.completed.part gets before.tells after mem
  obtain ⟨_, _, changed⟩ := enclosed.changed
  have own := changed.sameReads (by decide)
  refine ⟨own, ?_⟩
  rw [own.extractEvidence platform context envelopes fun name mem => changed.fields name
    ((by decide : ∀ name ∈ ["records", "rows"], name ≠ "query_envelope") name mem), came]

end Enclosed

/-! ## The plan -/

/-- The same inputs, with other dictionaries to hash. -/
def Inputs.withMaterial (inputs : Inputs) (policy request : Fields) : Inputs :=
  { inputs with
    policy := { inputs.policy with material := policy }
    request := { inputs.request with material := request } }

/-- Nothing to hash but the same dictionary. -/
def SameMaterial (fields others : Fields) : Prop := others = fields ∨ SameDict fields others

theorem SameMaterial.get (same : SameMaterial fields others) (name : String) :
    fields.get name = others.get name := by
  rcases same with rfl | same
  · rfl
  · exact same.get name

theorem policyDigest_sameMaterial (same : SameMaterial policy.material material) :
    policyDigest platform { policy with material := material } = policyDigest platform policy := by
  rcases same with rfl | same
  · rfl
  · simp only [policyDigest, ← same.get,
      ← digest_sameDict ((same.pop "policy_sha256").pop "policy_digest")]

theorem requestDigest_sameMaterial (same : SameMaterial request.material material) :
    requestDigest platform { request with material := material } = requestDigest platform request := by
  rcases same with rfl | same
  · rfl
  · simp only [requestDigest, ← digest_sameDict same]

/-- What is hashed matters for the digests only. -/
theorem Inputs.plan_withMaterial {policy request : Fields} {nowUtc monotonicNow : Value}
    {plan : CtpClosePlan} (samePolicy : SameMaterial inputs.policy.material policy)
    (sameRequest : requestDigest platform { inputs.request with material := request } =
      requestDigest platform inputs.request)
    (planned : inputs.plan platform nowUtc monotonicNow = .ok plan) :
    (inputs.withMaterial policy request).plan platform nowUtc monotonicNow = .ok plan := by
  obtain ⟨_, sha, ⟨exchanges, ⟨utc, mono, now, nowMono, policySha, version, deadlines, digested,
    versioned, rfl⟩, requested⟩, allocated⟩ := Inputs.plan_eq_ok_iff.mp planned
  obtain ⟨parts, each, rest⟩ := Inputs.allocate_eq_ok_iff.mp allocated
  refine Inputs.plan_eq_ok_iff.mpr ⟨_, sha, ⟨exchanges, ⟨utc, mono, now, nowMono, policySha, version,
    ?_, (policyDigest_sameMaterial samePolicy).trans digested, ?_, rfl⟩, sameRequest.trans requested⟩,
    Inputs.allocate_eq_ok_iff.mpr ⟨parts, each.imp fun leg part came => ?_, rest⟩⟩
  · simp only [validateDeadlinesWith, samePolicy.get] at deadlines
    exact deadlines
  · rw [policyVersion, samePolicy.get] at versioned
    exact versioned
  · change legActions inputs.policy.rowModel _ _ _ = _
    generalize inputs.policy.rowModel = rowModel at came ⊢
    cases rowModel <;> exact came

/-! ## Either name -/

/-- What the planner makes of evidence and the other inputs. -/
def Submission.build (submission : Submission) (platform : Platform)
    (evidence nowUtc monotonicNow : Value) : Calc CtpClosePlan :=
  buildCtpClosePlan platform evidence submission.request submission.policy
    submission.currentContext nowUtc monotonicNow

/-- A source of a monotonic time that is not hashed, and the inputs with another in its place. -/
inductive ClockAt (evidence : Value) (submission : Submission) :
    List String → List String → Value → Value → Value → Submission → Prop
  | policy {policy : Value} : ClockAt evidence submission ["expires_monotonic_ns"]
      ["expires_monotonic"] submission.policy policy evidence { submission with policy }
  | context {currentContext : Value} : ClockAt evidence submission ["expires_monotonic_ns"]
      ["expires_monotonic"] submission.currentContext currentContext evidence
      { submission with currentContext }
  | evidence {other : Value} {nsNames secondsNames : List String}
      (clock : EvidenceClock nsNames secondsNames) :
      ClockAt evidence submission nsNames secondsNames evidence other other submission
  | envelope {other : Value} {kind : String} {entries entries' : List (Key × Value)}
      (enclosed : Enclosed (.mapping kind entries) (.mapping kind entries') evidence other) :
      ClockAt evidence submission completedNsNames completedSecondsNames (.mapping kind entries)
        (.mapping kind entries') other submission

/-- One field of the inputs under another of its names. -/
inductive Aliased (evidence : Value) (submission : Submission) : Value → Submission → Prop
  | priority {request : Value} {old new : String} {value : Value}
      (names : OneOf "priority" "allocation_priority" old new)
      (replaced : Replaced old value new value submission.request request) :
      Aliased evidence submission evidence { submission with request }
  | profile {policy : Value} {canonical alias_ old new : String} {value : Value}
      (field : (canonical, alias_) ∈ profileAliases) (names : OneOf canonical alias_ old new)
      (replaced : Replaced old value new value submission.policy policy) :
      Aliased evidence submission evidence { submission with policy }
  | clock {other given given' : Value} {submission' : Submission} {nsNames secondsNames : List String}
      {old new : String} {value value' : Value} {time : Int}
      (place : ClockAt evidence submission nsNames secondsNames given given' other submission')
      (before : OneName nsNames secondsNames time old value given)
      (after : Tells nsNames secondsNames time new value')
      (replaced : Replaced old value new value' given given') :
      Aliased evidence submission other submission'

namespace Aliased

variable {evidence other : Value} {submission submission' : Submission}

theorem symm (aliased : Aliased evidence submission other submission') :
    Aliased other submission' evidence submission := by
  obtain ⟨request, policy, currentContext⟩ := submission
  cases aliased with
  | priority names replaced => exact .priority names.symm replaced.symm
  | profile field names replaced => exact .profile field names.symm replaced.symm
  | clock place before after replaced =>
    refine .clock ?_ (before.replaced replaced.renamed after) before.tells replaced.symm
    cases place with
    | policy => exact .policy
    | context => exact .context
    | evidence clock => exact .evidence clock
    | envelope enclosed => exact .envelope enclosed.symm

/-- The inputs pass alike, but for the order of what is hashed. -/
theorem prepare (aliased : Aliased evidence submission other submission')
    (prepared : prepare platform evidence submission.request submission.policy
      submission.currentContext = .ok inputs) :
    ∃ policy request, SameMaterial inputs.policy.material policy ∧
      SameMaterial inputs.request.material request ∧
      ClosePlan.prepare platform other submission'.request submission'.policy
        submission'.currentContext = .ok (inputs.withMaterial policy request) := by
  simp only [prepareWith_eq_ok_iff] at prepared ⊢
  obtain ⟨current, passed, native, extracted, normalized⟩ := prepared
  cases aliased with
  | priority names replaced =>
    obtain ⟨fields, frozen, reads⟩ := normalizeRequest_eq_ok_iff.mp normalized
    obtain ⟨item, came⟩ := replaced.value_frozen frozen
    obtain ⟨others, frozen', renamed⟩ := replaced.frozen frozen came came
    obtain ⟨material, reads', same⟩ := reads.renamed names renamed
    exact ⟨_, material, .inl rfl, .inr same, current, passed, native, extracted,
      normalizeRequest_eq_ok_iff.mpr ⟨others, frozen', reads'⟩⟩
  | profile field names replaced =>
    obtain ⟨fields, frozen, reads⟩ := validatePolicy_eq_ok_iff.mp passed
    obtain ⟨item, came⟩ := replaced.value_frozen frozen
    obtain ⟨others, frozen', renamed⟩ := replaced.frozen frozen came came
    obtain ⟨material, reads', same⟩ := reads.alike (renamed.policyAlike field names)
    exact ⟨material, _, .inr same, .inl rfl, current,
      validatePolicy_eq_ok_iff.mpr ⟨others, frozen', reads'⟩, native, extracted, normalized⟩
  | clock place before after replaced =>
    have after' := before.replaced replaced.renamed after
    cases place with
    | policy =>
      obtain ⟨fields, frozen, reads⟩ := validatePolicy_eq_ok_iff.mp passed
      obtain ⟨others, frozen', retimed⟩ := replaced.retimed before after' frozen
      obtain ⟨material, reads', same⟩ := reads.alike retimed.policyAlike
      exact ⟨material, _, .inr same, .inl rfl, current,
        validatePolicy_eq_ok_iff.mpr ⟨others, frozen', reads'⟩, native, extracted, normalized⟩
    | context =>
      obtain ⟨fields, frozen, reads⟩ := validateContext_eq_ok_iff.mp current
      obtain ⟨others, frozen', retimed⟩ := replaced.retimed before after' frozen
      exact ⟨_, _, .inl rfl, .inl rfl, validateContext_eq_ok_iff.mpr
        ⟨others, frozen', reads.retimed retimed⟩, passed, native, extracted, normalized⟩
    | evidence clock =>
      obtain ⟨reads, extracted'⟩ := clock.extractEvidence replaced before after extracted
      exact ⟨_, _, .inl rfl, .inl rfl, (reads.validateContext _ _).trans current, passed, native,
        extracted', normalized⟩
    | envelope enclosed =>
      obtain ⟨reads, extracted'⟩ := enclosed.extractEvidence before extracted replaced after
      exact ⟨_, _, .inl rfl, .inl rfl, (reads.validateContext _ _).trans current, passed, native,
        extracted', normalized⟩

theorem plan (aliased : Aliased evidence submission other submission') {nowUtc monotonicNow : Value}
    {plan : CtpClosePlan}
    (built : submission.build platform evidence nowUtc monotonicNow = .ok plan) :
    submission'.build platform other nowUtc monotonicNow = .ok plan := by
  unfold Submission.build at *
  obtain ⟨inputs, prepared, planned⟩ := bind_eq_ok_iff.mp built
  obtain ⟨policy, request, samePolicy, sameRequest, prepared'⟩ := aliased.prepare prepared
  rw [buildCtpClosePlan_of_prepare prepared']
  exact Inputs.plan_withMaterial samePolicy (requestDigest_sameMaterial sameRequest) planned

end Aliased

end BtApiCtp.ClosePlan
