/-
# ClosePlan.Canonical -- which values have canonical JSON

`canonical_ctp_close_plan_json` writes a value out unless it holds something that has no text: a
number that is not finite or has too many digits, a moment outside UTC, a key that is no string
or an object (`written_iff`).  The order of a mapping's entries is not written
(`digest_sameDict`).
-/
import BtApiCtp.ClosePlan.Evidence
import BtApiCtp.Python.Dictionary

namespace BtApiCtp.ClosePlan

open Theory Python

variable {platform : Platform} {value : Value} {fields : Fields} {items : List Value}
  {others : Fields}

/-- The keys of a mapping are strings. -/
def textKeys (entries : List (Key × Value)) : Bool :=
  entries.all fun entry => match entry.1 with | .str _ => true | .other _ => false

/-- What has a text, whatever is inside it. -/
def writableHere (platform : Platform) : Value → Bool
  | .int n => (intText n).isSome
  | .float (.finite _) _ _ => true
  | .float _ _ _ => false
  | .decimal (.finite _) _ => true
  | .decimal _ _ => false
  | .datetime moment =>
    (utcOf moment.wall (moment.offset.getD (platform.localOffset moment.wall))).isSome
  | .mapping _ entries => textKeys entries
  | .object _ _ => false
  | _ => true

def writable (platform : Platform) (value : Value) : Bool :=
  value.everywhere (writableHere platform)

@[simp] theorem writable_int (n : Int) : writable platform (.int n) = (intText n).isSome := rfl

@[simp] theorem writable_str (text : String) : writable platform (.str text) = true := by
  simp only [writable, Value.everywhere, writableHere]

@[simp] theorem writable_bool (value : Bool) : writable platform (.bool value) = true := by
  simp only [writable, Value.everywhere, writableHere]

/-- The value is written out. -/
def Written (platform : Platform) (value : Value) : Prop :=
  ∃ json, jsonValue platform value = .ok json ∧ json.dumps.isSome = true

theorem dumpsItems_isSome {items : List Json} :
    (Json.dumpsItems items).isSome = true ↔ ∀ item ∈ items, item.dumps.isSome = true := by
  induction items with
  | nil => simp [Json.dumpsItems]
  | cons item items ih =>
    rw [List.forall_mem_cons, ← ih]
    cases first : item.dumps <;> cases rest : Json.dumpsItems items <;>
      simp [Json.dumpsItems, first, rest]

theorem dumpsMembers_isSome {members : List (String × Json)} :
    (Json.dumpsMembers members).isSome = true ↔ ∀ member ∈ members, member.2.dumps.isSome = true := by
  induction members with
  | nil => simp [Json.dumpsMembers]
  | cons member members ih =>
    rw [List.forall_mem_cons, ← ih]
    cases first : member.2.dumps <;> cases rest : Json.dumpsMembers members <;>
      simp [Json.dumpsMembers, first, rest]

/-- One member of a mapping is written out. -/
def WrittenMember (member : String × Calc Json) : Prop :=
  ∃ json, member.2 = .ok json ∧ json.dumps.isSome = true

/-- Members are written out in the order of their keys, if each of them is. -/
theorem object_isSome_iff {members : List (String × Calc Json)} :
    (∃ values, ((sortByKey members).mapM fun member =>
        member.2.map fun json => (member.1, json)) = .ok values ∧
      (Json.object values).dumps.isSome = true) ↔ ∀ member ∈ members, WrittenMember member := by
  simp only [mapM_eq_ok_iff, Json.dumps, Option.isSome_map, dumpsMembers_isSome]
  constructor
  · rintro ⟨values, came, dumped⟩ member mem
    obtain ⟨value, among, same⟩ := forall₂_of_mem_left came (mem_sortByKey.mpr mem)
    cases result : member.2 with
    | error e =>
      rw [result] at same
      cases same
    | ok json =>
      rw [result] at same
      cases same
      exact ⟨json, result, dumped (member.1, json) (List.of_mem_zip among).2⟩
  · intro written
    have sorted : ∀ member ∈ sortByKey members, WrittenMember member := fun member mem =>
      written member (mem_sortByKey.mp mem)
    generalize sortByKey members = ordered at sorted
    induction ordered with
    | nil => exact ⟨[], .nil, fun _ mem => absurd mem List.not_mem_nil⟩
    | cons member ordered ih =>
      obtain ⟨first, rest⟩ := List.forall_mem_cons.mp sorted
      obtain ⟨json, came, dumped⟩ := first
      obtain ⟨values, others, all⟩ := ih rest
      refine ⟨(member.1, json) :: values, .cons ?_ others, List.forall_mem_cons.mpr ⟨dumped, all⟩⟩
      rw [came]
      rfl

theorem written_of_ok {json : Json} (came : jsonValue platform value = .ok json)
    (same : writable platform value = json.dumps.isSome) :
    Written platform value ↔ writable platform value = true := by
  unfold Written
  rw [came, same]
  exact ⟨fun ⟨_, same, dumped⟩ => Except.ok.inj same ▸ dumped, fun dumped => ⟨json, rfl, dumped⟩⟩

theorem not_written {e : Exn} (came : jsonValue platform value = .error e) :
    ¬ Written platform value := by
  rintro ⟨json, same, _⟩
  rw [came] at same
  cases same

theorem map_eq_ok_iff {α β : Type} {x : Calc α} {f : α → β} {b : β} :
    x.map f = .ok b ↔ ∃ a, x = .ok a ∧ f a = b := by
  cases x with
  | ok a | error e => simp [Except.map]

/-- A sequence is written out if each of its items is. -/
theorem array_written {x : Calc (List Json)} :
    (∃ json, x.map Json.array = .ok json ∧ json.dumps.isSome = true) ↔
      ∃ jsons, x = .ok jsons ∧ ∀ json ∈ jsons, json.dumps.isSome = true := by
  simp only [map_eq_ok_iff]
  constructor
  · rintro ⟨_, ⟨jsons, came, rfl⟩, dumped⟩
    rw [Json.dumps, Option.isSome_map, dumpsItems_isSome] at dumped
    exact ⟨jsons, came, dumped⟩
  · rintro ⟨jsons, came, dumped⟩
    refine ⟨_, ⟨jsons, came, rfl⟩, ?_⟩
    rw [Json.dumps, Option.isSome_map, dumpsItems_isSome]
    exact dumped

mutual

theorem written_iff : ∀ value, Written platform value ↔ writable platform value = true
  | .none | .bool _ | .int _ | .float (.finite _) _ _ => written_of_ok rfl rfl
  | .float (.infinite _) _ _ | .float .nan _ _ => iff_of_false (not_written rfl) Bool.false_ne_true
  | .decimal (.finite _) _ => written_of_ok rfl rfl
  | .decimal (.infinite _) _ | .decimal .nan _ => iff_of_false (not_written rfl) Bool.false_ne_true
  | .str _ => written_of_ok rfl rfl
  | .datetime moment => by
    cases here : utcOf moment.wall (moment.offset.getD (platform.localOffset moment.wall)) with
    | some utc =>
      have came : jsonValue platform (.datetime moment) = .ok (.str (isoUtc utc)) := by
        simp only [jsonValue, formatUtc, here]
        rfl
      refine written_of_ok came ?_
      simp [writable, Value.everywhere, writableHere, here, Json.dumps]
    | none =>
      have came : jsonValue platform (.datetime moment) = .error (.other "OverflowError") := by
        simp only [jsonValue, formatUtc, here]
        rfl
      simp [not_written came, writable, Value.everywhere, writableHere, here]
  | .list items | .tuple items => array_written.trans (writtenItems_iff items)
  | .mapping _ entries => by
    have members := writtenMembers_iff entries
    rw [writable, Value.everywhere, writableHere, Bool.and_eq_true, ← members]
    simp only [Written, jsonValue, bind_eq_ok_iff, pure_eq_ok_iff, ← object_isSome_iff]
    constructor
    · rintro ⟨_, ⟨pairs, came, values, sorted, rfl⟩, dumped⟩
      exact ⟨pairs, came, values, sorted, dumped⟩
    · rintro ⟨pairs, came, values, sorted, dumped⟩
      exact ⟨_, ⟨pairs, came, values, sorted, rfl⟩, dumped⟩
  | .object _ _ => iff_of_false (not_written rfl) Bool.false_ne_true

theorem writtenItems_iff : ∀ items : List Value,
    (∃ jsons, jsonItems platform items = .ok jsons ∧ ∀ json ∈ jsons, json.dumps.isSome = true) ↔
      Value.everyItem (writableHere platform) items = true
  | [] => by simp [jsonItems, Value.everyItem]
  | item :: items => by
    have first := written_iff item
    have rest := writtenItems_iff items
    simp only [jsonItems, bind_eq_ok_iff, pure_eq_ok_iff, Value.everyItem, Bool.and_eq_true, ← rest]
    rw [show item.everywhere (writableHere platform) = true ↔ Written platform item from first.symm]
    constructor
    · rintro ⟨_, ⟨json, came, jsons, others, rfl⟩, dumped⟩
      obtain ⟨here, there⟩ := List.forall_mem_cons.mp dumped
      exact ⟨⟨json, came, here⟩, jsons, others, there⟩
    · rintro ⟨⟨json, came, here⟩, jsons, others, there⟩
      exact ⟨_, ⟨json, came, jsons, others, rfl⟩, List.forall_mem_cons.mpr ⟨here, there⟩⟩

theorem writtenMembers_iff : ∀ entries : List (Key × Value),
    (∃ members, jsonMembers platform entries = .ok members ∧
      ∀ member ∈ members, WrittenMember member) ↔
      textKeys entries = true ∧ Value.everyEntry (writableHere platform) entries = true
  | [] => by simp [jsonMembers, textKeys, Value.everyEntry]
  | (.str key, item) :: entries => by
    have first := written_iff item
    have rest := writtenMembers_iff entries
    have keys : textKeys ((.str key, item) :: entries) = textKeys entries := rfl
    rw [keys, Value.everyEntry, Bool.and_eq_true, and_left_comm, ← rest]
    rw [show item.everywhere (writableHere platform) = true ↔ Written platform item from first.symm]
    simp only [jsonMembers, bind_eq_ok_iff, pure_eq_ok_iff]
    constructor
    · rintro ⟨_, ⟨members, came, rfl⟩, all⟩
      obtain ⟨here, there⟩ := List.forall_mem_cons.mp all
      exact ⟨here, members, came, there⟩
    · rintro ⟨here, members, came, there⟩
      exact ⟨_, ⟨members, came, rfl⟩, List.forall_mem_cons.mpr ⟨here, there⟩⟩
  | (.other _, _) :: entries => by
    refine iff_of_false ?_ ?_
    · rintro ⟨members, came, _⟩
      cases came
    · simp [textKeys]

end

/-- A digest can be taken of what is written out. -/
theorem digest_eq_ok_iff {code : String} :
    (∃ sha, digest platform value code = .ok sha) ↔ writable platform value = true := by
  rw [← written_iff, Written]
  unfold digest canonicalCtpClosePlanJson
  cases came : jsonValue platform value with
  | error e =>
    simp only [reduceCtorEq, false_and, exists_false, iff_false, not_exists]
    intro sha
    split <;> simp_all [fail]
    split at * <;> simp_all
  | ok json =>
    cases dumped : json.dumps with
    | none => simp [dumped, fail]
    | some text => simp [dumped]

theorem writable_toValue_iff :
    writable platform fields.toValue = true ↔ ∀ entry ∈ fields, writable platform entry.2 = true := by
  have keys : textKeys (fields.map fun entry => (Key.str entry.1, entry.2)) = true := by
    simp [textKeys]
  simp only [writable, Fields.toValue, Value.everywhere, writableHere, keys, Bool.true_and,
    Value.everyEntry_iff, List.forall_mem_map]

theorem writable_tuple_iff :
    writable platform (.tuple items) = true ↔ ∀ item ∈ items, writable platform item = true := by
  simp [writable, Value.everywhere, writableHere, Value.everyItem_iff]

theorem writable_list_iff :
    writable platform (.list items) = true ↔ ∀ item ∈ items, writable platform item = true := by
  simp [writable, Value.everywhere, writableHere, Value.everyItem_iff]

/-! ## The order of entries -/

theorem jsonMembers_toValue (fields : Fields) :
    jsonMembers platform (fields.map fun entry => (.str entry.1, entry.2)) =
      pure (fields.map fun entry => (entry.1, jsonValue platform entry.2)) := by
  induction fields with
  | nil => rfl
  | cons entry fields ih =>
    simp only [List.map_cons, jsonMembers, ih]
    rfl

theorem jsonValue_sameDict (same : SameDict fields others) :
    jsonValue platform fields.toValue = jsonValue platform others.toValue := by
  have sorted : sortByKey (fields.map fun entry => (entry.1, jsonValue platform entry.2)) =
      sortByKey (others.map fun entry => (entry.1, jsonValue platform entry.2)) := by
    refine sortByKey_perm (same.perm.map _) ?_
    rw [List.map_map]
    exact same.distinct
  simp [Fields.toValue, jsonValue, jsonMembers_toValue, sorted]

/-- Dictionaries have the same digest whatever the order of their entries. -/
theorem digest_sameDict (same : SameDict fields others) (code : String) :
    digest platform fields.toValue code = digest platform others.toValue code := by
  unfold digest canonicalCtpClosePlanJson
  rw [jsonValue_sameDict same]

end BtApiCtp.ClosePlan
