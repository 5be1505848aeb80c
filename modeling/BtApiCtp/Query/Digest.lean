/-
# Query.Digest -- the digest that binds query records

`_query_records_digest` of `query.py`: every record becomes a JSON tree, and the list of them is
written with sorted keys and hashed.  Rows of exact JSON scalars and exact built-in types take
fast paths; `canonicalQueryValue false` has the general ordered checks alone.  The hash is a
parameter, and the interpreter's limit on nested calls is left out.
-/
import BtApiCtp.Python.Json
import BtApiCtp.Python.Value

namespace BtApiCtp.Query

open Python

/-- A value as the checks tell it apart: an exact built-in type, or the first of the general
checks that anything else passes. -/
inductive Native where
  | none
  | bool (value : Bool)
  | int (value : Int)
  | str (text : String)
  /-- A finite `float`, by its `repr`. -/
  | float (text : String)
  | nonfinite (hex : String)
  | dict (entries : List (Key × Native))
  | list (items : List Native)
  | tuple (items : List Native)
  | mapping (entries : List (Key × Native))
  | sequence (items : List Native)
  | datetime (isoformat : String)
  | decimal (text : String)
  | other (typeName : String)

/-- `TypeError("query snapshot keys must be exact strings")`, or the `ValueError` of an `int`
that is too long to be written. -/
inductive DigestError where
  | inexactKey
  | tooLong
  deriving DecidableEq, Repr

/-- `d[key] = item`, where the items of `d` stand in insertion order. -/
def assign (members : List (String × Json)) (item : String × Json) : List (String × Json) :=
  if members.any (·.1 = item.1) then members.map fun own => if own.1 = item.1 then item else own
  else members ++ [item]

/-- An exact finite JSON scalar. -/
def Native.scalar : Native → Option Json
  | .none => some .null
  | .bool value => some (.bool value)
  | .int value => some (.int value)
  | .str text => some (.str text)
  | .float text => some (.float text)
  | _ => Option.none

mutual

/-- `_canonical_query_value`, or with `fast` off what is left of it without the fast path. -/
def canonicalQueryValue (fast : Bool) : Native → Except DigestError Json
  | .none => .ok .null
  | .bool value => .ok (.bool value)
  | .int value => .ok (.int value)
  | .str text => .ok (.str text)
  | .float text => .ok (.float text)
  | .nonfinite hex => .ok (.object [("__nonfinite_float__", .str hex)])
  | .dict entries => do
    return .object (sortByKey ((← canonicalMembers fast fast entries).foldl assign []))
  | .list items => do return .array (← canonicalItems fast items)
  | .tuple items => do return .array (← canonicalItems fast items)
  | .mapping entries => do
    return .object (sortByKey ((← canonicalMembers fast false entries).foldl assign []))
  | .sequence items => do return .array (← canonicalItems fast items)
  | .datetime isoformat => .ok (.str isoformat)
  | .decimal text => .ok (.str text)
  | .other typeName => .ok (.object [("__unsupported_type__", .str typeName)])

def canonicalItems (fast : Bool) : List Native → Except DigestError (List Json)
  | [] => .ok []
  | item :: items => do return (← canonicalQueryValue fast item) :: (← canonicalItems fast items)

/-- The loop over the items of a mapping; `inline` takes scalars as they are. -/
def canonicalMembers (fast inline : Bool) :
    List (Key × Native) → Except DigestError (List (String × Json))
  | [] => .ok []
  | (.other _, _) :: _ => .error .inexactKey
  | (.str key, item) :: entries => do
    let first ← match if inline then item.scalar else none with
      | some scalar => .ok scalar
      | none => canonicalQueryValue fast item
    return (key, first) :: (← canonicalMembers fast inline entries)

end

/-- The items of a row that has exact keys and scalars only. -/
def flatMembers : List (Key × Native) → Option (List (String × Json))
  | [] => some []
  | (.other _, _) :: _ => none
  | (.str key, item) :: entries => do return (key, ← item.scalar) :: (← flatMembers entries)

/-- A record that is a `Mapping`, exact or not. -/
def Native.entries? : Native → Option (List (Key × Native))
  | .dict entries => some entries
  | .mapping entries => some entries
  | _ => Option.none

def flatRowOrCanonical (row : Native) : Except DigestError Json :=
  match row.entries?.bind flatMembers with
  | some flat => .ok (.object (flat.foldl assign []))
  | none => canonicalQueryValue true row

/-- Write the list of the records, made JSON by `canonical`, and hash the text. -/
def digestWith (canonical : Native → Except DigestError Json) (sha256 : String → String)
    (records : List Native) : Except DigestError String := do
  match Json.dumps (.array (← records.mapM canonical)) with
  | some text => return sha256 text
  | none => throw .tooLong

def queryRecordsDigest := digestWith flatRowOrCanonical

/-! ## The fast paths -/

theorem canonical_of_scalar {item : Native} {scalar : Json} (flat : item.scalar = some scalar) :
    canonicalQueryValue false item = .ok scalar := by
  cases item <;> simp_all [Native.scalar, canonicalQueryValue]

mutual

/-- The fast path for exact types changes nothing. -/
theorem canonicalQueryValue_fast :
    ∀ value, canonicalQueryValue true value = canonicalQueryValue false value
  | .dict entries => by simp only [canonicalQueryValue, canonicalMembers_fast true entries]
  | .mapping entries => by simp only [canonicalQueryValue, canonicalMembers_fast false entries]
  | .list items | .tuple items | .sequence items =>
    by simp only [canonicalQueryValue, canonicalItems_fast items]
  | .none | .bool _ | .int _ | .str _ | .float _ | .nonfinite _ | .datetime _ | .decimal _
  | .other _ => by simp only [canonicalQueryValue]

theorem canonicalItems_fast : ∀ items, canonicalItems true items = canonicalItems false items
  | [] => by simp only [canonicalItems]
  | item :: items => by
    simp only [canonicalItems, canonicalQueryValue_fast item, canonicalItems_fast items]

theorem canonicalMembers_fast (inline : Bool) :
    ∀ entries, canonicalMembers true inline entries = canonicalMembers false false entries
  | [] | (.other _, _) :: _ => by simp only [canonicalMembers]
  | (.str key, item) :: entries => by
    simp only [canonicalMembers, canonicalMembers_fast inline entries]
    cases inline with
    | false => simp [canonicalQueryValue_fast item]
    | true =>
      cases flat : item.scalar with
      | none => simp [canonicalQueryValue_fast item]
      | some scalar => simp [canonical_of_scalar flat]

end

theorem canonicalMembers_of_flat {entries : List (Key × Native)} {flat : List (String × Json)}
    (found : flatMembers entries = some flat) : canonicalMembers false false entries = .ok flat := by
  induction entries generalizing flat with
  | nil =>
    cases found
    simp only [canonicalMembers]
  | cons entry entries ih =>
    obtain ⟨key | _, item⟩ := entry
    · simp only [flatMembers, Option.bind_eq_bind, Option.bind_eq_some_iff] at found
      obtain ⟨scalar, first, rest, others, same⟩ := found
      cases same
      simp only [canonicalMembers, Bool.false_eq_true, if_false, canonical_of_scalar first, ih others]
      rfl
    · cases found

/-! ## Writing with sorted keys -/

variable {members : List (String × Json)}

theorem dumpsMembers_orderedInsert (member : String × Json) :
    Json.dumpsMembers (members.orderedInsert (fun a b => a.1 ≤ b.1) member) =
      member.2.dumps.bind fun text => (Json.dumpsMembers members).map
        (List.orderedInsert (fun a b => a.1 ≤ b.1) (member.1, text)) := by
  induction members with
  | nil => cases first : member.2.dumps <;> simp [Json.dumpsMembers, first]
  | cons own members ih =>
    rw [List.orderedInsert_cons]
    split <;> rename_i before <;> simp only [Json.dumpsMembers, ih] <;>
      cases member.2.dumps <;> cases own.2.dumps <;> cases Json.dumpsMembers members <;>
      simp [List.orderedInsert_cons, -String.not_le, before]

theorem dumpsMembers_sortByKey :
    Json.dumpsMembers (sortByKey members) = (Json.dumpsMembers members).map sortByKey := by
  induction members with
  | nil => simp [sortByKey, Json.dumpsMembers]
  | cons member members ih =>
    rw [sortByKey, List.insertionSort_cons, ← sortByKey, dumpsMembers_orderedInsert, ih]
    cases first : member.2.dumps <;> cases rest : Json.dumpsMembers members <;>
      simp [Json.dumpsMembers, first, rest, sortByKey]

/-- The text does not show in which order the keys were. -/
theorem dumps_sortByKey : (Json.object (sortByKey members)).dumps = (Json.object members).dumps := by
  have again : ∀ texts : List (String × String), sortByKey (sortByKey texts) = sortByKey texts :=
    fun texts => (List.pairwise_insertionSort _ texts).insertionSort_eq
  simp only [Json.dumps, dumpsMembers_sortByKey, Option.map_map, Function.comp_def, again]

/-! ## The digest -/

theorem dumps_flatRow (row : Native) :
    (flatRowOrCanonical row).map Json.dumps = (canonicalQueryValue false row).map Json.dumps := by
  unfold flatRowOrCanonical
  cases flat : row.entries?.bind flatMembers with
  | none => simp only [canonicalQueryValue_fast]
  | some flat =>
    obtain ⟨entries, own, found⟩ := Option.bind_eq_some_iff.mp flat
    have members := canonicalMembers_of_flat found
    cases row <;> cases own <;>
      simp [canonicalQueryValue, members, bind, Except.bind, pure, Except.pure, Except.map,
        dumps_sortByKey]

/-- **Fast digests**: the fast paths change neither a digest nor an error. -/
theorem queryRecordsDigest_eq_general (sha256 : String → String) (records : List Native) :
    queryRecordsDigest sha256 records = digestWith (canonicalQueryValue false) sha256 records := by
  have same : (records.mapM flatRowOrCanonical).map Json.dumpsItems =
      (records.mapM (canonicalQueryValue false)).map Json.dumpsItems := by
    induction records with
    | nil => rfl
    | cons row rows ih =>
      have first := dumps_flatRow row
      cases own : flatRowOrCanonical row <;> cases other : canonicalQueryValue false row <;>
        cases fast : rows.mapM flatRowOrCanonical <;>
        cases general : rows.mapM (canonicalQueryValue false) <;>
        simp_all [Except.map, bind, Except.bind, pure, Except.pure, Json.dumpsItems]
  unfold queryRecordsDigest digestWith
  cases fast : records.mapM flatRowOrCanonical <;>
    cases general : records.mapM (canonicalQueryValue false) <;>
    simp_all [Except.map, bind, Except.bind, Json.dumps]

end BtApiCtp.Query
