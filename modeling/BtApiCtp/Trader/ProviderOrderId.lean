/-
# Trader.ProviderOrderId -- one text for an exchange id and an order id

`managed_order_identifier.py`.  What it raises is always a `ContractValidationError`, given by
its message.  `json.loads`, with the decoding of UTF-8 before it, is a parameter that is only
asked to read what `json.dumps` wrote.
-/
import BtApiCtp.Python.Json
import BtApiCtp.Python.Text
import BtApiCtp.Theory.Base64
import BtApiCtp.Theory.Fallible

namespace BtApiCtp.Trader

open Theory Python

/-- A value that should be an exact `str`. -/
inductive Item where
  | str (text : String)
  | other
  deriving DecidableEq, Repr

/-- What `json.loads` comes to; it raises `ValueError` only. -/
inductive Loaded where
  | list (items : List Item)
  | other
  | valueError
  deriving DecidableEq, Repr

def ctpProviderOrderIdPrefix : String := "ctp:v1:"

def ctpProviderOrderIdMaxLength : Nat := 128

def ensure (met : Prop) [Decidable met] (message : String) : Except String Unit :=
  if met then .ok () else .error message

/-- An ASCII letter or digit, or one of `others`. -/
def isPlain (others : String) (c : Char) : Bool :=
  c.toNat < 128 && (c.isAlphanum || others.toList.contains c)

def validIdentifier (value : String) : Bool :=
  value ≠ "" && value = strip value && value.length ≤ 128 && value.toList.all (isPlain "._:-")

/-- `_validate_ctp_provider_order_identifier`. -/
def validateIdentifier (value : Item) (fieldName : String) : Except String String :=
  match value with
  | .str text => do
    ensure (validIdentifier text = true) ("invalid CTP provider " ++ fieldName)
    return text
  | .other => throw ("invalid CTP provider " ++ fieldName)

/-- `json.dumps([exchange, order], separators=(",", ":"), ensure_ascii=False).encode("utf-8")`;
valid identifiers are ASCII. -/
def payload (exchange order : String) : List Nat :=
  ("[" ++ Json.quote exchange ++ "," ++ Json.quote order ++ "]").toList.map Char.toNat

/-- `encode_ctp_provider_order_id`; the padding is stripped. -/
def encodeCtpProviderOrderId (exchangeId orderSysId : Item) : Except String String := do
  let exchange ← validateIdentifier exchangeId "ExchangeID"
  let order ← validateIdentifier orderSysId "OrderSysID"
  let result := ctpProviderOrderIdPrefix ++ String.ofList (Base64.encode (payload exchange order))
  ensure (result.length ≤ ctpProviderOrderIdMaxLength)
    "CTP provider order id exceeds its length bound"
  return result

/-- `decode_ctp_provider_order_id`. -/
def decodeCtpProviderOrderId (loads : List Nat → Loaded) (providerOrderId : Item) :
    Except String (String × String) :=
  match providerOrderId with
  | .other => throw "invalid CTP provider order id"
  | .str text => do
    let encoded := text.toList.drop ctpProviderOrderIdPrefix.length
    ensure (text.length ≤ ctpProviderOrderIdMaxLength ∧
      ctpProviderOrderIdPrefix.toList <+: text.toList) "invalid CTP provider order id"
    ensure (encoded ≠ [] ∧ encoded.all (isPlain "-_") = true ∧ encoded.length % 4 ≠ 1)
      "invalid CTP provider order id encoding"
    match ((Base64.decode encoded).map loads).getD .valueError with
    | .valueError => throw "invalid CTP provider order id payload"
    | .list [first, second] =>
      let exchange ← validateIdentifier first "ExchangeID"
      let order ← validateIdentifier second "OrderSysID"
      let again ← encodeCtpProviderOrderId (.str exchange) (.str order)
      ensure (again = text) "non-canonical CTP provider order id"
      return (exchange, order)
    | _ => throw "invalid CTP provider order id pair"

/-- `json.loads` reads what `json.dumps` wrote. -/
def Standard (loads : List Nat → Loaded) : Prop :=
  ∀ exchange order, validIdentifier exchange = true → validIdentifier order = true →
    loads (payload exchange order) = .list [.str exchange, .str order]

variable {loads : List Nat → Loaded} {exchange order text message fieldName value : String}

theorem ensure_eq_ok_iff {met : Prop} [Decidable met] {u : Unit} :
    ensure met message = .ok u ↔ met := by
  unfold ensure
  split <;> simp_all

theorem validateIdentifier_eq_ok_iff {item : Item} :
    validateIdentifier item fieldName = .ok value ↔
      item = .str value ∧ validIdentifier value = true := by
  cases item with
  | other => simp [validateIdentifier]
  | str text =>
    simp only [validateIdentifier, bind_eq_ok_iff, ensure_eq_ok_iff, pure_eq_ok_iff, exists_const,
      Item.str.injEq]
    constructor
    · rintro ⟨valid, rfl⟩
      exact ⟨rfl, valid⟩
    · rintro ⟨rfl, valid⟩
      exact ⟨valid, rfl⟩

/-! ## The payload -/

/-- Exactly the pairs of valid identifiers whose encoding fits are encoded. -/
theorem encode_eq_ok_iff :
    encodeCtpProviderOrderId (.str exchange) (.str order) = .ok text ↔
      (validIdentifier exchange = true ∧ validIdentifier order = true) ∧
        text.length ≤ ctpProviderOrderIdMaxLength ∧
        text = ctpProviderOrderIdPrefix ++
          String.ofList (Base64.encode (payload exchange order)) := by
  simp only [encodeCtpProviderOrderId, bind_eq_ok_iff, validateIdentifier_eq_ok_iff,
    ensure_eq_ok_iff, pure_eq_ok_iff, exists_const, Item.str.injEq]
  constructor
  · rintro ⟨_, ⟨rfl, first⟩, _, ⟨rfl, second⟩, short, rfl⟩
    exact ⟨⟨first, second⟩, short, rfl⟩
  · rintro ⟨⟨first, second⟩, short, rfl⟩
    exact ⟨exchange, ⟨rfl, first⟩, order, ⟨rfl, second⟩, short, rfl⟩

/-- A valid identifier is quoted as it is. -/
theorem toList_quote (valid : validIdentifier value = true) :
    (Json.quote value).toList = '"' :: (value.toList ++ ['"']) := by
  have each : ∀ n < 128, isPlain "._:-" (Char.ofNat n) = true →
      Json.escape (Char.ofNat n) = [Char.ofNat n] := by decide +kernel
  have plain : ∀ c ∈ value.toList, Json.escape c = [c] := by
    intro c mem
    simp only [validIdentifier, Bool.and_eq_true, List.all_eq_true] at valid
    have own := valid.2 c mem
    have small : c.toNat < 128 := by simpa using (Bool.and_eq_true_iff.mp own).1
    simpa [Char.ofNat_toNat] using each c.toNat small (by rwa [Char.ofNat_toNat])
  have same : value.toList.flatMap Json.escape = value.toList := by
    rw [List.flatMap_congr plain, List.flatMap_singleton']
  simp [Json.quote, same]

/-- The characters that are written, in five parts. -/
theorem payload_eq (first : validIdentifier exchange = true) (second : validIdentifier order = true) :
    payload exchange order =
      (['"'].intercalate [['['], exchange.toList, [','], order.toList, [']']]).map Char.toNat := by
  simp [payload, toList_quote first, toList_quote second, List.intercalate]

theorem payload_small (first : validIdentifier exchange = true)
    (second : validIdentifier order = true) : ∀ byte ∈ payload exchange order, byte < 256 := by
  have plain : ∀ {value : String}, validIdentifier value = true →
      ∀ c ∈ value.toList, c.toNat < 256 := by
    intro value valid c mem
    simp only [validIdentifier, isPlain, Bool.and_eq_true, List.all_eq_true,
      decide_eq_true_eq] at valid
    exact (valid.2 c mem).1.trans (by decide)
  rw [payload_eq first second]
  simpa [List.intercalate, or_imp, forall_and] using ⟨plain first, plain second⟩

/-! ## Round trips -/

theorem decode_encode (standard : Standard loads)
    (encoded : encodeCtpProviderOrderId (.str exchange) (.str order) = .ok text) :
    decodeCtpProviderOrderId loads (.str text) = .ok (exchange, order) := by
  obtain ⟨⟨first, second⟩, short, same⟩ := encode_eq_ok_iff.mp encoded
  have small := payload_small first second
  have rest : text.toList.drop ctpProviderOrderIdPrefix.length =
      Base64.encode (payload exchange order) := by
    rw [same, String.toList_append, String.toList_ofList]
    exact List.drop_left
  have plain : (Base64.encode (payload exchange order)).all (isPlain "-_") = true := by
    have all : Base64.alphabet.all (isPlain "-_") = true := by decide +kernel
    exact List.all_eq_true.mpr fun c mem =>
      List.all_eq_true.mp all c (Base64.encode_subset small c mem)
  have some : payload exchange order ≠ [] := by simp [payload]
  unfold decodeCtpProviderOrderId
  simp only [rest, Base64.decode_encode small, Option.map_some, Option.getD_some,
    standard exchange order first second, bind_eq_ok_iff, ensure_eq_ok_iff,
    validateIdentifier_eq_ok_iff, pure_eq_ok_iff, exists_const]
  refine ⟨⟨short, ?_⟩, ⟨Base64.encode_ne_nil some, plain, Base64.length_encode⟩, exchange,
    ⟨rfl, first⟩, order, ⟨rfl, second⟩, text, encoded, rfl, rfl⟩
  rw [same, String.toList_append]
  exact List.prefix_append _ _

/-- What is decoded is what its encoding is. -/
theorem encode_of_decode (decoded : decodeCtpProviderOrderId loads (.str text) = .ok (exchange, order)) :
    encodeCtpProviderOrderId (.str exchange) (.str order) = .ok text := by
  simp only [decodeCtpProviderOrderId, bind_eq_ok_iff] at decoded
  obtain ⟨_, _, _, _, decoded⟩ := decoded
  split at decoded
  · cases decoded
  · simp only [bind_eq_ok_iff, ensure_eq_ok_iff, pure_eq_ok_iff] at decoded
    obtain ⟨_, _, _, _, again, came, _, rfl, same⟩ := decoded
    cases same
    exact came
  · cases decoded

/-- **Provider order ids**: an encoding decodes to its pair, different pairs have different
encodings, and a text that is decoded at all is the encoding of its pair. -/
theorem provider_order_id_canonical {loads : List Nat → Loaded} (standard : Standard loads) :
    (∀ exchange order text, encodeCtpProviderOrderId (.str exchange) (.str order) = .ok text →
      decodeCtpProviderOrderId loads (.str text) = .ok (exchange, order)) ∧
    (∀ exchange order exchange' order' text,
      encodeCtpProviderOrderId (.str exchange) (.str order) = .ok text →
      encodeCtpProviderOrderId (.str exchange') (.str order') = .ok text →
      (exchange, order) = (exchange', order')) ∧
    ∀ text, (∃ exchange order, decodeCtpProviderOrderId loads (.str text) = .ok (exchange, order) ∧
        encodeCtpProviderOrderId (.str exchange) (.str order) = .ok text) ∨
      ∃ message, decodeCtpProviderOrderId loads (.str text) = .error message := by
  refine ⟨fun _ _ _ => decode_encode standard, fun _ _ _ _ _ one two => ?_, fun text => ?_⟩
  · exact Except.ok.inj ((decode_encode standard one).symm.trans (decode_encode standard two))
  · cases decoded : decodeCtpProviderOrderId loads (.str text) with
    | ok pair => exact .inl ⟨pair.1, pair.2, rfl, encode_of_decode decoded⟩
    | error message => exact .inr ⟨message, rfl⟩

/-- A reader that splits the text at its quotation marks. -/
def splitLoads (bytes : List Nat) : Loaded :=
  match (bytes.map Char.ofNat).splitOn '"' with
  | [['['], exchange, [','], order, [']']] =>
    .list [.str (String.ofList exchange), .str (String.ofList order)]
  | _ => .valueError

theorem standard_splitLoads : Standard splitLoads := by
  intro exchange order first second
  have unquoted : ∀ {value : String}, validIdentifier value = true → '"' ∉ value.toList := by
    intro value valid mem
    simp only [validIdentifier, Bool.and_eq_true, List.all_eq_true] at valid
    exact absurd (valid.2 _ mem) (by decide)
  have same : Char.ofNat ∘ Char.toNat = id := funext Char.ofNat_toNat
  rw [splitLoads, payload_eq first second, List.map_map, same, List.map_id,
    List.splitOn_intercalate]
  · simp
  · simpa using ⟨unquoted first, unquoted second⟩
  · simp

theorem sample_order_id_canonical :
    encodeCtpProviderOrderId (.str "SHFE") (.str "1024") = .ok "ctp:v1:WyJTSEZFIiwiMTAyNCJd" ∧
      decodeCtpProviderOrderId splitLoads (.str "ctp:v1:WyJTSEZFIiwiMTAyNCJd") =
        .ok ("SHFE", "1024") := by
  have encoded : encodeCtpProviderOrderId (.str "SHFE") (.str "1024") =
      .ok "ctp:v1:WyJTSEZFIiwiMTAyNCJd" := by decide +kernel
  exact ⟨encoded, (provider_order_id_canonical standard_splitLoads).1 _ _ _ encoded⟩

end BtApiCtp.Trader
