/-
# Theory.Base64 -- bytes as six-bit digits

The URL-safe alphabet without padding.  Decoding ignores the bits that are left over, so other
texts may decode to the same bytes; what was encoded decodes to what it was.
-/
import Mathlib.Data.List.Basic

namespace BtApiCtp.Theory.Base64

/-- Six bits at a time. -/
def sextets : List Nat → List Nat
  | a :: b :: c :: rest =>
    a / 4 :: (a % 4 * 16 + b / 16) :: (b % 16 * 4 + c / 64) :: c % 64 :: sextets rest
  | [a, b] => [a / 4, a % 4 * 16 + b / 16, b % 16 * 4]
  | [a] => [a / 4, a % 4 * 16]
  | [] => []

/-- Eight bits at a time. -/
def octets : List Nat → List Nat
  | a :: b :: c :: d :: rest =>
    (a * 4 + b / 16) :: (b % 16 * 16 + c / 4) :: (c % 4 * 64 + d) :: octets rest
  | [a, b, c] => [a * 4 + b / 16, b % 16 * 16 + c / 4]
  | [a, b] => [a * 4 + b / 16]
  | _ => []

def alphabet : List Char :=
  "ABCDEFGHIJKLMNOPQRSTUVWXYZabcdefghijklmnopqrstuvwxyz0123456789-_".toList

def digit (n : Nat) : Char := alphabet.getD n 'A'

def encode (bytes : List Nat) : List Char := (sextets bytes).map digit

def decode (text : List Char) : Option (List Nat) := (text.mapM alphabet.idxOf?).map octets

variable {bytes : List Nat}

variable (small : ∀ byte ∈ bytes, byte < 256)
include small

theorem octets_sextets : octets (sextets bytes) = bytes := by
  induction bytes using sextets.induct with
  | case1 a b c rest ih =>
    simp only [List.forall_mem_cons] at small
    simp only [sextets, octets, ih small.2.2.2, List.cons.injEq, and_true]
    omega
  | case2 a b | case3 a =>
    simp only [List.forall_mem_cons] at small
    simp only [sextets, octets, List.cons.injEq, and_true]
    omega
  | case4 => rfl

theorem sextets_small : ∀ n ∈ sextets bytes, n < 64 := by
  induction bytes using sextets.induct with
  | case1 a b c rest ih =>
    simp only [List.forall_mem_cons] at small
    simp only [sextets, List.forall_mem_cons]
    refine ⟨?_, ?_, ?_, ?_, ih small.2.2.2⟩ <;> omega
  | case2 a b | case3 a =>
    simp only [List.forall_mem_cons] at small
    simp [sextets]
    omega
  | case4 => nofun

omit small in
theorem length_encode : (encode bytes).length % 4 ≠ 1 := by
  rw [encode, List.length_map]
  induction bytes using sextets.induct with
  | case1 a b c rest ih =>
    simp only [sextets, List.length_cons]
    omega
  | _ => simp [sextets]

omit small in
theorem encode_ne_nil (some : bytes ≠ []) : encode bytes ≠ [] := by
  rw [encode, ne_eq, List.map_eq_nil_iff]
  cases bytes using sextets.induct with
  | case4 => contradiction
  | _ => simp [sextets]

theorem encode_subset : ∀ c ∈ encode bytes, c ∈ alphabet := by
  intro c mem
  obtain ⟨n, among, rfl⟩ := List.mem_map.mp mem
  have each : ∀ n < 64, digit n ∈ alphabet := by decide +kernel
  exact each n (sextets_small small n among)

theorem decode_encode : decode (encode bytes) = some bytes := by
  have digits : (encode bytes).mapM alphabet.idxOf? = some (sextets bytes) := by
    have each : ∀ n < 64, alphabet.idxOf? (digit n) = some n := by decide +kernel
    have below := sextets_small small
    unfold encode
    generalize sextets bytes = digits at below
    induction digits with
    | nil => rfl
    | cons n digits ih =>
      rw [List.forall_mem_cons] at below
      simp only [List.map_cons, List.mapM_cons, each n below.1, ih below.2]
      rfl
  rw [decode, digits, Option.map_some, octets_sextets small]

end BtApiCtp.Theory.Base64
