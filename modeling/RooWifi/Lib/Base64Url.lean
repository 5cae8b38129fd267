import Mathlib.Data.Nat.Bitwise
import Mathlib.Data.List.Basic

/-! # Base64url without padding

Bytes are a string of bits, most significant first. Groups of six are the
digits, left to right; the last group is filled up with zeros. -/
namespace Base64Url

/-! ## Bits -/

/-- The lowest `w` bits of a number, most significant first. -/
def bits (w n : Nat) : List Bool := (List.range w).map fun i => n.testBit (w - 1 - i)

/-- The number a string of bits stands for. -/
def ofBits (l : List Bool) : Nat := l.foldl (fun n b => 2 * n + b.toNat) 0

@[simp] theorem bits_zero (n : Nat) : bits 0 n = [] := rfl

theorem bits_add (v w n : Nat) : bits (v + w) n = bits v (n / 2 ^ w) ++ bits w n := by
  rw [bits, List.range_add, List.map_append, List.map_map]
  congr 1
  · refine List.map_congr_left fun i mem => ?_
    have := List.mem_range.mp mem
    rw [Nat.testBit_div_two_pow]
    congr 1
    omega
  · refine List.map_congr_left fun i _ => ?_
    simp only [Function.comp]
    congr 1
    omega

theorem bits_mod (w n : Nat) : bits w (n % 2 ^ w) = bits w n := by
  refine List.map_congr_left fun i mem => ?_
  have := List.mem_range.mp mem
  rw [Nat.testBit_mod_two_pow, decide_eq_true (by omega), Bool.true_and]

theorem ofBits_append (l : List Bool) (b : Bool) : ofBits (l ++ [b]) = 2 * ofBits l + b.toNat := by
  rw [ofBits, List.foldl_append]
  rfl

theorem ofBits_bits (w n : Nat) : ofBits (bits w n) = n % 2 ^ w := by
  induction w generalizing n with
  | zero => rw [bits_zero, pow_zero, Nat.mod_one]; rfl
  | succ w ih =>
    have last : bits 1 n = [n.testBit 0] := rfl
    rw [bits_add, last, ofBits_append, ih, pow_one, Nat.pow_succ', Nat.mod_mul,
      Nat.testBit_zero]
    have := Nat.mod_two_eq_zero_or_one n
    rcases this with even | odd
    · simp [even]
    · simp [odd]
      omega

/-! ## Digits -/

/-- The digits of a string of bits. -/
def sextets : List Bool → List Nat
  | a :: b :: c :: d :: e :: f :: rest => ofBits [a, b, c, d, e, f] :: sextets rest
  | [] => []
  | short => [ofBits ((short ++ List.replicate 6 false).take 6)]

theorem sextets_bits (n : Nat) (rest : List Bool) :
    sextets (bits 6 n ++ rest) = n % 64 :: sextets rest := by
  have group : sextets (bits 6 n ++ rest) = ofBits (bits 6 n) :: sextets rest := rfl
  rw [group, ofBits_bits]
  rfl

/-- The last four bits of a string whose length leaves as many. -/
theorem sextets_last (n : Nat) : sextets (bits 4 n) = [n % 16 * 4] := by
  have padded : sextets (bits 4 n) = [ofBits ((bits 4 n ++ [false]) ++ [false])] := rfl
  rw [padded, ofBits_append, ofBits_append, ofBits_bits]
  simp only [Bool.toNat_false, List.cons.injEq, and_true]
  omega

/-- The digit characters, in order. -/
def alphabet : List UInt8 :=
  "ABCDEFGHIJKLMNOPQRSTUVWXYZabcdefghijklmnopqrstuvwxyz0123456789-_".toList.map Char.toUInt8

/-- The text of a string of bytes. -/
def encode (bytes : List UInt8) : List UInt8 :=
  (sextets (bytes.flatMap fun b => bits 8 b.toNat)).map fun i => alphabet.getD i 0

/-! ## Words -/

/-- The eight bytes of a word in network order. -/
def bigEndian (word : UInt64) : List UInt8 :=
  (List.range 8).map fun i => (word >>> (8 * (7 - i)).toUInt64).toUInt8

/-- Bytes are eight bits each. -/
theorem flatMap_bytes (k n : Nat) :
    (List.range k).flatMap (fun i => bits 8 (n / 2 ^ (8 * (k - 1 - i)))) = bits (8 * k) n := by
  induction k generalizing n with
  | zero => rfl
  | succ k ih =>
    rw [List.range_succ, List.flatMap_append, Nat.mul_succ, bits_add, ← ih (n / 2 ^ 8)]
    congr 1
    · refine List.flatMap_congr fun i mem => ?_
      have := List.mem_range.mp mem
      rw [Nat.div_div_eq_div_mul, ← pow_add]
      congr 3
      omega
    · simp

theorem bits_bigEndian (word : UInt64) :
    (bigEndian word).flatMap (fun b => bits 8 b.toNat) = bits 64 word.toNat := by
  rw [← flatMap_bytes 8, bigEndian, List.flatMap_map]
  refine List.flatMap_congr fun i mem => ?_
  have := List.mem_range.mp mem
  have amount : (8 * (7 - i)).toUInt64.toNat % 64 = 8 * (8 - 1 - i) := by
    rw [Nat.toUInt64, UInt64.toNat_ofNat']
    omega
  rw [UInt64.toNat_toUInt8, UInt64.toNat_shiftRight, amount, Nat.shiftRight_eq_div_pow]
  exact bits_mod 8 _

/-- Ten digits of six bits and a last one of four, above two spare bits. -/
theorem encode_bigEndian (word : UInt64) : encode (bigEndian word) =
    ((List.range 10).map (fun i => word.toNat / 2 ^ (58 - 6 * i) % 64) ++
      [word.toNat % 16 * 4]).map fun i => alphabet.getD i 0 := by
  have cut (w : Nat) : sextets (bits (6 + w) word.toNat) =
      word.toNat / 2 ^ w % 64 :: sextets (bits w word.toNat) := by
    rw [bits_add, sextets_bits]
  rw [encode, bits_bigEndian, cut 58, cut 52, cut 46, cut 40, cut 34, cut 28, cut 22, cut 16,
    cut 10, cut 4, sextets_last]
  rfl

end Base64Url
