import RooWifi.Lib.Base64Url
import RooWifi.Store.Enumeration

/-! # The keys of profiles

A profile's key is `p-` and the Base64url text of a 64-bit hash in network byte
order. What enumeration recognizes is exactly that form. -/
namespace RooWifi

open Storage FieldStore

/-! ## The purpose of the keys -/

/-- The profile key of a hash. -/
def profileKeyOf (hash : UInt64) : FieldKey :=
  112 :: 45 :: Base64Url.encode (Base64Url.bigEndian hash)

/-- 64-bit FNV-1a, in numbers. -/
def Fnv1a (bytes : List UInt8) : Nat :=
  bytes.foldl (fun hash b => (hash ^^^ b.toNat) * 1099511628211 % 2 ^ 64) 14695981039346656037

/-! ## The code -/

theorem kBase64UrlAlphabet_eq : kBase64UrlAlphabet = Base64Url.alphabet := by decide

theorem encode_eq_base64Url (hash : UInt64) :
    Base64Url.encode (Base64Url.bigEndian hash) = base64Url hash := by
  rw [Base64Url.encode_bigEndian, ← kBase64UrlAlphabet_eq, List.map_append, List.map_map]
  rfl

theorem profileKeyOf_eq (hash : UInt64) : profileKeyOf hash = 112 :: 45 :: base64Url hash := by
  rw [profileKeyOf, encode_eq_base64Url]

theorem profileKeyOf_injective : Function.Injective profileKeyOf := by
  intro a b same
  rw [profileKeyOf_eq, profileKeyOf_eq] at same
  exact base64Url_inj (List.cons.inj (List.cons.inj same).2).2

theorem Key_p_eq (ssid : Ssid) : Key 'p' ssid = profileKeyOf (fnv1a ssid) :=
  (profileKeyOf_eq _).symm

/-- Shifting in the bytes wraps at 64 bits. -/
theorem toNat_fnv1a (ssid : Ssid) : (fnv1a ssid).toNat = Fnv1a ssid.view := by
  have run (bytes : List UInt8) (hash : UInt64) :
      (bytes.foldl (fun hash b => (hash ^^^ b.toUInt64) * 1099511628211) hash).toNat =
        bytes.foldl (fun hash b => (hash ^^^ b.toNat) * 1099511628211 % 2 ^ 64) hash.toNat := by
    induction bytes generalizing hash with
    | nil => rfl
    | cons b bytes ih =>
      rw [List.foldl_cons, List.foldl_cons, ih, UInt64.toNat_mul, UInt64.toNat_xor,
        UInt8.toNat_toUInt64]
      rfl
  exact run ssid.view _

/-! ## What is recognized -/

/-- The digit a key has at a place. -/
theorem base64UrlDigit_of_idxOf? {b : UInt8} {i : Nat}
    (found : kBase64UrlAlphabet.idxOf? b = some i) : i < 64 ∧ base64UrlDigit i = b := by
  obtain ⟨inside, here⟩ := List.findIdx?_eq_some_iff_getElem.mp found
  refine ⟨inside, ?_⟩
  rw [base64UrlDigit, List.getD_eq_getElem _ _ inside]
  simpa using here.1

/-- A recognized key has a digit at each of its last eleven places, whose last
one leaves two bits over. -/
theorem digit_of_ProfileKey {key : FieldKey} (h : ProfileKey key = true) (i : Nat) (hi : i < 11) :
    ∃ d, d < 64 ∧ (i = 10 → d % 4 = 0) ∧ key.getD (i + 2) 0 = base64UrlDigit d := by
  simp only [ProfileKey, Bool.and_eq_true, List.all_eq_true, List.mem_range'_1] at h
  have place := h.2 (i + 2) (by omega)
  cases found : kBase64UrlAlphabet.idxOf? (key.getD (i + 2) 0) with
  | none =>
    rw [found] at place
    cases place
  | some d =>
    rw [found] at place
    obtain ⟨small, digit⟩ := base64UrlDigit_of_idxOf? found
    refine ⟨d, small, ?_, digit.symm⟩
    intro last
    simp only [last] at place
    simpa using place

theorem eq_of_length_eq_13 {key : FieldKey} (length : key.length = 13) :
    key = (List.range 13).map fun i => key.getD i 0 := by
  refine List.ext_getElem (by simp [length]) fun i hi _ => ?_
  rw [List.getElem_map, List.getElem_range, List.getD_eq_getElem _ _ hi]

/-- The value whose digits are given: ten of six bits and the upper four bits of
the last. -/
theorem base64Url_of_digits {d : Nat → Nat} (small : ∀ i, i < 11 → d i < 64)
    (spare : d 10 % 4 = 0) :
    ∃ hash, base64Url hash = (List.range 11).map fun i => base64UrlDigit (d i) := by
  have b0 := small 0 (by decide)
  have b1 := small 1 (by decide)
  have b2 := small 2 (by decide)
  have b3 := small 3 (by decide)
  have b4 := small 4 (by decide)
  have b5 := small 5 (by decide)
  have b6 := small 6 (by decide)
  have b7 := small 7 (by decide)
  have b8 := small 8 (by decide)
  have b9 := small 9 (by decide)
  have b10 := small 10 (by decide)
  obtain ⟨n, hn⟩ : ∃ n, n = d 0 * 2 ^ 58 + d 1 * 2 ^ 52 + d 2 * 2 ^ 46 + d 3 * 2 ^ 40 +
    d 4 * 2 ^ 34 + d 5 * 2 ^ 28 + d 6 * 2 ^ 22 + d 7 * 2 ^ 16 + d 8 * 2 ^ 10 + d 9 * 2 ^ 4 +
    d 10 / 4 := ⟨_, rfl⟩
  have fits : n < 2 ^ 64 := by omega
  refine ⟨UInt64.ofNat n, ?_⟩
  have value : (UInt64.ofNat n).toNat = n := UInt64.toNat_ofNat_of_lt fits
  simp only [base64Url, value, List.range_succ, List.range_zero, List.nil_append,
    List.map_cons, List.map_nil, List.cons_append]
  congr <;> omega

theorem profileKeyOf_of_ProfileKey {key : FieldKey} (h : ProfileKey key = true) :
    ∃ hash, key = profileKeyOf hash := by
  have form := h
  simp only [ProfileKey, Bool.and_eq_true, decide_eq_true_eq] at form
  obtain ⟨⟨⟨length, kind⟩, dash⟩, -⟩ := form
  choose! d small spare digit using digit_of_ProfileKey h
  obtain ⟨hash, text⟩ := base64Url_of_digits small (spare 10 (by decide) rfl)
  refine ⟨hash, ?_⟩
  have head : (List.range 2).map (fun i => key.getD i 0) = [112, 45] :=
    congrArg₂ (fun a b => [a, b]) kind dash
  have tail : (List.range 11).map (fun i => key.getD (2 + i) 0) =
      (List.range 11).map fun i => base64UrlDigit (d i) := by
    refine List.map_congr_left fun i mem => ?_
    rw [Nat.add_comm]
    exact digit i (List.mem_range.mp mem)
  calc key = (List.range (2 + 11)).map fun i => key.getD i 0 := eq_of_length_eq_13 length
    _ = 112 :: 45 :: (List.range 11).map fun i => key.getD (2 + i) 0 := by
        rw [List.range_add, List.map_append, List.map_map, head]
        rfl
    _ = profileKeyOf hash := by rw [profileKeyOf_eq, text, tail]

theorem ProfileKey_profileKeyOf (hash : UInt64) : ProfileKey (profileKeyOf hash) = true := by
  rw [profileKeyOf_eq]
  exact ProfileKey_base64Url hash

/-- **Profile keys are exactly the encoded hashes.** -/
theorem profile_keys_exact :
    (∀ key : List UInt8, ProfileKey key = true ↔ ∃! hash : UInt64, key = profileKeyOf hash) ∧
      (∀ hash : UInt64, (profileKeyOf hash).length = 13) ∧
      Function.Injective profileKeyOf ∧
      ∀ ssid : Ssid, ssid.Valid →
        ProfileKey (Key 'p' ssid) = true ∧
          (∃ hash : UInt64, Key 'p' ssid = profileKeyOf hash ∧
            hash.toNat = Fnv1a (ssid.bytes.toList.take ssid.size.toNat)) ∧
          ∃ rest, Key 'p' ssid = 112 :: rest ∧ Key 's' ssid = 115 :: rest := by
  refine ⟨?_, ?_, profileKeyOf_injective, ?_⟩
  · intro key
    constructor
    · intro h
      obtain ⟨hash, rfl⟩ := profileKeyOf_of_ProfileKey h
      exact ⟨hash, rfl, fun other same => (profileKeyOf_injective same).symm⟩
    · rintro ⟨hash, rfl, -⟩
      exact ProfileKey_profileKeyOf hash
  · intro hash
    rw [profileKeyOf_eq, base64Url]
    simp
  · intro ssid _
    refine ⟨ProfileKey_Key ssid, ?_, ?_⟩
    · exact ⟨fnv1a ssid, Key_p_eq ssid, toNat_fnv1a ssid⟩
    · exact ⟨_, rfl, rfl⟩

/-- The stable key of the network `hello`. -/
example : Key 'p' { bytes := .load 32 [104, 101, 108, 108, 111], size := 5 } =
    "p-pDDYRoCqvQs".toList.map Char.toUInt8 := by decide +kernel

end RooWifi
