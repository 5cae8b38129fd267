import RooWifi.Lib.Bitmask
import RooWifi.Esp32.Station

/-! # Static addressing as arithmetic

Validation works on 32-bit words in host order, the adapter on native words with
the first octet lowest. Both are about the same integers: an address, its subnet
and its place in the subnet. -/
namespace RooWifi

open Bitmask

/-! ## The purpose of the checks -/

/-- An address as an integer, the first octet highest. -/
def value (ip : Ipv4Address) : Nat := ip.toList.foldl (fun n b => 256 * n + b.toNat) 0

/-- The integer of an address whose octets are stored lowest first. -/
def littleEndian (ip : Ipv4Address) : Nat := ip.toList.foldr (fun b n => b.toNat + 256 * n) 0

/-- A nonzero address whose first octet is below 224 and not 127. -/
def Unicast (ip : Ipv4Address) : Prop :=
  value ip ≠ 0 ∧ ip.head.toNat < 224 ∧ ip.head.toNat ≠ 127

/-- Neither the first nor the last address of its subnet of `n`. -/
def Host (n : Nat) (ip : Ipv4Address) : Prop := value ip % n ≠ 0 ∧ value ip % n ≠ n - 1

/-- The number of addresses in a subnet. -/
def subnetSize (prefixLength : UInt8) : Nat := 2 ^ (32 - prefixLength.toNat)

/-- A gateway other than the station, in its subnet. -/
structure Gateway (s : StaticIpv4) (n : Nat) : Prop where
  unicast : Unicast s.gateway
  other : value s.gateway ≠ value s.address
  subnet : value s.gateway / n = value s.address / n
  host : Host n s.gateway

/-- Static settings a station can use. -/
structure Usable (s : StaticIpv4) : Prop where
  prefixLength : 1 ≤ s.prefixLength.toNat ∧ s.prefixLength.toNat ≤ 30
  address : Unicast s.address ∧ Host (subnetSize s.prefixLength) s.address
  gateway : value s.gateway = 0 ∨ Gateway s (subnetSize s.prefixLength)
  dns1 : Unicast s.dns1
  dns2 : s.hasDns2 = true → Unicast s.dns2

/-! ## Words in host order -/

theorem octets_cases (ip : Ipv4Address) :
    ∃ a b c d : UInt8, ip = ⟨[a, b, c, d], rfl⟩ := by
  obtain ⟨l, length⟩ := ip
  obtain ⟨a, l, rfl⟩ := List.exists_cons_of_length_eq_add_one length
  obtain ⟨b, l, rfl⟩ := List.exists_cons_of_length_eq_add_one (Nat.succ.inj length)
  obtain ⟨c, l, rfl⟩ := List.exists_cons_of_length_eq_add_one (Nat.succ.inj (Nat.succ.inj length))
  obtain ⟨d, l, rfl⟩ := List.exists_cons_of_length_eq_add_one
    (Nat.succ.inj (Nat.succ.inj (Nat.succ.inj length)))
  have empty : l = [] := List.length_eq_zero_iff.mp (by simpa using length)
  subst empty
  exact ⟨a, b, c, d, rfl⟩

theorem value_octets (a b c d : UInt8) : value ⟨[a, b, c, d], rfl⟩ =
    a.toNat * 2 ^ 24 + b.toNat * 2 ^ 16 + c.toNat * 2 ^ 8 + d.toNat := by
  have folded : value ⟨[a, b, c, d], rfl⟩ =
      256 * (256 * (256 * (256 * 0 + a.toNat) + b.toNat) + c.toNat) + d.toNat := rfl
  omega

/-- An octet moved up by `k` bits. -/
theorem toNat_octet (b : UInt8) {k : Nat} (hk : k ≤ 24) :
    (b.toBitVec.setWidth 32 <<< k).toNat = b.toNat * 2 ^ k := by
  have small := b.toNat_lt
  have whole : b.toNat % 2 ^ 32 = b.toNat := Nat.mod_eq_of_lt (by omega)
  have le : b.toNat * 2 ^ k ≤ 255 * 2 ^ 24 :=
    Nat.mul_le_mul (by omega) (Nat.pow_le_pow_right (by decide) hk)
  rw [BitVec.toNat_shiftLeft, BitVec.toNat_setWidth, UInt8.toNat_toBitVec, whole,
    Nat.shiftLeft_eq]
  exact Nat.mod_eq_of_lt (by omega)

theorem toNat_Address (ip : Ipv4Address) : (Address ip).toNat = value ip := by
  obtain ⟨a, b, c, d, rfl⟩ := octets_cases ip
  have last : (d.toBitVec.setWidth 32).toNat = d.toNat := by
    have small := d.toNat_lt
    rw [BitVec.toNat_setWidth, UInt8.toNat_toBitVec]
    omega
  change ((a.toBitVec.setWidth 32 <<< 24) ||| (b.toBitVec.setWidth 32 <<< 16) |||
    (c.toBitVec.setWidth 32 <<< 8) ||| d.toBitVec.setWidth 32).toNat = _
  rw [value_octets, BitVec.toNat_or, BitVec.toNat_or, BitVec.toNat_or, toNat_octet a (by decide),
    toNat_octet b (by decide), toNat_octet c (by decide), last,
    pack_octets b.toNat_lt c.toNat_lt d.toNat_lt]

theorem IsUnicast_iff (ip : Ipv4Address) : IsUnicast (Address ip) = true ↔ Unicast ip := by
  have whole := toNat_Address ip
  have first : (Address ip >>> 24).toNat = ip.head.toNat := by
    rw [BitVec.toNat_ushiftRight, Nat.shiftRight_eq_div_pow, whole]
    obtain ⟨a, b, c, d, rfl⟩ := octets_cases ip
    have hb := b.toNat_lt
    have hc := c.toNat_lt
    have hd := d.toNat_lt
    have head : List.Vector.head (⟨[a, b, c, d], rfl⟩ : Ipv4Address) = a := rfl
    rw [value_octets, head]
    omega
  have nonzero : (Address ip != 0) = true ↔ value ip ≠ 0 := by
    rw [bne_iff_ne, ne_eq, ← BitVec.toNat_inj, whole]
    rfl
  have bounded : decide (Address ip >>> 24 < 224) = true ↔ ip.head.toNat < 224 := by
    rw [decide_eq_true_eq, BitVec.lt_def, first]
    rfl
  have loopback : (Address ip >>> 24 != 127) = true ↔ ip.head.toNat ≠ 127 := by
    rw [bne_iff_ne, ne_eq, ← BitVec.toNat_inj, first]
    rfl
  rw [IsUnicast, Bool.and_eq_true, Bool.and_eq_true, nonzero, bounded, loopback, and_assoc]
  rfl

/-! ## Masks -/

theorem Address_eq_iff (a b : Ipv4Address) : Address a = Address b ↔ value a = value b := by
  rw [← BitVec.toNat_inj, toNat_Address, toNat_Address]

theorem Address_eq_zero_iff (ip : Ipv4Address) : Address ip = 0 ↔ value ip = 0 := by
  rw [← BitVec.toNat_inj, toNat_Address]
  rfl

theorem host_iff {k : Nat} (hk : k ≤ 32) (ip : Ipv4Address) :
    (Address ip &&& ~~~leading 32 k ≠ 0 ∧
      Address ip &&& ~~~leading 32 k ≠ ~~~leading 32 k) ↔ Host (2 ^ k) ip := by
  rw [ne_eq, ne_eq, ← BitVec.toNat_inj, ← BitVec.toNat_inj, toNat_and_not_leading hk,
    toNat_not_leading hk, toNat_Address]
  rfl

theorem subnet_iff (k : Nat) (a b : Ipv4Address) :
    Address a &&& leading 32 k = Address b &&& leading 32 k ↔
      value a / 2 ^ k = value b / 2 ^ k := by
  rw [and_leading_eq_iff, toNat_Address, toNat_Address]

/-- **The static block of `Validate` accepts the usable settings.** -/
theorem validStatic_iff (s : StaticIpv4) : validStatic s = true ↔ Usable s := by
  have range : ¬ (s.prefixLength = 0 ∨ s.prefixLength > 30) ↔
      1 ≤ s.prefixLength.toNat ∧ s.prefixLength.toNat ≤ 30 := by
    rw [not_or, gt_iff_lt, UInt8.not_lt, UInt8.le_iff_toNat_le, ← ne_eq, ← UInt8.toNat_inj.ne,
      Nat.one_le_iff_ne_zero]
    rfl
  by_cases outside : s.prefixLength = 0 ∨ s.prefixLength > 30
  · rw [validStatic, if_pos outside]
    refine ⟨fun h => (Bool.false_ne_true h).elim, ?_⟩
    intro usable
    exact absurd outside (range.mpr usable.prefixLength)
  have inside := range.mp outside
  have hk : 32 - s.prefixLength.toNat ≤ 32 := Nat.sub_le _ _
  rw [validStatic, if_neg outside]
  have mask : 0xffffffff#32 <<< (32 - s.prefixLength.toNat) =
    leading 32 (32 - s.prefixLength.toNat) := rfl
  simp only [mask, Bool.not_eq_true', Bool.or_eq_false_iff, Bool.and_eq_false_iff,
    Bool.not_eq_false', bne_eq_false_iff_eq, beq_eq_false_iff_ne, IsUnicast_iff,
    Address_eq_zero_iff, subnet_iff, Address_eq_iff, ne_eq]
  have host := host_iff hk
  constructor
  · rintro ⟨⟨⟨⟨⟨unicast, first⟩, last⟩, gateway⟩, dns1⟩, dns2⟩
    refine ⟨inside, ⟨unicast, (host _).mp ⟨first, last⟩⟩, ?_, dns1, ?_⟩
    · refine gateway.imp_right ?_
      rintro ⟨⟨⟨⟨unicast, subnet⟩, first⟩, last⟩, other⟩
      exact ⟨unicast, other, subnet, (host _).mp ⟨first, last⟩⟩
    · intro present
      exact dns2.resolve_left (by simp [present])
  · rintro ⟨-, ⟨unicast, placed⟩, gateway, dns1, dns2⟩
    obtain ⟨first, last⟩ := (host _).mpr placed
    refine ⟨⟨⟨⟨⟨unicast, first⟩, last⟩, ?_⟩, dns1⟩, ?_⟩
    · refine gateway.imp_right ?_
      rintro ⟨unicast, other, subnet, placed⟩
      obtain ⟨first, last⟩ := (host _).mpr placed
      exact ⟨⟨⟨⟨unicast, subnet⟩, first⟩, last⟩, other⟩
    · cases present : s.hasDns2 with
      | false => exact .inl rfl
      | true => exact .inr (dns2 present)

/-- Otherwise a static configuration is checked as one for DHCP is. -/
theorem Validate_static_iff {c : ConnectionConfig} (secret : Credentials)
    (static : c.ipMode = .kStaticIpv4) : Validate c secret = .kOk ↔
      Validate { c with ipMode := .kDhcp } secret = .kOk ∧ Usable c.staticIpv4 := by
  rw [← validStatic_iff]
  have shape : malformed { c with ipMode := .kDhcp } secret = malformed c secret := by
    have modes : IpMode.kStaticIpv4 ≠ IpMode.kDhcp := by decide
    simp only [malformed, static, modes, ne_eq, not_true_eq_false, not_false_eq_true, and_false,
      false_and, or_false]
  have dhcp : ¬ (IpMode.kDhcp = IpMode.kStaticIpv4) := by decide
  unfold Validate
  rw [shape]
  simp only [static, dhcp, false_and, if_false, true_and]
  cases valid : validStatic c.staticIpv4 with
  | false =>
    cases malformed c secret <;> simp
  | true => simp only [Bool.not_true, Bool.false_eq_true, if_false, and_true]

/-! ## Native words -/

namespace Esp32Station

theorem toNat_NativeAddress_octets (a b c d : UInt8) :
    (NativeAddress ⟨[a, b, c, d], rfl⟩).toNat =
      d.toNat * 2 ^ 24 + c.toNat * 2 ^ 16 + b.toNat * 2 ^ 8 + a.toNat := by
  have octet (x : UInt8) {k : UInt32} {m : Nat} (amount : k.toNat = m) (hm : m ≤ 24) :
      (x.toUInt32 <<< k).toNat = x.toNat * 2 ^ m := by
    have small := x.toNat_lt
    have below : m % 32 = m := Nat.mod_eq_of_lt (by omega)
    have le : x.toNat * 2 ^ m ≤ 255 * 2 ^ 24 :=
      Nat.mul_le_mul (by omega) (Nat.pow_le_pow_right (by decide) hm)
    rw [UInt32.toNat_shiftLeft, UInt8.toNat_toUInt32, amount, below, Nat.shiftLeft_eq]
    exact Nat.mod_eq_of_lt (by omega)
  change (a.toUInt32 ||| (b.toUInt32 <<< 8) ||| (c.toUInt32 <<< 16) |||
    (d.toUInt32 <<< 24)).toNat = _
  rw [← pack_octets c.toNat_lt b.toNat_lt a.toNat_lt, UInt32.toNat_or, UInt32.toNat_or,
    UInt32.toNat_or, octet b rfl (by decide), octet c rfl (by decide), octet d rfl (by decide),
    UInt8.toNat_toUInt32]
  ac_rfl

theorem toNat_NativeAddress (ip : Ipv4Address) : (NativeAddress ip).toNat = littleEndian ip := by
  obtain ⟨a, b, c, d, rfl⟩ := octets_cases ip
  have folded : littleEndian ⟨[a, b, c, d], rfl⟩ =
      a.toNat + 256 * (b.toNat + 256 * (c.toNat + 256 * (d.toNat + 256 * 0))) := rfl
  rw [toNat_NativeAddress_octets]
  omega

/-- The octet of a word that starts at bit `m`. -/
theorem toNat_byte (raw : UInt32) {k : UInt32} {m : Nat} (amount : k.toNat = m) (hm : m ≤ 24) :
    (raw >>> k).toUInt8.toNat = raw.toNat / 2 ^ m % 2 ^ 8 := by
  have below : m % 32 = m := Nat.mod_eq_of_lt (by omega)
  rw [UInt32.toNat_toUInt8, UInt32.toNat_shiftRight, amount, below, Nat.shiftRight_eq_div_pow]

theorem NativeAddress_Address (raw : UInt32) : NativeAddress (Address raw) = raw := by
  have bound := raw.toNat_lt
  rw [← UInt32.toNat_inj, Address, toNat_NativeAddress_octets, toNat_byte raw rfl (by decide),
    toNat_byte raw rfl (by decide), toNat_byte raw rfl (by decide), UInt32.toNat_toUInt8]
  change raw.toNat / 2 ^ 24 % 2 ^ 8 * 2 ^ 24 + raw.toNat / 2 ^ 16 % 2 ^ 8 * 2 ^ 16 +
    raw.toNat / 2 ^ 8 % 2 ^ 8 * 2 ^ 8 + raw.toNat % 2 ^ 8 = raw.toNat
  omega

theorem Address_NativeAddress (ip : Ipv4Address) : Address (NativeAddress ip) = ip := by
  obtain ⟨a, b, c, d, rfl⟩ := octets_cases ip
  have word := toNat_NativeAddress_octets a b c d
  have ha := a.toNat_lt
  have hb := b.toNat_lt
  have hc := c.toNat_lt
  have hd := d.toNat_lt
  have first : (NativeAddress ⟨[a, b, c, d], rfl⟩).toUInt8 = a := by
    rw [← UInt8.toNat_inj, UInt32.toNat_toUInt8, word]
    omega
  have second : (NativeAddress ⟨[a, b, c, d], rfl⟩ >>> 8).toUInt8 = b := by
    rw [← UInt8.toNat_inj, toNat_byte _ (m := 8) rfl (by decide), word]
    omega
  have third : (NativeAddress ⟨[a, b, c, d], rfl⟩ >>> 16).toUInt8 = c := by
    rw [← UInt8.toNat_inj, toNat_byte _ (m := 16) rfl (by decide), word]
    omega
  have fourth : (NativeAddress ⟨[a, b, c, d], rfl⟩ >>> 24).toUInt8 = d := by
    rw [← UInt8.toNat_inj, toNat_byte _ (m := 24) rfl (by decide), word]
    omega
  refine List.Vector.eq _ _ ?_
  change [_, _, _, _] = [a, b, c, d]
  rw [first, second, third, fourth]

/-- The octets of a word, the highest first, denote it. -/
theorem value_word (word : UInt32) :
    value ⟨[(word >>> 24).toUInt8, (word >>> 16).toUInt8, (word >>> 8).toUInt8, word.toUInt8],
      rfl⟩ = word.toNat := by
  have bound := word.toNat_lt
  rw [value_octets, toNat_byte word (m := 24) rfl (by decide),
    toNat_byte word (m := 16) rfl (by decide), toNat_byte word (m := 8) rfl (by decide),
    UInt32.toNat_toUInt8]
  omega

/-- **A netmask is what the size of its subnet leaves of all words.** -/
theorem value_PrefixMask {p : UInt8} (pos : 1 ≤ p.toNat) (le : p.toNat ≤ 32) :
    value (PrefixMask p) = 2 ^ 32 - subnetSize p := by
  have nonzero : p ≠ 0 := by
    rintro rfl
    exact absurd pos (by decide)
  have wide : p.toUInt32 ≤ 32 := by
    rw [UInt32.le_iff_toNat_le, UInt8.toNat_toUInt32]
    exact le
  have amount : (32 - p.toUInt32).toNat = 32 - p.toNat := by
    have whole : (32 : UInt32).toNat = 32 := rfl
    rw [UInt32.toNat_sub_of_le _ _ wide, UInt8.toNat_toUInt32, whole]
  have below : (32 - p.toNat) % 32 = 32 - p.toNat := Nat.mod_eq_of_lt (by omega)
  have ones : (0xffffffff : UInt32).toNat = (BitVec.allOnes 32).toNat := rfl
  have word : value (PrefixMask p) =
      (if p = 0 then 0 else 0xffffffff <<< (32 - p.toUInt32) : UInt32).toNat := value_word _
  rw [word, if_neg nonzero, UInt32.toNat_shiftLeft, amount, below, subnetSize,
    ← toNat_leading (Nat.sub_le 32 p.toNat), leading, BitVec.toNat_shiftLeft, ones]

end Esp32Station

/-! ## What is accepted and what is programmed -/

/-- What the adapter programs into the network interface of a station denotes
the settings `s`. -/
def Esp32Station.Programs (c : ConnectionConfig) (s : StaticIpv4) : Prop :=
  ∃ ip gw netmask, Esp32Station.ipInfo c = .ipInfo ip gw netmask ∧
    Esp32Station.Address ip = s.address ∧ Esp32Station.Address gw = s.gateway ∧
    value (Esp32Station.Address netmask) = 2 ^ 32 - subnetSize s.prefixLength

/-- **Static addressing is arithmetic on subnets.** -/
theorem static_addressing {c : ConnectionConfig} (static : c.ipMode = .kStaticIpv4)
    (secret : Credentials) :
    (Validate c secret = .kOk ↔
      Validate { c with ipMode := .kDhcp } secret = .kOk ∧ Usable c.staticIpv4) ∧
    (Validate c secret = .kOk → Esp32Station.Programs c c.staticIpv4) ∧
    (∀ ip, (Esp32Station.NativeAddress ip).toNat = littleEndian ip) ∧
    (∀ ip, Esp32Station.Address (Esp32Station.NativeAddress ip) = ip) ∧
    ∀ raw, Esp32Station.NativeAddress (Esp32Station.Address raw) = raw := by
  have accepted := Validate_static_iff secret static
  refine ⟨accepted, ?_, Esp32Station.toNat_NativeAddress, Esp32Station.Address_NativeAddress,
    Esp32Station.NativeAddress_Address⟩
  intro valid
  obtain ⟨pos, le⟩ := (accepted.mp valid).2.prefixLength
  refine ⟨_, _, _, if_pos static, Esp32Station.Address_NativeAddress _,
    Esp32Station.Address_NativeAddress _, ?_⟩
  rw [Esp32Station.Address_NativeAddress]
  exact Esp32Station.value_PrefixMask pos (by omega)

/-- A station on 192.168.1.0/24. -/
def homeNetwork : ConnectionConfig :=
  { ssid := { size := 4 }
    security := .kOpen
    ipMode := .kStaticIpv4
    staticIpv4 :=
      { address := ⟨[192, 168, 1, 20], rfl⟩
        prefixLength := 24
        gateway := ⟨[192, 168, 1, 1], rfl⟩
        dns1 := ⟨[9, 9, 9, 9], rfl⟩ } }

theorem static_addressing_homeNetwork :
    Validate homeNetwork {} = .kOk ∧ Esp32Station.Programs homeNetwork homeNetwork.staticIpv4 := by
  have valid : Validate homeNetwork {} = .kOk := by decide
  have ⟨_, programs, _⟩ := static_addressing (c := homeNetwork) rfl {}
  exact ⟨valid, programs valid⟩

end RooWifi
