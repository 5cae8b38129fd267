import RooWifi.Store.Codec

/-! # The persistent format is exact

Encoding inverts decoding too: an accepted record holds the bytes its contents
are encoded to and no others. -/
namespace RooWifi

/-! ## Reading back -/

/-- Four bytes in network order. -/
def be32Bytes (value : UInt32) : List UInt8 :=
  [(value >>> 24).toUInt8, (value >>> 16).toUInt8, (value >>> 8).toUInt8, value.toUInt8]

namespace Reader

/-- A reader that is still good at `r'` has read these bytes since `r`. -/
def Reads (r : Reader) (l : List UInt8) (r' : Reader) : Prop :=
  r'.ok = true → r.ok = true ∧ r.rest = l ++ r'.rest

theorem Reads.trans {r r' r'' : Reader} {l l' : List UInt8} (h : Reads r l r')
    (h' : Reads r' l' r'') : Reads r (l ++ l') r'' := by
  intro ok
  obtain ⟨ok', rest'⟩ := h' ok
  obtain ⟨ok, rest⟩ := h ok'
  exact ⟨ok, by rw [rest, rest', List.append_assoc]⟩

theorem reads_u8 {r r' : Reader} {b : UInt8} (h : r.u8 = (b, r')) : Reads r [b] r' := by
  intro ok
  unfold u8 at h
  split at h
  · cases h
    exact absurd ok Bool.noConfusion
  · rename_i rest
    cases h
    exact ⟨ok, rest⟩

theorem reads_bytes {r r' : Reader} {n : Nat} {l : List UInt8} (h : r.bytes n = (l, r')) :
    Reads r l r' := by
  intro ok
  unfold bytes at h
  split at h
  · cases h
    exact absurd ok Bool.noConfusion
  · cases h
    exact ⟨ok, (List.take_append_drop n r.rest).symm⟩

theorem length_bytes {r r' : Reader} {n : Nat} {l : List UInt8} (h : r.bytes n = (l, r'))
    (ok : r'.ok = true) : l.length = n := by
  unfold bytes at h
  split at h
  · cases h
    exact absurd ok Bool.noConfusion
  · cases h
    rw [List.length_take]
    omega

/-- The four bytes of an integer are told by its value. -/
theorem bytes_of_be32 (a b c d : UInt8) :
    be32Bytes ((a.toUInt32 <<< 24) ||| (b.toUInt32 <<< 16) ||| (c.toUInt32 <<< 8) ||| d.toUInt32) =
      [a, b, c, d] := by
  have beyond (x : UInt8) (i : Nat) (hi : 8 ≤ i) : x.toBitVec.getLsbD i = false :=
    BitVec.getLsbD_of_ge _ _ hi
  simp only [be32Bytes, List.cons.injEq, and_true]
  refine ⟨?_, ?_, ?_, ?_⟩
  -- bit by bit: the other bytes are shifted out on either side
  all_goals
    refine UInt8.toBitVec_inj.mp (BitVec.eq_of_getLsbD_eq ?_)
    intro i hi
    simp only [UInt32.toBitVec_toUInt8, UInt32.toBitVec_shiftRight, UInt32.toBitVec_or,
      UInt32.toBitVec_shiftLeft, UInt8.toBitVec_toUInt32, UInt32.toBitVec_ofNat,
      BitVec.ofNat_eq_ofNat, BitVec.reduceMod, BitVec.shiftLeft_eq', BitVec.toNat_ofNat,
      Nat.reducePow, Nat.reduceMod, BitVec.ushiftRight_eq', BitVec.getLsbD_setWidth,
      BitVec.getLsbD_ushiftRight, BitVec.getLsbD_or, BitVec.getLsbD_shiftLeft]
    grind

theorem reads_be32 {r r' : Reader} {value : UInt32} (h : r.be32 = (value, r')) :
    Reads r (be32Bytes value) r' := by
  unfold be32 at h
  rcases ha : r.u8 with ⟨a, ra⟩
  rcases hb : ra.u8 with ⟨b, rb⟩
  rcases hc : rb.u8 with ⟨c, rc⟩
  rcases hd : rc.u8 with ⟨d, rd⟩
  simp only [ha, hb, hc, hd] at h
  cases h
  rw [bytes_of_be32]
  exact (((reads_u8 ha).trans (reads_u8 hb)).trans (reads_u8 hc)).trans (reads_u8 hd)

/-- A complete reading has read everything. -/
theorem Reads.complete {data l : List UInt8} {r : Reader} (h : Reads ⟨data, true⟩ l r)
    (complete : r.complete = true) : data = l := by
  obtain ⟨ok, empty⟩ := Bool.and_eq_true_iff.mp complete
  have rest := (h ok).2
  rwa [List.isEmpty_iff.mp empty, List.append_nil] at rest

end Reader

/-! ## Accepted records -/

open Reader

theorem flag_of_le {b : UInt8} (h : ¬ b > 1) : (decide (b ≠ 0)).toUInt8 = b := by
  have le : b.toNat ≤ 1 := Nat.le_of_not_lt h
  obtain zero | one : b = 0 ∨ b = 1 := by
    rcases Nat.le_one_iff_eq_zero_or_eq_one.mp le with h | h
    · exact .inl (UInt8.toNat_inj.mp h)
    · exact .inr (UInt8.toNat_inj.mp h)
  · rw [zero]
    rfl
  · rw [one]
    rfl

/-- An SSID read from a record. -/
theorem loaded_ssid {size : UInt8} {bytes : List UInt8} (length : bytes.length = size.toNat)
    (h : ¬ (size = 0 ∨ size > 32)) :
    ({ bytes := .load 32 bytes, size } : Ssid).Valid ∧
      ({ bytes := .load 32 bytes, size } : Ssid).view = bytes := by
  obtain ⟨some_, few⟩ := not_or.mp h
  have le : size.toNat ≤ 32 := Nat.le_of_not_lt few
  have pos : 0 < size.toNat := Nat.pos_of_ne_zero fun zero => some_ (UInt8.toNat_inj.mp zero)
  exact ⟨⟨pos, le⟩, Octets.take_load length le⟩

/-- **Encoding gives an accepted settings record back.** -/
theorem EncodeProfile_DecodeProfileInto {data : List UInt8} {settings decoded : ProfileSettings}
    (h : DecodeProfileInto data settings = (.kOk, decoded)) : EncodeProfile decoded = data := by
  unfold DecodeProfileInto at h
  rcases hmagic : (⟨data, true⟩ : Reader).be32 with ⟨magic, r0⟩
  rcases hversion : r0.u8 with ⟨version, r1⟩
  rcases hsize : r1.u8 with ⟨size, r2⟩
  rcases hssid : r2.bytes size.toNat with ⟨ssid, r3⟩
  rcases hsecurity : r3.u8 with ⟨security, r4⟩
  rcases hhidden : r4.u8 with ⟨hidden, r5⟩
  rcases hip : r5.u8 with ⟨ipMode, r6⟩
  rcases haddress : r6.bytes 4 with ⟨address, r7⟩
  rcases hgateway : r7.bytes 4 with ⟨gateway, r8⟩
  rcases hdns1 : r8.bytes 4 with ⟨dns1, r9⟩
  rcases hdns2 : r9.bytes 4 with ⟨dns2, r10⟩
  rcases hprefix : r10.u8 with ⟨prefixLength, r11⟩
  rcases hhas : r11.u8 with ⟨hasDns2, r12⟩
  rcases hmac : r12.u8 with ⟨macPolicy, r13⟩
  rcases hauto : r13.u8 with ⟨autoConnect, r14⟩
  simp only [hmagic, hversion, hsize, hssid, hsecurity, hhidden, hip, haddress, hgateway, hdns1,
    hdns2, hprefix, hhas, hmac, hauto] at h
  split at h
  · exact nomatch h
  split at h
  · exact nomatch h
  split at h
  · exact nomatch h
  rename_i known sized ended
  obtain ⟨rfl, rfl⟩ : magic = kProfileMagic ∧ version = kFormatVersion := by
    simpa only [ne_eq, not_or, not_not] using known
  obtain ⟨hiddenFlag, hasFlag, autoFlag, incomplete⟩ :
      ¬ hidden > 1 ∧ ¬ hasDns2 > 1 ∧ ¬ autoConnect > 1 ∧ ¬ !r14.complete := by
    simpa only [not_or] using ended
  have complete : r14.complete = true := by simpa using incomplete
  have good := (Bool.and_eq_true_iff.mp complete).1
  -- each reading was good, as the last one is
  have good13 := (reads_u8 hauto good).1
  have good12 := (reads_u8 hmac good13).1
  have good11 := (reads_u8 hhas good12).1
  have good10 := (reads_u8 hprefix good11).1
  have good9 := (reads_bytes hdns2 good10).1
  have good8 := (reads_bytes hdns1 good9).1
  have good7 := (reads_bytes hgateway good8).1
  have good6 := (reads_bytes haddress good7).1
  have good5 := (reads_u8 hip good6).1
  have good4 := (reads_u8 hhidden good5).1
  have good3 := (reads_u8 hsecurity good4).1
  obtain ⟨valid, view⟩ := loaded_ssid (length_bytes hssid good3) sized
  have read := ((reads_be32 hmagic).trans <| (reads_u8 hversion).trans <| (reads_u8 hsize).trans <|
    (reads_bytes hssid).trans <| (reads_u8 hsecurity).trans <| (reads_u8 hhidden).trans <|
    (reads_u8 hip).trans <| (reads_bytes haddress).trans <| (reads_bytes hgateway).trans <|
    (reads_bytes hdns1).trans <| (reads_bytes hdns2).trans <| (reads_u8 hprefix).trans <|
    (reads_u8 hhas).trans <| (reads_u8 hmac).trans (reads_u8 hauto)).complete complete
  cases h
  rw [EncodeProfile_eq valid, view, flag_of_le hiddenFlag, flag_of_le hasFlag, flag_of_le autoFlag,
    Octets.load_toList (length_bytes haddress good7),
    Octets.load_toList (length_bytes hgateway good8),
    Octets.load_toList (length_bytes hdns1 good9), Octets.load_toList (length_bytes hdns2 good10)]
  exact read.symm

/-- **Encoding gives an accepted credential record back.** -/
theorem EncodeSecret_DecodeSecretInto {data : List UInt8} {ssid owner : Ssid}
    {secret decoded : Credentials}
    (h : DecodeSecretInto data ssid secret = (.kOk, owner, decoded)) :
    EncodeSecret owner decoded = data := by
  unfold DecodeSecretInto at h
  rcases hmagic : (⟨data, true⟩ : Reader).be32 with ⟨magic, r0⟩
  rcases hversion : r0.u8 with ⟨version, r1⟩
  rcases hsize : r1.u8 with ⟨size, r2⟩
  rcases hssid : r2.bytes size.toNat with ⟨name, r3⟩
  rcases hencoding : r3.u8 with ⟨encoding, r4⟩
  rcases hsecretSize : r4.u8 with ⟨secretSize, r5⟩
  rcases hsecret : r5.bytes secretSize.toNat with ⟨bytes, r6⟩
  simp only [hmagic, hversion, hsize, hssid, hencoding, hsecretSize, hsecret] at h
  split at h
  · exact nomatch h
  split at h
  · exact nomatch h
  split at h
  · exact nomatch h
  split at h
  · exact nomatch h
  rename_i known sized fits incomplete
  obtain ⟨rfl, rfl⟩ : magic = kSecretMagic ∧ version = kFormatVersion := by
    simpa only [ne_eq, not_or, not_not] using known
  have complete : r6.complete = true := by simpa using incomplete
  have good := (Bool.and_eq_true_iff.mp complete).1
  have good5 := (reads_bytes hsecret good).1
  have good4 := (reads_u8 hsecretSize good5).1
  have good3 := (reads_u8 hencoding good4).1
  have le : secretSize.toNat ≤ 64 := Nat.le_of_not_lt fits
  obtain ⟨valid, view⟩ := loaded_ssid (length_bytes hssid good3) sized
  have read := ((reads_be32 hmagic).trans <| (reads_u8 hversion).trans <| (reads_u8 hsize).trans <|
    (reads_bytes hssid).trans <| (reads_u8 hencoding).trans <| (reads_u8 hsecretSize).trans
    (reads_bytes hsecret)).complete complete
  cases h
  have secretView : Credentials.view
      { encoding := ⟨encoding⟩, bytes := .load 64 bytes, size := secretSize } = bytes :=
    Octets.take_load (length_bytes hsecret good) le
  rw [EncodeSecret_eq valid le, view, secretView]
  exact read.symm

/-! ## Formats -/

theorem length_pos_EncodeProfile {p : ProfileSettings} (h : p.connection.ssid.Valid) :
    1 ≤ (EncodeProfile p).length := by
  rw [EncodeProfile_eq h, List.length_cons]
  omega

theorem length_pos_EncodeSecret {s : Ssid} {c : Credentials} (h : s.Valid)
    (hc : c.size.toNat ≤ 64) : 1 ≤ (EncodeSecret s c).length := by
  rw [EncodeSecret_eq h hc, List.length_cons]
  omega

/-- **The stored formats are exact.** -/
theorem stored_formats_exact :
    (∀ p q : ProfileSettings, p.connection.ssid.Valid →
      DecodeProfileInto (EncodeProfile p) q = (.kOk, p.trim) ∧
      p.trim.connection.ssid.view = p.connection.ssid.view ∧
      1 ≤ (EncodeProfile p).length ∧ (EncodeProfile p).length ≤ kMaxProfileSize) ∧
    (∀ (s t : Ssid) (c d : Credentials), s.Valid → c.size.toNat ≤ 64 →
      DecodeSecretInto (EncodeSecret s c) t d = (.kOk, s.trim, c.trim) ∧
      s.trim.view = s.view ∧ c.trim.view = c.view ∧
      1 ≤ (EncodeSecret s c).length ∧ (EncodeSecret s c).length ≤ kMaxSecretSize) ∧
    (∀ data settings decoded, DecodeProfileInto data settings = (.kOk, decoded) →
      EncodeProfile decoded = data) ∧
    (∀ data ssid secret decodedSsid decoded,
      DecodeSecretInto data ssid secret = (.kOk, decodedSsid, decoded) →
        EncodeSecret decodedSsid decoded = data) ∧
    (∀ data settings, (DecodeProfileInto data settings).1 ≠ .kOk →
      DecodeProfileInto data settings = (.kCorrupt, settings)) ∧
    ∀ data ssid secret, (DecodeSecretInto data ssid secret).1 ≠ .kOk →
      DecodeSecretInto data ssid secret = (.kCorrupt, ssid, secret) := by
  refine ⟨?_, ?_, ?_, ?_, ?_, ?_⟩
  · intro p q valid
    refine ⟨?_, Ssid.view_trim valid.2, length_pos_EncodeProfile valid,
      length_EncodeProfile valid⟩
    exact DecodeProfileInto_EncodeProfile valid q
  · intro s t c d valid size
    refine ⟨?_, Ssid.view_trim valid.2, Credentials.view_trim size,
      length_pos_EncodeSecret valid size, length_EncodeSecret valid size⟩
    exact DecodeSecretInto_EncodeSecret valid size t d
  · intro data settings decoded accepted
    exact EncodeProfile_DecodeProfileInto accepted
  · intro data ssid secret decodedSsid decoded accepted
    exact EncodeSecret_DecodeSecretInto accepted
  · intro data settings
    exact DecodeProfileInto_rejected
  · intro data ssid secret
    exact DecodeSecretInto_rejected

/-- A minimal settings record, and the one with a byte after it. -/
example :
    (DecodeProfileInto (EncodeProfile { connection := { ssid := { size := 1 } } }) {}).1 = .kOk ∧
      (DecodeProfileInto (EncodeProfile { connection := { ssid := { size := 1 } } } ++ [0]) {}).1 =
        .kCorrupt := by
  decide

end RooWifi
