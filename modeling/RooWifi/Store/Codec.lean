import RooWifi.Store.Format

/-! # Round trips of the persistent format

A record read back is the record written, its meaningless bytes cleared, and
two keys agree exactly when they are of one kind and their hashes agree. -/
namespace RooWifi

/-! ## Meaningful bytes -/

theorem Octets.load_toList {n : Nat} {l : List UInt8} (h : l.length = n) :
    (Octets.load n l).toList = l := by
  subst h
  simp [Octets.load, List.Vector.toList]

@[simp] theorem Octets.load_self {n : Nat} (v : Octets n) : Octets.load n v.toList = v :=
  Subtype.ext (Octets.load_toList v.toList_length)

theorem Octets.take_load {n m : Nat} {l : List UInt8} (hl : l.length = m) (h : m ≤ n) :
    (Octets.load n l).toList.take m = l := by
  subst hl
  simp [Octets.load, List.Vector.toList, List.take_take, h]

theorem Ssid.length_view {s : Ssid} (h : s.size.toNat ≤ 32) : s.view.length = s.size.toNat := by
  simp [Ssid.view, h]

theorem Credentials.length_view {c : Credentials} (h : c.size.toNat ≤ 64) :
    c.view.length = c.size.toNat := by
  simp [Credentials.view, h]

@[simp] theorem Ssid.size_trim (s : Ssid) : s.trim.size = s.size := rfl
@[simp] theorem Credentials.size_trim (c : Credentials) : c.trim.size = c.size := rfl
@[simp] theorem Credentials.encoding_trim (c : Credentials) : c.trim.encoding = c.encoding := rfl

theorem Ssid.view_trim {s : Ssid} (h : s.size.toNat ≤ 32) : s.trim.view = s.view :=
  Octets.take_load (Ssid.length_view h) h

theorem Credentials.view_trim {c : Credentials} (h : c.size.toNat ≤ 64) : c.trim.view = c.view :=
  Octets.take_load (Credentials.length_view h) h

/-- Two valid SSIDs are equal exactly when their meaningful bytes are. -/
theorem Ssid.eq_iff {a b : Ssid} (ha : a.Valid) (hb : b.Valid) : a.eq b = true ↔ a.view = b.view := by
  simp only [Ssid.eq, Bool.and_eq_true, decide_eq_true_eq, beq_iff_eq]
  refine ⟨And.right, fun h => ⟨⟨ha.2, UInt8.toNat_inj.mp ?_⟩, h⟩⟩
  rw [← length_view ha.2, ← length_view hb.2, h]

theorem Ssid.valid_of_eq {a b : Ssid} (h : a.eq b = true) (hb : b.Valid) : a.Valid := by
  simp only [Ssid.eq, Bool.and_eq_true, beq_iff_eq] at h
  simpa only [Ssid.Valid, h.1.2] using hb

theorem Ssid.view_of_eq {a b : Ssid} (h : a.eq b = true) : a.view = b.view := by
  simp only [Ssid.eq, Bool.and_eq_true, beq_iff_eq] at h
  exact h.2

/-! ## Keys -/

theorem base64UrlDigit_inj {i j : Nat} (hi : i < 64) (hj : j < 64)
    (h : base64UrlDigit i = base64UrlDigit j) : i = j := by
  have hlen : kBase64UrlAlphabet.length = 64 := by decide
  have hnodup : kBase64UrlAlphabet.Nodup := by decide
  rw [← hlen] at hi hj
  simp only [base64UrlDigit, List.getD, List.getElem?_eq_getElem hi,
    List.getElem?_eq_getElem hj, Option.getD_some] at h
  exact hnodup.getElem_inj_iff.mp h

/-- One more digit determines six more bits. -/
theorem div_eq_of_digit {a b m : Nat} (hq : a / (m * 64) = b / (m * 64))
    (hd : a / m % 64 = b / m % 64) : a / m = b / m := by
  rw [← Nat.div_div_eq_div_mul, ← Nat.div_div_eq_div_mul] at hq
  rw [← Nat.div_add_mod (a / m) 64, ← Nat.div_add_mod (b / m) 64, hq, hd]

theorem base64Url_inj {a b : UInt64} (h : base64Url a = base64Url b) : a = b := by
  have ha := a.toNat_lt
  have hb := b.toNat_lt
  simp only [base64Url, List.range_succ, List.range_zero, List.nil_append,
    List.map_cons, List.map_nil, List.cons_append, List.cons.injEq, and_true] at h
  obtain ⟨h0, h1, h2, h3, h4, h5, h6, h7, h8, h9, h10⟩ := h
  have digit {m : Nat} (h : base64UrlDigit (a.toNat / m % 64) = base64UrlDigit (b.toNat / m % 64)) :
      a.toNat / m % 64 = b.toNat / m % 64 :=
    base64UrlDigit_inj (Nat.mod_lt _ (by decide)) (Nat.mod_lt _ (by decide)) h
  -- from the top digit down, each step of `div_eq_of_digit` fixes six more bits
  have e0 : a.toNat / 2 ^ 58 = b.toNat / 2 ^ 58 := div_eq_of_digit (by omega) (digit h0)
  have e1 : a.toNat / 2 ^ 52 = b.toNat / 2 ^ 52 := div_eq_of_digit e0 (digit h1)
  have e2 : a.toNat / 2 ^ 46 = b.toNat / 2 ^ 46 := div_eq_of_digit e1 (digit h2)
  have e3 : a.toNat / 2 ^ 40 = b.toNat / 2 ^ 40 := div_eq_of_digit e2 (digit h3)
  have e4 : a.toNat / 2 ^ 34 = b.toNat / 2 ^ 34 := div_eq_of_digit e3 (digit h4)
  have e5 : a.toNat / 2 ^ 28 = b.toNat / 2 ^ 28 := div_eq_of_digit e4 (digit h5)
  have e6 : a.toNat / 2 ^ 22 = b.toNat / 2 ^ 22 := div_eq_of_digit e5 (digit h6)
  have e7 : a.toNat / 2 ^ 16 = b.toNat / 2 ^ 16 := div_eq_of_digit e6 (digit h7)
  have e8 : a.toNat / 2 ^ 10 = b.toNat / 2 ^ 10 := div_eq_of_digit e7 (digit h8)
  have e9 : a.toNat / 2 ^ 4 = b.toNat / 2 ^ 4 := div_eq_of_digit e8 (digit h9)
  have e10 : a.toNat % 16 * 4 = b.toNat % 16 * 4 :=
    base64UrlDigit_inj (by omega) (by omega) h10
  exact UInt64.toNat_inj.mp (by omega)

theorem Key_inj {kind : Char} {a b : Ssid} : Key kind a = Key kind b ↔ fnv1a a = fnv1a b := by
  constructor
  · intro h
    simp only [Key, List.cons.injEq, true_and] at h
    exact base64Url_inj h
  · intro h
    simp only [Key, h]

theorem Key_ne {k l : Char} (h : k.toUInt8 ≠ l.toUInt8) (a b : Ssid) : Key k a ≠ Key l b :=
  fun he => h (List.cons.inj he).1

@[simp] theorem Key_p_ne_s (a b : Ssid) : Key 'p' a ≠ Key 's' b := Key_ne (by decide) a b
@[simp] theorem Key_s_ne_p (a b : Ssid) : Key 's' a ≠ Key 'p' b := Key_ne (by decide) a b

theorem Key_ne_last {k : Char} (h : k.toUInt8 ≠ 108) (a : Ssid) : Key k a ≠ kLastSsid :=
  fun he => h (List.cons.inj he).1

@[simp] theorem Key_p_ne_last (a : Ssid) : Key 'p' a ≠ kLastSsid := Key_ne_last (by decide) a
@[simp] theorem Key_s_ne_last (a : Ssid) : Key 's' a ≠ kLastSsid := Key_ne_last (by decide) a

/-- The hash only depends on the meaningful bytes. -/
theorem fnv1a_congr {a b : Ssid} (h : a.view = b.view) : fnv1a a = fnv1a b := by
  rw [fnv1a, fnv1a, h]

theorem Key_congr {a b : Ssid} (h : a.view = b.view) (kind : Char) : Key kind a = Key kind b :=
  Key_inj.mpr (fnv1a_congr h)

/-! ## Writing and reading -/

namespace Writer

variable {capacity : Nat} {data : List UInt8}

theorem u8_fit {v : UInt8} (h : data.length < capacity) :
    (⟨capacity, data, true⟩ : Writer).u8 v = ⟨capacity, data ++ [v], true⟩ := by
  simp [u8, Nat.ne_of_lt h]

theorem bytes_fit {l : List UInt8} (h : data.length + l.length ≤ capacity) :
    (⟨capacity, data, true⟩ : Writer).bytes l = ⟨capacity, data ++ l, true⟩ := by
  simp only [bytes, gt_iff_lt]
  rw [if_neg (by omega)]

end Writer

namespace Reader

@[simp] theorem u8_cons (b : UInt8) (l : List UInt8) (ok : Bool) :
    (⟨b :: l, ok⟩ : Reader).u8 = (b, ⟨l, ok⟩) := rfl

@[simp] theorem bytes_append {l t : List UInt8} {n : Nat} {ok : Bool} (h : l.length = n) :
    (⟨l ++ t, ok⟩ : Reader).bytes n = (l, ⟨t, ok⟩) := by
  subst h
  simp [bytes]

@[simp] theorem bytes_all {l : List UInt8} {n : Nat} {ok : Bool} (h : l.length = n) :
    (⟨l, ok⟩ : Reader).bytes n = (l, ⟨[], ok⟩) := by
  subst h
  simp [bytes]

end Reader

/-- The layout of a settings record. -/
theorem EncodeProfile_eq {p : ProfileSettings} (h : p.connection.ssid.Valid) :
    EncodeProfile p =
      0x52 :: 0x57 :: 0x50 :: 0x50 :: 2 :: p.connection.ssid.size :: (p.connection.ssid.view ++
        p.connection.security.raw :: p.connection.hidden.toUInt8 :: p.connection.ipMode.raw ::
        (p.connection.staticIpv4.address.toList ++ (p.connection.staticIpv4.gateway.toList ++
        (p.connection.staticIpv4.dns1.toList ++ (p.connection.staticIpv4.dns2.toList ++
        [p.connection.staticIpv4.prefixLength, p.connection.staticIpv4.hasDns2.toUInt8,
          p.connection.macPolicy.raw, p.autoConnect.toUInt8]))))) := by
  have hl := Ssid.length_view h.2
  have h32 := h.2
  simp (disch := (simp only [List.length_append, List.length_cons, List.length_nil,
    List.Vector.toList_length, hl, kMaxProfileSize]; omega)) only
    [EncodeProfile, Writer.be32, Writer.u8_fit, Writer.bytes_fit, Writer.finish]
  simp only [if_true, List.append_assoc, List.nil_append, List.cons_append]
  rfl

/-- The layout of a credential record. -/
theorem EncodeSecret_eq {s : Ssid} {c : Credentials} (h : s.Valid) (hc : c.size.toNat ≤ 64) :
    EncodeSecret s c =
      0x52 :: 0x57 :: 0x50 :: 0x53 :: 2 :: s.size :: (s.view ++
        c.encoding.raw :: c.size :: c.view) := by
  have hl := Ssid.length_view h.2
  have h32 := h.2
  have hcl := Credentials.length_view hc
  simp (disch := (simp only [List.length_append, List.length_cons, List.length_nil, hl, hcl,
    kMaxSecretSize]; omega)) only
    [EncodeSecret, Writer.be32, Writer.u8_fit, Writer.bytes_fit, Writer.finish]
  simp only [if_true, List.append_assoc, List.nil_append, List.cons_append]
  rfl

theorem Ssid.size_eq {a b : Ssid} (ha : a.Valid) (hb : b.Valid) (h : a.view = b.view) :
    a.size = b.size := by
  have := congrArg List.length h
  rw [length_view ha.2, length_view hb.2] at this
  exact UInt8.toNat_inj.mp this

theorem EncodeSecret_congr {a b : Ssid} (ha : a.Valid) (hb : b.Valid) (h : a.view = b.view)
    {c : Credentials} (hc : c.size.toNat ≤ 64) : EncodeSecret a c = EncodeSecret b c := by
  rw [EncodeSecret_eq ha hc, EncodeSecret_eq hb hc, Ssid.size_eq ha hb h, h]

theorem length_EncodeProfile {p : ProfileSettings} (h : p.connection.ssid.Valid) :
    (EncodeProfile p).length ≤ kMaxProfileSize := by
  have hl := Ssid.length_view h.2
  have h32 := h.2
  simp only [EncodeProfile_eq h, List.length_append, List.length_cons, List.length_nil,
    List.Vector.toList_length, hl, kMaxProfileSize]
  omega

theorem length_EncodeSecret {s : Ssid} {c : Credentials} (h : s.Valid) (hc : c.size.toNat ≤ 64) :
    (EncodeSecret s c).length ≤ kMaxSecretSize := by
  have hl := Ssid.length_view h.2
  have h32 := h.2
  simp only [EncodeSecret_eq h hc, List.length_append, List.length_cons, hl,
    Credentials.length_view hc, kMaxSecretSize]
  omega

theorem flag_le (b : Bool) : ¬ b.toUInt8 > 1 := by cases b <;> decide

@[simp] theorem flag_ne_zero (b : Bool) : decide (b.toUInt8 ≠ 0) = b := by cases b <;> rfl

theorem Ssid.Valid.size_ne {s : Ssid} (h : s.Valid) : ¬ (s.size = 0 ∨ s.size > 32) := by
  rintro (h0 | h0)
  · have := h.1
    simp [h0] at this
  · have := h.2
    have : (32 : UInt8).toNat < s.size.toNat := h0
    simp at this
    omega

/-- **Round trip of settings.** -/
theorem DecodeProfileInto_EncodeProfile {p : ProfileSettings} (h : p.connection.ssid.Valid)
    (settings : ProfileSettings) :
    DecodeProfileInto (EncodeProfile p) settings = (.kOk, p.trim) := by
  have hmagic : ((0x52 : UInt8).toUInt32 <<< 24 ||| (0x57 : UInt8).toUInt32 <<< 16 |||
      (0x50 : UInt8).toUInt32 <<< 8 ||| (0x50 : UInt8).toUInt32) = kProfileMagic := by decide
  rw [EncodeProfile_eq h]
  simp only [DecodeProfileInto, Reader.be32, Reader.u8_cons, hmagic, kFormatVersion, ne_eq,
    not_true_eq_false, or_self, if_false, h.size_ne, Ssid.length_view h.2, Reader.bytes_append,
    List.Vector.toList_length, flag_le, Reader.complete, List.isEmpty_nil, Bool.and_self,
    Bool.not_true, Bool.false_eq_true, flag_ne_zero, Octets.load_self]
  rfl

/-- **Round trip of credentials.** -/
theorem DecodeSecretInto_EncodeSecret {s : Ssid} {c : Credentials} (h : s.Valid)
    (hc : c.size.toNat ≤ 64) (ssid : Ssid) (secret : Credentials) :
    DecodeSecretInto (EncodeSecret s c) ssid secret = (.kOk, s.trim, c.trim) := by
  have hmagic : ((0x52 : UInt8).toUInt32 <<< 24 ||| (0x57 : UInt8).toUInt32 <<< 16 |||
      (0x50 : UInt8).toUInt32 <<< 8 ||| (0x53 : UInt8).toUInt32) = kSecretMagic := by decide
  have hsize : ¬ c.size > 64 := fun h64 => by
    have : (64 : UInt8).toNat < c.size.toNat := h64
    simp at this
    omega
  rw [EncodeSecret_eq h hc]
  simp only [DecodeSecretInto, Reader.be32, Reader.u8_cons, hmagic, kFormatVersion, ne_eq,
    not_true_eq_false, or_self, if_false, h.size_ne, Ssid.length_view h.2, Reader.bytes_append,
    hsize, Credentials.length_view hc, Reader.bytes_all, Reader.complete, List.isEmpty_nil,
    Bool.and_self, Bool.not_true, Bool.false_eq_true]
  rfl

/-- A rejected record leaves the settings as they were. -/
theorem DecodeProfileInto_rejected {data : List UInt8} {settings : ProfileSettings}
    (h : (DecodeProfileInto data settings).1 ≠ .kOk) :
    DecodeProfileInto data settings = (.kCorrupt, settings) := by
  unfold DecodeProfileInto at h ⊢
  dsimp only at h ⊢
  split
  · rfl
  rename_i known
  rw [if_neg known] at h
  split
  · rfl
  rename_i sized
  rw [if_neg sized] at h
  split
  · rfl
  rename_i ended
  rw [if_neg ended] at h
  exact absurd rfl h

/-- A rejected record leaves the owner and the credentials as they were. -/
theorem DecodeSecretInto_rejected {data : List UInt8} {ssid : Ssid} {secret : Credentials}
    (h : (DecodeSecretInto data ssid secret).1 ≠ .kOk) :
    DecodeSecretInto data ssid secret = (.kCorrupt, ssid, secret) := by
  unfold DecodeSecretInto at h ⊢
  dsimp only at h ⊢
  split
  · rfl
  rename_i known
  rw [if_neg known] at h
  split
  · rfl
  rename_i sized
  rw [if_neg sized] at h
  split
  · rfl
  rename_i fits
  rw [if_neg fits] at h
  split
  · rfl
  rename_i ended
  rw [if_neg ended] at h
  exact absurd rfl h

/-! ### Into a new record -/

theorem DecodeProfileInto_of_ok {data : List UInt8} {settings : ProfileSettings}
    (h : DecodeProfile data = .ok settings) : DecodeProfileInto data {} = (.kOk, settings) := by
  unfold DecodeProfile at h
  split at h
  · rename_i decoded
    rw [decoded, Except.ok.inj h]
  · cases h

theorem DecodeProfile_EncodeProfile {p : ProfileSettings} (h : p.connection.ssid.Valid) :
    DecodeProfile (EncodeProfile p) = .ok p.trim := by
  rw [DecodeProfile, DecodeProfileInto_EncodeProfile h]

theorem DecodeSecret_EncodeSecret {s : Ssid} {c : Credentials} (h : s.Valid)
    (hc : c.size.toNat ≤ 64) : DecodeSecret (EncodeSecret s c) = .ok (s.trim, c.trim) := by
  rw [DecodeSecret, DecodeSecretInto_EncodeSecret h hc]

theorem DecodeProfile_error {d : List UInt8} {status : Status}
    (h : DecodeProfile d = .error status) : status = .kCorrupt := by
  rcases into : DecodeProfileInto d {} with ⟨answer, settings⟩
  rw [DecodeProfile, into] at h
  by_cases ok : answer = .kOk
  · subst ok
    cases h
  · have rejected : DecodeProfileInto d {} = (.kCorrupt, {}) :=
      DecodeProfileInto_rejected (by rw [into]; exact ok)
    obtain ⟨rfl, -⟩ := Prod.mk.inj (into.symm.trans rejected)
    exact (Except.error.inj h).symm

theorem DecodeSecret_error {d : List UInt8} {status : Status}
    (h : DecodeSecret d = .error status) : status = .kCorrupt := by
  rcases into : DecodeSecretInto d {} {} with ⟨answer, decoded⟩
  rw [DecodeSecret, into] at h
  by_cases ok : answer = .kOk
  · subst ok
    cases h
  · have rejected : DecodeSecretInto d {} {} = (.kCorrupt, {}, {}) :=
      DecodeSecretInto_rejected (by rw [into]; exact ok)
    obtain ⟨rfl, -⟩ := Prod.mk.inj (into.symm.trans rejected)
    exact (Except.error.inj h).symm

/-! ## Validation looks at meaningful bytes only -/

theorem size_le_of_Validate {c : ConnectionConfig} {secret : Credentials}
    (h : Validate c secret = .kOk) : secret.size.toNat ≤ 64 := by
  by_contra hn
  have h64 : secret.size > 64 := Nat.lt_of_not_le hn
  simp [Validate, malformed, h64] at h

/-- A network that is not open needs credential bytes. -/
theorem size_ne_zero_of_secured {c : ConnectionConfig} {secret : Credentials}
    (h : Validate c secret = .kOk) (ho : c.security ≠ .kOpen) : secret.size ≠ 0 := by
  intro h0
  simp only [Validate, ho, if_false, h0] at h
  repeat' split at h
  all_goals simp_all

theorem Validate_trimSsid (st : ProfileSettings) (secret : Credentials) :
    Validate st.trim.connection secret = Validate st.connection secret := rfl

theorem Validate_trim (c : ConnectionConfig) {secret : Credentials} (h : secret.size.toNat ≤ 64) :
    Validate c secret.trim = Validate c secret := by
  simp only [Validate, malformed, IsHex, Credentials.view_trim h, Credentials.size_trim,
    Credentials.encoding_trim]
  rfl

theorem Validate_ne_corrupt (c : ConnectionConfig) (secret : Credentials) :
    Validate c secret ≠ .kCorrupt := by
  unfold Validate
  repeat' split
  all_goals decide

end RooWifi
