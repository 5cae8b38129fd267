import RooWifi.Network

/-! # Connection settings and their validation (configuration.h, configuration.cpp, profile.h) -/
namespace RooWifi

/-- DHCP or caller-supplied static IPv4 configuration. -/
structure IpMode where
  raw : UInt8
deriving DecidableEq, Repr

def IpMode.kDhcp : IpMode := ⟨0⟩
def IpMode.kStaticIpv4 : IpMode := ⟨1⟩

/-- The device MAC address or a per-connection randomized one. -/
structure MacPolicy where
  raw : UInt8
deriving DecidableEq, Repr

def MacPolicy.kDevice : MacPolicy := ⟨0⟩
def MacPolicy.kRandomized : MacPolicy := ⟨1⟩

/-- Static settings used when `IpMode.kStaticIpv4` is selected. -/
structure StaticIpv4 where
  address : Ipv4Address := zeros 4
  gateway : Ipv4Address := zeros 4
  dns1 : Ipv4Address := zeros 4
  dns2 : Ipv4Address := zeros 4
  prefixLength : UInt8 := 24
  hasDns2 : Bool := false
deriving DecidableEq

/-- Network, addressing and MAC settings of a connection, without secrets. -/
structure ConnectionConfig where
  ssid : Ssid := {}
  security : AuthMode := .kUnknown
  hidden : Bool := false
  ipMode : IpMode := .kDhcp
  staticIpv4 : StaticIpv4 := {}
  macPolicy : MacPolicy := .kDevice
deriving DecidableEq

/-- How credential bytes are encoded. -/
structure CredentialEncoding where
  raw : UInt8
deriving DecidableEq, Repr

def CredentialEncoding.kPassphrase : CredentialEncoding := ⟨0⟩
def CredentialEncoding.kRawPsk : CredentialEncoding := ⟨1⟩
def CredentialEncoding.kWepKey : CredentialEncoding := ⟨2⟩

/-- One attempt's secret material; only the first `size` bytes are meaningful. -/
structure Credentials where
  encoding : CredentialEncoding := .kPassphrase
  bytes : Octets 64 := zeros 64
  size : UInt8 := 0
deriving DecidableEq

/-- The meaningful bytes. -/
def Credentials.view (c : Credentials) : List UInt8 := c.bytes.toList.take c.size.toNat

/-- Whether a profile keeps, replaces or clears its credentials. -/
structure CredentialIntent where
  raw : UInt8
deriving DecidableEq, Repr

def CredentialIntent.kKeep : CredentialIntent := ⟨0⟩
def CredentialIntent.kReplace : CredentialIntent := ⟨1⟩
def CredentialIntent.kClear : CredentialIntent := ⟨2⟩

/-- The credential change applied when saving a profile. -/
structure CredentialUpdate where
  intent : CredentialIntent := .kKeep
  replacement : Credentials := {}
deriving DecidableEq

/-- Persisted non-secret settings, addressed by `connection.ssid`. -/
structure ProfileSettings where
  connection : ConnectionConfig := {}
  autoConnect : Bool := true
deriving DecidableEq

/-- One saved profile without its credentials. -/
structure Profile where
  settings : ProfileSettings := {}
  hasCredentials : Bool := false
deriving DecidableEq

/-! ## Validation -/

/-- `Address`: packs an IPv4 address into a host integer, network order. -/
def Address (ip : Ipv4Address) : BitVec 32 :=
  match ip.toList with
  | [a, b, c, d] =>
    (a.toBitVec.setWidth 32 <<< 24) ||| (b.toBitVec.setWidth 32 <<< 16) |||
      (c.toBitVec.setWidth 32 <<< 8) ||| d.toBitVec.setWidth 32
  | _ => 0

/-- `IsUnicast`: whether an address can identify an ordinary unicast host. -/
def IsUnicast (ip : BitVec 32) : Bool :=
  ip != 0 && (ip >>> 24) < 224 && (ip >>> 24) != 127

/-- An ASCII hex digit. -/
def isHexDigit (b : UInt8) : Bool :=
  (b ≥ 48 && b ≤ 57) || (b ≥ 97 && b ≤ 102) || (b ≥ 65 && b ≤ 70)

/-- `IsHex`: whether every populated credential byte is an ASCII hex digit. -/
def IsHex (c : Credentials) : Bool := c.view.all isHexDigit

/-- Whether an advertised or negotiated mode is allowed by a policy. -/
def SecurityAllows (policy mode : AuthMode) : Bool :=
  if policy = .kUnknown ∨ mode = .kUnknown then false
  else if policy = mode then true
  else if policy = .kWpa2Wpa3Personal then mode = .kWpa2Personal ∨ mode = .kWpa3Personal
  else if policy = .kWpaWpa2Personal then mode = .kWpaPersonal ∨ mode = .kWpa2Personal
  else false

/-- The discriminators and lengths `Validate` looks at before anything else. -/
def malformed (c : ConnectionConfig) (secret : Credentials) : Bool :=
  (secret.encoding ≠ .kPassphrase ∧ secret.encoding ≠ .kRawPsk ∧ secret.encoding ≠ .kWepKey) ∨
    c.ssid.size = 0 ∨ c.ssid.size > 32 ∨ secret.size > 64 ∨
    (c.macPolicy ≠ .kDevice ∧ c.macPolicy ≠ .kRandomized) ∨
    (c.ipMode ≠ .kDhcp ∧ c.ipMode ≠ .kStaticIpv4)

/-- The static-IPv4 block of `Validate`. Prefixes without usable host
addresses are excluded; a gateway is optional. -/
def validStatic (s : StaticIpv4) : Bool :=
  if s.prefixLength = 0 ∨ s.prefixLength > 30 then false
  else
    let mask : BitVec 32 := 0xffffffff#32 <<< (32 - s.prefixLength.toNat)
    let ip := Address s.address
    let gw := Address s.gateway
    !(!IsUnicast ip || (ip &&& ~~~mask) == 0 || (ip &&& ~~~mask) == ~~~mask ||
      (gw != 0 && (!IsUnicast gw || (gw &&& mask) != (ip &&& mask) ||
        (gw &&& ~~~mask) == 0 || (gw &&& ~~~mask) == ~~~mask || gw == ip)) ||
      !IsUnicast (Address s.dns1) || (s.hasDns2 && !IsUnicast (Address s.dns2)))

/-- `Validate`: portable connection settings and credential encoding. -/
def Validate (c : ConnectionConfig) (secret : Credentials) : Status :=
  if malformed c secret then .kInvalidArgument
  else if c.ipMode = .kStaticIpv4 ∧ !validStatic c.staticIpv4 then .kInvalidArgument
  -- open networks must not carry credential material of any encoding
  else if c.security = .kOpen then
    if secret.size = 0 then .kOk else .kInvalidArgument
  -- WEP: two raw key sizes or their exact hexadecimal encodings
  else if c.security = .kWep then
    if secret.encoding ≠ .kWepKey then .kInvalidArgument
    else if secret.size = 5 ∨ secret.size = 13 ∨
        ((secret.size = 10 ∨ secret.size = 26) ∧ IsHex secret) then .kOk
    else .kInvalidArgument
  else if c.security ≠ .kWpaPersonal ∧ c.security ≠ .kWpa2Personal ∧
      c.security ≠ .kWpaWpa2Personal ∧ c.security ≠ .kWpa3Personal ∧
      c.security ≠ .kWpa2Wpa3Personal then .kUnsupported
  -- a raw PSK is 64 hex digits; SAE has none
  else if secret.encoding = .kRawPsk then
    if c.security = .kWpa3Personal ∨ c.security = .kWpa2Wpa3Personal then .kUnsupported
    else if secret.size = 64 ∧ IsHex secret then .kOk else .kInvalidArgument
  else if secret.encoding ≠ .kPassphrase ∨ secret.size < 8 ∨ secret.size > 63 then
    .kInvalidArgument
  else if secret.view.any fun b => b < 32 || b > 126 then .kInvalidArgument
  else .kOk

theorem valid_of_Validate {c : ConnectionConfig} {secret : Credentials}
    (h : Validate c secret = .kOk) : c.ssid.Valid := by
  by_contra hn
  have hs : c.ssid.size = 0 ∨ c.ssid.size > 32 := by
    by_contra hs
    rw [not_or] at hs
    refine hn ⟨Nat.pos_of_ne_zero fun h0 => hs.1 (UInt8.toNat_inj.mp h0), ?_⟩
    exact Nat.le_of_not_lt hs.2
  rcases hs with hs | hs <;> simp [Validate, malformed, hs] at h

/-- `ValidateSupport`: the configuration's features against the radio's. -/
def ValidateSupport (c : ConnectionConfig) (s : Support) : Status :=
  if c.security.raw ≥ 32 ∨ s.authenticationModes &&& (1 <<< c.security.raw.toUInt32) = 0 ∨
      (c.hidden ∧ !s.hiddenNetworks) ∨ (c.ipMode = .kStaticIpv4 ∧ !s.staticIpv4) ∨
      (c.macPolicy = .kRandomized ∧ !s.randomizedMac) then .kUnsupported
  else .kOk

end RooWifi
