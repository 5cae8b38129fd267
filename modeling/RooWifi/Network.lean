import Mathlib.Data.Vector.Basic

/-! # Portable values shared by the controller, the adapters and the store

Statuses, network identities, operations and observed link state
(status.h, network.h, operation.h, radio.h). Enumerations that storage
decodes with an unchecked cast keep their raw byte, so a value outside the
named ones can be represented; the others are closed inductive types. -/
namespace RooWifi

/-- Admission, completion, validation and persistence outcomes. -/
inductive Status where
  | kOk | kNotFound | kInvalidArgument | kUnsupported | kBusy | kDisabled | kNotStarted
  | kCancelled | kTimeout | kConnectionFailed | kStorageFailure | kCommitUnknown | kCorrupt
  | kStopped | kHashCollision
deriving DecidableEq, Repr, Inhabited

/-- A fixed C array of `n` bytes. -/
abbrev Octets (n : Nat) := List.Vector UInt8 n

/-- The value-initialized array `uint8_t bytes[n] = {}`. -/
def zeros (n : Nat) : Octets n := List.Vector.replicate n 0

/-- A value-initialized array whose first bytes are then copied from `l`. -/
def Octets.load (n : Nat) (l : List UInt8) : Octets n :=
  ⟨(l ++ List.replicate n 0).take n, by simp⟩

/-- Up to 32 SSID bytes; only the first `size` of them are meaningful. -/
structure Ssid where
  bytes : Octets 32 := zeros 32
  size : UInt8 := 0
deriving DecidableEq

/-- The meaningful bytes. -/
def Ssid.view (s : Ssid) : List UInt8 := s.bytes.toList.take s.size.toNat

/-- The length every stored or connected SSID must have. -/
def Ssid.Valid (s : Ssid) : Prop := 1 ≤ s.size.toNat ∧ s.size.toNat ≤ 32

instance (s : Ssid) : Decidable s.Valid := inferInstanceAs (Decidable (_ ∧ _))

/-- `Ssid::operator==`: exact length-delimited bytes; invalid lengths never match. -/
def Ssid.eq (a b : Ssid) : Bool :=
  a.size.toNat ≤ 32 && a.size == b.size && a.view == b.view

theorem Ssid.Valid.eq_self {s : Ssid} (h : s.Valid) : s.eq s = true := by
  simp [Ssid.eq, h.2]

/-- Six octets in network byte order. -/
abbrev MacAddress := Octets 6

/-- Four octets in dotted-quad order. -/
abbrev Ipv4Address := Octets 4

/-- Authentication modes, with their library-defined numbering. -/
structure AuthMode where
  raw : UInt8
deriving DecidableEq, Repr

namespace AuthMode

def kUnknown : AuthMode := ⟨0⟩
def kOpen : AuthMode := ⟨1⟩
def kWep : AuthMode := ⟨2⟩
def kWpaPersonal : AuthMode := ⟨3⟩
def kWpa2Personal : AuthMode := ⟨4⟩
def kWpaWpa2Personal : AuthMode := ⟨5⟩
def kWpa3Personal : AuthMode := ⟨6⟩
def kWpa2Wpa3Personal : AuthMode := ⟨7⟩
def kEnterprise : AuthMode := ⟨8⟩
def kWapiPersonal : AuthMode := ⟨9⟩
def kOther : AuthMode := ⟨10⟩

end AuthMode

/-! ## Operations -/

/-- `uint64_t`; the controller stops before the largest value is used. -/
abbrev OperationId := Nat

/-- `std::numeric_limits<OperationId>::max()`. -/
def OperationId.max : OperationId := 2 ^ 64 - 1

/-- The native adapter action an operation result belongs to. -/
inductive OperationKind where
  | kEnable | kScan | kConnect | kDisconnect
deriving DecidableEq, Repr

/-- Connection failures without platform-specific numbers. -/
inductive ConnectionFailure where
  | kNone | kTransient | kNetworkNotFound | kAuthentication | kIncompatibleSecurity
  | kConnectionTimeout | kAddressTimeout
deriving DecidableEq, Repr

/-- The terminal result of one admitted native transition. -/
structure OperationResult where
  id : OperationId := 0
  kind : OperationKind := .kScan
  status : Status := .kOk
  nativeCode : Int := 0
  hasNativeCode : Bool := false
  failure : ConnectionFailure := .kNone
deriving DecidableEq

/-! ## Radio observations -/

/-- Portable features of the selected radio adapter. -/
structure Support where
  authenticationModes : UInt32 := 0
  hiddenNetworks : Bool := false
  staticIpv4 : Bool := false
  randomizedMac : Bool := false
  scanWhileConnected : Bool := false
deriving DecidableEq

/-- One access point discovered by a scan. The cipher and PHY metadata is
never read by the modelled code and is left out. -/
structure ScanRecord where
  ssid : Ssid := {}
  bssid : MacAddress := zeros 6
  security : AuthMode := .kUnknown
  rssiDbm : Int := -128
  channel : UInt8 := 0
deriving DecidableEq

/-- The stage of a station connection's lifecycle. -/
inductive LinkPhase where
  | kIdle | kConnecting | kAssociated | kAddressReady
deriving DecidableEq, Repr

/-- Observed station identity, connectivity and diagnostics. -/
structure LinkState where
  connectionId : OperationId := 0
  phase : LinkPhase := .kIdle
  ssid : Ssid := {}
  bssid : MacAddress := zeros 6
  stationMac : MacAddress := zeros 6
  security : AuthMode := .kUnknown
  rssiDbm : Int := -128
  channel : UInt8 := 0
  address : Ipv4Address := zeros 4
  gateway : Ipv4Address := zeros 4
  dns1 : Ipv4Address := zeros 4
  dns2 : Ipv4Address := zeros 4
  hasRadioInfo : Bool := false
  hasStationMac : Bool := false
  hasIpv4 : Bool := false
  hasDns1 : Bool := false
  hasDns2 : Bool := false
  hasNativeCode : Bool := false
  reason : Status := .kOk
  failure : ConnectionFailure := .kNone
  nativeCode : Int := 0
deriving DecidableEq

end RooWifi
