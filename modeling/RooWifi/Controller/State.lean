import RooWifi.Configuration
import Mathlib.Algebra.Order.Monoid.Unbundled.WithTop
import Mathlib.Order.Lattice.Nat

/-! # The controller's private and published state (controller.h)

Private members keep the trailing underscore of the source. `trace` is the
one ghost component: the code appends to it what an observer of its borders
sees and never reads it. -/
namespace RooWifi

/-- `roo_time::Uptime` in microseconds; `⊤` is `Uptime::Max()`. -/
abbrev Uptime := WithTop Nat

/-- `roo_time::Millis`. -/
def Millis (ms : UInt32) : Nat := 1000 * ms.toNat

namespace Controller

/-- Delays between failed saved-profile attempts. -/
structure RetryOptions where
  delaysMs : List.Vector UInt32 6 := ⟨[500, 1000, 2000, 5000, 10000, 30000], rfl⟩
  jitterPercent : UInt8 := 20
  stableConnectionMs : UInt32 := 60000

/-- The latest failed attempt, kept while another one is in progress. -/
structure RetryState where
  attemptCount : Nat := 0
  pending : Bool := false
  nextAttempt : Uptime := ⊤
  lastStatus : Status := .kOk
  failure : ConnectionFailure := .kNone
  nativeCode : Int := 0
  hasNativeCode : Bool := false
  bssid : MacAddress := zeros 6
  rssiDbm : Int := -128
  channel : UInt8 := 0
  hasRadioInfo : Bool := false
deriving DecidableEq

structure Options where
  maxScanResults : UInt16 := 100
  scanTimeoutMs : UInt32 := 15000
  connectTimeoutMs : UInt32 := 30000
  transitionTimeoutMs : UInt32 := 5000
  retry : RetryOptions := {}

inductive Target where
  | kDisabled | kDisconnected | kConnected
deriving DecidableEq

inductive StationPhase where
  | kDisabled | kEnabling | kIdle | kConnecting | kAwaitingIp | kConnected | kDisconnecting
  | kDisabling | kFaulted
deriving DecidableEq

inductive ScanPhase where
  | kIdle | kQueued | kRunning | kCancelling
deriving DecidableEq

/-- `Controller::State`. The counters are 64-bit in the source and only
compared for equality; a wrap would need 2^64 accepted intents. -/
structure State where
  desired : Target := .kDisabled
  station : StationPhase := .kDisabled
  enabled : Bool := false
  link : LinkState := {}
  desiredProfile : Ssid := {}
  connectedProfile : Ssid := {}
  revision : Nat := 0
  status : Status := .kOk
  nativeCode : Int := 0
  hasNativeCode : Bool := false
  retry : RetryState := {}
  scan : ScanPhase := .kIdle
  scanStatus : Status := .kOk
  scanRevision : Nat := 0
  profilesGeneration : Nat := 0

/-- The published scan; its records alias the first `count` of `records_`. -/
structure ScanSnapshot where
  generation : Nat := 0
  count : Nat := 0
  truncated : Bool := false

inductive Change where
  | kStation | kScan | kProfiles
deriving DecidableEq

/-- `pending_changes_`: one bit for each category. -/
structure Changes where
  station : Bool := false
  scan : Bool := false
  profiles : Bool := false
deriving DecidableEq

/-- `changes & static_cast<uint8_t>(change)`. -/
def Changes.has (s : Changes) : Change → Bool
  | .kStation => s.station
  | .kScan => s.scan
  | .kProfiles => s.profiles

/-- `changes |= static_cast<uint8_t>(change)`. -/
def Changes.raise (s : Changes) : Change → Changes
  | .kStation => { s with station := true }
  | .kScan => { s with scan := true }
  | .kProfiles => { s with profiles := true }

inductive Transition where
  | kNone | kEnable | kConnect | kDisconnect
deriving DecidableEq

/-- The operation kind `onOperationFinished` expects of a station transition. -/
def Transition.kind : Transition → OperationKind
  | .kEnable => .kEnable
  | .kConnect => .kConnect
  | _ => .kDisconnect

/-- The public requests of `Controller`; `connectSaved` is `connect(ssid)`. -/
inductive Call where
  | begin
  | shutdown
  | setEnabled (enabled : Bool)
  | connect (config : ConnectionConfig) (credentials : Credentials)
  | connectSaved (ssid : Ssid)
  | disconnect
  | startScan
  | cancelScan
  | saveProfile (settings : ProfileSettings) (update : CredentialUpdate)
  | removeProfile (ssid : Ssid)
  | addListener (listener : Nat)
  | removeListener (listener : Nat)

/-- What the trace records: commands handed to the interface and store with
the answer they got, completions handed back, faults, failures entered in the
retry state (of the link or connect `id`), accepted intents and requests,
retry timer firings and what the store then answered, finished public calls
and notifications. -/
inductive Action where
  | begin (status : Status)
  | shutdown
  | setEnabled (id : OperationId) (enabled : Bool) (status : Status)
  | connect (id : OperationId) (config : ConnectionConfig) (credentials : Credentials)
      (status : Status)
  | disconnect (id : OperationId) (status : Status)
  | startScan (id : OperationId) (maxResults : UInt16) (status : Status)
  | cancelConnect (status : Status)
  | cancelScan (status : Status)
  | delivered (result : OperationResult)
  | fault (status : Status)
  | failed (id : OperationId)
  | writeEnabled (enabled : Bool) (status : Status)
  | writeLastProfile (ssid : Ssid) (status : Status)
  | saveProfile (settings : ProfileSettings) (credentials : CredentialUpdate) (status : Status)
  | removeProfile (ssid : Ssid) (status : Status)
  | intent (revision : Nat)
  | requested (config : ConnectionConfig) (credentials : Credentials) (profile : Ssid)
      (automatic : Bool)
  | retryFired
  | reloaded (profile : Ssid) (status : Status) (autoConnect : Bool)
  | returned (call : Call) (status : Status)
  | notified (listener : Nat) (change : Change)

end Controller

/-- `Controller`. A singleton task is its one pending execution: a flag for
`scheduleNow`, the due time (`⊤` when cancelled) for `scheduleOn`. -/
structure Controller where
  options_ : Controller.Options := {}
  work_ : Bool := false
  timer_ : Uptime := ⊤
  reconnect_ : Uptime := ⊤
  notify_ : Bool := false
  listeners_ : List Nat := []
  pendingChanges_ : Controller.Changes := {}
  records_ : List ScanRecord := []
  state_ : Controller.State := {}
  snapshot_ : Controller.ScanSnapshot := {}
  config_ : ConnectionConfig := {}
  credentials_ : Credentials := {}
  transition_ : Controller.Transition := .kNone
  nextId_ : OperationId := 1
  stationId_ : OperationId := 0
  scanId_ : OperationId := 0
  activeRevision_ : Nat := 0
  attemptedRevision_ : Nat := 0
  stationDeadline_ : Uptime := (0 : Nat)
  scanDeadline_ : Uptime := (0 : Nat)
  running_ : Bool := false
  closed_ : Bool := false
  initialized_ : Bool := false
  faulted_ : Bool := false
  cancellingConnect_ : Bool := false
  stationTimedOut_ : Bool := false
  scanTimedOut_ : Bool := false
  transitionEnabled_ : Bool := false
  restoreProfile_ : Bool := false
  autoConnect_ : Bool := false
  retryLevel_ : Nat := 0
  jitterState_ : UInt32 := 1
  timeoutFailure_ : ConnectionFailure := .kNone
  stableDeadline_ : Uptime := ⊤
  addressDeadline_ : Uptime := ⊤
  /-- Ghost: what happened at the controller's borders, newest first. -/
  trace : List Controller.Action := []

namespace Controller

/-- What `Interface::readScanResults` answers: `records` is what it wrote to
the start of the caller's buffer, `count` and `truncated` the `ScanRead`. -/
structure ScanReading where
  status : Status := .kOk
  records : List ScanRecord := []
  count : Nat := 0
  truncated : Bool := false

/-- What the borrowed dependencies answer to the calls one step makes. No
step makes the same command twice; `now` and `loadProfile` are indexed by
the call's position in the step, so successive answers may differ. -/
structure Env where
  now : Nat → Nat := fun _ => 0
  interfaceBegin : Status := .kOk
  support : Support := {}
  setEnabled : Status := .kOk
  connect : Status := .kOk
  disconnect : Status := .kOk
  startScan : Status := .kOk
  cancelConnect : Status := .kOk
  cancelScan : Status := .kOk
  readScanResults : ScanReading := {}
  storeBegin : Status := .kOk
  readEnabled : Status × Bool := (.kNotFound, false)
  writeEnabled : Status := .kOk
  readLastProfile : Status × Ssid := (.kNotFound, {})
  writeLastProfile : Status := .kOk
  loadProfile : Nat → Ssid → Status × Profile := fun _ _ => (.kNotFound, {})
  loadCredentials : Ssid → Status × Credentials := fun _ => (.kNotFound, {})
  saveProfile : Status := .kOk
  removeProfile : Status := .kOk

end Controller
end RooWifi
