import RooWifi.Lib.BoundedInsertion
import RooWifi.Controller.State
import RooWifi.OrderedInterface.Code

/-! # `Esp32Station` (hal/esp32/idf_interface.h, hal/esp32/idf_interface.cpp)

Every public call and every event of ESP-IDF is one step, made with the
answers `Idf` of the driver; the calls of ESP-IDF that `scan`, `connect` and
`continueConnect` make outside the lock are part of their step. A step returns
the events it posts to the receiver besides its status. Cipher and PHY
metadata, which no decision reads, is left out. -/
namespace RooWifi

open BoundedInsertion (Slots)
open NativeStation (EventKind)

/-! ## ESP-IDF -/

/-- `wifi_auth_mode_t`: the modes the station knows, and all others. -/
inductive WifiAuthMode where
  | WIFI_AUTH_OPEN | WIFI_AUTH_WEP | WIFI_AUTH_WPA_PSK | WIFI_AUTH_WPA2_PSK
  | WIFI_AUTH_WPA_WPA2_PSK | WIFI_AUTH_WPA2_ENTERPRISE | WIFI_AUTH_WPA3_PSK
  | WIFI_AUTH_WPA2_WPA3_PSK | WIFI_AUTH_WAPI_PSK
  | other (mode : Nat)
deriving DecidableEq

/-- `wifi_ap_record_t` -/
structure WifiApRecord where
  ssid : Octets 33 := zeros 33
  bssid : MacAddress := zeros 6
  primary : UInt8 := 0
  rssi : Int := 0
  authmode : WifiAuthMode := .WIFI_AUTH_OPEN
deriving DecidableEq

/-- `wifi_err_reason_t`: the reasons `ClassifyDisconnect` names, and all others. -/
inductive WifiReason where
  | WIFI_REASON_NO_AP_FOUND | WIFI_REASON_NO_AP_FOUND_IN_RSSI_THRESHOLD
  | WIFI_REASON_AUTH_FAIL | WIFI_REASON_4WAY_HANDSHAKE_TIMEOUT | WIFI_REASON_HANDSHAKE_TIMEOUT
  | WIFI_REASON_GROUP_KEY_UPDATE_TIMEOUT | WIFI_REASON_INVALID_PMKID
  | WIFI_REASON_GROUP_CIPHER_INVALID | WIFI_REASON_PAIRWISE_CIPHER_INVALID
  | WIFI_REASON_AKMP_INVALID | WIFI_REASON_UNSUPP_RSN_IE_VERSION
  | WIFI_REASON_INVALID_RSN_IE_CAP | WIFI_REASON_CIPHER_SUITE_REJECTED
  | WIFI_REASON_NO_AP_FOUND_W_COMPATIBLE_SECURITY
  | WIFI_REASON_NO_AP_FOUND_IN_AUTHMODE_THRESHOLD
  | other
deriving DecidableEq

/-- `wifi_event_sta_connected_t` -/
structure StaConnected where
  ssid : Octets 32 := zeros 32
  ssidLen : UInt8 := 0
  bssid : MacAddress := zeros 6
  channel : UInt8 := 0
  authmode : WifiAuthMode := .WIFI_AUTH_OPEN

/-- `wifi_event_sta_disconnected_t`; `code` is the number of the reason. -/
structure StaDisconnected where
  ssid : Octets 32 := zeros 32
  ssidLen : UInt8 := 0
  bssid : MacAddress := zeros 6
  reason : WifiReason := .other
  code : UInt16 := 0
  rssi : Int := 0

/-- `ip_event_got_ip_t`; `station` says whether it is of the station's netif.
Addresses are native words. -/
structure GotIp where
  station : Bool := true
  ip : UInt32 := 0
  gw : UInt32 := 0

/-- The events `Esp32Station::event` handles, and all others. -/
inductive IdfEvent where
  | WIFI_EVENT_STA_START
  | WIFI_EVENT_STA_STOP
  | WIFI_EVENT_SCAN_DONE (status : UInt32)
  | WIFI_EVENT_STA_CONNECTED (info : StaConnected)
  | WIFI_EVENT_STA_DISCONNECTED (info : StaDisconnected)
  | IP_EVENT_STA_GOT_IP (info : GotIp)
  | IP_EVENT_STA_LOST_IP
  | other

/-- `wifi_mode_t` -/
inductive WifiMode where
  | WIFI_MODE_NULL | WIFI_MODE_STA | other
deriving DecidableEq

/-- What ESP-IDF answers to the calls one step makes. A `Bool` says whether a
call returns `ESP_OK` or another code the caller accepts; an `Option` is
`none` where it does not. `now` is indexed by the reading's position in the
step. -/
structure Idf where
  now : Nat → Nat := fun _ => 0
  /-- Another station is the owner of the process-global radio. -/
  owned : Bool := false
  netifInit : Bool := true
  eventLoop : Bool := true
  defaultNetif : Bool := true
  wifiInit : Bool := true
  setStorage : Bool := true
  registerWifi : Bool := true
  registerIp : Bool := true
  getMode : Option WifiMode := some .WIFI_MODE_NULL
  setMode : Bool := true
  /-- Whether the protocol bitmap is `WIFI_PROTOCOL_LR` alone. -/
  getProtocol : Option Bool := some false
  setProtocol : Bool := true
  start : Bool := true
  stop : Bool := true
  getMac : Option MacAddress := some (zeros 6)
  scanStart : Bool := true
  scanStop : Bool := true
  disconnect : Bool := true
  /-- What `esp_fill_random` writes. -/
  random : MacAddress := zeros 6
  setMac : Bool := true
  netif : Bool := true
  dhcpcStop : Bool := true
  setIpInfo : Bool := true
  setDnsMain : Bool := true
  setDnsBackup : Bool := true
  dhcpcStart : Bool := true
  setConfig : Bool := true
  connect : Bool := true
  scanGetApNum : UInt16 := 0
  /-- The code of `esp_wifi_scan_get_ap_records`, zero for `ESP_OK`. -/
  scanGetApRecords : Int := 0
  /-- The records it can deliver. -/
  aps : List WifiApRecord := []
  staGetApInfo : Option WifiApRecord := none
  getIpInfo : Option UInt32 := none
  getDnsMain : Option UInt32 := none
  getDnsBackup : Option UInt32 := none

namespace Esp32Station

/-! ## Translations -/

/-- `Auth`: the portable equivalent of an ESP authentication mode. -/
def Auth : WifiAuthMode → AuthMode
  | .WIFI_AUTH_OPEN => .kOpen
  | .WIFI_AUTH_WEP => .kWep
  | .WIFI_AUTH_WPA_PSK => .kWpaPersonal
  | .WIFI_AUTH_WPA2_PSK => .kWpa2Personal
  | .WIFI_AUTH_WPA_WPA2_PSK => .kWpaWpa2Personal
  | .WIFI_AUTH_WPA2_ENTERPRISE => .kEnterprise
  | .WIFI_AUTH_WPA3_PSK => .kWpa3Personal
  | .WIFI_AUTH_WPA2_WPA3_PSK => .kWpa2Wpa3Personal
  | .WIFI_AUTH_WAPI_PSK => .kWapiPersonal
  | .other _ => .kUnknown

/-- `ClassifyDisconnect`: retryable failures apart from incompatible APs. -/
def ClassifyDisconnect : WifiReason → ConnectionFailure
  | .WIFI_REASON_NO_AP_FOUND | .WIFI_REASON_NO_AP_FOUND_IN_RSSI_THRESHOLD => .kNetworkNotFound
  | .WIFI_REASON_AUTH_FAIL | .WIFI_REASON_4WAY_HANDSHAKE_TIMEOUT
  | .WIFI_REASON_HANDSHAKE_TIMEOUT | .WIFI_REASON_GROUP_KEY_UPDATE_TIMEOUT
  | .WIFI_REASON_INVALID_PMKID => .kAuthentication
  | .WIFI_REASON_GROUP_CIPHER_INVALID | .WIFI_REASON_PAIRWISE_CIPHER_INVALID
  | .WIFI_REASON_AKMP_INVALID | .WIFI_REASON_UNSUPP_RSN_IE_VERSION
  | .WIFI_REASON_INVALID_RSN_IE_CAP | .WIFI_REASON_CIPHER_SUITE_REJECTED
  | .WIFI_REASON_NO_AP_FOUND_W_COMPATIBLE_SECURITY
  | .WIFI_REASON_NO_AP_FOUND_IN_AUTHMODE_THRESHOLD => .kIncompatibleSecurity
  | .other => .kTransient

/-- The SSID held by the first `size` bytes of `bytes`. -/
def ssidOf (bytes : List UInt8) : Ssid := { bytes := .load 32 bytes, size := bytes.length.toUInt8 }

/-- `Record`: the portable scan record of an access point. -/
def Record (ap : WifiApRecord) : ScanRecord :=
  { ssid := ssidOf ((ap.ssid.toList.take 32).takeWhile (· ≠ 0))
    bssid := ap.bssid
    security := Auth ap.authmode
    rssiDbm := ap.rssi
    channel := ap.primary }

/-- `Address`: a native little-endian word as a portable address. -/
def Address (raw : UInt32) : Ipv4Address :=
  ⟨[raw.toUInt8, (raw >>> 8).toUInt8, (raw >>> 16).toUInt8, (raw >>> 24).toUInt8], rfl⟩

/-- The overload of `Address` the other way. -/
def NativeAddress (ip : Ipv4Address) : UInt32 :=
  match ip.toList with
  | [a, b, c, d] =>
    a.toUInt32 ||| (b.toUInt32 <<< 8) ||| (c.toUInt32 <<< 16) ||| (d.toUInt32 <<< 24)
  | _ => 0

/-- `PrefixMask` -/
def PrefixMask (prefixLength : UInt8) : Ipv4Address :=
  let mask : UInt32 :=
    if prefixLength = 0 then 0 else 0xffffffff <<< (32 - prefixLength.toUInt32)
  ⟨[(mask >>> 24).toUInt8, (mask >>> 16).toUInt8, (mask >>> 8).toUInt8, mask.toUInt8], rfl⟩

/-! ## State -/

/-- `Esp32Station::SelectionOptions` -/
structure SelectionOptions where
  cacheLifetimeMs : UInt32 := 30000
  failureCooldownMs : UInt32 := 30000

/-- `Esp32Station::Candidate` -/
structure Candidate where
  retryAfter : Nat := 0
  bssid : MacAddress := zeros 6
  channel : UInt8 := 0
  rssi : Int := -128
  auth : WifiAuthMode := .WIFI_AUTH_OPEN
  failures : Nat := 0
deriving DecidableEq

/-- What the station programs into the driver. -/
inductive Setting where
  | mac (mac : MacAddress)
  | ipInfo (ip gw netmask : UInt32)
  | dns (backup : Bool) (server : UInt32)
  | sta (ssid password : List UInt8) (bssid : MacAddress) (channel : UInt8)
      (threshold : WifiAuthMode) (pmfRequired : Bool)
  | scanFor (ssid : List UInt8)
deriving DecidableEq

end Esp32Station

/-- `Esp32Station`. `receiver_` says whether one is set, which it is exactly
while this station owns the radio. Times are `roo_time::Uptime` values in
microseconds, all finite; `candidates_` and `candidate_count_` are one value. -/
structure Esp32Station where
  selectionOptions_ : Esp32Station.SelectionOptions := {}
  receiver_ : Bool := false
  selecting_ : Bool := false
  scanActive_ : Bool := false
  scanCancelled_ : Bool := false
  prepared_ : Bool := false
  attemptActive_ : Bool := false
  candidates_ : Slots Esp32Station.Candidate 3 := .fresh 3 {}
  candidatesExpire_ : Nat := 0
  rejectedSecurity_ : ConnectionFailure := .kNone
  selected_ : WifiApRecord := {}
  config_ : ConnectionConfig := {}
  secret_ : Credentials := {}
  records_ : List ScanRecord := []
  capacity_ : UInt16 := 100
  truncated_ : Bool := false
  deviceMac_ : MacAddress := zeros 6
  /-- Ghost: newest first. -/
  trace : List Esp32Station.Setting := []

namespace Esp32Station

/-- What a step returns: its status, the state it leaves and what it posts. -/
abbrev Outcome := Status × Esp32Station × List NativeStation.Event

def record (s : Esp32Station) (setting : Setting) : Esp32Station :=
  { s with trace := setting :: s.trace }

/-! ## Selection -/

/-- Whether a candidate's cooldown has expired. -/
def expired (now : Nat) (c : Candidate) : Bool := ¬ c.retryAfter > now

/-- A selected candidate starts over after its cooldown. -/
def Candidate.renewed (c : Candidate) : Candidate :=
  if c.failures ≥ 2 then { c with failures := 0 } else c

/-- The record `selected_` is set to. -/
def Candidate.record (c : Candidate) : WifiApRecord :=
  { bssid := c.bssid, primary := c.channel, rssi := c.rssi, authmode := c.auth }

/-- `selectCandidate`, which returns false where this is `none`: the first
cached candidate whose cooldown has expired. -/
def selectCandidate (s : Esp32Station) (now : Nat) : Option Esp32Station :=
  match s.candidates_.items.find? (expired now) with
  | none => none
  | some candidate =>
    some { s with
      candidates_ := s.candidates_.modifyFirst (expired now) Candidate.renewed
      selected_ := candidate.record
      prepared_ := true }

/-- Whether a cached candidate passes its penalty on to a record. -/
def relevant (expire now : Nat) (ap : WifiApRecord) (old : Candidate) : Bool :=
  old.bssid = ap.bssid ∧ old.auth = ap.authmode ∧ (now < expire ∨ old.retryAfter > now)

/-- The candidate made of a record, with the penalty cached for it. -/
def candidateOf (cached : List Candidate) (expire now : Nat) (ap : WifiApRecord) : Candidate :=
  let candidate : Candidate :=
    { bssid := ap.bssid, channel := ap.primary, rssi := ap.rssi, auth := ap.authmode }
  match cached.find? (relevant expire now ap) with
  | none => candidate
  | some old => { candidate with failures := old.failures, retryAfter := old.retryAfter }

/-- The order of `rememberCandidates`: eligible APs go before cooling ones, then
stronger reception. -/
def precedes (now : Nat) (candidate other : Candidate) : Bool :=
  let cooling : Bool := candidate.retryAfter > now
  let otherCooling : Bool := other.retryAfter > now
  (!cooling && otherCooling) || (cooling == otherCooling && decide (candidate.rssi > other.rssi))

/-- The records a policy allows, as candidates in the order they were reported. -/
def arrivals (config : ConnectionConfig) (cached : List Candidate) (expire now : Nat)
    (aps : List WifiApRecord) : List Candidate :=
  (aps.filter fun ap => SecurityAllows config.security (Auth ap.authmode)).map
    (candidateOf cached expire now)

/-- `rememberCandidates` -/
def rememberCandidates (s : Esp32Station) (now : Nat) (aps : List WifiApRecord) : Esp32Station :=
  { s with
    candidates_ := BoundedInsertion.insertAll (precedes now)
      (arrivals s.config_ s.candidates_.items s.candidatesExpire_ now aps) (.fresh 3 {})
    candidatesExpire_ := now + Millis s.selectionOptions_.cacheLifetimeMs }

/-- What a failure does to the candidate it is of. -/
def penalised (options : SelectionOptions) (now : Nat) (failure : ConnectionFailure)
    (c : Candidate) : Candidate :=
  let failures := if c.failures < 2 then c.failures + 1 else c.failures
  let failures :=
    if failure = .kNetworkNotFound ∨ failure = .kIncompatibleSecurity then 2 else failures
  { c with
    failures
    retryAfter :=
      if failures ≥ 2 then now + Millis options.failureCooldownMs else c.retryAfter }

/-- `candidateFailed`: deliberate teardown, which ends the attempt, penalises nothing. -/
def candidateFailed (s : Esp32Station) (now : Nat) (failure : ConnectionFailure) : Esp32Station :=
  if !s.attemptActive_ then s
  else
    { s with
      attemptActive_ := false
      candidates_ := s.candidates_.modifyFirst (fun c => c.bssid = s.selected_.bssid)
        (penalised s.selectionOptions_ now failure) }

/-! ## Calls -/

/-- `attach`, from a stopped, mode-null baseline. -/
def attach (s : Esp32Station) (idf : Idf) : Outcome :=
  if s.receiver_ || idf.owned then (.kBusy, s, [])
  else if !idf.netifInit || !idf.eventLoop || !idf.defaultNetif || !idf.wifiInit ||
      !idf.setStorage || !idf.stop || !idf.setMode || !idf.registerWifi || !idf.registerIp then
    (.kConnectionFailed, s, [])
  else (.kOk, { s with receiver_ := true }, [])

/-- `detach` -/
def detach (s : Esp32Station) : Esp32Station :=
  if !s.receiver_ then s
  else
    { s with
      receiver_ := false, selecting_ := false, scanActive_ := false
      candidates_ := s.candidates_.cleared, attemptActive_ := false, secret_ := {} }

/-- The device's own MAC address, read once. -/
def readDeviceMac (s : Esp32Station) (idf : Idf) : Esp32Station :=
  match s.deviceMac_.toList, idf.getMac with
  | 0 :: 0 :: _, some mac => { s with deviceMac_ := mac }
  | _, _ => s

/-- Whether the radio can join ordinary access points: an LR-only protocol
bitmap, which ESP-IDF restores from NVS, is widened. -/
def widened (idf : Idf) : Bool :=
  match idf.getProtocol with
  | none => false
  | some lrOnly => !lrOnly || idf.setProtocol

/-- A radio that is to be off forgets the candidates and the attempt. -/
def enabling (s : Esp32Station) (enabled : Bool) : Esp32Station :=
  if enabled then s else { s with candidates_ := s.candidates_.cleared, attemptActive_ := false }

def enable (s : Esp32Station) (idf : Idf) (enabled : Bool) : Outcome :=
  let s := s.enabling enabled
  match idf.getMode with
  | none => (.kConnectionFailed, s, [])
  | some mode =>
    if (mode = .WIFI_MODE_STA ∧ enabled) ∨ (mode = .WIFI_MODE_NULL ∧ !enabled) then
      (.kOk, s, [{ kind := if enabled then .kEnabled else .kDisabled }])
    else if enabled then
      if !idf.setMode || !widened idf || !idf.start then (.kConnectionFailed, s, [])
      else (.kOk, s.readDeviceMac idf, [])
    else if !idf.stop || !idf.setMode then (.kConnectionFailed, s, [])
    else (.kOk, s, [])

def scan (s : Esp32Station) (idf : Idf) (capacity : UInt16) : Outcome :=
  if s.selecting_ || s.scanActive_ then (.kBusy, s, [])
  else
    let s := { s with capacity_ := capacity, scanCancelled_ := false, scanActive_ := true }
    if !idf.scanStart then (.kConnectionFailed, { s with scanActive_ := false }, [])
    else (.kOk, s, [])

def stopScan (s : Esp32Station) (idf : Idf) : Outcome :=
  (if idf.scanStop then .kOk else .kConnectionFailed, { s with scanCancelled_ := true }, [])

/-- Whether `connect` keeps the cached candidates: they were selected for the
same network, policy and visibility. -/
def sameSelection (a b : ConnectionConfig) : Bool :=
  a.ssid.eq b.ssid && a.security = b.security && a.hidden = b.hidden

/-- What `connect` stores of an attempt. -/
def store (s : Esp32Station) (config : ConnectionConfig) (secret : Credentials) : Esp32Station :=
  { s with
    rejectedSecurity_ := .kNone
    candidates_ :=
      if sameSelection s.config_ config then s.candidates_ else s.candidates_.cleared
    config_ := config
    secret_ := secret }

/-- The selection scan, directed at the SSID. -/
def startSelection (s : Esp32Station) (idf : Idf) : Outcome :=
  let s := { s with selecting_ := true, scanCancelled_ := false }.record
    (.scanFor s.config_.ssid.view)
  if !idf.scanStart then (.kConnectionFailed, { s with selecting_ := false, secret_ := {} }, [])
  else (.kOk, s, [])

def connect (s : Esp32Station) (idf : Idf) (config : ConnectionConfig) (secret : Credentials) :
    Outcome :=
  if s.selecting_ || s.scanActive_ then (.kBusy, s, [])
  -- ESP-IDF's SSID filter is a C string
  else if config.ssid.view.contains 0 then (.kUnsupported, s, [])
  else
    let s := s.store config secret
    match if idf.now 0 < s.candidatesExpire_ then s.selectCandidate (idf.now 1) else none with
    | some s => (.kOk, s, [{ kind := .kPrepared }])
    | none => s.startSelection idf

/-- The threshold programmed for a mode: a mixed one admits its weaker constituent. -/
def threshold (mode : WifiAuthMode) : WifiAuthMode :=
  if mode = .WIFI_AUTH_WPA_WPA2_PSK then .WIFI_AUTH_WPA_PSK
  else if mode = .WIFI_AUTH_WPA2_WPA3_PSK then .WIFI_AUTH_WPA2_PSK
  else mode

/-- The MAC address of an attempt: a randomized one is local and unicast. -/
def attemptMac (s : Esp32Station) (idf : Idf) : MacAddress :=
  if s.config_.macPolicy = .kRandomized then
    match idf.random with
    | ⟨[a, b, c, d, e, f], h⟩ => ⟨[(a &&& 0xfe) ||| 0x02, b, c, d, e, f], h⟩
  else s.deviceMac_

/-- The `esp_netif_set_ip_info` of an attempt: all zero for DHCP. -/
def ipInfo (config : ConnectionConfig) : Setting :=
  if config.ipMode = .kStaticIpv4 then
    .ipInfo (NativeAddress config.staticIpv4.address) (NativeAddress config.staticIpv4.gateway)
      (NativeAddress (PrefixMask config.staticIpv4.prefixLength))
  else .ipInfo 0 0 0

/-- The calls `startSelected` makes before `esp_wifi_set_config`, each with what
it programs and whether it succeeds. DNS is only written for explicitly
configured static servers. -/
def setupCalls (s : Esp32Station) (idf : Idf) : List (Option Setting × Bool) :=
  let config := s.config_
  [(some (.mac (s.attemptMac idf)), idf.setMac), (none, idf.netif), (none, idf.dhcpcStop),
    (some (ipInfo config), idf.setIpInfo)] ++
  (if config.ipMode = .kStaticIpv4 then
    (some (.dns false (NativeAddress config.staticIpv4.dns1)), idf.setDnsMain) ::
      if config.staticIpv4.hasDns2 then
        [(some (.dns true (NativeAddress config.staticIpv4.dns2)), idf.setDnsBackup)]
      else []
  else []) ++
  if config.ipMode = .kDhcp then [(none, idf.dhcpcStart)] else []

/-- Makes calls in order up to the first one that fails. -/
def program (s : Esp32Station) : List (Option Setting × Bool) → Bool × Esp32Station
  | [] => (true, s)
  | (setting, ok) :: calls =>
    let s := match setting with
      | some setting => s.record setting
      | none => s
    if ok then s.program calls else (false, s)

/-- The end of `startSelected`: the station configuration, after which the
secret is dropped, and the attempt. -/
def startAttempt (s : Esp32Station) (idf : Idf) (ap : WifiApRecord) : Outcome :=
  let s := s.record (.sta s.config_.ssid.view s.secret_.view ap.bssid ap.primary
    (threshold ap.authmode) (s.config_.security = .kWpa3Personal))
  let s := { s with secret_ := {} }
  if !idf.setConfig then (.kConnectionFailed, s, [])
  else
    let s := { s with attemptActive_ := true }
    if !idf.connect then (.kConnectionFailed, s.candidateFailed (idf.now 0) .kTransient, [])
    else (.kOk, s, [])

/-- `startSelected`; a failure up to the station configuration keeps the secret. -/
def startSelected (s : Esp32Station) (idf : Idf) (ap : WifiApRecord) : Outcome :=
  let (ok, s) := s.program (s.setupCalls idf)
  if !ok then (.kConnectionFailed, s, []) else s.startAttempt idf ap

def continueConnect (s : Esp32Station) (idf : Idf) : Outcome :=
  if !s.prepared_ then (.kNotFound, s, [])
  else
    let s := { s with prepared_ := false }
    s.startSelected idf s.selected_

def disconnect (s : Esp32Station) (idf : Idf) : Outcome :=
  let s := { s with attemptActive_ := false }
  if s.prepared_ then (.kNotFound, { s with prepared_ := false, secret_ := {} }, [])
  else if s.selecting_ then
    (if idf.scanStop then .kOk else .kConnectionFailed, { s with scanCancelled_ := true }, [])
  else (if idf.disconnect then .kOk else .kConnectionFailed, s, [])

/-- `readScan`: the records copied, and whether there were more. -/
def readScan (s : Esp32Station) (capacity : Nat) : List ScanRecord × Bool :=
  let count := min capacity s.records_.length
  (s.records_.take count, s.truncated_ || decide (count < s.records_.length))

/-! ## Events -/

/-- The end of a selection scan that prepared no candidate. -/
def selectionFailed (s : Esp32Station) (failure : ConnectionFailure) (nativeCode : Int) :
    Esp32Station × List NativeStation.Event :=
  ({ s with secret_ := {}, scanCancelled_ := false },
    [{ kind := .kDisconnected, link := { ssid := s.config_.ssid, failure }
       status := .kConnectionFailed, nativeCode }])

/-- The failure of a completed selection scan that prepared no candidate. -/
def selectionFailure (s : Esp32Station) (aps : List WifiApRecord) : ConnectionFailure :=
  if aps.length = 0 then .kNetworkNotFound
  else if s.candidates_.retained ≠ 0 then .kTransient
  else .kIncompatibleSecurity

/-- `WIFI_EVENT_SCAN_DONE` of a selection scan: `aps` if it completed. -/
def selectionDone (s : Esp32Station) (idf : Idf) (aps : Option (List WifiApRecord))
    (nativeCode : Int) : Esp32Station × List NativeStation.Event :=
  let s := { s with selecting_ := false }
  match aps with
  | none => s.selectionFailed .kTransient nativeCode
  | some aps =>
    if s.scanCancelled_ then s.selectionFailed (s.selectionFailure aps) nativeCode
    else
      let s := s.rememberCandidates (idf.now 0) aps
      match s.selectCandidate (idf.now 1) with
      | some s => (s, [{ kind := .kPrepared }])
      | none => s.selectionFailed (s.selectionFailure aps) nativeCode

/-- `WIFI_EVENT_SCAN_DONE`. At most 100 records are fetched for a selection,
and as many as were asked for otherwise. -/
def scanDone (s : Esp32Station) (idf : Idf) (status : UInt32) :
    Esp32Station × List NativeStation.Event :=
  if !s.selecting_ && !s.scanActive_ then (s, [])
  else
    let count := min idf.scanGetApNum.toNat
      (if s.selecting_ then 100 else max 1 s.capacity_.toNat)
    let fetched := idf.aps.take (max count 1)
    let ok : Bool := status = 0 ∧ idf.scanGetApRecords = 0
    -- the status is a `uint32_t`, the code an `int32_t`
    let nativeCode : Int := if status ≠ 0 then status.toInt32.toInt else idf.scanGetApRecords
    if s.selecting_ then s.selectionDone idf (if ok then some fetched else none) nativeCode
    else
      let records := (fetched.take s.capacity_.toNat).map Record
      let s := if ok ∧ !s.scanCancelled_ then
          { s with records_ := records, truncated_ := idf.scanGetApNum.toNat > records.length }
        else s
      ({ s with scanActive_ := false, scanCancelled_ := false },
        [{ kind := .kScanDone, status := if ok then .kOk else .kConnectionFailed, nativeCode }])

/-- `WIFI_EVENT_STA_CONNECTED`: a mode the policy does not allow is disconnected. -/
def staConnected (s : Esp32Station) (idf : Idf) (info : StaConnected) :
    Esp32Station × List NativeStation.Event :=
  if !SecurityAllows s.config_.security (Auth info.authmode) then
    ({ s with rejectedSecurity_ := .kIncompatibleSecurity }, [])
  else
    let link : LinkState :=
      { ssid := ssidOf (info.ssid.toList.take info.ssidLen.toNat)
        bssid := info.bssid
        security := Auth info.authmode
        channel := info.channel }
    let link := match idf.staGetApInfo with
      | some ap => { link with rssiDbm := ap.rssi, hasRadioInfo := true }
      | none => link
    let link := match idf.getMac with
      | some mac => { link with stationMac := mac, hasStationMac := true }
      | none => link
    (s, [{ kind := .kAssociated, link }])

/-- `WIFI_EVENT_STA_DISCONNECTED` -/
def staDisconnected (s : Esp32Station) (idf : Idf) (info : StaDisconnected) :
    Esp32Station × List NativeStation.Event :=
  let failure :=
    if s.rejectedSecurity_ ≠ .kNone then s.rejectedSecurity_ else ClassifyDisconnect info.reason
  let s := { s with rejectedSecurity_ := .kNone }.candidateFailed (idf.now 0) failure
  let rssiDbm := if info.rssi < 0 ∧ info.rssi > -128 then info.rssi else s.selected_.rssi
  (s,
    [{ kind := .kDisconnected
       link :=
         { ssid := ssidOf (info.ssid.toList.take info.ssidLen.toNat)
           bssid := if info.bssid = zeros 6 then s.selected_.bssid else info.bssid
           failure
           channel := s.selected_.primary
           rssiDbm
           hasRadioInfo := rssiDbm < 0 ∧ rssiDbm > -128 }
       status := .kConnectionFailed
       nativeCode := info.code.toNat }])

/-- Whether `IP_EVENT_STA_GOT_IP` is of the selected access point and its
address is the current one. -/
def validAddress (s : Esp32Station) (idf : Idf) (info : GotIp) : Option WifiApRecord :=
  match idf.staGetApInfo, idf.getIpInfo with
  | some ap, some ip =>
    if !info.station ∨ ip = 0 ∨ ip = 0xffffffff ∨ ip ≠ info.ip ∨ ap.bssid ≠ s.selected_.bssid then
      none
    else some ap
  | _, _ => none

/-- What a validated address does to a candidate. -/
def forgiven (bssid : MacAddress) (c : Candidate) : Candidate :=
  if c.bssid = bssid then { c with failures := 0, retryAfter := 0 } else c

/-- A nonzero DNS server. -/
def dnsServer (server : Option UInt32) : Option Ipv4Address :=
  match server with
  | some raw => if raw = 0 then none else some (Address raw)
  | none => none

/-- `IP_EVENT_STA_GOT_IP`: a validated address ends the attempt and clears the
penalties of its access point. -/
def gotIp (s : Esp32Station) (idf : Idf) (info : GotIp) :
    Esp32Station × List NativeStation.Event :=
  match s.validAddress idf info with
  | none => (s, [])
  | some ap =>
    let dns1 := dnsServer idf.getDnsMain
    let dns2 := dnsServer idf.getDnsBackup
    ({ s with
        attemptActive_ := false, candidates_ := s.candidates_.mapItems (forgiven ap.bssid) },
      [{ kind := .kAddressReady
         link :=
           { ssid := (Record ap).ssid
             bssid := ap.bssid
             address := Address info.ip
             gateway := Address info.gw
             hasIpv4 := true
             dns1 := dns1.getD (zeros 4)
             hasDns1 := dns1.isSome
             dns2 := dns2.getD (zeros 4)
             hasDns2 := dns2.isSome } }])

/-- `IP_EVENT_STA_LOST_IP`, ignored while the station has an address. -/
def lostIp (idf : Idf) : List NativeStation.Event :=
  match idf.netif, idf.getIpInfo with
  | true, some ip => if ip ≠ 0 then [] else [{ kind := .kAddressLost }]
  | _, _ => [{ kind := .kAddressLost }]

/-- `Esp32Station::event` -/
def event (s : Esp32Station) (idf : Idf) (e : IdfEvent) :
    Esp32Station × List NativeStation.Event :=
  if !s.receiver_ then (s, [])
  else
    match e with
    | .WIFI_EVENT_STA_START => (s, [{ kind := .kEnabled }])
    | .WIFI_EVENT_STA_STOP => (s, [{ kind := .kDisabled }])
    | .WIFI_EVENT_SCAN_DONE status => s.scanDone idf status
    | .WIFI_EVENT_STA_CONNECTED info => s.staConnected idf info
    | .WIFI_EVENT_STA_DISCONNECTED info => s.staDisconnected idf info
    | .IP_EVENT_STA_GOT_IP info => s.gotIp idf info
    | .IP_EVENT_STA_LOST_IP => (s, lostIp idf)
    | .other => (s, [])

/-! ## Steps -/

/-- What can happen to a station. -/
inductive Action where
  | attach
  | detach
  | enable (enabled : Bool)
  | scan (maxResults : UInt16)
  | stopScan
  | connect (config : ConnectionConfig) (credentials : Credentials)
  | continueConnect
  | disconnect
  | event (e : IdfEvent)

structure Input where
  action : Action
  idf : Idf := {}

/-- One step, with what it returns and posts. -/
def perform (s : Esp32Station) (input : Input) : Outcome :=
  match input.action with
  | .attach => s.attach input.idf
  | .detach => (.kOk, s.detach, [])
  | .enable enabled => s.enable input.idf enabled
  | .scan maxResults => s.scan input.idf maxResults
  | .stopScan => s.stopScan input.idf
  | .connect config credentials => s.connect input.idf config credentials
  | .continueConnect => s.continueConnect input.idf
  | .disconnect => s.disconnect input.idf
  | .event e => (.kOk, s.event input.idf e)

/-- The state a step leaves. -/
def step (s : Esp32Station) (input : Input) : Esp32Station := (s.perform input).2.1

end Esp32Station

end RooWifi
