import RooWifi.Controller.State

/-! # The controller's functions (controller.cpp)

Every function maps the controller before the call to the one after it.
`env` holds the answers of the interface, the store and the clock. A function
with early returns is cut where the source goes on, under a name of its own. -/
namespace RooWifi

/-- `SameConfig`: the meaningful fields, without padding and unused DNS. -/
def SameConfig (a b : ConnectionConfig) : Bool :=
  a.ssid.size == b.ssid.size && a.ssid.view == b.ssid.view &&
    a.security == b.security && a.hidden == b.hidden && a.ipMode == b.ipMode &&
    a.macPolicy == b.macPolicy &&
    (a.ipMode != .kStaticIpv4 ||
      (a.staticIpv4.address == b.staticIpv4.address &&
        a.staticIpv4.gateway == b.staticIpv4.gateway &&
        a.staticIpv4.dns1 == b.staticIpv4.dns1 &&
        a.staticIpv4.prefixLength == b.staticIpv4.prefixLength &&
        a.staticIpv4.hasDns2 == b.staticIpv4.hasDns2 &&
        (!a.staticIpv4.hasDns2 || a.staticIpv4.dns2 == b.staticIpv4.dns2)))

/-- The credential part of the no-op test in `requestConnection`. -/
def SameCredentials (a b : Credentials) : Bool :=
  a.encoding == b.encoding && a.size == b.size && a.view == b.view

namespace Controller

/-- Ghost: appends to the trace. -/
def record (a : Action) (c : Controller) : Controller := { c with trace := a :: c.trace }

/-- The constructor: `seed` is the uptime mixed with the object's address. -/
def init (options : Options) (seed : UInt32) : Controller where
  options_ := options
  records_ := List.replicate options.maxScanResults.toNat {}
  jitterState_ := if seed = 0 then 1 else seed

def isScanning (c : Controller) : Bool := c.state_.scan ≠ .kIdle

/-- `state()`: a snapshot whose station phase is derived from private state. -/
def state (c : Controller) : State :=
  if !c.running_ then c.state_
  else
    { c.state_ with
      station :=
        if c.faulted_ then .kFaulted
        else if c.transition_ = .kEnable then
          if c.transitionEnabled_ then .kEnabling else .kDisabling
        else if c.transition_ = .kDisconnect ∨ c.cancellingConnect_ then .kDisconnecting
        else if !c.state_.enabled then .kDisabled
        else if c.state_.link.phase = .kAddressReady then .kConnected
        else if c.state_.link.phase = .kAssociated then .kAwaitingIp
        else if c.transition_ = .kConnect then .kConnecting
        else .kIdle }

def admission (c : Controller) : Status :=
  if !c.running_ || c.faulted_ then .kNotStarted
  else if c.nextId_ = OperationId.max then .kBusy
  else .kOk

def changed (change : Change) (c : Controller) : Controller :=
  if !c.running_ then c
  else { c with pendingChanges_ := c.pendingChanges_.raise change, notify_ := true }

def cancelRetry (c : Controller) : Controller :=
  { c with reconnect_ := ⊤, state_.retry.pending := false, state_.retry.nextAttempt := ⊤ }

/-- Arms the earliest active native deadline. -/
def scheduleTimeouts (c : Controller) : Controller :=
  let deadline := min c.stableDeadline_ c.addressDeadline_
  let deadline := if c.stationId_ ≠ 0 ∧ c.stationDeadline_ < deadline then c.stationDeadline_
    else deadline
  let deadline := if c.scanId_ ≠ 0 ∧ c.scanDeadline_ < deadline then c.scanDeadline_
    else deadline
  { c with timer_ := deadline }

/-- Replaces intent, cancels any retry timer and schedules reconciliation. -/
def newIntent (c : Controller) : Controller :=
  let c : Controller := { c with
    state_.revision := c.state_.revision + 1
    state_.status := .kOk
    state_.nativeCode := 0
    state_.hasNativeCode := false }
  let c := c.cancelRetry
  let c : Controller := { c with
    state_.retry := {}
    retryLevel_ := 0
    stableDeadline_ := ⊤
    addressDeadline_ := ⊤ }
  let c := c.changed .kStation
  { c with work_ := true }.record (.intent c.state_.revision)

/-- Closes native admission when physical state cannot safely be reconciled. -/
def fault (status : Status) (c : Controller) : Controller :=
  let c : Controller := { c with faulted_ := true, state_.status := status }.record (.fault status)
  let c : Controller := if c.isScanning then
      { c with state_.scanStatus := status, state_.scan := .kIdle }.changed .kScan
    else c
  let c : Controller := { c with
    scanId_ := 0
    stationId_ := 0
    transition_ := .kNone
    credentials_ := {}
    timer_ := ⊤ }
  let c := c.cancelRetry
  let c : Controller := { c with stableDeadline_ := ⊤, addressDeadline_ := ⊤ }
  c.changed .kStation

/-! ## Retries -/

/-- The xorshift step of the jitter generator. -/
def nextJitter (x : UInt32) : UInt32 :=
  let x := x ^^^ (x <<< 13)
  let x := x ^^^ (x >>> 17)
  x ^^^ (x <<< 5)

/-- `retryDelay`: 64-bit arithmetic is unsigned until the final cast. -/
def retryDelay (c : Controller) : UInt32 × Controller :=
  let failure := c.state_.retry.failure
  let level := if failure = .kIncompatibleSecurity ∨
      (failure = .kAuthentication ∧ c.retryLevel_ ≥ 2) then 5 else c.retryLevel_
  let base : UInt32 := max 1 (c.options_.retry.delaysMs.toList.getD level 0)
  let spread : UInt32 :=
    (base.toUInt64 * (min 50 c.options_.retry.jitterPercent).toUInt64 / 100).toUInt32
  let jitter := nextJitter c.jitterState_
  let delay : UInt64 :=
    base.toUInt64 - spread.toUInt64 + jitter.toUInt64 % (2 * spread.toUInt64 + 1)
  let clamped : Int := min (2 ^ 32 - 1) (max 1 delay.toBitVec.toInt)
  (UInt32.ofNat clamped.toNat, { c with jitterState_ := jitter })

/-- Retains a failure and schedules a retry when policy and intent allow it. -/
def connectionFailed (now : Nat) (status : Status) (failure : ConnectionFailure)
    (code : Int) (hasCode : Bool) (c : Controller) : Controller :=
  let c : Controller := { c with
    state_.status := status
    state_.nativeCode := code
    state_.hasNativeCode := hasCode
    state_.retry := { c.state_.retry with
      lastStatus := status
      failure := if failure = .kNone then .kTransient else failure
      nativeCode := code
      hasNativeCode := hasCode
      bssid := c.state_.link.bssid
      channel := c.state_.link.channel
      rssiDbm := c.state_.link.rssiDbm
      hasRadioInfo := c.state_.link.hasRadioInfo }
    stableDeadline_ := ⊤
    addressDeadline_ := ⊤ }
  if c.autoConnect_ ∧ c.state_.desired = .kConnected ∧
      (status = .kConnectionFailed ∨ status = .kTimeout) then
    let (delay, c) := c.retryDelay
    let next : Uptime := (now + Millis delay : Nat)
    { c with
      state_.retry.pending := true
      state_.retry.nextAttempt := next
      retryLevel_ := if c.retryLevel_ < 5 then c.retryLevel_ + 1 else c.retryLevel_
      reconnect_ := next }
  else c

/-- `loadProfile`; `nth` tells the store calls of one step apart. -/
def loadProfile (env : Env) (nth : Nat) (ssid : Ssid) (c : Controller) : Status × Profile :=
  if !c.running_ then (.kNotStarted, {})
  else if ssid.size = 0 ∨ ssid.size > 32 then (.kInvalidArgument, {})
  else env.loadProfile nth ssid

/-- Retries the accepted snapshot after checking the current retry policy. -/
def retry (env : Env) (c : Controller) : Controller :=
  let c := c.cancelRetry.record .retryFired
  if !c.running_ || c.faulted_ || c.state_.desired ≠ .kConnected || !c.autoConnect_ then c
  else
  let (status, profile) := c.loadProfile env 0 c.state_.desiredProfile
  let c := c.record (.reloaded c.state_.desiredProfile status profile.settings.autoConnect)
  if status ≠ .kOk ∨ !profile.settings.autoConnect then
    let c : Controller := { c with autoConnect_ := false }
    let c : Controller := if status ≠ .kOk then { c with state_.status := status } else c
    c.changed .kStation
  else
    let c : Controller := { c with
      attemptedRevision_ := 0
      state_.status := .kOk
      state_.nativeCode := 0
      state_.hasNativeCode := false }
    { c.changed .kStation with work_ := true }

/-! ## Public requests -/

def setEnabled (enabled : Bool) (c : Controller) : Status × Controller :=
  if c.admission ≠ .kOk then (c.admission, c)
  else if enabled = decide (c.state_.desired ≠ .kDisabled) ∧ c.state_.status = .kOk then
    (.kOk, c)
  else
    (.kOk, { c with
      state_.desired := if enabled then .kDisconnected else .kDisabled
      state_.desiredProfile := {}
      credentials_ := {}
      autoConnect_ := false
      restoreProfile_ := enabled }.newIntent)

/-- Validates and replaces connection intent with an owned input snapshot. -/
def requestConnection (env : Env) (config : ConnectionConfig) (credentials : Credentials)
    (profile : Ssid) (automatic : Bool) (c : Controller) : Status × Controller :=
  if c.admission ≠ .kOk then (c.admission, c)
  else if c.state_.desired = .kDisabled then (.kDisabled, c)
  else if Validate config credentials ≠ .kOk then (Validate config credentials, c)
  else if ValidateSupport config env.support ≠ .kOk then
    (ValidateSupport config env.support, c)
  else
    let request : Action := .requested config credentials profile automatic
    if c.state_.desired = .kConnected ∧ c.state_.status = .kOk ∧
        c.state_.desiredProfile.eq profile ∧ SameConfig c.config_ config ∧
        SameCredentials c.credentials_ credentials then
      (.kOk, { c with autoConnect_ := automatic }.record request)
    else
      (.kOk, { c with
        config_ := config
        credentials_ := credentials
        state_.desired := .kConnected
        state_.desiredProfile := profile
        autoConnect_ := automatic
        restoreProfile_ := false }.newIntent.record request)

def connect (env : Env) (config : ConnectionConfig) (credentials : Credentials)
    (c : Controller) : Status × Controller :=
  c.requestConnection env config credentials {} false

/-- `connect(const Ssid&)`. -/
def connectSaved (env : Env) (nth : Nat) (ssid : Ssid) (c : Controller) : Status × Controller :=
  match c.loadProfile env nth ssid with
  | (.kOk, profile) =>
    match env.loadCredentials ssid with
    | (.kOk, credentials) =>
      c.requestConnection env profile.settings.connection credentials ssid
        profile.settings.autoConnect
    | (status, _) => (status, c)
  | (status, _) => (status, c)

def disconnect (c : Controller) : Status × Controller :=
  if c.admission ≠ .kOk then (c.admission, c)
  else
    let c : Controller := { c with restoreProfile_ := false, autoConnect_ := false }
    if c.state_.desired ≠ .kConnected ∧ c.state_.status = .kOk then (.kOk, c)
    else
      let c : Controller :=
        if c.state_.desired ≠ .kDisabled then { c with state_.desired := .kDisconnected }
        else c
      (.kOk, { c with state_.desiredProfile := {}, credentials_ := {} }.newIntent)

def startScan (env : Env) (c : Controller) : Status × Controller :=
  if c.admission ≠ .kOk then (c.admission, c)
  else if c.state_.desired = .kDisabled ∨ !c.state_.enabled then (.kDisabled, c)
  else if c.isScanning ∨ c.transition_ ≠ .kNone ∨
      c.attemptedRevision_ ≠ c.state_.revision ∨
      (c.state_.link.phase ≠ .kIdle ∧ !env.support.scanWhileConnected) then (.kBusy, c)
  else
    let c : Controller := { c with
      state_.scan := .kQueued
      state_.scanStatus := .kOk
      state_.scanRevision := c.state_.scanRevision + 1
      scanTimedOut_ := false }
    (.kOk, { c.changed .kScan with work_ := true })

/-- `cancelScan`; `now` is the clock at its only reading. -/
def cancelScan (env : Env) (now : Nat) (c : Controller) : Status × Controller :=
  if !c.running_ then (.kNotStarted, c)
  else if c.state_.scan = .kIdle ∨ c.state_.scan = .kCancelling then (.kOk, c)
  else if c.state_.scan = .kQueued then
    let c : Controller := { c with state_.scan := .kIdle, state_.scanStatus := .kCancelled }
    (.kOk, { c.changed .kScan with work_ := true }.scheduleTimeouts)
  else
    let c := c.record (.cancelScan env.cancelScan)
    if env.cancelScan ≠ .kOk then (env.cancelScan, c)
    else
      let c : Controller := { c with
        state_.scan := .kCancelling
        scanDeadline_ := (now + Millis c.options_.transitionTimeoutMs : Nat) }
      (.kOk, { c.changed .kScan with work_ := true }.scheduleTimeouts)

def saveProfile (env : Env) (settings : ProfileSettings) (credentials : CredentialUpdate)
    (c : Controller) : Status × Controller :=
  let ssid := settings.connection.ssid
  if !c.running_ then (.kNotStarted, c)
  else if ssid.size = 0 ∨ ssid.size > 32 then (.kInvalidArgument, c)
  else
    let c := c.record (.saveProfile settings credentials env.saveProfile)
    let c : Controller := { c with state_.profilesGeneration := c.state_.profilesGeneration + 1 }
    (env.saveProfile, c.changed .kProfiles)

def removeProfile (env : Env) (ssid : Ssid) (c : Controller) : Status × Controller :=
  if !c.running_ then (.kNotStarted, c)
  else if ssid.size = 0 ∨ ssid.size > 32 then (.kInvalidArgument, c)
  else
    let c := c.record (.removeProfile ssid env.removeProfile)
    let c : Controller := { c with state_.profilesGeneration := c.state_.profilesGeneration + 1 }
    (env.removeProfile, c.changed .kProfiles)

/-- The body of `restoreProfile` once the last SSID was read with `status`. -/
def restoreLast (env : Env) (status : Status) (ssid : Ssid) (c : Controller) :
    Status × Controller :=
  let (status, profile) := if status = .kOk ∧ ssid.size ≠ 0 then c.loadProfile env 0 ssid
    else (status, {})
  if status = .kOk ∧ ssid.size ≠ 0 ∧ profile.settings.autoConnect then c.connectSaved env 1 ssid
  else (status, c)

/-- Restores the last successful profile only when auto-connect is enabled. -/
def restoreProfile (env : Env) (c : Controller) : Controller :=
  let c : Controller := { c with restoreProfile_ := false }
  let (status, ssid) := env.readLastProfile
  if status = .kNotFound then c
  else
    let (status, c) := c.restoreLast env status ssid
    if status ≠ .kOk then { c with state_.status := status }.changed .kStation else c

def begin (env : Env) (c : Controller) : Status × Controller :=
  if c.closed_ then (.kNotStarted, c)
  else if c.running_ then (.kBusy, c)
  else if env.storeBegin ≠ .kOk then (env.storeBegin, c)
  else if env.readEnabled.1 ≠ .kOk ∧ env.readEnabled.1 ≠ .kNotFound then
    (env.readEnabled.1, c)
  else
  let c := c.record (.begin env.interfaceBegin)
  if env.interfaceBegin ≠ .kOk then (env.interfaceBegin, c)
  else
    -- the output stays false unless the read succeeded
    let enabled := if env.readEnabled.1 = .kOk then env.readEnabled.2 else false
    let c : Controller := { c with
      running_ := true
      state_.desired := if enabled then .kDisconnected else .kDisabled
      restoreProfile_ := enabled }
    (.kOk, (c.changed .kProfiles).newIntent)

def shutdown (c : Controller) : Controller :=
  if c.closed_ then c
  else
  let c := if c.running_ then c.record .shutdown else c
  { c with
    closed_ := true
    work_ := false
    timer_ := ⊤
    reconnect_ := ⊤
    notify_ := false
    pendingChanges_ := {}
    running_ := false
    credentials_ := {}
    snapshot_ := {}
    state_ := {}
    stationId_ := 0
    scanId_ := 0
    transition_ := .kNone }

/-! ## Interface callbacks -/

/-- The buffer after a callee wrote `written` to its start. -/
def overwrite (buffer written : List ScanRecord) : List ScanRecord :=
  (written ++ buffer.drop written.length).take buffer.length

/-- The scan branch of `onOperationFinished`. -/
def scanFinished (env : Env) (result : OperationResult) (c : Controller) : Controller :=
  let status := if c.scanTimedOut_ then .kTimeout else result.status
  let status := if c.state_.scan = .kCancelling ∧ !c.scanTimedOut_ then .kCancelled else status
  let read := env.readScanResults
  let (status, c) := if status = .kOk then
      let c : Controller := { c with records_ := overwrite c.records_ read.records }
      let status := if read.status = .kOk ∧ read.count > c.records_.length then
          .kCorrupt
        else read.status
      if status = .kOk then
        (status, { c with snapshot_ :=
          { generation := c.snapshot_.generation + 1, count := read.count,
            truncated := read.truncated } })
      else (status, c)
    else (status, c)
  let c : Controller := { c with scanId_ := 0, state_.scan := .kIdle, state_.scanStatus := status }
  { c.changed .kScan with work_ := true }.scheduleTimeouts

/-- The success block of the station branch: the profile of a connection that
came up is remembered and persisted. -/
def rememberProfile (env : Env) (completed : Transition) (status : Status) (c : Controller) :
    Status × Controller :=
  if completed = .kConnect ∧ status = .kOk then
    let c : Controller := { c with state_.connectedProfile := c.state_.desiredProfile }
    if c.state_.desiredProfile.size ≠ 0 then
      (env.writeLastProfile,
        c.record (.writeLastProfile c.state_.desiredProfile env.writeLastProfile))
    else (status, c)
  else (status, c)

/-- The station branch for a transition of current intent, with its outcome. -/
def conclude (env : Env) (result : OperationResult) (completed : Transition) (status : Status)
    (c : Controller) : Controller :=
  let c : Controller := { c with
    state_.status := status
    state_.nativeCode := result.nativeCode
    state_.hasNativeCode := result.hasNativeCode }
  let c : Controller := if completed = .kConnect ∨ status ≠ .kOk then
      { c with attemptedRevision_ := c.state_.revision }
    else c
  if completed = .kConnect ∧ status ≠ .kOk ∧ status ≠ .kCancelled then
    (c.record (.failed result.id)).connectionFailed (env.now 4) status
      (if c.stationTimedOut_ then c.timeoutFailure_ else result.failure)
      result.nativeCode result.hasNativeCode
  else c

/-- The station branch of `onOperationFinished`. -/
def stationFinished (env : Env) (result : OperationResult) (c : Controller) : Controller :=
  let completed := c.transition_
  let superseded := c.activeRevision_ ≠ c.state_.revision
  let status := if c.stationTimedOut_ then .kTimeout else result.status
  let c : Controller := { c with stationId_ := 0, transition_ := .kNone, cancellingConnect_ := false }
  let (status, c) := if completed = .kEnable ∧ status = .kOk then
      (env.writeEnabled,
        { c with initialized_ := true }.record (.writeEnabled c.state_.enabled env.writeEnabled))
    else (status, c)
  let c : Controller := if superseded then c
    else
      let (status, c) := c.rememberProfile env completed status
      c.conclude env result completed status
  { c.changed .kStation with work_ := true }.scheduleTimeouts

/-- Retires one native transition and schedules reconciliation. -/
def onOperationFinished (env : Env) (result : OperationResult) (c : Controller) : Controller :=
  if !c.running_ || c.faulted_ || result.id = 0 then c
  else if result.id = c.scanId_ ∧ result.kind = .kScan then c.scanFinished env result
  else if result.id ≠ c.stationId_ then c
  else if result.kind ≠ c.transition_.kind then c
  else c.stationFinished env result

def onEnabledChanged (enabled : Bool) (c : Controller) : Controller :=
  if !c.running_ || c.faulted_ then c
  else { c with state_.enabled := enabled }.changed .kStation

/-- The address block of `onLinkChanged`. -/
def observeAddress (now : Nat) (previous : LinkPhase) (link : LinkState) (c : Controller) :
    Controller :=
  if link.phase = .kAddressReady then
    let c : Controller := { c with addressDeadline_ := ⊤ }
    let c : Controller := if previous ≠ .kAddressReady then
        { c with stableDeadline_ := (now + Millis c.options_.retry.stableConnectionMs : Nat) }
      else c
    -- DHCP can recover while waiting to retry; keep that recovered link
    if c.transition_ = .kNone ∧ (c.state_.retry.pending ∨
        (previous ≠ .kAddressReady ∧ c.state_.retry.failure = .kAddressTimeout)) then
      let c := c.cancelRetry
      { c with
        attemptedRevision_ := c.state_.revision
        state_.status := .kOk
        state_.hasNativeCode := false
        state_.nativeCode := 0 }
    else c
  else
    let c : Controller := { c with stableDeadline_ := ⊤ }
    if previous = .kAddressReady ∧ link.phase = .kAssociated ∧ c.transition_ = .kNone then
      { c with addressDeadline_ := (now + Millis c.options_.connectTimeoutMs : Nat) }
    else c

/-- The loss block of `onLinkChanged`. -/
def observeLoss (now : Nat) (previous : LinkPhase) (link : LinkState) (c : Controller) :
    Controller :=
  if link.phase = .kIdle then
    let c : Controller := { c with addressDeadline_ := ⊤, state_.connectedProfile := {} }
    if c.transition_ = .kNone ∧ previous ≠ .kIdle ∧ c.state_.desired = .kConnected then
      (c.record (.failed link.connectionId)).connectionFailed now
        (if link.reason = .kOk then .kConnectionFailed else link.reason)
        link.failure link.nativeCode link.hasNativeCode
    else c
  else c

/-- Accepts observed link updates with a current native identity. -/
def onLinkChanged (env : Env) (link : LinkState) (c : Controller) : Controller :=
  if !c.running_ || c.faulted_ then c
  else if link.connectionId ≠ c.state_.link.connectionId ∧
      !(c.transition_ = .kConnect ∧ link.connectionId = c.stationId_) then c
  else
    let previous := c.state_.link.phase
    let c : Controller := { c with state_.link := link }
    let c := c.observeAddress (env.now 0) previous link
    let c := c.observeLoss (env.now 1) previous link
    (c.changed .kStation).scheduleTimeouts

/-! ## Scheduled work -/

/-- The first block of `execute`: cancels a superseded connect. -/
def supersede (env : Env) (c : Controller) : Controller :=
  if c.transition_ = .kConnect ∧ c.activeRevision_ ≠ c.state_.revision ∧
      !c.cancellingConnect_ then
    let c := c.record (.cancelConnect env.cancelConnect)
    if env.cancelConnect ≠ .kOk then c.fault env.cancelConnect
    else
      { c with
        cancellingConnect_ := true
        stationDeadline_ := (env.now 0 + Millis c.options_.transitionTimeoutMs : Nat)
        }.changed .kStation
  else c

/-- The last block of `execute`: starts a queued scan. -/
def executeScan (env : Env) (c : Controller) : Controller :=
  let c : Controller := if c.transition_ = .kNone ∧ c.state_.scan = .kQueued then
      let c : Controller := { c with
        scanId_ := c.nextId_
        nextId_ := (c.nextId_ + 1) % 2 ^ 64
        state_.scan := .kRunning
        scanDeadline_ := (env.now 3 + Millis c.options_.scanTimeoutMs : Nat) }
      let c := c.record (.startScan c.scanId_ c.options_.maxScanResults env.startScan)
      let c := c.changed .kScan
      if env.startScan ≠ .kOk then
        c.onOperationFinished env { id := c.scanId_, kind := .kScan, status := env.startScan }
      else c
    else c
  c.scheduleTimeouts

/-- The interface call for the chosen station transition. -/
def submitStation (env : Env) (c : Controller) : Status × Controller :=
  match c.transition_ with
  | .kEnable => (env.setEnabled,
      c.record (.setEnabled c.stationId_ c.transitionEnabled_ env.setEnabled))
  | .kConnect => (env.connect,
      c.record (.connect c.stationId_ c.config_ c.credentials_ env.connect))
  | _ => (env.disconnect, c.record (.disconnect c.stationId_ env.disconnect))

/-- Hands the chosen station transition to the interface. -/
def issueStation (env : Env) (c : Controller) : Controller :=
  let c : Controller := { c with
    stationId_ := c.nextId_
    nextId_ := (c.nextId_ + 1) % 2 ^ 64
    stationDeadline_ := (env.now 2 + Millis (if c.transition_ = .kConnect then
      c.options_.connectTimeoutMs else c.options_.transitionTimeoutMs) : Nat) }
  let (status, c) := c.submitStation env
  let c := c.changed .kStation
  if status ≠ .kOk then
    c.onOperationFinished env { id := c.stationId_, kind := c.transition_.kind, status }
  else c

/-- `execute` from the choice of the next station transition on. -/
def executeStation (env : Env) (needsStation : Bool) (c : Controller) : Controller :=
  if needsStation ∧ !c.state_.retry.pending then
    let c : Controller := { c with activeRevision_ := c.state_.revision, stationTimedOut_ := false }
    if c.state_.link.phase ≠ .kIdle then
      let c : Controller := { c with transition_ := .kDisconnect }
      (c.issueStation env).executeScan env
    else if !c.initialized_ ∨ c.state_.enabled ≠ decide (c.state_.desired ≠ .kDisabled) then
      let c : Controller := { c with
        transition_ := .kEnable
        transitionEnabled_ := decide (c.state_.desired ≠ .kDisabled) }
      (c.issueStation env).executeScan env
    else if c.restoreProfile_ then { c.restoreProfile env with work_ := true }
    else if c.state_.desired = .kConnected then
      let c : Controller := { c with
        transition_ := .kConnect
        state_.retry.attemptCount :=
          if c.state_.retry.attemptCount ≠ 2 ^ 32 - 1 then c.state_.retry.attemptCount + 1
          else c.state_.retry.attemptCount }
      (c.issueStation env).executeScan env
    else
      ({ c with attemptedRevision_ := c.state_.revision }.changed .kStation).executeScan env
  else c.executeScan env

/-- `execute` while no station transition is outstanding: a scan gives way to
station work. -/
def executeIdle (env : Env) (c : Controller) : Controller :=
  let needsStation := !c.initialized_ || decide (c.attemptedRevision_ ≠ c.state_.revision)
  if needsStation ∧ c.isScanning then
    let (status, c) := c.cancelScan env (env.now 1)
    let c : Controller := if status ≠ .kOk then c.fault status else c
    if c.isScanning || c.faulted_ then c else c.executeStation env needsStation
  else c.executeStation env needsStation

/-- Advances native work toward current intent, never overlapping teardown. -/
def execute (env : Env) (c : Controller) : Controller :=
  if !c.running_ || c.faulted_ then c
  else if c.nextId_ = OperationId.max then c.fault .kBusy
  else
    let c := c.supersede env
    if c.faulted_ then c
    else if c.transition_ ≠ .kNone then c.scheduleTimeouts
    else c.executeIdle env

/-- The stable-connection and address deadlines of `checkTimeouts`. -/
def checkLinkDeadlines (env : Env) (c : Controller) : Controller :=
  let now : Uptime := (env.now 0 : Nat)
  let c : Controller := if now ≥ c.stableDeadline_ then
      { c with stableDeadline_ := ⊤, state_.retry := {}, retryLevel_ := 0 }.changed .kStation
    else c
  if now ≥ c.addressDeadline_ then
    let c := { c with addressDeadline_ := ⊤ }.record (.failed c.state_.link.connectionId)
    (c.connectionFailed (env.now 1) .kTimeout .kAddressTimeout 0 false).changed .kStation
  else c

/-- The station deadline of `checkTimeouts`. -/
def checkStationDeadline (env : Env) (c : Controller) : Controller :=
  if c.stationId_ ≠ 0 ∧ ((env.now 0 : Nat) : Uptime) ≥ c.stationDeadline_ then
    if c.transition_ ≠ .kConnect ∨ c.cancellingConnect_ then c.fault .kTimeout
    else
      let c : Controller := { c with
        stationTimedOut_ := true
        timeoutFailure_ := if c.state_.link.phase = .kAssociated then .kAddressTimeout
          else .kConnectionTimeout }
      let c := c.record (.cancelConnect env.cancelConnect)
      if env.cancelConnect ≠ .kOk then c.fault .kTimeout
      else
        { c with
          cancellingConnect_ := true
          stationDeadline_ := (env.now 2 + Millis c.options_.transitionTimeoutMs : Nat)
          }.changed .kStation
  else c

/-- The scan deadline of `checkTimeouts`. -/
def checkScanDeadline (env : Env) (c : Controller) : Controller :=
  if c.scanId_ ≠ 0 ∧ ((env.now 3 : Nat) : Uptime) ≥ c.scanDeadline_ then
    if c.state_.scan = .kCancelling then c.fault .kTimeout
    else
      let (status, c) := { c with scanTimedOut_ := true }.cancelScan env (env.now 4)
      if status ≠ .kOk then c.fault .kTimeout else c
  else c

/-- Cancels timed-out work or faults an unsettled native transition. -/
def checkTimeouts (env : Env) (c : Controller) : Controller :=
  if !c.running_ || c.faulted_ then c
  else
    let c := c.checkLinkDeadlines env
    let c := c.checkStationDeadline env
    if c.faulted_ then c
    else
      let c := c.checkScanDeadline env
      if c.faulted_ then c else c.scheduleTimeouts

/-! ## Listeners -/

def addListener (listener : Nat) (c : Controller) : Controller :=
  if listener ∈ c.listeners_ then c else { c with listeners_ := c.listeners_ ++ [listener] }

def removeListener (listener : Nat) (c : Controller) : Controller :=
  { c with listeners_ := c.listeners_.filter (· ≠ listener) }

/-- One public call. -/
def perform (env : Env) (call : Call) (c : Controller) : Status × Controller :=
  match call with
  | .begin => c.begin env
  | .shutdown => (.kOk, c.shutdown)
  | .setEnabled enabled => c.setEnabled enabled
  | .connect config credentials => c.connect env config credentials
  | .connectSaved ssid => c.connectSaved env 0 ssid
  | .disconnect => c.disconnect
  | .startScan => c.startScan env
  | .cancelScan => c.cancelScan env (env.now 0)
  | .saveProfile settings update => c.saveProfile env settings update
  | .removeProfile ssid => c.removeProfile env ssid
  | .addListener listener => (.kOk, c.addListener listener)
  | .removeListener listener => (.kOk, c.removeListener listener)

/-- One public call, recorded with the status it returned. -/
def request (env : Env) (call : Call) (c : Controller) : Controller :=
  let (status, c) := c.perform env call
  c.record (.returned call status)

/-- The calls a listener makes from inside one of its callbacks. -/
abbrev Reaction := Nat → Change → List (Call × Env)

/-- One listener callback: the listener may submit requests from inside it. -/
def notifyOne (react : Reaction) (listener : Nat) (change : Change) (c : Controller) :
    Controller :=
  (react listener change).foldl (fun c r => c.request r.2 r.1)
    (c.record (.notified listener change))

/-- Delivers the pending invalidation; stops as soon as a callback shuts the
controller down. -/
def notifyListeners (react : Reaction) (c : Controller) : Controller :=
  let changes := c.pendingChanges_
  let c : Controller := { c with pendingChanges_ := {} }
  c.listeners_.foldl (fun c listener =>
    [Change.kStation, .kScan, .kProfiles].foldl (fun c change =>
      if c.running_ ∧ changes.has change then c.notifyOne react listener change else c) c) c

end Controller
end RooWifi
