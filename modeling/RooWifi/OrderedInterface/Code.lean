import RooWifi.Configuration

/-! # `OrderedInterface` (hal/ordered_interface.h, hal/ordered_interface.cpp)

The adapter runs on the scheduler's context: its public calls and the drain of
its event queue never overlap, while native events may be posted at any time,
also between two iterations of the drain's loop. `pump` is one iteration. -/
namespace RooWifi

/-! ## Native events -/

namespace NativeStation

inductive EventKind where
  | kEnabled | kDisabled | kAssociated | kAddressReady | kAddressLost | kDisconnected
  | kScanDone | kPrepared
deriving DecidableEq

/-- A native station event. -/
structure Event where
  kind : EventKind
  link : LinkState := {}
  status : Status := .kOk
  nativeCode : Int := 0
deriving DecidableEq

/-- What the native station answers to the commands one step makes. -/
structure Answers where
  attach : Status := .kOk
  enable : Status := .kOk
  scan : Status := .kOk
  stopScan : Status := .kOk
  connect : Status := .kOk
  continueConnect : Status := .kOk
  disconnect : Status := .kOk
  support : Support := {}

end NativeStation

open NativeStation (EventKind Event Answers)

namespace OrderedInterface

/-- Association metadata, excluding addresses. -/
structure Association where
  stationMac : MacAddress := zeros 6
  security : AuthMode := .kUnknown
  rssiDbm : Int := 0
  channel : UInt8 := 0
  hasRadioInfo : Bool := false
  hasStationMac : Bool := false

structure Addresses where
  address : Ipv4Address := zeros 4
  gateway : Ipv4Address := zeros 4
  dns1 : Ipv4Address := zeros 4
  dns2 : Ipv4Address := zeros 4
  hasIpv4 : Bool := false
  hasDns1 : Bool := false
  hasDns2 : Bool := false

/-- A queue slot. The source's two payloads share storage; each kind of event
only ever uses one of them. -/
structure QueuedEvent where
  nativeCode : Int := 0
  failure : ConnectionFailure := .kNone
  kind : EventKind := .kEnabled
  status : Status := .kOk
  ssid : Ssid := {}
  bssid : MacAddress := zeros 6
  association : Association := {}
  addresses : Addresses := {}

/-- `QueuedEvent(event)`: only the payload the event's kind needs. -/
def QueuedEvent.of (event : Event) : QueuedEvent :=
  let q : QueuedEvent :=
    { nativeCode := event.nativeCode, failure := event.link.failure, kind := event.kind
      status := event.status }
  let q := match event.kind with
    | .kAssociated | .kAddressReady | .kDisconnected =>
      { q with ssid := event.link.ssid, bssid := event.link.bssid }
    | _ => q
  match event.kind with
  | .kAssociated | .kDisconnected =>
    { q with
      association :=
        { stationMac := event.link.stationMac, security := event.link.security
          rssiDbm := event.link.rssiDbm, channel := event.link.channel
          hasRadioInfo := event.link.hasRadioInfo, hasStationMac := event.link.hasStationMac } }
  | .kAddressReady =>
    { q with
      addresses :=
        { address := event.link.address, gateway := event.link.gateway
          dns1 := event.link.dns1, dns2 := event.link.dns2, hasIpv4 := event.link.hasIpv4
          hasDns1 := event.link.hasDns1, hasDns2 := event.link.hasDns2 } }
  | _ => q

/-- `QueuedEvent::expand` -/
def QueuedEvent.expand (q : QueuedEvent) : Event :=
  let link : LinkState := { failure := q.failure }
  let link := match q.kind with
    | .kAssociated | .kAddressReady | .kDisconnected => { link with ssid := q.ssid, bssid := q.bssid }
    | _ => link
  let link := match q.kind with
    | .kAssociated | .kDisconnected =>
      { link with
        stationMac := q.association.stationMac, security := q.association.security
        rssiDbm := q.association.rssiDbm, channel := q.association.channel
        hasRadioInfo := q.association.hasRadioInfo
        hasStationMac := q.association.hasStationMac }
    | .kAddressReady =>
      { link with
        address := q.addresses.address, gateway := q.addresses.gateway
        dns1 := q.addresses.dns1, dns2 := q.addresses.dns2, hasIpv4 := q.addresses.hasIpv4
        hasDns1 := q.addresses.hasDns1, hasDns2 := q.addresses.hasDns2 }
    | _ => link
  { kind := q.kind, link, status := q.status, nativeCode := q.nativeCode }

/-- What the trace records: admitted connects, native connects and
continuations with their answers, processed disconnects, overflows, and what
the sink is told. -/
inductive Happening where
  | admitted (id : OperationId)
  | nativeConnect (id : OperationId) (status : Status)
  | nativeContinue (id : OperationId) (status : Status)
  | disconnected (event : Event)
  | overflow
  | finished (result : OperationResult)
  | linkChanged (link : LinkState)
  | enabledChanged (enabled : Bool)
deriving DecidableEq

end OrderedInterface

/-- `OrderedInterface`. `sink_` and `scheduled_` say whether a sink is attached
and whether the dispatch task is scheduled; `draining` is the one control
point, set while the drain's loop has not been left. -/
structure OrderedInterface where
  sink_ : Bool := false
  scheduled_ : Bool := false
  draining : Bool := false
  queue_ : List OrderedInterface.QueuedEvent := []
  overflow_ : Bool := false
  attached_ : Bool := false
  faulted_ : Bool := false
  enabled_ : Bool := false
  cancelling_ : Bool := false
  scanCancelling_ : Bool := false
  waitingDisconnect_ : Bool := false
  desiredEnabled_ : Bool := false
  station_ : OperationResult := {}
  scan_ : OperationResult := {}
  link_ : LinkState := {}
  config_ : ConnectionConfig := {}
  credentials_ : Credentials := {}
  /-- Ghost: newest first. -/
  trace : List OrderedInterface.Happening := []

namespace OrderedInterface

def record (o : OrderedInterface) (h : Happening) : OrderedInterface :=
  { o with trace := h :: o.trace }

/-- `queue_.size()` -/
def capacity : Nat := 16

/-- `OrderedInterface::post`: a full queue overflows instead of dropping. -/
def post (o : OrderedInterface) (event : Event) : OrderedInterface :=
  let o := if o.queue_.length = capacity then { o with overflow_ := true }
    else { o with queue_ := o.queue_ ++ [.of event] }
  { o with scheduled_ := true }

def linkChanged (o : OrderedInterface) (link : LinkState) : OrderedInterface :=
  { o with link_ := link }.record (.linkChanged link)

/-! ## Commands -/

def begin (o : OrderedInterface) (native : Answers) : Status × OrderedInterface :=
  if o.attached_ then (.kBusy, o)
  else
    let o := { o with
      sink_ := true, scheduled_ := false, faulted_ := false, overflow_ := false, queue_ := [] }
    if native.attach ≠ .kOk then (native.attach, { o with sink_ := false })
    else (.kOk, { o with attached_ := true })

def stationAdmission (o : OrderedInterface) (id : OperationId) : Status :=
  if !o.sink_ || o.faulted_ then .kNotStarted
  else if id = 0 then .kInvalidArgument
  else if o.station_.id ≠ 0 ∨ o.scan_.id ≠ 0 then .kBusy
  else .kOk

def setEnabled (o : OrderedInterface) (native : Answers) (id : OperationId) (enabled : Bool) :
    Status × OrderedInterface :=
  let status := o.stationAdmission id
  if status ≠ .kOk then (status, o)
  else
    let o := { o with station_ := { id, kind := .kEnable }, desiredEnabled_ := enabled }
    if native.enable ≠ .kOk then (native.enable, { o with station_ := {} })
    else (.kOk, o)

def startScan (o : OrderedInterface) (native : Answers) (id : OperationId) :
    Status × OrderedInterface :=
  let status := o.stationAdmission id
  if status ≠ .kOk then (status, o)
  else if !o.enabled_ then (.kDisabled, o)
  else if o.link_.phase ≠ .kIdle ∧ !native.support.scanWhileConnected then (.kBusy, o)
  else if native.scan ≠ .kOk then (native.scan, { o with scan_ := {} })
  else (.kOk, { o with scan_ := { id, kind := .kScan } })

def connect (o : OrderedInterface) (native : Answers) (id : OperationId)
    (config : ConnectionConfig) (secret : Credentials) : Status × OrderedInterface :=
  let status := o.stationAdmission id
  if status ≠ .kOk then (status, o)
  else if !o.enabled_ then (.kDisabled, o)
  else if Validate config secret ≠ .kOk then (Validate config secret, o)
  else if ValidateSupport config native.support ≠ .kOk then
    (ValidateSupport config native.support, o)
  else
    let o := { o with
      station_ := { id, kind := .kConnect }, config_ := config, credentials_ := secret }
    if o.link_.phase ≠ .kIdle then
      let o := { o with waitingDisconnect_ := true }
      if native.disconnect = .kNotFound then
        (.kOk, (o.post { kind := .kDisconnected, link := o.link_ }).record (.admitted id))
      else if native.disconnect ≠ .kOk then
        (native.disconnect,
          { o with station_ := {}, waitingDisconnect_ := false, credentials_ := {} })
      else (.kOk, o.record (.admitted id))
    -- commands and sink delivery are deferred even for immediate native failure
    else (.kOk, { o with scheduled_ := true }.record (.admitted id))

def disconnect (o : OrderedInterface) (native : Answers) (id : OperationId) :
    Status × OrderedInterface :=
  let status := o.stationAdmission id
  if status ≠ .kOk then (status, o)
  else
    let o := { o with station_ := { id, kind := .kDisconnect }, waitingDisconnect_ := true }
    let status := if o.link_.phase = .kIdle then .kNotFound else native.disconnect
    if status = .kNotFound then (.kOk, o.post { kind := .kDisconnected, link := o.link_ })
    else if status ≠ .kOk then (status, { o with station_ := {}, waitingDisconnect_ := false })
    else (.kOk, o)

def cancelScan (o : OrderedInterface) (native : Answers) : Status × OrderedInterface :=
  if o.scan_.id = 0 ∨ o.scanCancelling_ then (.kOk, o)
  else if native.stopScan ≠ .kOk then (native.stopScan, o)
  else (.kOk, { o with scanCancelling_ := true })

def cancelConnect (o : OrderedInterface) (native : Answers) : Status × OrderedInterface :=
  if o.station_.id = 0 ∨ o.station_.kind ≠ .kConnect then (.kNotFound, o)
  else if o.cancelling_ then (.kOk, o)
  else if !o.waitingDisconnect_ ∧ o.link_.phase ≠ .kIdle then
    if native.disconnect = .kNotFound then
      (.kOk, { o.post { kind := .kDisconnected, link := o.link_ } with
        waitingDisconnect_ := true, cancelling_ := true, scheduled_ := true })
    else if native.disconnect ≠ .kOk then (native.disconnect, o)
    else
      (.kOk, { o with waitingDisconnect_ := true, cancelling_ := true, scheduled_ := true })
  else (.kOk, { o with cancelling_ := true, scheduled_ := true })

def shutdown (o : OrderedInterface) : OrderedInterface :=
  { o with
    attached_ := false, scheduled_ := false, sink_ := false, station_ := {}, scan_ := {}
    credentials_ := {}, link_ := {}, queue_ := [] }

/-! ## Processing -/

def finishStation (o : OrderedInterface) (error : Status) (code : Int := 0)
    (failure : ConnectionFailure := .kNone) : OrderedInterface :=
  if o.station_.id = 0 then o
  else
    let result : OperationResult :=
      { o.station_ with
        status := if o.cancelling_ then .kCancelled else error
        failure := if o.cancelling_ then .kNone else failure
        nativeCode := code
        hasNativeCode := code ≠ 0 }
    { o with
      station_ := {}, cancelling_ := false, waitingDisconnect_ := false
      credentials_ := {} }.record (.finished result)

def finishScan (o : OrderedInterface) (error : Status) (code : Int := 0) : OrderedInterface :=
  if o.scan_.id = 0 then o
  else
    let result : OperationResult :=
      { o.scan_ with
        status := if o.scanCancelling_ then .kCancelled else error
        nativeCode := code
        hasNativeCode := code ≠ 0 }
    { o with scan_ := {}, scanCancelling_ := false }.record (.finished result)

def startConnection (o : OrderedInterface) (native : Answers) : OrderedInterface :=
  let o := o.linkChanged
    { connectionId := o.station_.id, ssid := o.config_.ssid, security := o.config_.security
      phase := .kConnecting }
  let o := { o with credentials_ := {} }.record (.nativeConnect o.station_.id native.connect)
  if native.connect ≠ .kOk then
    (o.linkChanged { o.link_ with phase := .kIdle, reason := native.connect }).finishStation
      native.connect
  else o

/-- Whether an event names a network other than this one. -/
def differs (event : Ssid) (link : Ssid) : Bool :=
  !(event.size == link.size && event.view == link.view)

def processEnabled (o : OrderedInterface) (event : Event) : OrderedInterface :=
  let enabled : Bool := event.kind = .kEnabled
  let o := { o with enabled_ := enabled }.record (.enabledChanged enabled)
  let o := if !enabled ∧ o.link_.phase ≠ .kIdle then
      o.linkChanged { o.link_ with phase := .kIdle, hasIpv4 := false }
    else o
  if o.station_.id ≠ 0 ∧ o.station_.kind = .kEnable ∧ enabled = o.desiredEnabled_ then
    o.finishStation event.status event.nativeCode
  else o

def processPrepared (o : OrderedInterface) (native : Answers) : OrderedInterface :=
  if o.station_.id ≠ 0 ∧ o.station_.kind = .kConnect ∧ !o.waitingDisconnect_ ∧ !o.cancelling_ then
    let o := o.record (.nativeContinue o.station_.id native.continueConnect)
    if native.continueConnect ≠ .kOk then
      (o.linkChanged
        { o.link_ with phase := .kIdle, reason := native.continueConnect }).finishStation
        native.continueConnect
    else o
  else o

def processAssociated (o : OrderedInterface) (event : Event) : OrderedInterface :=
  if o.link_.phase ≠ .kConnecting ∨ differs event.link.ssid o.link_.ssid then o
  else
    o.linkChanged
      { event.link with connectionId := o.link_.connectionId, phase := .kAssociated }

def processAddressReady (o : OrderedInterface) (event : Event) : OrderedInterface :=
  if event.link.ssid.size ≠ 0 ∧
      (differs event.link.ssid o.link_.ssid ∨ event.link.bssid ≠ o.link_.bssid) then o
  else if (o.link_.phase ≠ .kAssociated ∧ o.link_.phase ≠ .kAddressReady) ∨
      o.waitingDisconnect_ ∨ o.cancelling_ then o
  else
    let link := { o.link_ with
      address := event.link.address, gateway := event.link.gateway, dns1 := event.link.dns1
      dns2 := event.link.dns2, hasIpv4 := event.link.hasIpv4, hasDns1 := event.link.hasDns1
      hasDns2 := event.link.hasDns2 }
    if !link.hasIpv4 then { o with link_ := link }
    else
      let o := o.linkChanged { link with phase := .kAddressReady }
      if o.station_.kind = .kConnect ∧ o.station_.id = o.link_.connectionId then
        o.finishStation .kOk
      else o

def processAddressLost (o : OrderedInterface) : OrderedInterface :=
  if o.link_.phase = .kAddressReady then
    o.linkChanged { o.link_ with phase := .kAssociated, hasIpv4 := false }
  else o

/-- The link state a disconnect leaves. -/
def disconnectedLink (link : LinkState) (event : Event) : LinkState :=
  let link := { link with
    phase := .kIdle, hasIpv4 := false
    reason := if event.status = .kOk then .kConnectionFailed else event.status
    failure := event.link.failure, nativeCode := event.nativeCode
    hasNativeCode := event.nativeCode ≠ 0 }
  if event.link.hasRadioInfo then
    { link with
      bssid := event.link.bssid, channel := event.link.channel, rssiDbm := event.link.rssiDbm
      hasRadioInfo := true }
  else link

/-- The `kDisconnected` case. Only the SSID of `link_` tells whose disconnect
it is, and until `startConnection` that is still the previous network's. -/
def processDisconnected (o : OrderedInterface) (event : Event) : OrderedInterface :=
  if event.link.ssid.size ≠ 0 ∧ differs event.link.ssid o.link_.ssid then o
  else
    let o := (o.linkChanged (disconnectedLink o.link_ event)).record (.disconnected event)
    if o.station_.id = 0 then o
    else if o.waitingDisconnect_ ∧ o.station_.kind = .kConnect ∧ !o.cancelling_ then
      { o with waitingDisconnect_ := false }
    else if o.station_.kind ≠ .kEnable then
      o.finishStation (if o.station_.kind = .kDisconnect then .kOk else o.link_.reason)
        event.nativeCode event.link.failure
    else o

def process (o : OrderedInterface) (native : Answers) (event : Event) : OrderedInterface :=
  if o.faulted_ then o
  else
    match event.kind with
    | .kEnabled | .kDisabled => o.processEnabled event
    | .kPrepared => o.processPrepared native
    | .kScanDone => o.finishScan event.status event.nativeCode
    | .kAssociated => o.processAssociated event
    | .kAddressReady => o.processAddressReady event
    | .kAddressLost => o.processAddressLost
    | .kDisconnected => o.processDisconnected event

/-- The end of `drain`, once the queue is empty. -/
def drained (o : OrderedInterface) (native : Answers) : OrderedInterface :=
  if o.station_.id ≠ 0 ∧ o.station_.kind = .kConnect ∧ !o.waitingDisconnect_ ∧
      o.link_.phase = .kIdle then
    if o.cancelling_ then o.finishStation .kCancelled else o.startConnection native
  else o

/-- The dispatch task starts `drain`. -/
def drain (o : OrderedInterface) : OrderedInterface :=
  if !o.scheduled_ then o
  else { o with scheduled_ := false, draining := o.sink_ }

/-- One iteration of `drain`'s loop, or what follows the last one. -/
def pump (o : OrderedInterface) (native : Answers) : OrderedInterface :=
  if !o.draining then o
  else if o.overflow_ then
    let o := { o with queue_ := [], faulted_ := true, draining := false }.record .overflow
    (o.finishStation .kConnectionFailed).finishScan .kConnectionFailed
  else
    match o.queue_ with
    | [] => { o with draining := false }.drained native
    | q :: queue => { o with queue_ := queue }.process native q.expand

/-! ## Steps -/

/-- What the environment can do next: post an event, call a command, or let
the dispatch task run. -/
inductive Event where
  | post (event : NativeStation.Event)
  | begin
  | setEnabled (id : OperationId) (enabled : Bool)
  | startScan (id : OperationId)
  | connect (id : OperationId) (config : ConnectionConfig) (credentials : Credentials)
  | disconnect (id : OperationId)
  | cancelScan
  | cancelConnect
  | shutdown
  | drain
  | pump

structure Input where
  event : OrderedInterface.Event
  native : Answers := {}

/-- Events arrive from an attached station only; commands never overlap a drain. -/
def step (o : OrderedInterface) (input : Input) : OrderedInterface :=
  match input.event with
  | .post event => if o.attached_ then o.post event else o
  | .pump => o.pump input.native
  | command =>
    if o.draining then o
    else
      match command with
      | .begin => (o.begin input.native).2
      | .setEnabled id enabled => (o.setEnabled input.native id enabled).2
      | .startScan id => (o.startScan input.native id).2
      | .connect id config credentials => (o.connect input.native id config credentials).2
      | .disconnect id => (o.disconnect input.native id).2
      | .cancelScan => (o.cancelScan input.native).2
      | .cancelConnect => (o.cancelConnect input.native).2
      | .shutdown => o.shutdown
      | .drain => o.drain
      | _ => o

end OrderedInterface

end RooWifi
