import RooWifi.Controller.Run

/-! # What the controller is for, as an abstract machine

`Core` keeps the intent, the observed radio, the outstanding operations and the
trace, and drops notification, records, clocks and native codes. `Move` is
everything one indivisible action of the controller can do to it. Each claim
about runs is proved on moves; the refinement shows that a scheduler step of
the code is a path of them. -/
namespace RooWifi.Controller

/-- The part of the controller that decides which commands it issues. -/
structure Core where
  /-- The work task is between its dispatch and its return. -/
  dispatching : Bool := false
  work : Bool := false
  running : Bool := false
  closed : Bool := false
  faulted : Bool := false
  initialized : Bool := false
  desired : Target := .kDisabled
  profile : Ssid := {}
  config : ConnectionConfig := {}
  credentials : Credentials := {}
  restore : Bool := false
  auto : Bool := false
  enabled : Bool := false
  phase : LinkPhase := .kIdle
  linkId : Nat := 0
  revision : Nat := 0
  attempted : Nat := 0
  active : Nat := 0
  transition : Transition := .kNone
  transitionEnabled : Bool := false
  stationId : Nat := 0
  scanId : Nat := 0
  nextId : Nat := 1
  scan : ScanPhase := .kIdle
  cancelling : Bool := false
  timedOut : Bool := false
  status : Status := .kOk
  retry : RetryState := {}
  retryLevel : Nat := 0
  addressDeadline : Uptime := ⊤
  trace : List Action := []

/-- The abstraction of a controller, inside (`d`) or outside its work task. -/
def core (d : Bool) (c : Controller) : Core where
  dispatching := d
  work := c.work_
  running := c.running_
  closed := c.closed_
  faulted := c.faulted_
  initialized := c.initialized_
  desired := c.state_.desired
  profile := c.state_.desiredProfile
  config := c.config_
  credentials := c.credentials_
  restore := c.restoreProfile_
  auto := c.autoConnect_
  enabled := c.state_.enabled
  phase := c.state_.link.phase
  linkId := c.state_.link.connectionId
  revision := c.state_.revision
  attempted := c.attemptedRevision_
  active := c.activeRevision_
  transition := c.transition_
  transitionEnabled := c.transitionEnabled_
  stationId := c.stationId_
  scanId := c.scanId_
  nextId := c.nextId_
  scan := c.state_.scan
  cancelling := c.cancellingConnect_
  timedOut := c.stationTimedOut_
  status := c.state_.status
  retry := c.state_.retry
  retryLevel := c.retryLevel_
  addressDeadline := c.addressDeadline_
  trace := c.trace

namespace Core

/-! ## Operations on the abstract state -/

def note (a : Action) (c : Core) : Core := { c with trace := a :: c.trace }

/-- Schedules the work task. -/
def wake (c : Core) : Core := { c with work := true }

def newIntent (c : Core) : Core :=
  { c with
    revision := c.revision + 1
    status := .kOk
    retry := {}
    retryLevel := 0
    addressDeadline := ⊤
    work := true
    trace := .intent (c.revision + 1) :: c.trace }

def cancelRetry (c : Core) : Core :=
  { c with retry := { c.retry with pending := false, nextAttempt := ⊤ } }

def fault (status : Status) (c : Core) : Core :=
  { c with
    faulted := true
    status := status
    scan := .kIdle
    scanId := 0
    stationId := 0
    transition := .kNone
    credentials := {}
    retry := { c.retry with pending := false, nextAttempt := ⊤ }
    addressDeadline := ⊤
    trace := .fault status :: c.trace }

def shutdown (c : Core) : Core :=
  { c with
    closed := true
    work := false
    running := false
    credentials := {}
    desired := .kDisabled
    profile := {}
    enabled := false
    phase := .kIdle
    linkId := 0
    revision := 0
    status := .kOk
    retry := {}
    scan := .kIdle
    stationId := 0
    scanId := 0
    transition := .kNone
    trace := if c.running then .shutdown :: c.trace else c.trace }

/-- Records a failure: `r` and `level` are the retry state it leaves. -/
def failed (status : Status) (r : RetryState) (level : Nat) (c : Core) : Core :=
  { c with status := status, retry := r, retryLevel := level, addressDeadline := ⊤ }

/-- Frees the station after its transition. -/
def retired (c : Core) : Core :=
  { c with stationId := 0, transition := .kNone, cancelling := false, work := true }

/-- The completion of a station transition for current intent. -/
def concluded (status : Status) (c : Core) : Core :=
  { c with status := status, attempted := if status = .kOk then c.attempted else c.revision }

/-- Frees the scan after its completion. -/
def scanRetired (c : Core) : Core := { c with scanId := 0, scan := .kIdle, work := true }

/-- Replaces connection intent. -/
def accept (config : ConnectionConfig) (credentials : Credentials) (profile : Ssid)
    (automatic : Bool) (c : Core) : Core :=
  { c with
    config := config
    credentials := credentials
    desired := .kConnected
    profile := profile
    auto := automatic
    restore := false }.newIntent.note (.requested config credentials profile automatic)

/-- The command a station transition hands to the interface. -/
def command (t : Transition) (status : Status) (c : Core) : Action :=
  match t with
  | .kEnable => .setEnabled c.nextId (decide (c.desired ≠ .kDisabled)) status
  | .kConnect => .connect c.nextId c.config c.credentials status
  | _ => .disconnect c.nextId status

/-- The attempt count after another station transition was chosen. -/
def counted (t : Transition) (r : RetryState) : RetryState :=
  if t = .kConnect then
    { r with attemptCount :=
      if r.attemptCount ≠ 2 ^ 32 - 1 then r.attemptCount + 1 else r.attemptCount }
  else r

def issued (t : Transition) (status : Status) (c : Core) : Core :=
  { c with
    active := c.revision
    timedOut := false
    transition := t
    transitionEnabled := if t = .kEnable then decide (c.desired ≠ .kDisabled)
      else c.transitionEnabled
    retry := counted t c.retry
    stationId := c.nextId
    nextId := (c.nextId + 1) % 2 ^ 64
    trace := c.command t status :: c.trace }

/-- The state after an observed link update, before its consequences. -/
def heard (link : LinkState) (c : Core) : Core :=
  { c with phase := link.phase, linkId := link.connectionId }

/-- Arms, moves or cancels the address deadline. -/
def address (deadline : Uptime) (c : Core) : Core := { c with addressDeadline := deadline }

/-- A recovered link counts as the attempt for current intent. -/
def recovered (c : Core) : Core :=
  { c.cancelRetry with addressDeadline := ⊤, attempted := c.revision, status := .kOk }

/-! ## Guards -/

/-- `admission()` is kOk. -/
structure Admits (c : Core) : Prop where
  running : c.running = true
  faulted : c.faulted = false
  hasId : c.nextId ≠ 2 ^ 64 - 1

/-- The commands `execute` may issue: which transition is due. -/
structure Due (t : Transition) (c : Core) : Prop extends Admits c where
  free : c.transition = .kNone
  noScan : c.scan = .kIdle
  noRetry : c.retry.pending = false
  needed : c.initialized = false ∨ c.attempted ≠ c.revision
  chosen : match t with
    | .kNone => False
    | .kDisconnect => c.phase ≠ .kIdle
    | .kEnable => c.phase = .kIdle ∧
        (c.initialized = false ∨ c.enabled ≠ decide (c.desired ≠ .kDisabled))
    | .kConnect => c.phase = .kIdle ∧ c.initialized = true ∧
        c.enabled = decide (c.desired ≠ .kDisabled) ∧ c.restore = false ∧
        c.desired = .kConnected

/-- Current intent was attempted, but no enable has succeeded yet: the station
still counts as needed. -/
def Again (c : Core) : Prop := c.initialized = false ∧ c.attempted = c.revision

/-- The interface's completion of the outstanding station transition. -/
structure Completes (r : OperationResult) (c : Core) : Prop where
  running : c.running = true
  faulted : c.faulted = false
  nonzero : r.id ≠ 0
  id : r.id = c.stationId
  kind : r.kind = c.transition.kind

/-- The interface's completion of the outstanding scan. -/
structure CompletesScan (r : OperationResult) (c : Core) : Prop where
  running : c.running = true
  faulted : c.faulted = false
  nonzero : r.id ≠ 0
  id : r.id = c.scanId
  kind : r.kind = .kScan

/-- A link update with a current native identity. -/
structure Hears (link : LinkState) (c : Core) : Prop where
  running : c.running = true
  faulted : c.faulted = false
  current : link.connectionId = c.linkId ∨
    (c.transition = .kConnect ∧ link.connectionId = c.stationId)

instance (r : OperationResult) (c : Core) : Decidable (c.Completes r) :=
  decidable_of_iff (c.running = true ∧ c.faulted = false ∧ r.id ≠ 0 ∧ r.id = c.stationId ∧
      r.kind = c.transition.kind)
    ⟨fun ⟨h, s, n, i, k⟩ => ⟨h, s, n, i, k⟩, fun ⟨h, s, n, i, k⟩ => ⟨h, s, n, i, k⟩⟩

instance (link : LinkState) (c : Core) : Decidable (c.Hears link) :=
  decidable_of_iff (c.running = true ∧ c.faulted = false ∧ (link.connectionId = c.linkId ∨
      (c.transition = .kConnect ∧ link.connectionId = c.stationId)))
    ⟨fun ⟨h, s, i⟩ => ⟨h, s, i⟩, fun ⟨h, s, i⟩ => ⟨h, s, i⟩⟩

instance (c : Core) : Decidable c.Again := inferInstanceAs (Decidable (_ ∧ _))

/-- A timed-out transition has timed out whatever the interface says later. -/
def outcome (r : OperationResult) (c : Core) : Status :=
  if c.timedOut then .kTimeout else r.status

/-- What `connectionFailed` may leave behind: a retry becomes pending only for
automatic connection intent and a retryable reason. -/
structure Failure (status : Status) (r : RetryState) (c : Core) : Prop where
  notOk : status ≠ .kOk
  pending : r.pending = true → c.retry.pending = true ∨
    (c.auto = true ∧ c.desired = .kConnected ∧
      (status = .kConnectionFailed ∨ status = .kTimeout))

/-- A link that came back while a retry waits, or after an address timeout. -/
def Recovers (link : LinkState) (c : Core) : Prop :=
  link.phase = .kAddressReady ∧ c.transition = .kNone ∧
    (c.retry.pending = true ∨
      (c.phase ≠ .kAddressReady ∧ c.retry.failure = .kAddressTimeout))

/-- A link lost while connection intent stands and no transition is running. -/
def Loses (link : LinkState) (c : Core) : Prop :=
  link.phase = .kIdle ∧ c.transition = .kNone ∧ c.phase ≠ .kIdle ∧ c.desired = .kConnected

instance (link : LinkState) (c : Core) : Decidable (c.Loses link) :=
  inferInstanceAs (Decidable (_ ∧ _))

/-- What the work task leaves behind: the intent was attempted, or something
will dispatch the task again. -/
def Rested (c : Core) : Prop :=
  c.running = false ∨ c.faulted = true ∨ c.transition ≠ .kNone ∨ c.scan ≠ .kIdle ∨
    c.retry.pending = true ∨ c.work = true ∨
    (c.initialized = true ∧ c.attempted = c.revision)

/-- The public calls that accept connection intent. -/
def connects : Call → Bool
  | .connect .. | .connectSaved .. => true
  | _ => false

/-- Trace entries that record nothing but themselves in state `c`. -/
def Silent (c : Core) : Action → Prop
  | .begin status => status ≠ .kOk
  | .writeEnabled .. | .writeLastProfile .. | .saveProfile .. | .removeProfile ..
  | .notified .. => True
  | .delivered r => ¬ c.Completes r ∧ ¬ c.CompletesScan r
  | .returned call status => status ≠ .kOk ∨
      match call with
      | .begin => c.running = true
      | .disconnect => c.running = true ∧ c.desired ≠ .kConnected ∧ c.restore = false
      | .setEnabled enabled => c.running = true ∧ (enabled = true ↔ c.desired ≠ .kDisabled)
      | .shutdown => c.closed = true
      | .connect .. | .connectSaved .. | .startScan => False
      | _ => True
  | _ => False

end Core

/-- What a proof assumes of the environment where it may choose. -/
structure Assumptions where
  /-- Public calls are made and retry timers fire. -/
  requests : Prop
  /-- Acting again on attempted intent for a target, before any enable succeeded. -/
  reissue : Target → Prop
  completion : Core → OperationResult → Prop
  linkReport : Core → LinkState → Prop
  enabledReport : Core → Bool → Prop
  addressExpiry : Core → Prop

/-- An arbitrary environment. -/
def Assumptions.none : Assumptions :=
  ⟨True, fun _ => True, fun _ _ => True, fun _ _ => True, fun _ _ => True, fun _ => True⟩

/-- The reactions of listeners are allowed where calls are. -/
def Assumptions.Listens (A : Assumptions) (react : Reaction) : Prop :=
  A.requests ∨ ∀ listener change, react listener change = []

open RooWifi.Controller.Core in
/-- One indivisible action of the controller. -/
inductive Move (A : Assumptions) : Core → Core → Prop
  | noted {c} (a : Action) (h : c.Silent a) : Move A c (c.note a)
  | begun {c} (enabled : Bool) (fresh : c.running = false) (opened : c.closed = false)
      (asked : A.requests) :
      Move A c { c with
        running := true
        desired := if enabled then .kDisconnected else .kDisabled
        restore := enabled
        trace := .begin .kOk :: c.trace }.newIntent
  | shutdown {c} (opened : c.closed = false) : Move A c c.shutdown
  | faulted {c} (status : Status) (running : c.running = true) (sound : c.faulted = false)
      (notOk : status ≠ .kOk) : Move A c (c.fault status)
  -- public requests
  | setEnabled {c} (enabled : Bool) (h : c.Admits) (asked : A.requests) :
      Move A c ({ c with
        desired := if enabled then .kDisconnected else .kDisabled
        profile := {}
        credentials := {}
        auto := false
        restore := enabled }.newIntent.note (.returned (.setEnabled enabled) .kOk))
  | withdrawn {c} (h : c.Admits) (asked : A.requests) :
      Move A c ({ c with
        desired := if c.desired = Target.kDisabled then Target.kDisabled else .kDisconnected
        profile := {}
        credentials := {}
        auto := false
        restore := false }.newIntent.note (.returned .disconnect .kOk))
  | relaxed {c} (h : c.Admits) (offline : c.desired ≠ .kConnected) (ok : c.status = .kOk) :
      Move A c { c with restore := false, auto := false }
  | accepted {c} (call : Call) (config : ConnectionConfig) (credentials : Credentials)
      (profile : Ssid) (automatic : Bool) (h : c.Admits) (explicit : connects call = true)
      (enabled : c.desired ≠ .kDisabled)
      (saved : profile = {} ∧ automatic = false ∨ profile.Valid) (asked : A.requests) :
      Move A c ((c.accept config credentials profile automatic).note (.returned call .kOk))
  | repeated {c} (call : Call) (config : ConnectionConfig) (credentials : Credentials)
      (profile : Ssid) (automatic : Bool) (h : c.Admits) (explicit : connects call = true)
      (connected : c.desired = .kConnected)
      (saved : profile = {} ∧ automatic = false ∨ profile.Valid)
      (target : c.profile.eq profile = true) (sameConfig : SameConfig c.config config = true)
      (sameCredentials : SameCredentials c.credentials credentials = true) :
      Move A c ({ c with
        auto := automatic
        trace := .requested config credentials profile automatic :: c.trace }.note
          (.returned call .kOk))
  | scanQueued {c} (h : c.Admits) (enabled : c.enabled = true) (idle : c.scan = .kIdle)
      (free : c.transition = .kNone) (settled : c.attempted = c.revision) (asked : A.requests) :
      Move A c ({ c with scan := .kQueued, work := true }.note (.returned .startScan .kOk))
  | scanDropped {c} (running : c.running = true) (queued : c.scan = .kQueued) :
      Move A c { c with scan := .kIdle, work := true }
  | scanCancelled {c} (running : c.running = true) (scanning : c.scan = .kRunning) :
      Move A c ({ c with scan := .kCancelling, work := true }.note (.cancelScan .kOk))
  | scanKept {c} (status : Status) (running : c.running = true) (scanning : c.scan = .kRunning)
      (notOk : status ≠ .kOk) : Move A c (c.note (.cancelScan status))
  -- cancelling a connect that was superseded or has timed out
  | superseded {c} (running : c.running = true) (sound : c.faulted = false)
      (connecting : c.transition = .kConnect) (fresh : c.cancelling = false)
      (stale : c.active ≠ c.revision) :
      Move A c ({ c with cancelling := true }.note (.cancelConnect .kOk))
  | expired {c} (running : c.running = true) (sound : c.faulted = false)
      (outstanding : c.stationId ≠ 0) (connecting : c.transition = .kConnect)
      (fresh : c.cancelling = false) :
      Move A c ({ c with timedOut := true, cancelling := true }.note (.cancelConnect .kOk))
  | stuck {c} (timedOut : Bool) (answer status : Status) (running : c.running = true)
      (sound : c.faulted = false) (connecting : c.transition = .kConnect)
      (fresh : c.cancelling = false) (refused : answer ≠ .kOk) (notOk : status ≠ .kOk) :
      Move A c (({ c with timedOut := timedOut }.note (.cancelConnect answer)).fault status)
  -- the work task
  | dispatched {c} (due : c.work = true) : Move A c { c with work := false, dispatching := true }
  | rested {c} (h : c.Rested) : Move A c { c with dispatching := false }
  | aimed {c} (free : c.transition = .kNone) :
      Move A c { c with active := c.revision, timedOut := false }
  | issued {c} (t : Transition) (h : c.Due t) (allowed : c.Again → A.reissue c.desired) :
      Move A c (c.issued t .kOk)
  | refused {c} (t : Transition) (status : Status) (h : c.Due t) (notOk : status ≠ .kOk)
      (quiet : t ≠ .kConnect ∨ status = .kCancelled)
      (allowed : c.Again → A.reissue c.desired) :
      Move A c { (c.issued t status).retired with status := status, attempted := c.revision }
  | connectRefused {c} (status : Status) (r : RetryState) (level : Nat) (h : c.Due .kConnect)
      (failure : c.Failure status r) :
      Move A c (({ (c.issued .kConnect status).retired with attempted := c.revision }.note
        (.failed c.nextId)).failed status r level)
  | settled {c} (h : c.Admits) (free : c.transition = .kNone) (noScan : c.scan = .kIdle)
      (noRetry : c.retry.pending = false) (idle : c.phase = .kIdle)
      (initialized : c.initialized = true)
      (enabled : c.enabled = decide (c.desired ≠ .kDisabled)) (noRestore : c.restore = false)
      (offline : c.desired ≠ .kConnected) : Move A c { c with attempted := c.revision }
  | restored {c} (config : ConnectionConfig) (credentials : Credentials) (profile : Ssid)
      (automatic : Bool) (h : c.Admits) (pending : c.restore = true)
      (enabled : c.desired ≠ .kDisabled) (saved : profile.Valid) :
      Move A c (c.accept config credentials profile automatic)
  | restoredSame {c} (config : ConnectionConfig) (credentials : Credentials) (profile : Ssid)
      (automatic : Bool) (running : c.running = true) (pending : c.restore = true)
      (connected : c.desired = .kConnected) :
      Move A c { c with
        auto := automatic
        restore := false
        work := true
        trace := .requested config credentials profile automatic :: c.trace }
  | unrestored {c} (status : Status) (running : c.running = true) (pending : c.restore = true)
      (outcome : status = c.status ∨ status ≠ .kOk) :
      Move A c { c with restore := false, status := status, work := true }
  | scanStarted {c} (size : UInt16) (h : c.Admits) (free : c.transition = .kNone)
      (queued : c.scan = .kQueued) :
      Move A c ({ c with
        scanId := c.nextId
        nextId := (c.nextId + 1) % 2 ^ 64
        scan := .kRunning }.note (.startScan c.nextId size .kOk))
  | scanRefused {c} (size : UInt16) (status : Status) (h : c.Admits) (free : c.transition = .kNone)
      (queued : c.scan = .kQueued) (notOk : status ≠ .kOk) :
      Move A c ({ c with
        scanId := 0
        nextId := (c.nextId + 1) % 2 ^ 64
        scan := .kIdle
        work := true }.note (.startScan c.nextId size status))
  -- completions
  | scanFinished {c} (r : OperationResult) (h : c.CompletesScan r) :
      Move A c (c.note (.delivered r)).scanRetired
  | enableFinished {c} (r : OperationResult) (written : Status) (h : c.Completes r)
      (allowed : A.completion c r) (enabling : c.transition = .kEnable)
      (ok : c.outcome r = .kOk) :
      Move A c (if c.active = c.revision then
          { (c.note (.delivered r)).retired with initialized := true }.concluded written
        else { (c.note (.delivered r)).retired with initialized := true })
  | staleFinished {c} (r : OperationResult) (h : c.Completes r) (allowed : A.completion c r)
      (other : c.transition ≠ .kEnable ∨ c.outcome r ≠ .kOk) (stale : c.active ≠ c.revision) :
      Move A c (c.note (.delivered r)).retired
  | stationFinished {c} (r : OperationResult) (h : c.Completes r) (allowed : A.completion c r)
      (current : c.active = c.revision) (other : c.transition ≠ .kConnect)
      (failed : c.transition ≠ .kEnable ∨ c.outcome r ≠ .kOk) :
      Move A c ((c.note (.delivered r)).retired.concluded (c.outcome r))
  | connectFinished {c} (r : OperationResult) (status : Status) (h : c.Completes r)
      (allowed : A.completion c r) (current : c.active = c.revision)
      (connecting : c.transition = .kConnect) (source : c.outcome r = .kOk ∨ status = c.outcome r)
      (quiet : status = .kOk ∨ status = .kCancelled) :
      Move A c { (c.note (.delivered r)).retired with status := status, attempted := c.revision }
  | connectFailed {c} (r : OperationResult) (status : Status) (retry : RetryState) (level : Nat)
      (saved : List Action) (h : c.Completes r) (allowed : A.completion c r)
      (current : c.active = c.revision) (connecting : c.transition = .kConnect)
      (failure : c.Failure status retry)
      (persisted : saved = [] ∨ ∃ profile, saved = [.writeLastProfile profile status]) :
      Move A c ({ (c.note (.delivered r)).retired with
        attempted := c.revision
        trace := .failed r.id :: (saved ++ Action.delivered r :: c.trace) }.failed
          status retry level)
  -- the retry timer
  | retryIdle {c}
      (h : c.running = true → c.faulted = true ∨ c.desired ≠ .kConnected ∨ c.auto = false)
      (asked : A.requests) :
      Move A c (c.cancelRetry.note .retryFired)
  | retryDenied {c} (profile : Ssid) (status : Status) (automatic : Bool)
      (running : c.running = true) (denied : status ≠ .kOk ∨ automatic = false)
      (asked : A.requests) :
      Move A c { c.cancelRetry with
        auto := false
        status := if status ≠ .kOk then status else c.status
        trace := .reloaded profile status automatic :: .retryFired :: c.trace }
  | retryGranted {c} (running : c.running = true) (sound : c.faulted = false)
      (wanted : c.desired = .kConnected) (automatic : c.auto = true) (saved : c.profile.Valid)
      (asked : A.requests) :
      Move A c { c.cancelRetry with
        attempted := 0
        status := .kOk
        work := true
        trace := .reloaded c.profile .kOk true :: .retryFired :: c.trace }
  -- deadlines
  | stable {c} (running : c.running = true) : Move A c { c with retry := {}, retryLevel := 0 }
  | addressExpired {c} (stable : Bool) (r : RetryState) (level : Nat) (running : c.running = true)
      (sound : c.faulted = false) (allowed : A.addressExpiry c)
      (failure : (if stable then { c with retry := {} } else c).Failure .kTimeout r) :
      Move A c ((c.note (.failed c.linkId)).failed .kTimeout r level)
  -- observations
  | enabledReported {c} (enabled : Bool) (running : c.running = true) (sound : c.faulted = false)
      (allowed : A.enabledReport c enabled) : Move A c { c with enabled := enabled }
  | linkReady {c} (link : LinkState) (h : c.Hears link) (allowed : A.linkReport c link)
      (ready : link.phase = .kAddressReady) (plain : ¬ c.Recovers link) :
      Move A c ((c.heard link).address ⊤)
  | linkRecovered {c} (link : LinkState) (h : c.Hears link) (allowed : A.linkReport c link)
      (recovers : c.Recovers link) :
      Move A c (c.heard link).recovered
  | linkPartial {c} (link : LinkState) (deadline : Uptime) (h : c.Hears link)
      (allowed : A.linkReport c link) (unready : link.phase ≠ .kAddressReady)
      (up : link.phase ≠ .kIdle)
      (armed : if c.phase = .kAddressReady ∧ link.phase = .kAssociated ∧ c.transition = .kNone
        then deadline ≠ ⊤ else deadline = c.addressDeadline) :
      Move A c ((c.heard link).address deadline)
  | linkIdle {c} (link : LinkState) (h : c.Hears link) (allowed : A.linkReport c link)
      (idle : link.phase = .kIdle) (kept : ¬ c.Loses link) :
      Move A c ((c.heard link).address ⊤)
  | linkLost {c} (link : LinkState) (status : Status) (r : RetryState) (level : Nat)
      (h : c.Hears link) (allowed : A.linkReport c link) (loses : c.Loses link)
      (reason : status = if link.reason = .kOk then Status.kConnectionFailed else link.reason)
      (failure : c.Failure status r) :
      Move A c (((c.heard link).note (.failed link.connectionId)).failed status r level)

/-- What the controller can do without returning to the environment. -/
abbrev Path (A : Assumptions) : Core → Core → Prop := Relation.ReflTransGen (Move A)

end RooWifi.Controller
