import RooWifi.Lib.Audit
import RooWifi.OrderedInterface.Attribution

/-! # What the owner of an adapter sees

A session joins the adapter to its history: what each command returned and
what the sink was told, newest first. `Move` says once what can happen to the
part of the adapter that admission and delivery depend on; a step is a path of
moves, and the claims about histories are proved for each move. -/
namespace RooWifi

open NativeStation (EventKind Answers)

namespace OrderedInterface

/-! ## Histories -/

/-- The operation a command asks for. -/
def Event.operation : OrderedInterface.Event → Option (OperationId × OperationKind)
  | .setEnabled id _ => some (id, .kEnable)
  | .startScan id => some (id, .kScan)
  | .connect id _ _ => some (id, .kConnect)
  | .disconnect id => some (id, .kDisconnect)
  | _ => none

/-- What a command returns. Posts and the dispatch task return nothing, and no
command is called during a drain. -/
def answer (o : OrderedInterface) (input : Input) : Option Status :=
  if o.draining then none
  else
    match input.event with
    | .begin => some (o.begin input.native).1
    | .setEnabled id enabled => some (o.setEnabled input.native id enabled).1
    | .startScan id => some (o.startScan input.native id).1
    | .connect id config secret => some (o.connect input.native id config secret).1
    | .disconnect id => some (o.disconnect input.native id).1
    | .cancelScan => some (o.cancelScan input.native).1
    | .cancelConnect => some (o.cancelConnect input.native).1
    | .shutdown => some .kOk
    | .post _ | .drain | .pump => none

/-- Whether the sink is told. -/
def told : Happening → Bool
  | .finished _ | .linkChanged _ | .enabledChanged _ => true
  | _ => false

/-- The status the station itself gives in an iteration of the drain: by its
answer to the command made there, or in the event. -/
def reported (o : OrderedInterface) (native : Answers) : Status :=
  match o.queue_ with
  | [] => native.connect
  | q :: _ => if q.kind = .kPrepared then native.continueConnect else q.status

/-- What a command returned, and what the sink was told in an iteration for
which the station gave the status `reported`. -/
inductive Report where
  | returned (command : OrderedInterface.Event) (status : Status)
  | delivered (h : Happening) (reported : Status)

structure Session where
  adapter : OrderedInterface := {}
  history : List Report := []

/-- What was delivered, newest first, of what the trace has gained. -/
def deliveries (new : List Happening) (reported : Status) : List Report :=
  (new.filter told).map (.delivered · reported)

def Session.step (s : Session) (input : Input) : Session :=
  let p := s.adapter.step input
  let new := p.trace.take (p.trace.length - s.adapter.trace.length)
  { adapter := p
    history := deliveries new (s.adapter.reported input.native) ++
      ((s.adapter.answer input).toList.map (.returned input.event) ++ s.history) }

/-! ## What admission and delivery depend on -/

structure Core where
  /-- A sink is attached. -/
  live : Bool
  station : Option (OperationId × OperationKind)
  scan : Option (OperationId × OperationKind)
  cancelling : Bool
  scanCancelling : Bool
  waiting : Bool
  link : LinkState
  /-- The network of the last connect command that passed validation. -/
  ssid : Ssid
  history : List Report

/-- The outstanding operation of a result that is being collected. -/
def outstanding (r : OperationResult) : Option (OperationId × OperationKind) :=
  if r.id = 0 then none else some (r.id, r.kind)

def core (o : OrderedInterface) (history : List Report) : Core where
  live := o.sink_
  station := outstanding o.station_
  scan := outstanding o.scan_
  cancelling := o.cancelling_
  scanCancelling := o.scanCancelling_
  waiting := o.waitingDisconnect_
  link := o.link_
  ssid := o.config_.ssid
  history := history

namespace Core

def note (r : Report) (c : Core) : Core := { c with history := r :: c.history }

/-- The sink is told of a new link state. -/
def tell (link : LinkState) (reported : Status) (c : Core) : Core :=
  { c with link }.note (.delivered (.linkChanged link) reported)

def stationDone (r : OperationResult) (reported : Status) (c : Core) : Core :=
  { c with station := none, cancelling := false, waiting := false }.note
    (.delivered (.finished r) reported)

def scanDone (r : OperationResult) (reported : Status) (c : Core) : Core :=
  { c with scan := none, scanCancelling := false }.note (.delivered (.finished r) reported)

/-- Nothing is outstanding. -/
structure Admits (c : Core) : Prop where
  live : c.live = true
  station : c.station = none
  scan : c.scan = none

/-- A connect is outstanding that need not wait for the previous link. -/
def Ahead (id : OperationId) (c : Core) : Prop :=
  c.station = some (id, .kConnect) ∧ c.waiting = false

/-- A completion may carry `kCancelled` only after an accepted cancellation,
and then it does, or when the station gave that status. -/
def Completes (cancelling : Bool) (r : OperationResult) (reported : Status) : Prop :=
  (cancelling = true → r.status = .kCancelled) ∧
    (cancelling = false → r.status = .kCancelled → reported = .kCancelled)

/-- The link is the one `c` has, but for its addresses and phase. -/
structure Same (link : LinkState) (c : Core) : Prop where
  id : link.connectionId = c.link.connectionId
  ssid : link.ssid = c.link.ssid

/-- An address report that counts. -/
structure Hears (link : LinkState) (c : Core) : Prop extends Same link c where
  live : c.live = true
  up : c.link.phase = .kAssociated ∨ c.link.phase = .kAddressReady
  unwaiting : c.waiting = false
  uncancelled : c.cancelling = false
  phase : link.phase = .kAddressReady
  address : link.hasIpv4 = true

end Core

open OrderedInterface.Core in
/-- One indivisible action of the adapter. -/
inductive Move : Core → Core → Prop
  -- commands
  | refused {c} (command : OrderedInterface.Event) (status : Status) (notOk : status ≠ .kOk) :
      Move c (c.note (.returned command status))
  | rejected {c} (command : OrderedInterface.Event) (status : Status) (ssid : Ssid)
      (notOk : status ≠ .kOk) (h : c.Admits) :
      Move c ({ c with station := none, ssid, waiting := false }.note (.returned command status))
  | enable {c} (id : OperationId) (enabled : Bool) (h : c.Admits) :
      Move c ({ c with station := some (id, .kEnable) }.note
        (.returned (.setEnabled id enabled) .kOk))
  | scan {c} (id : OperationId) (h : c.Admits) :
      Move c ({ c with scan := some (id, .kScan) }.note (.returned (.startScan id) .kOk))
  | connect {c} (id : OperationId) (config : ConnectionConfig) (secret : Credentials)
      (h : c.Admits) (valid : config.ssid.Valid) :
      Move c ({ c with
        station := some (id, .kConnect)
        ssid := config.ssid
        waiting := c.waiting || decide (c.link.phase ≠ LinkPhase.kIdle) }.note
          (.returned (.connect id config secret) .kOk))
  | disconnect {c} (id : OperationId) (h : c.Admits) :
      Move c ({ c with station := some (id, .kDisconnect), waiting := true }.note
        (.returned (.disconnect id) .kOk))
  | scanKept {c} (h : c.scan = none ∨ c.scanCancelling = true) :
      Move c (c.note (.returned .cancelScan .kOk))
  | scanCancelled {c} (op : OperationId × OperationKind) (h : c.scan = some op) :
      Move c ({ c with scanCancelling := true }.note (.returned .cancelScan .kOk))
  | connectCancelled {c} (id : OperationId) (h : c.station = some (id, .kConnect)) :
      Move c ({ c with
        cancelling := true
        waiting := c.waiting || (!c.cancelling && decide (c.link.phase ≠ LinkPhase.kIdle)) }.note
          (.returned .cancelConnect .kOk))
  | shutdown {c} :
      Move c ({ c with live := false, station := none, scan := none, link := {} }.note
        (.returned .shutdown .kOk))
  -- completions
  | stationFinished {c} (r : OperationResult) (reported : Status) (live : c.live = true)
      (h : c.station = some (r.id, r.kind)) (completes : Completes c.cancelling r reported)
      (failed : r.kind = .kConnect → r.status ≠ .kOk) : Move c (c.stationDone r reported)
  | scanFinished {c} (r : OperationResult) (reported : Status) (live : c.live = true)
      (h : c.scan = some (r.id, r.kind)) (completes : Completes c.scanCancelling r reported) :
      Move c (c.scanDone r reported)
  -- reports
  | enabledReported {c} (enabled : Bool) (reported : Status) (live : c.live = true) :
      Move c (c.note (.delivered (.enabledChanged enabled) reported))
  | lost {c} (link : LinkState) (reported : Status) (live : c.live = true)
      (phase : link.phase = .kIdle)
      (address : link.hasIpv4 = true → c.link.hasIpv4 = true ∧ ∃ id, c.Ahead id) :
      Move c (c.tell link reported)
  | released {c} (id : OperationId) (h : c.station = some (id, .kConnect))
      (uncancelled : c.cancelling = false) (idle : c.link.phase = .kIdle) :
      Move c { c with waiting := false }
  | connecting {c} (link : LinkState) (reported : Status) (live : c.live = true)
      (h : c.Ahead link.connectionId) (idle : c.link.phase = .kIdle) (ssid : link.ssid = c.ssid)
      (phase : link.phase = .kConnecting) (address : link.hasIpv4 = false) :
      Move c (c.tell link reported)
  | associated {c} (link : LinkState) (reported : Status) (live : c.live = true)
      (connecting : c.link.phase = .kConnecting) (id : link.connectionId = c.link.connectionId)
      (ssid : differs link.ssid c.link.ssid = false) (phase : link.phase = .kAssociated)
      (address : link.hasIpv4 = false) : Move c (c.tell link reported)
  | addressless {c} (link : LinkState) (h : Same link c) (phase : link.phase = c.link.phase)
      (address : link.hasIpv4 = false) : Move c { c with link }
  | ready {c} (link : LinkState) (reported : Status) (h : Hears link c)
      (other : c.station ≠ some (link.connectionId, .kConnect)) : Move c (c.tell link reported)
  | connected {c} (link : LinkState) (r : OperationResult) (reported : Status) (h : Hears link c)
      (station : c.station = some (r.id, .kConnect)) (id : r.id = link.connectionId)
      (kind : r.kind = .kConnect) (ok : r.status = .kOk) :
      Move c ((c.tell link reported).stationDone r reported)
  | addressLost {c} (link : LinkState) (reported : Status) (live : c.live = true)
      (up : c.link.phase = .kAddressReady) (h : Same link c) (phase : link.phase = .kAssociated)
      (address : link.hasIpv4 = false) : Move c (c.tell link reported)

/-- What the adapter can do in one step. -/
abbrev Path : Core → Core → Prop := Relation.ReflTransGen Move

/-! ## Iterations of the drain -/

/-- From `o` to `p`, and the sink, which stays attached, is told what the trace
has gained. -/
def Emits (reported : Status) (o p : OrderedInterface) : Prop :=
  p.sink_ = o.sink_ ∧ ∃ new, p.trace = new ++ o.trace ∧
    ∀ history, Path (core o history) (core p (deliveries new reported ++ history))

section Iterations

variable {o p q : OrderedInterface} {status : Status} {native : Answers}
  {event : NativeStation.Event}

theorem Emits.of_same (ht : p.trace = o.trace) (hc : ∀ history, core p history = core o history) :
    Emits status o p := by
  refine ⟨congrArg Core.live (hc []), [], ht, ?_⟩
  intro history
  rw [deliveries, List.filter_nil, List.map_nil, List.nil_append, hc]

theorem Emits.trans (h : Emits status o p) (h' : Emits status p q) : Emits status o q := by
  obtain ⟨hl, new, ht, hp⟩ := h
  obtain ⟨hl', new', ht', hp'⟩ := h'
  refine ⟨hl'.trans hl, new' ++ new, by rw [ht', ht, List.append_assoc], ?_⟩
  intro history
  have happ : deliveries (new' ++ new) status =
      deliveries new' status ++ deliveries new status := by
    simp only [deliveries, List.filter_append, List.map_append]
  rw [happ, List.append_assoc]
  exact (hp history).trans (hp' _)

/-- One entry the sink is told of. -/
theorem Emits.tells {h : Happening} (hl : p.sink_ = o.sink_) (ht : p.trace = h :: o.trace)
    (hh : told h = true)
    (hm : ∀ history, Move (core o history) (core p (.delivered h status :: history))) :
    Emits status o p := by
  refine ⟨hl, [h], ht, ?_⟩
  intro history
  have hd : deliveries [h] status = [.delivered h status] := by
    simp only [deliveries, List.filter_cons, hh, if_true, List.filter_nil, List.map_cons,
      List.map_nil]
  rw [hd]
  exact .single (hm history)

/-- One entry it is not told of. -/
theorem emits_record {h : Happening} (hh : told h = false) : Emits status o (o.record h) := by
  refine ⟨rfl, [h], rfl, ?_⟩
  intro history
  have hd : deliveries [h] status = [] := by
    simp [deliveries, hh]
  rw [hd]
  exact .refl

theorem emits_linkChanged {link : LinkState}
    (hm : ∀ history, Move (core o history) ((core o history).tell link status)) :
    Emits status o (o.linkChanged link) :=
  .tells rfl rfl rfl hm

theorem outstanding_eq {r : OperationResult} (h : r.id ≠ 0) : outstanding r = some (r.id, r.kind) :=
  if_neg h

theorem emits_finishStation (hl : o.sink_ = true) {error : Status} {code : Int}
    {failure : ConnectionFailure} (real : o.station_.kind = .kConnect → error ≠ .kOk)
    (cause : o.cancelling_ = false → error = .kCancelled → status = .kCancelled) :
    Emits status o (o.finishStation error code failure) := by
  unfold finishStation
  split
  · exact .of_same rfl fun _ => rfl
  rename_i hid
  refine .tells rfl rfl rfl ?_
  intro history
  refine .stationFinished _ status hl (outstanding_eq hid) ⟨?_, ?_⟩ ?_
  · intro hc
    exact if_pos hc
  · intro hc hs
    refine cause hc ?_
    rwa [if_neg (by simpa [core] using hc)] at hs
  · intro hk
    dsimp only
    split
    · exact Status.noConfusion
    · exact real hk

/-- An operation that is not being cancelled ends with the status it is given. -/
theorem finishStation_eq (hid : o.station_.id ≠ 0) (hc : o.cancelling_ = false) (error : Status)
    (code : Int) (failure : ConnectionFailure) :
    o.finishStation error code failure =
      { o with
        station_ := {}, cancelling_ := false, waitingDisconnect_ := false
        credentials_ := {} }.record (.finished { o.station_ with
          status := error, failure, nativeCode := code, hasNativeCode := code ≠ 0 }) := by
  unfold finishStation
  rw [if_neg hid]
  simp [hc]

theorem emits_finishScan (hl : o.sink_ = true) {error : Status} {code : Int}
    (cause : o.scanCancelling_ = false → error = .kCancelled → status = .kCancelled) :
    Emits status o (o.finishScan error code) := by
  unfold finishScan
  split
  · exact .of_same rfl fun _ => rfl
  rename_i hid
  refine .tells rfl rfl rfl ?_
  intro history
  refine .scanFinished _ status hl (outstanding_eq hid) ⟨?_, ?_⟩
  · intro hc
    exact if_pos hc
  · intro hc hs
    refine cause hc ?_
    rwa [if_neg (by simpa [core] using hc)] at hs

theorem emits_processEnabled (hl : o.sink_ = true) (hs : status = event.status) :
    Emits status o (o.processEnabled event) := by
  unfold processEnabled
  generalize hen : decide (event.kind = .kEnabled) = enabled
  dsimp only
  have first : Emits status o ({ o with enabled_ := enabled }.record (.enabledChanged enabled)) :=
    .tells rfl rfl rfl fun _ => .enabledReported enabled status hl
  have finish {p : OrderedInterface} (hp : p.sink_ = true) : Emits status p
      (if p.station_.id ≠ 0 ∧ p.station_.kind = .kEnable ∧ enabled = p.desiredEnabled_ then
        p.finishStation event.status event.nativeCode else p) := by
    split
    · rename_i h
      refine emits_finishStation hp ?_ ?_
      · intro hk
        exact absurd (hk.symm.trans h.2.1) (by decide)
      · intro _ he
        exact hs.trans he
    · exact .of_same rfl fun _ => rfl
  refine first.trans ?_
  split
  · refine (emits_linkChanged ?_).trans (finish hl)
    intro history
    exact .lost _ status hl rfl (by simp)
  · exact finish hl

theorem emits_processPrepared (hl : o.sink_ = true) (hs : status = native.continueConnect) :
    Emits status o (o.processPrepared native) := by
  unfold processPrepared
  split
  · rename_i h
    simp only [Bool.not_eq_eq_eq_not, Bool.not_true] at h
    obtain ⟨hid, hkind, waiting, -⟩ := h
    refine (emits_record (h := .nativeContinue o.station_.id native.continueConnect) rfl).trans ?_
    split
    · rename_i notOk
      refine (emits_linkChanged ?_).trans
        (emits_finishStation ?_ (fun _ => notOk) fun _ he => hs.trans he)
      · intro history
        refine .lost _ status hl rfl ?_
        intro ha
        refine ⟨ha, o.station_.id, ?_, waiting⟩
        exact (outstanding_eq hid).trans (by rw [hkind])
      · exact hl
    · exact .of_same rfl fun _ => rfl
  · exact .of_same rfl fun _ => rfl

theorem emits_processAssociated (hl : o.sink_ = true) (ha : event.link.hasIpv4 = false) :
    Emits status o (o.processAssociated event) := by
  unfold processAssociated
  split
  · exact .of_same rfl fun _ => rfl
  rename_i h
  rw [not_or, not_not, Bool.not_eq_true] at h
  refine emits_linkChanged ?_
  intro history
  exact .associated _ status hl h.1 rfl h.2 rfl ha

theorem emits_processAddressReady (hl : o.sink_ = true) :
    Emits status o (o.processAddressReady event) := by
  unfold processAddressReady
  split
  · exact .of_same rfl fun _ => rfl
  split
  · exact .of_same rfl fun _ => rfl
  rename_i h
  rw [not_or, not_or, not_and_or, not_not, not_not, Bool.not_eq_true, Bool.not_eq_true] at h
  obtain ⟨up, waiting, cancelling⟩ := h
  generalize hlink : ({ o.link_ with
    address := event.link.address, gateway := event.link.gateway, dns1 := event.link.dns1
    dns2 := event.link.dns2, hasIpv4 := event.link.hasIpv4, hasDns1 := event.link.hasDns1
    hasDns2 := event.link.hasDns2 } : LinkState) = link
  have hid : link.connectionId = o.link_.connectionId := by rw [← hlink]
  have hssid : link.ssid = o.link_.ssid := by rw [← hlink]
  have hphase : link.phase = o.link_.phase := by rw [← hlink]
  dsimp only
  split
  · rename_i address
    refine ⟨rfl, [], rfl, ?_⟩
    intro history
    exact .single (.addressless link ⟨hid, hssid⟩ hphase (by simpa using address))
  rename_i address
  have hears (history : List Report) :
      Core.Hears { link with phase := .kAddressReady } (core o history) :=
    ⟨⟨hid, hssid⟩, hl, up, waiting, cancelling, rfl, by simpa using address⟩
  split
  · rename_i own
    dsimp only [linkChanged_station, linkChanged_link] at own
    by_cases h0 : o.station_.id = 0
    · -- no operation is outstanding, so nothing is finished
      have hf : (o.linkChanged { link with phase := .kAddressReady }).finishStation .kOk =
          o.linkChanged { link with phase := .kAddressReady } := by
        unfold finishStation
        exact if_pos h0
      rw [hf]
      refine emits_linkChanged ?_
      intro history
      refine .ready _ status (hears history) ?_
      simp [core, outstanding, h0]
    · rw [finishStation_eq (o := o.linkChanged { link with phase := .kAddressReady }) h0 cancelling]
      refine ⟨rfl, [.finished _, .linkChanged _], rfl, ?_⟩
      intro history
      refine .single (.connected _ _ status (hears history) ?_ own.2 own.1 rfl)
      exact (outstanding_eq h0).trans (congrArg (fun kind => some (o.station_.id, kind)) own.1)
  · rename_i other
    refine emits_linkChanged ?_
    intro history
    refine .ready _ status (hears history) ?_
    intro hst
    refine other ?_
    have hst : outstanding o.station_ = some (link.connectionId, .kConnect) := hst
    unfold outstanding at hst
    split at hst
    · cases hst
    · have heq := Option.some.inj hst
      exact ⟨congrArg Prod.snd heq, congrArg Prod.fst heq⟩

theorem emits_processAddressLost (hl : o.sink_ = true) : Emits status o o.processAddressLost := by
  unfold processAddressLost
  split
  · rename_i up
    refine emits_linkChanged ?_
    intro history
    exact .addressLost _ status hl up ⟨rfl, rfl⟩ rfl rfl
  · exact .of_same rfl fun _ => rfl

theorem disconnectedLink_spec (link : LinkState) (event : NativeStation.Event) :
    (disconnectedLink link event).phase = .kIdle ∧
      (disconnectedLink link event).hasIpv4 = false := by
  unfold disconnectedLink
  dsimp only
  split <;> exact ⟨rfl, rfl⟩

/-- A link that was lost reports a failure, cancelled where the event is. -/
theorem disconnectedLink_reason (link : LinkState) (event : NativeStation.Event) :
    (disconnectedLink link event).reason ≠ .kOk ∧
      ((disconnectedLink link event).reason = .kCancelled ↔ event.status = .kCancelled) := by
  have h : (disconnectedLink link event).reason =
      if event.status = .kOk then .kConnectionFailed else event.status := by
    unfold disconnectedLink
    dsimp only
    split <;> rfl
  rw [h]
  by_cases hs : event.status = .kOk <;> simp [hs]

theorem emits_processDisconnected (hl : o.sink_ = true) (hs : status = event.status) :
    Emits status o (o.processDisconnected event) := by
  unfold processDisconnected
  split
  · exact .of_same rfl fun _ => rfl
  obtain ⟨hphase, haddress⟩ := disconnectedLink_spec o.link_ event
  have hreason := disconnectedLink_reason o.link_ event
  generalize disconnectedLink o.link_ event = link at hphase haddress hreason
  have told : Emits status o ((o.linkChanged link).record (.disconnected event)) := by
    refine (emits_linkChanged ?_).trans (emits_record rfl)
    intro history
    exact .lost link status hl hphase (by simp [haddress])
  refine told.trans ?_
  dsimp only
  split
  · exact .of_same rfl fun _ => rfl
  rename_i hid
  split
  · rename_i h
    simp only [Bool.not_eq_eq_eq_not, Bool.not_true] at h
    refine ⟨rfl, [], rfl, ?_⟩
    intro history
    refine .single (.released o.station_.id ?_ h.2.2 hphase)
    exact (outstanding_eq hid).trans (congrArg (fun kind => some (o.station_.id, kind)) h.2.1)
  split
  · refine emits_finishStation ?_ ?_ ?_
    · exact hl
    · intro hk
      rw [if_neg (by rw [hk]; decide)]
      exact hreason.1
    · intro _ he
      split at he
      · cases he
      · exact hs.trans (hreason.2.mp he)
  · exact .of_same rfl fun _ => rfl

theorem expand_address (q : QueuedEvent) (h : q.kind = .kAssociated) :
    q.expand.link.hasIpv4 = false := by
  simp [QueuedEvent.expand, h]

theorem emits_process (hl : o.sink_ = true) {q : QueuedEvent}
    (hs : status = if q.kind = .kPrepared then native.continueConnect else q.status) :
    Emits status o (o.process native q.expand) := by
  have given (h : q.kind ≠ .kPrepared) : status = q.expand.status := hs.trans (if_neg h)
  unfold process
  split
  · exact .of_same rfl fun _ => rfl
  rw [expand_kind]
  cases hk : q.kind with
  | kEnabled | kDisabled => exact emits_processEnabled hl (given (by rw [hk]; decide))
  | kPrepared => exact emits_processPrepared hl (hs.trans (if_pos hk))
  | kScanDone => exact emits_finishScan hl fun _ he => (given (by rw [hk]; decide)).trans he
  | kAssociated => exact emits_processAssociated hl (expand_address q hk)
  | kAddressReady => exact emits_processAddressReady hl
  | kAddressLost => exact emits_processAddressLost hl
  | kDisconnected => exact emits_processDisconnected hl (given (by rw [hk]; decide))

theorem emits_startConnection (hl : o.sink_ = true) (hid : o.station_.id ≠ 0)
    (hkind : o.station_.kind = .kConnect) (waiting : o.waitingDisconnect_ = false)
    (idle : o.link_.phase = .kIdle) (hs : status = native.connect) :
    Emits status o (o.startConnection native) := by
  have ahead (history : List Report) : (core o history).Ahead o.station_.id :=
    ⟨(outstanding_eq hid).trans (by rw [hkind]), waiting⟩
  unfold startConnection
  have start : Emits status o (o.linkChanged
      { connectionId := o.station_.id, ssid := o.config_.ssid, security := o.config_.security
        phase := .kConnecting }) := by
    refine emits_linkChanged ?_
    intro history
    exact .connecting _ status hl (ahead history) idle rfl rfl rfl
  refine start.trans ((emits_record (h := .nativeConnect o.station_.id native.connect) rfl).trans ?_)
  dsimp only
  split
  · rename_i notOk
    refine (emits_linkChanged ?_).trans
      (emits_finishStation ?_ (fun _ => notOk) fun _ he => hs.trans he)
    · intro history
      exact .lost _ status hl rfl (by simp [core])
    · exact hl
  · exact .of_same rfl fun _ => rfl

theorem emits_drained (hl : o.sink_ = true) (hs : status = native.connect) :
    Emits status o (o.drained native) := by
  unfold drained
  split
  · rename_i h
    simp only [Bool.not_eq_eq_eq_not, Bool.not_true] at h
    obtain ⟨hid, hkind, waiting, idle⟩ := h
    split
    · rename_i hc
      refine emits_finishStation hl ?_ ?_
      · intro _
        exact Status.noConfusion
      · intro hn
        cases hn.symm.trans hc
    · exact emits_startConnection hl hid hkind waiting idle hs
  · exact .of_same rfl fun _ => rfl

/-- **One iteration of the drain.** -/
theorem emits_pump (hd : o.draining = true → o.sink_ = true) :
    Emits (o.reported native) o (o.pump native) := by
  unfold pump
  split
  · exact .of_same rfl fun _ => rfl
  rename_i draining
  have hl : o.sink_ = true := hd (by simpa using draining)
  split
  · refine Emits.trans (p := { o with queue_ := [], faulted_ := true, draining := false }.record
      .overflow) ⟨rfl, [.overflow], rfl, fun _ => .refl⟩ ?_
    refine Emits.trans (emits_finishStation ?_ ?_ ?_) (emits_finishScan ?_ ?_)
    · exact hl
    · intro _
      exact Status.noConfusion
    · intro _ he
      cases he
    · unfold finishStation
      split <;> exact hl
    · intro _ he
      cases he
  split
  · rename_i hq
    refine Emits.trans (p := { o with draining := false }) (.of_same rfl fun _ => rfl) ?_
    refine emits_drained hl ?_
    unfold reported
    rw [hq]
  · rename_i q queue hq
    refine Emits.trans (p := { o with queue_ := queue }) (.of_same rfl fun _ => rfl) ?_
    refine emits_process ?_ ?_
    · exact hl
    unfold reported
    rw [hq]

end Iterations

/-! ## Commands -/

/-- The command returns `r.1` and leaves `r.2`; it does not drain the queue,
and the sink is told nothing. -/
def Returns (o : OrderedInterface) (command : OrderedInterface.Event)
    (r : Status × OrderedInterface) : Prop :=
  r.2.draining = o.draining ∧ (∃ new, r.2.trace = new ++ o.trace ∧ new.filter told = []) ∧
    ∀ history, Path (core o history) (core r.2 (.returned command r.1 :: history))

section Commands

variable {o : OrderedInterface} {native : Answers} {command : OrderedInterface.Event}
  {id : OperationId}

/-- A command that neither records anything nor does more than one thing. -/
theorem Returns.of_move {r : Status × OrderedInterface} (hd : r.2.draining = o.draining)
    (ht : r.2.trace = o.trace)
    (hm : ∀ history, Move (core o history) (core r.2 (.returned command r.1 :: history))) :
    Returns o command r :=
  ⟨hd, ⟨[], ht, rfl⟩, fun history => .single (hm history)⟩

theorem returns_refused {status : Status} (notOk : status ≠ .kOk) :
    Returns o command (status, o) :=
  .of_move rfl rfl fun _ => .refused command status notOk

theorem admits_of_admission (h : o.stationAdmission id = .kOk) :
    id ≠ 0 ∧ o.sink_ = true ∧ outstanding o.station_ = none ∧ outstanding o.scan_ = none := by
  unfold stationAdmission at h
  split at h
  · cases h
  rename_i hlive
  split at h
  · cases h
  rename_i hid
  split at h
  · cases h
  rename_i hfree
  rw [not_or, not_not, not_not] at hfree
  simp only [Bool.or_eq_true, Bool.not_eq_true', not_or, Bool.not_eq_false] at hlive
  exact ⟨hid, hlive.1, if_pos hfree.1, if_pos hfree.2⟩

/-- An operation that the station refused to start leaves nothing outstanding. -/
theorem Returns.unstarted {p : OrderedInterface} {status : Status} (notOk : status ≠ .kOk)
    (hd : p.draining = o.draining) (ht : p.trace = o.trace)
    (hc : ∀ history, core p history = core o history) : Returns o command (status, p) := by
  refine .of_move hd ht ?_
  intro history
  rw [hc]
  exact .refused command status notOk

theorem returns_setEnabled (enabled : Bool) :
    Returns o (.setEnabled id enabled) (o.setEnabled native id enabled) := by
  unfold setEnabled
  dsimp only
  split
  · exact returns_refused ‹_›
  rename_i h
  obtain ⟨hid, hlive, hstation, hscan⟩ := admits_of_admission (not_not.mp h)
  split
  · rename_i notOk
    refine .unstarted notOk rfl rfl ?_
    intro history
    simp only [core, hstation]
    rfl
  · refine .of_move rfl rfl ?_
    intro history
    have move := Move.enable (c := core o history) id enabled ⟨hlive, hstation, hscan⟩
    simpa only [core, Core.note, outstanding, if_neg hid] using move

theorem returns_startScan : Returns o (.startScan id) (o.startScan native id) := by
  unfold startScan
  dsimp only
  split
  · exact returns_refused ‹_›
  rename_i h
  obtain ⟨hid, hlive, hstation, hscan⟩ := admits_of_admission (not_not.mp h)
  split
  · exact returns_refused Status.noConfusion
  split
  · exact returns_refused Status.noConfusion
  split
  · rename_i notOk
    refine .unstarted notOk rfl rfl ?_
    intro history
    simp only [core, hscan]
    rfl
  · refine .of_move rfl rfl ?_
    intro history
    have move := Move.scan (c := core o history) id ⟨hlive, hstation, hscan⟩
    simpa only [core, Core.note, outstanding, if_neg hid] using move

theorem post_draining (o : OrderedInterface) (event : NativeStation.Event) :
    (o.post event).draining = o.draining := by
  unfold post
  split <;> rfl

theorem core_post (event : NativeStation.Event) (history : List Report) :
    core (o.post event) history = core o history := by
  unfold post
  split <;> rfl

theorem returns_connect (config : ConnectionConfig) (secret : Credentials) :
    Returns o (.connect id config secret) (o.connect native id config secret) := by
  unfold connect
  dsimp only
  split
  · exact returns_refused ‹_›
  rename_i h
  obtain ⟨hid, hlive, hstation, hscan⟩ := admits_of_admission (not_not.mp h)
  split
  · exact returns_refused Status.noConfusion
  split
  · exact returns_refused ‹_›
  rename_i hvalid
  split
  · exact returns_refused ‹_›
  have admitted (history : List Report) {p : OrderedInterface} (hp : ∀ history, core p history =
      core { o with
        station_ := { id, kind := .kConnect }, config_ := config
        waitingDisconnect_ := o.waitingDisconnect_ || decide (o.link_.phase ≠ LinkPhase.kIdle) }
        history) :
      Move (core o history) (core p (.returned (.connect id config secret) .kOk :: history)) := by
    have move := Move.connect (c := core o history) id config secret
      ⟨hlive, hstation, hscan⟩ (valid_of_Validate (not_not.mp hvalid))
    rw [hp]
    unfold core
    rw [outstanding_eq (r := { id, kind := .kConnect }) hid]
    exact move
  split
  · rename_i up
    have waits : (o.waitingDisconnect_ || decide (o.link_.phase ≠ LinkPhase.kIdle)) = true := by
      rw [decide_eq_true up, Bool.or_true]
    rw [waits] at admitted
    split
    · refine ⟨post_draining _ _, ⟨[.admitted id], by simp, rfl⟩, ?_⟩
      intro history
      exact .single (admitted history fun history => core_post _ history)
    split
    · rename_i notOk
      refine .of_move rfl rfl ?_
      intro history
      exact .rejected _ native.disconnect config.ssid notOk ⟨hlive, hstation, hscan⟩
    · refine ⟨rfl, ⟨[.admitted id], rfl, rfl⟩, ?_⟩
      intro history
      exact .single (admitted history fun _ => rfl)
  · rename_i idle
    rw [not_not] at idle
    refine ⟨rfl, ⟨[.admitted id], rfl, rfl⟩, ?_⟩
    intro history
    refine .single (admitted history fun history => ?_)
    simp [core, idle, record]

theorem returns_disconnect : Returns o (.disconnect id) (o.disconnect native id) := by
  unfold disconnect
  dsimp only
  split
  · exact returns_refused ‹_›
  rename_i h
  obtain ⟨hid, hlive, hstation, hscan⟩ := admits_of_admission (not_not.mp h)
  have admitted (history : List Report) {p : OrderedInterface} (hp : ∀ history, core p history =
      core { o with station_ := { id, kind := .kDisconnect }, waitingDisconnect_ := true }
        history) :
      Move (core o history) (core p (.returned (.disconnect id) .kOk :: history)) := by
    have move := Move.disconnect (c := core o history) id ⟨hlive, hstation, hscan⟩
    rw [hp]
    simpa only [core, Core.note, outstanding, if_neg hid] using move
  generalize (if o.link_.phase = .kIdle then Status.kNotFound else native.disconnect) = status
  split
  · refine .of_move (post_draining _ _) (post_trace _ _) ?_
    intro history
    exact admitted history fun history => core_post _ history
  split
  · rename_i notOk
    refine .of_move rfl rfl ?_
    intro history
    exact .rejected _ status o.config_.ssid notOk ⟨hlive, hstation, hscan⟩
  · refine .of_move rfl rfl ?_
    intro history
    exact admitted history fun _ => rfl

theorem returns_cancelScan : Returns o .cancelScan (o.cancelScan native) := by
  unfold cancelScan
  split
  · rename_i h
    refine .of_move rfl rfl ?_
    intro history
    exact .scanKept (h.imp_left fun h0 => if_pos h0)
  rename_i h
  rw [not_or] at h
  split
  · exact returns_refused ‹_›
  · refine .of_move rfl rfl ?_
    intro history
    exact .scanCancelled _ (outstanding_eq h.1)

theorem returns_cancelConnect : Returns o .cancelConnect (o.cancelConnect native) := by
  unfold cancelConnect
  split
  · exact returns_refused Status.noConfusion
  rename_i h
  rw [not_or, not_not] at h
  have cancelled (history : List Report) {p : OrderedInterface} (hp : ∀ history, core p history =
      core { o with
        cancelling_ := true
        waitingDisconnect_ := o.waitingDisconnect_ ||
          (!o.cancelling_ && decide (o.link_.phase ≠ LinkPhase.kIdle)) } history) :
      Move (core o history) (core p (.returned .cancelConnect .kOk :: history)) := by
    have move := Move.connectCancelled (c := core o history) o.station_.id
      ((outstanding_eq h.1).trans (by rw [h.2]))
    rw [hp]
    exact move
  split
  · rename_i hc
    refine .of_move rfl rfl ?_
    intro history
    refine cancelled history fun history => ?_
    simp [core, hc]
  rename_i hc
  rw [Bool.not_eq_true] at hc
  split
  · rename_i up
    have waits : (o.waitingDisconnect_ ||
        (!o.cancelling_ && decide (o.link_.phase ≠ LinkPhase.kIdle))) = true := by
      simp [hc, up.2]
    rw [waits] at cancelled
    split
    · refine .of_move (post_draining _ _) (post_trace _ _) ?_
      intro history
      refine cancelled history fun history => ?_
      unfold post
      split <;> rfl
    split
    · exact returns_refused ‹_›
    · refine .of_move rfl rfl ?_
      intro history
      exact cancelled history fun _ => rfl
  · rename_i rest
    refine .of_move rfl rfl ?_
    intro history
    refine cancelled history fun history => ?_
    have same : (o.waitingDisconnect_ ||
        (!o.cancelling_ && decide (o.link_.phase ≠ LinkPhase.kIdle))) = o.waitingDisconnect_ := by
      cases hw : o.waitingDisconnect_ with
      | true => rfl
      | false => simpa [hw, hc] using rest
    rw [same]
    rfl

theorem returns_shutdown : Returns o .shutdown (.kOk, o.shutdown) :=
  .of_move rfl rfl fun _ => .shutdown

end Commands

/-! ## Steps -/

def Session.core (s : Session) : Core := s.adapter.core s.history

/-- The queue is only drained while a sink is attached. -/
def Session.Attached (s : Session) : Prop := s.adapter.draining = true → s.adapter.sink_ = true

variable {s : Session} {input : Input}

/-- A step of which nobody is told. -/
theorem silent_path {o : OrderedInterface} (hp : s.adapter.step input = o)
    (ht : o.trace = s.adapter.trace) (hc : ∀ history, o.core history = s.adapter.core history)
    (ha : s.adapter.answer input = none) : Path s.core (s.step input).core := by
  have hs : (s.step input).core = s.core := by
    simp only [Session.core, Session.step, hp, ht, ha, Nat.sub_self, List.take_zero, deliveries,
      List.filter_nil, List.map_nil, Option.toList_none, List.nil_append, hc]
  rw [hs]

theorem returned_path {r : Status × OrderedInterface} (hr : Returns s.adapter input.event r)
    (hp : s.adapter.step input = r.2) (ha : s.adapter.answer input = some r.1) :
    Path s.core (s.step input).core := by
  obtain ⟨-, ⟨new, ht, hn⟩, hpath⟩ := hr
  have hs : (s.step input).core = r.2.core (.returned input.event r.1 :: s.history) := by
    simp only [Session.core, Session.step, hp, ht, ha, List.length_append, Nat.add_sub_cancel,
      List.take_left', deliveries, hn, List.map_nil, Option.toList_some, List.map_cons,
      List.nil_append, List.cons_append]
  rw [hs]
  exact hpath s.history

theorem emitted_path {o : OrderedInterface} (hp : s.adapter.step input = o)
    (he : Emits (s.adapter.reported input.native) s.adapter o)
    (ha : s.adapter.answer input = none) : Path s.core (s.step input).core := by
  obtain ⟨-, new, ht, hpath⟩ := he
  have hs : (s.step input).core =
      o.core (deliveries new (s.adapter.reported input.native) ++ s.history) := by
    simp only [Session.core, Session.step, hp, ht, ha, List.length_append, Nat.add_sub_cancel,
      List.take_left', Option.toList_none, List.map_nil, List.nil_append]
  rw [hs]
  exact hpath s.history

/-- A command is refused by the caller's own context during a drain. -/
theorem command_path {r : Status × OrderedInterface} (hr : Returns s.adapter input.event r)
    (hp : s.adapter.step input = if s.adapter.draining then s.adapter else r.2)
    (ha : s.adapter.answer input = if s.adapter.draining then none else some r.1) :
    Path s.core (s.step input).core := by
  by_cases hd : s.adapter.draining = true
  · exact silent_path (hp.trans (if_pos hd)) rfl (fun _ => rfl) (ha.trans (if_pos hd))
  · exact returned_path hr (hp.trans (if_neg hd)) (ha.trans (if_neg hd))

/-- **A step is a path of moves.** -/
theorem session_path (attached : s.Attached) (other : input.event ≠ .begin) :
    Path s.core (s.step input).core := by
  obtain ⟨event, native⟩ := input
  cases event with
  | begin => exact absurd rfl other
  | setEnabled id enabled => exact command_path (returns_setEnabled enabled) rfl rfl
  | startScan id => exact command_path returns_startScan rfl rfl
  | connect id config secret => exact command_path (returns_connect config secret) rfl rfl
  | disconnect id => exact command_path returns_disconnect rfl rfl
  | cancelScan => exact command_path returns_cancelScan rfl rfl
  | cancelConnect => exact command_path returns_cancelConnect rfl rfl
  | shutdown => exact command_path returns_shutdown rfl rfl
  | post event =>
    refine silent_path rfl ?_ ?_ (by unfold answer; split <;> rfl)
    · simp only [step]
      split
      · exact post_trace _ _
      · rfl
    · intro history
      simp only [step]
      split
      · exact core_post _ _
      · rfl
  | drain =>
    refine silent_path rfl ?_ ?_ (by unfold answer; split <;> rfl)
    · simp only [step, drain]
      repeat' split
      all_goals rfl
    · intro history
      simp only [step, drain]
      repeat' split
      all_goals rfl
  | pump => exact emitted_path rfl (emits_pump attached) (by unfold answer; split <;> rfl)

/-! ## Runs -/

theorem attached_command {r : Status × OrderedInterface} (attached : s.Attached)
    (hr : Returns s.adapter input.event r)
    (hp : s.adapter.step input = if s.adapter.draining then s.adapter else r.2) :
    (s.step input).Attached := by
  intro hd
  change (s.adapter.step input).draining = true at hd
  change (s.adapter.step input).sink_ = true
  rw [hp] at hd ⊢
  split at hd
  · rename_i draining
    rw [if_pos draining]
    exact attached draining
  · rename_i draining
    exact absurd (hr.1.symm.trans hd) draining

theorem attached_step (attached : s.Attached) (other : input.event ≠ .begin) :
    (s.step input).Attached := by
  obtain ⟨event, native⟩ := input
  cases event with
  | begin => exact absurd rfl other
  | setEnabled id enabled => exact attached_command attached (returns_setEnabled enabled) rfl
  | startScan id => exact attached_command attached returns_startScan rfl
  | connect id config secret => exact attached_command attached (returns_connect config secret) rfl
  | disconnect id => exact attached_command attached returns_disconnect rfl
  | cancelScan => exact attached_command attached returns_cancelScan rfl
  | cancelConnect => exact attached_command attached returns_cancelConnect rfl
  | shutdown => exact attached_command attached returns_shutdown rfl
  | post event =>
    simp only [Session.Attached, Session.step, step, post]
    repeat' split
    all_goals exact attached
  | drain =>
    simp only [Session.Attached, Session.step, step, drain]
    repeat' split
    · exact attached
    · exact attached
    · exact id
  | pump =>
    intro hd
    change (s.adapter.pump native).draining = true at hd
    refine ((emits_pump attached).1 : _).trans (attached ?_)
    by_contra draining
    have hp : s.adapter.pump native = s.adapter := by
      unfold pump
      exact if_pos (by simpa using draining)
    rw [hp] at hd
    exact draining hd

/-- A new adapter that has been told to begin. -/
def Session.begun (native : Answers) : Session := Session.step {} { event := .begin, native }

/-- What the sessions start from. -/
def Core.begun (status : Status) : Core where
  live := status = .kOk
  station := none
  scan := none
  cancelling := false
  scanCancelling := false
  waiting := false
  link := {}
  ssid := {}
  history := [.returned .begin status]

theorem begun_spec (native : Answers) :
    (Session.begun native).Attached ∧ (Session.begun native).core = .begun native.attach := by
  by_cases ok : native.attach = .kOk
  · constructor
    · intro _
      simp [Session.begun, Session.step, step, OrderedInterface.begin, ok]
    · simp only [Session.begun, Session.core, Session.step, step, answer, OrderedInterface.begin, ok]
      rfl
  · constructor
    · intro hd
      simp [Session.begun, Session.step, step, OrderedInterface.begin, ok] at hd
    · simp only [Session.begun, Session.core, Session.step, step, answer, OrderedInterface.begin,
        ne_eq, ok, not_false_eq_true, if_true]
      simp [core, Core.begun, deliveries, outstanding, ok]

theorem begun_history (native : Answers) :
    (Session.begun native).history = [.returned .begin native.attach] :=
  congrArg Core.history (begun_spec native).2

/-- **The run rule for sessions.** What every move preserves holds in every
session from its beginning on; none begins twice. -/
theorem session_invariant {J : Core → Prop} (hM : ∀ a b, Move a b → J a → J b)
    {native : Answers} (hs : J (.begun native.attach)) {inputs : List Input}
    (other : ∀ input ∈ inputs, input.event ≠ .begin) :
    J (Machine.run Session.step (Session.begun native) inputs).core := by
  refine (Machine.run_invariant_inputs (I := fun s : Session => s.Attached ∧ J s.core) ?_ ?_ other).2
  · intro s input hb hi
    exact ⟨attached_step hi.1 hb, Machine.path_invariant hM (session_path hi.1 hb) hi.2⟩
  · exact ⟨(begun_spec native).1, (begun_spec native).2 ▸ hs⟩

end OrderedInterface

end RooWifi
