import RooWifi.System.Credentials

/-! # What both levels know of the radio

A controller and its interface each keep whether the radio is enabled, the
phase and identity of the link, the outstanding operations and whether they are
being cancelled. Between the two levels this changes only by the commands that
the interface accepts and by what it tells its sink. Here the interface is
shown to keep to that. -/
namespace RooWifi

open NativeStation (Answers)
open OrderedInterface (Happening outstanding)

@[ext]
structure Radio where
  attached : Bool := false
  enabled : Bool := false
  phase : LinkPhase := .kIdle
  linkId : OperationId := 0
  station : Option (OperationId × OperationKind) := none
  /-- What an outstanding enable asks for. -/
  wanted : Bool := false
  scan : Option (OperationId × OperationKind) := none
  cancelling : Bool := false
  scanCancelling : Bool := false

namespace Radio

/-- An operation of this identity may be started. -/
def Free (r : Radio) (id : OperationId) : Prop :=
  r.attached = true ∧ id ≠ 0 ∧ r.station = none ∧ r.scan = none

/-- An accepted command. -/
def accept (r : Radio) : Esp32IdfInterface.Command → Radio
  | .begin => { r with attached := true }
  | .setEnabled id enabled => { r with station := some (id, .kEnable), wanted := enabled }
  | .startScan id _ => { r with scan := some (id, .kScan) }
  | .connect id _ _ => { r with station := some (id, .kConnect), wanted := false }
  | .disconnect id => { r with station := some (id, .kDisconnect), wanted := false }
  | .cancelScan => { r with scanCancelling := r.scanCancelling || r.scan.isSome }
  | .cancelConnect => { r with cancelling := true }
  | .shutdown =>
    { r with
      attached := false, phase := .kIdle, linkId := 0, station := none, wanted := false
      scan := none }

/-- A command with its answer: a refused one changes nothing. -/
def serve (r : Radio) (x : Esp32IdfInterface.Command × Status) : Radio :=
  if x.2 = .kOk then r.accept x.1 else r

/-- A command comes in turn: an operation while none is outstanding, on an idle
link if it is an enable or a connect, and a cancellation while there is
something to cancel. -/
def Welcomes (r : Radio) : Esp32IdfInterface.Command → Prop
  | .begin | .shutdown => True
  | .setEnabled id _ => r.Free id ∧ r.phase = .kIdle
  | .startScan id _ => r.Free id
  | .connect id _ _ => r.Free id ∧ r.phase = .kIdle ∧ r.enabled = true
  | .disconnect id => r.Free id ∧ r.phase ≠ .kIdle
  | .cancelScan => r.scan.isSome = true ∧ r.scanCancelling = false
  | .cancelConnect => (∃ id, r.station = some (id, .kConnect)) ∧ r.cancelling = false

/-- What the sink is told. -/
def tell (r : Radio) : Happening → Radio
  | .finished result =>
    if result.kind = .kScan then { r with scan := none, scanCancelling := false }
    else { r with station := none, wanted := false, cancelling := false }
  | .linkChanged link => { r with phase := link.phase, linkId := link.connectionId }
  | .enabledChanged enabled => { r with enabled }
  | _ => r

/-- What a successful operation has reported of its effect. -/
def Earned (r : Radio) : OperationId × OperationKind → Prop
  | (_, .kEnable) => r.enabled = r.wanted
  | (_, .kScan) => True
  | (id, .kConnect) => r.phase = .kAddressReady ∧ r.linkId = id
  | (_, .kDisconnect) => r.phase = .kIdle

/-- Only an outstanding connect brings a link up. -/
def Founded (r : Radio) (link : LinkState) : Prop :=
  match link.phase with
  | .kIdle => True
  | .kConnecting => r.station = some (link.connectionId, .kConnect)
  | .kAssociated | .kAddressReady => r.phase ≠ .kIdle

/-- A completion is that of an outstanding operation, and reports an effect that
was told; a link report is about the link there is, or the one that an
outstanding connect brings. -/
def Expects (r : Radio) : Happening → Prop
  | .finished result =>
    (if result.kind = .kScan then r.scan else r.station) = some (result.id, result.kind) ∧
      (result.status = .kOk → r.Earned (result.id, result.kind))
  | .linkChanged link =>
    (link.connectionId = r.linkId ∨ r.station = some (link.connectionId, .kConnect)) ∧
      r.Founded link
  | _ => True

/-- Scans are outstanding as such. -/
structure Sorted (r : Radio) : Prop where
  station : ∀ op, r.station = some op → op.2 ≠ .kScan
  scan : ∀ op, r.scan = some op → op.2 = .kScan

variable {r : Radio}

@[simp] theorem serve_ok (command : Esp32IdfInterface.Command) :
    r.serve (command, .kOk) = r.accept command := if_pos rfl

theorem serve_refused (command : Esp32IdfInterface.Command) {status : Status}
    (refused : status ≠ .kOk) : r.serve (command, status) = r := if_neg refused

theorem Sorted.tell (h : Sorted r) (happening : Happening) : Sorted (r.tell happening) := by
  cases happening with
  | finished result =>
    unfold Radio.tell
    dsimp only
    split
    · exact ⟨h.station, nofun⟩
    · exact ⟨nofun, h.scan⟩
  | linkChanged | enabledChanged => exact ⟨h.station, h.scan⟩
  | _ => exact h

theorem Sorted.run (h : Sorted r) (told : List Happening) : Sorted (Machine.run Radio.tell r told) :=
  Machine.run_invariant_all (fun _ happening h => h.tell happening) h told

end Radio

namespace OrderedInterface

/-- What an outstanding enable asks for. -/
def asks (station : OperationResult) (enabled : Bool) : Bool :=
  decide (station.id ≠ 0 ∧ station.kind = .kEnable) && enabled

def radio (o : OrderedInterface) : Radio where
  attached := o.attached_
  enabled := o.enabled_
  phase := o.link_.phase
  linkId := o.link_.connectionId
  station := outstanding o.station_
  wanted := asks o.station_ o.desiredEnabled_
  scan := outstanding o.scan_
  cancelling := o.cancelling_
  scanCancelling := o.scanCancelling_

variable {o p q : OrderedInterface} {native : Answers} {event : NativeStation.Event}

@[simp] theorem radio_record (h : Happening) : (o.record h).radio = o.radio := rfl

@[simp] theorem radio_post (event : NativeStation.Event) : (o.post event).radio = o.radio := by
  unfold post
  split <;> rfl

theorem radio_posts (posts : List NativeStation.Event) (o : OrderedInterface) :
    (posts.foldl OrderedInterface.post o).radio = o.radio := by
  induction posts generalizing o with
  | nil => rfl
  | cons event posts ih => rw [List.foldl_cons, ih, radio_post]

theorem trace_posts (posts : List NativeStation.Event) (o : OrderedInterface) :
    (posts.foldl OrderedInterface.post o).trace = o.trace := by
  induction posts generalizing o with
  | nil => rfl
  | cons event posts ih => rw [List.foldl_cons, ih, post_trace]

theorem outstanding_none : outstanding {} = none := rfl

theorem asks_none (enabled : Bool) : asks {} enabled = false := rfl

theorem asks_free {r : OperationResult} (free : outstanding r = none) (enabled : Bool) :
    asks r enabled = false := by
  unfold outstanding at free
  split at free
  · simp_all [asks]
  · cases free

theorem asks_enable {r : OperationResult} (hid : r.id ≠ 0) (kind : r.kind = .kEnable)
    (enabled : Bool) : asks r enabled = enabled := by
  simp [asks, hid, kind]

theorem asks_connect (id : OperationId) (enabled : Bool) :
    asks { id, kind := .kConnect } enabled = false := by simp [asks]

theorem asks_disconnect (id : OperationId) (enabled : Bool) :
    asks { id, kind := .kDisconnect } enabled = false := by simp [asks]

/-- An operation that was admitted and then refused leaves nothing outstanding. -/
theorem radio_unstarted (free : outstanding o.station_ = none) {config : ConnectionConfig}
    {secret : Credentials} {waiting desired : Bool} :
    ({ o with station_ := {}, config_ := config, credentials_ := secret
              waitingDisconnect_ := waiting, desiredEnabled_ := desired } :
      OrderedInterface).radio = o.radio := by
  simp only [radio, free, outstanding_none, asks_none, asks_free free]

theorem radio_setEnabled (id : OperationId) (enabled : Bool) :
    (o.setEnabled native id enabled).2.radio =
      o.radio.serve (.setEnabled id enabled, (o.setEnabled native id enabled).1) := by
  unfold setEnabled
  dsimp only
  split
  · rw [Radio.serve_refused _ ‹_›]
  rename_i h
  obtain ⟨hid, -, free, -⟩ := admits_of_admission (not_not.mp h)
  split
  · rw [Radio.serve_refused _ ‹_›]
    exact radio_unstarted free
  · rw [Radio.serve_ok]
    simp only [radio, Radio.accept, outstanding_eq (r := { id, kind := .kEnable }) hid,
      asks_enable (r := { id, kind := .kEnable }) hid rfl]

theorem radio_startScan (id : OperationId) (maxResults : UInt16) :
    (o.startScan native id).2.radio =
      o.radio.serve (.startScan id maxResults, (o.startScan native id).1) := by
  unfold startScan
  dsimp only
  split
  · rw [Radio.serve_refused _ ‹_›]
  rename_i h
  obtain ⟨hid, -, -, free⟩ := admits_of_admission (not_not.mp h)
  split
  · rw [Radio.serve_refused _ Status.noConfusion]
  split
  · rw [Radio.serve_refused _ Status.noConfusion]
  split
  · rw [Radio.serve_refused _ ‹_›]
    simp only [radio, free, outstanding_none]
  · rw [Radio.serve_ok]
    simp only [radio, Radio.accept, outstanding_eq (r := { id, kind := .kScan }) hid]

theorem radio_connect (id : OperationId) (config : ConnectionConfig) (secret : Credentials) :
    (o.connect native id config secret).2.radio =
      o.radio.serve (.connect id config secret, (o.connect native id config secret).1) := by
  unfold connect
  dsimp only
  split
  · rw [Radio.serve_refused _ ‹_›]
  rename_i h
  obtain ⟨hid, -, free, -⟩ := admits_of_admission (not_not.mp h)
  split
  · rw [Radio.serve_refused _ Status.noConfusion]
  split
  · rw [Radio.serve_refused _ ‹_›]
  split
  · rw [Radio.serve_refused _ ‹_›]
  have connecting : outstanding { id, kind := .kConnect } = some (id, .kConnect) :=
    outstanding_eq (r := { id, kind := .kConnect }) hid
  split
  · split
    · rw [Radio.serve_ok, radio_record, radio_post]
      simp only [radio, Radio.accept, connecting, asks_connect]
    · split
      · rw [Radio.serve_refused _ ‹_›]
        exact radio_unstarted free
      · rw [Radio.serve_ok]
        simp only [radio, record, Radio.accept, connecting, asks_connect]
  · rw [Radio.serve_ok]
    simp only [radio, record, Radio.accept, connecting, asks_connect]

theorem radio_disconnect (id : OperationId) :
    (o.disconnect native id).2.radio =
      o.radio.serve (.disconnect id, (o.disconnect native id).1) := by
  unfold disconnect
  dsimp only
  split
  · rw [Radio.serve_refused _ ‹_›]
  rename_i h
  obtain ⟨hid, -, free, -⟩ := admits_of_admission (not_not.mp h)
  have leaving : outstanding { id, kind := .kDisconnect } = some (id, .kDisconnect) :=
    outstanding_eq (r := { id, kind := .kDisconnect }) hid
  generalize (if o.link_.phase = .kIdle then Status.kNotFound else native.disconnect) = status
  split
  · rw [Radio.serve_ok, radio_post]
    simp only [radio, Radio.accept, leaving, asks_disconnect]
  split
  · rw [Radio.serve_refused _ ‹_›]
    exact radio_unstarted free
  · rw [Radio.serve_ok]
    simp only [radio, Radio.accept, leaving, asks_disconnect]

theorem radio_cancelScan :
    (o.cancelScan native).2.radio = o.radio.serve (.cancelScan, (o.cancelScan native).1) := by
  unfold cancelScan
  split
  · rename_i h
    rw [Radio.serve_ok]
    obtain free | cancelling := h
    · simp [radio, Radio.accept, outstanding, free]
    · simp [radio, Radio.accept, cancelling]
  rename_i h
  rw [not_or] at h
  split
  · rw [Radio.serve_refused _ ‹_›]
  · rw [Radio.serve_ok]
    simp [radio, Radio.accept, outstanding, h.1]

theorem radio_cancelConnect :
    (o.cancelConnect native).2.radio =
      o.radio.serve (.cancelConnect, (o.cancelConnect native).1) := by
  unfold cancelConnect
  split
  · rw [Radio.serve_refused _ Status.noConfusion]
  split
  · rename_i cancelling
    rw [Radio.serve_ok]
    simp [radio, Radio.accept, cancelling]
  split
  · split
    · rw [Radio.serve_ok]
      have same := o.radio_post { kind := .kDisconnected, link := o.link_ }
      simp only [radio, Radio.mk.injEq] at same
      simp only [radio, Radio.accept, same]
    split
    · rw [Radio.serve_refused _ ‹_›]
    · rw [Radio.serve_ok]
      rfl
  · rw [Radio.serve_ok]
    rfl

theorem radio_begin :
    (o.begin native).2.radio = o.radio.serve (.begin, (o.begin native).1) := by
  unfold OrderedInterface.begin
  split
  · rw [Radio.serve_refused _ Status.noConfusion]
  dsimp only
  split
  · rw [Radio.serve_refused _ ‹_›]
    rfl
  · rw [Radio.serve_ok]
    rfl

theorem radio_shutdown : o.shutdown.radio = o.radio.serve (.shutdown, .kOk) := rfl

/-! ## Iterations of the drain -/

/-- From `o` to `p` the sink is told of all that changes, and only of what it
expects. -/
def Tells (o p : OrderedInterface) : Prop :=
  o.radio.Sorted → ∃ told : List Happening, p.trace = told.reverse ++ o.trace ∧
    p.radio = Machine.run Radio.tell o.radio told ∧
    Machine.Along Radio.tell Radio.Expects o.radio told

theorem Tells.of_same (trace : p.trace = o.trace) (radio : p.radio = o.radio) : Tells o p :=
  fun _ => ⟨[], trace, radio, trivial⟩

theorem Tells.trans (h : Tells o p) (h' : Tells p q) : Tells o q := by
  intro sorted
  obtain ⟨told, trace, radio, expected⟩ := h sorted
  have sorted' : p.radio.Sorted := by
    rw [radio]
    exact sorted.run told
  obtain ⟨told', trace', radio', expected'⟩ := h' sorted'
  refine ⟨told ++ told', ?_, ?_, ?_⟩
  · rw [trace', trace, List.reverse_append, List.append_assoc]
  · rw [radio', radio, Machine.run_append]
  · rw [radio] at expected'
    exact Machine.along_append.mpr ⟨expected, expected'⟩

theorem Tells.one {h : Happening} (trace : p.trace = h :: o.trace)
    (radio : p.radio = o.radio.tell h) (expected : o.radio.Sorted → o.radio.Expects h) :
    Tells o p :=
  fun sorted => ⟨[h], trace, radio, expected sorted, trivial⟩

/-- What is recorded for no sink. -/
theorem tells_record {h : Happening} (private_ : told h = false) : Tells o (o.record h) := by
  have same : o.radio.tell h = o.radio := by
    cases h with
    | finished | linkChanged | enabledChanged => cases private_
    | _ => rfl
  refine .one rfl same.symm fun _ => ?_
  cases h with
  | finished | linkChanged | enabledChanged => cases private_
  | _ => trivial

theorem tells_linkChanged {link : LinkState}
    (current : link.connectionId = o.link_.connectionId ∨
      outstanding o.station_ = some (link.connectionId, .kConnect))
    (founded : o.radio.Founded link) : Tells o (o.linkChanged link) :=
  .one rfl rfl fun _ => ⟨current, founded⟩

/-- A link that goes down. -/
theorem tells_linkDown {link : LinkState} (current : link.connectionId = o.link_.connectionId)
    (down : link.phase = .kIdle) : Tells o (o.linkChanged link) :=
  tells_linkChanged (.inl current) (by simp only [Radio.Founded, down])

/-- A link that stays up. -/
theorem tells_linkUp {link : LinkState} (current : link.connectionId = o.link_.connectionId)
    (up : o.link_.phase ≠ .kIdle) (started : link.phase ≠ .kConnecting) :
    Tells o (o.linkChanged link) := by
  refine tells_linkChanged (.inl current) ?_
  unfold Radio.Founded
  cases phase : link.phase with
  | kIdle => trivial
  | kConnecting => exact absurd phase started
  | kAssociated | kAddressReady => exact up

theorem tells_finishStation {error : Status} (code : Int) (failure : ConnectionFailure)
    (earned : error = .kOk → o.station_.id ≠ 0 →
      o.radio.Earned (o.station_.id, o.station_.kind)) :
    Tells o (o.finishStation error code failure) := by
  unfold finishStation
  split
  · exact .of_same rfl rfl
  rename_i hid
  have pending : o.radio.station = some (o.station_.id, o.station_.kind) := outstanding_eq hid
  intro sorted
  have other := sorted.station _ pending
  refine Tells.one rfl ?_ (fun _ => ?_) sorted
  · simp only [radio, record, Radio.tell, if_neg other, outstanding_none, asks_none]
  · simp only [Radio.Expects, if_neg other]
    refine ⟨pending, fun ok => earned ?_ hid⟩
    split at ok
    · cases ok
    · exact ok

/-- An operation that fails. -/
theorem tells_failed {error : Status} (code : Int) (failure : ConnectionFailure)
    (failed : error ≠ .kOk) : Tells o (o.finishStation error code failure) :=
  tells_finishStation code failure fun ok => absurd ok failed

theorem tells_finishScan (error : Status) (code : Int) : Tells o (o.finishScan error code) := by
  unfold finishScan
  split
  · exact .of_same rfl rfl
  rename_i hid
  have pending : o.radio.scan = some (o.scan_.id, o.scan_.kind) := outstanding_eq hid
  intro sorted
  have scan : o.scan_.kind = .kScan := sorted.scan _ pending
  refine Tells.one rfl ?_ (fun _ => ?_) sorted
  · simp only [radio, record, Radio.tell, if_pos scan, outstanding_none]
  · simp only [Radio.Expects, if_pos scan]
    refine ⟨pending, fun _ => ?_⟩
    simp only [scan, Radio.Earned]

theorem tells_processEnabled : Tells o (o.processEnabled event) := by
  unfold processEnabled
  generalize decide (event.kind = .kEnabled) = enabled
  dsimp only
  have first : Tells o ({ o with enabled_ := enabled }.record (.enabledChanged enabled)) :=
    .one rfl rfl fun _ => trivial
  have finish {p : OrderedInterface} (same : p.enabled_ = enabled) : Tells p
      (if p.station_.id ≠ 0 ∧ p.station_.kind = .kEnable ∧ enabled = p.desiredEnabled_ then
        p.finishStation event.status event.nativeCode else p) := by
    split
    · rename_i done
      refine tells_finishStation _ _ fun _ hid => ?_
      simp only [Radio.Earned, done.2.1]
      exact (same.trans done.2.2).trans (asks_enable hid done.2.1 _).symm
    · exact .of_same rfl rfl
  refine first.trans ?_
  split
  · refine (tells_linkDown ?_ ?_).trans (finish ?_)
    all_goals rfl
  · exact finish rfl

theorem tells_processPrepared : Tells o (o.processPrepared native) := by
  unfold processPrepared
  split
  · refine (tells_record (h := .nativeContinue o.station_.id native.continueConnect) rfl).trans ?_
    dsimp only
    split
    · rename_i failed
      refine (tells_linkDown ?_ ?_).trans (tells_failed _ _ failed)
      all_goals rfl
    · exact .of_same rfl rfl
  · exact .of_same rfl rfl

theorem tells_processAssociated : Tells o (o.processAssociated event) := by
  unfold processAssociated
  split
  · exact .of_same rfl rfl
  · rename_i expected
    have connecting : o.link_.phase = .kConnecting := by
      by_contra other
      exact expected (.inl other)
    refine tells_linkUp rfl ?_ ?_
    · simp [connecting]
    · simp

/-- An update without an address is not told, and is of no concern here. -/
theorem tells_processAddressReady : Tells o (o.processAddressReady event) := by
  unfold processAddressReady
  split
  · exact .of_same rfl rfl
  split
  · exact .of_same rfl rfl
  rename_i expected
  have up : o.link_.phase ≠ .kIdle := by
    intro idle
    exact expected (.inl (by simp [idle]))
  dsimp only
  split
  · exact .of_same rfl rfl
  split
  · rename_i own
    refine (tells_linkUp ?_ up ?_).trans (tells_finishStation _ _ fun _ _ => ?_)
    · rfl
    · simp
    · simp only [Radio.Earned, own.1]
      exact ⟨rfl, own.2.symm⟩
  · exact tells_linkUp rfl up (by simp)

theorem tells_processAddressLost : Tells o o.processAddressLost := by
  unfold processAddressLost
  split
  · rename_i ready
    exact tells_linkUp rfl (by simp [ready]) (by simp)
  · exact .of_same rfl rfl

theorem disconnectedLink_down (link : LinkState) (event : NativeStation.Event) :
    (disconnectedLink link event).connectionId = link.connectionId ∧
      (disconnectedLink link event).phase = .kIdle ∧
      (disconnectedLink link event).reason ≠ .kOk := by
  have reason : (if event.status = .kOk then Status.kConnectionFailed else event.status) ≠ .kOk := by
    split
    · exact Status.noConfusion
    · assumption
  unfold disconnectedLink
  dsimp only
  split <;> exact ⟨rfl, rfl, reason⟩

theorem tells_processDisconnected : Tells o (o.processDisconnected event) := by
  unfold processDisconnected
  split
  · exact .of_same rfl rfl
  obtain ⟨current, down, reason⟩ := disconnectedLink_down o.link_ event
  have told : Tells o ((o.linkChanged (disconnectedLink o.link_ event)).record
      (.disconnected event)) :=
    (tells_linkDown current down).trans (tells_record rfl)
  refine told.trans ?_
  dsimp only
  split
  · exact .of_same rfl rfl
  split
  · exact .of_same rfl rfl
  split
  · refine tells_finishStation _ _ fun ok _ => ?_
    split at ok
    · rename_i leaving
      simp only [Radio.Earned, leaving]
      exact down
    · exact absurd ok reason
  · exact .of_same rfl rfl

theorem tells_process : Tells o (o.process native event) := by
  unfold process
  split
  · exact .of_same rfl rfl
  cases event.kind with
  | kEnabled | kDisabled => exact tells_processEnabled
  | kPrepared => exact tells_processPrepared
  | kScanDone => exact tells_finishScan _ _
  | kAssociated => exact tells_processAssociated
  | kAddressReady => exact tells_processAddressReady
  | kAddressLost => exact tells_processAddressLost
  | kDisconnected => exact tells_processDisconnected

/-- A connection starts with the identity of its connect. -/
theorem tells_startConnection (hid : o.station_.id ≠ 0) (kind : o.station_.kind = .kConnect) :
    Tells o (o.startConnection native) := by
  unfold startConnection
  have pending : outstanding o.station_ = some (o.station_.id, .kConnect) :=
    (outstanding_eq hid).trans (by rw [kind])
  have start : Tells o (o.linkChanged
      { connectionId := o.station_.id, ssid := o.config_.ssid, security := o.config_.security
        phase := .kConnecting }) := tells_linkChanged (.inr pending) pending
  refine start.trans ?_
  generalize o.linkChanged { connectionId := o.station_.id, ssid := o.config_.ssid
                             security := o.config_.security, phase := .kConnecting } = p
  refine Tells.trans (p := { p with credentials_ := {} }) (.of_same rfl rfl) ?_
  refine Tells.trans (tells_record (h := .nativeConnect p.station_.id native.connect) rfl) ?_
  dsimp only
  split
  · rename_i failed
    refine (tells_linkDown ?_ ?_).trans (tells_failed _ _ failed)
    all_goals rfl
  · exact .of_same rfl rfl

theorem tells_drained : Tells o (o.drained native) := by
  unfold drained
  split
  · rename_i h
    split
    · exact tells_failed _ _ Status.noConfusion
    · exact tells_startConnection h.1 h.2.1
  · exact .of_same rfl rfl

/-- **The sink is told of all that changes.** -/
theorem tells_pump : Tells o (o.pump native) := by
  unfold pump
  split
  · exact .of_same rfl rfl
  split
  · refine Tells.trans (p := { o with queue_ := [], faulted_ := true, draining := false })
      (.of_same rfl rfl) ((tells_record (h := .overflow) rfl).trans ?_)
    exact (tells_failed _ _ Status.noConfusion).trans (tells_finishScan _ _)
  split
  · exact Tells.trans (p := { o with draining := false }) (.of_same rfl rfl) tells_drained
  · rename_i q queue _
    exact Tells.trans (p := { o with queue_ := queue }) (.of_same rfl rfl) tells_process

theorem Tells.posts (h : Tells o p) (posts : List NativeStation.Event) :
    Tells o (posts.foldl OrderedInterface.post p) :=
  h.trans (.of_same (trace_posts posts p) (radio_posts posts p))

end OrderedInterface

namespace Esp32IdfInterface

variable {s : Esp32IdfInterface}

theorem serve_radio (event : OrderedInterface.Event) (maxResults : UInt16) (idf : Idf) :
    (s.serve event maxResults idf).ordered.radio =
      (s.ordered.step (s.answered event (s.outcome event maxResults idf).1)).radio :=
  OrderedInterface.radio_posts _ _

/-- **A command does to the radio what its answer says.** -/
theorem command_radio (c : Command) (idf : Idf) :
    (s.step { event := .command c, idf }).ordered.radio =
      (s.returned { event := .command c, idf }).toList.foldl Radio.serve s.ordered.radio := by
  refine (serve_radio _ _ _).trans ?_
  unfold returned answer
  dsimp only
  generalize (s.outcome c.event c.maxResults idf).1 = status
  unfold OrderedInterface.step OrderedInterface.answer
  cases draining : s.ordered.draining with
  | true => cases c <;> rfl
  | false =>
    cases c with
    | begin => exact OrderedInterface.radio_begin
    | setEnabled id enabled => exact OrderedInterface.radio_setEnabled id enabled
    | startScan id maxResults => exact OrderedInterface.radio_startScan id maxResults
    | connect id config secret => exact OrderedInterface.radio_connect id config secret
    | disconnect id => exact OrderedInterface.radio_disconnect id
    | cancelScan => exact OrderedInterface.radio_cancelScan
    | cancelConnect => exact OrderedInterface.radio_cancelConnect
    | shutdown => exact OrderedInterface.radio_shutdown

/-- A step without a command. -/
theorem tells_step {input : Input} (uncalled : ∀ c, input.event ≠ .command c) :
    s.ordered.Tells (s.step input).ordered := by
  obtain ⟨event, idf⟩ := input
  cases event with
  | command c => exact absurd rfl (uncalled c)
  | native e => exact (OrderedInterface.Tells.of_same rfl rfl).posts _
  | drain =>
    refine OrderedInterface.Tells.posts (.of_same ?_ ?_) _ <;>
    · simp only [OrderedInterface.step, answered, OrderedInterface.drain]
      repeat' split
      all_goals rfl
  | pump => exact OrderedInterface.tells_pump.posts _

theorem native_radio (e : IdfEvent) (idf : Idf) :
    (s.step { event := .native e, idf }).ordered.radio = s.ordered.radio :=
  OrderedInterface.radio_posts _ _

theorem returns_cons (input : Input) (inputs : List Input) :
    s.returns (input :: inputs) = (s.returned input).toList ++ (s.step input).returns inputs := by
  unfold returns
  cases returned : s.returned input <;> simp [Machine.outputs, returned]

theorem step_radio {input : Input} (within : input.event.within = true) :
    (s.step input).ordered.radio =
      (s.returned input).toList.foldl Radio.serve s.ordered.radio := by
  obtain ⟨event, idf⟩ := input
  cases event with
  | command c => exact command_radio c idf
  | native e => exact native_radio e idf
  | drain | pump => cases within

/-- **The commands of a call, with their answers, are all that changes.** -/
theorem run_radio (inputs : List Input) (within : ∀ input ∈ inputs, input.event.within = true) :
    (Machine.run step s inputs).ordered.radio =
      (s.returns inputs).foldl Radio.serve s.ordered.radio := by
  induction inputs generalizing s with
  | nil => rfl
  | cons input inputs ih =>
    rw [Machine.run_cons, ih fun input mem => within input (List.mem_cons_of_mem _ mem),
      step_radio (within _ List.mem_cons_self), returns_cons, List.foldl_append]

end Esp32IdfInterface

end RooWifi
