import RooWifi.OrderedInterface.Session

/-! # What the adapter asks of its station

`calls` lists the native calls of a step, with their arguments. No step looks at
the trace: what it adds is the same above any older one. -/
namespace RooWifi

namespace NativeStation

/-- A call of the native station. The capacity of a scan is only passed on. -/
inductive Call where
  | attach | detach
  | enable (enabled : Bool)
  | scan | stopScan
  | connect (config : ConnectionConfig) (credentials : Credentials)
  | continueConnect | disconnect
deriving DecidableEq

end NativeStation

open NativeStation (EventKind Answers Call)

namespace OrderedInterface

/-! ## Native calls -/

def beginCalls (o : OrderedInterface) : List Call := if o.attached_ then [] else [.attach]

def setEnabledCalls (o : OrderedInterface) (id : OperationId) (enabled : Bool) : List Call :=
  if o.stationAdmission id ≠ .kOk then [] else [.enable enabled]

def startScanCalls (o : OrderedInterface) (native : Answers) (id : OperationId) : List Call :=
  if o.stationAdmission id ≠ .kOk then []
  else if !o.enabled_ then []
  else if o.link_.phase ≠ .kIdle ∧ !native.support.scanWhileConnected then []
  else [.scan]

/-- A connect is handed over by the drain; the command only takes the old link down. -/
def connectCalls (o : OrderedInterface) (native : Answers) (id : OperationId)
    (config : ConnectionConfig) (secret : Credentials) : List Call :=
  if o.stationAdmission id ≠ .kOk then []
  else if !o.enabled_ then []
  else if Validate config secret ≠ .kOk then []
  else if ValidateSupport config native.support ≠ .kOk then []
  else if o.link_.phase ≠ .kIdle then [.disconnect]
  else []

def disconnectCalls (o : OrderedInterface) (id : OperationId) : List Call :=
  if o.stationAdmission id ≠ .kOk then []
  else if o.link_.phase = .kIdle then []
  else [.disconnect]

def cancelScanCalls (o : OrderedInterface) : List Call :=
  if o.scan_.id = 0 ∨ o.scanCancelling_ then [] else [.stopScan]

def cancelConnectCalls (o : OrderedInterface) : List Call :=
  if o.station_.id = 0 ∨ o.station_.kind ≠ .kConnect then []
  else if o.cancelling_ then []
  else if !o.waitingDisconnect_ ∧ o.link_.phase ≠ .kIdle then [.disconnect]
  else []

def shutdownCalls (o : OrderedInterface) : List Call := if o.attached_ then [.detach] else []

def processCalls (o : OrderedInterface) (event : NativeStation.Event) : List Call :=
  if o.faulted_ then []
  else if event.kind = .kPrepared ∧ o.station_.id ≠ 0 ∧ o.station_.kind = .kConnect ∧
      !o.waitingDisconnect_ ∧ !o.cancelling_ then [.continueConnect]
  else []

/-- An outstanding connect is due to be handed over when the drain ends. -/
def Due (o : OrderedInterface) : Prop :=
  (o.station_.id ≠ 0 ∧ o.station_.kind = .kConnect ∧ !o.waitingDisconnect_ ∧
    o.link_.phase = .kIdle) ∧ o.cancelling_ = false

instance (o : OrderedInterface) : Decidable o.Due := inferInstanceAs (Decidable (_ ∧ _))

def drainedCalls (o : OrderedInterface) : List Call :=
  if o.Due then [.connect o.config_ o.credentials_] else []

def pumpCalls (o : OrderedInterface) : List Call :=
  if !o.draining then []
  else if o.overflow_ then []
  else
    match o.queue_ with
    | [] => o.drainedCalls
    | q :: _ => o.processCalls q.expand

/-- The native calls of a step. -/
def calls (o : OrderedInterface) (input : Input) : List Call :=
  match input.event with
  | .post _ | .drain => []
  | .pump => o.pumpCalls
  | command =>
    if o.draining then []
    else
      match command with
      | .begin => o.beginCalls
      | .setEnabled id enabled => o.setEnabledCalls id enabled
      | .startScan id => o.startScanCalls input.native id
      | .connect id config credentials => o.connectCalls input.native id config credentials
      | .disconnect id => o.disconnectCalls id
      | .cancelScan => o.cancelScanCalls
      | .cancelConnect => o.cancelConnectCalls
      | .shutdown => o.shutdownCalls
      | _ => []

/-! ## Iterations of the drain -/

section Pump

variable {o : OrderedInterface} {native : Answers}

theorem pump_stopped (stopped : o.draining = false) : o.pump native = o := by
  simp [pump, stopped]

theorem pump_overflow (draining : o.draining = true) (overflow : o.overflow_ = true) :
    o.pump native =
      (({ o with queue_ := [], faulted_ := true, draining := false }.record .overflow).finishStation
        .kConnectionFailed).finishScan .kConnectionFailed := by
  simp only [pump, draining, overflow, Bool.not_true, Bool.false_eq_true, if_false, if_true]

theorem pump_ended (draining : o.draining = true) (fits : o.overflow_ = false)
    (empty : o.queue_ = []) : o.pump native = { o with draining := false }.drained native := by
  simp only [pump, draining, fits, empty, Bool.not_true, Bool.false_eq_true, if_false]

theorem pump_processed (draining : o.draining = true) (fits : o.overflow_ = false)
    {q : QueuedEvent} {queue : List QueuedEvent} (waiting : o.queue_ = q :: queue) :
    o.pump native = { o with queue_ := queue }.process native q.expand := by
  simp only [pump, draining, fits, waiting, Bool.not_true, Bool.false_eq_true, if_false]

theorem process_faulted (faulted : o.faulted_ = true) (event : NativeStation.Event) :
    o.process native event = o := by
  simp only [process, faulted, if_true]

end Pump

/-! ## Connecting -/

/-- The adapter with an admitted connect. -/
def loaded (o : OrderedInterface) (id : OperationId) (config : ConnectionConfig)
    (secret : Credentials) : OrderedInterface :=
  { o with station_ := { id, kind := .kConnect }, config_ := config, credentials_ := secret }

/-- **What `connect` can do.** It is refused and leaves all as it is, or it is
admitted: with an idle link at once, otherwise once the old link is gone. -/
theorem connect_outcomes (o : OrderedInterface) (native : Answers) (id : OperationId)
    (config : ConnectionConfig) (secret : Credentials) :
    (∃ status, status ≠ .kOk ∧ o.connect native id config secret = (status, o)) ∨
      (o.stationAdmission id = .kOk ∧ o.enabled_ = true ∧
        ((o.link_.phase = .kIdle ∧ o.connect native id config secret =
            (.kOk, { o.loaded id config secret with scheduled_ := true }.record (.admitted id))) ∨
          (o.link_.phase ≠ .kIdle ∧ native.disconnect = .kOk ∧ o.connect native id config secret =
            (.kOk, { o.loaded id config secret with waitingDisconnect_ := true }.record
              (.admitted id))) ∨
          (o.link_.phase ≠ .kIdle ∧ native.disconnect = .kNotFound ∧
            o.connect native id config secret =
              (.kOk, ({ o.loaded id config secret with waitingDisconnect_ := true }.post
                { kind := .kDisconnected, link := o.link_ }).record (.admitted id))) ∨
          (o.link_.phase ≠ .kIdle ∧ native.disconnect ≠ .kOk ∧
            o.connect native id config secret =
              (native.disconnect, { o.loaded id config secret with
                station_ := {}, waitingDisconnect_ := false, credentials_ := {} })))) := by
  generalize connected : o.connect native id config secret = r
  unfold connect at connected
  dsimp only at connected
  split at connected
  · rename_i refused
    exact .inl ⟨_, refused, connected.symm⟩
  rename_i admitted
  split at connected
  · exact .inl ⟨_, Status.noConfusion, connected.symm⟩
  rename_i enabled
  split at connected
  · rename_i invalid
    exact .inl ⟨_, invalid, connected.symm⟩
  split at connected
  · rename_i unsupported
    exact .inl ⟨_, unsupported, connected.symm⟩
  refine .inr ⟨not_not.mp admitted, by simpa using enabled, ?_⟩
  split at connected
  · rename_i linked
    refine .inr ?_
    split at connected
    · rename_i vacant
      exact .inr (.inl ⟨linked, vacant, connected.symm⟩)
    split at connected
    · rename_i failed
      exact .inr (.inr ⟨linked, failed, connected.symm⟩)
    · rename_i disconnecting
      exact .inl ⟨linked, not_not.mp disconnecting, connected.symm⟩
  · rename_i idle
    exact .inl ⟨not_not.mp idle, connected.symm⟩

/-! ## Traces are only added to -/

/-- The adapter over an older trace. -/
def under (t : List Happening) (o : OrderedInterface) : OrderedInterface :=
  { o with trace := o.trace ++ t }

section Under

variable (t : List Happening) (o : OrderedInterface) (h : Happening) (link : LinkState)
  (event : NativeStation.Event) (native : Answers)

@[simp] theorem under_trace : (under t o).trace = o.trace ++ t := rfl

@[simp] theorem record_under : (under t o).record h = under t (o.record h) := rfl

@[simp] theorem linkChanged_under : (under t o).linkChanged link = under t (o.linkChanged link) :=
  rfl

@[simp] theorem post_under : (under t o).post event = under t (o.post event) := by
  unfold post
  split <;> simp_all [under]

@[simp] theorem finishStation_under (error : Status) (code : Int) (failure : ConnectionFailure) :
    (under t o).finishStation error code failure =
      under t (o.finishStation error code failure) := by
  simp only [finishStation, apply_ite (under t)]
  rfl

@[simp] theorem finishScan_under (error : Status) (code : Int) :
    (under t o).finishScan error code = under t (o.finishScan error code) := by
  simp only [finishScan, apply_ite (under t)]
  rfl

theorem startConnection_under :
    (under t o).startConnection native = under t (o.startConnection native) := by
  simp only [startConnection, apply_ite (under t), ← finishStation_under]
  rfl

theorem processEnabled_under :
    (under t o).processEnabled event = under t (o.processEnabled event) := by
  unfold processEnabled finishStation linkChanged record under
  dsimp only
  split_ifs <;> rfl

theorem processPrepared_under :
    (under t o).processPrepared native = under t (o.processPrepared native) := by
  simp only [processPrepared, apply_ite (under t), ← finishStation_under]
  rfl

theorem processAssociated_under :
    (under t o).processAssociated event = under t (o.processAssociated event) := by
  simp only [processAssociated, apply_ite (under t)]
  rfl

theorem processAddressReady_under :
    (under t o).processAddressReady event = under t (o.processAddressReady event) := by
  simp only [processAddressReady, apply_ite (under t), ← finishStation_under]
  rfl

theorem processAddressLost_under :
    (under t o).processAddressLost = under t o.processAddressLost := by
  simp only [processAddressLost, apply_ite (under t)]
  rfl

theorem processDisconnected_under :
    (under t o).processDisconnected event = under t (o.processDisconnected event) := by
  simp only [processDisconnected, apply_ite (under t), ← finishStation_under]
  rfl

theorem process_under : (under t o).process native event = under t (o.process native event) := by
  unfold process
  change (if o.faulted_ then _ else _) = _
  split
  · rfl
  cases event.kind with
  | kEnabled | kDisabled => exact processEnabled_under t o event
  | kPrepared => exact processPrepared_under t o native
  | kScanDone => exact finishScan_under t o event.status event.nativeCode
  | kAssociated => exact processAssociated_under t o event
  | kAddressReady => exact processAddressReady_under t o event
  | kAddressLost => exact processAddressLost_under t o
  | kDisconnected => exact processDisconnected_under t o event

theorem drained_under : (under t o).drained native = under t (o.drained native) := by
  unfold drained
  change (if o.station_.id ≠ 0 ∧ o.station_.kind = .kConnect ∧ !o.waitingDisconnect_ ∧
      o.link_.phase = .kIdle then if o.cancelling_ then _ else _ else _) = _
  split
  · split
    · exact finishStation_under t o .kCancelled 0 .kNone
    · exact startConnection_under t o native
  · rfl

theorem pump_under : (under t o).pump native = under t (o.pump native) := by
  unfold pump
  change (if !o.draining then _ else if o.overflow_ then _ else _) = _
  split
  · rfl
  split
  · change (finishStation (under t (record { o with
      queue_ := [], faulted_ := true, draining := false } .overflow))
        .kConnectionFailed).finishScan .kConnectionFailed = _
    rw [finishStation_under, finishScan_under]
  rw [show (under t o).queue_ = o.queue_ from rfl]
  split
  · exact drained_under t { o with draining := false } native
  · rename_i q queue _
    exact process_under t { o with queue_ := queue } q.expand native

end Under

/-! ## Commands -/

section Commands

variable (t : List Happening) (o : OrderedInterface) (native : Answers) (id : OperationId)

@[simp] theorem stationAdmission_under :
    (under t o).stationAdmission id = o.stationAdmission id := rfl

/-- What a command returns, with the adapter over the older trace. -/
def answerUnder (r : Status × OrderedInterface) : Status × OrderedInterface := (r.1, under t r.2)

theorem begin_under :
    (under t o).begin native = ((o.begin native).1, under t (o.begin native).2) := by
  change _ = answerUnder t (o.begin native)
  simp only [begin, apply_ite (answerUnder t)]
  rfl

theorem setEnabled_under (enabled : Bool) : (under t o).setEnabled native id enabled =
    ((o.setEnabled native id enabled).1, under t (o.setEnabled native id enabled).2) := by
  change _ = answerUnder t (o.setEnabled native id enabled)
  simp only [setEnabled, stationAdmission_under, apply_ite (answerUnder t)]
  rfl

theorem startScan_under : (under t o).startScan native id =
    ((o.startScan native id).1, under t (o.startScan native id).2) := by
  change _ = answerUnder t (o.startScan native id)
  simp only [startScan, stationAdmission_under, apply_ite (answerUnder t)]
  rfl

theorem connect_under (config : ConnectionConfig) (secret : Credentials) :
    (under t o).connect native id config secret =
      ((o.connect native id config secret).1,
        under t (o.connect native id config secret).2) := by
  change _ = answerUnder t (o.connect native id config secret)
  simp only [connect, stationAdmission_under, apply_ite (answerUnder t)]
  simp only [answerUnder, ← record_under, ← post_under]
  rfl

theorem disconnect_under : (under t o).disconnect native id =
    ((o.disconnect native id).1, under t (o.disconnect native id).2) := by
  change _ = answerUnder t (o.disconnect native id)
  simp only [disconnect, stationAdmission_under, apply_ite (answerUnder t)]
  simp only [answerUnder, ← post_under]
  rfl

theorem cancelScan_under : (under t o).cancelScan native =
    ((o.cancelScan native).1, under t (o.cancelScan native).2) := by
  change _ = answerUnder t (o.cancelScan native)
  simp only [cancelScan, apply_ite (answerUnder t)]
  rfl

theorem cancelConnect_under : (under t o).cancelConnect native =
    ((o.cancelConnect native).1, under t (o.cancelConnect native).2) := by
  change _ = answerUnder t (o.cancelConnect native)
  simp only [cancelConnect, apply_ite (answerUnder t)]
  simp only [answerUnder, post_under]
  rfl

theorem drain_under : (under t o).drain = under t o.drain := by
  unfold drain under
  dsimp only
  split_ifs <;> rfl

/-- **No step looks at the trace.** -/
theorem step_under (input : Input) : (under t o).step input = under t (o.step input) := by
  obtain ⟨event, native⟩ := input
  have later {p q : OrderedInterface} (hp : q = under t p) :
      (if o.draining then under t o else q) = under t (if o.draining then o else p) := by
    rw [hp]
    exact (apply_ite (under t) _ _ _).symm
  have command {r r' : Status × OrderedInterface} (hr : r' = (r.1, under t r.2)) :
      (if o.draining then under t o else r'.2) = under t (if o.draining then o else r.2) :=
    later (congrArg Prod.snd hr)
  cases event with
  | post event =>
    change (if o.attached_ then (under t o).post event else under t o) = _
    rw [post_under]
    exact (apply_ite (under t) _ _ _).symm
  | begin => exact command (begin_under t o native)
  | setEnabled id enabled => exact command (setEnabled_under t o native id enabled)
  | startScan id => exact command (startScan_under t o native id)
  | connect id config secret => exact command (connect_under t o native id config secret)
  | disconnect id => exact command (disconnect_under t o native id)
  | cancelScan => exact command (cancelScan_under t o native)
  | cancelConnect => exact command (cancelConnect_under t o native)
  | shutdown => exact later rfl
  | drain => exact later (drain_under t o)
  | pump => exact pump_under t o native

/-- Nor does what a command returns. -/
theorem answer_under (input : Input) : (under t o).answer input = o.answer input := by
  obtain ⟨event, native⟩ := input
  have command {r r' : Status × OrderedInterface} (hr : r' = (r.1, under t r.2)) :
      (if o.draining then none else some r'.1) = if o.draining then none else some r.1 := by
    rw [hr]
  cases event with
  | begin => exact command (begin_under t o native)
  | setEnabled id enabled => exact command (setEnabled_under t o native id enabled)
  | startScan id => exact command (startScan_under t o native id)
  | connect id config secret => exact command (connect_under t o native id config secret)
  | disconnect id => exact command (disconnect_under t o native id)
  | cancelScan => exact command (cancelScan_under t o native)
  | cancelConnect => exact command (cancelConnect_under t o native)
  | shutdown => rfl
  | post | drain | pump => rfl

theorem calls_under (input : Input) : (under t o).calls input = o.calls input := rfl

end Commands

end OrderedInterface

end RooWifi
