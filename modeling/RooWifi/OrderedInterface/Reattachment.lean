import RooWifi.OrderedInterface.Frame

/-! # Attaching an adapter again

What a step shows is what its command returns, the native calls it makes and
what it tells the sink. Two adapters are indistinguishable when every list of
inputs shows the same on both. -/
namespace RooWifi

open NativeStation (EventKind Answers Call)

namespace OrderedInterface

/-! ## What can be seen -/

/-- What a step shows; what the sink is told stands newest first. -/
structure Observation where
  answer : Option Status
  calls : List Call
  told : List Happening
deriving DecidableEq

/-- What a step adds to the trace. -/
def news (o : OrderedInterface) (input : Input) : List Happening :=
  ({ o with trace := [] }.step input).trace

def observe (o : OrderedInterface) (input : Input) : Observation where
  answer := o.answer input
  calls := o.calls input
  told := (o.news input).filter told

abbrev observations : OrderedInterface → List Input → List Observation :=
  Machine.outputs step observe

def Indistinguishable (o p : OrderedInterface) : Prop :=
  ∀ inputs, o.observations inputs = p.observations inputs

/-- The past cannot be seen. -/
theorem indistinguishable_under (t : List Happening) (o : OrderedInterface) :
    Indistinguishable (under t o) o := by
  intro inputs
  refine (Machine.outputs_eq_of_simulation (P := fun _ _ => True) (R := fun o p => o = under t p)
    ?_ rfl (Machine.along_of_forall (fun _ _ => trivial) _ inputs)).1
  rintro _ o input - rfl
  constructor
  · rw [observe, answer_under, calls_under]
    rfl
  · exact step_under t o input

/-! ## What is read only with an operation outstanding -/

/-- The adapter with another configuration and another desired enablement. -/
def altered (config : ConnectionConfig) (desired : Bool) (o : OrderedInterface) :
    OrderedInterface :=
  { o with config_ := config, desiredEnabled_ := desired }

section Altered

variable {config : ConnectionConfig} {desired : Bool} {queue : List QueuedEvent}
  {o : OrderedInterface} {native : Answers}

theorem dressed_eq_altered (h : o.queue_ = queue) :
    dressed config desired queue o = altered config desired o := by
  rw [← h]
  rfl

theorem pump_altered (h : Fits config desired o) :
    (altered config desired o).pump native = altered config desired (o.pump native) := by
  unfold pump
  change (if !o.draining then _ else if o.overflow_ then _ else _) = _
  split
  · rfl
  split
  · unfold finishStation finishScan altered record
    dsimp only
    split_ifs <;> rfl
  rw [show (altered config desired o).queue_ = o.queue_ from rfl]
  split
  · rename_i empty
    refine (drained_dressed (o := { o with draining := false }) (h.same rfl rfl rfl)).trans ?_
    exact dressed_eq_altered drained_queue
  · rename_i q queue _
    refine (process_dressed (o := { o with queue_ := queue }) (h.same rfl rfl rfl)).trans ?_
    exact dressed_eq_altered process_queue

theorem Fits.pump (h : Fits config desired o) : Fits config desired (o.pump native) := by
  unfold OrderedInterface.pump
  split
  · exact h
  split
  · exact (Fits.finishStation ..).finishScan _ _
  split
  · exact Fits.drained (h.same rfl rfl rfl)
  · exact Fits.process (h.same rfl rfl rfl)

theorem pumpCalls_altered (h : Fits config desired o) :
    (altered config desired o).pumpCalls = o.pumpCalls := by
  unfold pumpCalls
  have calls : (dressed config desired o.queue_ o).drainedCalls = o.drainedCalls :=
    drainedCalls_dressed h
  rw [show (altered config desired o).drainedCalls = o.drainedCalls from calls]
  rfl

end Altered

/-! ### Commands -/

/-- The second adapter differs from the first in what neither will read. -/
def Follows (o p : OrderedInterface) : Prop :=
  ∃ config desired, p = altered config desired o ∧ Fits config desired o

/-- The same for what a command returns. -/
def Alike (r r' : Status × OrderedInterface) : Prop := r'.1 = r.1 ∧ Follows r.2 r'.2

section Commands

variable {o p : OrderedInterface} {native : Answers} {id : OperationId}

theorem Follows.post (h : Follows o p) (event : NativeStation.Event) :
    Follows (o.post event) (p.post event) := by
  obtain ⟨config, desired, rfl, hf⟩ := h
  unfold OrderedInterface.post altered
  dsimp only
  split_ifs <;> exact ⟨config, desired, rfl, hf.same rfl rfl rfl⟩

/-- The two take the same branches. -/
theorem Alike.ite {c : Prop} [Decidable c] {r r' q q' : Status × OrderedInterface}
    (taken : c → Alike r r') (other : ¬ c → Alike q q') :
    Alike (if c then r else q) (if c then r' else q') := by
  split
  · exact taken ‹_›
  · exact other ‹_›

theorem alike_begin (h : Follows o p) : Alike (o.begin native) (p.begin native) := by
  obtain ⟨config, desired, rfl, hf⟩ := h
  unfold begin altered
  dsimp only
  split_ifs <;> exact ⟨rfl, config, desired, rfl, hf.same rfl rfl rfl⟩

theorem alike_setEnabled (h : Follows o p) (enabled : Bool) :
    Alike (o.setEnabled native id enabled) (p.setEnabled native id enabled) := by
  obtain ⟨config, desired, rfl, hf⟩ := h
  unfold setEnabled
  rw [show (altered config desired o).stationAdmission id = o.stationAdmission id from rfl]
  dsimp only
  split_ifs
  · exact ⟨rfl, config, desired, rfl, hf⟩
  · exact ⟨rfl, config, enabled, rfl, .vacant rfl⟩
  · exact ⟨rfl, config, enabled, rfl, fun hp => OperationKind.noConfusion hp.2, fun _ => rfl⟩

theorem alike_startScan (h : Follows o p) :
    Alike (o.startScan native id) (p.startScan native id) := by
  obtain ⟨config, desired, rfl, hf⟩ := h
  unfold startScan
  rw [show (altered config desired o).stationAdmission id = o.stationAdmission id from rfl]
  unfold altered
  dsimp only
  split_ifs <;> exact ⟨rfl, config, desired, rfl, hf.same rfl rfl rfl⟩

/-- An admitted connect sets the configuration it will read. -/
theorem alike_connect (h : Follows o p) (config : ConnectionConfig) (secret : Credentials) :
    Alike (o.connect native id config secret) (p.connect native id config secret) := by
  have refused (status : Status) : Alike (status, o) (status, p) := ⟨rfl, h⟩
  obtain ⟨config', desired, rfl, -⟩ := h
  have fits {q : OrderedInterface} (hc : q.config_ = config) (hs : q.station_.kind = .kConnect) :
      Fits config desired q :=
    ⟨fun _ => hc.symm, fun he => absurd (hs.symm.trans he.2) (by decide)⟩
  unfold connect
  refine .ite (fun _ => refused _) fun _ => ?_
  refine .ite (fun _ => refused _) fun _ => ?_
  refine .ite (fun _ => refused _) fun _ => ?_
  refine .ite (fun _ => refused _) fun _ => ?_
  refine .ite (fun _ => ?_) fun _ => ?_
  · refine .ite (fun _ => ?_) fun _ => .ite (fun _ => ?_) fun _ => ?_
    · have follows : Follows { o.loaded id config secret with waitingDisconnect_ := true }
          { (altered config' desired o).loaded id config secret with waitingDisconnect_ := true } :=
        ⟨config, desired, rfl, fits rfl rfl⟩
      obtain ⟨config, desired, same, hf⟩ :=
        follows.post { kind := .kDisconnected, link := o.link_ }
      exact ⟨rfl, config, desired, congrArg (·.record (.admitted id)) same, hf.same rfl rfl rfl⟩
    · exact ⟨rfl, config, desired, rfl, .vacant rfl⟩
    · exact ⟨rfl, config, desired, rfl, fits rfl rfl⟩
  · exact ⟨rfl, config, desired, rfl, fits rfl rfl⟩

theorem alike_disconnect (h : Follows o p) :
    Alike (o.disconnect native id) (p.disconnect native id) := by
  have refused (status : Status) : Alike (status, o) (status, p) := ⟨rfl, h⟩
  obtain ⟨config, desired, rfl, -⟩ := h
  have follows : Follows
      { o with station_ := { id, kind := .kDisconnect }, waitingDisconnect_ := true }
      { altered config desired o with
        station_ := { id, kind := .kDisconnect }, waitingDisconnect_ := true } :=
    ⟨config, desired, rfl, .other (by simp) (by simp)⟩
  unfold disconnect
  refine .ite (fun _ => refused _) fun _ => ?_
  refine .ite (fun _ => ⟨rfl, follows.post _⟩) fun _ => ?_
  refine .ite (fun _ => ?_) fun _ => ⟨rfl, follows⟩
  exact ⟨rfl, config, desired, rfl, .vacant rfl⟩

theorem alike_cancelScan (h : Follows o p) :
    Alike (o.cancelScan native) (p.cancelScan native) := by
  obtain ⟨config, desired, rfl, hf⟩ := h
  unfold cancelScan altered
  dsimp only
  split_ifs <;> exact ⟨rfl, config, desired, rfl, hf.same rfl rfl rfl⟩

theorem alike_cancelConnect (h : Follows o p) :
    Alike (o.cancelConnect native) (p.cancelConnect native) := by
  have kept (status : Status) : Alike (status, o) (status, p) := ⟨rfl, h⟩
  have posted (event : NativeStation.Event) := h.post event
  obtain ⟨config, desired, rfl, hf⟩ := h
  unfold cancelConnect
  refine .ite (fun _ => kept _) fun _ => .ite (fun _ => kept _) fun _ => ?_
  refine .ite (fun _ => ?_) fun _ => ⟨rfl, config, desired, rfl, hf.same rfl rfl rfl⟩
  refine .ite (fun _ => ?_) fun _ => .ite (fun _ => kept _) fun _ =>
    ⟨rfl, config, desired, rfl, hf.same rfl rfl rfl⟩
  obtain ⟨config, desired, same, hf⟩ := posted { kind := .kDisconnected, link := o.link_ }
  exact ⟨rfl, config, desired, congrArg (fun q : OrderedInterface => { q with
    waitingDisconnect_ := true, cancelling_ := true, scheduled_ := true }) same,
    hf.same rfl rfl rfl⟩

theorem alike_shutdown (h : Follows o p) : Alike (.kOk, o.shutdown) (.kOk, p.shutdown) := by
  obtain ⟨config, desired, rfl, -⟩ := h
  exact ⟨rfl, config, desired, rfl, .vacant rfl⟩

theorem Follows.drain (h : Follows o p) : Follows o.drain p.drain := by
  obtain ⟨config, desired, rfl, hf⟩ := h
  unfold OrderedInterface.drain altered
  dsimp only
  split_ifs <;> exact ⟨config, desired, rfl, hf.same rfl rfl rfl⟩

theorem Follows.step (h : Follows o p) (input : Input) : Follows (o.step input) (p.step input) := by
  obtain ⟨event, native⟩ := input
  have later {q q' : OrderedInterface} (hq : Follows q q') :
      Follows (if o.draining then o else q) (if p.draining then p else q') := by
    have hd : p.draining = o.draining := by
      obtain ⟨config, desired, rfl, -⟩ := h
      rfl
    rw [hd]
    split
    · exact h
    · exact hq
  cases event with
  | post event =>
    have ha : p.attached_ = o.attached_ := by
      obtain ⟨config, desired, rfl, -⟩ := h
      rfl
    change Follows (if o.attached_ then o.post event else o) (if p.attached_ then p.post event else p)
    rw [ha]
    split
    · exact h.post event
    · exact h
  | begin => exact later (alike_begin h).2
  | setEnabled id enabled => exact later (alike_setEnabled h enabled).2
  | startScan id => exact later (alike_startScan h).2
  | connect id config secret => exact later (alike_connect h config secret).2
  | disconnect id => exact later (alike_disconnect h).2
  | cancelScan => exact later (alike_cancelScan h).2
  | cancelConnect => exact later (alike_cancelConnect h).2
  | shutdown => exact later (alike_shutdown h).2
  | drain => exact later h.drain
  | pump =>
    obtain ⟨config, desired, rfl, hf⟩ := h
    exact ⟨config, desired, pump_altered hf, hf.pump⟩

theorem Follows.answer (h : Follows o p) (input : Input) : p.answer input = o.answer input := by
  obtain ⟨event, native⟩ := input
  have returned {r r' : Status × OrderedInterface} (hr : Alike r r') :
      (if p.draining then none else some r'.1) = if o.draining then none else some r.1 := by
    obtain ⟨config, desired, rfl, -⟩ := h
    rw [hr.1]
    rfl
  cases event with
  | begin => exact returned (alike_begin h)
  | setEnabled id enabled => exact returned (alike_setEnabled h enabled)
  | startScan id => exact returned (alike_startScan h)
  | connect id config secret => exact returned (alike_connect h config secret)
  | disconnect id => exact returned (alike_disconnect h)
  | cancelScan => exact returned (alike_cancelScan h)
  | cancelConnect => exact returned (alike_cancelConnect h)
  | shutdown => exact returned (alike_shutdown h)
  | post | drain | pump =>
    obtain ⟨config, desired, rfl, -⟩ := h
    rfl

theorem Follows.calls (h : Follows o p) (input : Input) : p.calls input = o.calls input := by
  obtain ⟨config, desired, rfl, hf⟩ := h
  obtain ⟨event, native⟩ := input
  cases event with
  | pump => exact pumpCalls_altered hf
  | _ => rfl

theorem Follows.trace (h : Follows o p) : p.trace = o.trace := by
  obtain ⟨config, desired, rfl, -⟩ := h
  rfl

theorem Follows.news (h : Follows o p) (input : Input) : p.news input = o.news input := by
  refine Follows.trace (Follows.step ?_ input)
  obtain ⟨config, desired, rfl, hf⟩ := h
  exact ⟨config, desired, rfl, hf.same rfl rfl rfl⟩

/-- **What neither adapter will read cannot be seen.** -/
theorem Follows.indistinguishable (h : Follows o p) : Indistinguishable o p := by
  intro inputs
  refine (Machine.outputs_eq_of_simulation (P := fun _ _ => True) (R := Follows) ?_ h
    (Machine.along_of_forall (fun _ _ => trivial) _ inputs)).1
  intro o p input _ h
  refine ⟨?_, h.step input⟩
  rw [observe, observe, h.answer, h.calls, h.news]

end Commands

/-! ## Reattachment -/

/-- What `shutdown` and a successful `begin` leave of the flags. -/
def leftover (enabled cancelling scanCancelling waiting : Bool) : OrderedInterface where
  sink_ := true
  attached_ := true
  enabled_ := enabled
  cancelling_ := cancelling
  scanCancelling_ := scanCancelling
  waitingDisconnect_ := waiting

/-- An adapter attached again shows what its flags make it show. -/
theorem indistinguishable_reattached {o : OrderedInterface} {native : Answers}
    (idle : o.draining = false) (attached : native.attach = .kOk) :
    Indistinguishable (o.shutdown.begin native).2
      (leftover o.enabled_ o.cancelling_ o.scanCancelling_ o.waitingDisconnect_) := by
  have left : (o.shutdown.begin native).2 = under o.trace (altered o.config_ o.desiredEnabled_
      (leftover o.enabled_ o.cancelling_ o.scanCancelling_ o.waitingDisconnect_)) := by
    unfold shutdown begin
    simp [attached, under, altered, leftover, idle]
  rw [left]
  intro inputs
  refine (indistinguishable_under _ _ inputs).trans (Follows.indistinguishable ?_ inputs).symm
  exact ⟨_, _, rfl, .vacant rfl⟩

/-- A connect before the radio is reported enabled tells `enabled_`; a connect
then, whether it waits or ends as cancelled; and a scan, how that ends. -/
def probe : List Input :=
  [.connect 1 (TestNetwork 65) {}, .post { kind := .kEnabled }, .drain, .pump, .pump,
    .connect 1 (TestNetwork 65) {}, .drain, .pump, .startScan 2, .post { kind := .kScanDone },
    .drain, .pump].map fun event =>
      { event, native := { connect := .kConnectionFailed, support := { authenticationModes := 2 } } }

theorem probe_tells (enabled cancelling scanCancelling waiting : Bool)
    (same : (leftover enabled cancelling scanCancelling waiting).observations probe =
      (leftover false false false false).observations probe) :
    enabled = false ∧ cancelling = false ∧ scanCancelling = false ∧ waiting = false := by
  revert enabled cancelling scanCancelling waiting
  decide +kernel

/-- The flags that only completions and enablement reports reset are down. -/
def Settled (o : OrderedInterface) : Prop :=
  o.enabled_ = false ∧ o.cancelling_ = false ∧ o.scanCancelling_ = false ∧
    o.waitingDisconnect_ = false

instance (o : OrderedInterface) : Decidable o.Settled := inferInstanceAs (Decidable (_ ∧ _))

/-- **When reattachment is a fresh start.** -/
theorem reattachment_fresh (inputs : List Input) (native : Answers)
    (idle : (Machine.run step {} inputs).draining = false) (attached : native.attach = .kOk) :
    Indistinguishable ((Machine.run step {} inputs).shutdown.begin native).2
        (begin {} native).2 ↔
      Settled (Machine.run step {} inputs) := by
  have fresh : (begin {} native).2 = leftover false false false false := by
    simp [begin, attached, leftover]
  have left := indistinguishable_reattached idle attached
  rw [fresh]
  constructor
  · intro same
    exact probe_tells _ _ _ _ ((left probe).symm.trans (same probe))
  · rintro ⟨enabled, cancelling, scanCancelling, waiting⟩
    rwa [enabled, cancelling, scanCancelling, waiting] at left

/-- A connect is cancelled, and the adapter shut down before the cancellation completes. -/
def cancelledRun : List Input :=
  [.begin, .post { kind := .kEnabled }, .drain, .pump, .pump, .connect 1 (TestNetwork 65) {},
    .cancelConnect].map fun event =>
      { event, native := { support := { authenticationModes := 2 } } }

/-- The station is enabled, connected, disconnected and disabled again, and each
of the four operations completes before the shutdown. -/
def settledRun : List Input :=
  let a : LinkState := { ssid := (TestNetwork 65).ssid, hasIpv4 := true }
  ([.begin, .setEnabled 1 true, .post { kind := .kEnabled }, .drain, .pump, .pump,
    .connect 2 (TestNetwork 65) {}, .drain, .pump, .post { kind := .kAssociated, link := a },
    .post { kind := .kAddressReady, link := a }, .drain, .pump, .pump, .pump, .disconnect 3,
    .post { kind := .kDisconnected, link := a }, .drain, .pump, .pump, .setEnabled 4 false,
    .post { kind := .kDisabled }, .drain, .pump, .pump] : List Event).map fun event =>
      { event, native := { support := { authenticationModes := 2 } } }

theorem reattachment_fresh_settled :
    ((Machine.run step {} settledRun).trace.filterMap fun
      | .finished result => some (result.id, result.status)
      | _ => none) = [(4, .kOk), (3, .kOk), (2, .kOk), (1, .kOk)] ∧
      Settled (Machine.run step {} settledRun) ∧
      Indistinguishable ((Machine.run step {} settledRun).shutdown.begin {}).2
        (begin {} {}).2 := by
  have settled : Settled (Machine.run step {} settledRun) := by decide +kernel
  have idle : (Machine.run step {} settledRun).draining = false := by decide +kernel
  exact ⟨by decide +kernel, settled, (reattachment_fresh settledRun {} idle rfl).mpr settled⟩

/-- The first request after the reattachment completes as cancelled. -/
theorem reattached_completes_cancelled :
    ¬ Indistinguishable ((Machine.run step {} cancelledRun).shutdown.begin {}).2
      (begin {} {}).2 := by
  intro same
  have told := same ([.setEnabled 1 true, .post { kind := .kEnabled }, .drain, .pump].map
    fun event => { event })
  revert told
  decide +kernel

end OrderedInterface

end RooWifi
