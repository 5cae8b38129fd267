import RooWifi.OrderedInterface.Native

/-! # What the adapter keeps for a connect

The adapter holds credentials for a connect it was given and has not handed
over, so none are left once no station operation is outstanding. Whether an
iteration of the drain takes an outstanding connect out of the adapter is told
by the adapter before it and by what its station is about to answer. -/
namespace RooWifi.OrderedInterface

open NativeStation (EventKind Answers Call)

instance (o : OrderedInterface) : Decidable o.Pending := inferInstanceAs (Decidable (_ ∧ _))

theorem Pending.of_station {o p : OrderedInterface} (pending : o.Pending)
    (same : p.station_ = o.station_) : p.Pending := by
  unfold Pending
  rw [same]
  exact pending

/-! ## The end of a connect -/

/-- Whether processing the event takes an outstanding connect out of the
adapter; `failed` says that its station fails the continuation. -/
def ends (o : OrderedInterface) (failed : Bool) (event : NativeStation.Event) : Bool :=
  match event.kind with
  | .kPrepared => !o.waitingDisconnect_ && !o.cancelling_ && failed
  | .kAddressReady =>
    ¬ (event.link.ssid.size ≠ 0 ∧
      (differs event.link.ssid o.link_.ssid ∨ event.link.bssid ≠ o.link_.bssid)) ∧
    (o.link_.phase = .kAssociated ∨ o.link_.phase = .kAddressReady) ∧
    !o.waitingDisconnect_ ∧ !o.cancelling_ ∧ event.link.hasIpv4 ∧
    o.station_.id = o.link_.connectionId
  | .kDisconnected =>
    ¬ (event.link.ssid.size ≠ 0 ∧ differs event.link.ssid o.link_.ssid) ∧
    (!o.waitingDisconnect_ ∨ o.cancelling_)
  | _ => false

/-- Whether the next iteration of the drain takes an outstanding connect out of
the adapter: the queue has overflowed, or its head ends the connect, or the
connect is due and is cancelled or `refused` by the station. -/
def retires (o : OrderedInterface) (refused failed : Bool) : Bool :=
  o.draining && decide o.Pending &&
    (o.overflow_ ||
      match o.queue_ with
      | [] => !o.waitingDisconnect_ && decide (o.link_.phase = .kIdle) &&
          (o.cancelling_ || refused)
      | q :: _ => !o.faulted_ && o.ends failed q.expand)

/-! ## Credentials without a connect -/

/-- The sink is set while the station is attached, no station operation is
outstanding without it, and no credentials are kept without one. -/
structure Tidy (o : OrderedInterface) : Prop where
  sink : o.sink_ = o.attached_
  stopped : o.attached_ = false → o.station_.id = 0
  idle : o.station_.id = 0 → o.credentials_ = {}

/-- What `Tidy` looks at. -/
def holding (o : OrderedInterface) : Bool × Bool × OperationResult × Credentials :=
  (o.sink_, o.attached_, o.station_, o.credentials_)

theorem holding_post (o : OrderedInterface) (event : NativeStation.Event) :
    (o.post event).holding = o.holding := by
  unfold post holding
  split <;> rfl

/-! ## The drain -/

/-- The drain hands the credentials over or drops them, and at most ends the
station operation. -/
structure Winds (o p : OrderedInterface) : Prop where
  sink : p.sink_ = o.sink_
  attached : p.attached_ = o.attached_
  station : p.station_ = o.station_ ∨ p.station_.id = 0
  credentials : p.credentials_ = {} ∨ (p.credentials_ = o.credentials_ ∧ p.station_ = o.station_)

theorem Winds.of_holding {o p : OrderedInterface} (h : p.holding = o.holding) : Winds o p := by
  obtain ⟨sink, attached, station, credentials⟩ : p.sink_ = o.sink_ ∧ p.attached_ = o.attached_ ∧
      p.station_ = o.station_ ∧ p.credentials_ = o.credentials_ := by simpa [holding] using h
  exact ⟨sink, attached, .inl station, .inr ⟨credentials, station⟩⟩

theorem Winds.tidy {o p : OrderedInterface} (h : Winds o p) (hi : Tidy o) : Tidy p where
  sink := by rw [h.sink, h.attached, hi.sink]
  stopped detached := by
    obtain same | zero := h.station
    · rw [same]
      exact hi.stopped (h.attached.symm.trans detached)
    · exact zero
  idle zero := by
    obtain dropped | ⟨same, station⟩ := h.credentials
    · exact dropped
    · rw [same]
      exact hi.idle (station ▸ zero)

/-- The operation and its credentials end together. -/
theorem Winds.finishStation {o p : OrderedInterface} (h : Winds o p) (error : Status) (code : Int)
    (failure : ConnectionFailure) : Winds o (p.finishStation error code failure) := by
  unfold OrderedInterface.finishStation
  split
  · exact h
  · exact ⟨h.sink, h.attached, .inr rfl, .inl rfl⟩

theorem Winds.finishScan {o p : OrderedInterface} (h : Winds o p) (error : Status) (code : Int) :
    Winds o (p.finishScan error code) := by
  unfold OrderedInterface.finishScan
  split
  · exact h
  · exact { h with }

theorem winds_startConnection (o : OrderedInterface) (native : Answers) :
    Winds o (o.startConnection native) := by
  unfold startConnection
  split
  · refine Winds.finishStation ?_ _ _ _
    exact ⟨rfl, rfl, .inl rfl, .inl rfl⟩
  · exact ⟨rfl, rfl, .inl rfl, .inl rfl⟩

theorem winds_process (o : OrderedInterface) (native : Answers) (event : NativeStation.Event) :
    Winds o (o.process native event) := by
  have kept {p : OrderedInterface} (h : p.holding = o.holding) : Winds o p := .of_holding h
  have ended {p : OrderedInterface} {error : Status} {code : Int} {failure : ConnectionFailure}
      (h : p.holding = o.holding) : Winds o (p.finishStation error code failure) :=
    (kept h).finishStation error code failure
  unfold process
  split
  · exact kept rfl
  cases event.kind with
  | kEnabled | kDisabled =>
    simp only [processEnabled]
    split_ifs <;>
      first
      | exact kept rfl
      | exact ended rfl
  | kPrepared =>
    simp only [processPrepared]
    split_ifs
    · exact ended rfl
    · exact kept rfl
    · exact kept rfl
  | kScanDone => exact (kept rfl).finishScan event.status event.nativeCode
  | kAssociated =>
    simp only [processAssociated]
    split_ifs <;> exact kept rfl
  | kAddressReady =>
    simp only [processAddressReady]
    split_ifs <;>
      first
      | exact kept rfl
      | exact ended rfl
  | kAddressLost =>
    simp only [processAddressLost]
    split_ifs <;> exact kept rfl
  | kDisconnected =>
    simp only [processDisconnected]
    split_ifs <;>
      first
      | exact kept rfl
      | exact ended rfl

theorem winds_pump (o : OrderedInterface) (native : Answers) : Winds o (o.pump native) := by
  have kept {p : OrderedInterface} (h : p.holding = o.holding) : Winds o p := .of_holding h
  cases draining : o.draining with
  | false =>
    rw [pump_stopped draining]
    exact kept rfl
  | true =>
    cases overflow : o.overflow_ with
    | true =>
      rw [pump_overflow draining overflow]
      refine Winds.finishScan (Winds.finishStation ?_ _ _ _) _ _
      exact kept rfl
    | false =>
      cases waiting : o.queue_ with
      | nil =>
        rw [pump_ended draining overflow waiting]
        unfold drained
        split
        · split
          · exact (kept (p := { o with draining := false }) rfl).finishStation .kCancelled 0 .kNone
          · exact { winds_startConnection { o with draining := false } native with }
        · exact kept rfl
      | cons q queue =>
        rw [pump_processed draining overflow waiting]
        exact { winds_process { o with queue_ := queue } native q.expand with }

/-! ## Commands -/

section Tidy

variable {o : OrderedInterface} (hi : Tidy o)
include hi

theorem Tidy.of_holding {p : OrderedInterface} (h : p.holding = o.holding) : Tidy p :=
  (Winds.of_holding h).tidy hi

/-- A command is only admitted when nothing is outstanding. -/
theorem Tidy.admitted {id : OperationId} (admitted : o.stationAdmission id = .kOk) :
    o.attached_ = true ∧ id ≠ 0 ∧ o.station_.id = 0 ∧ o.credentials_ = {} := by
  unfold stationAdmission at admitted
  split_ifs at admitted with unready zero busy
  have attached : o.attached_ = true := by
    rw [← hi.sink]
    simp_all
  have free : o.station_.id = 0 := by simp_all
  exact ⟨attached, zero, free, hi.idle free⟩

/-- An admitted command makes its operation outstanding. -/
theorem Tidy.loaded {id : OperationId} (admitted : o.stationAdmission id = .kOk)
    {p : OrderedInterface} (sink : p.sink_ = o.sink_) (attached : p.attached_ = o.attached_)
    (station : p.station_.id = id) : Tidy p where
  sink := by rw [sink, attached, hi.sink]
  stopped h := absurd ((hi.admitted admitted).1.symm.trans (attached.symm.trans h)) (by simp)
  idle h := absurd (station.symm.trans h) (hi.admitted admitted).2.1

/-- A refused one leaves nothing. -/
theorem Tidy.refused {p : OrderedInterface} (sink : p.sink_ = o.sink_)
    (attached : p.attached_ = o.attached_) (station : p.station_.id = 0)
    (credentials : p.credentials_ = {}) : Tidy p where
  sink := by rw [sink, attached, hi.sink]
  stopped _ := station
  idle _ := credentials

/-- **Credentials are kept for an outstanding operation only.** -/
theorem Tidy.step (input : Input) : Tidy (o.step input) := by
  have kept {p : OrderedInterface} (h : p.holding = o.holding) : Tidy p := hi.of_holding h
  have later {p : OrderedInterface} (h : Tidy p) : Tidy (if o.draining then o else p) := by
    split
    · exact hi
    · exact h
  obtain ⟨event, native⟩ := input
  cases event with
  | post event =>
    simp only [OrderedInterface.step]
    split
    · exact kept (holding_post o event)
    · exact hi
  | pump => exact (winds_pump o native).tidy hi
  | begin =>
    refine later ?_
    unfold OrderedInterface.begin
    split_ifs with attached refused
    · exact hi
    · exact {
        sink := (Bool.eq_false_of_not_eq_true attached).symm
        stopped := hi.stopped
        idle := hi.idle }
    · exact {
        sink := rfl
        stopped := fun h => by cases h
        idle := hi.idle }
  | setEnabled id enabled =>
    refine later ?_
    unfold setEnabled
    dsimp only
    split_ifs with refused failed
    · exact hi
    · exact hi.refused rfl rfl rfl (hi.admitted (not_not.mp refused)).2.2.2
    · exact hi.loaded (not_not.mp refused) rfl rfl rfl
  | startScan id =>
    refine later ?_
    unfold startScan
    dsimp only
    split_ifs <;> exact kept rfl
  | connect id config credentials =>
    refine later ?_
    obtain ⟨status, -, h⟩ | ⟨admitted, -, ⟨-, h⟩ | ⟨-, -, h⟩ | ⟨-, -, h⟩ | ⟨-, -, h⟩⟩ :=
      o.connect_outcomes native id config credentials
    all_goals rw [h]
    · exact hi
    · exact hi.loaded admitted rfl rfl rfl
    · exact hi.loaded admitted rfl rfl rfl
    · refine (hi.loaded admitted ?_ ?_ ?_).of_holding (holding_post _ _)
      all_goals rfl
    · exact hi.refused rfl rfl rfl rfl
  | disconnect id =>
    refine later ?_
    unfold disconnect
    dsimp only
    generalize (if o.link_.phase = .kIdle then Status.kNotFound else native.disconnect) = status
    split_ifs with refused vacant failed
    · exact hi
    · refine (hi.loaded (not_not.mp refused) ?_ ?_ ?_).of_holding (holding_post _ _)
      all_goals rfl
    · exact hi.refused rfl rfl rfl (hi.admitted (not_not.mp refused)).2.2.2
    · exact hi.loaded (not_not.mp refused) rfl rfl rfl
  | cancelScan =>
    refine later ?_
    unfold cancelScan
    split_ifs <;> exact kept rfl
  | cancelConnect =>
    refine later ?_
    unfold cancelConnect
    split_ifs <;>
      first
      | exact kept rfl
      | exact kept (holding_post _ _)
  | shutdown =>
    refine later ?_
    exact {
      sink := rfl
      stopped := fun _ => rfl
      idle := fun _ => rfl }
  | drain =>
    refine later ?_
    unfold drain
    split_ifs <;> exact kept rfl

end Tidy

/-! ## The attachment -/

theorem begin_attached (o : OrderedInterface) (native : Answers) :
    (o.begin native).2.attached_ = (o.attached_ || decide ((o.begin native).1 = .kOk)) := by
  unfold begin
  split_ifs with attached refused
  · simp [attached]
  · simp [refused]
  · simp

/-- Only `begin` and `shutdown` attach and detach the station. -/
theorem step_attached (o : OrderedInterface) {input : Input} (unbegun : input.event ≠ .begin)
    (running : input.event ≠ .shutdown) : (o.step input).attached_ = o.attached_ := by
  have later {p : OrderedInterface} (h : p.attached_ = o.attached_) :
      (if o.draining then o else p).attached_ = o.attached_ := by
    split
    · rfl
    · exact h
  have posted (p : OrderedInterface) (event : NativeStation.Event) :
      (p.post event).attached_ = p.attached_ := by
    unfold post
    split <;> rfl
  obtain ⟨event, native⟩ := input
  cases event with
  | post event =>
    simp only [step]
    split
    · exact posted o event
    · rfl
  | setEnabled id enabled =>
    refine later ?_
    simp only [setEnabled]
    split_ifs <;> rfl
  | startScan id =>
    refine later ?_
    simp only [startScan]
    split_ifs <;> rfl
  | connect id config credentials =>
    refine later ?_
    obtain ⟨status, -, h⟩ | ⟨-, -, ⟨-, h⟩ | ⟨-, -, h⟩ | ⟨-, -, h⟩ | ⟨-, -, h⟩⟩ :=
      o.connect_outcomes native id config credentials
    all_goals rw [h]
    · rfl
    · rfl
    · exact posted _ _
    · rfl
  | disconnect id =>
    refine later ?_
    simp only [disconnect]
    split_ifs <;>
      first
      | rfl
      | exact posted _ _
  | cancelScan =>
    refine later ?_
    unfold cancelScan
    split_ifs <;> rfl
  | cancelConnect =>
    refine later ?_
    unfold cancelConnect
    split_ifs <;>
      first
      | rfl
      | exact posted o _
  | drain =>
    refine later ?_
    unfold drain
    split_ifs <;> rfl
  | pump => exact (winds_pump o native).attached
  | begin => exact absurd rfl unbegun
  | shutdown => exact absurd rfl running

/-! ## An outstanding connect -/

section Kept

variable {o : OrderedInterface} {native : Answers} {refused failed : Bool}

/-- An event that does not end an outstanding connect leaves it outstanding. -/
theorem station_process (pending : o.Pending) {event : NativeStation.Event}
    (uncalled : o.processCalls event = [])
    (kept : o.faulted_ = false → o.ends failed event = false) :
    (o.process native event).station_ = o.station_ := by
  unfold process
  split
  · rfl
  rename_i sound
  have kept := kept (by simpa using sound)
  unfold ends at kept
  unfold processCalls at uncalled
  cases kind : event.kind with
  | kEnabled | kDisabled =>
    have other : o.station_.kind ≠ .kEnable := by
      rw [pending.2]
      decide
    simp only [processEnabled]
    split_ifs with _ enabling enabling <;>
      first
      | rfl
      | exact absurd enabling.2.1 other
  | kPrepared =>
    simp only [kind, sound, Bool.false_eq_true, if_false, true_and] at uncalled
    simp only [processPrepared]
    split_ifs at uncalled ⊢
    rfl
  | kScanDone => exact finishScan_station o event.status event.nativeCode
  | kAssociated =>
    simp only [processAssociated]
    split_ifs <;> rfl
  | kAddressReady =>
    simp only [kind, decide_eq_false_iff_not] at kept
    simp only [processAddressReady]
    split_ifs with stale unready partly own
    · rfl
    · rfl
    · rfl
    · simp_all
    · rfl
  | kAddressLost =>
    simp only [processAddressLost]
    split_ifs <;> rfl
  | kDisconnected =>
    simp only [kind, decide_eq_false_iff_not] at kept
    simp only [processDisconnected]
    split
    · rfl
    rename_i own
    have awaited : o.waitingDisconnect_ = true ∧ o.cancelling_ = false := by
      simpa [own] using not_and.mp kept own
    have waiting : o.waitingDisconnect_ ∧ o.station_.kind = .kConnect ∧ !o.cancelling_ :=
      ⟨awaited.1, pending.2, by simp [awaited.2]⟩
    change (if o.station_.id = 0 then _ else if o.waitingDisconnect_ ∧
      o.station_.kind = .kConnect ∧ !o.cancelling_ then _ else _ : OrderedInterface).station_ = _
    rw [if_neg pending.1, if_pos waiting]
    rfl

/-- What an iteration of the drain calls, and when. -/
theorem pumpCalls_cases (o : OrderedInterface) : o.pumpCalls = [] ∨
    (o.draining = true ∧ o.overflow_ = false ∧
      ((o.queue_ = [] ∧ o.Due ∧ o.pumpCalls = [.connect o.config_ o.credentials_]) ∨
        ∃ q queue, o.queue_ = q :: queue ∧ q.expand.kind = .kPrepared ∧ o.faulted_ = false ∧
          o.Pending ∧ o.waitingDisconnect_ = false ∧ o.cancelling_ = false ∧
          o.pumpCalls = [.continueConnect])) := by
  cases draining : o.draining with
  | false => exact .inl (by simp [pumpCalls, draining])
  | true =>
    cases overflow : o.overflow_ with
    | true => exact .inl (by simp [pumpCalls, draining, overflow])
    | false =>
      cases waiting : o.queue_ with
      | nil =>
        by_cases due : o.Due
        · exact .inr ⟨rfl, rfl, .inl ⟨rfl, due, by
            simp [pumpCalls, draining, overflow, waiting, drainedCalls, due]⟩⟩
        · exact .inl (by simp [pumpCalls, draining, overflow, waiting, drainedCalls, due])
      | cons q queue =>
        have processed : o.pumpCalls = o.processCalls q.expand := by
          simp [pumpCalls, draining, overflow, waiting]
        rw [processed]
        unfold processCalls
        split_ifs with faulted prepared
        · exact .inl rfl
        · obtain ⟨kind, outstanding, connecting, unawaited, uncancelled⟩ := prepared
          exact .inr ⟨rfl, rfl, .inr ⟨q, queue, rfl, kind, by simpa using faulted,
            ⟨outstanding, connecting⟩, by simpa using unawaited, by simpa using uncancelled, rfl⟩⟩
        · exact .inl rfl

/-- **An iteration that calls nothing and retires nothing keeps a connect.** -/
theorem station_pump (pending : o.Pending) (uncalled : o.pumpCalls = [])
    (kept : o.retires refused failed = false) : (o.pump native).station_ = o.station_ := by
  cases draining : o.draining with
  | false => rw [pump_stopped draining]
  | true =>
    cases overflow : o.overflow_ with
    | true => simp [retires, draining, overflow, pending] at kept
    | false =>
      cases waiting : o.queue_ with
      | nil =>
        rw [pump_ended draining overflow waiting]
        have due : ¬ o.Due := by
          simpa [pumpCalls, draining, overflow, waiting, drainedCalls] using uncalled
        simp only [drained]
        split_ifs with idle cancelling
        · simp [retires, draining, overflow, waiting, pending] at kept
          simp_all
        · exact absurd ⟨idle, by simpa using cancelling⟩ due
        · rfl
      | cons q queue =>
        rw [pump_processed draining overflow waiting]
        have uncalled : ({ o with queue_ := queue }).processCalls q.expand = [] := by
          simpa [pumpCalls, draining, overflow, waiting, processCalls] using uncalled
        have lasting : o.faulted_ = false → o.ends failed q.expand = false := by
          intro sound
          simpa [retires, draining, overflow, waiting, pending, sound] using kept
        exact station_process (o := { o with queue_ := queue }) pending uncalled lasting

/-- A connect that its station takes stays outstanding. -/
theorem station_pump_connect (due : o.Due) (draining : o.draining = true)
    (fits : o.overflow_ = false) (empty : o.queue_ = []) (taken : native.connect = .kOk) :
    (o.pump native).station_ = o.station_ := by
  rw [pump_ended draining fits empty]
  simp only [drained]
  rw [if_pos due.1, due.2, if_neg Bool.false_ne_true]
  unfold startConnection
  simp only [taken, ne_eq, not_true_eq_false, if_false]
  rfl

/-- A due connect that is refused is retired. -/
theorem retires_refused (due : o.Due) (draining : o.draining = true) (fits : o.overflow_ = false)
    (empty : o.queue_ = []) : o.retires true failed = true := by
  obtain ⟨⟨outstanding, connecting, unawaited, idle⟩, -⟩ := due
  have pending : o.Pending := ⟨outstanding, connecting⟩
  simp [retires, draining, fits, empty, pending, idle, (by simpa using unawaited :
    o.waitingDisconnect_ = false)]

/-- A connect is busy: other station commands do not touch it. -/
theorem station_command (pending : o.Pending) {input : Input} (unpumped : input.event ≠ .pump)
    (running : input.event ≠ .shutdown) : (o.step input).station_ = o.station_ := by
  have busy (id : OperationId) : o.stationAdmission id ≠ .kOk := by
    unfold stationAdmission
    split_ifs with _ _ free
    · decide
    · decide
    · decide
    · exact absurd (.inl pending.1) free
  have later {p : OrderedInterface} (h : p.station_ = o.station_) :
      (if o.draining then o else p).station_ = o.station_ := by
    split
    · rfl
    · exact h
  obtain ⟨event, native⟩ := input
  cases event with
  | post event =>
    simp only [step]
    split
    · exact post_station o event
    · rfl
  | begin =>
    refine later ?_
    unfold begin
    split_ifs <;> rfl
  | setEnabled id enabled =>
    refine later ?_
    simp only [setEnabled, if_pos (busy id)]
  | startScan id =>
    refine later ?_
    simp only [startScan, if_pos (busy id)]
  | connect id config credentials =>
    refine later ?_
    simp only [connect, if_pos (busy id)]
  | disconnect id =>
    refine later ?_
    simp only [disconnect, if_pos (busy id)]
  | cancelScan =>
    refine later ?_
    unfold cancelScan
    split_ifs <;> rfl
  | cancelConnect =>
    refine later ?_
    unfold cancelConnect
    split_ifs <;>
      first
      | rfl
      | exact post_station o _
  | drain =>
    refine later ?_
    unfold drain
    split_ifs <;> rfl
  | shutdown => exact absurd rfl running
  | pump => exact absurd rfl unpumped

end Kept

end RooWifi.OrderedInterface
