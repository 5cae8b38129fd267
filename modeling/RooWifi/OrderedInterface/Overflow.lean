import RooWifi.OrderedInterface.Queue

/-! # Until the queue overflows, and after

A post that finds sixteen events waiting loses the event, and the adapter with
it: from then on nothing is processed, and the next drain settles what is
outstanding. -/
namespace RooWifi

open NativeStation (EventKind Answers Call)

namespace OrderedInterface

/-- A post of the step finds the queue full. -/
def Overflows (o : OrderedInterface) (input : Input) : Prop :=
  o.queue_.length = capacity ∧ Posts o input

instance (o : OrderedInterface) (input : Input) : Decidable (Overflows o input) :=
  have : Decidable (Posts o input) :=
    decidable_of_iff (({ o with queue_ := [] }.step input).queue_.isEmpty = false) (by
      simp [Posts, List.isEmpty_eq_false_iff])
  inferInstanceAs (Decidable (_ ∧ _))

/-- The event a step hands to `process`. -/
def handled (o : OrderedInterface) (input : Input) : Option NativeStation.Event :=
  match input.event, o.queue_ with
  | .pump, q :: _ => if o.draining ∧ !o.overflow_ then some q.expand else none
  | _, _ => none

/-- An attached adapter is not attached again. -/
def Unbegun (o : OrderedInterface) (input : Input) : Prop :=
  input.event = .begin → o.attached_ = true

/-- An outstanding operation is completed once, with a failure or as cancelled. -/
def Settles (r : OperationResult) (told : List Happening) : Prop :=
  if r.id = 0 then told = []
  else ∃ done : OperationResult, told = [.finished done] ∧ done.id = r.id ∧ done.kind = r.kind ∧
    (done.status = .kConnectionFailed ∨ done.status = .kCancelled)

/-- What a drain does after an overflow. -/
structure Settled.Drain (o : OrderedInterface) (input : Input) : Prop where
  told : ∃ scan station, (o.news input).filter told = scan ++ station ∧
    Settles o.scan_ scan ∧ Settles o.station_ station
  station : (o.step input).station_.id = 0
  scan : (o.step input).scan_.id = 0
  faulted : (o.step input).faulted_ = true
  ended : (o.step input).draining = false

/-- What every step does after an overflow. -/
structure Lost (o : OrderedInterface) (input : Input) : Prop where
  unprocessed : o.handled input = none
  drained : input.event = .pump → o.draining = true → Settled.Drain o input
  silent : ¬ (input.event = .pump ∧ o.draining = true) → (o.news input).filter told = []

/-- Commands are refused. -/
def Refuses (o : OrderedInterface) (input : Input) : Prop :=
  o.handled input = none ∧ (o.news input).filter told = [] ∧
    (input.event.operation.isSome = true → o.draining = false →
      o.answer input = some .kNotStarted)

/-! ## Commands -/

section Commands

variable {o p : OrderedInterface} {native : Answers} {id : OperationId} {input : Input}

/-- The flags of a failure stay up, and a command puts up neither. -/
def Keeps (o p : OrderedInterface) : Prop :=
  p.faulted_ = o.faulted_ ∧ (o.overflow_ = true → p.overflow_ = true)

theorem Keeps.same (hf : p.faulted_ = o.faulted_) (ho : p.overflow_ = o.overflow_) : Keeps o p :=
  ⟨hf, fun overflow => ho.trans overflow⟩

theorem keeps_post (o : OrderedInterface) (event : NativeStation.Event) :
    Keeps o (o.post event) := by
  unfold post
  dsimp only
  split_ifs
  · exact ⟨rfl, fun _ => rfl⟩
  · exact .same rfl rfl

theorem Keeps.posted (h : Keeps o p) (event : NativeStation.Event) : Keeps o (p.post event) :=
  ⟨(keeps_post p event).1.trans h.1, fun overflow => (keeps_post p event).2 (h.2 overflow)⟩

theorem keeps_begin (attached : o.attached_ = true) : Keeps o (o.begin native).2 := by
  rw [begin, if_pos attached]
  exact .same rfl rfl

theorem keeps_setEnabled (enabled : Bool) : Keeps o (o.setEnabled native id enabled).2 := by
  unfold setEnabled
  dsimp only
  split_ifs <;> exact .same rfl rfl

theorem keeps_startScan : Keeps o (o.startScan native id).2 := by
  unfold startScan
  dsimp only
  split_ifs <;> exact .same rfl rfl

theorem keeps_connect (config : ConnectionConfig) (secret : Credentials) :
    Keeps o (o.connect native id config secret).2 := by
  obtain ⟨status, -, h⟩ | ⟨-, -, ⟨-, h⟩ | ⟨-, -, h⟩ | ⟨-, -, h⟩ | ⟨-, -, h⟩⟩ :=
    o.connect_outcomes native id config secret
  all_goals rw [h]
  · exact .same rfl rfl
  · exact .same rfl rfl
  · exact .same rfl rfl
  · exact Keeps.posted (.same rfl rfl) _
  · exact .same rfl rfl

theorem keeps_disconnect : Keeps o (o.disconnect native id).2 := by
  unfold disconnect
  dsimp only
  split_ifs <;>
    first
    | exact .same rfl rfl
    | exact Keeps.posted (.same rfl rfl) _

theorem keeps_cancelScan : Keeps o (o.cancelScan native).2 := by
  unfold cancelScan
  split_ifs <;> exact .same rfl rfl

theorem keeps_cancelConnect : Keeps o (o.cancelConnect native).2 := by
  unfold cancelConnect
  split_ifs <;>
    first
    | exact .same rfl rfl
    | exact keeps_post o _

theorem keeps_drain : Keeps o o.drain := by
  unfold drain
  split_ifs <;> exact .same rfl rfl

/-- **Only a new `begin` takes the flags of a failure down.** -/
theorem keeps_step (unpumped : input.event ≠ .pump) (unbegun : Unbegun o input) :
    Keeps o (o.step input) := by
  have later {q : OrderedInterface} (hq : Keeps o q) : Keeps o (if o.draining then o else q) := by
    split
    · exact .same rfl rfl
    · exact hq
  obtain ⟨event, native⟩ := input
  cases event with
  | post event =>
    change Keeps o (if o.attached_ then o.post event else o)
    split
    · exact keeps_post o event
    · exact .same rfl rfl
  | pump => exact absurd rfl unpumped
  | begin => exact later (keeps_begin (unbegun rfl))
  | setEnabled id enabled => exact later (keeps_setEnabled enabled)
  | startScan id => exact later keeps_startScan
  | connect id config secret => exact later (keeps_connect config secret)
  | disconnect id => exact later keeps_disconnect
  | cancelScan => exact later keeps_cancelScan
  | cancelConnect => exact later keeps_cancelConnect
  | shutdown => exact later (.same rfl rfl)
  | drain => exact later keeps_drain

/-- Nothing but the drain's loop tells the sink. -/
theorem command_trace (unpumped : input.event ≠ .pump) :
    (o.step input).trace = o.trace ∨ ∃ id, (o.step input).trace = .admitted id :: o.trace := by
  have later {q : OrderedInterface}
      (hq : q.trace = o.trace ∨ ∃ id, q.trace = .admitted id :: o.trace) :
      (if o.draining then o else q).trace = o.trace ∨
        ∃ id, (if o.draining then o else q).trace = .admitted id :: o.trace := by
    split
    · exact .inl rfl
    · exact hq
  obtain ⟨event, native⟩ := input
  cases event with
  | post event =>
    change (if o.attached_ then o.post event else o).trace = o.trace ∨ _
    split
    · exact .inl (post_trace o event)
    · exact .inl rfl
  | pump => exact absurd rfl unpumped
  | begin => exact later (.inl (passive_begin native).2)
  | setEnabled id enabled => exact later (.inl (passive_setEnabled native id enabled).2)
  | startScan id => exact later (.inl (passive_startScan native id).2)
  | connect id config secret =>
    exact later ((connect_cases o native id config secret).2.imp_right fun h => ⟨id, h⟩)
  | disconnect id => exact later (.inl (passive_disconnect native id).2)
  | cancelScan => exact later (.inl (passive_cancelScan native).2)
  | cancelConnect => exact later (.inl (passive_cancelConnect native).2)
  | shutdown => exact later (.inl passive_shutdown.2)
  | drain => exact later (.inl passive_drain.2)

theorem silent_command (unpumped : input.event ≠ .pump) : (o.news input).filter told = [] := by
  have added := command_trace (o := { o with trace := [] }) unpumped
  unfold news
  obtain none | ⟨id, one⟩ := added
  · rw [none]
    rfl
  · rw [one]
    rfl

/-- A faulted adapter refuses what it is asked for. -/
theorem refused_faulted (faulted : o.faulted_ = true) (asks : input.event.operation.isSome = true)
    (idle : o.draining = false) : o.answer input = some .kNotStarted := by
  have refused (id : OperationId) : o.stationAdmission id = .kNotStarted := by
    rw [stationAdmission, faulted, Bool.or_true]
    rfl
  obtain ⟨event, native⟩ := input
  cases event with
  | setEnabled id enabled =>
    simp [answer, idle, setEnabled, refused]
  | startScan id => simp [answer, idle, startScan, refused]
  | connect id config secret => simp [answer, idle, connect, refused]
  | disconnect id => simp [answer, idle, disconnect, refused]
  | _ => exact absurd asks Bool.noConfusion

end Commands

/-! ## The drain -/

section Drain

variable {o : OrderedInterface} {native : Answers} {input : Input}

theorem handled_overflow (overflow : o.overflow_ = true) : o.handled input = none := by
  obtain ⟨event, native⟩ := input
  cases event with
  | pump =>
    unfold handled
    rw [overflow]
    cases o.queue_ <;> simp
  | _ => rfl

/-- A failed operation is settled by its completion. -/
theorem settles_finished {r result : OperationResult} (outstanding : r.id ≠ 0)
    (id : result.id = r.id) (kind : result.kind = r.kind) (cancelling : Bool)
    (status : result.status = if cancelling then .kCancelled else .kConnectionFailed) :
    Settles r [.finished result] := by
  rw [Settles, if_neg outstanding]
  refine ⟨result, rfl, id, kind, ?_⟩
  rw [status]
  cases cancelling with
  | true => exact .inr rfl
  | false => exact .inl rfl

/-- What the sink is told of the station's operation. -/
theorem settles_station (o : OrderedInterface) :
    ∃ station, (o.finishStation .kConnectionFailed).trace = station ++ o.trace ∧
      station.filter told = station ∧ Settles o.station_ station := by
  rw [finishStation]
  by_cases vacant : o.station_.id = 0
  · rw [if_pos vacant]
    exact ⟨[], rfl, rfl, by rw [Settles, if_pos vacant]⟩
  · rw [if_neg vacant]
    exact ⟨[_], rfl, rfl, settles_finished vacant rfl rfl o.cancelling_ rfl⟩

theorem settles_scan (o : OrderedInterface) :
    ∃ scan, (o.finishScan .kConnectionFailed).trace = scan ++ o.trace ∧
      scan.filter told = scan ∧ Settles o.scan_ scan := by
  rw [finishScan]
  by_cases vacant : o.scan_.id = 0
  · rw [if_pos vacant]
    exact ⟨[], rfl, rfl, by rw [Settles, if_pos vacant]⟩
  · rw [if_neg vacant]
    exact ⟨[_], rfl, rfl, settles_finished vacant rfl rfl o.scanCancelling_ rfl⟩

theorem finishScan_vacant (o : OrderedInterface) (error : Status) (code : Int) :
    (o.finishScan error code).scan_.id = 0 := by
  unfold finishScan
  split
  · assumption
  · rfl

/-- **The next drain settles everything.** -/
theorem drain_settles (overflow : o.overflow_ = true) (draining : o.draining = true) :
    Settled.Drain o ⟨.pump, native⟩ := by
  have pumped : o.step ⟨.pump, native⟩ = _ := pump_overflow draining overflow
  have fresh : step { o with trace := [] } ⟨.pump, native⟩ = _ :=
    pump_overflow (o := { o with trace := [] }) draining overflow
  obtain ⟨station, hs, hts, settlesStation⟩ := settles_station (record { o with
    trace := [], queue_ := [], faulted_ := true, draining := false } .overflow)
  obtain ⟨scan, hc, htc, settlesScan⟩ := settles_scan (finishStation (record { o with
    trace := [], queue_ := [], faulted_ := true, draining := false } .overflow) .kConnectionFailed)
  rw [finishStation_scan] at settlesScan
  refine ⟨⟨scan, station, ?_, settlesScan, settlesStation⟩, ?_, ?_, ?_, ?_⟩
  · rw [news, fresh, hc, hs, List.filter_append, List.filter_append, htc, hts]
    exact congrArg _ (List.append_nil _)
  · rw [pumped, finishScan_station]
    exact finishStation_station_id ..
  · rw [pumped]
    exact finishScan_vacant ..
  · rw [pumped]
    unfold finishScan finishStation record
    dsimp only
    split_ifs <;> rfl
  · rw [pumped]
    unfold finishScan finishStation record
    dsimp only
    split_ifs <;> rfl

end Drain

/-- A post that finds the queue full raises the flag, and a drain is due. -/
theorem overflow_raised {o : OrderedInterface} {input : Input} (h : Overflows o input) :
    (o.step input).overflow_ = true ∧ (o.step input).scheduled_ = true := by
  obtain ⟨full, posted⟩ := h
  have raised (p : OrderedInterface) (event : NativeStation.Event) (hp : p.queue_.length = capacity) :
      (p.post event).overflow_ = true ∧ (p.post event).scheduled_ = true := by
    unfold post
    rw [if_pos hp]
    exact ⟨rfl, rfl⟩
  have other := posting rfl posted
  by_cases external : ∃ event, input.event = .post event
  · obtain ⟨event, native⟩ := input
    obtain ⟨event, rfl⟩ := external
    by_cases attached : o.attached_ = true
    · have stepped : o.step ⟨.post event, native⟩ = o.post event := if_pos attached
      rw [stepped]
      exact raised o event full
    · have stepped : step { o with queue_ := [] } ⟨.post event, native⟩ = { o with queue_ := [] } :=
        if_neg attached
      exact absurd (congrArg OrderedInterface.queue_ stepped) posted
  · have stepped := command_queue (o := { o with queue_ := [] }) rfl o.queue_ other.1
      (fun event he => external ⟨event, he⟩) (posting_idle rfl posted fun event he =>
        external ⟨event, he⟩)
    have keeps : keeps { o with queue_ := [] } o.queue_ input.event = o.queue_ := by
      obtain ⟨event, native⟩ := input
      cases event with
      | begin => exact absurd rfl other.2.1
      | shutdown => exact absurd rfl other.2.2
      | _ => rfl
    rw [keeps, repost_posted posted] at stepped
    change o.step input = _ at stepped
    rw [stepped]
    exact raised _ _ full

/-! ## Runs after an overflow -/

section Runs

variable {o : OrderedInterface} {input : Input}

theorem overflow_step (overflow : o.overflow_ = true) (unbegun : Unbegun o input) :
    (o.step input).overflow_ = true := by
  by_cases pump : input.event = .pump
  · obtain ⟨event, native⟩ := input
    subst pump
    by_cases draining : o.draining = true
    · have pumped : o.step ⟨.pump, native⟩ = _ := pump_overflow draining overflow
      rw [pumped]
      unfold finishScan finishStation record
      dsimp only
      split_ifs <;> exact overflow
    · have stopped : o.step ⟨.pump, native⟩ = o := pump_stopped (by simpa using draining)
      rw [stopped]
      exact overflow
  · exact (keeps_step pump unbegun).2 overflow

theorem lost_step (overflow : o.overflow_ = true) : Lost o input where
  unprocessed := handled_overflow overflow
  drained := by
    obtain ⟨event, native⟩ := input
    rintro rfl draining
    exact drain_settles overflow draining
  silent := by
    intro other
    by_cases pump : input.event = .pump
    · obtain ⟨event, native⟩ := input
      subst pump
      have stopped : step { o with trace := [] } ⟨.pump, native⟩ = { o with trace := [] } :=
        pump_stopped (by simpa using other)
      rw [news, stopped]
      rfl
    · exact silent_command pump

/-- The adapter after the drain: failed, with nothing outstanding. -/
structure Failed (o : OrderedInterface) : Prop where
  overflow : o.overflow_ = true
  faulted : o.faulted_ = true
  station : o.station_.id = 0
  scan : o.scan_.id = 0

theorem vacant_command (h : Failed o) (unpumped : input.event ≠ .pump) (unbegun : Unbegun o input) :
    (o.step input).station_.id = 0 ∧ (o.step input).scan_.id = 0 := by
  have refused (id : OperationId) : o.stationAdmission id ≠ .kOk := by
    rw [stationAdmission, h.faulted, Bool.or_true]
    exact Status.noConfusion
  have kept {p : OrderedInterface} (hp : p = o) :
      (if o.draining then o else p).station_.id = 0 ∧ (if o.draining then o else p).scan_.id = 0 := by
    rw [hp, ite_self]
    exact ⟨h.station, h.scan⟩
  obtain ⟨event, native⟩ := input
  cases event with
  | post event =>
    change (if o.attached_ then o.post event else o).station_.id = 0 ∧
      (if o.attached_ then o.post event else o).scan_.id = 0
    split
    · rw [post_station, post_scan]
      exact ⟨h.station, h.scan⟩
    · exact ⟨h.station, h.scan⟩
  | pump => exact absurd rfl unpumped
  | begin =>
    refine kept ?_
    rw [begin, if_pos (unbegun rfl)]
  | setEnabled id enabled =>
    refine kept ?_
    unfold setEnabled
    exact congrArg Prod.snd (if_pos (refused id))
  | startScan id =>
    refine kept ?_
    unfold startScan
    exact congrArg Prod.snd (if_pos (refused id))
  | connect id config secret =>
    refine kept ?_
    unfold connect
    exact congrArg Prod.snd (if_pos (refused id))
  | disconnect id =>
    refine kept ?_
    unfold disconnect
    exact congrArg Prod.snd (if_pos (refused id))
  | cancelScan =>
    refine kept ?_
    rw [cancelScan, if_pos (.inl h.scan)]
  | cancelConnect =>
    refine kept ?_
    rw [cancelConnect, if_pos (.inl h.station)]
  | shutdown =>
    change (if o.draining then o else o.shutdown).station_.id = 0 ∧
      (if o.draining then o else o.shutdown).scan_.id = 0
    split
    · exact ⟨h.station, h.scan⟩
    · exact ⟨rfl, rfl⟩
  | drain =>
    change (if o.draining then o else o.drain).station_.id = 0 ∧
      (if o.draining then o else o.drain).scan_.id = 0
    unfold drain
    split_ifs <;> exact ⟨h.station, h.scan⟩

theorem Settled.Drain.failed (h : Settled.Drain o input) (overflow : (o.step input).overflow_ = true) :
    Failed (o.step input) :=
  ⟨overflow, h.faulted, h.station, h.scan⟩

theorem failed_step (h : Failed o) (unbegun : Unbegun o input) : Failed (o.step input) := by
  have overflow := overflow_step h.overflow unbegun
  by_cases pump : input.event = .pump
  · by_cases draining : o.draining = true
    · exact ((lost_step h.overflow).drained pump draining).failed overflow
    · obtain ⟨event, native⟩ := input
      subst pump
      have stopped : o.step ⟨.pump, native⟩ = o := pump_stopped (by simpa using draining)
      rw [stopped]
      exact h
  · obtain ⟨station, scan⟩ := vacant_command h pump unbegun
    exact ⟨overflow, (keeps_step pump unbegun).1.trans h.faulted, station, scan⟩

theorem refuses_failed (h : Failed o) (input : Input) : Refuses o input := by
  refine ⟨handled_overflow h.overflow, ?_, refused_faulted h.faulted⟩
  by_cases drains : input.event = .pump ∧ o.draining = true
  · obtain ⟨scan, station, told, settlesScan, settlesStation⟩ :=
      ((lost_step h.overflow).drained drains.1 drains.2).told
    rw [Settles, if_pos h.scan] at settlesScan
    rw [Settles, if_pos h.station] at settlesStation
    rw [told, settlesScan, settlesStation]
    rfl
  · exact (lost_step h.overflow).silent drains

/-- **After an overflow nothing is processed.** -/
theorem lost_run {later : List Input} (overflow : o.overflow_ = true)
    (unbegun : Machine.Along step Unbegun o later) : Machine.Along step Lost o later :=
  (Machine.along_strengthen (I := fun o => o.overflow_ = true)
    (fun _ _ unbegun overflow => overflow_step overflow unbegun) overflow unbegun).mono
      fun _ _ h => lost_step h.2

theorem refuses_run {later : List Input} (failed : Failed o)
    (unbegun : Machine.Along step Unbegun o later) : Machine.Along step Refuses o later :=
  (Machine.along_strengthen (I := Failed) (fun _ _ unbegun failed => failed_step failed unbegun)
    failed unbegun).mono fun _ input h => refuses_failed h.2 input

end Runs

/-! ## The queue -/

/-- What is posted is plain. -/
def Input.Plain (input : Input) : Prop :=
  ∀ event, input.event = .post event → OrderedInterface.Plain event

/-- The adapter over the ring is the adapter over its list of packed events. -/
theorem slots_run (inputs : List Input) :
    observations {} inputs =
        Machine.outputs (Buffered.step slots) (Buffered.observe slots) { events := slots.start }
          inputs ∧
      Mirrors (fun r l => r.toList = l) (Machine.run step {} inputs)
        (Machine.run (Buffered.step slots) { events := slots.start } inputs) := by
  refine Machine.outputs_eq_of_simulation (P := fun _ _ => True) ?_ ⟨rfl, rfl, .refl _⟩
    (Machine.along_of_forall (fun _ _ => trivial) _ inputs)
  intro o s input _ h
  have room : Posts o input → (slots.full s.events = true ↔ o.queue_.length = capacity) := by
    intro _
    rw [← h.events]
    exact s.events.full_iff
  exact ⟨h.observe slots_represents (fun _ _ => trivial) room,
    h.step slots_represents (fun _ _ => trivial) room⟩

/-- As long as no post finds the queue full, packing and bounding it change nothing. -/
theorem fifo_run {inputs : List Input} (plain : ∀ input ∈ inputs, input.Plain)
    (fits : Machine.Along step (fun o input => ¬ Overflows o input) {} inputs) :
    observations {} inputs =
        Machine.outputs (Buffered.step fifo) (Buffered.observe fifo) { events := [] } inputs ∧
      Mirrors (fun l packed => packed = l.map QueuedEvent.of ∧ ∀ e ∈ l, Plain e)
        (Machine.run step {} inputs) (Machine.run (Buffered.step fifo) { events := [] } inputs) := by
  refine Machine.outputs_eq_of_simulation ?_
    ⟨rfl, ⟨rfl, fun _ member => absurd member List.not_mem_nil⟩, .refl _⟩ (fits.and_forall plain)
  rintro o s input ⟨fits, plain⟩ h
  have room : Posts o input → (fifo.full s.events = true ↔ o.queue_.length = capacity) := by
    intro posted
    exact ⟨fun full => Bool.noConfusion full, fun full => absurd ⟨full, posted⟩ fits⟩
  exact ⟨h.observe fifo_represents plain room, h.step fifo_represents plain room⟩

/-- **The queue is transparent until it overflows, and then nothing gets through.** -/
theorem queue_transparent :
    -- packing an event leaves all that is processed
    (∀ event, Plain event → SameEffect (QueuedEvent.of event).expand event) ∧
    -- the ring is the list of packed events
    (∀ inputs, observations {} inputs =
      Machine.outputs (Buffered.step slots) (Buffered.observe slots) { events := slots.start }
        inputs) ∧
    -- and shows what a list of whole events shows
    (∀ inputs, (∀ input ∈ inputs, input.Plain) →
      Machine.Along step (fun o input => ¬ Overflows o input) {} inputs →
      Machine.outputs (Buffered.step slots) (Buffered.observe slots) { events := slots.start }
          inputs =
        Machine.outputs (Buffered.step fifo) (Buffered.observe fifo) { events := [] } inputs ∧
      Level (Machine.run (Buffered.step slots) { events := slots.start } inputs).adapter
        (Machine.run (Buffered.step fifo) { events := [] } inputs).adapter ∧
      (Machine.run (Buffered.step slots) { events := slots.start } inputs).events.toList =
        (Machine.run (Buffered.step fifo) { events := [] } inputs).events.map .of) ∧
    -- an overflow is the end until a new `begin`
    (∀ inputs input later, Overflows (Machine.run step {} inputs) input →
      Machine.Along step Unbegun ((Machine.run step {} inputs).step input) later →
      ((Machine.run step {} inputs).step input).scheduled_ = true ∧
      Machine.Along step Lost ((Machine.run step {} inputs).step input) later ∧
      ∀ before native after, later = before ++ ⟨.pump, native⟩ :: after →
        (Machine.run step ((Machine.run step {} inputs).step input) before).draining = true →
        Machine.Along step Refuses
          (Machine.run step ((Machine.run step {} inputs).step input)
            (before ++ [⟨.pump, native⟩])) after) := by
  refine ⟨fun event => sameEffect_packed, fun inputs => (slots_run inputs).1, ?_, ?_⟩
  · intro inputs plain fits
    obtain ⟨shown, ring⟩ := slots_run inputs
    obtain ⟨shown', list⟩ := fifo_run plain fits
    exact ⟨shown.symm.trans shown', ring.adapter.symm.trans list.adapter,
      ring.events.trans list.events.1⟩
  · intro inputs input later overflows unbegun
    obtain ⟨overflow, scheduled⟩ := overflow_raised overflows
    refine ⟨scheduled, lost_run overflow unbegun, ?_⟩
    rintro before native after rfl draining
    obtain ⟨earlier, -, rest⟩ := Machine.along_append.mp unbegun
    have overflow' := Machine.run_invariant (I := fun o : OrderedInterface => o.overflow_ = true)
      (fun _ _ unbegun overflow => overflow_step overflow unbegun) overflow earlier
    have lost : Lost _ ⟨.pump, native⟩ := lost_step overflow'
    have drained := lost.drained rfl draining
    rw [Machine.run_append]
    exact refuses_run (drained.failed (overflow_step overflow' nofun)) rest

/-- An attached adapter whose queue is filled before the dispatch task runs. -/
def filled : List Input :=
  { event := .begin } :: List.replicate 16 { event := .post { kind := .kEnabled } }

theorem queue_transparent_test :
    Overflows (Machine.run step {} filled) { event := .post { kind := .kDisabled } } ∧
      Machine.Along step Lost
        ((Machine.run step {} filled).step { event := .post { kind := .kDisabled } })
        [{ event := .drain }, { event := .pump }, { event := .setEnabled 1 true }] := by
  have overflows : Overflows (Machine.run step {} filled)
      { event := .post { kind := .kDisabled } } := by
    decide +kernel
  exact ⟨overflows, (queue_transparent.2.2.2 filled _
    [{ event := .drain }, { event := .pump }, { event := .setEnabled 1 true }] overflows
      ⟨nofun, nofun, nofun, trivial⟩).2.1⟩

end OrderedInterface

end RooWifi
