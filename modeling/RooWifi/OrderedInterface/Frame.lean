import RooWifi.OrderedInterface.Native

/-! # What an iteration of the drain depends on

Processing an event never looks at the queue it was taken from. The
configuration and the desired enablement are read only while an operation that
set them is outstanding. -/
namespace RooWifi

open NativeStation (EventKind Answers Call)

namespace OrderedInterface

/-- An outstanding request to change enablement. -/
def Enabling (o : OrderedInterface) : Prop := o.station_.id ≠ 0 ∧ o.station_.kind = .kEnable

/-- The adapter with another configuration, desired enablement and queue. -/
def dressed (config : ConnectionConfig) (desired : Bool) (queue : List QueuedEvent)
    (o : OrderedInterface) : OrderedInterface :=
  { o with config_ := config, desiredEnabled_ := desired, queue_ := queue }

/-- The values differ from the adapter's own only where no outstanding operation reads them. -/
structure Fits (config : ConnectionConfig) (desired : Bool) (o : OrderedInterface) : Prop where
  config : Pending o → config = o.config_
  desired : Enabling o → desired = o.desiredEnabled_

section Dressed

variable {config : ConnectionConfig} {desired : Bool}
  {queue : List QueuedEvent} {o p : OrderedInterface} {event : NativeStation.Event}
  {native : Answers}

theorem Fits.vacant (h : p.station_.id = 0) : Fits config desired p :=
  ⟨fun hp => absurd h hp.1, fun he => absurd h he.1⟩

theorem Fits.own : Fits o.config_ o.desiredEnabled_ o := ⟨fun _ => rfl, fun _ => rfl⟩

theorem Fits.same (h : Fits config desired o) (hs : p.station_ = o.station_)
    (hc : p.config_ = o.config_) (hd : p.desiredEnabled_ = o.desiredEnabled_) :
    Fits config desired p := by
  constructor
  · intro hp
    rw [hc]
    exact h.config (by rwa [Pending, hs] at hp)
  · intro he
    rw [hd]
    exact h.desired (by rwa [Enabling, hs] at he)

/-- An operation other than those two reads neither. -/
theorem Fits.other (hc : p.station_.kind ≠ .kConnect) (he : p.station_.kind ≠ .kEnable) :
    Fits config desired p :=
  ⟨fun hp => absurd hp.2 hc, fun hn => absurd hn.2 he⟩

/-! ## Iterations of the drain -/

@[simp] theorem finishStation_dressed (error : Status) (code : Int)
    (failure : ConnectionFailure) :
    (dressed config desired queue o).finishStation error code failure =
      dressed config desired queue (o.finishStation error code failure) := by
  simp only [finishStation, apply_ite (dressed config desired queue)]
  rfl

theorem finishStation_queue (error : Status) (code : Int) (failure : ConnectionFailure) :
    (o.finishStation error code failure).queue_ = o.queue_ := by
  unfold OrderedInterface.finishStation
  split <;> rfl

theorem Fits.finishStation (error : Status) (code : Int) (failure : ConnectionFailure) :
    Fits config desired (o.finishStation error code failure) :=
  .vacant (finishStation_station_id ..)

@[simp] theorem finishScan_dressed (error : Status) (code : Int) :
    (dressed config desired queue o).finishScan error code =
      dressed config desired queue (o.finishScan error code) := by
  simp only [finishScan, apply_ite (dressed config desired queue)]
  rfl

theorem finishScan_queue (error : Status) (code : Int) :
    (o.finishScan error code).queue_ = o.queue_ := by
  unfold OrderedInterface.finishScan
  split <;> rfl

theorem Fits.finishScan (h : Fits config desired o) (error : Status) (code : Int) :
    Fits config desired (o.finishScan error code) := by
  refine h.same (finishScan_station ..) ?_ ?_ <;>
  · unfold OrderedInterface.finishScan
    split <;> rfl

/-- Only an outstanding enable reads the desired enablement. -/
theorem processEnabled_dressed (h : Fits config desired o) :
    (dressed config desired queue o).processEnabled event =
      dressed config desired queue (o.processEnabled event) := by
  by_cases he : Enabling o
  · rw [h.desired he]
    unfold processEnabled OrderedInterface.finishStation linkChanged record dressed
    dsimp only
    split_ifs <;> rfl
  · unfold processEnabled OrderedInterface.finishStation linkChanged record dressed
    dsimp only
    split_ifs <;> first | rfl | exact absurd ⟨by tauto, by tauto⟩ he

theorem Fits.processEnabled (h : Fits config desired o) :
    Fits config desired (o.processEnabled event) := by
  unfold OrderedInterface.processEnabled OrderedInterface.finishStation linkChanged record
  dsimp only
  split_ifs <;> first | exact h.same rfl rfl rfl | exact .vacant rfl

theorem processPrepared_dressed : (dressed config desired queue o).processPrepared native =
    dressed config desired queue (o.processPrepared native) := by
  simp only [processPrepared, apply_ite (dressed config desired queue), ← finishStation_dressed]
  rfl

theorem Fits.processPrepared (h : Fits config desired o) :
    Fits config desired (o.processPrepared native) := by
  unfold OrderedInterface.processPrepared
  split
  · dsimp only
    split
    · exact .finishStation ..
    · exact h.same rfl rfl rfl
  · exact h

theorem processAssociated_dressed : (dressed config desired queue o).processAssociated event =
    dressed config desired queue (o.processAssociated event) := by
  simp only [processAssociated, apply_ite (dressed config desired queue)]
  rfl

theorem Fits.processAssociated (h : Fits config desired o) :
    Fits config desired (o.processAssociated event) := by
  unfold OrderedInterface.processAssociated
  split_ifs <;> exact h.same rfl rfl rfl

theorem processAddressReady_dressed : (dressed config desired queue o).processAddressReady event =
    dressed config desired queue (o.processAddressReady event) := by
  simp only [processAddressReady, apply_ite (dressed config desired queue), ← finishStation_dressed]
  rfl

theorem Fits.processAddressReady (h : Fits config desired o) :
    Fits config desired (o.processAddressReady event) := by
  unfold OrderedInterface.processAddressReady
  split
  · exact h
  split
  · exact h
  dsimp only
  split
  · exact h.same rfl rfl rfl
  split
  · exact .finishStation ..
  · exact h.same rfl rfl rfl

theorem processAddressLost_dressed : (dressed config desired queue o).processAddressLost =
    dressed config desired queue o.processAddressLost := by
  simp only [processAddressLost, apply_ite (dressed config desired queue)]
  rfl

theorem Fits.processAddressLost (h : Fits config desired o) :
    Fits config desired o.processAddressLost := by
  unfold OrderedInterface.processAddressLost
  split_ifs <;> exact h.same rfl rfl rfl

theorem processDisconnected_dressed : (dressed config desired queue o).processDisconnected event =
    dressed config desired queue (o.processDisconnected event) := by
  simp only [processDisconnected, apply_ite (dressed config desired queue), ← finishStation_dressed]
  rfl

theorem Fits.processDisconnected (h : Fits config desired o) :
    Fits config desired (o.processDisconnected event) := by
  unfold OrderedInterface.processDisconnected
  split
  · exact h
  dsimp only
  split
  · exact h.same rfl rfl rfl
  split
  · exact h.same rfl rfl rfl
  split
  · exact .finishStation ..
  · exact h.same rfl rfl rfl

theorem process_dressed (h : Fits config desired o) :
    (dressed config desired queue o).process native event =
      dressed config desired queue (o.process native event) := by
  unfold process
  change (if o.faulted_ then _ else _) = _
  split
  · rfl
  cases event.kind with
  | kEnabled | kDisabled => exact processEnabled_dressed h
  | kPrepared => exact processPrepared_dressed
  | kScanDone => exact finishScan_dressed event.status event.nativeCode
  | kAssociated => exact processAssociated_dressed
  | kAddressReady => exact processAddressReady_dressed
  | kAddressLost => exact processAddressLost_dressed
  | kDisconnected => exact processDisconnected_dressed

theorem Fits.process (h : Fits config desired o) :
    Fits config desired (o.process native event) := by
  unfold OrderedInterface.process
  split
  · exact h
  cases event.kind with
  | kEnabled | kDisabled => exact h.processEnabled
  | kPrepared => exact h.processPrepared
  | kScanDone => exact h.finishScan _ _
  | kAssociated => exact h.processAssociated
  | kAddressReady => exact h.processAddressReady
  | kAddressLost => exact h.processAddressLost
  | kDisconnected => exact h.processDisconnected

theorem process_queue : (o.process native event).queue_ = o.queue_ :=
  congrArg (·.queue_) (process_dressed (Fits.own (o := o)))

/-- Events are processed over any queue alike. -/
theorem process_over : process { o with queue_ := queue } native event =
    { o.process native event with queue_ := queue } := by
  have own : o.process native event =
      dressed o.config_ o.desiredEnabled_ o.queue_ (o.process native event) :=
    process_dressed .own
  refine (process_dressed (o := o) (.own (o := o))).trans ?_
  rw [own]
  rfl

/-- Only an outstanding connect reads the configuration. -/
theorem drained_dressed (h : Fits config desired o) :
    (dressed config desired queue o).drained native = dressed config desired queue (o.drained native) := by
  by_cases hp : Pending o
  · rw [h.config hp]
    unfold drained startConnection OrderedInterface.finishStation linkChanged record dressed
    dsimp only
    split_ifs <;> rfl
  · unfold drained dressed
    dsimp only
    split_ifs with due <;> first | rfl | exact absurd ⟨due.1, due.2.1⟩ hp

theorem Fits.drained (h : Fits config desired o) : Fits config desired (o.drained native) := by
  unfold OrderedInterface.drained startConnection OrderedInterface.finishStation linkChanged record
  dsimp only
  split_ifs <;> first | exact h.same rfl rfl rfl | exact .vacant rfl

theorem drained_queue : (o.drained native).queue_ = o.queue_ :=
  congrArg (·.queue_) (drained_dressed Fits.own)

theorem drainedCalls_dressed (h : Fits config desired o) :
    (dressed config desired queue o).drainedCalls = o.drainedCalls := by
  unfold drainedCalls
  change (if o.Due then [Call.connect config o.credentials_] else []) = _
  split
  · rename_i due
    rw [h.config ⟨due.1.1, due.1.2.1⟩]
  · rfl

end Dressed

end OrderedInterface

end RooWifi
