import RooWifi.Lib.Run
import RooWifi.OrderedInterface.Code

/-! # Which events decide a connect

Native events carry no operation identity. A failed connect is accounted for
by what happened since its admission, unless a disconnect of the previous
link was taken for its own before it had been started. -/
namespace RooWifi

open NativeStation (EventKind Answers)

namespace OrderedInterface

/-! ## What accounts for a failed connect -/

def isAdmission (id : OperationId) : Happening → Bool
  | .admitted i => i == id
  | _ => false

/-- What happened since the operation was admitted, newest first. -/
def since (id : OperationId) (trace : List Happening) : List Happening :=
  trace.takeWhile fun h => !isAdmission id h

/-- Its native connect or continuation was rejected, the queue overflowed, or
a disconnect was processed after native connect had been called for it. -/
def Accounted (id : OperationId) (l : List Happening) : Prop :=
  (∃ status, status ≠ .kOk ∧ Happening.nativeConnect id status ∈ l) ∨
    (∃ status, status ≠ .kOk ∧ Happening.nativeContinue id status ∈ l) ∨
    Happening.overflow ∈ l ∨
    ∃ a b status event, l = a ++ Happening.nativeConnect id status :: b ∧
      Happening.disconnected event ∈ a

/-- Every failed connect in the trace is accounted for. -/
def Attributed (trace : List Happening) : Prop :=
  ∀ a r b, trace = a ++ Happening.finished r :: b → r.kind = .kConnect → r.status ≠ .kOk →
    r.status ≠ .kCancelled → Accounted r.id (since r.id b)

/-- A connect has been admitted and not finished. -/
def Pending (o : OrderedInterface) : Prop := o.station_.id ≠ 0 ∧ o.station_.kind = .kConnect

/-- Native connect has been called for the pending operation. -/
def Started (o : OrderedInterface) : Prop :=
  ∃ status, Happening.nativeConnect o.station_.id status ∈ since o.station_.id o.trace

/-- A connect is admitted and not cancelled, and waits to be started. -/
def Unstarted (o : OrderedInterface) : Prop :=
  Pending o ∧ ¬ Started o ∧ o.cancelling_ = false

/-- The drain is about to process this event. -/
def Processes (o : OrderedInterface) (input : Input) (q : QueuedEvent) : Prop :=
  input.event = .pump ∧ o.draining = true ∧ o.overflow_ = false ∧ o.faulted_ = false ∧
    ∃ queue, o.queue_ = q :: queue

/-- A disconnect ends a connect that waits to be started, with any status. -/
def Terminates (o : OrderedInterface) (input : Input) : Prop :=
  ∃ q, Processes o input q ∧ q.kind = .kDisconnected ∧ Unstarted o ∧
    (o.step input).station_.id ≠ o.station_.id

/-- A disconnect passes for the link's own while a connect waits to be started
and waits for no disconnect. -/
def Misattributes (o : OrderedInterface) (input : Input) : Prop :=
  ∃ q, Processes o input q ∧ q.kind = .kDisconnected ∧ Unstarted o ∧
    (q.ssid.size = 0 ∨ differs q.ssid o.link_.ssid = false) ∧ o.waitingDisconnect_ = false

/-! ## Traces -/

@[simp] theorem since_cons (id : OperationId) (h : Happening) (t : List Happening) :
    since id (h :: t) = if isAdmission id h then [] else h :: since id t := by
  unfold since
  rw [List.takeWhile_cons]
  cases isAdmission id h <;> rfl

theorem attributed_nil : Attributed [] := fun a r b h => by simp at h

theorem attributed_cons {h : Happening} {t : List Happening} :
    Attributed (h :: t) ↔ Attributed t ∧ ∀ r, h = .finished r → r.kind = .kConnect →
      r.status ≠ .kOk → r.status ≠ .kCancelled → Accounted r.id (since r.id t) := by
  constructor
  · refine fun ha => ⟨fun a r b hb => ha (h :: a) r b (by rw [hb]; rfl), ?_⟩
    rintro r rfl
    exact ha [] r t rfl
  · rintro ⟨ht, hh⟩ a r b hab
    cases a with
    | nil =>
      obtain ⟨rfl, rfl⟩ := List.cons.inj hab
      exact hh r rfl
    | cons x a =>
      obtain ⟨-, rfl⟩ := List.cons.inj hab
      exact ht a r b rfl

/-- The scan is one. -/
def Scans (o : OrderedInterface) : Prop := o.scan_.kind = .kScan

/-! ## Field lemmas -/

section Fields

variable (o : OrderedInterface) (h : Happening) (link : LinkState) (event : NativeStation.Event)
  (error : Status) (code : Int) (failure : ConnectionFailure)

@[simp] theorem record_trace : (o.record h).trace = h :: o.trace := rfl
@[simp] theorem record_station : (o.record h).station_ = o.station_ := rfl
@[simp] theorem record_scan : (o.record h).scan_ = o.scan_ := rfl
@[simp] theorem record_link : (o.record h).link_ = o.link_ := rfl
@[simp] theorem record_cancelling : (o.record h).cancelling_ = o.cancelling_ := rfl
@[simp] theorem record_waiting : (o.record h).waitingDisconnect_ = o.waitingDisconnect_ := rfl

@[simp] theorem linkChanged_trace :
    (o.linkChanged link).trace = .linkChanged link :: o.trace := rfl
@[simp] theorem linkChanged_station : (o.linkChanged link).station_ = o.station_ := rfl
@[simp] theorem linkChanged_scan : (o.linkChanged link).scan_ = o.scan_ := rfl
@[simp] theorem linkChanged_link : (o.linkChanged link).link_ = link := rfl
@[simp] theorem linkChanged_cancelling : (o.linkChanged link).cancelling_ = o.cancelling_ := rfl
@[simp] theorem linkChanged_waiting :
    (o.linkChanged link).waitingDisconnect_ = o.waitingDisconnect_ := rfl

@[simp] theorem post_trace : (o.post event).trace = o.trace := by unfold post; split <;> rfl
@[simp] theorem post_station : (o.post event).station_ = o.station_ := by
  unfold post; split <;> rfl
@[simp] theorem post_scan : (o.post event).scan_ = o.scan_ := by unfold post; split <;> rfl

@[simp] theorem finishStation_station_id : (o.finishStation error code failure).station_.id = 0 := by
  unfold finishStation
  split
  · assumption
  · rfl

@[simp] theorem finishStation_scan : (o.finishStation error code failure).scan_ = o.scan_ := by
  unfold finishStation; split <;> rfl

@[simp] theorem finishScan_station : (o.finishScan error code).station_ = o.station_ := by
  unfold finishScan; split <;> rfl

theorem finishScan_scan (hs : Scans o) : Scans (o.finishScan error code) := by
  unfold finishScan
  split
  · exact hs
  · rfl

end Fields

/-! ## Finishing -/

variable {o : OrderedInterface}

theorem attributed_finishStation (ha : Attributed o.trace) {error : Status} {code : Int}
    {failure : ConnectionFailure} :
    Attributed (o.finishStation error code failure).trace ↔
      (Pending o → o.cancelling_ = false → error ≠ .kOk → error ≠ .kCancelled →
        Accounted o.station_.id (since o.station_.id o.trace)) := by
  unfold finishStation
  split
  · rename_i h0
    exact ⟨fun _ hp => absurd h0 hp.1, fun _ => ha⟩
  rename_i h0
  rw [record_trace, attributed_cons]
  constructor
  · rintro ⟨-, h⟩ hp hc hok hca
    have h := h _ rfl
    simp only [hc, Bool.false_eq_true, if_false] at h
    exact h hp.2 hok hca
  · refine fun h => ⟨ha, ?_⟩
    rintro r hr
    cases hr
    intro hk hok hca
    cases hc : o.cancelling_ with
    | true => simp [hc] at hca
    | false => exact h ⟨h0, hk⟩ hc (by simpa [hc] using hok) (by simpa [hc] using hca)

theorem attributed_finishScan (hs : Scans o) (ha : Attributed o.trace)
    {error : Status} {code : Int} : Attributed (o.finishScan error code).trace := by
  unfold finishScan
  split
  · exact ha
  · rw [record_trace, attributed_cons]
    refine ⟨ha, ?_⟩
    rintro r hr hk
    cases hr
    exact absurd (hs.symm.trans hk) (by decide)

/-! ## Commands -/

/-- The commands record nothing but the admission of a connect. -/
theorem connect_cases (o : OrderedInterface) (native : Answers) (id : OperationId)
    (config : ConnectionConfig) (secret : Credentials) :
    let p := (o.connect native id config secret).2
    p.scan_ = o.scan_ ∧ (p.trace = o.trace ∨ p.trace = .admitted id :: o.trace) := by
  dsimp only [connect]
  split
  · exact ⟨rfl, .inl rfl⟩
  split
  · exact ⟨rfl, .inl rfl⟩
  split
  · exact ⟨rfl, .inl rfl⟩
  split
  · exact ⟨rfl, .inl rfl⟩
  split
  · split
    · simp
    split
    · exact ⟨rfl, .inl rfl⟩
    · simp
  · simp

/-- Every other command leaves the trace alone. -/
def Passive (o p : OrderedInterface) : Prop :=
  (p.scan_ = o.scan_ ∨ Scans p) ∧ p.trace = o.trace

theorem passive_begin (native : Answers) : Passive o (o.begin native).2 := by
  unfold begin
  split
  · exact ⟨.inl rfl, rfl⟩
  dsimp only
  split <;> exact ⟨.inl rfl, rfl⟩

theorem passive_setEnabled (native : Answers) (id : OperationId) (enabled : Bool) :
    Passive o (o.setEnabled native id enabled).2 := by
  dsimp only [setEnabled]
  split
  · exact ⟨.inl rfl, rfl⟩
  split <;> exact ⟨.inl rfl, rfl⟩

theorem passive_startScan (native : Answers) (id : OperationId) :
    Passive o (o.startScan native id).2 := by
  dsimp only [startScan]
  repeat' split
  all_goals first | exact ⟨.inl rfl, rfl⟩ | exact ⟨.inr rfl, rfl⟩

theorem passive_disconnect (native : Answers) (id : OperationId) :
    Passive o (o.disconnect native id).2 := by
  dsimp only [disconnect]
  split
  · exact ⟨.inl rfl, rfl⟩
  generalize (if o.link_.phase = .kIdle then Status.kNotFound else native.disconnect) = status
  split
  · exact ⟨.inl (by simp), by simp⟩
  split <;> exact ⟨.inl rfl, rfl⟩

theorem passive_cancelScan (native : Answers) : Passive o (o.cancelScan native).2 := by
  unfold cancelScan
  repeat' split
  all_goals exact ⟨.inl rfl, rfl⟩

theorem passive_cancelConnect (native : Answers) : Passive o (o.cancelConnect native).2 := by
  unfold cancelConnect
  repeat' split
  all_goals exact ⟨.inl (by simp), by simp⟩

theorem passive_shutdown : Passive o o.shutdown := ⟨.inr rfl, rfl⟩

theorem passive_drain : Passive o o.drain := by
  unfold drain
  split <;> exact ⟨.inl rfl, rfl⟩

theorem passive_post (event : NativeStation.Event) : Passive o (o.post event) :=
  ⟨.inl (post_scan o event), post_trace o event⟩

theorem Scans.passive {p : OrderedInterface} (hs : Scans o) (h : Passive o p) : Scans p := by
  obtain same | scans := h.1
  · rw [Scans, same]
    exact hs
  · exact scans

/-! ## Processing one event -/

theorem attributed_record (ha : Attributed o.trace) {h : Happening}
    (hh : ∀ r, h ≠ .finished r) : Attributed (o.record h).trace := by
  rw [record_trace, attributed_cons]
  exact ⟨ha, fun r hr => absurd hr (hh r)⟩

theorem attributed_linkChanged (ha : Attributed o.trace) (link : LinkState) :
    Attributed (o.linkChanged link).trace :=
  attributed_record (o := { o with link_ := link }) ha fun _ => Happening.noConfusion

/-- A rejection is on record when the operation it ends is finished. -/
theorem attributed_rejected (ha : Attributed o.trace) {h : Happening} {status : Status}
    (hh : h = .nativeConnect o.station_.id status ∨ h = .nativeContinue o.station_.id status)
    (link : LinkState) :
    Attributed (((o.record h).linkChanged link).finishStation status).trace := by
  have hr : Attributed ((o.record h).linkChanged link).trace := by
    refine attributed_linkChanged (attributed_record ha fun r hr => ?_) link
    rcases hh with rfl | rfl <;> cases hr
  rw [attributed_finishStation hr]
  intro _ _ hok _
  rcases hh with rfl | rfl
  · exact .inl ⟨status, hok, by simp [isAdmission]⟩
  · exact .inr (.inl ⟨status, hok, by simp [isAdmission]⟩)

/-- The end of `processEnabled`: only an enable command is finished. -/
theorem attributed_finishEnable (ha : Attributed o.trace) (event : NativeStation.Event)
    (enabled : Bool) :
    Attributed (if o.station_.id ≠ 0 ∧ o.station_.kind = .kEnable ∧ enabled = o.desiredEnabled_
      then o.finishStation event.status event.nativeCode else o).trace := by
  split
  · rename_i enabling
    refine (attributed_finishStation ha).mpr fun pending => ?_
    exact absurd (enabling.2.1.symm.trans pending.2) (by decide)
  · exact ha

theorem attributed_processEnabled (ha : Attributed o.trace) (event : NativeStation.Event) :
    Attributed (o.processEnabled event).trace := by
  unfold processEnabled
  dsimp only
  generalize decide (event.kind = EventKind.kEnabled) = enabled
  have told := attributed_record (o := { o with enabled_ := enabled }) ha
    (h := .enabledChanged enabled) fun _ => Happening.noConfusion
  split
  · exact attributed_finishEnable (attributed_linkChanged told _) event enabled
  · exact attributed_finishEnable told event enabled

theorem attributed_processPrepared (ha : Attributed o.trace) (native : Answers) :
    Attributed (o.processPrepared native).trace := by
  unfold processPrepared
  split
  · dsimp only
    split
    · exact attributed_rejected ha (.inr rfl) _
    · exact attributed_record ha fun _ => Happening.noConfusion
  · exact ha

theorem attributed_processAssociated (ha : Attributed o.trace) (event : NativeStation.Event) :
    Attributed (o.processAssociated event).trace := by
  unfold processAssociated
  split
  · exact ha
  · exact attributed_linkChanged ha _

theorem attributed_processAddressReady (ha : Attributed o.trace) (event : NativeStation.Event) :
    Attributed (o.processAddressReady event).trace := by
  unfold processAddressReady
  split
  · exact ha
  split
  · exact ha
  dsimp only
  split
  · exact ha
  split
  · refine (attributed_finishStation (attributed_linkChanged ha _)).mpr fun _ _ failed => ?_
    exact absurd rfl failed
  · exact attributed_linkChanged ha _

theorem attributed_processAddressLost (ha : Attributed o.trace) :
    Attributed o.processAddressLost.trace := by
  unfold processAddressLost
  split
  · exact attributed_linkChanged ha _
  · exact ha

theorem attributed_startConnection (ha : Attributed o.trace) (native : Answers) :
    Attributed (o.startConnection native).trace := by
  unfold startConnection
  dsimp only
  have linked := attributed_linkChanged ha
    { connectionId := o.station_.id, ssid := o.config_.ssid, security := o.config_.security
      phase := .kConnecting }
  split
  · exact attributed_rejected (o := { o.linkChanged _ with credentials_ := {} }) linked (.inl rfl) _
  · exact attributed_record (o := { o.linkChanged _ with credentials_ := {} }) linked
      fun _ => Happening.noConfusion

theorem attributed_drained (ha : Attributed o.trace) (native : Answers) :
    Attributed (o.drained native).trace := by
  unfold drained
  split
  · split
    · exact (attributed_finishStation ha).mpr fun _ _ _ failed => absurd rfl failed
    · exact attributed_startConnection ha native
  · exact ha

theorem attributed_overflowed (hs : Scans o) (ha : Attributed o.trace) :
    let p := { o with queue_ := [], faulted_ := true, draining := false }.record .overflow
    Attributed ((p.finishStation .kConnectionFailed).finishScan .kConnectionFailed).trace := by
  intro p
  have recorded : Attributed p.trace :=
    attributed_record (o := { o with queue_ := [], faulted_ := true, draining := false }) ha
      fun _ => Happening.noConfusion
  have scans : Scans (p.finishStation .kConnectionFailed) := by
    rw [Scans, finishStation_scan]
    exact hs
  refine attributed_finishScan scans ((attributed_finishStation recorded).mpr fun _ _ _ _ => ?_)
  exact .inr (.inr (.inl (by simp [p, isAdmission])))

/-! ## A disconnect -/

/-- The disconnect passes for the link's own while a connect waits to be started
and waits for no disconnect. -/
def Mistaken (o : OrderedInterface) (event : NativeStation.Event) : Prop :=
  Unstarted o ∧ (event.link.ssid.size = 0 ∨ differs event.link.ssid o.link_.ssid = false) ∧
    o.waitingDisconnect_ = false

/-- A disconnect that names no other network passes for the link's own. -/
theorem own_of_not_foreign {ssid link : Ssid} (h : ¬ (ssid.size ≠ 0 ∧ differs ssid link = true)) :
    ssid.size = 0 ∨ differs ssid link = false := by
  by_cases empty : ssid.size = 0
  · exact .inl empty
  · exact .inr (by simpa [empty] using h)

/-- A disconnect accounts for the failure of a connect that was started. -/
theorem accounted_disconnected (started : Started o) (event : NativeStation.Event)
    (link : LinkState) :
    Accounted o.station_.id (since o.station_.id
      (.disconnected event :: .linkChanged link :: o.trace)) := by
  obtain ⟨status, called⟩ := started
  obtain ⟨a, b, split⟩ := List.append_of_mem called
  simp only [since_cons, isAdmission, Bool.false_eq_true, if_false]
  refine .inr (.inr (.inr ⟨.disconnected event :: .linkChanged link :: a, b, status, event, ?_,
    List.mem_cons_self⟩))
  rw [split]
  rfl

/-- The end of `processDisconnected`, for an operation that awaits no disconnect. -/
theorem attributed_failed (ha : Attributed o.trace) (event : NativeStation.Event)
    {error : Status} {code : Int} {failure : ConnectionFailure} (started : ¬ Unstarted o) :
    Attributed ((((o.linkChanged (disconnectedLink o.link_ event)).record
        (.disconnected event)).finishStation error code failure).trace) := by
  have disconnected : Attributed ((o.linkChanged (disconnectedLink o.link_ event)).record
      (.disconnected event)).trace :=
    attributed_record (attributed_linkChanged ha _) fun _ => Happening.noConfusion
  rw [attributed_finishStation disconnected]
  intro pending uncancelled _ _
  have called : Started o := by_contra fun waits => started ⟨pending, waits, uncancelled⟩
  exact accounted_disconnected called event _

theorem attributed_processDisconnected (ha : Attributed o.trace) {event : NativeStation.Event}
    (own : ¬ Mistaken o event) : Attributed (o.processDisconnected event).trace := by
  unfold processDisconnected
  split
  · exact ha
  rename_i passes
  have passes := own_of_not_foreign passes
  dsimp only
  have disconnected : Attributed ((o.linkChanged (disconnectedLink o.link_ event)).record
      (.disconnected event)).trace :=
    attributed_record (attributed_linkChanged ha _) fun _ => Happening.noConfusion
  split
  · exact disconnected
  split
  · exact disconnected
  rename_i free
  split
  · refine attributed_failed ha event fun unstarted => own ⟨unstarted, passes, ?_⟩
    -- an uncancelled connect that waits for a disconnect takes the branch above
    cases waiting : o.waitingDisconnect_ with
    | false => rfl
    | true =>
      obtain ⟨pending, -, uncancelled⟩ := unstarted
      exact absurd ⟨waiting, pending.2, (congrArg not uncancelled).trans rfl⟩ free
  · exact disconnected

theorem attributed_process (hs : Scans o) (ha : Attributed o.trace) (native : Answers)
    {event : NativeStation.Event}
    (own : ¬ (o.faulted_ = false ∧ event.kind = .kDisconnected ∧ Mistaken o event)) :
    Attributed (o.process native event).trace := by
  unfold process
  split
  · exact ha
  rename_i sound
  split
  · exact attributed_processEnabled ha event
  · exact attributed_processEnabled ha event
  · exact attributed_processPrepared ha native
  · exact attributed_finishScan hs ha
  · exact attributed_processAssociated ha event
  · exact attributed_processAddressReady ha event
  · exact attributed_processAddressLost ha
  · rename_i kind
    exact attributed_processDisconnected ha fun mistaken =>
      own ⟨by simpa using sound, kind, mistaken⟩

/-! ## The scan -/

theorem scans_process (hs : Scans o) (native : Answers) (event : NativeStation.Event) :
    Scans (o.process native event) := by
  unfold process
  split
  · exact hs
  split
  · unfold Scans processEnabled
    dsimp only
    split_ifs <;> simpa [Scans] using hs
  · unfold Scans processEnabled
    dsimp only
    split_ifs <;> simpa [Scans] using hs
  · unfold Scans processPrepared
    dsimp only
    split_ifs <;> simpa [Scans] using hs
  · exact finishScan_scan _ _ _ hs
  · unfold processAssociated
    split <;> exact hs
  · unfold Scans processAddressReady
    dsimp only
    split_ifs <;> simpa [Scans] using hs
  · unfold processAddressLost
    split <;> exact hs
  · unfold Scans processDisconnected
    dsimp only
    split_ifs <;> simpa [Scans] using hs

theorem scans_pump (hs : Scans o) (native : Answers) : Scans (o.pump native) := by
  unfold pump
  split
  · exact hs
  split
  · refine finishScan_scan _ _ _ ?_
    rw [Scans, finishStation_scan]
    exact hs
  split
  · unfold Scans drained startConnection
    dsimp only
    split_ifs <;> simpa [Scans] using hs
  · rename_i q queue _
    exact scans_process (o := { o with queue_ := queue }) hs native q.expand

/-! ## One step of the adapter -/

theorem expand_disconnected {q : QueuedEvent} (h : q.kind = .kDisconnected) :
    q.expand.kind = .kDisconnected ∧ q.expand.link.ssid = q.ssid := by
  simp [QueuedEvent.expand, h]

theorem expand_kind (q : QueuedEvent) : q.expand.kind = q.kind := rfl

theorem attributed_pump (hs : Scans o) (ha : Attributed o.trace) {native : Answers}
    (own : ¬ Misattributes o { event := .pump, native }) : Attributed (o.pump native).trace := by
  unfold pump
  split
  · exact ha
  rename_i draining
  split
  · exact attributed_overflowed hs ha
  rename_i fits
  split
  · exact attributed_drained (o := { o with draining := false }) ha native
  · rename_i q queue waiting
    refine attributed_process (o := { o with queue_ := queue }) hs ha native ?_
    rintro ⟨sound, kind, unstarted, passes, free⟩
    have kind : q.kind = .kDisconnected := (expand_kind q).symm.trans kind
    rw [(expand_disconnected kind).2] at passes
    exact own ⟨q, ⟨rfl, by simpa using draining, by simpa using fits, sound, queue, waiting⟩, kind,
      unstarted, passes, free⟩

/-- What a step makes of a disconnect that it processes. -/
theorem Processes.step_disconnected {input : Input} {q : QueuedEvent} (h : Processes o input q)
    (kind : q.kind = .kDisconnected) :
    ∃ queue, o.step input = { o with queue_ := queue }.processDisconnected q.expand := by
  obtain ⟨event, native⟩ := input
  obtain ⟨rfl, draining, fits, sound, queue, waiting⟩ := h
  refine ⟨queue, ?_⟩
  simp only [step, pump, draining, fits, waiting, process, sound, (expand_disconnected kind).1,
    Bool.not_true, Bool.false_eq_true, if_false]

/-- Of the disconnects that meet a connect waiting to be started, exactly those
that pass for the link's own end it, unless it waits for one. -/
theorem processDisconnected_ends (unstarted : Unstarted o) (event : NativeStation.Event) :
    (o.processDisconnected event).station_.id ≠ o.station_.id ↔
      (event.link.ssid.size = 0 ∨ differs event.link.ssid o.link_.ssid = false) ∧
        o.waitingDisconnect_ = false := by
  obtain ⟨⟨used, kind⟩, -, uncancelled⟩ := unstarted
  unfold processDisconnected
  split
  · rename_i foreign
    simp [foreign.1, foreign.2]
  rename_i passes
  have passes := own_of_not_foreign passes
  simp only [record_station, linkChanged_station, used, if_false]
  cases waiting : o.waitingDisconnect_ with
  | true => simp [waiting, kind, uncancelled]
  | false => simp [waiting, kind, used.symm, passes]

/-- **A connect that waits to be started is ended exactly by the disconnects
that are taken for the link's own.** -/
theorem terminates_iff (o : OrderedInterface) (input : Input) :
    Terminates o input ↔ Misattributes o input := by
  have ends {q : QueuedEvent} (processes : Processes o input q) (kind : q.kind = .kDisconnected)
      (unstarted : Unstarted o) : (o.step input).station_.id ≠ o.station_.id ↔
        (q.ssid.size = 0 ∨ differs q.ssid o.link_.ssid = false) ∧ o.waitingDisconnect_ = false := by
    obtain ⟨queue, step⟩ := processes.step_disconnected kind
    rw [step, ← (expand_disconnected kind).2]
    exact processDisconnected_ends (o := { o with queue_ := queue }) unstarted q.expand
  constructor
  · rintro ⟨q, processes, kind, unstarted, ended⟩
    exact ⟨q, processes, kind, unstarted, (ends processes kind unstarted).mp ended⟩
  · rintro ⟨q, processes, kind, unstarted, own⟩
    exact ⟨q, processes, kind, unstarted, (ends processes kind unstarted).mpr own⟩

theorem attributed_connect (ha : Attributed o.trace) (native : Answers) (id : OperationId)
    (config : ConnectionConfig) (secret : Credentials) :
    Attributed (o.connect native id config secret).2.trace := by
  obtain ⟨-, same | admitted⟩ := connect_cases o native id config secret
  · rw [same]
    exact ha
  · rw [admitted]
    exact attributed_record (o := o) ha fun _ => Happening.noConfusion

/-- **One step.** Only a mistaken disconnect adds a connect that is not
accounted for. -/
theorem attributed_step (hs : Scans o) (ha : Attributed o.trace) {input : Input}
    (own : ¬ Misattributes o input) :
    Scans (o.step input) ∧ Attributed (o.step input).trace := by
  obtain ⟨event, native⟩ := input
  have passive {p : OrderedInterface} (h : Passive o p) : Scans p ∧ Attributed p.trace :=
    ⟨hs.passive h, h.2 ▸ ha⟩
  -- a command is only served outside the drain
  have command {p : OrderedInterface} (h : Scans p ∧ Attributed p.trace) :
      Scans (if o.draining then o else p) ∧ Attributed (if o.draining then o else p).trace := by
    split
    · exact ⟨hs, ha⟩
    · exact h
  cases event with
  | pump => exact ⟨scans_pump hs native, attributed_pump hs ha own⟩
  | post event =>
    dsimp only [step]
    split
    · exact passive (passive_post event)
    · exact ⟨hs, ha⟩
  | connect id config secret =>
    refine command ⟨?_, attributed_connect ha native id config secret⟩
    rw [Scans, (connect_cases o native id config secret).1]
    exact hs
  | begin => exact command (passive (passive_begin native))
  | setEnabled id enabled => exact command (passive (passive_setEnabled native id enabled))
  | startScan id => exact command (passive (passive_startScan native id))
  | disconnect id => exact command (passive (passive_disconnect native id))
  | cancelScan => exact command (passive (passive_cancelScan native))
  | cancelConnect => exact command (passive (passive_cancelConnect native))
  | shutdown => exact command (passive passive_shutdown)
  | drain => exact command (passive passive_drain)

/-! ## Runs -/

theorem attributed_run {inputs : List Input}
    (own : Machine.Along step (fun o input => ¬ Misattributes o input) {} inputs) :
    Attributed (Machine.run step {} inputs).trace := by
  have scans : Scans {} := rfl
  refine (Machine.run_invariant (I := fun o => Scans o ∧ Attributed o.trace)
    (fun o input own h => ?_) ⟨scans, attributed_nil⟩ own).2
  exact attributed_step h.1 h.2 own

/-- **Attribution.** In a run from the initial state every failed connect is
accounted for, and no disconnect ends a connect that waits to be started,
exactly when no step takes another connection's disconnect for its own. -/
theorem failed_connects_accounted (inputs : List Input) :
    (Attributed (Machine.run step {} inputs).trace ∧
        Machine.Along step (fun o input => ¬ Terminates o input) {} inputs) ↔
      Machine.Along step (fun o input => ¬ Misattributes o input) {} inputs := by
  simp only [terminates_iff]
  exact ⟨fun h => h.2, fun own => ⟨attributed_run own, own⟩⟩

/-- Some native answer or overflow is on record. -/
theorem Accounted.exists {id : OperationId} {l : List Happening} (h : Accounted id l) :
    l.any (fun | .nativeConnect _ _ | .nativeContinue _ _ | .overflow => true | _ => false) =
      true := by
  rw [List.any_eq_true]
  rcases h with ⟨_, -, hm⟩ | ⟨_, -, hm⟩ | hm | ⟨a, b, status, event, rfl, -⟩
  · exact ⟨_, hm, rfl⟩
  · exact ⟨_, hm, rfl⟩
  · exact ⟨_, hm, rfl⟩
  · exact ⟨.nativeConnect id status, by simp, rfl⟩

/-- Two open networks, `A` and `B`. -/
def TestNetwork (name : UInt8) : ConnectionConfig :=
  { ssid := { bytes := .load 32 [name], size := 1 }, security := .kOpen }

/-- The station is enabled, connected to `A` and told to switch to `B`; the
disconnect of `A` is then delivered twice. -/
def SwitchRun : List Input :=
  let native : Answers := { support := { authenticationModes := 2 } }
  let a : LinkState := { ssid := (TestNetwork 65).ssid, hasIpv4 := true }
  [⟨.begin, native⟩, ⟨.setEnabled 1 true, native⟩, ⟨.post { kind := .kEnabled }, native⟩,
    ⟨.drain, native⟩, ⟨.pump, native⟩, ⟨.pump, native⟩, ⟨.connect 2 (TestNetwork 65) {}, native⟩,
    ⟨.drain, native⟩, ⟨.pump, native⟩, ⟨.post { kind := .kAssociated, link := a }, native⟩,
    ⟨.post { kind := .kAddressReady, link := a }, native⟩, ⟨.drain, native⟩, ⟨.pump, native⟩,
    ⟨.pump, native⟩, ⟨.pump, native⟩, ⟨.connect 3 (TestNetwork 66) {}, native⟩,
    ⟨.post { kind := .kDisconnected, link := a }, native⟩,
    ⟨.post { kind := .kDisconnected, link := a }, native⟩, ⟨.drain, native⟩, ⟨.pump, native⟩,
    ⟨.pump, native⟩]

/-- The second disconnect of `A` fails the connect to `B`, which had not been
handed to the station. -/
theorem duplicate_disconnect_fails_connect :
    ¬ Attributed (Machine.run step {} SwitchRun).trace := by
  intro h
  have hr : (Machine.run step {} SwitchRun).trace =
      .finished { id := 3, kind := .kConnect, status := .kConnectionFailed } ::
        (Machine.run step {} SwitchRun).trace.tail := by
    decide +kernel
  have hacc := (h [] _ _ hr rfl (by decide) (by decide)).exists
  have hnone : ((since 3 (Machine.run step {} SwitchRun).trace.tail).any
      (fun | .nativeConnect _ _ | .nativeContinue _ _ | .overflow => true | _ => false)) =
        false := by
    decide +kernel
  rw [hnone] at hacc
  cases hacc

end OrderedInterface

end RooWifi
