import RooWifi.Lib.Audit
import RooWifi.OrderedInterface.Native

/-! # One native attempt for each admitted connect

The ledger follows admissions, native connects and processed enablement
reports. The adapter starts a connect by its state at the end of a drain, not
by a flag, and only a disabled radio brings an attempt back to that state. -/
namespace RooWifi.OrderedInterface

open NativeStation (EventKind Answers Call)

/-! ## The ledger -/

/-- What concerns native connects in a step. -/
inductive Entry where
  | admitted (config : ConnectionConfig) (credentials : Credentials)
  | called (config : ConnectionConfig) (credentials : Credentials)
  | processed (enabled : Bool)
deriving DecidableEq

/-- What an iteration of the drain enters of the event it processes. -/
def report : EventKind → List Entry
  | .kEnabled => [.processed true]
  | .kDisabled => [.processed false]
  | _ => []

def reports (o : OrderedInterface) : List Entry :=
  if o.draining ∧ !o.overflow_ ∧ !o.faulted_ then
    match o.queue_ with
    | [] => []
    | q :: _ => report q.kind
  else []

def entries (o : OrderedInterface) (input : Input) : List Entry :=
  match input.event with
  | .connect _ config credentials =>
    if o.answer input = some .kOk then [.admitted config credentials] else []
  | .pump =>
    o.reports ++ (o.calls input).filterMap fun
      | .connect config credentials => some (.called config credentials)
      | _ => none
  | _ => []

structure Watch where
  adapter : OrderedInterface := {}
  log : List Entry := []

def Watch.step (w : Watch) (input : Input) : Watch where
  adapter := w.adapter.step input
  log := w.adapter.entries input ++ w.log

/-- The connect admitted last. -/
structure Attempt where
  config : ConnectionConfig
  credentials : Credentials
  /-- It was handed to the station. -/
  started : Bool := false
  /-- The radio was reported disabled since. -/
  interrupted : Bool := false

structure Ledger where
  connect : Option Attempt := none
  /-- The last enablement report. -/
  radio : Option Bool := none

namespace Ledger

def observe (l : Ledger) : Entry → Ledger
  | .admitted config credentials => { l with connect := some { config, credentials } }
  | .called _ _ => { l with connect := l.connect.map fun a => { a with started := true } }
  | .processed enabled =>
    { connect := l.connect.map fun a =>
        { a with interrupted := a.interrupted || (!enabled && a.started) }
      radio := some enabled }

/-- The ledger after the entries of a step. -/
def after (l : Ledger) (new : List Entry) : Ledger := new.foldr (fun e l => l.observe e) l

/-- A native connect is the first one of the connect admitted last, with what
was admitted, and the radio was not reported disabled last. -/
def Allows (l : Ledger) : Entry → Prop
  | .called config credentials => l.radio ≠ some false ∧
    ∃ a, l.connect = some a ∧ a.started = false ∧ a.config = config ∧
      a.credentials = credentials
  | _ => True

end Ledger

def attempts : Audit Entry Ledger where
  start := {}
  observe := Ledger.observe
  allows := Ledger.Allows

/-! ## The ledger agrees with the adapter -/

structure Attempt.Agrees (a : Attempt) (o : OrderedInterface) : Prop where
  config : a.config = o.config_
  credentials : a.started = false → a.credentials = o.credentials_
  waits : a.started = true → o.waitingDisconnect_ = true → o.cancelling_ = true
  /-- Only a disabled radio takes the link from an attempt and leaves it outstanding. -/
  idle : a.started = true → o.link_.phase = .kIdle → a.interrupted = true
  started : a.interrupted = true → a.started = true

structure Ledger.Agrees (l : Ledger) (o : OrderedInterface) : Prop where
  radio : o.enabled_ = decide (l.radio = some true)
  pending : Pending o → l.radio ≠ none ∧ ∃ a, l.connect = some a ∧ a.Agrees o

namespace Ledger.Agrees

variable {l : Ledger} {o p : OrderedInterface}

theorem vacant (h : l.Agrees o) (he : p.enabled_ = o.enabled_) (hn : ¬ Pending p) :
    l.Agrees p where
  radio := he.trans h.radio
  pending := fun hp => absurd hp hn

/-- A step that leaves an outstanding connect where it is. -/
theorem same (h : l.Agrees o) (he : p.enabled_ = o.enabled_) (hs : p.station_ = o.station_)
    (hc : p.config_ = o.config_) (hcr : p.credentials_ = o.credentials_)
    (hw : Pending o → p.waitingDisconnect_ = true → p.cancelling_ = false →
      o.waitingDisconnect_ = true ∧ o.cancelling_ = false)
    (hl : Pending o → p.link_.phase = .kIdle → o.link_.phase = .kIdle) : l.Agrees p where
  radio := he.trans h.radio
  pending := by
    intro hp
    rw [Pending, hs] at hp
    obtain ⟨known, a, ha, agrees⟩ := h.pending hp
    refine ⟨known, a, ha, ?_⟩
    exact {
      config := agrees.config.trans hc.symm
      credentials := fun hn => (agrees.credentials hn).trans hcr.symm
      waits := by
        intro started waiting
        by_contra uncancelled
        obtain ⟨waited, never⟩ := hw hp waiting (by simpa using uncancelled)
        cases (agrees.waits started waited).symm.trans never
      idle := fun started idle => agrees.idle started (hl hp idle)
      started := agrees.started }

/-- What the ledger is about. -/
def matter (o : OrderedInterface) : Bool × OperationResult × ConnectionConfig × Credentials ×
    Bool × Bool × LinkPhase :=
  (o.enabled_, o.station_, o.config_, o.credentials_, o.waitingDisconnect_, o.cancelling_,
    o.link_.phase)

/-- Whatever else changes is nothing to the ledger. -/
theorem beside (h : l.Agrees o) (unchanged : matter p = matter o) : l.Agrees p := by
  obtain ⟨enabled, station, config, credentials, waiting, cancelling, phase⟩ :
      p.enabled_ = o.enabled_ ∧ p.station_ = o.station_ ∧ p.config_ = o.config_ ∧
        p.credentials_ = o.credentials_ ∧ p.waitingDisconnect_ = o.waitingDisconnect_ ∧
        p.cancelling_ = o.cancelling_ ∧ p.link_.phase = o.link_.phase := by
    simpa only [matter, Prod.mk.injEq] using unchanged
  refine h.same enabled station config credentials ?_ ?_
  · intro _ waits uncancelled
    exact ⟨waiting.symm.trans waits, cancelling.symm.trans uncancelled⟩
  · intro _ idle
    exact phase.symm.trans idle

/-- Nothing is outstanding once the station's operation is finished. -/
theorem finished (h : l.Agrees o) (he : p.enabled_ = o.enabled_) {error : Status} {code : Int}
    {failure : ConnectionFailure} : l.Agrees (p.finishStation error code failure) := by
  refine h.vacant ?_ fun hp => hp.1 (finishStation_station_id p error code failure)
  unfold OrderedInterface.finishStation
  split <;> exact he

theorem record (h : l.Agrees o) (happening : Happening) : l.Agrees (o.record happening) :=
  h.beside rfl

theorem finishScan (h : l.Agrees o) (error : Status) (code : Int) :
    l.Agrees (o.finishScan error code) := by
  unfold OrderedInterface.finishScan
  split
  · exact h
  · exact h.beside rfl

/-- The link comes to a phase that is not idle. -/
theorem up (h : l.Agrees o) {link : LinkState} (up : link.phase ≠ .kIdle) :
    l.Agrees (o.linkChanged link) :=
  h.same rfl rfl rfl rfl (fun _ hw hc => ⟨hw, hc⟩) fun _ hi => absurd hi up

/-! ## Processing -/

variable {event : NativeStation.Event} {native : Answers}

theorem processEnabled (h : l.Agrees o) {enabled : Bool}
    (he : decide (event.kind = .kEnabled) = enabled) :
    (l.observe (.processed enabled)).Agrees (o.processEnabled event) := by
  have base {q : OrderedInterface} (hq : q.enabled_ = enabled) (hs : q.station_ = o.station_)
      (hc : q.config_ = o.config_) (hcr : q.credentials_ = o.credentials_)
      (hw : q.waitingDisconnect_ = o.waitingDisconnect_) (hca : q.cancelling_ = o.cancelling_)
      (hl : q.link_.phase = .kIdle → enabled = false ∨ o.link_.phase = .kIdle) :
      (l.observe (.processed enabled)).Agrees q := by
    refine ⟨?_, ?_⟩
    · rw [hq]
      cases enabled <;> rfl
    · intro hp
      rw [Pending, hs] at hp
      obtain ⟨-, a, ha, agrees⟩ := h.pending hp
      refine ⟨Option.some_ne_none enabled,
        { a with interrupted := a.interrupted || (!enabled && a.started) }, ?_, ?_⟩
      · rw [observe, ha]
        rfl
      exact {
        config := agrees.config.trans hc.symm
        credentials := fun hn => (agrees.credentials hn).trans hcr.symm
        waits := by
          rw [hw, hca]
          exact agrees.waits
        idle := by
          intro started idle
          have hst : a.started = true := started
          obtain off | idle := hl idle
          · simp [off, hst]
          · simp [agrees.idle hst idle]
        started := by
          intro interrupted
          obtain earlier | now := Bool.or_eq_true_iff.mp interrupted
          · exact agrees.started earlier
          · exact (Bool.and_eq_true_iff.mp now).2 }
  have finish {q : OrderedInterface} (hq : (l.observe (.processed enabled)).Agrees q) :
      (l.observe (.processed enabled)).Agrees
        (if q.station_.id ≠ 0 ∧ q.station_.kind = .kEnable ∧ enabled = q.desiredEnabled_ then
          q.finishStation event.status event.nativeCode else q) := by
    split
    · exact hq.finished rfl
    · exact hq
  unfold OrderedInterface.processEnabled
  rw [he]
  dsimp only
  split
  · rename_i off
    exact finish (base rfl rfl rfl rfl rfl rfl fun _ => .inl (by simpa using off.1))
  · exact finish (base rfl rfl rfl rfl rfl rfl fun idle => .inr idle)

theorem processPrepared (h : l.Agrees o) : l.Agrees (o.processPrepared native) := by
  unfold OrderedInterface.processPrepared
  split
  · dsimp only
    split
    · refine h.finished ?_
      rfl
    · exact h.record _
  · exact h

theorem processAssociated (h : l.Agrees o) : l.Agrees (o.processAssociated event) := by
  unfold OrderedInterface.processAssociated
  split
  · exact h
  · exact h.up LinkPhase.noConfusion

theorem processAddressReady (h : l.Agrees o) : l.Agrees (o.processAddressReady event) := by
  unfold OrderedInterface.processAddressReady
  split
  · exact h
  split
  · exact h
  dsimp only
  split
  · exact h.beside rfl
  split
  · refine h.finished ?_
    rfl
  · exact h.up LinkPhase.noConfusion

theorem processAddressLost (h : l.Agrees o) : l.Agrees o.processAddressLost := by
  unfold OrderedInterface.processAddressLost
  split
  · exact h.up LinkPhase.noConfusion
  · exact h

/-- Only a connect that was not started survives a disconnect. -/
theorem processDisconnected (h : l.Agrees o) : l.Agrees (o.processDisconnected event) := by
  unfold OrderedInterface.processDisconnected
  split
  · exact h
  dsimp only
  split
  · rename_i free
    exact h.vacant rfl fun hp => hp.1 free
  split
  · rename_i waits
    refine ⟨h.radio, fun hp => ?_⟩
    obtain ⟨known, a, ha, agrees⟩ := h.pending hp
    have unstarted : a.started = false := by
      by_contra started
      have cancelling := agrees.waits (by simpa using started) waits.1
      have uncancelled : (!o.cancelling_) = true := waits.2.2
      rw [cancelling] at uncancelled
      exact nomatch uncancelled
    refine ⟨known, a, ha, agrees.config, agrees.credentials, ?_, ?_, agrees.started⟩
    · intro started
      exact absurd (started.symm.trans unstarted) nofun
    · intro started
      exact absurd (started.symm.trans unstarted) nofun
  split
  · refine h.finished ?_
    rfl
  · rename_i enabling
    refine h.vacant rfl fun hp => enabling ?_
    intro kind
    exact absurd (hp.2.symm.trans kind) nofun

/-- A connect that is due is handed over. -/
theorem startConnection (h : l.Agrees o) (config : ConnectionConfig) (credentials : Credentials)
    (waited : o.waitingDisconnect_ = false) :
    (l.observe (.called config credentials)).Agrees (o.startConnection native) := by
  have radio : o.enabled_ = decide ((l.observe (.called config credentials)).radio = some true) :=
    h.radio
  unfold OrderedInterface.startConnection
  dsimp only
  split
  · refine ⟨?_, fun hp => absurd (finishStation_station_id _ _ _ _) hp.1⟩
    refine Eq.trans ?_ radio
    unfold OrderedInterface.finishStation
    split <;> rfl
  · refine ⟨radio, fun hp => ?_⟩
    obtain ⟨known, a, ha, agrees⟩ := h.pending hp
    refine ⟨known, { a with started := true }, ?_, agrees.config, nofun, ?_, nofun, fun _ => rfl⟩
    · rw [observe, ha]
      rfl
    intro _ waiting
    exact absurd (waited.symm.trans waiting) nofun

theorem process (h : l.Agrees o) (sound : o.faulted_ = false) (event : NativeStation.Event) :
    (l.after (report event.kind)).Agrees (o.process native event) := by
  unfold OrderedInterface.process
  rw [if_neg (by simp [sound])]
  cases hk : event.kind with
  | kEnabled => exact h.processEnabled (by simp [hk])
  | kDisabled => exact h.processEnabled (by simp [hk])
  | kPrepared => exact h.processPrepared
  | kScanDone => exact h.finishScan _ _
  | kAssociated => exact h.processAssociated
  | kAddressReady => exact h.processAddressReady
  | kAddressLost => exact h.processAddressLost
  | kDisconnected => exact h.processDisconnected

/-- The end of the drain, with the call it may make. -/
theorem drained (h : l.Agrees o) :
    (l.after (if o.Due then [.called o.config_ o.credentials_] else [])).Agrees
      (o.drained native) := by
  by_cases due : o.Due
  · rw [if_pos due, OrderedInterface.drained, if_pos due.1, if_neg (by simp [due.2])]
    exact h.startConnection o.config_ o.credentials_ (by simpa using due.1.2.2.1)
  · rw [if_neg due, OrderedInterface.drained]
    split
    · rename_i ready
      have cancelling : o.cancelling_ = true := by
        by_contra uncancelled
        exact due ⟨ready, by simpa using uncancelled⟩
      rw [if_pos cancelling]
      exact h.finished rfl
    · exact h

/-! ## Commands -/

variable {id : OperationId}

theorem post (h : l.Agrees o) : l.Agrees (o.post event) := by
  unfold OrderedInterface.post
  split <;> exact h.beside rfl

theorem begin (h : l.Agrees o) : l.Agrees (o.begin native).2 := by
  unfold OrderedInterface.begin
  dsimp only
  split
  · exact h
  split <;> exact h.beside rfl

theorem setEnabled (h : l.Agrees o) (enabled : Bool) :
    l.Agrees (o.setEnabled native id enabled).2 := by
  unfold OrderedInterface.setEnabled
  dsimp only
  split
  · exact h
  split
  · exact h.vacant rfl fun hp => hp.1 rfl
  · exact h.vacant rfl fun hp => OperationKind.noConfusion hp.2

theorem startScan (h : l.Agrees o) : l.Agrees (o.startScan native id).2 := by
  unfold OrderedInterface.startScan
  dsimp only
  repeat' split
  all_goals first
    | exact h
    | exact h.beside rfl

theorem disconnect (h : l.Agrees o) : l.Agrees (o.disconnect native id).2 := by
  unfold OrderedInterface.disconnect
  dsimp only
  split
  · exact h
  generalize (if o.link_.phase = .kIdle then Status.kNotFound else native.disconnect) = status
  have admitted : l.Agrees { o with
      station_ := { id, kind := .kDisconnect }, waitingDisconnect_ := true } :=
    h.vacant rfl fun hp => OperationKind.noConfusion hp.2
  split
  · exact admitted.post
  split
  · exact h.vacant rfl fun hp => hp.1 rfl
  · exact admitted

theorem cancelScan (h : l.Agrees o) : l.Agrees (o.cancelScan native).2 := by
  unfold OrderedInterface.cancelScan
  split
  · exact h
  split
  · exact h
  · exact h.beside rfl

theorem cancelConnect (h : l.Agrees o) : l.Agrees (o.cancelConnect native).2 := by
  have cancelled {p q : OrderedInterface} (hq : l.Agrees q) (he : p.enabled_ = q.enabled_)
      (hs : p.station_ = q.station_) (hc : p.config_ = q.config_)
      (hcr : p.credentials_ = q.credentials_) (hl : p.link_ = q.link_)
      (hca : p.cancelling_ = true) : l.Agrees p := by
    refine hq.same he hs hc hcr ?_ fun _ idle => hl ▸ idle
    intro _ _ uncancelled
    exact absurd (hca.symm.trans uncancelled) nofun
  unfold OrderedInterface.cancelConnect
  split
  · exact h
  split
  · exact h
  split
  · split
    · exact cancelled h.post rfl rfl rfl rfl rfl rfl
    split
    · exact h
    · exact cancelled h rfl rfl rfl rfl rfl rfl
  · exact cancelled h rfl rfl rfl rfl rfl rfl

theorem shutdown (h : l.Agrees o) : l.Agrees o.shutdown := h.vacant rfl fun hp => hp.1 rfl

theorem drain (h : l.Agrees o) : l.Agrees o.drain := by
  unfold OrderedInterface.drain
  split
  · exact h
  · exact h.beside rfl

variable (native id) in
/-- An admitted connect finds the radio reported enabled. -/
theorem connect (h : l.Agrees o) (config : ConnectionConfig) (secret : Credentials) :
    ((if (o.connect native id config secret).1 = .kOk then l.observe (.admitted config secret)
      else l)).Agrees (o.connect native id config secret).2 := by
  have admitted {p : OrderedInterface} (he : p.enabled_ = o.enabled_) (on : o.enabled_ = true)
      (hc : p.config_ = config) (hcr : p.credentials_ = secret) :
      (l.observe (.admitted config secret)).Agrees p := by
    refine ⟨he.trans h.radio, fun _ => ?_⟩
    have known : l.radio = some true := of_decide_eq_true (h.radio.symm.trans on)
    refine ⟨?_, { config, credentials := secret }, rfl, hc.symm, fun _ => hcr.symm, nofun, nofun,
      nofun⟩
    exact fun unknown => nomatch known.symm.trans unknown
  obtain ⟨status, failed, hr⟩ |
    ⟨-, on, ⟨-, hr⟩ | ⟨-, -, hr⟩ | ⟨-, -, hr⟩ | ⟨-, failed, hr⟩⟩ :=
    o.connect_outcomes native id config secret
  all_goals rw [hr]
  · rw [if_neg failed]
    exact h
  · exact admitted rfl on rfl rfl
  · exact admitted rfl on rfl rfl
  · refine admitted ?_ on ?_ ?_ <;>
    · unfold OrderedInterface.post
      dsimp only
      split <;> rfl
  · rw [if_neg failed]
    exact h.vacant rfl fun hp => hp.1 rfl

end Ledger.Agrees

/-! ## Runs -/

/-- Unless the drain ends there, a step calls no native connect. -/
def Ends (o : OrderedInterface) (input : Input) : Prop :=
  input.event = .pump ∧ o.draining = true ∧ o.overflow_ = false ∧ o.queue_ = []

/-- When the drain ends with a connect that is due, the radio was not reported
disabled last, nor since that connect was handed to the station. -/
def Undisturbed (w : Watch) (input : Input) : Prop :=
  w.adapter.Ends input → w.adapter.Due → w.adapter.enabled_ = true ∧
    ∀ a, (attempts.account w.log).connect = some a → a.interrupted = false

variable {w : Watch} {input : Input}

theorem reports_eq {o : OrderedInterface} (draining : o.draining = true)
    (fits : o.overflow_ = false) (sound : o.faulted_ = false) {q : OrderedInterface.QueuedEvent}
    {queue : List OrderedInterface.QueuedEvent} (waiting : o.queue_ = q :: queue) :
    o.reports = report q.kind := by
  simp [reports, draining, fits, sound, waiting]

/-- Only the end of the drain calls a native connect. -/
theorem entries_ended {o : OrderedInterface} {native : Answers} (draining : o.draining = true)
    (fits : o.overflow_ = false) (empty : o.queue_ = []) :
    o.entries ⟨.pump, native⟩ =
      if o.Due then [.called o.config_ o.credentials_] else [] := by
  have none : o.reports = [] := by
    unfold reports
    rw [empty]
    exact ite_self _
  by_cases due : o.Due
  · simp [entries, none, calls, pumpCalls, draining, fits, empty, drainedCalls, due]
  · simp [entries, none, calls, pumpCalls, draining, fits, empty, drainedCalls, due]

theorem entries_processed {o : OrderedInterface} {native : Answers}
    {q : OrderedInterface.QueuedEvent} {queue : List OrderedInterface.QueuedEvent}
    (waiting : o.queue_ = q :: queue) : o.entries ⟨.pump, native⟩ = o.reports := by
  simp only [entries, calls, pumpCalls, waiting, processCalls]
  split_ifs <;> simp

theorem processed_of_reports {o : OrderedInterface} (e : Entry) (he : e ∈ o.reports) :
    ∃ enabled, e = .processed enabled := by
  unfold reports at he
  split at he
  · split at he
    · exact absurd he List.not_mem_nil
    · rename_i q _ _
      cases hk : q.kind with
      | kEnabled | kDisabled =>
        rw [hk] at he
        exact ⟨_, List.mem_singleton.mp he⟩
      | _ =>
        rw [hk] at he
        exact absurd he List.not_mem_nil
  · exact absurd he List.not_mem_nil

theorem processed_of_unended {o : OrderedInterface} {native : Answers}
    (never : ¬ o.Ends ⟨.pump, native⟩) (e : Entry) (he : e ∈ o.entries ⟨.pump, native⟩) :
    ∃ enabled, e = .processed enabled := by
  cases waiting : o.queue_ with
  | cons q queue =>
    rw [entries_processed waiting] at he
    exact processed_of_reports e he
  | nil =>
    have none : o.calls ⟨.pump, native⟩ = [] := by
      simp only [calls, pumpCalls]
      split_ifs with stopped overflow
      · rfl
      · rfl
      · exact absurd ⟨rfl, by simpa using stopped, by simpa using overflow, waiting⟩ never
    simp only [entries, none, List.filterMap_nil, List.append_nil] at he
    exact processed_of_reports e he

theorem agrees_pump {l : Ledger} {o : OrderedInterface} (h : l.Agrees o) (native : Answers) :
    (l.after (o.entries ⟨.pump, native⟩)).Agrees (o.pump native) := by
  cases draining : o.draining with
  | false =>
    have none : o.entries ⟨.pump, native⟩ = [] := by
      simp [entries, reports, calls, pumpCalls, draining]
    rw [none, pump_stopped draining]
    exact h
  | true =>
  cases overflow : o.overflow_ with
  | true =>
    have none : o.entries ⟨.pump, native⟩ = [] := by
      simp [entries, reports, calls, pumpCalls, overflow]
    rw [none, pump_overflow draining overflow]
    refine Ledger.Agrees.finishScan (h.finished ?_) _ _
    rfl
  | false =>
  cases waiting : o.queue_ with
  | nil =>
    rw [entries_ended draining overflow waiting, pump_ended draining overflow waiting]
    have left : l.Agrees { o with draining := false } :=
      h.beside rfl
    exact left.drained
  | cons q queue =>
    rw [entries_processed waiting, pump_processed draining overflow waiting]
    have taken : l.Agrees { o with queue_ := queue } :=
      h.beside rfl
    by_cases faulted : o.faulted_ = true
    · have none : o.reports = [] := by simp [reports, faulted]
      rw [none, process_faulted (o := { o with queue_ := queue }) faulted]
      exact taken
    · have sound : o.faulted_ = false := by simpa using faulted
      rw [reports_eq draining overflow sound waiting]
      exact taken.process sound q.expand

theorem agrees_step {l : Ledger} {o : OrderedInterface} (h : l.Agrees o) (input : Input) :
    (l.after (o.entries input)).Agrees (o.step input) := by
  obtain ⟨event, native⟩ := input
  have command {p : OrderedInterface} (hp : l.Agrees p) :
      l.Agrees (if o.draining then o else p) := by
    split
    · exact h
    · exact hp
  cases event with
  | post event =>
    change l.Agrees (if o.attached_ then o.post event else o)
    split
    · exact h.post
    · exact h
  | begin => exact command h.begin
  | setEnabled id enabled => exact command (h.setEnabled enabled)
  | startScan id => exact command h.startScan
  | connect id config secret =>
    cases draining : o.draining with
    | true =>
      simp only [entries, answer, OrderedInterface.step, draining, if_true]
      exact h
    | false =>
      have step := h.connect native id config secret
      simp only [entries, answer, OrderedInterface.step, draining, Bool.false_eq_true, if_false,
        Option.some.injEq]
      split_ifs at step ⊢
      · exact step
      · exact step
  | disconnect id => exact command h.disconnect
  | cancelScan => exact command h.cancelScan
  | cancelConnect => exact command h.cancelConnect
  | shutdown => exact command h.shutdown
  | drain => exact command h.drain
  | pump => exact agrees_pump h native

theorem watched_step (w : Watch) (input : Input)
    (h : (attempts.account w.log).Agrees w.adapter) :
    (attempts.account (w.step input).log).Agrees (w.step input).adapter := by
  rw [Watch.step, Audit.account_append]
  exact agrees_step h input

/-- A connect that is due was never handed over, or the radio was reported
disabled since. -/
theorem allows_due {l : Ledger} {o : OrderedInterface} (h : l.Agrees o) (due : o.Due) :
    l.Allows (.called o.config_ o.credentials_) ↔
      o.enabled_ = true ∧ ∀ a, l.connect = some a → a.interrupted = false := by
  obtain ⟨known, a, ha, agrees⟩ := h.pending ⟨due.1.1, due.1.2.1⟩
  have on : l.radio ≠ some false ↔ o.enabled_ = true := by
    rw [h.radio, decide_eq_true_eq]
    cases hr : l.radio with
    | none => exact absurd hr known
    | some enabled => cases enabled <;> simp
  have started : a.started = a.interrupted := by
    cases hs : a.started with
    | true => exact (agrees.idle hs due.1.2.2.2).symm
    | false =>
      cases hi : a.interrupted with
      | true => exact absurd (hs.symm.trans (agrees.started hi)) nofun
      | false => rfl
  constructor
  · rintro ⟨radio, a', ha', unstarted, -, -⟩
    cases ha.symm.trans ha'
    refine ⟨on.mp radio, fun a' ha' => ?_⟩
    cases ha.symm.trans ha'
    rw [← started]
    exact unstarted
  · rintro ⟨radio, uninterrupted⟩
    have unstarted : a.started = false := started.trans (uninterrupted a ha)
    exact ⟨on.mpr radio, a, ha, unstarted, agrees.config, agrees.credentials unstarted⟩

/-- Only a call can fail the audit, and only the end of the drain makes one. -/
theorem clean_step (w : Watch) (input : Input)
    (h : (attempts.account w.log).Agrees w.adapter) :
    attempts.Clean (w.step input).log ↔ attempts.Clean w.log ∧ Undisturbed w input := by
  have silent (allowed : ∀ e ∈ w.adapter.entries input, ∀ l : Ledger, l.Allows e)
      (never : ¬ w.adapter.Ends input) :
      attempts.Clean (w.step input).log ↔ attempts.Clean w.log ∧ Undisturbed w input := by
    rw [Watch.step, Audit.clean_append allowed]
    exact (and_iff_left fun ends => absurd ends never).symm
  obtain ⟨event, native⟩ := input
  cases event with
  | connect id config secret =>
    refine silent ?_ fun ends => nomatch ends.1
    intro e he
    simp only [entries] at he
    split at he
    · rw [List.mem_singleton.mp he]
      exact fun _ => trivial
    · exact absurd he List.not_mem_nil
  | pump =>
    by_cases ends : w.adapter.Ends ⟨.pump, native⟩
    · obtain ⟨-, draining, fits, empty⟩ := ends
      rw [Watch.step, entries_ended draining fits empty]
      by_cases due : w.adapter.Due
      · rw [if_pos due, List.singleton_append, Audit.clean_cons, and_comm]
        refine and_congr_right fun _ => (allows_due h due).trans ?_
        exact ⟨fun undisturbed _ _ => undisturbed,
          fun undisturbed => undisturbed ⟨rfl, draining, fits, empty⟩ due⟩
      · rw [if_neg due]
        exact (and_iff_left fun _ isDue => absurd isDue due).symm
    · refine silent ?_ ends
      intro e he l
      obtain ⟨enabled, rfl⟩ := processed_of_unended ends e he
      trivial
  | _ => exact silent (fun _ he => absurd he List.not_mem_nil) fun ends => nomatch ends.1

/-- **One native attempt for each admitted connect**, in every run in which no
drain ends with a connect that is due while the radio is reported disabled or
after that interrupted its attempt, and in no other. -/
theorem one_attempt_per_connect (inputs : List Input) :
    attempts.Clean (Machine.run Watch.step {} inputs).log ↔
      Machine.Along Watch.step Undisturbed {} inputs := by
  have initial : (attempts.account ({} : Watch).log).Agrees ({} : Watch).adapter :=
    ⟨rfl, fun hp => absurd rfl hp.1⟩
  refine (Machine.run_iff_along (I := fun w : Watch => attempts.Clean w.log) watched_step
    clean_step initial).trans ?_
  exact and_iff_right Audit.clean_nil

/-- The radio is reported disabled and enabled again while the first attempt is
under way, and the drain starts a second one without the passphrase. -/
def reenabled : List Input :=
  let config : ConnectionConfig := { TestNetwork 65 with security := .kWpa2Personal }
  let secret : Credentials :=
    { encoding := .kPassphrase, bytes := .load 64 (List.replicate 8 97), size := 8 }
  [.begin, .post { kind := .kEnabled }, .drain, .pump, .pump, .connect 1 config secret, .drain,
    .pump, .post { kind := .kDisabled }, .post { kind := .kEnabled }, .drain, .pump, .pump,
    .pump].map fun event => { event, native := { support := { authenticationModes := 0xff } } }

theorem connect_called_twice :
    ¬ attempts.Clean (Machine.run Watch.step {} reenabled).log := by
  intro clean
  have calls : (Machine.run Watch.step {} reenabled).log =
      .called { TestNetwork 65 with security := .kWpa2Personal } {} ::
        (Machine.run Watch.step {} reenabled).log.tail := by
    decide +kernel
  have started : (attempts.account (Machine.run Watch.step {} reenabled).log.tail).connect.map
      (fun a => a.started) = some true := by
    decide +kernel
  rw [calls] at clean
  obtain ⟨-, a, ha, unstarted, -⟩ := (Audit.clean_cons.mp clean).1
  change (attempts.account _).connect = some a at ha
  rw [ha] at started
  exact absurd (started.symm.trans (congrArg some unstarted)) nofun

end RooWifi.OrderedInterface
