import RooWifi.Esp32.Policy
import RooWifi.System.Programming
import RooWifi.System.Reconciliation

/-! # What a link that is up belongs to

An association is reported only for a mode that the policy of the station's
current configuration allows. It waits in a queue and is attributed to a
connect by its SSID alone; still, whatever link the controller sees up is to
the network it asked for, in a mode its own request allows. -/
namespace RooWifi

open NativeStation (Answers)

/-! ## The adapter -/

namespace OrderedInterface

/-- A link that comes up, or is up, is one that was commanded: its network, and
a mode that the request allows. -/
structure Vouched (P : OperationId → ConnectionConfig → Prop) (link : LinkState) : Prop where
  connecting : link.phase = .kConnecting → ∃ config, P link.connectionId config ∧
    link.ssid.view = config.ssid.view ∧ link.security = config.security
  up : link.phase = .kAssociated ∨ link.phase = .kAddressReady → ∃ config,
    P link.connectionId config ∧ link.ssid.view = config.ssid.view ∧
      SecurityAllows config.security link.security = true

/-- The connect that is outstanding was commanded, and every link is vouched for. -/
structure Assured (P : OperationId → ConnectionConfig → Prop) (o : OrderedInterface) : Prop where
  pending : o.Pending → P o.station_.id o.config_
  link : Vouched P o.link_
  told : ∀ link, .linkChanged link ∈ o.trace → Vouched P link

/-- The event says that this link came up in a mode that is not allowed. -/
def Downgrades (link : LinkState) (event : NativeStation.Event) : Prop :=
  event.kind = .kAssociated ∧ link.phase = .kConnecting ∧
    SecurityAllows link.security event.link.security = false

variable {P Q : OperationId → ConnectionConfig → Prop} {o p : OrderedInterface}
  {link link' : LinkState} {native : Answers} {event : NativeStation.Event}

theorem Vouched.idle (idle : link.phase = .kIdle) : Vouched P link where
  connecting connecting := by
    rw [idle] at connecting
    cases connecting
  up up := by
    rw [idle] at up
    obtain up | up := up <;> cases up

theorem Vouched.mono (h : ∀ id config, P id config → Q id config) (hi : Vouched P link) :
    Vouched Q link where
  connecting connecting := by
    obtain ⟨config, asked, same⟩ := hi.connecting connecting
    exact ⟨config, h _ _ asked, same⟩
  up up := by
    obtain ⟨config, asked, same⟩ := hi.up up
    exact ⟨config, h _ _ asked, same⟩

/-- A report that changes the addresses of a link that is up. -/
theorem Vouched.readdressed (hi : Vouched P link)
    (was : link.phase = .kAssociated ∨ link.phase = .kAddressReady)
    (now : link'.phase = .kAssociated ∨ link'.phase = .kAddressReady)
    (id : link'.connectionId = link.connectionId) (ssid : link'.ssid = link.ssid)
    (security : link'.security = link.security) : Vouched P link' where
  connecting connecting := by
    rw [connecting] at now
    obtain now | now := now <;> cases now
  up _ := by
    rw [id, ssid, security]
    exact hi.up was

theorem view_of_differs {a b : Ssid} (same : differs a b = false) : a.view = b.view := by
  simp only [differs, Bool.not_eq_false', Bool.and_eq_true, beq_iff_eq] at same
  exact same.2

namespace Assured

variable (hi : Assured P o)
include hi

theorem mono (h : ∀ id config, P id config → Q id config) : Assured Q o where
  pending pending := h _ _ (hi.pending pending)
  link := hi.link.mono h
  told link told := (hi.told link told).mono h

theorem linkChanged (vouched : Vouched P link) : Assured P (o.linkChanged link) where
  pending := hi.pending
  link := vouched
  told other told := by
    obtain same | earlier := List.mem_cons.mp told
    · obtain rfl := Happening.linkChanged.inj same
      exact vouched
    · exact hi.told other earlier

/-- What is recorded besides says nothing of a link. -/
theorem told_cons {h : Happening} (other : ∀ link, h = .linkChanged link → False) :
    ∀ link, .linkChanged link ∈ h :: o.trace → Vouched P link := by
  intro link told
  obtain same | earlier := List.mem_cons.mp told
  · exact (other link same.symm).elim
  · exact hi.told link earlier

theorem record (h : Happening) (other : ∀ link, h = .linkChanged link → False) :
    Assured P (o.record h) :=
  ⟨hi.pending, hi.link, hi.told_cons other⟩

/-- Nothing is outstanding afterwards. -/
theorem finishStation (error : Status) (code : Int) (failure : ConnectionFailure) :
    Assured P (o.finishStation error code failure) := by
  unfold OrderedInterface.finishStation
  split
  · exact hi
  · refine ⟨fun pending => absurd rfl pending.1, hi.link, hi.told_cons ?_⟩
    intro link told
    cases told

theorem finishScan (error : Status) (code : Int) : Assured P (o.finishScan error code) := by
  unfold OrderedInterface.finishScan
  split
  · exact hi
  · refine ⟨hi.pending, hi.link, hi.told_cons ?_⟩
    intro link told
    cases told

/-! ### Events -/

theorem processEnabled : Assured P (o.processEnabled event) := by
  unfold OrderedInterface.processEnabled
  generalize decide (event.kind = .kEnabled) = enabled
  have set : Assured P { o with enabled_ := enabled } := ⟨hi.pending, hi.link, hi.told⟩
  have told := set.record (.enabledChanged enabled) fun link told => by cases told
  dsimp only
  split
  · split
    · exact (told.linkChanged (.idle rfl)).finishStation _ _ _
    · exact told.linkChanged (.idle rfl)
  · split
    · exact told.finishStation _ _ _
    · exact told

theorem processPrepared : Assured P (o.processPrepared native) := by
  unfold OrderedInterface.processPrepared
  split
  · have told := hi.record (.nativeContinue o.station_.id native.continueConnect)
      fun link told => by cases told
    dsimp only
    split
    · exact (told.linkChanged (.idle rfl)).finishStation _ _ _
    · exact told
  · exact hi

/-- **An association is taken for the link that is coming up.** -/
theorem processAssociated (kind : event.kind = .kAssociated) (sound : ¬ Downgrades o.link_ event) :
    Assured P (o.processAssociated event) := by
  unfold OrderedInterface.processAssociated
  split
  · exact hi
  rename_i h
  rw [not_or, not_not, Bool.not_eq_true] at h
  obtain ⟨connecting, same⟩ := h
  have allowed : SecurityAllows o.link_.security event.link.security = true := by
    by_contra refused
    exact sound ⟨kind, connecting, by simpa using refused⟩
  obtain ⟨config, asked, ssid, security⟩ := hi.link.connecting connecting
  refine hi.linkChanged ⟨fun phase => ?_, fun _ => ⟨config, asked, ?_, ?_⟩⟩
  · cases phase
  · exact (view_of_differs same).trans ssid
  · rw [← security]
    exact allowed

theorem processAddressReady : Assured P (o.processAddressReady event) := by
  unfold OrderedInterface.processAddressReady
  split
  · exact hi
  split
  · exact hi
  rename_i h
  simp only [not_or, not_and_or, not_not] at h
  obtain ⟨up, -, -⟩ := h
  dsimp only
  split
  · exact ⟨hi.pending, hi.link.readdressed up up rfl rfl rfl, hi.told⟩
  have ready : Vouched P { o.link_ with
      phase := .kAddressReady, address := event.link.address, gateway := event.link.gateway
      dns1 := event.link.dns1, dns2 := event.link.dns2, hasIpv4 := event.link.hasIpv4
      hasDns1 := event.link.hasDns1, hasDns2 := event.link.hasDns2 } :=
    hi.link.readdressed up (.inr rfl) rfl rfl rfl
  split
  · exact (hi.linkChanged ready).finishStation _ _ _
  · exact hi.linkChanged ready

theorem processAddressLost : Assured P o.processAddressLost := by
  unfold OrderedInterface.processAddressLost
  split
  · rename_i up
    exact hi.linkChanged (hi.link.readdressed (.inr up) (.inl rfl) rfl rfl rfl)
  · exact hi

theorem processDisconnected : Assured P (o.processDisconnected event) := by
  unfold OrderedInterface.processDisconnected
  split
  · exact hi
  have down : Vouched P (disconnectedLink o.link_ event) :=
    .idle (disconnectedLink_spec o.link_ event).1
  have told := (hi.linkChanged down).record (.disconnected event) fun link told => by cases told
  dsimp only
  split
  · exact told
  split
  · exact ⟨told.pending, told.link, told.told⟩
  split
  · exact told.finishStation _ _ _
  · exact told

theorem process (sound : ¬ Downgrades o.link_ event) : Assured P (o.process native event) := by
  unfold OrderedInterface.process
  split
  · exact hi
  cases kind : event.kind with
  | kEnabled | kDisabled => exact hi.processEnabled
  | kPrepared => exact hi.processPrepared
  | kScanDone => exact hi.finishScan _ _
  | kAssociated => exact hi.processAssociated kind sound
  | kAddressReady => exact hi.processAddressReady
  | kAddressLost => exact hi.processAddressLost
  | kDisconnected => exact hi.processDisconnected

end Assured

/-! ### The drain -/

/-- A connect that is due brings a link of its own request up. -/
theorem Assured.startConnection (hi : Assured P o) (pending : o.Pending) :
    Assured P (o.startConnection native) := by
  have connecting : Vouched P
      { connectionId := o.station_.id, ssid := o.config_.ssid, security := o.config_.security
        phase := .kConnecting } := {
    connecting := fun _ => ⟨o.config_, hi.pending pending, rfl, rfl⟩
    up := by
      intro up
      obtain up | up := up <;> cases up }
  have told := hi.linkChanged connecting
  have handed := told.record (.nativeConnect o.station_.id native.connect)
    fun link told => by cases told
  have dropped {q : OrderedInterface} (h : Assured P q) : Assured P { q with credentials_ := {} } :=
    ⟨h.pending, h.link, h.told⟩
  unfold OrderedInterface.startConnection
  dsimp only
  split
  · exact ((dropped handed).linkChanged (.idle rfl)).finishStation _ _ _
  · exact dropped handed

theorem Assured.pump (hi : Assured P o)
    (sound : ∀ q queue, o.queue_ = q :: queue → ¬ Downgrades o.link_ q.expand) :
    Assured P (o.pump native) := by
  cases draining : o.draining with
  | false => rwa [pump_stopped draining]
  | true =>
    cases overflow : o.overflow_ with
    | true =>
      rw [pump_overflow draining overflow]
      have faulted : Assured P { o with queue_ := [], faulted_ := true, draining := false } :=
        ⟨hi.pending, hi.link, hi.told⟩
      exact ((faulted.record .overflow fun link told => by cases told).finishStation _ _ _
        ).finishScan _ _
    | false =>
      cases waiting : o.queue_ with
      | nil =>
        rw [pump_ended draining overflow waiting]
        have stopped : Assured P { o with draining := false } := ⟨hi.pending, hi.link, hi.told⟩
        have drained : Assured P ({ o with draining := false }.drained native) := by
          unfold OrderedInterface.drained
          split
          · rename_i due
            split
            · exact stopped.finishStation _ _ _
            · exact stopped.startConnection ⟨due.1, due.2.1⟩
          · exact stopped
        exact ⟨drained.pending, drained.link, drained.told⟩
      | cons q queue =>
        rw [pump_processed draining overflow waiting]
        have taken : Assured P { o with queue_ := queue } := ⟨hi.pending, hi.link, hi.told⟩
        have processed : Assured P ({ o with queue_ := queue }.process native q.expand) :=
          taken.process (sound q queue waiting)
        exact ⟨processed.pending, processed.link, processed.told⟩

/-! ### Commands -/

theorem Assured.post (hi : Assured P o) (event : NativeStation.Event) : Assured P (o.post event) := by
  unfold OrderedInterface.post
  split <;> exact ⟨hi.pending, hi.link, hi.told⟩

theorem Assured.posts (hi : Assured P o) (posts : List NativeStation.Event) :
    Assured P (posts.foldl OrderedInterface.post o) := by
  induction posts generalizing o with
  | nil => exact hi
  | cons post posts ih => exact ih (hi.post post)

theorem Assured.connect (hi : Assured P o) {id : OperationId} {config : ConnectionConfig}
    {secret : Credentials}
    (asked : (o.connect native id config secret).1 = .kOk → P id config) :
    Assured P (o.connect native id config secret).2 := by
  have loaded (asked : P id config) : Assured P (o.loaded id config secret) :=
    ⟨fun _ => asked, hi.link, hi.told⟩
  have admitted {q : OrderedInterface} (h : Assured P q) : Assured P (q.record (.admitted id)) :=
    h.record (.admitted id) fun link told => by cases told
  obtain ⟨status, -, h⟩ | ⟨-, -, ⟨-, h⟩ | ⟨-, -, h⟩ | ⟨-, -, h⟩ | ⟨-, -, h⟩⟩ :=
    o.connect_outcomes native id config secret
  all_goals rw [h] at asked ⊢
  · exact hi
  · have connecting := loaded (asked rfl)
    have scheduled : Assured P { o.loaded id config secret with scheduled_ := true } :=
      ⟨connecting.pending, connecting.link, connecting.told⟩
    exact admitted scheduled
  · have connecting := loaded (asked rfl)
    have waiting : Assured P { o.loaded id config secret with waitingDisconnect_ := true } :=
      ⟨connecting.pending, connecting.link, connecting.told⟩
    exact admitted waiting
  · have connecting := loaded (asked rfl)
    have waiting : Assured P { o.loaded id config secret with waitingDisconnect_ := true } :=
      ⟨connecting.pending, connecting.link, connecting.told⟩
    exact admitted (waiting.post _)
  · exact ⟨fun pending => absurd rfl pending.1, hi.link, hi.told⟩

/-- A step other than an iteration of the drain. -/
theorem Assured.command (hi : Assured P o) {input : Input} (unpumped : input.event ≠ .pump)
    (asked : ∀ id config secret, input.event = .connect id config secret → o.draining = false →
      (o.connect input.native id config secret).1 = .kOk → P id config) :
    Assured P (o.step input) := by
  obtain ⟨event, native⟩ := input
  have later {p : OrderedInterface} (h : o.draining = false → Assured P p) :
      Assured P (if o.draining then o else p) := by
    split
    · exact hi
    · rename_i idle
      exact h (by simpa using idle)
  cases event with
  | post event =>
    simp only [OrderedInterface.step]
    split
    · exact hi.post event
    · exact hi
  | pump => exact absurd rfl unpumped
  | begin =>
    refine later fun _ => ?_
    unfold OrderedInterface.begin
    split_ifs <;> exact ⟨hi.pending, hi.link, hi.told⟩
  | setEnabled id enabled =>
    refine later fun _ => ?_
    unfold setEnabled
    dsimp only
    split_ifs
    · exact hi
    · exact ⟨fun pending => absurd rfl pending.1, hi.link, hi.told⟩
    · exact ⟨fun pending => absurd pending.2 OperationKind.noConfusion, hi.link, hi.told⟩
  | startScan id =>
    refine later fun _ => ?_
    unfold startScan
    dsimp only
    split_ifs <;> exact ⟨hi.pending, hi.link, hi.told⟩
  | connect id config secret =>
    exact later fun idle => hi.connect (asked id config secret rfl idle)
  | disconnect id =>
    refine later fun _ => ?_
    have disconnecting : Assured P { o with
        station_ := { id, kind := .kDisconnect }, waitingDisconnect_ := true } :=
      ⟨fun pending => absurd pending.2 OperationKind.noConfusion, hi.link, hi.told⟩
    unfold disconnect
    dsimp only
    generalize (if o.link_.phase = .kIdle then Status.kNotFound else native.disconnect) = status
    split_ifs
    · exact hi
    · exact disconnecting.post _
    · exact ⟨fun pending => absurd rfl pending.1, hi.link, hi.told⟩
    · exact disconnecting
  | cancelScan =>
    refine later fun _ => ?_
    unfold cancelScan
    split_ifs <;> exact ⟨hi.pending, hi.link, hi.told⟩
  | cancelConnect =>
    refine later fun _ => ?_
    have posted := hi.post { kind := .kDisconnected, link := o.link_ }
    unfold cancelConnect
    split_ifs
    all_goals first
      | exact ⟨posted.pending, posted.link, posted.told⟩
      | exact ⟨hi.pending, hi.link, hi.told⟩
  | shutdown =>
    exact later fun _ => ⟨fun pending => absurd rfl pending.1, .idle rfl, hi.told⟩
  | drain =>
    refine later fun _ => ?_
    unfold drain
    split_ifs <;> exact ⟨hi.pending, hi.link, hi.told⟩

/-! ### A link that is coming up -/

/-- From `o` to `p` a link that is coming up stays the same, and only these
associations may have been queued. -/
structure Upholds (o p : OrderedInterface) : Prop where
  link : p.link_.phase = .kConnecting → p.link_ = o.link_
  queue : p.link_.phase = .kConnecting → ∀ q ∈ p.queue_, q.kind = .kAssociated → q ∈ o.queue_

theorem upholds_of_same (link : p.link_ = o.link_) (queue : p.queue_ = o.queue_) : Upholds o p :=
  ⟨fun _ => link, fun _ _ mem _ => queue ▸ mem⟩

theorem upholds_of_down (down : p.link_.phase ≠ .kConnecting) : Upholds o p :=
  ⟨fun connecting => absurd connecting down, fun connecting => absurd connecting down⟩

theorem upholds_post (o : OrderedInterface) {event : NativeStation.Event}
    (other : event.kind ≠ .kAssociated) : Upholds o (o.post event) := by
  unfold post
  split
  · exact upholds_of_same rfl rfl
  · refine ⟨fun _ => rfl, fun _ q mem associated => ?_⟩
    obtain queued | posted := List.mem_append.mp mem
    · exact queued
    · obtain rfl := List.mem_singleton.mp posted
      refine absurd ?_ other
      have kind : (QueuedEvent.of event).kind = event.kind := by
        cases same : event.kind <;> simp [QueuedEvent.of, same]
      exact kind.symm.trans associated

theorem Upholds.same {q : OrderedInterface} (h : Upholds o p) (link : q.link_ = p.link_)
    (queue : q.queue_ = p.queue_) : Upholds o q where
  link := by
    rw [link]
    exact h.link
  queue := by
    rw [link, queue]
    exact h.queue

theorem Upholds.finishStation (h : Upholds o p) (error : Status) (code : Int)
    (failure : ConnectionFailure) : Upholds o (p.finishStation error code failure) := by
  unfold OrderedInterface.finishStation
  split
  · exact h
  · exact h.same rfl rfl

theorem Upholds.finishScan (h : Upholds o p) (error : Status) (code : Int) :
    Upholds o (p.finishScan error code) := by
  unfold OrderedInterface.finishScan
  split
  · exact h
  · exact h.same rfl rfl

theorem upholds_disconnected (o : OrderedInterface) (link : LinkState) :
    Upholds o (o.post { kind := .kDisconnected, link }) :=
  upholds_post o NativeStation.EventKind.noConfusion

/-- Processing brings no link up, and changes none that is coming up. -/
theorem upholds_process (o : OrderedInterface) (native : Answers) (event : NativeStation.Event) :
    Upholds o (o.process native event) := by
  have kept {p : OrderedInterface} (link : p.link_ = o.link_) (queue : p.queue_ = o.queue_) :
      Upholds o p := upholds_of_same link queue
  have left {p : OrderedInterface} {phase : LinkPhase} (now : p.link_.phase = phase)
      (other : phase ≠ .kConnecting) : Upholds o p := by
    refine upholds_of_down ?_
    rwa [now]
  unfold process
  split
  · exact kept rfl rfl
  cases event.kind with
  | kEnabled | kDisabled =>
    unfold processEnabled
    dsimp only
    split
    · split
      · refine Upholds.finishStation ?_ _ _ _
        exact left rfl LinkPhase.noConfusion
      · exact left rfl LinkPhase.noConfusion
    · split
      · refine Upholds.finishStation ?_ _ _ _
        exact kept rfl rfl
      · exact kept rfl rfl
  | kPrepared =>
    unfold processPrepared
    dsimp only
    split
    · split
      · refine Upholds.finishStation ?_ _ _ _
        exact left rfl LinkPhase.noConfusion
      · exact kept rfl rfl
    · exact kept rfl rfl
  | kScanDone => exact (kept rfl rfl).finishScan event.status event.nativeCode
  | kAssociated =>
    dsimp only
    unfold processAssociated
    split
    · exact kept rfl rfl
    · exact left rfl LinkPhase.noConfusion
  | kAddressReady =>
    dsimp only
    unfold processAddressReady
    split
    · exact kept rfl rfl
    split
    · exact kept rfl rfl
    rename_i h
    simp only [not_or, not_and_or, not_not] at h
    dsimp only
    split
    · obtain up | up := h.1
      · exact left up LinkPhase.noConfusion
      · exact left up LinkPhase.noConfusion
    split
    · refine Upholds.finishStation ?_ _ _ _
      exact left rfl LinkPhase.noConfusion
    · exact left rfl LinkPhase.noConfusion
  | kAddressLost =>
    dsimp only
    unfold processAddressLost
    split
    · exact left rfl LinkPhase.noConfusion
    · exact kept rfl rfl
  | kDisconnected =>
    dsimp only
    unfold processDisconnected
    split
    · exact kept rfl rfl
    have down := (disconnectedLink_spec o.link_ event).1
    dsimp only
    split
    · exact left down LinkPhase.noConfusion
    split
    · exact left down LinkPhase.noConfusion
    split
    · refine Upholds.finishStation ?_ _ _ _
      exact left down LinkPhase.noConfusion
    · exact left down LinkPhase.noConfusion

/-- A connect that the station takes brings a link up for the policy it asks for. -/
theorem startConnection_link (o : OrderedInterface) (native : Answers)
    (connecting : (o.startConnection native).link_.phase = .kConnecting) :
    native.connect = .kOk ∧ (o.startConnection native).link_.security = o.config_.security ∧
      (o.startConnection native).queue_ = o.queue_ := by
  unfold startConnection at connecting ⊢
  dsimp only at connecting ⊢
  split at connecting
  · unfold finishStation at connecting
    split at connecting <;> cases connecting
  · rename_i taken
    rw [if_neg taken]
    exact ⟨not_not.mp taken, rfl, rfl⟩

/-- The iteration hands a connect to the station, for which nothing is queued. -/
structure Starts (o : OrderedInterface) (native : Answers) : Prop where
  draining : o.draining = true
  fits : o.overflow_ = false
  empty : o.queue_ = []
  due : o.Due
  link : (o.pump native).link_.phase = .kConnecting → native.connect = .kOk ∧
    (o.pump native).link_.security = o.config_.security ∧ (o.pump native).queue_ = []

/-- Only a connect that is due brings a link up. -/
theorem upholds_pump (o : OrderedInterface) (native : Answers) :
    Upholds o (o.pump native) ∨ o.Starts native := by
  cases draining : o.draining with
  | false =>
    rw [pump_stopped draining]
    exact .inl (upholds_of_same rfl rfl)
  | true =>
    cases overflow : o.overflow_ with
    | true =>
      left
      rw [pump_overflow draining overflow]
      refine Upholds.finishScan (Upholds.finishStation ?_ _ _ _) _ _
      exact ⟨fun _ => rfl, fun _ _ none => absurd none List.not_mem_nil⟩
    | false =>
      cases waiting : o.queue_ with
      | nil =>
        by_cases due : o.Due
        · refine .inr ⟨draining, overflow, waiting, due, ?_⟩
          have handed : o.pump native = { o with draining := false }.startConnection native := by
            rw [pump_ended draining overflow waiting]
            unfold drained
            rw [if_pos due.1, if_neg (by simp [due.2])]
          rw [handed]
          intro connecting
          have started := startConnection_link _ _ connecting
          exact ⟨started.1, started.2.1, started.2.2.trans waiting⟩
        · left
          rw [pump_ended draining overflow waiting]
          unfold drained
          split
          · rename_i idle
            split
            · refine Upholds.finishStation ?_ _ _ _
              exact upholds_of_same rfl rfl
            · rename_i uncancelled
              exact absurd ⟨idle, by simpa using uncancelled⟩ due
          · exact upholds_of_same rfl rfl
      | cons q queue =>
        left
        rw [pump_processed draining overflow waiting]
        have processed := upholds_process { o with queue_ := queue } native q.expand
        refine ⟨processed.link, fun connecting other mem associated => ?_⟩
        rw [waiting]
        exact List.mem_cons_of_mem _ (processed.queue connecting other mem associated)

/-- No other step brings a link up. -/
theorem upholds_command {input : Input} (unpumped : input.event ≠ .pump)
    (unposted : ∀ event, input.event ≠ .post event) : Upholds o (o.step input) := by
  obtain ⟨event, native⟩ := input
  have later {p : OrderedInterface} (h : Upholds o p) : Upholds o (if o.draining then o else p) := by
    split
    · exact upholds_of_same rfl rfl
    · exact h
  cases event with
  | post event => exact absurd rfl (unposted event)
  | pump => exact absurd rfl unpumped
  | begin =>
    refine later ?_
    have cleared {p : OrderedInterface} (link : p.link_ = o.link_) (queue : p.queue_ = []) :
        Upholds o p :=
      ⟨fun _ => link, fun _ _ mem => absurd (queue ▸ mem) List.not_mem_nil⟩
    unfold OrderedInterface.begin
    split_ifs
    · exact upholds_of_same rfl rfl
    · exact cleared rfl rfl
    · exact cleared rfl rfl
  | setEnabled id enabled =>
    refine later ?_
    unfold setEnabled
    dsimp only
    split_ifs <;> exact upholds_of_same rfl rfl
  | startScan id =>
    refine later ?_
    unfold startScan
    dsimp only
    split_ifs <;> exact upholds_of_same rfl rfl
  | connect id config secret =>
    refine later ?_
    obtain ⟨status, -, h⟩ | ⟨-, -, ⟨-, h⟩ | ⟨-, -, h⟩ | ⟨-, -, h⟩ | ⟨-, -, h⟩⟩ :=
      o.connect_outcomes native id config secret
    all_goals rw [h]
    · exact upholds_of_same rfl rfl
    · exact upholds_of_same rfl rfl
    · exact upholds_of_same rfl rfl
    · have posted := upholds_disconnected
        { o.loaded id config secret with waitingDisconnect_ := true } o.link_
      exact ⟨posted.link, posted.queue⟩
    · exact upholds_of_same rfl rfl
  | disconnect id =>
    refine later ?_
    have posted := upholds_disconnected
      { o with station_ := { id, kind := .kDisconnect }, waitingDisconnect_ := true } o.link_
    unfold disconnect
    dsimp only
    generalize (if o.link_.phase = .kIdle then Status.kNotFound else native.disconnect) = status
    split_ifs
    · exact upholds_of_same rfl rfl
    · exact ⟨posted.link, posted.queue⟩
    · exact upholds_of_same rfl rfl
    · exact upholds_of_same rfl rfl
  | cancelScan =>
    refine later ?_
    unfold cancelScan
    split_ifs <;> exact upholds_of_same rfl rfl
  | cancelConnect =>
    refine later ?_
    have posted := upholds_disconnected o o.link_
    unfold cancelConnect
    split_ifs
    all_goals first
      | exact upholds_of_same rfl rfl
      | exact ⟨posted.link, posted.queue⟩
  | shutdown =>
    refine later (upholds_of_down ?_)
    exact LinkPhase.noConfusion
  | drain =>
    refine later ?_
    unfold drain
    split_ifs <;> exact upholds_of_same rfl rfl

/-! ### What is queued -/

theorem link_posts (posts : List NativeStation.Event) (o : OrderedInterface) :
    (posts.foldl OrderedInterface.post o).link_ = o.link_ := by
  induction posts generalizing o with
  | nil => rfl
  | cons post posts ih =>
    refine (ih _).trans ?_
    unfold OrderedInterface.post
    split <;> rfl

theorem mem_posts {posts : List NativeStation.Event} {q : QueuedEvent}
    (mem : q ∈ (posts.foldl OrderedInterface.post o).queue_) :
    q ∈ o.queue_ ∨ ∃ event ∈ posts, q = .of event := by
  induction posts generalizing o with
  | nil => exact .inl mem
  | cons post posts ih =>
    obtain queued | ⟨event, later, rfl⟩ := ih mem
    · unfold OrderedInterface.post at queued
      split at queued
      · exact .inl queued
      · obtain before | posted := List.mem_append.mp queued
        · exact .inl before
        · exact .inr ⟨post, List.mem_cons_self, List.mem_singleton.mp posted⟩
    · exact .inr ⟨event, List.mem_cons_of_mem _ later, rfl⟩

/-- The queue keeps the mode of an association. -/
theorem expand_associated (associated : (QueuedEvent.of event).kind = .kAssociated) :
    event.kind = .kAssociated ∧ (QueuedEvent.of event).expand.link.security = event.link.security := by
  have kind : (QueuedEvent.of event).kind = event.kind := by
    cases same : event.kind <;> simp [QueuedEvent.of, same]
  have same : event.kind = .kAssociated := kind.symm.trans associated
  refine ⟨same, ?_⟩
  simp [QueuedEvent.expand, QueuedEvent.of, same]

end OrderedInterface

/-! ## The interface -/

namespace Esp32IdfInterface

variable {P Q : OperationId → ConnectionConfig → Prop} {s : Esp32IdfInterface}

/-- The station checks associations against the policy of the link that is
coming up, and so was whatever is queued. -/
structure Assured (P : OperationId → ConnectionConfig → Prop) (s : Esp32IdfInterface) : Prop where
  ordered : s.ordered.Assured P
  policy : s.ordered.link_.phase = .kConnecting →
    s.station.config_.security = s.ordered.link_.security
  queued : s.ordered.link_.phase = .kConnecting → ∀ q ∈ s.ordered.queue_,
    q.kind = .kAssociated → SecurityAllows s.ordered.link_.security q.expand.link.security = true

theorem Assured.mono (h : ∀ id config, P id config → Q id config) (hi : Assured P s) :
    Assured Q s :=
  ⟨hi.ordered.mono h, hi.policy, hi.queued⟩

/-- A step that starts no connect. -/
theorem Assured.onward (hi : Assured P s) {o : OrderedInterface} {station : Esp32Station}
    {posts : List NativeStation.Event} (ordered : o.Assured P) (upholds : s.ordered.Upholds o)
    (config : s.ordered.link_.phase = .kConnecting → station.config_ = s.station.config_)
    (sound : ∀ event ∈ posts, event.kind = .kAssociated →
      SecurityAllows s.station.config_.security event.link.security = true) :
    Assured P { s with station, ordered := posts.foldl OrderedInterface.post o } := by
  have same := OrderedInterface.link_posts posts o
  refine ⟨ordered.posts posts, ?_, ?_⟩
  all_goals
    dsimp only
    rw [same]
    intro connecting
    have kept := upholds.link connecting
    have before : s.ordered.link_.phase = .kConnecting := by
      rw [← kept]
      exact connecting
    have policy := hi.policy before
    rw [kept]
  · rw [config before]
    exact policy
  · intro q mem associated
    obtain queued | ⟨event, posted, rfl⟩ := OrderedInterface.mem_posts mem
    · exact hi.queued before q (upholds.queue connecting q queued associated) associated
    · obtain ⟨kind, mode⟩ := OrderedInterface.expand_associated associated
      rw [mode, ← policy]
      exact sound event posted kind

/-- Calls of the adapter report no association. -/
theorem outcome_posts {event : OrderedInterface.Event} {maxResults : UInt16} {idf : Idf}
    {e : NativeStation.Event} (posted : e ∈ (s.outcome event maxResults idf).2.2) :
    e.kind ≠ .kAssociated := by
  intro associated
  unfold outcome at posted
  split at posted
  · exact absurd posted List.not_mem_nil
  · rename_i call calls called
    obtain ⟨info, heard, -⟩ := s.station.associated_cases _ posted associated
    cases call <;> cases heard

/-- A link that is coming up keeps the configuration it comes up with. -/
theorem outcome_config (connecting : s.ordered.link_.phase = .kConnecting)
    (event : OrderedInterface.Event) (maxResults : UInt16) (idf : Idf) :
    (s.outcome event maxResults idf).2.1.config_ = s.station.config_ := by
  unfold outcome
  split
  · rfl
  rename_i call calls called
  obtain same | ⟨config, secret, connects, -⟩ :=
    s.station.config_step { action := action maxResults call, idf }
  · exact same
  · have connect : call = .connect config secret := by
      cases call with
      | connect => simpa [action] using connects
      | _ => cases connects
    have handed : .connect config secret ∈ s.ordered.calls (s.answered event .kOk) := by
      rw [called, connect]
      exact List.mem_cons_self
    obtain ⟨due, -⟩ := OrderedInterface.calls_connect handed
    exact absurd (connecting.symm.trans due.1.2.2.2) LinkPhase.noConfusion

/-- A step of the adapter that starts no connect. -/
theorem Assured.serve (hi : Assured P s) {event : OrderedInterface.Event} {maxResults : UInt16}
    {idf : Idf}
    (ordered : (s.ordered.step (s.answered event (s.outcome event maxResults idf).1)).Assured P)
    (upholds : s.ordered.Upholds
      (s.ordered.step (s.answered event (s.outcome event maxResults idf).1))) :
    Assured P (s.serve event maxResults idf) :=
  hi.onward ordered upholds (fun connecting => outcome_config connecting event maxResults idf)
    fun _ posted associated => absurd associated (outcome_posts posted)

/-- **A connect that is started is checked by its own policy.** -/
theorem Assured.starts (hi : Assured P s) {idf : Idf}
    (starts : s.ordered.Starts (s.answered .pump (s.outcome .pump 0 idf).1).native) :
    Assured P (s.serve .pump 0 idf) := by
  have handed : s.outcome .pump 0 idf =
      s.station.connect idf s.ordered.config_ s.ordered.credentials_ := by
    have connect : s.ordered.calls (s.answered .pump .kOk) =
        [.connect s.ordered.config_ s.ordered.credentials_] := by
      simp [OrderedInterface.calls, answered, OrderedInterface.pumpCalls, starts.draining,
        starts.fits, starts.empty, OrderedInterface.drainedCalls, starts.due]
    rw [outcome, connect]
    rfl
  have ordered : (s.ordered.pump (s.answered .pump (s.outcome .pump 0 idf).1).native).Assured P :=
    hi.ordered.pump fun q queue waiting =>
      absurd (starts.empty.symm.trans waiting) (List.cons_ne_nil q queue).symm
  have same := OrderedInterface.link_posts (s.outcome .pump 0 idf).2.2
    (s.ordered.pump (s.answered .pump (s.outcome .pump 0 idf).1).native)
  refine ⟨ordered.posts _, fun connecting => ?_, fun connecting q mem associated => ?_⟩
  · obtain ⟨taken, security, -⟩ := starts.link (same ▸ connecting)
    refine Eq.trans ?_ (security.symm.trans (congrArg (·.security) same.symm))
    have admitted : s.station.admits s.ordered.config_ = true := by
      by_contra refused
      have refused : s.station.admits s.ordered.config_ = false := by simpa using refused
      have taken : (s.outcome .pump 0 idf).1 = .kOk := taken
      rw [handed] at taken
      obtain refused | refused := s.station.connect_refused idf s.ordered.credentials_ refused
      · rw [refused] at taken
        cases taken
      · rw [refused] at taken
        cases taken
    change (s.outcome .pump 0 idf).2.1.config_.security = _
    rw [handed, (s.station.connect_stores idf s.ordered.credentials_ admitted).2]
  · obtain ⟨-, -, empty⟩ := starts.link (same ▸ connecting)
    obtain queued | ⟨event, posted, rfl⟩ := OrderedInterface.mem_posts mem
    · exact absurd (empty ▸ queued) List.not_mem_nil
    · exact absurd (OrderedInterface.expand_associated associated).1 (outcome_posts posted)

/-- **A step reports only links that were commanded**, if its own connect is. -/
theorem Assured.step (hi : Assured P s) {input : Input}
    (asked : ∀ id config secret, s.returned input = some (.connect id config secret, .kOk) →
      P id config) : Assured P (s.step input) := by
  obtain ⟨event, idf⟩ := input
  cases event with
  | native e =>
    refine hi.onward hi.ordered (OrderedInterface.upholds_of_same rfl rfl) (fun _ => ?_)
      fun event posted associated => ?_
    · obtain same | ⟨config, secret, connects, -⟩ :=
        s.station.config_step { action := .event e, idf }
      · exact same
      · cases connects
    · obtain ⟨info, -, mode, allowed⟩ :=
        s.station.associated_cases { action := .event e, idf } posted associated
      rw [mode]
      exact allowed
  | drain =>
    change Assured P (s.serve .drain 0 idf)
    refine hi.serve (hi.ordered.command ?_ ?_) (OrderedInterface.upholds_command ?_ ?_)
    · exact OrderedInterface.Event.noConfusion
    · intro id config secret other
      cases other
    · exact OrderedInterface.Event.noConfusion
    · exact fun _ => OrderedInterface.Event.noConfusion
  | pump =>
    obtain upholds | starts := s.ordered.upholds_pump
      (s.answered .pump (s.outcome .pump 0 idf).1).native
    · refine hi.serve (hi.ordered.pump fun q queue waiting => ?_) upholds
      rintro ⟨kind, connecting, downgraded⟩
      have allowed := hi.queued connecting q (by simp [waiting]) kind
      exact absurd (downgraded.symm.trans allowed) Bool.false_ne_true
    · exact hi.starts starts
  | command c =>
    refine hi.serve (hi.ordered.command ?_ ?_) (OrderedInterface.upholds_command ?_ ?_)
    · cases c <;> exact OrderedInterface.Event.noConfusion
    · intro id config secret connects idle admitted
      cases c with
      | connect =>
        obtain ⟨rfl, rfl, rfl⟩ := OrderedInterface.Event.connect.inj connects
        exact asked _ _ _ (returned_admitted idle admitted).1
      | _ => cases connects
    · cases c <;> exact OrderedInterface.Event.noConfusion
    · intro event posts
      cases c <;> cases posts

theorem Assured.run (hi : Assured P s) {inputs : List Input}
    (asked : ∀ id config secret, (.connect id config secret, .kOk) ∈ s.returns inputs →
      P id config) : Assured P (Machine.run Esp32IdfInterface.step s inputs) := by
  induction inputs generalizing s with
  | nil => exact hi
  | cons input inputs ih =>
    rw [Machine.run_cons]
    refine ih (hi.step fun id config secret returned => ?_) fun id config secret later => ?_
    · refine asked id config secret ?_
      rw [returns_cons]
      exact List.mem_append_left _ (by simp [returned])
    · refine asked id config secret ?_
      rw [returns_cons]
      exact List.mem_append_right _ later

end Esp32IdfInterface

/-! ## The controller -/

namespace Controller

variable {c d : Controller} {a : Atom}

/-- The observed link is the one before, or none, or the one reported. -/
def Observes (a : Atom) (c d : Controller) : Prop :=
  d.state_.link = c.state_.link ∨ d.state_.link.phase = .kIdle ∨
    ∃ link env, a = .linkChanged link env ∧ d.state_.link = link

theorem link_changed (change : Change) (c : Controller) :
    (c.changed change).state_.link = c.state_.link := by
  rw [changed_eq]

theorem link_connectionFailed (now : Nat) (status : Status) (failure : ConnectionFailure)
    (code : Int) (hasCode : Bool) (c : Controller) :
    (c.connectionFailed now status failure code hasCode).state_.link = c.state_.link := by
  obtain ⟨_, _, _, _, h, -⟩ := connectionFailed_cases now status failure code hasCode c
  rw [h]

theorem link_hear (env : Env) (c : Controller) (link : LinkState) :
    (c.hear env link).state_.link = link := by
  by_cases ready : link.phase = .kAddressReady
  · obtain ⟨_, _, _, _, _, _, _, h, -⟩ := hear_ready env c ready
    rw [h, link_changed]
  by_cases idle : link.phase = .kIdle
  · rw [hear_idle env c idle]
    dsimp only
    rw [link_changed]
    split
    · rw [link_connectionFailed]
      rfl
    · rfl
  · rw [hear_unready env c ready idle, link_changed]

theorem Effect.observes (h : Effect a c d) : Observes a c d := by
  cases h with
  | noted | scheduled | listened | relaxed | repeated | aimed | timedOut | scanTimedOut | taken
  | retryIdle => exact .inl rfl
  | begun =>
    left
    rw [newIntent_eq]
    exact link_changed _ _
  | withdrawn =>
    left
    rw [newIntent_eq]
  | requested =>
    left
    rw [newIntent_eq]
    rfl
  | shutdown opened =>
    refine .inr (.inl ?_)
    rw [shutdown_eq opened]
  | faulted =>
    left
    rw [fault_eq]
  | scanQueued | scanDropped | scanCancelled | profiles | cancelled | issued | settled | unrestored
  | scanStarted | stable | retryDenied | retryGranted | enabledReported =>
    left
    exact link_changed _ _
  | addressExpired =>
    left
    rw [link_changed, link_connectionFailed]
    rfl
  | scanFinished r env =>
    left
    obtain ⟨_, _, _, h, -⟩ := scanFinished_cases env r c
    rw [h]
    exact link_changed _ _
  | stationFinished r env =>
    left
    obtain ⟨_, _, _, _, _, x, hx, h⟩ := stationFinished_cases env r c
    have same : x.state_.link = c.state_.link := by rw [hx]
    rw [h]
    refine (link_changed _ _).trans ?_
    split
    · rw [link_connectionFailed]
      exact same
    · exact same
  | linkReported => exact .inr (.inr ⟨_, _, rfl, link_hear _ _ _⟩)

theorem atom_observes (c : Controller) (a : Atom) : Observes a c (atom c a) := by
  refine Machine.path_invariant (M := Effect a) (J := Observes a c) (fun d e h hi => ?_)
    (atom_effects c a) (.inl rfl)
  obtain same | down | heard := h.observes
  · rw [Observes, same]
    exact hi
  · exact .inr (.inl down)
  · exact .inr (.inr heard)

/-- A connect to this network was commanded under this id, and taken. -/
def Commanded (t : List Action) (id : OperationId) (config : ConnectionConfig) : Prop :=
  ∃ credentials, .connect id config credentials .kOk ∈ t

theorem Commanded.mono {t t' : List Action} {id : OperationId} {config : ConnectionConfig}
    (h : Commanded t id config) (grown : t <:+ t') : Commanded t' id config := by
  obtain ⟨credentials, commanded⟩ := h
  exact ⟨credentials, grown.subset commanded⟩

end Controller

/-! ## The stack -/

namespace Stack

open Controller (Options)

variable {s : Stack} {options : Options} {seed : UInt32}

/-- The links that the interface reports and that the controller observes were
commanded. -/
structure Assured (s : Stack) : Prop where
  interface : s.interface.Assured (Controller.Commanded s.controller.trace)
  observed : OrderedInterface.Vouched (Controller.Commanded s.controller.trace)
    s.controller.state_.link

theorem assured_init (wpa3 : Bool) (selection : Esp32Station.SelectionOptions)
    (options : Options) (seed : UInt32) : (init wpa3 selection options seed).Assured where
  interface := {
    ordered := ⟨fun pending => absurd rfl pending.1, .idle rfl,
      fun _ none => absurd none List.not_mem_nil⟩
    policy := fun connecting => absurd connecting LinkPhase.noConfusion
    queued := fun connecting => absurd connecting LinkPhase.noConfusion }
  observed := .idle rfl

/-- A call hands over what is commanded in it. -/
theorem Assured.atom (hi : s.Assured) (wired : Wired s options seed) {a : Controller.Atom}
    {inputs : List Esp32IdfInterface.Input} (meets : s.Meets a inputs) :
    Assured {
      controller := s.controller.atom (s.wired a)
      interface := Machine.run Esp32IdfInterface.step s.interface inputs } := by
  obtain ⟨new, grown⟩ := Controller.atom_suffix (s.wired a) wired.exclusive
  have later : ∀ id config, Controller.Commanded s.controller.trace id config →
      Controller.Commanded (s.controller.atom (s.wired a)).trace id config :=
    fun id config commanded => commanded.mono ⟨new, grown⟩
  refine ⟨(hi.interface.mono later).run fun id config secret returned => ?_, ?_⟩
  · rw [meets.2.2.2, commands_eq grown.symm] at returned
    refine ⟨secret, ?_⟩
    rw [← grown]
    exact List.mem_append_left _ (Controller.connect_of_commands returned)
  · obtain same | down | ⟨link, env, heard, -⟩ := Controller.atom_observes s.controller (s.wired a)
    · dsimp only
      rw [same]
      exact hi.observed.mono later
    · exact .idle down
    · have called := meets.1
      rw [← wired_callback (s := s), heard] at called
      cases called

/-- What the controller is told was told by the interface. -/
theorem linkChanged_of_callback {interface : Esp32IdfInterface} {env : Nat → Controller.Env}
    {link : LinkState} {met : Controller.Env}
    (called : .linkChanged link met ∈ s.callbacks interface env) :
    .linkChanged link ∈ interface.ordered.trace := by
  obtain ⟨i, inside, same⟩ := List.mem_mapIdx.mp called
  obtain ⟨happening, told, heard⟩ := List.mem_filterMap.mp (List.getElem_mem inside)
  have mem : happening ∈ interface.ordered.trace :=
    List.mem_of_mem_take (List.mem_reverse.mp told)
  cases happening with
  | linkChanged link' =>
    rw [← Option.some.inj heard] at same
    obtain ⟨rfl, -⟩ := Controller.Atom.linkChanged.inj same
    exact mem
  | finished result =>
    rw [← Option.some.inj heard] at same
    cases same
  | enabledChanged enabled =>
    rw [← Option.some.inj heard] at same
    cases same
  | _ => cases heard

theorem Assured.interface_step (hi : s.Assured) (wired : Wired s options seed)
    {input : Esp32IdfInterface.Input} (uncalled : ∀ c, input.event ≠ .command c)
    (env : Nat → Controller.Env) :
    Assured {
      controller := Machine.run Controller.atom s.controller
        (s.callbacks (s.interface.step input) env)
      interface := s.interface.step input } := by
  have returned : s.interface.returned input = none := by
    unfold Esp32IdfInterface.returned
    cases event : input.event with
    | command c => exact absurd event (uncalled c)
    | _ => rfl
  have later : ∀ id config, Controller.Commanded s.controller.trace id config →
      Controller.Commanded (Machine.run Controller.atom s.controller
        (s.callbacks (s.interface.step input) env)).trace id config :=
    fun id config commanded => commanded.mono (Controller.run_suffix wired.exclusive _)
  have interface := (hi.interface.mono later).step fun id config secret commanded => by
    rw [returned] at commanded
    cases commanded
  refine ⟨interface, ?_⟩
  refine Machine.run_invariant_inputs (R := (· ∈ s.callbacks (s.interface.step input) env))
    (I := fun c : Controller => OrderedInterface.Vouched _ c.state_.link)
    (fun c a called observed => ?_) (hi.observed.mono later) fun _ => id
  obtain same | down | ⟨link, met, rfl, heard⟩ := Controller.atom_observes c a
  · rw [same]
    exact observed
  · exact .idle down
  · rw [heard]
    exact interface.ordered.told link (linkChanged_of_callback called)

theorem Assured.step (hi : s.Assured) (wired : Wired s options seed) (input : Input) :
    (s.step input).Assured := by
  cases input with
  | atom a inputs =>
    by_cases meets : s.Meets a inputs
    · simp only [Stack.step, if_pos meets]
      exact hi.atom wired meets
    · simp only [Stack.step, if_neg meets]
      exact hi
  | interface input env =>
    obtain ⟨event, idf⟩ := input
    cases event with
    | command c => exact hi
    | drain | pump | native =>
      refine hi.interface_step wired ?_ env
      simp

end Stack

/-- The link that the controller sees up was requested of it and commanded by
it: the SSID is the request's, and the mode is one that the request allows. -/
def Stack.Rightful (s : Stack) : Prop :=
  s.controller.state_.link.phase = .kAssociated ∨
    s.controller.state_.link.phase = .kAddressReady →
  ∃ config credentials profile automatic,
    .connect s.controller.state_.link.connectionId config credentials .kOk ∈ s.controller.trace ∧
    .requested config credentials profile automatic ∈ s.controller.trace ∧
    s.controller.state_.link.ssid.view = config.ssid.view ∧
    SecurityAllows config.security s.controller.state_.link.security = true

/-- **A link that is up is what was asked for**, in every run of the stack,
whatever calls, tasks, native events and answers of ESP-IDF come in which order. -/
theorem associated_as_requested (wpa3 : Bool) (selection : Esp32Station.SelectionOptions)
    (options : Controller.Options) (seed : UInt32) (inputs : List Stack.Input) :
    (Machine.run Stack.step (Stack.init wpa3 selection options seed) inputs).Rightful := by
  intro up
  obtain ⟨wired, assured⟩ : (fun s => Stack.Wired s options seed ∧ s.Assured) _ :=
    Machine.run_invariant_all (I := fun s => Stack.Wired s options seed ∧ s.Assured)
      (fun _ input hi => ⟨Stack.wired_step hi.1 input, hi.2.step hi.1 input⟩)
      ⟨Stack.wired_init wpa3 selection, Stack.assured_init wpa3 selection options seed⟩ inputs
  obtain ⟨config, ⟨credentials, commanded⟩, ssid, allowed⟩ := assured.observed.up up
  obtain ⟨profile, automatic, asked⟩ :=
    wired.intended.connects _ config credentials .kOk commanded
  exact ⟨config, credentials, profile, automatic, commanded, asked, ssid, allowed⟩

/-- A link that has got its address. -/
theorem associated_as_requested_connected : ∃ config credentials profile automatic,
    .requested config credentials profile automatic ∈
        (Machine.run Stack.step (Stack.init true {} {} 1) Stack.Connected).controller.trace ∧
      config.ssid.view = [65] := by
  have rightful := associated_as_requested true {} {} 1 Stack.Connected
  have ready : (Machine.run Stack.step (Stack.init true {} {} 1)
      Stack.Connected).controller.state_.link.phase = .kAddressReady := by decide +kernel
  have view : (Machine.run Stack.step (Stack.init true {} {} 1)
      Stack.Connected).controller.state_.link.ssid.view = [65] := by decide +kernel
  obtain ⟨config, credentials, profile, automatic, -, asked, ssid, -⟩ := rightful (.inr ready)
  exact ⟨config, credentials, profile, automatic, asked, ssid.symm.trans view⟩

end RooWifi
