import RooWifi.Esp32.Cache
import RooWifi.OrderedInterface.Credentials

/-! # `Esp32IdfInterface` (hal/esp32/idf_interface.h)

The adapter over its station: a native call of the adapter is one step of the
station, and what the station posts is queued by the adapter. The station's
copy of the credentials is followed through all steps of the two. -/
namespace RooWifi

namespace Esp32Station

/-- The modes of `Esp32Station::support`; `wpa3` says whether ESP-IDF is built
with WPA3-SAE. -/
def supportedModes (wpa3 : Bool) : List AuthMode :=
  [.kOpen, .kWep, .kWpaPersonal, .kWpa2Personal, .kWpaWpa2Personal] ++
    if wpa3 then [.kWpa3Personal, .kWpa2Wpa3Personal] else []

def support (wpa3 : Bool) : Support where
  authenticationModes :=
    (supportedModes wpa3).foldl
      (fun (modes : UInt32) mode => modes ||| ((1 : UInt32) <<< mode.raw.toUInt32)) 0
  hiddenNetworks := true
  staticIpv4 := true
  randomizedMac := true
  scanWhileConnected := true

/-! ## The secret -/

/-- Whether a selection scan that ends in the step finds an eligible candidate. -/
def finds (s : Esp32Station) (input : Input) : Bool :=
  match s.finished input with
  | some aps => (s.cache.remembered (input.idf.now 0) aps).any (expired (input.idf.now 1))
  | none => false

/-- The secret and what it waits for. -/
def waiting (s : Esp32Station) : Credentials × Bool × Bool :=
  (s.secret_, s.selecting_, s.prepared_)

section Secret

variable (s : Esp32Station) (idf : Idf)

theorem waiting_enable (enabled : Bool) : (s.enable idf enabled).2.1.waiting = s.waiting := by
  obtain ⟨mac, same⟩ := s.enable_state idf enabled
  rw [same]
  cases enabled <;> rfl

theorem waiting_scan (capacity : UInt16) : (s.scan idf capacity).2.1.waiting = s.waiting := by
  unfold scan
  dsimp only
  split
  · rfl
  · split <;> rfl

theorem waiting_disconnect :
    (s.disconnect idf).2.1.secret_ = {} ∨ (s.disconnect idf).2.1.waiting = s.waiting := by
  unfold disconnect
  dsimp only
  split
  · exact .inl rfl
  · split <;> exact .inr rfl

/-- A connect that is taken drops the secret, or selects for it or has selected. -/
theorem secret_connect {config : ConnectionConfig} (secret : Credentials)
    (admitted : s.admits config = true) :
    (s.connect idf config secret).2.1.secret_ = {} ∨
      (s.connect idf config secret).1 = .kOk ∧
        ((s.connect idf config secret).2.1.selecting_ = true ∨
          (s.connect idf config secret).2.1.prepared_ = true) := by
  obtain ⟨s', -, picked, returned⟩ | ⟨-, returned⟩ := s.connect_cases idf secret admitted
  · rw [returned]
    unfold selectCandidate at picked
    split at picked
    · cases picked
    · obtain rfl := Option.some.inj picked
      exact .inr ⟨rfl, .inr rfl⟩
  · rw [returned]
    unfold startSelection
    dsimp only
    split
    · exact .inl rfl
    · exact .inr ⟨rfl, .inl rfl⟩

/-- A continuation drops the secret once it gets as far as the configuration. -/
theorem secret_continueConnect (opens : s.opens idf = true) :
    (s.continueConnect idf).2.1.secret_ = {} ∨
      s.prepared_ = false ∧ (s.continueConnect idf).2.1.waiting = s.waiting := by
  unfold continueConnect
  split
  · rename_i unprepared
    exact .inr ⟨by simpa using unprepared, rfl⟩
  · obtain ⟨trace, started⟩ := { s with prepared_ := false }.startSelected_eq idf s.selected_
    have same : { s with prepared_ := false }.opens idf = true := opens
    dsimp only
    rw [started, if_pos same]
    left
    unfold startAttempt candidateFailed
    dsimp only
    split_ifs <;> rfl

/-- One that does not keeps it, and forgets the candidate. -/
theorem waiting_continueConnect (failed : s.opens idf = false) :
    (s.continueConnect idf).2.1.waiting = (s.secret_, s.selecting_, false) := by
  unfold continueConnect
  cases prepared : s.prepared_ with
  | false => simp [waiting, prepared]
  | true =>
    obtain ⟨trace, started⟩ := { s with prepared_ := false }.startSelected_eq idf s.selected_
    have same : ¬ { s with prepared_ := false }.opens idf = true := by
      change ¬ s.opens idf = true
      simp [failed]
    simp only [Bool.not_true, Bool.false_eq_true, if_false]
    rw [started, if_neg same]
    rfl

theorem waiting_candidateFailed (now : Nat) (failure : ConnectionFailure) :
    (s.candidateFailed now failure).waiting = s.waiting := by
  unfold candidateFailed
  split <;> rfl

/-- The end of a selection scan drops the secret unless it prepares a candidate. -/
theorem secret_selectionDone (aps : Option (List WifiApRecord)) (code : Int) :
    (s.selectionDone idf aps code).1.secret_ = {} ∨
      (s.selectionDone idf aps code).1.secret_ = s.secret_ ∧
        (s.selectionDone idf aps code).1.prepared_ = true ∧ s.scanCancelled_ = false ∧
        ∃ found, aps = some found ∧
          (s.cache.remembered (idf.now 0) found).any (expired (idf.now 1)) = true := by
  cases aps with
  | none => exact .inl rfl
  | some aps =>
    cases cancelled : s.scanCancelled_ with
    | true =>
      simp only [selectionDone, cancelled, if_true]
      exact .inl rfl
    | false =>
      obtain ⟨s', picked, returned⟩ | ⟨-, returned⟩ := s.selectionDone_cases idf aps code cancelled
      · rw [returned]
        unfold selectCandidate at picked
        split at picked
        · cases picked
        · rename_i candidate found
          obtain rfl := Option.some.inj picked
          refine .inr ⟨rfl, rfl, rfl, aps, rfl, ?_⟩
          exact List.any_eq_true.mpr ⟨candidate, List.mem_of_find?_eq_some found,
            List.find?_some found⟩
      · rw [returned]
        exact .inl rfl

/-- **An event drops the secret or leaves it and what it waits for as they are,
unless it prepares a candidate.** -/
theorem secret_event (e : IdfEvent) :
    (s.event idf e).1.secret_ = {} ∨ (s.event idf e).1.waiting = s.waiting ∨
      (s.event idf e).1.secret_ = s.secret_ ∧ (s.event idf e).1.prepared_ = true ∧
        s.finds { action := .event e, idf } = true := by
  unfold event
  split
  · exact .inr (.inl rfl)
  rename_i attached
  have attached : s.receiver_ = true := by simpa using attached
  cases e with
  | WIFI_EVENT_SCAN_DONE status =>
    dsimp only
    unfold scanDone
    split
    · exact .inr (.inl rfl)
    dsimp only
    split
    · rename_i selecting
      obtain dropped | ⟨kept, prepared, uncancelled, aps, found, eligible⟩ :=
        s.secret_selectionDone idf _ _
      · exact .inl dropped
      · refine .inr (.inr ⟨kept, prepared, ?_⟩)
        split at found
        · rename_i ok
          obtain rfl := Option.some.inj found
          have complete : status = 0 ∧ idf.scanGetApRecords = 0 := by simpa using ok
          have finished : s.finished { action := .event (.WIFI_EVENT_SCAN_DONE status), idf } =
              some (idf.aps.take (max (min idf.scanGetApNum.toNat 100) 1)) :=
            if_pos ⟨attached, selecting, by simp [uncancelled], complete⟩
          simp only [finds, finished]
          exact eligible
        · cases found
    · split <;> exact .inr (.inl rfl)
  | WIFI_EVENT_STA_CONNECTED info =>
    dsimp only
    unfold staConnected
    split <;> exact .inr (.inl rfl)
  | WIFI_EVENT_STA_DISCONNECTED info =>
    exact .inr (.inl (waiting_candidateFailed _ _ _))
  | IP_EVENT_STA_GOT_IP info =>
    dsimp only
    unfold gotIp
    split <;> exact .inr (.inl rfl)
  | _ => exact .inr (.inl rfl)

end Secret

/-! ## The receiver -/

section Receiver

variable (s : Esp32Station) (idf : Idf)

theorem attach_receiver : (s.attach idf).2.1.secret_ = s.secret_ ∧
    (s.attach idf).2.1.receiver_ = (s.receiver_ || decide ((s.attach idf).1 = .kOk)) := by
  unfold attach
  split_ifs <;> simp_all

theorem candidateFailed_receiver (now : Nat) (failure : ConnectionFailure) :
    (s.candidateFailed now failure).receiver_ = s.receiver_ := by
  unfold candidateFailed
  split <;> rfl

theorem selectCandidate_receiver {s s' : Esp32Station} {now : Nat}
    (picked : s.selectCandidate now = some s') : s'.receiver_ = s.receiver_ := by
  unfold selectCandidate at picked
  split at picked
  · cases picked
  · obtain rfl := Option.some.inj picked
    rfl

theorem connect_receiver (config : ConnectionConfig) (secret : Credentials) :
    (s.connect idf config secret).2.1.receiver_ = s.receiver_ := by
  cases admitted : s.admits config with
  | false =>
    obtain refused | refused := s.connect_refused idf secret admitted <;> rw [refused]
  | true =>
    obtain ⟨s', -, picked, returned⟩ | ⟨-, returned⟩ := s.connect_cases idf secret admitted
    · rw [returned]
      exact (selectCandidate_receiver picked).trans rfl
    · rw [returned]
      unfold startSelection
      dsimp only
      split <;> rfl

theorem continueConnect_receiver : (s.continueConnect idf).2.1.receiver_ = s.receiver_ := by
  unfold continueConnect
  split
  · rfl
  · obtain ⟨trace, started⟩ := { s with prepared_ := false }.startSelected_eq idf s.selected_
    dsimp only
    rw [started]
    split
    · unfold startAttempt candidateFailed
      dsimp only
      split_ifs <;> rfl
    · rfl

theorem selectionDone_receiver (aps : Option (List WifiApRecord)) (code : Int) :
    (s.selectionDone idf aps code).1.receiver_ = s.receiver_ := by
  unfold selectionDone
  dsimp only
  split
  · rfl
  split
  · rfl
  split
  · rename_i picked
    exact (selectCandidate_receiver picked).trans rfl
  · rfl

theorem event_receiver (e : IdfEvent) : (s.event idf e).1.receiver_ = s.receiver_ := by
  unfold event
  split
  · rfl
  cases e with
  | WIFI_EVENT_SCAN_DONE status =>
    dsimp only
    unfold scanDone
    split
    · rfl
    dsimp only
    split
    · exact s.selectionDone_receiver idf _ _
    · split <;> rfl
  | WIFI_EVENT_STA_CONNECTED info =>
    dsimp only
    unfold staConnected
    split <;> rfl
  | WIFI_EVENT_STA_DISCONNECTED info => exact candidateFailed_receiver _ _ _
  | IP_EVENT_STA_GOT_IP info =>
    dsimp only
    unfold gotIp
    split <;> rfl
  | _ => rfl

/-- **Only `attach` and `detach` change whether a receiver is set.** -/
theorem perform_receiver {input : Input} (unattached : input.action ≠ .attach)
    (kept : input.action ≠ .detach) : (s.perform input).2.1.receiver_ = s.receiver_ := by
  obtain ⟨action, idf⟩ := input
  cases action with
  | attach => exact absurd rfl unattached
  | detach => exact absurd rfl kept
  | enable enabled =>
    obtain ⟨mac, same⟩ := s.enable_state idf enabled
    have enabling : (s.enabling enabled).receiver_ = s.receiver_ := by
      cases enabled <;> rfl
    simp only [perform, same]
    exact enabling
  | scan capacity =>
    simp only [perform, scan]
    split_ifs <;> rfl
  | stopScan => rfl
  | connect config credentials => exact s.connect_receiver idf config credentials
  | continueConnect => exact s.continueConnect_receiver idf
  | disconnect =>
    simp only [perform, disconnect]
    split_ifs <;> rfl
  | event e => exact s.event_receiver idf e

end Receiver

end Esp32Station

/-! ## The adapter and its station -/

structure Esp32IdfInterface where
  /-- Whether ESP-IDF is built with WPA3-SAE. -/
  wpa3 : Bool
  station : Esp32Station := {}
  ordered : OrderedInterface := {}

namespace Esp32IdfInterface

/-- What the owner of the interface calls. -/
inductive Command where
  | begin
  | setEnabled (id : OperationId) (enabled : Bool)
  | startScan (id : OperationId) (maxResults : UInt16)
  | connect (id : OperationId) (config : ConnectionConfig) (credentials : Credentials)
  | disconnect (id : OperationId)
  | cancelScan
  | cancelConnect
  | shutdown
deriving DecidableEq

def Command.event : Command → OrderedInterface.Event
  | .begin => .begin
  | .setEnabled id enabled => .setEnabled id enabled
  | .startScan id _ => .startScan id
  | .connect id config credentials => .connect id config credentials
  | .disconnect id => .disconnect id
  | .cancelScan => .cancelScan
  | .cancelConnect => .cancelConnect
  | .shutdown => .shutdown

/-- The capacity a command passes on to the station. -/
def Command.maxResults : Command → UInt16
  | .startScan _ maxResults => maxResults
  | _ => 0

inductive Event where
  | command (c : Command)
  /-- The dispatch task starts. -/
  | drain
  /-- One iteration of its loop. -/
  | pump
  | native (e : IdfEvent)

structure Input where
  event : Event
  idf : Idf := {}

/-- The step of the station that serves a native call. -/
def action (maxResults : UInt16) : NativeStation.Call → Esp32Station.Action
  | .attach => .attach
  | .detach => .detach
  | .enable enabled => .enable enabled
  | .scan => .scan maxResults
  | .stopScan => .stopScan
  | .connect config credentials => .connect config credentials
  | .continueConnect => .continueConnect
  | .disconnect => .disconnect

variable (s : Esp32IdfInterface)

def support : Support := Esp32Station.support s.wpa3

/-- An input of the adapter whose native call, if it makes one, returns `status`. -/
def answered (event : OrderedInterface.Event) (status : Status) : OrderedInterface.Input where
  event := event
  native := {
    attach := status
    enable := status
    scan := status
    stopScan := status
    connect := status
    continueConnect := status
    disconnect := status
    support := s.support }

/-- What the station does for a step of the adapter, which makes at most one
native call. -/
def outcome (event : OrderedInterface.Event) (maxResults : UInt16) (idf : Idf) :
    Esp32Station.Outcome :=
  match s.ordered.calls (s.answered event .kOk) with
  | [] => (.kOk, s.station, [])
  | call :: _ => s.station.perform { action := action maxResults call, idf }

/-- A step of the adapter. What the station posts is queued. -/
def serve (event : OrderedInterface.Event) (maxResults : UInt16) (idf : Idf) :
    Esp32IdfInterface :=
  let (status, station, posts) := s.outcome event maxResults idf
  { s with
    station
    ordered := posts.foldl OrderedInterface.post (s.ordered.step (s.answered event status)) }

/-- What a command returns. -/
def answer (c : Command) (idf : Idf) : Option Status :=
  s.ordered.answer (s.answered c.event (s.outcome c.event c.maxResults idf).1)

def step (input : Input) : Esp32IdfInterface :=
  match input.event with
  | .command c => s.serve c.event c.maxResults input.idf
  | .drain => s.serve .drain 0 input.idf
  | .pump => s.serve .pump 0 input.idf
  | .native e =>
    let (station, posts) := s.station.event input.idf e
    { s with station, ordered := posts.foldl OrderedInterface.post s.ordered }

/-! ## Custody of the secret -/

/-- The step would leave a secret that nothing waits for. It takes the connect
of a prepared candidate out of the adapter and nothing drops the secret; or a
selection prepares a candidate for which no connect is outstanding. -/
def Strands (input : Input) : Prop :=
  s.station.secret_ ≠ {} ∧
    match input.event with
    | .pump => s.station.prepared_ = true ∧ s.station.selecting_ = false ∧
        s.ordered.retires (!s.station.admits s.ordered.config_) (!s.station.opens input.idf) = true
    | .native e => s.station.finds { action := .event e, idf := input.idf } = true ∧
        ¬ s.ordered.Pending
    | _ => False

/-- The station keeps a secret only while it selects an access point for it, or
has prepared one for an outstanding connect. -/
structure Custody : Prop where
  tidy : s.ordered.Tidy
  receiver : s.station.receiver_ = s.ordered.attached_
  stopped : s.ordered.attached_ = false → s.station.secret_ = {}
  held : s.station.secret_ ≠ {} →
    s.station.selecting_ = true ∨ (s.station.prepared_ = true ∧ s.ordered.Pending)

theorem holding_posts (posts : List NativeStation.Event) (o : OrderedInterface) :
    (posts.foldl OrderedInterface.post o).holding = o.holding := by
  induction posts generalizing o with
  | nil => rfl
  | cons post posts ih => exact (ih _).trans (OrderedInterface.holding_post o post)

variable {s}

/-- What is queued is no matter of custody. -/
theorem Custody.of_holding {s' : Esp32IdfInterface} {o : OrderedInterface}
    (same : s'.ordered.holding = o.holding) (tidy : o.Tidy)
    (receiver : s'.station.receiver_ = o.attached_)
    (stopped : o.attached_ = false → s'.station.secret_ = {})
    (held : s'.station.secret_ ≠ {} →
      s'.station.selecting_ = true ∨ (s'.station.prepared_ = true ∧ o.Pending)) : Custody s' := by
  have attached : s'.ordered.attached_ = o.attached_ := congrArg (·.2.1) same
  have station : s'.ordered.station_ = o.station_ := congrArg (·.2.2.1) same
  exact {
    tidy := tidy.of_holding same
    receiver := receiver.trans attached.symm
    stopped := by
      rw [attached]
      exact stopped
    held := by
      intro kept
      exact (held kept).imp_right (.imp_right (·.of_station station)) }

/-- The calls that leave the secret and what it waits for, or drop it. -/
def mild : NativeStation.Call → Bool
  | .enable _ | .scan | .stopScan | .disconnect => true
  | _ => false

theorem calls_mild (o : OrderedInterface) {input : OrderedInterface.Input}
    (unpumped : input.event ≠ .pump) (unbegun : input.event ≠ .begin)
    (running : input.event ≠ .shutdown) : ∀ call ∈ o.calls input, mild call = true := by
  obtain ⟨event, native⟩ := input
  intro call called
  have single {c : NativeStation.Call} (h : call ∈ [c]) (gentle : mild c = true) :
      mild call = true := by
    rw [List.mem_singleton.mp h]
    exact gentle
  unfold OrderedInterface.calls at called
  cases event with
  | pump => exact absurd rfl unpumped
  | begin => exact absurd rfl unbegun
  | shutdown => exact absurd rfl running
  | post event => cases called
  | drain => cases called
  | setEnabled id enabled =>
    simp only [OrderedInterface.setEnabledCalls] at called
    split_ifs at called <;> first | exact single called rfl | cases called
  | startScan id =>
    simp only [OrderedInterface.startScanCalls] at called
    split_ifs at called <;> first | exact single called rfl | cases called
  | connect id config credentials =>
    simp only [OrderedInterface.connectCalls] at called
    split_ifs at called <;> first | exact single called rfl | cases called
  | disconnect id =>
    simp only [OrderedInterface.disconnectCalls] at called
    split_ifs at called <;> first | exact single called rfl | cases called
  | cancelScan =>
    simp only [OrderedInterface.cancelScanCalls] at called
    split_ifs at called <;> first | exact single called rfl | cases called
  | cancelConnect =>
    simp only [OrderedInterface.cancelConnectCalls] at called
    split_ifs at called <;> first | exact single called rfl | cases called

theorem perform_mild (station : Esp32Station) {call : NativeStation.Call}
    (gentle : mild call = true) (maxResults : UInt16) (idf : Idf) :
    let station' := (station.perform { action := action maxResults call, idf }).2.1
    station'.receiver_ = station.receiver_ ∧
      (station'.secret_ = {} ∨ station'.waiting = station.waiting) := by
  intro station'
  refine ⟨station.perform_receiver ?_ ?_, ?_⟩
  · cases call <;> simp_all [action, mild]
  · cases call <;> simp_all [action, mild]
  cases call with
  | enable enabled => exact .inr (station.waiting_enable idf enabled)
  | scan => exact .inr (station.waiting_scan idf maxResults)
  | stopScan => exact .inr rfl
  | disconnect => exact station.waiting_disconnect idf
  | attach | detach | connect | continueConnect => cases gentle

theorem Custody.command (hi : Custody s) {event : OrderedInterface.Event}
    (unpumped : event ≠ .pump) (unbegun : event ≠ .begin) (running : event ≠ .shutdown)
    (maxResults : UInt16) (idf : Idf) : Custody (s.serve event maxResults idf) := by
  have quiet : (s.outcome event maxResults idf).2.1.receiver_ = s.station.receiver_ ∧
      ((s.outcome event maxResults idf).2.1.secret_ = {} ∨
        (s.outcome event maxResults idf).2.1.waiting = s.station.waiting) := by
    have gentle : ∀ call ∈ s.ordered.calls (s.answered event .kOk), mild call = true :=
      calls_mild s.ordered unpumped unbegun running
    unfold outcome
    split
    · exact ⟨rfl, .inr rfl⟩
    · rename_i call calls called
      refine perform_mild s.station (gentle call ?_) maxResults idf
      rw [called]
      exact List.mem_cons_self
  obtain ⟨receiver, secret⟩ := quiet
  have attached (status : Status) : (s.ordered.step (s.answered event status)).attached_ =
      s.ordered.attached_ := s.ordered.step_attached unbegun running
  refine .of_holding (holding_posts _ _) (hi.tidy.step _) ?_ ?_ ?_
  · rw [attached]
    exact receiver.trans hi.receiver
  · rw [attached]
    intro detached
    obtain dropped | same := secret
    · exact dropped
    · exact (congrArg (·.1) same).trans (hi.stopped detached)
  · intro kept
    obtain dropped | same := secret
    · exact absurd dropped kept
    · have same' : (s.outcome event maxResults idf).2.1.secret_ = s.station.secret_ ∧
        (s.outcome event maxResults idf).2.1.selecting_ = s.station.selecting_ ∧
        (s.outcome event maxResults idf).2.1.prepared_ = s.station.prepared_ := by
        simpa [Esp32Station.waiting] using same
      obtain ⟨secret, selecting, prepared⟩ := same'
      refine (hi.held (fun none => kept (secret.trans none))).imp selecting.trans ?_
      rintro ⟨ready, pending⟩
      exact ⟨prepared.trans ready,
        pending.of_station (OrderedInterface.station_command pending unpumped running)⟩

/-- A step that calls nothing and touches nothing that custody looks at. -/
theorem Custody.uncalled (hi : Custody s) {event : OrderedInterface.Event}
    (none : s.ordered.calls (s.answered event .kOk) = [])
    (same : (s.ordered.step (s.answered event .kOk)).holding = s.ordered.holding)
    (maxResults : UInt16) (idf : Idf) : Custody (s.serve event maxResults idf) := by
  have silent : s.outcome event maxResults idf = (.kOk, s.station, []) := by
    rw [outcome, none]
  refine .of_holding (o := s.ordered) ?_ hi.tidy ?_ ?_ ?_
  all_goals simp only [serve, silent, List.foldl_nil]
  · exact same
  · exact hi.receiver
  · exact hi.stopped
  · exact hi.held

theorem Custody.drain (hi : Custody s) (idf : Idf) : Custody (s.serve .drain 0 idf) := by
  refine hi.uncalled rfl ?_ 0 idf
  simp only [OrderedInterface.step, answered, OrderedInterface.drain]
  split_ifs <;> rfl

theorem Custody.begin (hi : Custody s) (idf : Idf) : Custody (s.serve .begin 0 idf) := by
  by_cases idle : s.ordered.draining = true ∨ s.ordered.attached_ = true
  · refine hi.uncalled ?_ ?_ 0 idf
    · obtain draining | attached := idle <;>
        simp_all [OrderedInterface.calls, answered, OrderedInterface.beginCalls]
    · obtain draining | attached := idle <;>
        simp_all [OrderedInterface.step, answered, OrderedInterface.begin]
  · obtain ⟨still, detached⟩ := not_or.mp idle
    have still : s.ordered.draining = false := by simpa using still
    have detached : s.ordered.attached_ = false := by simpa using detached
    have called : s.outcome .begin 0 idf = s.station.attach idf := by
      have attach : s.ordered.calls (s.answered .begin .kOk) = [.attach] := by
        simp [OrderedInterface.calls, answered, OrderedInterface.beginCalls, still, detached]
      rw [outcome, attach]
      rfl
    have secret := (s.station.attach_receiver idf).1.trans (hi.stopped detached)
    have attached : (s.ordered.step (s.answered .begin (s.station.attach idf).1)).attached_ =
        decide ((s.station.attach idf).1 = .kOk) := by
      simp only [OrderedInterface.step, answered, still, OrderedInterface.begin, detached]
      by_cases ok : (s.station.attach idf).1 = .kOk <;> simp [ok]
    have receiver := (s.station.attach_receiver idf).2
    rw [hi.receiver, detached, Bool.false_or] at receiver
    refine .of_holding (o := s.ordered.step (s.answered .begin (s.station.attach idf).1)) ?_
      (hi.tidy.step _) ?_ ?_ ?_
    all_goals simp only [serve, called]
    · exact holding_posts _ _
    · exact receiver.trans attached.symm
    · exact fun _ => secret
    · exact fun kept => absurd secret kept

/-- **The station drops its secret when the adapter is shut down.** -/
theorem Custody.shutdown (hi : Custody s) (idf : Idf) : Custody (s.serve .shutdown 0 idf) := by
  cases draining : s.ordered.draining with
  | true =>
    refine hi.uncalled ?_ ?_ 0 idf
    · simp [OrderedInterface.calls, answered, draining]
    · simp [OrderedInterface.step, answered, draining]
  | false =>
    have dropped : (s.outcome .shutdown 0 idf).2.1.secret_ = {} ∧
        (s.outcome .shutdown 0 idf).2.1.receiver_ = false := by
      unfold outcome
      cases attached : s.ordered.attached_ with
      | true =>
        have detach : s.ordered.calls (s.answered .shutdown .kOk) = [.detach] := by
          simp [OrderedInterface.calls, answered, OrderedInterface.shutdownCalls, draining, attached]
        have receiver := hi.receiver.trans attached
        rw [detach]
        simp [action, Esp32Station.perform, Esp32Station.detach, receiver]
      | false =>
        have none : s.ordered.calls (s.answered .shutdown .kOk) = [] := by
          simp [OrderedInterface.calls, answered, OrderedInterface.shutdownCalls, draining, attached]
        rw [none]
        exact ⟨hi.stopped attached, hi.receiver.trans attached⟩
    have detached (status : Status) :
        (s.ordered.step (s.answered .shutdown status)).attached_ = false := by
      simp [OrderedInterface.step, answered, draining, OrderedInterface.shutdown]
    refine .of_holding (holding_posts _ _) (hi.tidy.step _) ?_ ?_ ?_
    · exact dropped.2.trans (detached _).symm
    · exact fun _ => dropped.1
    · exact fun kept => absurd dropped.1 kept

/-- What an iteration of the drain does to the station and its connect. -/
structure Pumped (s : Esp32IdfInterface) (idf : Idf) : Prop where
  receiver : (s.outcome .pump 0 idf).2.1.receiver_ = s.station.receiver_
  stopped : s.ordered.attached_ = false → (s.outcome .pump 0 idf).2.1.secret_ = {}
  held : (s.outcome .pump 0 idf).2.1.secret_ ≠ {} →
    (s.outcome .pump 0 idf).2.1.selecting_ = true ∨
      ((s.outcome .pump 0 idf).2.1.prepared_ = true ∧
        (s.ordered.step (s.answered .pump (s.outcome .pump 0 idf).1)).Pending)

section Pump

variable (hi : Custody s) {idf : Idf} (careful : ¬ s.Strands { event := .pump, idf })
include hi careful

/-- A kept secret is waited for by a connect that the iteration does not retire. -/
theorem Custody.awaited (kept : s.station.secret_ ≠ {})
    (unselecting : s.station.selecting_ ≠ true) :
    s.station.prepared_ = true ∧ s.ordered.Pending ∧
      s.ordered.retires (!s.station.admits s.ordered.config_) (!s.station.opens idf) = false := by
  obtain selecting | ⟨prepared, pending⟩ := hi.held kept
  · exact absurd selecting unselecting
  · refine ⟨prepared, pending, ?_⟩
    by_contra retired
    exact careful ⟨kept, prepared, by simpa using unselecting, by simpa using retired⟩

/-- An iteration that leaves the station alone. -/
theorem Custody.pump_silent (silent : s.ordered.pumpCalls = []) : Pumped s idf := by
  have quiet : s.outcome .pump 0 idf = (.kOk, s.station, []) := by
    have none : s.ordered.calls (s.answered .pump .kOk) = [] := silent
    rw [outcome, none]
  constructor
  all_goals rw [quiet]
  · exact hi.stopped
  · intro kept
    by_cases selecting : s.station.selecting_ = true
    · exact .inl selecting
    · obtain ⟨prepared, pending, lasting⟩ := hi.awaited careful kept selecting
      exact .inr ⟨prepared, pending.of_station
        (OrderedInterface.station_pump pending silent lasting)⟩

/-- One that hands a due connect to the station. -/
theorem Custody.pump_connect (draining : s.ordered.draining = true)
    (fits : s.ordered.overflow_ = false) (empty : s.ordered.queue_ = []) (due : s.ordered.Due)
    (called : s.ordered.pumpCalls = [.connect s.ordered.config_ s.ordered.credentials_]) :
    Pumped s idf := by
  have handed : s.outcome .pump 0 idf =
      s.station.connect idf s.ordered.config_ s.ordered.credentials_ := by
    have connect : s.ordered.calls (s.answered .pump .kOk) =
        [.connect s.ordered.config_ s.ordered.credentials_] := called
    rw [outcome, connect]
    rfl
  constructor
  all_goals rw [handed]
  · exact s.station.connect_receiver idf _ _
  · intro detached
    exact absurd (hi.tidy.stopped detached) due.1.1
  intro kept
  cases admitted : s.station.admits s.ordered.config_ with
  | false =>
    have same : (s.station.connect idf s.ordered.config_ s.ordered.credentials_).2.1 =
        s.station := by
      obtain refused | refused :=
        s.station.connect_refused idf s.ordered.credentials_ admitted <;> rw [refused]
    rw [same] at kept ⊢
    by_cases selecting : s.station.selecting_ = true
    · exact .inl selecting
    · obtain ⟨-, -, lasting⟩ := hi.awaited careful kept selecting
      have retired : s.ordered.retires true (!s.station.opens idf) = true :=
        OrderedInterface.retires_refused due draining fits empty
      rw [admitted, Bool.not_false, retired] at lasting
      cases lasting
  | true =>
    obtain dropped | ⟨taken, waits⟩ := s.station.secret_connect idf s.ordered.credentials_ admitted
    · exact absurd dropped kept
    · refine waits.imp_right (⟨·, ?_⟩)
      have pending : s.ordered.Pending := ⟨due.1.1, due.1.2.1⟩
      exact pending.of_station
        (OrderedInterface.station_pump_connect due draining fits empty taken)

/-- One that continues a connect with the prepared candidate. -/
theorem Custody.pump_continue (pending : s.ordered.Pending)
    (called : s.ordered.pumpCalls = [.continueConnect])
    (retired : s.ordered.retires (!s.station.admits s.ordered.config_) true = true) :
    Pumped s idf := by
  have handed : s.outcome .pump 0 idf = s.station.continueConnect idf := by
    have continued : s.ordered.calls (s.answered .pump .kOk) = [.continueConnect] := called
    rw [outcome, continued]
    rfl
  constructor
  all_goals rw [handed]
  · exact s.station.continueConnect_receiver idf
  · intro detached
    exact absurd (hi.tidy.stopped detached) pending.1
  intro kept
  cases opens : s.station.opens idf with
  | true =>
    obtain dropped | ⟨unprepared, same⟩ := s.station.secret_continueConnect idf opens
    · exact absurd dropped kept
    · have secret := congrArg (·.1) same
      have selecting := congrArg (·.2.1) same
      obtain waits | ⟨prepared, -⟩ := hi.held (fun none => kept (secret.trans none))
      · exact .inl (selecting.trans waits)
      · exact absurd (unprepared.symm.trans prepared) Bool.false_ne_true
  | false =>
    have same := s.station.waiting_continueConnect idf opens
    have secret := congrArg (·.1) same
    have selecting := congrArg (·.2.1) same
    by_cases waits : s.station.selecting_ = true
    · exact .inl (selecting.trans waits)
    · obtain ⟨-, -, lasting⟩ := hi.awaited careful (fun none => kept (secret.trans none)) waits
      rw [opens, Bool.not_false, retired] at lasting
      cases lasting

/-- **The drain ends no connect that the station still has a secret for.** -/
theorem Custody.pump : Custody (s.serve .pump 0 idf) := by
  have pumped : Pumped s idf := by
    obtain silent | ⟨draining, fits, ⟨empty, due, called⟩ |
      ⟨q, queue, waiting, kind, sound, pending, unawaited, uncancelled, called⟩⟩ :=
      s.ordered.pumpCalls_cases
    · exact hi.pump_silent careful silent
    · exact hi.pump_connect careful draining fits empty due called
    · refine hi.pump_continue careful pending called ?_
      simp [OrderedInterface.retires, OrderedInterface.ends, draining, fits, waiting, kind, sound,
        pending, unawaited, uncancelled]
  have attached (status : Status) :
      (s.ordered.step (s.answered .pump status)).attached_ = s.ordered.attached_ :=
    (OrderedInterface.winds_pump _ _).attached
  refine .of_holding (holding_posts _ _) (hi.tidy.step _) ?_ ?_ pumped.held
  · rw [attached]
    exact pumped.receiver.trans hi.receiver
  · rw [attached]
    exact pumped.stopped

end Pump

/-- **A native event prepares a candidate only for an outstanding connect.** -/
theorem Custody.native (hi : Custody s) {e : IdfEvent} {idf : Idf}
    (careful : ¬ s.Strands { event := .native e, idf }) :
    Custody (s.step { event := .native e, idf }) := by
  refine .of_holding (o := s.ordered) (holding_posts _ _) hi.tidy ?_ ?_ ?_
  · exact (s.station.event_receiver idf e).trans hi.receiver
  · intro detached
    have unset : s.station.receiver_ = false := hi.receiver.trans detached
    have ignored : s.station.event idf e = (s.station, []) := by
      simp [Esp32Station.event, unset]
    change (s.station.event idf e).1.secret_ = {}
    rw [ignored]
    exact hi.stopped detached
  · intro kept
    change (s.station.event idf e).1.secret_ ≠ {} at kept
    change (s.station.event idf e).1.selecting_ = true ∨
      (s.station.event idf e).1.prepared_ = true ∧ s.ordered.Pending
    obtain dropped | same | ⟨secret, prepared, prepares⟩ := s.station.secret_event idf e
    · exact absurd dropped kept
    · have secret := congrArg (·.1) same
      have selecting := congrArg (·.2.1) same
      have prepared := congrArg (·.2.2) same
      exact (hi.held (fun none => kept (secret.trans none))).imp selecting.trans
        (.imp_left prepared.trans)
    · refine .inr ⟨prepared, ?_⟩
      by_contra unconnected
      exact careful ⟨fun none => kept (secret.trans none), prepares, unconnected⟩

instance : DecidablePred s.Strands := fun input =>
  match input with
  | { event := .pump, .. } => inferInstanceAs (Decidable (_ ∧ _ ∧ _ ∧ _))
  | { event := .native _, .. } => inferInstanceAs (Decidable (_ ∧ _ ∧ _))
  | { event := .command _, .. } => inferInstanceAs (Decidable (_ ∧ False))
  | { event := .drain, .. } => inferInstanceAs (Decidable (_ ∧ False))

theorem custody_step (hi : Custody s) {input : Input} (careful : ¬ s.Strands input) :
    Custody (s.step input) := by
  obtain ⟨event, idf⟩ := input
  cases event with
  | drain => exact hi.drain idf
  | pump => exact hi.pump careful
  | native e => exact hi.native careful
  | command c =>
    cases c with
    | begin => exact hi.begin idf
    | shutdown => exact hi.shutdown idf
    | setEnabled | startScan | connect | disconnect | cancelScan | cancelConnect =>
      refine hi.command ?_ ?_ ?_ _ idf <;> simp [Command.event]

/-! ## What is returned -/

/-- The command a step serves, with what it returns: none is called while the
dispatch task runs. -/
def returned (s : Esp32IdfInterface) (input : Input) : Option (Command × Status) :=
  match input.event with
  | .command c => (s.answer c input.idf).map (c, ·)
  | _ => none

/-- The commands of a run, each with what it returned. -/
def returns (s : Esp32IdfInterface) (inputs : List Input) : List (Command × Status) :=
  (Machine.outputs step returned s inputs).filterMap id

/-- Whether the station is attached after a command. -/
def attaches (attached : Bool) : Command × Status → Bool
  | (.begin, status) => attached || decide (status = .kOk)
  | (.shutdown, _) => false
  | _ => attached

theorem serve_attached (event : OrderedInterface.Event) (maxResults : UInt16) (idf : Idf) :
    (s.serve event maxResults idf).ordered.attached_ =
      (s.ordered.step (s.answered event (s.outcome event maxResults idf).1)).attached_ :=
  congrArg (·.2.1) (holding_posts _ _)

/-- **The commands tell whether the station is attached.** -/
theorem step_attached (s : Esp32IdfInterface) (input : Input) :
    (s.step input).ordered.attached_ =
      (s.returned input).toList.foldl attaches s.ordered.attached_ := by
  obtain ⟨event, idf⟩ := input
  have served {c : Command} (unbegun : c.event ≠ .begin) (running : c.event ≠ .shutdown) :
      (s.step { event := .command c, idf }).ordered.attached_ =
        (s.returned { event := .command c, idf }).toList.foldl attaches s.ordered.attached_ := by
    have kept (status : Status) : attaches s.ordered.attached_ (c, status) = s.ordered.attached_ := by
      cases c with
      | begin => exact absurd rfl unbegun
      | shutdown => exact absurd rfl running
      | _ => rfl
    refine (serve_attached _ _ _).trans ((s.ordered.step_attached unbegun running).trans ?_)
    simp only [returned]
    cases s.answer c idf <;> simp [kept]
  cases event with
  | drain =>
    exact (serve_attached _ _ _).trans (s.ordered.step_attached (by simp [answered])
      (by simp [answered]))
  | pump =>
    exact (serve_attached _ _ _).trans (s.ordered.step_attached (by simp [answered])
      (by simp [answered]))
  | native e => exact congrArg (·.2.1) (holding_posts _ _)
  | command c =>
    cases c with
    | begin =>
      refine (serve_attached _ _ _).trans ?_
      cases draining : s.ordered.draining with
      | true => simp [returned, answer, answered, OrderedInterface.answer, OrderedInterface.step,
          Command.event, draining]
      | false =>
        simp only [returned, answer, OrderedInterface.answer, OrderedInterface.step, answered,
          Command.event, draining, Bool.false_eq_true, if_false]
        exact s.ordered.begin_attached _
    | shutdown =>
      refine (serve_attached _ _ _).trans ?_
      cases draining : s.ordered.draining <;>
        simp [returned, answer, answered, OrderedInterface.answer, OrderedInterface.step,
          Command.event, OrderedInterface.shutdown, attaches, draining]
    | setEnabled | startScan | connect | disconnect | cancelScan | cancelConnect =>
      exact served (by simp [Command.event]) (by simp [Command.event])

theorem run_attached (s : Esp32IdfInterface) (inputs : List Input) :
    (Machine.run step s inputs).ordered.attached_ =
      (s.returns inputs).foldl attaches s.ordered.attached_ := by
  induction inputs generalizing s with
  | nil => rfl
  | cons input inputs ih =>
    have split : s.returns (input :: inputs) =
        (s.returned input).toList ++ (s.step input).returns inputs := by
      unfold returns
      cases returned : s.returned input <;> simp [Machine.outputs, returned]
    rw [Machine.run_cons, ih, step_attached, split, List.foldl_append]

end Esp32IdfInterface

end RooWifi
