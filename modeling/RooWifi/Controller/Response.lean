import RooWifi.Controller.Deadlines
import RooWifi.Lib.Timeout

/-! # Bounded response

Here the clock is real: a call takes time, and reads the clock while it runs.
The scheduler is late by at most `δ`. Then the timer is never overdue by more,
and every native operation is over, or has stopped the controller, within what
its timeouts grant and a few times `δ`. -/
namespace RooWifi.Controller

open Timeout (Operation)

variable {c d : Controller} {s f : Nat} {env : Env}

/-! ## The operations and their deadlines -/

/-- What a cancelled operation is granted. -/
def grace (c : Controller) : Nat := Millis c.options_.transitionTimeoutMs

def station (c : Controller) : Option Operation :=
  if c.stationId_ = 0 then none
  else some {
    id := c.stationId_
    limit := Millis (if c.transition_ = .kConnect then c.options_.connectTimeoutMs
      else c.options_.transitionTimeoutMs)
    cancelled := c.cancellingConnect_
    deadline := c.stationDeadline_ }

def scanning (c : Controller) : Option Operation :=
  if c.scanId_ = 0 then none
  else some {
    id := c.scanId_
    limit := Millis c.options_.scanTimeoutMs
    cancelled := decide (c.state_.scan = .kCancelling)
    deadline := c.scanDeadline_ }

theorem station_idle (h : c.stationId_ = 0) : c.station = none := if_pos h

theorem scanning_idle (h : c.scanId_ = 0) : c.scanning = none := if_pos h

theorem mem_station {p : Operation} (h : p ∈ c.station) :
    c.stationId_ ≠ 0 ∧ p.deadline = c.stationDeadline_ := by
  unfold station at h
  split at h
  · cases h
  · rename_i busy
    obtain rfl := Option.some.inj h
    exact ⟨busy, rfl⟩

theorem mem_scanning {p : Operation} (h : p ∈ c.scanning) :
    c.scanId_ ≠ 0 ∧ p.deadline = c.scanDeadline_ := by
  unfold scanning at h
  split at h
  · cases h
  · rename_i busy
    obtain rfl := Option.some.inj h
    exact ⟨busy, rfl⟩

theorem no_scan {grace : Nat} (h : c.scanId_ = 0) (h' : d.scanId_ = 0) :
    Timeout.Step grace s f c.scanning d.scanning := by
  rw [scanning_idle h, scanning_idle h']
  exact .kept _

theorem grace_of_options (h : d.options_ = c.options_) : d.grace = c.grace :=
  congrArg (fun options : Options => Millis options.transitionTimeoutMs) h

theorem station_of_part (h : d.stationPart = c.stationPart) : d.station = c.station := by
  simp only [stationPart, Prod.mk.injEq] at h
  obtain ⟨options, id, deadline, transition, cancelling⟩ := h
  simp only [station, options, id, deadline, transition, cancelling]

theorem scanning_of_part (h : d.scanPart = c.scanPart) : d.scanning = c.scanning := by
  simp only [scanPart, Prod.mk.injEq] at h
  obtain ⟨options, id, deadline, scan⟩ := h
  simp only [scanning, options, id, deadline, scan]

/-- No deadline that counts, nor the timer itself, lies before `b`. -/
structure Ahead (b : Nat) (c : Controller) : Prop where
  timer : (b : Uptime) ≤ c.timer_
  stable : (b : Uptime) ≤ c.stableDeadline_
  address : (b : Uptime) ≤ c.addressDeadline_
  station : c.stationId_ ≠ 0 → (b : Uptime) ≤ c.stationDeadline_
  scan : c.scanId_ ≠ 0 → (b : Uptime) ≤ c.scanDeadline_

/-- The clock is read between `s` and `f`; no call reads it more than five times. -/
def Reads (s f : Nat) (env : Env) : Prop := ∀ n < 5, s ≤ env.now n ∧ env.now n ≤ f

instance (s f : Nat) (env : Env) : Decidable (Reads s f env) :=
  inferInstanceAs (Decidable (∀ n < 5, _))

/-- What was set to a reading and more lies ahead. -/
theorem Reads.le (reads : Reads s f env) {n : Nat} (h : n < 5) {b : Nat} (hb : b ≤ s)
    (limit : Nat) : (b : Uptime) ≤ ((env.now n + limit : Nat) : Uptime) := by
  have after := (reads n h).1
  have ahead : b ≤ env.now n + limit := by omega
  exact WithTop.coe_le_coe.mpr ahead

theorem le_earlier {p : Prop} [Decidable p] {b deadline timer : Uptime} (hd : p → b ≤ deadline)
    (ht : b ≤ timer) : b ≤ if p ∧ deadline < timer then deadline else timer := by
  split
  · rename_i h
    exact hd h.1
  · exact ht

/-! ## What sets no deadline -/

/-- From `c` to `d` no operation is touched, and no deadline is set. -/
structure Untouched (c d : Controller) : Prop where
  station : d.stationPart = c.stationPart
  scan : d.scanPart = c.scanPart
  ahead : ∀ b, Ahead b c → Ahead b d

namespace Untouched

theorem refl (c : Controller) : Untouched c c := ⟨rfl, rfl, fun _ => id⟩

theorem options (h : Untouched c d) : d.options_ = c.options_ := congrArg (·.1) h.station

theorem trans {e : Controller} (h : Untouched c d) (h' : Untouched d e) : Untouched c e where
  station := h'.station.trans h.station
  scan := h'.scan.trans h.scan
  ahead b hb := h'.ahead b (h.ahead b hb)

theorem changed (change : Change) : Untouched c (c.changed change) := by
  rw [changed_eq]
  exact ⟨rfl, rfl, fun _ h => { h with }⟩

theorem record (a : Action) : Untouched c (c.record a) := ⟨rfl, rfl, fun _ h => { h with }⟩

theorem newIntent : Untouched c c.newIntent := by
  rw [newIntent_eq]
  exact ⟨rfl, rfl, fun _ h => { h with stable := le_top, address := le_top }⟩

theorem connectionFailed (now : Nat) (status : Status) (failure : ConnectionFailure)
    (code : Int) (hasCode : Bool) :
    Untouched c (c.connectionFailed now status failure code hasCode) := by
  obtain ⟨_, _, _, _, h, -⟩ := connectionFailed_cases now status failure code hasCode c
  rw [h]
  exact ⟨rfl, rfl, fun _ h => { h with stable := le_top, address := le_top }⟩

/-- The timer is armed with one of the deadlines. -/
theorem scheduleTimeouts : Untouched c c.scheduleTimeouts where
  station := rfl
  scan := rfl
  ahead _ h := { h with
    timer := le_earlier h.scan (le_earlier h.station (le_min h.stable h.address)) }

theorem requestConnection (env : Env) (config : ConnectionConfig) (credentials : Credentials)
    (profile : Ssid) (automatic : Bool) :
    Untouched c (c.requestConnection env config credentials profile automatic).2 := by
  unfold Controller.requestConnection
  split
  · exact refl c
  split
  · exact refl c
  split
  · exact refl c
  split
  · exact refl c
  dsimp only
  split
  · exact ⟨rfl, rfl, fun _ h => { h with }⟩
  · have aimed : Untouched c { c with
        config_ := config
        credentials_ := credentials
        state_.desired := .kConnected
        state_.desiredProfile := profile
        autoConnect_ := automatic
        restoreProfile_ := false } := ⟨rfl, rfl, fun _ h => { h with }⟩
    exact (aimed.trans newIntent).trans (record _)

theorem connectSaved (env : Env) (nth : Nat) (ssid : Ssid) :
    Untouched c (c.connectSaved env nth ssid).2 := by
  obtain ⟨-, h⟩ | ⟨-, config, credentials, automatic, h⟩ := connectSaved_cases (c := c) env nth ssid
  · rw [h]
    exact refl c
  · rw [h]
    exact requestConnection env config credentials ssid automatic

theorem retry (env : Env) : Untouched c (c.retry env) := by
  unfold Controller.retry
  extract_lets c₁
  split
  · exact ⟨rfl, rfl, fun _ h => { h with }⟩
  dsimp only
  split
  · split <;>
    · rw [changed_eq]
      exact ⟨rfl, rfl, fun _ h => { h with }⟩
  · rw [changed_eq]
    exact ⟨rfl, rfl, fun _ h => { h with }⟩

theorem restoreProfile (env : Env) : Untouched c (c.restoreProfile env) := by
  unfold Controller.restoreProfile
  extract_lets c'
  have dropped : Untouched c c' := ⟨rfl, rfl, fun _ h => { h with }⟩
  split
  rename_i status ssid _
  split
  · exact dropped
  have restored : Untouched c (c'.restoreLast env status ssid).2 := by
    obtain h | ⟨-, config, credentials, automatic, h⟩ := restoreLast_cases (c := c') env status ssid
    · rw [h]
      exact dropped
    · rw [h]
      exact dropped.trans (requestConnection env config credentials ssid automatic)
  dsimp only
  split
  · rw [changed_eq]
    exact restored.trans ⟨rfl, rfl, fun _ h => { h with }⟩
  · exact restored

end Untouched

/-! ## What a call does to the operations -/

/-- From `c` to `d`, in a call from `s` to `f`. -/
structure Advances (s f : Nat) (c d : Controller) : Prop where
  options : d.options_ = c.options_
  station : Timeout.Step c.grace s f c.station d.station
  scanning : Timeout.Step c.grace s f c.scanning d.scanning
  ahead : ∀ b ≤ s, Ahead b c → Ahead b d

theorem Advances.grace (h : Advances s f c d) : d.grace = c.grace := grace_of_options h.options

theorem Untouched.advances (h : Untouched c d) : Advances s f c d where
  options := h.options
  station := station_of_part h.station ▸ .kept _
  scanning := scanning_of_part h.scan ▸ .kept _
  ahead b _ := h.ahead b

theorem Untouched.trans_advances {e : Controller} (h : Untouched c d) (h' : Advances s f d e) :
    Advances s f c e where
  options := h'.options.trans h.options
  station := by
    rw [← grace_of_options h.options, ← station_of_part h.station]
    exact h'.station
  scanning := by
    rw [← grace_of_options h.options, ← scanning_of_part h.scan]
    exact h'.scanning
  ahead b hb hi := h'.ahead b hb (h.ahead b hi)

/-- What is done to the station first, and then to the scan. -/
theorem Advances.trans {e : Controller} (h : Advances s f c d) (still : d.scanning = c.scanning)
    (h' : Advances s f d e) (kept : e.station = d.station ∨ e.station = none) :
    Advances s f c e where
  options := h'.options.trans h.options
  station := by
    obtain kept | kept := kept
    · rw [kept]
      exact h.station
    · rw [kept]
      exact .ended _
  scanning := by
    rw [← h.grace, ← still]
    exact h'.scanning
  ahead b hb hi := h'.ahead b hb (h.ahead b hb hi)

/-- What leaves the operations alone comes first. -/
theorem Advances.next {e : Controller} (h : Advances s f c d) (station : d.station = c.station)
    (scanning : d.scanning = c.scanning) (h' : Advances s f d e) : Advances s f c e where
  options := h'.options.trans h.options
  station := by
    rw [← h.grace, ← station]
    exact h'.station
  scanning := by
    rw [← h.grace, ← scanning]
    exact h'.scanning
  ahead b hb hi := h'.ahead b hb (h.ahead b hb hi)

/-- Whatever follows may end the operations. -/
theorem Advances.after {e : Controller} (h : Advances s f c d) (options : e.options_ = d.options_)
    (station : e.station = d.station ∨ e.station = none)
    (scanning : e.scanning = d.scanning ∨ e.scanning = none)
    (ahead : ∀ b, Ahead b d → Ahead b e) : Advances s f c e where
  options := options.trans h.options
  station := by
    obtain same | ended := station
    · rw [same]
      exact h.station
    · rw [ended]
      exact .ended _
  scanning := by
    obtain same | ended := scanning
    · rw [same]
      exact h.scanning
    · rw [ended]
      exact .ended _
  ahead b hb hi := ahead b (h.ahead b hb hi)

theorem Advances.untouched {e : Controller} (h : Advances s f c d) (h' : Untouched d e) :
    Advances s f c e :=
  h.after h'.options (.inl (station_of_part h'.station))
    (.inl (scanning_of_part h'.scan)) h'.ahead

/-- A controller that stops has nothing outstanding. -/
theorem Advances.fault (h : Advances s f c d) (status : Status) :
    Advances s f c (d.fault status) := by
  rw [fault_eq]
  exact h.after rfl (.inr rfl) (.inr rfl) fun _ _ =>
    ⟨le_top, le_top, le_top, fun h => absurd rfl h, fun h => absurd rfl h⟩

theorem fault_station (status : Status) : (c.fault status).station = none := by
  rw [fault_eq]
  rfl

/-- A scan that is cancelled before it started was never an operation. -/
theorem Advances.cancelScan (reads : Reads s f env) {n : Nat} (hn : n < 5)
    (scanning : c.scanId_ ≠ 0 ↔ c.state_.scan = .kRunning ∨ c.state_.scan = .kCancelling) :
    Advances s f c (c.cancelScan env (env.now n)).2 := by
  unfold Controller.cancelScan
  split
  · exact (Untouched.refl c).advances
  split
  · exact (Untouched.refl c).advances
  rename_i busy
  dsimp only
  split
  · rename_i waiting
    have idle : c.scanId_ = 0 := by
      by_contra outstanding
      obtain h | h := scanning.mp outstanding
      · cases waiting.symm.trans h
      · cases waiting.symm.trans h
    rw [changed_eq]
    refine Advances.untouched ?_ .scheduleTimeouts
    exact ⟨rfl, .kept _, no_scan idle idle, fun _ _ h => { h with }⟩
  rename_i started
  have running : c.state_.scan = .kRunning := by
    cases h : c.state_.scan <;> simp_all
  have outstanding := scanning.mpr (.inl running)
  split
  · exact (Untouched.record _).advances
  · rw [changed_eq]
    refine Advances.untouched ?_ .scheduleTimeouts
    refine ⟨rfl, .kept _, ?_, fun b hb h => { h with scan := fun _ => reads.le hn hb _ }⟩
    change Timeout.Step _ _ _ (if c.scanId_ = 0 then none else some _)
      (if c.scanId_ = 0 then none else some _)
    rw [if_neg outstanding, if_neg outstanding]
    refine .cancelled _ (env.now n) ?_ (reads n hn).1 (reads n hn).2
    rw [running]
    rfl

theorem cancelScan_stationPart (c : Controller) (env : Env) (now : Nat) :
    (c.cancelScan env now).2.stationPart = c.stationPart := by
  obtain ⟨_, _, _, _, _, _, _, _, h⟩ := cancelScan_shape c env now
  rw [h]
  rfl

/-! ### Callbacks -/

/-- A completion ends the operation it is of. -/
structure Closes (kind : OperationKind) (c d : Controller) : Prop where
  options : d.options_ = c.options_
  station : d.stationPart = c.stationPart ∨ kind ≠ .kScan ∧ d.stationId_ = 0
  scan : d.scanPart = c.scanPart ∨ kind = .kScan ∧ d.scanId_ = 0
  ahead : ∀ b, Ahead b c → Ahead b d

theorem Closes.untouched {kind : OperationKind} {e : Controller} (h : Closes kind c d)
    (h' : Untouched d e) : Closes kind c e where
  options := h'.options.trans h.options
  station := h.station.imp h'.station.trans fun ended =>
    ⟨ended.1, (congrArg (·.2.1) h'.station).trans ended.2⟩
  scan := h.scan.imp h'.scan.trans fun ended =>
    ⟨ended.1, (congrArg (·.2.1) h'.scan).trans ended.2⟩
  ahead b hi := h'.ahead b (h.ahead b hi)

theorem Advances.closes {kind : OperationKind} {e : Controller} (h : Advances s f c d)
    (h' : Closes kind d e) : Advances s f c e :=
  h.after h'.options (h'.station.imp station_of_part fun ended => station_idle ended.2)
    (h'.scan.imp scanning_of_part fun ended => scanning_idle ended.2) h'.ahead

theorem scanFinished_closes (env : Env) (r : OperationResult) (kind : r.kind = .kScan) :
    Closes r.kind c (c.scanFinished env r) := by
  obtain ⟨status, records, snapshot, h, -⟩ := scanFinished_cases env r c
  rw [h, changed_eq]
  refine Closes.untouched ?_ .scheduleTimeouts
  exact ⟨rfl, .inl rfl, .inr ⟨kind, rfl⟩, fun _ h => { h with scan := fun h => absurd rfl h }⟩

theorem stationFinished_closes (env : Env) (r : OperationResult) (kind : r.kind ≠ .kScan) :
    Closes r.kind c (c.stationFinished env r) := by
  obtain ⟨_, _, _, _, _, x, hx, h⟩ := stationFinished_cases env r c
  have freed : Closes r.kind c x := by
    rw [hx]
    exact ⟨rfl, .inr ⟨kind, rfl⟩, .inl rfl, fun _ h => { h with station := fun h => absurd rfl h }⟩
  have concluded : Untouched x (if c.Fails env r then
      (x.record (.failed r.id)).connectionFailed (env.now 4) (c.connectStatus env r)
        (if c.stationTimedOut_ then c.timeoutFailure_ else r.failure) r.nativeCode r.hasNativeCode
      else x) := by
    split
    · exact (Untouched.record _).trans (.connectionFailed _ _ _ _ _)
    · exact .refl x
  rw [h, changed_eq]
  refine Closes.untouched ((freed.untouched concluded).untouched ?_) .scheduleTimeouts
  exact ⟨rfl, rfl, fun _ h => { h with }⟩

theorem onOperationFinished_closes (env : Env) (r : OperationResult) :
    Closes r.kind c (c.onOperationFinished env r) := by
  obtain ⟨completes, h⟩ | ⟨completes, h⟩ | ⟨-, -, h⟩ :=
    onOperationFinished_cases (d := false) (c := c) env r
  · rw [h]
    exact scanFinished_closes env r completes.kind
  · rw [h]
    refine stationFinished_closes env r ?_
    rw [completes.kind]
    exact Transition.kind_ne_scan _
  · rw [h]
    exact ⟨rfl, .inl rfl, .inl rfl, fun _ h => h⟩

theorem Advances.hear (reads : Reads s f env) (link : LinkState) :
    Advances s f c (c.hear env link) := by
  by_cases ready : link.phase = .kAddressReady
  · obtain ⟨_, _, _, _, _, _, _, h, -⟩ := hear_ready env c ready
    rw [h]
    refine Advances.untouched ?_ (.changed .kStation)
    refine ⟨rfl, .kept _, .kept _, fun b hb h => ?_⟩
    refine { h with address := le_top, stable := ?_ }
    dsimp only
    split
    · exact reads.le (by decide) hb _
    · exact h.stable
  by_cases idle : link.phase = .kIdle
  · have down : Untouched c { c with
        state_.link := link
        stableDeadline_ := ⊤
        addressDeadline_ := ⊤
        state_.connectedProfile := {} } :=
      ⟨rfl, rfl, fun _ h => { h with stable := le_top, address := le_top }⟩
    rw [hear_idle env c idle]
    dsimp only
    split
    · exact (((down.trans (.record _)).trans (.connectionFailed _ _ _ _ _)).trans
        (.changed .kStation)).advances
    · exact (down.trans (.changed .kStation)).advances
  · rw [hear_unready env c ready idle]
    refine Advances.untouched ?_ (.changed .kStation)
    refine ⟨rfl, .kept _, .kept _, fun b hb h => ?_⟩
    refine { h with stable := le_top, address := ?_ }
    dsimp only
    split
    · exact reads.le (by decide) hb _
    · exact h.address

/-! ### The work task -/

theorem Advances.supersede (reads : Reads s f env)
    (connecting : c.transition_ = .kConnect → c.stationId_ ≠ 0) :
    Advances s f c (c.supersede env) := by
  unfold Controller.supersede
  split
  · rename_i h
    dsimp only
    split
    · exact Advances.fault (Untouched.record _).advances _
    · refine Advances.untouched ?_ (.changed .kStation)
      refine ⟨rfl, ?_, .kept _, fun b hb h => { h with
        station := fun _ => reads.le (by decide) hb _ }⟩
      change Timeout.Step _ _ _ (if c.stationId_ = 0 then none else some _)
        (if c.stationId_ = 0 then none else some _)
      rw [if_neg (connecting h.1), if_neg (connecting h.1)]
      exact .cancelled _ (env.now 0) (by simpa using h.2.2) (reads 0 (by decide)).1
        (reads 0 (by decide)).2
  · exact (Untouched.refl c).advances

/-- A queued scan is started while no station operation is outstanding. -/
theorem Advances.executeScan (reads : Reads s f env)
    (queued : c.state_.scan = .kQueued → c.scanId_ = 0) :
    Advances s f c (c.executeScan env) := by
  unfold Controller.executeScan
  refine Advances.untouched ?_ .scheduleTimeouts
  split
  · rename_i h
    have idle := queued h.2
    have started : Advances s f c ({ c with
        scanId_ := c.nextId_
        nextId_ := (c.nextId_ + 1) % 2 ^ 64
        state_.scan := .kRunning
        scanDeadline_ := (env.now 3 + Millis c.options_.scanTimeoutMs : Nat) }.record
          (.startScan c.nextId_ c.options_.maxScanResults env.startScan)) := by
      refine ⟨rfl, .kept _, ?_, fun b hb h => { h with
        scan := fun _ => reads.le (by decide) hb _ }⟩
      rw [scanning_idle idle]
      change Timeout.Step _ _ _ none (if c.nextId_ = 0 then none else some _)
      split
      · exact .kept _
      · exact .issued _ (env.now 3) (fun _ none => by cases none) rfl (reads 3 (by decide)).1
          (reads 3 (by decide)).2 rfl
    have noted := started.untouched (.changed .kScan)
    dsimp only
    split
    · exact noted.closes (onOperationFinished_closes env _)
    · exact noted
  · exact (Untouched.refl c).advances

theorem executeScan_stationPart (c : Controller) (env : Env) :
    (c.executeScan env).stationPart = c.stationPart := by
  unfold Controller.executeScan
  extract_lets _ c₁ c₂ c₃ c₄
  have started : c₃.stationPart = c.stationPart := (Untouched.changed .kScan).station
  refine Untouched.scheduleTimeouts.station.trans ?_
  unfold c₄
  split
  · split
    · obtain same | ⟨other, -⟩ := (onOperationFinished_closes env _).station
      · exact same.trans started
      · exact absurd rfl other
    · exact started
  · rfl

theorem submitStation_record (c : Controller) (env : Env) :
    ∃ act, (c.submitStation env).2 = c.record act := by
  unfold submitStation
  split <;> exact ⟨_, rfl⟩

/-- A transition that was chosen is handed to the interface. -/
theorem Advances.issueStation (reads : Reads s f env)
    (idle : c.stationId_ = 0) (fresh : c.cancellingConnect_ = false) :
    Advances s f c (c.issueStation env) ∧ (c.issueStation env).scanPart = c.scanPart := by
  unfold Controller.issueStation
  extract_lets c₁
  have issued : Advances s f c c₁ := by
    refine ⟨rfl, ?_, .kept _, fun b hb h => { h with
      station := fun _ => reads.le (by decide) hb _ }⟩
    rw [station_idle idle]
    change Timeout.Step _ _ _ none (if c.nextId_ = 0 then none else some _)
    split
    · exact .kept _
    · exact .issued _ (env.now 2) (fun _ none => by cases none) fresh (reads 2 (by decide)).1
        (reads 2 (by decide)).2 rfl
  obtain ⟨act, submitted⟩ := submitStation_record c₁ env
  split
  rename_i status c₂ heq
  obtain rfl : c₂ = c₁.record act := submitted ▸ (congrArg Prod.snd heq).symm
  have noted := (issued.untouched (.record act)).untouched (.changed .kStation)
  have kept : ((c₁.record act).changed .kStation).scanPart = c.scanPart :=
    (Untouched.changed _).scan
  dsimp only
  split
  · have ended := onOperationFinished_closes (c := (c₁.record act).changed .kStation) env {
      id := ((c₁.record act).changed .kStation).stationId_
      kind := ((c₁.record act).changed .kStation).transition_.kind
      status }
    refine ⟨noted.closes ended, ?_⟩
    obtain same | ⟨scan, -⟩ := ended.scan
    · exact same.trans kept
    · exact absurd scan (Transition.kind_ne_scan _)
  · exact ⟨noted, kept⟩

/-- The station first, and then the scan. -/
theorem Advances.issue (reads : Reads s f env) (idle : c.stationId_ = 0)
    (fresh : c.cancellingConnect_ = false) (queued : c.state_.scan = .kQueued → c.scanId_ = 0) :
    Advances s f c ((c.issueStation env).executeScan env) := by
  obtain ⟨issued, kept⟩ := Advances.issueStation (f := f) reads idle fresh
  have scan : (c.issueStation env).state_.scan = c.state_.scan := congrArg (·.2.2.2) kept
  have scanId : (c.issueStation env).scanId_ = c.scanId_ := congrArg (·.2.1) kept
  refine issued.trans (scanning_of_part kept) (.executeScan reads ?_)
    (.inl (station_of_part (executeScan_stationPart _ env)))
  rw [scan, scanId]
  exact queued

theorem Advances.executeStation (reads : Reads s f env) (needsStation : Bool)
    (idle : c.stationId_ = 0) (fresh : c.cancellingConnect_ = false)
    (queued : c.state_.scan = .kQueued → c.scanId_ = 0) :
    Advances s f c (c.executeStation env needsStation) := by
  -- the transition that is chosen is no operation yet
  have chosen {x : Controller} (h : Advances s f x ((x.issueStation env).executeScan env))
      (options : x.options_ = c.options_) (station : x.stationId_ = 0)
      (scan : x.scanPart = c.scanPart) (ahead : ∀ b, Ahead b c → Ahead b x) :
      Advances s f c ((x.issueStation env).executeScan env) := by
    have grace : x.grace = c.grace := grace_of_options options
    refine ⟨h.options.trans options, ?_, ?_, fun b hb hi => h.ahead b hb (ahead b hi)⟩
    · rw [station_idle idle, ← station_idle station, ← grace]
      exact h.station
    · rw [← scanning_of_part scan, ← grace]
      exact h.scanning
  unfold Controller.executeStation
  split
  · extract_lets c₁
    have aimed : Untouched c c₁ := ⟨rfl, rfl, fun _ h => { h with }⟩
    split
    · exact chosen (.issue reads idle fresh queued) rfl idle rfl fun _ h => { h with }
    split
    · exact chosen (.issue reads idle fresh queued) rfl idle rfl fun _ h => { h with }
    split
    · have restored : Untouched c (c₁.restoreProfile env) := aimed.trans (.restoreProfile env)
      exact restored.advances.untouched ⟨rfl, rfl, fun _ h => { h with }⟩
    split
    · exact chosen (.issue reads idle fresh queued) rfl idle rfl fun _ h => { h with }
    · have settled : Untouched c { c₁ with attemptedRevision_ := c₁.state_.revision } :=
        aimed.trans ⟨rfl, rfl, fun _ h => { h with }⟩
      refine (settled.trans (.changed .kStation)).trans_advances (.executeScan reads ?_)
      rw [changed_eq]
      exact queued
  · exact .executeScan reads queued

/-- The scan that a station transition finds: only one that was queued is gone at once. -/
theorem cancelScan_dropped {now : Nat} (running : c.running_ = true)
    (quiet : (c.cancelScan env now).2.isScanning = false) (busy : c.isScanning = true) :
    c.state_.scan = .kQueued ∧ (c.cancelScan env now).2.scanId_ = c.scanId_ := by
  have idle : (c.cancelScan env now).2.state_.scan = .kIdle := by simpa [isScanning] using quiet
  have idle : (core false (c.cancelScan env now).2).scan = .kIdle := idle
  obtain ⟨h, at_⟩ | ⟨-, waiting, h⟩ | ⟨-, at_, h⟩ | ⟨-, -, h⟩ :=
    cancelScan_cases (d := false) env now running
  · rw [h] at quiet
    cases busy.symm.trans quiet
  · exact ⟨waiting, congrArg Core.scanId h⟩
  · rw [h] at idle
    cases at_.symm.trans idle
  · rw [h] at idle
    cases idle

theorem Advances.executeIdle (reads : Reads s f env) (running : c.running_ = true)
    (idle : c.stationId_ = 0) (fresh : c.cancellingConnect_ = false)
    (scanning : c.scanId_ ≠ 0 ↔ c.state_.scan = .kRunning ∨ c.state_.scan = .kCancelling) :
    Advances s f c (c.executeIdle env) := by
  have queued : c.state_.scan = .kQueued → c.scanId_ = 0 := fun waiting => by
    by_contra outstanding
    obtain h | h := scanning.mp outstanding <;> cases waiting.symm.trans h
  unfold Controller.executeIdle
  extract_lets needs
  split
  · rename_i busy
    have cancelled := Advances.cancelScan (f := f) (n := 1) reads (by decide) scanning
    have station := cancelScan_stationPart c env (env.now 1)
    dsimp only
    split
    · have hf : ((c.cancelScan env (env.now 1)).2.fault (c.cancelScan env (env.now 1)).1).faulted_ =
          true := by rw [fault_eq]
      rw [if_pos (by simp [hf])]
      exact cancelled.fault _
    split
    · exact cancelled
    · rename_i quiet
      simp only [Bool.or_eq_true, not_or, Bool.not_eq_true] at quiet
      obtain ⟨waiting, id⟩ := cancelScan_dropped running quiet.1 busy.2
      have none := id.trans (queued waiting)
      refine cancelled.next (station_of_part station)
        ((scanning_idle none).trans (scanning_idle (queued waiting)).symm) ?_
      exact .executeStation reads needs ((congrArg (·.2.1) station).trans idle)
        ((congrArg (·.2.2.2.2) station).trans fresh) fun _ => none
  · exact .executeStation reads needs idle fresh queued

theorem Advances.execute (reads : Reads s f env) (he : Exclusive (core false c)) :
    Advances s f c (c.execute env) := by
  unfold Controller.execute
  split
  · exact (Untouched.refl c).advances
  rename_i live
  have live := live_of_not live
  split
  · exact Advances.fault (Untouched.refl c).advances _
  extract_lets c₁
  have superseded : Advances s f c c₁ := .supersede reads fun connecting idle =>
    absurd (he.free.mpr idle) (by simp [core, connecting])
  split
  · exact superseded
  split
  · exact superseded.untouched .scheduleTimeouts
  rename_i sound free
  have same : c₁ = c := supersede_free sound (not_not.mp free)
  have free : c.transition_ = .kNone := same ▸ not_not.mp free
  rw [same]
  refine .executeIdle reads live.1 (he.free.mp free) ?_ he.scanning
  refine he.uncancelled live.2 (he.notStopped live.1 live.2).1 ?_
  intro connecting
  cases free.symm.trans connecting

/-! ### The timer -/

theorem Untouched.checkLinkDeadlines (c : Controller) (env : Env) :
    Untouched c (c.checkLinkDeadlines env) := by
  unfold Controller.checkLinkDeadlines
  extract_lets now _ c₁ c₂
  have stable : Untouched c c₁ := by
    unfold c₁
    split
    · rw [changed_eq]
      exact ⟨rfl, rfl, fun _ h => { h with stable := le_top }⟩
    · exact .refl c
  split
  · have expired : Untouched c c₂ :=
      stable.trans ⟨rfl, rfl, fun _ h => { h with address := le_top }⟩
    exact (expired.trans (.connectionFailed _ _ _ _ _)).trans (.changed .kStation)
  · exact stable

theorem Advances.checkStationDeadline (reads : Reads s f env) :
    Advances s f c (c.checkStationDeadline env) := by
  unfold Controller.checkStationDeadline
  split
  · rename_i due
    split
    · exact Advances.fault (Untouched.refl c).advances _
    rename_i h
    simp only [ne_eq, not_or, not_not, Bool.not_eq_true] at h
    dsimp only
    split
    · refine Advances.fault (Untouched.advances ?_) _
      exact ⟨rfl, rfl, fun _ h => { h with }⟩
    · refine Advances.untouched ?_ (.changed .kStation)
      refine ⟨rfl, ?_, .kept _, fun b hb h => { h with
        station := fun _ => reads.le (by decide) hb _ }⟩
      change Timeout.Step _ _ _ (if c.stationId_ = 0 then none else some _)
        (if c.stationId_ = 0 then none else some _)
      rw [if_neg due.1, if_neg due.1]
      exact .cancelled _ (env.now 2) h.2 (reads 2 (by decide)).1 (reads 2 (by decide)).2
  · exact (Untouched.refl c).advances

theorem Advances.checkScanDeadline (reads : Reads s f env)
    (scanning : c.scanId_ ≠ 0 ↔ c.state_.scan = .kRunning ∨ c.state_.scan = .kCancelling) :
    Advances s f c (c.checkScanDeadline env) := by
  unfold Controller.checkScanDeadline
  split
  · split
    · exact Advances.fault (Untouched.refl c).advances _
    have late : Untouched c { c with scanTimedOut_ := true } := ⟨rfl, rfl, fun _ h => { h with }⟩
    have cancelled := late.trans_advances (.cancelScan (f := f) (n := 4) reads (by decide) scanning)
    dsimp only
    split
    · exact cancelled.fault _
    · exact cancelled
  · exact (Untouched.refl c).advances

theorem checkScanDeadline_station (c : Controller) (env : Env) :
    (c.checkScanDeadline env).station = c.station ∨ (c.checkScanDeadline env).station = none := by
  unfold Controller.checkScanDeadline
  split
  · split
    · exact .inr (fault_station _)
    dsimp only
    split
    · exact .inr (fault_station _)
    · exact .inl (station_of_part (cancelScan_stationPart _ env _))
  · exact .inl rfl

theorem Advances.checkTimeouts (reads : Reads s f env) (he : Exclusive (core false c)) :
    Advances s f c (c.checkTimeouts env) := by
  unfold Controller.checkTimeouts
  split
  · exact (Untouched.refl c).advances
  rename_i live
  have live := live_of_not live
  extract_lets c₁ c₂ c₃
  have links : Untouched c c₁ := .checkLinkDeadlines c env
  have station : Advances s f c c₂ := links.trans_advances (.checkStationDeadline reads)
  split
  · exact station
  rename_i sound
  have part : c₂.scanPart = c.scanPart :=
    ((checkStationDeadline_scanPart c₁ env).resolve_left sound).trans links.scan
  have scan : c₂.state_.scan = c.state_.scan := congrArg (·.2.2.2) part
  have scanId : c₂.scanId_ = c.scanId_ := congrArg (·.2.1) part
  have whole : Advances s f c c₃ := by
    refine station.trans (scanning_of_part part) (.checkScanDeadline reads ?_)
      (checkScanDeadline_station c₂ env)
    rw [scan, scanId]
    exact he.scanning
  split
  · exact whole
  · exact whole.untouched .scheduleTimeouts

/-! ### Public calls -/

theorem Advances.shutdown : Advances s f c c.shutdown := by
  unfold Controller.shutdown
  split
  · exact (Untouched.refl c).advances
  · split <;> exact ⟨rfl, .ended _, .ended _, fun _ _ h => { h with
      timer := le_top
      station := fun h => absurd rfl h
      scan := fun h => absurd rfl h }⟩

theorem Advances.perform (reads : Reads s f env)
    (scanning : c.scanId_ ≠ 0 ↔ c.state_.scan = .kRunning ∨ c.state_.scan = .kCancelling)
    (call : Call) : Advances s f c (c.perform env call).2 := by
  cases call with
  | begin =>
    refine Untouched.advances ?_
    simp only [Controller.perform, begin]
    split
    · exact .refl c
    split
    · exact .refl c
    split
    · exact .refl c
    split
    · exact .refl c
    split
    · exact .record _
    · refine Untouched.trans ?_ .newIntent
      rw [changed_eq]
      exact ⟨rfl, rfl, fun _ h => { h with }⟩
  | shutdown => exact .shutdown
  | setEnabled enabled =>
    refine Untouched.advances ?_
    simp only [Controller.perform, setEnabled]
    split
    · exact .refl c
    split
    · exact .refl c
    · refine Untouched.trans ?_ .newIntent
      exact ⟨rfl, rfl, fun _ h => { h with }⟩
  | connect config credentials =>
    exact (Untouched.requestConnection env config credentials _ _).advances
  | connectSaved ssid => exact (Untouched.connectSaved env 0 ssid).advances
  | disconnect =>
    refine Untouched.advances ?_
    simp only [Controller.perform, disconnect]
    split
    · exact .refl c
    split
    · exact ⟨rfl, rfl, fun _ h => { h with }⟩
    · refine Untouched.trans ?_ .newIntent
      split <;> exact ⟨rfl, rfl, fun _ h => { h with }⟩
  | startScan =>
    simp only [Controller.perform, startScan]
    split
    · exact (Untouched.refl c).advances
    split
    · exact (Untouched.refl c).advances
    split
    · exact (Untouched.refl c).advances
    rename_i free
    have none : c.scanId_ = 0 := by
      by_contra outstanding
      have idle : c.state_.scan = .kIdle := by simpa [isScanning] using (not_or.mp free).1
      obtain h | h := scanning.mp outstanding <;> cases idle.symm.trans h
    rw [changed_eq]
    exact ⟨rfl, .kept _, no_scan none none, fun _ _ h => { h with }⟩
  | cancelScan => exact .cancelScan reads (by decide) scanning
  | saveProfile settings update =>
    refine Untouched.advances ?_
    simp only [Controller.perform, saveProfile]
    split
    · exact .refl c
    split
    · exact .refl c
    · rw [changed_eq]
      exact ⟨rfl, rfl, fun _ h => { h with }⟩
  | removeProfile ssid =>
    refine Untouched.advances ?_
    simp only [Controller.perform, removeProfile]
    split
    · exact .refl c
    split
    · exact .refl c
    · rw [changed_eq]
      exact ⟨rfl, rfl, fun _ h => { h with }⟩
  | addListener listener =>
    refine Untouched.advances ?_
    simp only [Controller.perform, addListener]
    split
    · exact .refl c
    · exact ⟨rfl, rfl, fun _ h => { h with }⟩
  | removeListener listener => exact Untouched.advances ⟨rfl, rfl, fun _ h => { h with }⟩

/-! ## Runs in time -/

/-- The environment that a call meets. -/
def Atom.answers : Atom → Option Env
  | .call _ env | .work env | .timer env | .reconnect env | .operationFinished _ env
  | .linkChanged _ env => some env
  | .enabledChanged _ | .take | .deliver .. => none

/-- **A call touches at most one operation of each kind**, and arms the timer
with what lies ahead. -/
theorem atom_advances (he : Exclusive (core false c)) (a : Atom)
    (reads : ∀ env ∈ a.answers, Reads s f env) : Advances s f c (atom c a) := by
  cases a with
  | call call env =>
    exact Advances.untouched (.perform (reads env rfl) he.scanning call) (.record _)
  | work env =>
    simp only [atom]
    split
    · have taken : Untouched c { c with work_ := false } := ⟨rfl, rfl, fun _ h => { h with }⟩
      exact taken.trans_advances (.execute (reads env rfl) { he with })
    · exact (Untouched.refl c).advances
  | timer env =>
    simp only [atom]
    split
    · have fired : Untouched c { c with timer_ := ⊤ } :=
        ⟨rfl, rfl, fun _ h => { h with timer := le_top }⟩
      exact fired.trans_advances (.checkTimeouts (reads env rfl) { he with })
    · exact (Untouched.refl c).advances
  | reconnect env =>
    refine Untouched.advances ?_
    simp only [atom]
    split
    · have fired : Untouched c { c with reconnect_ := ⊤ } := ⟨rfl, rfl, fun _ h => { h with }⟩
      exact fired.trans (.retry env)
    · exact .refl c
  | operationFinished r env =>
    exact (Untouched.record _).advances.closes (onOperationFinished_closes env r)
  | linkChanged link env =>
    simp only [atom]
    obtain h | ⟨-, h⟩ := onLinkChanged_cases c env link
    · rw [h]
      exact (Untouched.refl c).advances
    · rw [h]
      exact (Advances.hear (reads env rfl) link).untouched .scheduleTimeouts
  | enabledChanged enabled =>
    refine Untouched.advances ?_
    simp only [atom, onEnabledChanged]
    split
    · exact .refl c
    · rw [changed_eq]
      exact ⟨rfl, rfl, fun _ h => { h with }⟩
  | take =>
    refine Untouched.advances ?_
    simp only [atom]
    split
    · exact ⟨rfl, rfl, fun _ h => { h with }⟩
    · exact .refl c
  | deliver listener change => exact (Untouched.record _).advances

/-- A call with the time it takes. -/
structure Timed where
  atom : Atom
  start : Nat
  finish : Nat

/-- A controller with the time at which its last call ended, and the times at
which the operations that are outstanding were issued. -/
structure Watch where
  controller : Controller
  clock : Nat := 0
  stationSince : Nat := 0
  scanSince : Nat := 0

namespace Watch

def init (options : Options) (seed : UInt32) : Watch := { controller := .init options seed }

def step (w : Watch) (i : Timed) : Watch :=
  let d := w.controller.atom i.atom
  { controller := d
    clock := i.finish
    stationSince := Timeout.since i.start w.stationSince w.controller.station d.station
    scanSince := Timeout.since i.start w.scanSince w.controller.scanning d.scanning }

/-- Calls follow each other, none takes longer than `δ`, and none ends later
than `δ` after the timer was due. -/
def Punctual (δ : Nat) (w : Watch) (i : Timed) : Prop :=
  w.clock ≤ i.start ∧ i.start ≤ i.finish ∧ i.finish ≤ i.start + δ ∧
    (∀ env ∈ i.atom.answers, Reads i.start i.finish env) ∧
    ((i.finish : Nat) : Uptime) ≤ w.controller.timer_ + (δ : Nat)

instance (δ : Nat) (w : Watch) (i : Timed) : Decidable (Punctual δ w i) :=
  inferInstanceAs (Decidable (_ ∧ _))

end Watch

/-! ### The timer is never overdue -/

/-- A controller that was not started watches no link. -/
def Fresh (c : Controller) : Prop :=
  c.running_ = false → c.closed_ = false → c.stableDeadline_ = ⊤ ∧ c.addressDeadline_ = ⊤

theorem Fresh.connectionFailed {x : Controller} (now : Nat) (status : Status)
    (failure : ConnectionFailure) (code : Int) (hasCode : Bool) :
    (x.connectionFailed now status failure code hasCode).stableDeadline_ = ⊤ ∧
      (x.connectionFailed now status failure code hasCode).addressDeadline_ = ⊤ := by
  obtain ⟨_, _, _, _, h, -⟩ := connectionFailed_cases now status failure code hasCode x
  rw [h]
  exact ⟨rfl, rfl⟩

theorem Effect.fresh {a : Atom} (h : Effect a c d) (hi : Fresh c) : Fresh d := by
  cases h with
  | noted | scheduled | listened | relaxed | repeated | aimed | timedOut | scanTimedOut | taken
  | retryIdle => exact hi
  | begun | withdrawn | requested =>
    intro _ _
    rw [newIntent_eq]
    exact ⟨rfl, rfl⟩
  | shutdown opened =>
    rw [shutdown_eq opened]
    exact fun _ closed => by cases closed
  | faulted =>
    intro _ _
    rw [fault_eq]
    exact ⟨rfl, rfl⟩
  | scanQueued | scanDropped | scanCancelled | profiles | cancelled | issued | settled | unrestored
  | scanStarted | retryDenied | retryGranted | enabledReported =>
    rw [changed_eq]
    exact hi
  | stable =>
    rw [changed_eq]
    exact fun stopped opened => ⟨rfl, (hi stopped opened).2⟩
  | addressExpired =>
    intro _ _
    rw [changed_eq]
    exact Fresh.connectionFailed _ _ _ _ _
  | scanFinished r env source completes =>
    intro stopped
    have running := (Later.scanFinished c env r).running completes.running
    cases stopped.symm.trans running
  | stationFinished r env source completes =>
    intro stopped
    have running := (Later.stationFinished c env r).running completes.running
    cases stopped.symm.trans running
  | @linkReported link env _ hears =>
    intro stopped
    have running := (Later.hear c env link).running hears.running
    cases stopped.symm.trans running

/-- A controller that stopped does not start again. -/
theorem atom_stopped {a : Atom} (stopped : c.faulted_ = true ∨ c.closed_ = true) :
    (atom c a).faulted_ = true ∨ (atom c a).closed_ = true := by
  refine Machine.path_invariant (M := Effect a)
    (J := fun c => c.faulted_ = true ∨ c.closed_ = true) (fun c d h hi => ?_) (atom_effects c a)
    stopped
  obtain ⟨closed, -⟩ | later := h.later
  · exact .inr closed
  · exact hi.imp later.faulted later.closed.trans

/-- What lies ahead of a call that comes in time. -/
theorem ahead_of_punctual {b : Nat} (guarded : Guarded c) (exclusive : Exclusive (core false c))
    (fresh : Fresh c) (timer : (b : Uptime) ≤ c.timer_)
    (started : c.faulted_ = false ∧ c.closed_ = false) : Ahead b c := by
  by_cases live : c.Live
  · have armed := guarded live
    exact ⟨timer, timer.trans armed.stable, timer.trans armed.address,
      fun h => timer.trans (armed.station h), fun h => timer.trans (armed.scan h)⟩
  · have stopped : c.running_ = false := by
      by_contra running
      exact live ⟨by simpa using running, started.1⟩
    obtain ⟨station, scan, -⟩ := exclusive.quiet (.inl stopped)
    obtain ⟨stable, address⟩ := fresh stopped started.2
    exact ⟨timer, stable ▸ le_top, address ▸ le_top, fun h => absurd station h,
      fun h => absurd scan h⟩

namespace Watch

variable {w : Watch} {i : Timed} {δ : Nat}

/-- The operations are watched, and the timer is not overdue. -/
structure Timely (δ : Nat) (w : Watch) : Prop where
  guarded : Guarded w.controller
  exclusive : Exclusive (core false w.controller)
  fresh : Fresh w.controller
  station : ∀ p ∈ w.controller.station, p.Watched δ w.controller.grace w.stationSince w.clock
  scanning : ∀ p ∈ w.controller.scanning, p.Watched δ w.controller.grace w.scanSince w.clock
  timer : w.controller.Live → (w.clock : Uptime) ≤ w.controller.timer_ + (δ : Nat)

/-- A call that comes in time comes in time for every operation. -/
theorem Timely.punctual (hi : w.Timely δ) (punctual : w.Punctual δ i) :
    (∀ p ∈ w.controller.station, (i.finish : Uptime) ≤ p.deadline + (δ : Nat)) ∧
      ∀ p ∈ w.controller.scanning, (i.finish : Uptime) ≤ p.deadline + (δ : Nat) := by
  obtain ⟨-, -, -, -, timer⟩ := punctual
  have live (busy : w.controller.stationId_ ≠ 0 ∨ w.controller.scanId_ ≠ 0) :
      w.controller.Live := by
    by_contra stopped
    have stopped : w.controller.running_ = false ∨ w.controller.faulted_ = true := by
      simpa [Live, or_iff_not_imp_left] using stopped
    obtain ⟨station, scan, -⟩ := hi.exclusive.quiet stopped
    exact busy.elim (absurd station) (absurd scan)
  refine ⟨fun p mem => ?_, fun p mem => ?_⟩
  · obtain ⟨busy, deadline⟩ := mem_station mem
    rw [deadline]
    exact Timeout.late_mono timer ((hi.guarded (live (.inl busy))).station busy)
  · obtain ⟨busy, deadline⟩ := mem_scanning mem
    rw [deadline]
    exact Timeout.late_mono timer ((hi.guarded (live (.inr busy))).scan busy)

theorem Timely.step (hi : w.Timely δ) (punctual : w.Punctual δ i) : (w.step i).Timely δ := by
  obtain ⟨forward, ordered, short, reads, timer⟩ := id punctual
  have advances := atom_advances hi.exclusive i.atom reads
  obtain ⟨station, scanning⟩ := hi.punctual punctual
  refine ⟨atom_guarded hi.guarded hi.exclusive i.atom, atom_exclusive i.atom hi.exclusive,
    Machine.path_invariant (fun _ _ h => h.fresh) (atom_effects _ _) hi.fresh, ?_, ?_, ?_⟩
  · rw [show (w.step i).controller.grace = w.controller.grace from advances.grace]
    exact advances.station.watched forward ordered short station hi.station
  · rw [show (w.step i).controller.grace = w.controller.grace from advances.grace]
    exact advances.scanning.watched forward ordered short scanning hi.scanning
  · intro live
    have started : w.controller.faulted_ = false ∧ w.controller.closed_ = false := by
      by_contra stopped
      have stopped : w.controller.faulted_ = true ∨ w.controller.closed_ = true := by
        simpa [or_iff_not_imp_left] using stopped
      obtain faulted | closed := atom_stopped (a := i.atom) stopped
      · cases live.2.symm.trans faulted
      · cases live.1.symm.trans ((atom_exclusive i.atom hi.exclusive).closed closed)
    have ahead := ahead_of_punctual hi.guarded hi.exclusive hi.fresh (Timeout.late_iff.mp timer)
      started
    exact Timeout.late_iff.mpr (advances.ahead _ (Nat.sub_le_iff_le_add.mpr short) ahead).timer

theorem Timely.station_age (hi : w.Timely δ) (live : w.controller.Live)
    (busy : w.controller.stationId_ ≠ 0) : w.clock ≤ w.stationSince +
      if w.controller.transition_ = .kConnect then
        Millis w.controller.options_.connectTimeoutMs + w.controller.grace + 3 * δ
      else w.controller.grace + 2 * δ := by
  have age := (hi.station _ (if_neg busy)).age
  unfold Operation.extension at age
  dsimp only at age
  split
  · rename_i connecting
    rw [if_pos connecting] at age
    split at age <;> omega
  · rename_i other
    have uncancelled : w.controller.cancellingConnect_ = false :=
      hi.exclusive.uncancelled live.2 (hi.exclusive.notStopped live.1 live.2).1 other
    rw [if_neg other, uncancelled] at age
    simp only [Bool.false_eq_true, if_false] at age
    unfold grace
    omega

theorem Timely.scan_age (hi : w.Timely δ) (busy : w.controller.scanId_ ≠ 0) :
    w.clock ≤ w.scanSince +
      (Millis w.controller.options_.scanTimeoutMs + w.controller.grace + 3 * δ) := by
  have age := (hi.scanning _ (if_neg busy)).age
  unfold Operation.extension at age
  dsimp only at age
  split at age <;> omega

theorem timely_init (δ : Nat) (options : Options) (seed : UInt32) :
    (init options seed).Timely δ where
  guarded live := absurd live.1 Bool.false_ne_true
  exclusive := exclusive_init options seed
  fresh _ _ := ⟨rfl, rfl⟩
  station _ none := by cases none
  scanning _ none := by cases none
  timer live := absurd live.1 Bool.false_ne_true

theorem run_timely {δ : Nat} {options : Options} {seed : UInt32} {inputs : List Timed}
    (punctual : Machine.Along step (Punctual δ) (init options seed) inputs) :
    (Machine.run step (init options seed) inputs).Timely δ ∧
      (Machine.run step (init options seed) inputs).controller.options_ = options := by
  refine Machine.run_invariant
    (I := fun w : Watch => w.Timely δ ∧ w.controller.options_ = options)
    (fun w i punctual hi => ⟨hi.1.step punctual, ?_⟩) ⟨timely_init δ options seed, rfl⟩ punctual
  exact (atom_advances hi.1.exclusive i.atom punctual.2.2.2.1).options.trans hi.2

end Watch

/-- **Bounded response.** In every run whose calls take at most `δ` and none of
whose calls ends later than `δ` after the timer was due, a station operation
that is outstanding is no older than its timeout and, for a connect, the time
to cancel it, nor is a scan; and the timer is never overdue by more than `δ`, so
that the run can go on. -/
theorem responds_in_time (options : Options) (seed : UInt32) (δ : Nat) (inputs : List Timed)
    (punctual : Machine.Along Watch.step (Watch.Punctual δ) (Watch.init options seed) inputs) :
    let w := Machine.run Watch.step (Watch.init options seed) inputs
    let c := w.controller
    c.running_ = true → c.faulted_ = false →
      (c.stationId_ ≠ 0 → w.clock ≤ w.stationSince +
        if c.transition_ = .kConnect then
          Millis options.connectTimeoutMs + Millis options.transitionTimeoutMs + 3 * δ
        else Millis options.transitionTimeoutMs + 2 * δ) ∧
      (c.scanId_ ≠ 0 → w.clock ≤ w.scanSince +
        (Millis options.scanTimeoutMs + Millis options.transitionTimeoutMs + 3 * δ)) ∧
      (w.clock : Uptime) ≤ c.timer_ + (δ : Nat) := by
  intro w c running sound
  obtain ⟨timely, same⟩ := Watch.run_timely punctual
  have station := timely.station_age ⟨running, sound⟩
  have scan := timely.scan_age
  unfold grace at station scan
  rw [same] at station scan
  exact ⟨station, scan, timely.timer ⟨running, sound⟩⟩

/-- The connect is issued by a call of half a millisecond, and then nothing is
heard; the timer task comes 0.6 ms after the timeout and takes 0.4 ms. -/
def unanswered : List Timed :=
  connecting.dropLast.map (fun a => { atom := a, start := 0, finish := 0 }) ++
    [{ atom := .work .willing, start := 0, finish := 500 },
      { atom := .timer (later 30000600), start := 30000600, finish := 30001000 }]

theorem responds_in_time_unanswered :
    (Machine.run Watch.step (Watch.init {} 1) unanswered).controller.cancellingConnect_ = true ∧
      (Machine.run Watch.step (Watch.init {} 1) unanswered).clock = 30001000 ∧
      (Machine.run Watch.step (Watch.init {} 1) unanswered).clock ≤
        (Machine.run Watch.step (Watch.init {} 1) unanswered).stationSince +
          if (Machine.run Watch.step (Watch.init {} 1) unanswered).controller.transition_ =
              .kConnect then Millis 30000 + Millis 5000 + 3 * 1000
          else Millis 5000 + 2 * 1000 :=
  ⟨by decide +kernel, by decide +kernel,
    (responds_in_time {} 1 1000 unanswered (by decide +kernel) (by decide +kernel)
      (by decide +kernel)).1 (by decide +kernel)⟩

end RooWifi.Controller
