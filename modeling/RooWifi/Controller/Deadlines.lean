import RooWifi.Controller.Effects

/-! # No unguarded wait

One timer guards four deadlines: that of the station operation, of the scan, of
a link that became stable and of a link that lost its address. Whatever arms
one of them also arms the timer, and whatever leaves the timer alone only takes
deadlines away. -/
namespace RooWifi.Controller

variable {c : Controller}

/-- The timer fires no later than any deadline that counts. -/
structure Armed (c : Controller) : Prop where
  stable : c.timer_ ≤ c.stableDeadline_
  address : c.timer_ ≤ c.addressDeadline_
  station : c.stationId_ ≠ 0 → c.timer_ ≤ c.stationDeadline_
  scan : c.scanId_ ≠ 0 → c.timer_ ≤ c.scanDeadline_

/-- Only a controller that is up needs its timer. -/
def Guarded (c : Controller) : Prop := c.Live → Armed c

/-- A deadline that counts moves the timer forward, one that does not leaves it. -/
theorem earlier_le (p : Prop) [Decidable p] (deadline timer : Uptime) :
    (if p ∧ deadline < timer then deadline else timer) ≤ timer ∧
      (p → (if p ∧ deadline < timer then deadline else timer) ≤ deadline) := by
  split
  · rename_i h
    exact ⟨h.2.le, fun _ => le_refl _⟩
  · rename_i h
    exact ⟨le_refl _, fun hp => not_lt.mp fun hlt => h ⟨hp, hlt⟩⟩

theorem scheduleTimeouts_armed (c : Controller) : Armed c.scheduleTimeouts := by
  obtain ⟨hstation, station⟩ := earlier_le (c.stationId_ ≠ 0) c.stationDeadline_
    (min c.stableDeadline_ c.addressDeadline_)
  obtain ⟨hscan, scan⟩ := earlier_le (c.scanId_ ≠ 0) c.scanDeadline_
    (if c.stationId_ ≠ 0 ∧ c.stationDeadline_ < min c.stableDeadline_ c.addressDeadline_ then
      c.stationDeadline_ else min c.stableDeadline_ c.addressDeadline_)
  have hlink := hscan.trans hstation
  exact {
    stable := hlink.trans (min_le_left _ _)
    address := hlink.trans (min_le_right _ _)
    station := fun h => hscan.trans (station h)
    scan := scan }

/-! ## Public calls -/

/-- What leaves the timer alone may take deadlines away. -/
theorem Guarded.newIntent (hi : Guarded c) : Guarded c.newIntent := by
  rw [newIntent_eq]
  intro live
  exact { hi live with
    stable := le_top
    address := le_top }

theorem requestConnection_guarded (hi : Guarded c) (env : Env) (config : ConnectionConfig)
    (credentials : Credentials) (profile : Ssid) (automatic : Bool) :
    Guarded (c.requestConnection env config credentials profile automatic).2 := by
  unfold requestConnection
  split
  · exact hi
  split
  · exact hi
  split
  · exact hi
  split
  · exact hi
  dsimp only
  split
  · exact fun live => { hi live with }
  · have hn := Guarded.newIntent (c := { c with
      config_ := config
      credentials_ := credentials
      state_.desired := .kConnected
      state_.desiredProfile := profile
      autoConnect_ := automatic
      restoreProfile_ := false }) fun live => { hi live with }
    exact fun live => { hn live with }

theorem connectSaved_guarded (hi : Guarded c) (env : Env) (nth : Nat) (ssid : Ssid) :
    Guarded (c.connectSaved env nth ssid).2 := by
  obtain ⟨-, h⟩ | ⟨-, config, credentials, automatic, h⟩ := connectSaved_cases (c := c) env nth ssid
  · rw [h]
    exact hi
  · rw [h]
    exact requestConnection_guarded hi env config credentials ssid automatic

theorem cancelScan_guarded (hi : Guarded c) (env : Env) (now : Nat) :
    Guarded (c.cancelScan env now).2 := by
  unfold cancelScan
  split
  · exact hi
  split
  · exact hi
  split
  · exact fun _ => scheduleTimeouts_armed _
  dsimp only
  split
  · exact fun live => { hi live with }
  · exact fun _ => scheduleTimeouts_armed _

theorem perform_guarded (hi : Guarded c) (he : Exclusive (core false c)) (env : Env) (call : Call) :
    Guarded (c.perform env call).2 := by
  cases call with
  | begin =>
    simp only [perform, begin]
    split
    · exact hi
    split
    · exact hi
    rename_i fresh
    split
    · exact hi
    split
    · exact hi
    split
    · exact fun live => { hi live with }
    · -- a controller that was not running has nothing outstanding
      obtain ⟨station, scan, -⟩ := he.quiet (.inl (by simpa [core] using fresh))
      rw [newIntent_eq, changed_eq]
      exact fun _ => {
        stable := le_top
        address := le_top
        station := fun h => absurd station h
        scan := fun h => absurd scan h }
  | shutdown =>
    simp only [perform, shutdown]
    split
    · exact hi
    · exact fun live => absurd live.1 (by simp)
  | setEnabled enabled =>
    simp only [perform, setEnabled]
    split
    · exact hi
    split
    · exact hi
    · exact Guarded.newIntent (c := { c with
        state_.desired := if enabled then .kDisconnected else .kDisabled
        state_.desiredProfile := {}
        credentials_ := {}
        autoConnect_ := false
        restoreProfile_ := enabled }) fun live => { hi live with }
  | connect config credentials => exact requestConnection_guarded hi env config credentials {} false
  | connectSaved ssid => exact connectSaved_guarded hi env 0 ssid
  | disconnect =>
    simp only [perform, disconnect]
    split
    · exact hi
    split
    · exact fun live => { hi live with }
    · split <;> exact Guarded.newIntent fun live => { hi live with }
  | startScan =>
    simp only [perform, startScan]
    split
    · exact hi
    split
    · exact hi
    split
    · exact hi
    · rw [changed_eq]
      exact fun live => { hi live with }
  | cancelScan => exact cancelScan_guarded hi env (env.now 0)
  | saveProfile settings update =>
    simp only [perform, saveProfile]
    split
    · exact hi
    split
    · exact hi
    · rw [changed_eq]
      exact fun live => { hi live with }
  | removeProfile ssid =>
    simp only [perform, removeProfile]
    split
    · exact hi
    split
    · exact hi
    · rw [changed_eq]
      exact fun live => { hi live with }
  | addListener listener =>
    simp only [perform, addListener]
    split
    · exact hi
    · exact fun live => { hi live with }
  | removeListener listener => exact fun live => { hi live with }

/-! ## Tasks and callbacks -/

theorem onOperationFinished_guarded (hi : Guarded c) (env : Env) (r : OperationResult) :
    Guarded (c.onOperationFinished env r) := by
  obtain ⟨-, h⟩ | ⟨-, h⟩ | ⟨-, -, h⟩ := onOperationFinished_cases (d := false) (c := c) env r
  · rw [h]
    exact fun _ => scheduleTimeouts_armed _
  · rw [h]
    exact fun _ => scheduleTimeouts_armed _
  · rw [h]
    exact hi

theorem retry_guarded (hi : Guarded c) (env : Env) : Guarded (c.retry env) := by
  unfold retry
  extract_lets c₁
  split
  · exact fun live => { hi live with }
  dsimp only
  split
  · split <;>
    · rw [changed_eq]
      exact fun live => { hi live with }
  · rw [changed_eq]
    exact fun live => { hi live with }

theorem restoreProfile_guarded (hi : Guarded c) (env : Env) : Guarded (c.restoreProfile env) := by
  unfold restoreProfile
  extract_lets c'
  have hi' : Guarded c' := fun live => { hi live with }
  split
  rename_i status ssid _
  split
  · exact hi'
  have restored : Guarded (c'.restoreLast env status ssid).2 := by
    obtain h | ⟨-, config, credentials, automatic, h⟩ := restoreLast_cases (c := c') env status ssid
    · rw [h]
      exact hi'
    · rw [h]
      exact requestConnection_guarded hi' env config credentials ssid automatic
  dsimp only
  split
  · rw [changed_eq]
    exact fun live => { restored live with }
  · exact restored

theorem executeScan_armed (c : Controller) (env : Env) : Armed (c.executeScan env) :=
  scheduleTimeouts_armed _

theorem executeStation_guarded (hi : Guarded c) (env : Env) (needsStation : Bool) :
    Guarded (c.executeStation env needsStation) := by
  unfold executeStation
  split
  · extract_lets c₁
    split
    · exact fun _ => executeScan_armed _ env
    split
    · exact fun _ => executeScan_armed _ env
    split
    · have hr := restoreProfile_guarded (c := c₁) (fun live => { hi live with }) env
      exact fun live => { hr live with }
    split <;> exact fun _ => executeScan_armed _ env
  · exact fun _ => executeScan_armed _ env

/-- A faulted controller waits for nothing. -/
theorem guarded_of_faulted (h : c.faulted_ = true) : Guarded c :=
  fun live => absurd (live.2.symm.trans h) (by simp)

theorem fault_guarded (status : Status) (c : Controller) : Guarded (c.fault status) :=
  guarded_of_faulted (by rw [fault_eq])

/-- A superseded connect is still outstanding after its cancellation. -/
theorem supersede_free {env : Env} (sound : ¬ (c.supersede env).faulted_ = true)
    (free : (c.supersede env).transition_ = .kNone) : c.supersede env = c := by
  unfold supersede at sound free ⊢
  split at sound
  · rename_i h
    rw [if_pos h] at free
    dsimp only at sound free
    split at sound
    · rw [fault_eq] at sound
      exact absurd rfl sound
    · rename_i ok
      rw [if_neg ok, changed_eq] at free
      exact absurd (h.1.symm.trans free) (by simp)
  · rename_i h
    rw [if_neg h]

theorem execute_guarded (hi : Guarded c) (env : Env) : Guarded (c.execute env) := by
  unfold execute
  split
  · exact hi
  split
  · exact fault_guarded _ _
  extract_lets c₁
  split
  · exact guarded_of_faulted ‹_›
  split
  · exact fun _ => scheduleTimeouts_armed _
  rename_i sound free
  have hi₁ : Guarded c₁ := by
    rw [show c₁ = c from supersede_free sound (not_not.mp free)]
    exact hi
  unfold executeIdle
  extract_lets needs
  split
  · have given := cancelScan_guarded hi₁ env (env.now 1)
    dsimp only
    split
    · split
      · exact fault_guarded _ _
      · exact executeStation_guarded (fault_guarded _ _) env needs
    · split
      · exact given
      · exact executeStation_guarded given env needs
  · exact executeStation_guarded hi₁ env needs

theorem checkTimeouts_guarded (c : Controller) (env : Env) : Guarded (c.checkTimeouts env) := by
  unfold checkTimeouts
  split
  · rename_i h
    intro live
    simp [live.1, live.2] at h
  extract_lets c₁ c₂ c₃
  split
  · exact guarded_of_faulted ‹_›
  split
  · exact guarded_of_faulted ‹_›
  · exact fun _ => scheduleTimeouts_armed _

theorem atom_guarded (hi : Guarded c) (he : Exclusive (core false c)) (a : Atom) :
    Guarded (atom c a) := by
  cases a with
  | call call env =>
    have h := perform_guarded hi he env call
    exact fun live => { h live with }
  | work env =>
    simp only [atom]
    split
    · exact execute_guarded (c := { c with work_ := false }) (fun live => { hi live with }) env
    · exact hi
  | timer env =>
    simp only [atom]
    split
    · exact checkTimeouts_guarded _ env
    · exact hi
  | reconnect env =>
    simp only [atom]
    split
    · exact retry_guarded (c := { c with reconnect_ := ⊤ }) (fun live => { hi live with }) env
    · exact hi
  | operationFinished r env =>
    exact onOperationFinished_guarded (c := c.record (.delivered r)) (fun live => { hi live with })
      env r
  | linkChanged link env =>
    simp only [atom]
    obtain h | ⟨-, h⟩ := onLinkChanged_cases c env link
    · rw [h]
      exact hi
    · rw [h]
      exact fun _ => scheduleTimeouts_armed _
  | enabledChanged enabled =>
    simp only [atom, onEnabledChanged]
    split
    · exact hi
    · rw [changed_eq]
      exact fun live => { hi live with }
  | take =>
    simp only [atom]
    split
    · exact fun live => { hi live with }
    · exact hi
  | deliver listener change => exact fun live => { hi live with }

/-! ## Every deadline of an operation is an instant -/

/-- The deadlines of operations are instants of the clock. -/
def Dated (c : Controller) : Prop := c.stationDeadline_ ≠ ⊤ ∧ c.scanDeadline_ ≠ ⊤

@[simp] theorem dated_changed (change : Change) : Dated (c.changed change) ↔ Dated c := by
  rw [changed_eq]
  rfl

@[simp] theorem dated_connectionFailed (now : Nat) (status : Status) (failure : ConnectionFailure)
    (code : Int) (hasCode : Bool) :
    Dated (c.connectionFailed now status failure code hasCode) ↔ Dated c := by
  obtain ⟨_, _, _, _, h, -⟩ := connectionFailed_cases now status failure code hasCode c
  rw [h]
  rfl

theorem scanFinished_dated (hi : Dated c) (env : Env) (r : OperationResult) :
    Dated (c.scanFinished env r) := by
  unfold scanFinished
  extract_lets _ _ read
  split
  rename_i status c₁ heq
  have h₁ : Dated c₁ := by
    split at heq
    · split at heq <;> cases heq <;> exact hi
    · cases heq
      exact hi
  change Dated ({ c₁ with
    scanId_ := 0
    state_.scan := .kIdle
    state_.scanStatus := status }.changed .kScan)
  rw [dated_changed]
  exact h₁

theorem stationFinished_dated (hi : Dated c) (env : Env) (r : OperationResult) :
    Dated (c.stationFinished env r) := by
  obtain ⟨_, _, _, _, _, x, hx, h⟩ := stationFinished_cases env r c
  have hx : Dated x := hx ▸ hi
  rw [h]
  change Dated ((if c.Fails env r then _ else x).changed .kStation)
  rw [dated_changed]
  split
  · rw [dated_connectionFailed]
    exact hx
  · exact hx

theorem hear_dated (hi : Dated c) (env : Env) (link : LinkState) : Dated (c.hear env link) := by
  by_cases ready : link.phase = .kAddressReady
  · obtain ⟨_, _, _, _, _, _, _, h, -⟩ := hear_ready env c ready
    rw [h, dated_changed]
    exact hi
  by_cases idle : link.phase = .kIdle
  · rw [hear_idle env c idle, dated_changed]
    split
    · rw [dated_connectionFailed]
      exact hi
    · exact hi
  · rw [hear_unready env c ready idle, dated_changed]
    exact hi

theorem Effect.dated {a : Atom} {c d : Controller} (h : Effect a c d) (hi : Dated c) : Dated d := by
  cases h with
  | noted | scheduled | listened | relaxed | repeated | aimed | timedOut | scanTimedOut
  | retryIdle | taken => exact hi
  | begun enabled =>
    rw [newIntent_eq, changed_eq]
    exact hi
  | withdrawn | requested =>
    rw [newIntent_eq]
    exact hi
  | shutdown opened =>
    rw [shutdown_eq opened]
    exact hi
  | faulted =>
    rw [fault_eq]
    exact hi
  | scanQueued | scanDropped | profiles | settled | unrestored | stable | retryDenied | retryGranted
  | enabledReported =>
    rw [dated_changed]
    exact hi
  | scanCancelled | scanStarted =>
    rw [dated_changed]
    exact ⟨hi.1, WithTop.coe_ne_top⟩
  | cancelled | issued =>
    rw [dated_changed]
    exact ⟨WithTop.coe_ne_top, hi.2⟩
  | addressExpired =>
    rw [dated_changed, dated_connectionFailed]
    exact hi
  | scanFinished r env => exact scanFinished_dated hi env r
  | stationFinished r env => exact stationFinished_dated hi env r
  | linkReported => exact hear_dated hi _ _

/-! ## What the timer does about an operation that is overdue -/

/-- What the station deadline is about. -/
def stationPart (c : Controller) : Options × OperationId × Uptime × Transition × Bool :=
  (c.options_, c.stationId_, c.stationDeadline_, c.transition_, c.cancellingConnect_)

/-- What the scan deadline is about. -/
def scanPart (c : Controller) : Options × OperationId × Uptime × ScanPhase :=
  (c.options_, c.scanId_, c.scanDeadline_, c.state_.scan)

theorem checkLinkDeadlines_parts (c : Controller) (env : Env) :
    (c.checkLinkDeadlines env).stationPart = c.stationPart ∧
      (c.checkLinkDeadlines env).scanPart = c.scanPart := by
  unfold checkLinkDeadlines
  extract_lets now _ c₁ c₂
  have h₁ : c₁.stationPart = c.stationPart ∧ c₁.scanPart = c.scanPart := by
    unfold c₁
    split
    · rw [changed_eq]
      exact ⟨rfl, rfl⟩
    · exact ⟨rfl, rfl⟩
  split
  · obtain ⟨_, _, _, _, h, -⟩ := connectionFailed_cases (env.now 1) .kTimeout .kAddressTimeout 0 false c₂
    rw [h, changed_eq]
    exact h₁
  · exact h₁

/-- An overdue station operation is cancelled under a new deadline, or it faults. -/
theorem checkStationDeadline_due (env : Env) (outstanding : c.stationId_ ≠ 0)
    (due : c.stationDeadline_ ≤ ((env.now 0 : Nat) : Uptime)) :
    (c.checkStationDeadline env).faulted_ = true ∨
      c.cancellingConnect_ = false ∧ (c.checkStationDeadline env).stationPart =
        (c.options_, c.stationId_,
          ((env.now 2 + Millis c.options_.transitionTimeoutMs : Nat) : Uptime), .kConnect, true) := by
  unfold checkStationDeadline
  rw [if_pos ⟨outstanding, due⟩]
  split
  · exact .inl (by rw [fault_eq])
  rename_i h
  simp only [ne_eq, not_or, not_not, Bool.not_eq_true] at h
  dsimp only
  split
  · exact .inl (by rw [fault_eq])
  · refine .inr ⟨h.2, ?_⟩
    rw [changed_eq, ← h.1]
    rfl

theorem checkStationDeadline_scanPart (c : Controller) (env : Env) :
    (c.checkStationDeadline env).faulted_ = true ∨
      (c.checkStationDeadline env).scanPart = c.scanPart := by
  obtain h | h | ⟨_, _, _, h⟩ := checkStationDeadline_shape c env
  · exact .inl h
  · exact .inr (by rw [h])
  · rw [h, changed_eq]
    exact .inr rfl

/-- An overdue scan is cancelled under a new deadline, or it faults. -/
theorem checkScanDeadline_due (env : Env) (live : c.Live) (outstanding : c.scanId_ ≠ 0)
    (scanning : c.state_.scan = .kRunning ∨ c.state_.scan = .kCancelling)
    (due : c.scanDeadline_ ≤ ((env.now 3 : Nat) : Uptime)) :
    (c.checkScanDeadline env).faulted_ = true ∨
      c.state_.scan = .kRunning ∧ (c.checkScanDeadline env).scanPart =
        (c.options_, c.scanId_,
          ((env.now 4 + Millis c.options_.transitionTimeoutMs : Nat) : Uptime), .kCancelling) := by
  unfold checkScanDeadline
  rw [if_pos ⟨outstanding, due⟩]
  split
  · exact .inl (by rw [fault_eq])
  rename_i h
  have running := scanning.resolve_right h
  dsimp only
  split
  · exact .inl (by rw [fault_eq])
  · rename_i ok
    refine .inr ⟨running, ?_⟩
    unfold cancelScan at ok ⊢
    simp only [live.1, running, Bool.not_true, Bool.false_eq_true, if_false, reduceCtorEq, or_self]
      at ok ⊢
    split at ok
    · exact absurd (not_not.mp ok) ‹_›
    · rename_i hk
      rw [if_neg hk, changed_eq]
      rfl

theorem checkScanDeadline_stationPart (c : Controller) (env : Env) :
    (c.checkScanDeadline env).faulted_ = true ∨
      (c.checkScanDeadline env).stationPart = c.stationPart := by
  obtain h | ⟨_, _, _, _, _, _, _, _, _, h⟩ := checkScanDeadline_shape c env
  · exact .inl h
  · rw [h]
    exact .inr rfl

/-- The timer does not let an operation stay past its deadline. -/
theorem checkTimeouts_due (env : Env) (live : c.Live) :
    (c.stationId_ ≠ 0 → c.stationDeadline_ ≤ ((env.now 0 : Nat) : Uptime) →
      (c.checkTimeouts env).faulted_ = true ∨
        c.cancellingConnect_ = false ∧ (c.checkTimeouts env).stationPart =
          (c.options_, c.stationId_,
            ((env.now 2 + Millis c.options_.transitionTimeoutMs : Nat) : Uptime), .kConnect, true)) ∧
    (c.scanId_ ≠ 0 → c.state_.scan = .kRunning ∨ c.state_.scan = .kCancelling →
      c.scanDeadline_ ≤ ((env.now 3 : Nat) : Uptime) →
      (c.checkTimeouts env).faulted_ = true ∨
        c.state_.scan = .kRunning ∧ (c.checkTimeouts env).scanPart =
          (c.options_, c.scanId_,
            ((env.now 4 + Millis c.options_.transitionTimeoutMs : Nat) : Uptime), .kCancelling)) := by
  unfold checkTimeouts
  rw [if_neg (by simp [live.1, live.2])]
  extract_lets c₁ c₂ c₃
  obtain ⟨hstation, hscan⟩ := checkLinkDeadlines_parts c env
  have l₁ : c₁.Live := (checkLinkDeadlines_effects live).2
  simp only [stationPart, scanPart, Prod.mk.injEq] at hstation hscan
  obtain ⟨options, stationId, stationDeadline, -, cancelling⟩ := hstation
  obtain ⟨-, scanId, scanDeadline, scan⟩ := hscan
  constructor
  · intro outstanding due
    have hdue := checkStationDeadline_due (c := c₁) env (stationId ▸ outstanding)
      (stationDeadline ▸ due)
    rw [options, stationId, cancelling] at hdue
    split
    · exact .inl ‹_›
    rename_i sound
    split
    · exact .inl ‹_›
    rename_i sound₃
    obtain ⟨fresh, h⟩ := hdue.resolve_left sound
    exact .inr ⟨fresh, ((checkScanDeadline_stationPart c₂ env).resolve_left sound₃).trans h⟩
  · intro outstanding scanning due
    split
    · exact .inl ‹_›
    rename_i sound
    have l₂ : c₂.Live := ⟨(checkStationDeadline_effects l₁).2, by simpa using sound⟩
    have h₂ := (checkStationDeadline_scanPart c₁ env).resolve_left sound
    simp only [scanPart, Prod.mk.injEq] at h₂
    have hdue := checkScanDeadline_due (c := c₂) env l₂
      (by rw [h₂.2.1, scanId]; exact outstanding)
      (by rw [h₂.2.2.2, scan]; exact scanning) (by rw [h₂.2.2.1, scanDeadline]; exact due)
    rw [h₂.1, h₂.2.1, h₂.2.2.2, options, scanId, scan] at hdue
    split
    · exact .inl ‹_›
    · exact .inr (hdue.resolve_left ‹_›)

/-! ## Runs -/

theorem run_guarded (options : Options) (seed : UInt32) (as : List Atom) :
    Guarded (Machine.run atom (init options seed) as) ∧
      Exclusive (core false (Machine.run atom (init options seed) as)) :=
  Machine.run_invariant_all (I := fun c => Guarded c ∧ Exclusive (core false c))
    (fun _ a hi => ⟨atom_guarded hi.1 hi.2 a, atom_exclusive a hi.2⟩)
    ⟨fun live => absurd live.1 (by simp [init]), exclusive_init options seed⟩ as

theorem run_dated (options : Options) (seed : UInt32) (as : List Atom) :
    Dated (Machine.run atom (init options seed) as) :=
  effects_invariant (fun _ _ _ h => h.dated) ⟨WithTop.coe_ne_top, WithTop.coe_ne_top⟩ as

/-- **No unguarded wait.** Between calls the timer is due no later than any
deadline that counts, and the timer leaves no operation past its own: it is
cancelled under a new deadline, or the controller faults. -/
theorem no_unguarded_wait (options : Options) (seed : UInt32) (as : List Atom) :
    let c := Machine.run atom (init options seed) as
    let running := c.state_.scan = .kRunning ∨ c.state_.scan = .kCancelling
    c.running_ = true → c.faulted_ = false →
      (c.timer_ ≤ c.stableDeadline_ ∧ c.timer_ ≤ c.addressDeadline_ ∧
        (c.stationId_ ≠ 0 → c.timer_ ≤ c.stationDeadline_ ∧ c.timer_ ≠ ⊤) ∧
        (running → c.timer_ ≤ c.scanDeadline_ ∧ c.timer_ ≠ ⊤)) ∧
      ∀ env, let d := atom c (.timer env)
        (c.stationId_ ≠ 0 → c.stationDeadline_ ≤ ((env.now 0 : Nat) : Uptime) →
          d.faulted_ = true ∨
            c.cancellingConnect_ = false ∧ d.cancellingConnect_ = true ∧
              d.stationId_ = c.stationId_ ∧
              d.stationDeadline_ = (env.now 2 + Millis c.options_.transitionTimeoutMs : Nat)) ∧
        (running → c.scanDeadline_ ≤ ((env.now 3 : Nat) : Uptime) →
          d.faulted_ = true ∨
            c.state_.scan = .kRunning ∧ d.state_.scan = .kCancelling ∧ d.scanId_ = c.scanId_ ∧
              d.scanDeadline_ = (env.now 4 + Millis c.options_.transitionTimeoutMs : Nat)) := by
  intro c running hr hf
  obtain ⟨hguard, he⟩ := run_guarded options seed as
  have armed : Armed c := hguard ⟨hr, hf⟩
  obtain ⟨station, scan⟩ : Dated c := run_dated options seed as
  have hscan : running → c.scanId_ ≠ 0 := he.scanning.mpr
  have hstation : c.stationId_ ≠ 0 → c.timer_ ≤ c.stationDeadline_ ∧ c.timer_ ≠ ⊤ :=
    fun h => ⟨armed.station h, ne_top_of_le_ne_top station (armed.station h)⟩
  have hrunning : running → c.timer_ ≤ c.scanDeadline_ ∧ c.timer_ ≠ ⊤ := fun h =>
    ⟨armed.scan (hscan h), ne_top_of_le_ne_top scan (armed.scan (hscan h))⟩
  refine ⟨⟨armed.stable, armed.address, hstation, hrunning⟩, fun env => ?_⟩
  have hdue := checkTimeouts_due (c := { c with timer_ := ⊤ }) env ⟨hr, hf⟩
  have hd : c.timer_ ≠ ⊤ → atom c (.timer env) = { c with timer_ := ⊤ }.checkTimeouts env :=
    fun h => if_pos h
  constructor
  · intro outstanding due
    rw [hd (hstation outstanding).2]
    refine (hdue.1 outstanding due).imp_right fun ⟨fresh, h⟩ => ?_
    simp only [stationPart, Prod.mk.injEq] at h
    exact ⟨fresh, h.2.2.2.2, h.2.1, h.2.2.1⟩
  · intro h due
    rw [hd (hrunning h).2]
    refine (hdue.2 (hscan h) h due).imp_right fun ⟨fresh, h⟩ => ?_
    simp only [scanPart, Prod.mk.injEq] at h
    exact ⟨fresh, h.2.2.2, h.2.1, h.2.2.1⟩

/-- The first enable is guarded as soon as it is issued. -/
theorem no_unguarded_wait_test :
    let c := Machine.run atom (init {} 1) [.call .begin .willing, .work .willing]
    c.stationId_ = 1 ∧ c.timer_ ≤ c.stationDeadline_ ∧ c.timer_ ≠ ⊤ :=
  ⟨by decide, (no_unguarded_wait {} 1 [.call .begin .willing, .work .willing] (by decide)
    (by decide)).1.2.2.1 (by decide)⟩

end RooWifi.Controller
