import RooWifi.Controller.Atoms

/-! # What a call can do to the controller

`Effect` lists the edits a public call, task or callback is made of, each with
its guard and the whole record it leaves. A claim about fields that the
abstraction drops (the clock, the retry timer, the published scan, the pending
notification) is settled on these edits and lifted to calls once. -/
namespace RooWifi.Controller
open Relation (ReflTransGen)

/-! ## The helpers as single records -/

theorem changed_eq (change : Change) : ∀ c : Controller, c.changed change = { c with
    pendingChanges_ := if c.running_ then c.pendingChanges_.raise change else c.pendingChanges_
    notify_ := c.running_ || c.notify_ }
  | { running_ := true, .. } => rfl
  | { running_ := false, .. } => rfl

theorem newIntent_eq (c : Controller) : c.newIntent = { c with
    state_.revision := c.state_.revision + 1
    state_.status := .kOk
    state_.nativeCode := 0
    state_.hasNativeCode := false
    state_.retry := {}
    reconnect_ := ⊤
    retryLevel_ := 0
    stableDeadline_ := ⊤
    addressDeadline_ := ⊤
    pendingChanges_ := if c.running_ then c.pendingChanges_.raise .kStation else c.pendingChanges_
    notify_ := c.running_ || c.notify_
    work_ := true
    trace := .intent (c.state_.revision + 1) :: c.trace } := by
  simp only [newIntent, cancelRetry, changed_eq, record]

theorem fault_eq (status : Status) (c : Controller) : c.fault status = { c with
    faulted_ := true
    state_.status := status
    state_.scanStatus := if c.isScanning then status else c.state_.scanStatus
    state_.scan := .kIdle
    state_.retry.pending := false
    state_.retry.nextAttempt := ⊤
    scanId_ := 0
    stationId_ := 0
    transition_ := .kNone
    credentials_ := {}
    timer_ := ⊤
    reconnect_ := ⊤
    stableDeadline_ := ⊤
    addressDeadline_ := ⊤
    pendingChanges_ := if c.running_ then
        (if c.isScanning then c.pendingChanges_.raise .kScan else c.pendingChanges_).raise .kStation
      else c.pendingChanges_
    notify_ := c.running_ || c.notify_
    trace := .fault status :: c.trace } := by
  unfold fault
  by_cases h : c.state_.scan = .kIdle
  · simp [changed_eq, cancelRetry, record, isScanning, h]
  · cases hr : c.running_ <;> simp [changed_eq, cancelRetry, record, isScanning, h]

theorem shutdown_eq {c : Controller} (opened : c.closed_ = false) : c.shutdown = { c with
    closed_ := true
    work_ := false
    timer_ := ⊤
    reconnect_ := ⊤
    notify_ := false
    pendingChanges_ := {}
    running_ := false
    credentials_ := {}
    snapshot_ := {}
    state_ := {}
    stationId_ := 0
    scanId_ := 0
    transition_ := .kNone
    trace := if c.running_ then .shutdown :: c.trace else c.trace } := by
  unfold shutdown
  cases hr : c.running_ <;> simp [opened, hr, record]

/-- A failure touches the outcome and the retry state of the station, and takes
both link deadlines away. -/
theorem connectionFailed_cases (now : Nat) (status : Status) (failure : ConnectionFailure)
    (code : Int) (hasCode : Bool) (c : Controller) :
    ∃ (retry : RetryState) (level : Nat) (jitter : UInt32) (reconnect : Uptime),
      c.connectionFailed now status failure code hasCode = { c with
        state_.status := status
        state_.nativeCode := code
        state_.hasNativeCode := hasCode
        state_.retry := retry
        retryLevel_ := level
        jitterState_ := jitter
        reconnect_ := reconnect
        stableDeadline_ := ⊤
        addressDeadline_ := ⊤ } ∧
      retry.lastStatus = status ∧
      (retry.pending = c.state_.retry.pending ∧
          retry.nextAttempt = c.state_.retry.nextAttempt ∧ level = c.retryLevel_ ∨
        retry.pending = true ∧ level ≤ c.retryLevel_ + 1 ∧ c.autoConnect_ = true ∧
          c.state_.desired = .kConnected ∧ (status = .kConnectionFailed ∨ status = .kTimeout)) := by
  unfold connectionFailed
  extract_lets _ _ c₁
  split
  · rename_i h
    refine ⟨_, _, _, _, rfl, rfl, .inr ⟨rfl, ?_, h⟩⟩
    change (if c.retryLevel_ < 5 then c.retryLevel_ + 1 else c.retryLevel_) ≤ c.retryLevel_ + 1
    split <;> omega
  · exact ⟨c₁.state_.retry, c₁.retryLevel_, c₁.jitterState_, c₁.reconnect_, rfl, rfl,
      .inl ⟨rfl, rfl, rfl⟩⟩

/-- Native admission is open. -/
def Live (c : Controller) : Prop := c.running_ = true ∧ c.faulted_ = false

theorem live_of_not {c : Controller} (h : ¬ (!c.running_ || c.faulted_) = true) : c.Live := by
  simpa [Live] using h

theorem live_of_admission {c : Controller} (h : ¬ c.admission ≠ .kOk) : c.Live :=
  ⟨(core_admits (d := false) h).running, (core_admits (d := false) h).faulted⟩

/-! ## Effects -/

/-- Trace entries that are no part of a request, a connect or its memory, and
no fault. -/
def Action.plain : Action → Bool
  | .intent _ | .requested .. | .connect .. | .writeLastProfile .. | .fault _ => false
  | _ => true

/-- The calls that can end in a connection request: it is also made to restore
the last profile. -/
def Atom.requests : Atom → Bool
  | .call .. | .work _ => true
  | _ => false

/-- A native completion, or the answer that refused a command just given: a
connect is only tried without a link. -/
def Atom.Completes (a : Atom) (r : OperationResult) (env : Env) (c : Controller) : Prop :=
  a = .operationFinished r env ∨
    a = .work env ∧ r.status ≠ .kOk ∧ (c.transition_ = .kConnect → c.state_.link.phase = .kIdle)

/-- What an accepted report leaves, before the timeouts are armed again. -/
def hear (env : Env) (link : LinkState) (c : Controller) : Controller :=
  (({ c with state_.link := link }.observeAddress (env.now 0) c.state_.link.phase link).observeLoss
    (env.now 1) c.state_.link.phase link).changed .kStation

inductive Effect : Atom → Controller → Controller → Prop
  | noted {a c} (act : Action) (h : act.plain = true) : Effect a c (c.record act)
  | scheduled {a c} (work : Bool) (timer reconnect : Uptime) :
      Effect a c { c with work_ := work, timer_ := timer, reconnect_ := reconnect }
  -- public calls
  | listened {call env c} (listeners : List Nat)
      (distinct : c.listeners_.Nodup → listeners.Nodup) :
      Effect (.call call env) c { c with listeners_ := listeners }
  | begun {env c} (enabled : Bool) (fresh : c.running_ = false) (opened : c.closed_ = false) :
      Effect (.call .begin env) c ({ c with
        running_ := true
        state_.desired := if enabled then .kDisconnected else .kDisabled
        restoreProfile_ := enabled }.changed .kProfiles).newIntent
  | shutdown {env c} (opened : c.closed_ = false) : Effect (.call .shutdown env) c c.shutdown
  | withdrawn {call env c} (desired : Target) (restore : Bool) (live : c.Live)
      (offline : desired ≠ .kConnected) :
      Effect (.call call env) c { c with
        state_.desired := desired
        state_.desiredProfile := {}
        credentials_ := {}
        autoConnect_ := false
        restoreProfile_ := restore }.newIntent
  | relaxed {a c} (h : a.requests = true) (restore automatic : Bool) :
      Effect a c { c with restoreProfile_ := restore, autoConnect_ := automatic }
  | requested {a c} (config : ConnectionConfig) (credentials : Credentials) (profile : Ssid)
      (automatic : Bool) (h : a.requests = true) (live : c.Live) :
      Effect a c ({ c with
        config_ := config
        credentials_ := credentials
        state_.desired := .kConnected
        state_.desiredProfile := profile
        autoConnect_ := automatic
        restoreProfile_ := false }.newIntent.record (.requested config credentials profile automatic))
  | repeated {a c} (config : ConnectionConfig) (credentials : Credentials) (profile : Ssid)
      (automatic : Bool) (h : a.requests = true) (live : c.Live)
      (connected : c.state_.desired = .kConnected)
      (target : c.state_.desiredProfile.eq profile = true) :
      Effect a c ({ c with autoConnect_ := automatic }.record
        (.requested config credentials profile automatic))
  | scanQueued {env c} (live : c.Live) (idle : c.state_.scan = .kIdle) :
      Effect (.call .startScan env) c ({ c with
        state_.scan := .kQueued
        state_.scanStatus := .kOk
        state_.scanRevision := c.state_.scanRevision + 1
        scanTimedOut_ := false }.changed .kScan)
  | scanDropped {a c} (running : c.running_ = true) (queued : c.state_.scan = .kQueued) :
      Effect a c ({ c with state_.scan := .kIdle, state_.scanStatus := .kCancelled }.changed .kScan)
  | scanCancelled {a c} (deadline : Nat) (running : c.running_ = true)
      (scanning : c.state_.scan = .kRunning) :
      Effect a c ({ c with
        state_.scan := .kCancelling
        scanDeadline_ := (deadline : Nat) }.changed .kScan)
  | profiles {call env c} (running : c.running_ = true) :
      Effect (.call call env) c ({ c with
        state_.profilesGeneration := c.state_.profilesGeneration + 1 }.changed .kProfiles)
  -- commands and deadlines
  | faulted {a c} (status : Status) (live : c.Live) (notOk : status ≠ .kOk) :
      Effect a c (c.fault status)
  | cancelled {a c} (deadline : Nat) (live : c.Live) (connecting : c.transition_ = .kConnect)
      (fresh : c.cancellingConnect_ = false) :
      Effect a c ({ c with
        cancellingConnect_ := true
        stationDeadline_ := (deadline : Nat) }.changed .kStation)
  | aimed {env c} (live : c.Live) (free : c.transition_ = .kNone) :
      Effect (.work env) c { c with
        activeRevision_ := c.state_.revision
        stationTimedOut_ := false }
  | issued {env c} (t : Transition) (enabled : Bool) (attempts deadline : Nat)
      (act : Action) (live : c.Live) (free : c.transition_ = .kNone) (real : t ≠ .kNone)
      (noRetry : c.state_.retry.pending = false) (aim : c.activeRevision_ = c.state_.revision)
      (command : if t = .kConnect then c.state_.link.phase = .kIdle ∧
          c.state_.desired = .kConnected ∧
          ∃ status, act = .connect c.nextId_ c.config_ c.credentials_ status
        else act.plain = true) :
      Effect (.work env) c (({ c with
        transition_ := t
        transitionEnabled_ := enabled
        state_.retry.attemptCount := attempts
        stationId_ := c.nextId_
        nextId_ := (c.nextId_ + 1) % 2 ^ 64
        stationDeadline_ := (deadline : Nat) }.record act).changed .kStation)
  | settled {env c} (live : c.Live) :
      Effect (.work env) c ({ c with attemptedRevision_ := c.state_.revision }.changed .kStation)
  | unrestored {env c} (status : Status) :
      Effect (.work env) c ({ c with state_.status := status }.changed .kStation)
  | scanStarted {env c} (deadline : Nat) (act : Action) (h : act.plain = true)
      (free : c.transition_ = .kNone) (queued : c.state_.scan = .kQueued) :
      Effect (.work env) c (({ c with
        scanId_ := c.nextId_
        nextId_ := (c.nextId_ + 1) % 2 ^ 64
        state_.scan := .kRunning
        scanDeadline_ := (deadline : Nat) }.record act).changed .kScan)
  | timedOut {env c} (failure : ConnectionFailure) (live : c.Live)
      (connecting : c.transition_ = .kConnect) :
      Effect (.timer env) c { c with stationTimedOut_ := true, timeoutFailure_ := failure }
  | scanTimedOut {env c} (live : c.Live) (outstanding : c.scanId_ ≠ 0)
      (uncancelled : c.state_.scan ≠ .kCancelling) :
      Effect (.timer env) c { c with scanTimedOut_ := true }
  | stable {env c} (live : c.Live) (due : ((env.now 0 : Nat) : Uptime) ≥ c.stableDeadline_) :
      Effect (.timer env) c ({ c with
        stableDeadline_ := ⊤
        state_.retry := {}
        retryLevel_ := 0 }.changed .kStation)
  | addressExpired {env c} (live : c.Live)
      (due : ((env.now 0 : Nat) : Uptime) ≥ c.addressDeadline_) :
      Effect (.timer env) c (({ c with addressDeadline_ := ⊤ }.record
        (.failed c.state_.link.connectionId)).connectionFailed (env.now 1) .kTimeout
          .kAddressTimeout 0 false |>.changed .kStation)
  -- completions
  | scanFinished {a c} (r : OperationResult) (env : Env) (source : a.Completes r env c)
      (h : (core false c).CompletesScan r) : Effect a c (c.scanFinished env r)
  | stationFinished {a c} (r : OperationResult) (env : Env) (source : a.Completes r env c)
      (h : (core false c).Completes r) : Effect a c (c.stationFinished env r)
  -- the retry timer
  | retryIdle {env c}
      (h : c.running_ = true → c.faulted_ = true ∨ c.state_.desired ≠ .kConnected ∨
        c.autoConnect_ = false) :
      Effect (.reconnect env) c c.cancelRetry
  | retryDenied {env c} (status : Status) (live : c.Live) :
      Effect (.reconnect env) c ({ c.cancelRetry with
        autoConnect_ := false
        state_.status := status }.changed .kStation)
  | retryGranted {env c} (live : c.Live) :
      Effect (.reconnect env) c ({ c.cancelRetry with
        attemptedRevision_ := 0
        state_.status := .kOk
        state_.nativeCode := 0
        state_.hasNativeCode := false }.changed .kStation)
  -- observations
  | enabledReported {enabled c} (live : c.Live) :
      Effect (.enabledChanged enabled) c ({ c with state_.enabled := enabled }.changed .kStation)
  | linkReported {link env c} (h : (core false c).Hears link) :
      Effect (.linkChanged link env) c (c.hear env link)
  | taken {c} : Effect .take c { c with notify_ := false, pendingChanges_ := {} }

/-- What one call does, edit by edit. -/
abbrev Effects (a : Atom) : Controller → Controller → Prop := ReflTransGen (Effect a)

variable {c : Controller} {a : Atom} {env : Env}

/-! ## Public calls -/

theorem Effects.record {d : Controller} (h : Effects a c d) (act : Action)
    (plain : act.plain = true := by rfl) : Effects a c (d.record act) :=
  h.tail (.noted act plain)

/-- Edits followed by a change of what is scheduled. -/
theorem Effects.schedule {d : Controller} (h : Effects a c d) (work : Bool)
    (timer reconnect : Uptime) :
    Effects a c { d with work_ := work, timer_ := timer, reconnect_ := reconnect } :=
  h.tail (.scheduled work timer reconnect)

theorem requestConnection_effects (ha : a.requests = true) (config : ConnectionConfig)
    (credentials : Credentials) (profile : Ssid) (automatic : Bool) :
    Effects a c (c.requestConnection env config credentials profile automatic).2 := by
  unfold requestConnection
  split
  · exact .refl
  rename_i live
  have live := live_of_admission live
  split
  · exact .refl
  split
  · exact .refl
  split
  · exact .refl
  dsimp only
  split
  · rename_i h
    exact .single (.repeated config credentials profile automatic ha live h.1 h.2.2.1)
  · exact .single (.requested config credentials profile automatic ha live)

theorem connectSaved_effects (ha : a.requests = true) (nth : Nat) (ssid : Ssid) :
    Effects a c (c.connectSaved env nth ssid).2 := by
  obtain ⟨-, h⟩ | ⟨-, config, credentials, automatic, h⟩ := connectSaved_cases (c := c) env nth ssid
  · rw [h]
  · rw [h]
    exact requestConnection_effects ha config credentials ssid automatic

theorem cancelScan_effects (now : Nat) : Effects a c (c.cancelScan env now).2 := by
  unfold cancelScan
  split
  · exact .refl
  rename_i hr
  have running : c.running_ = true := by simpa using hr
  split
  · exact .refl
  rename_i hs
  split
  · rename_i hq
    exact Effects.schedule (.single (.scanDropped running hq)) _ _ _
  rename_i hq
  have scanning : c.state_.scan = .kRunning := by
    cases h : c.state_.scan <;> simp_all
  have noted : Effects a c (c.record (.cancelScan env.cancelScan)) := Effects.record .refl _
  dsimp only
  split
  · exact noted
  · exact Effects.schedule (noted.tail (.scanCancelled _ running scanning)) _ _ _

theorem perform_effects (env : Env) (call : Call) :
    Effects (.call call env) c (c.perform env call).2 := by
  cases call with
  | begin =>
    simp only [perform, begin]
    split
    · exact .refl
    rename_i opened
    split
    · exact .refl
    rename_i fresh
    split
    · exact .refl
    split
    · exact .refl
    split
    · exact Effects.record .refl _
    · exact (Effects.record .refl (.begin env.interfaceBegin)).tail
        (.begun _ (by simpa [Controller.record] using fresh)
          (by simpa [Controller.record] using opened))
  | shutdown =>
    cases h : c.closed_ with
    | true =>
      have he : (c.perform env .shutdown).2 = c := by simp [perform, Controller.shutdown, h]
      rw [he]
    | false => exact .single (.shutdown h)
  | setEnabled enabled =>
    simp only [perform, setEnabled]
    split
    · exact .refl
    rename_i live
    split
    · exact .refl
    · exact .single (.withdrawn _ enabled (live_of_admission live) (by split <;> simp))
  | connect config credentials => exact requestConnection_effects rfl config credentials {} false
  | connectSaved ssid => exact connectSaved_effects rfl 0 ssid
  | disconnect =>
    simp only [perform, disconnect]
    split
    · exact .refl
    rename_i live
    split
    · exact .single (.relaxed rfl false false)
    · split
      · exact .single (.withdrawn .kDisconnected false (live_of_admission live) (by simp))
      · rename_i hd
        refine .single (.withdrawn c.state_.desired false (live_of_admission live) fun h => ?_)
        exact absurd (h.symm.trans (not_not.mp hd)) (by simp)
  | startScan =>
    simp only [perform, startScan]
    split
    · exact .refl
    rename_i live
    split
    · exact .refl
    split
    · exact .refl
    rename_i h
    have idle : c.state_.scan = .kIdle := by
      simpa [isScanning] using (not_or.mp h).1
    exact Effects.schedule (.single (.scanQueued (live_of_admission live) idle)) _ _ _
  | cancelScan => exact cancelScan_effects (env.now 0)
  | saveProfile settings update =>
    simp only [perform, saveProfile]
    split
    · exact .refl
    rename_i hr
    split
    · exact .refl
    · exact (Effects.record .refl (.saveProfile settings update env.saveProfile)).tail
        (.profiles (by simpa [Controller.record] using hr))
  | removeProfile ssid =>
    simp only [perform, removeProfile]
    split
    · exact .refl
    rename_i hr
    split
    · exact .refl
    · exact (Effects.record .refl (.removeProfile ssid env.removeProfile)).tail
        (.profiles (by simpa [Controller.record] using hr))
  | addListener listener =>
    simp only [perform, addListener]
    split
    · exact .refl
    · rename_i fresh
      refine .single (.listened _ fun distinct => distinct.append (List.nodup_singleton _) ?_)
      simpa using fresh
  | removeListener listener => exact .single (.listened _ fun distinct => distinct.filter _)

theorem request_effects (env : Env) (call : Call) :
    Effects (.call call env) c (c.request env call) :=
  Effects.record (perform_effects env call) _

/-! ## Callbacks of the interface -/

theorem onOperationFinished_effects {r : OperationResult} (source : a.Completes r env c) :
    Effects a c (c.onOperationFinished env r) := by
  obtain ⟨h, he⟩ | ⟨h, he⟩ | ⟨-, -, he⟩ := onOperationFinished_cases (d := false) (c := c) env r
  · rw [he]
    exact .single (.scanFinished r env source h)
  · rw [he]
    exact .single (.stationFinished r env source h)
  · rw [he]

theorem onEnabledChanged_effects (enabled : Bool) :
    Effects (.enabledChanged enabled) c (c.onEnabledChanged enabled) := by
  unfold onEnabledChanged
  split
  · exact .refl
  · exact .single (.enabledReported (live_of_not ‹_›))

/-- A report is dropped unless it is heard. -/
theorem onLinkChanged_cases (c : Controller) (env : Env) (link : LinkState) :
    c.onLinkChanged env link = c ∨
      (core false c).Hears link ∧ c.onLinkChanged env link = (c.hear env link).scheduleTimeouts := by
  unfold onLinkChanged
  split
  · exact .inl rfl
  rename_i live
  have live := live_of_not live
  split
  · exact .inl rfl
  rename_i hid
  refine .inr ⟨⟨live.1, live.2, ?_⟩, rfl⟩
  by_cases h : link.connectionId = c.state_.link.connectionId
  · exact .inl h
  · exact .inr (show c.transition_ = .kConnect ∧ link.connectionId = c.stationId_ by
      simpa [h] using hid)

theorem onLinkChanged_eq {link : LinkState} (h : (core false c).Hears link) :
    c.onLinkChanged env link = (c.hear env link).scheduleTimeouts := by
  obtain ⟨running, sound, current⟩ := h
  have running : c.running_ = true := running
  have sound : c.faulted_ = false := sound
  have current : link.connectionId = c.state_.link.connectionId ∨
      c.transition_ = .kConnect ∧ link.connectionId = c.stationId_ := current
  unfold onLinkChanged
  rw [if_neg (by simp [running, sound]), if_neg (by simpa [or_iff_not_imp_left] using current)]
  rfl

theorem onLinkChanged_effects (link : LinkState) :
    Effects (.linkChanged link env) c (c.onLinkChanged env link) := by
  obtain h | ⟨hears, h⟩ := onLinkChanged_cases c env link
  · rw [h]
  · rw [h]
    exact Effects.schedule (.single (.linkReported hears)) _ _ _

/-! ## Timers -/

theorem retry_effects : Effects (.reconnect env) c (c.retry env) := by
  unfold retry
  extract_lets c₁
  have fired : Effects (.reconnect env) c (c.record .retryFired) := Effects.record .refl _
  split
  · rename_i h
    refine fired.tail (.retryIdle (c := c.record .retryFired) fun hr => ?_)
    have hr' : c₁.running_ = true := hr
    have h' : c₁.faulted_ = true ∨ c₁.state_.desired ≠ .kConnected ∨ c₁.autoConnect_ = false := by
      simpa [hr', or_assoc] using h
    exact h'
  rename_i h
  have live : c.Live := live_of_not fun hn => h (by
    have hn : (!c₁.running_ || c₁.faulted_) = true := hn
    simp [hn])
  cases c₁.loadProfile env 0 c₁.state_.desiredProfile with
  | mk status profile =>
    have loaded := fired.record (.reloaded c.state_.desiredProfile status
      profile.settings.autoConnect)
    dsimp only
    split
    · split
      · exact loaded.tail (.retryDenied status live)
      · exact loaded.tail (.retryDenied c.state_.status live)
    · exact Effects.schedule (loaded.tail (.retryGranted live)) true _ _

theorem checkLinkDeadlines_effects (live : c.Live) :
    Effects (.timer env) c (c.checkLinkDeadlines env) ∧ (c.checkLinkDeadlines env).Live := by
  unfold checkLinkDeadlines
  extract_lets now _ c₁ c₂
  have h₁ : Effects (.timer env) c c₁ ∧ c₁.Live := by
    unfold c₁
    split
    · rename_i due
      exact ⟨.single (.stable live due), by rw [changed_eq]; exact live⟩
    · exact ⟨.refl, live⟩
  split
  · rename_i due
    refine ⟨h₁.1.tail (.addressExpired h₁.2 due), ?_⟩
    obtain ⟨retry, level, jitter, reconnect, he, -⟩ :=
      c₂.connectionFailed_cases (env.now 1) .kTimeout .kAddressTimeout 0 false
    rw [he, changed_eq]
    exact h₁.2
  · exact h₁

theorem checkStationDeadline_effects (live : c.Live) :
    Effects (.timer env) c (c.checkStationDeadline env) ∧
      (c.checkStationDeadline env).running_ = true := by
  unfold checkStationDeadline
  split
  · split
    · exact ⟨.single (.faulted _ live (by simp)), by rw [fault_eq]; exact live.1⟩
    rename_i ht
    simp only [ne_eq, not_or, Classical.not_not, Bool.not_eq_true] at ht
    have expired : ∀ failure, Effects (.timer env) c ({ c with
        stationTimedOut_ := true
        timeoutFailure_ := failure }.record (.cancelConnect env.cancelConnect)) :=
      fun failure => Effects.record (.single (.timedOut failure live ht.1)) _
    dsimp only
    split
    · exact ⟨(expired _).tail (.faulted _ live (by simp)), by rw [fault_eq]; exact live.1⟩
    · exact ⟨(expired _).tail (.cancelled _ live ht.1 ht.2), by rw [changed_eq]; exact live.1⟩
  · exact ⟨.refl, live.1⟩

theorem cancelScan_frame (env : Env) (now : Nat) (live : c.Live) :
    (c.cancelScan env now).2.Live ∧ (c.cancelScan env now).2.transition_ = c.transition_ := by
  obtain ⟨h, -⟩ | ⟨-, -, h⟩ | ⟨-, -, h⟩ | ⟨-, -, h⟩ := cancelScan_cases (d := false) env now live.1
  · rw [h]
    exact ⟨live, rfl⟩
  all_goals
    exact ⟨⟨(congrArg Core.running h).trans live.1, (congrArg Core.faulted h).trans live.2⟩,
      congrArg Core.transition h⟩

theorem checkScanDeadline_effects (live : c.Live) :
    Effects (.timer env) c (c.checkScanDeadline env) := by
  unfold checkScanDeadline
  split
  · rename_i due
    split
    · exact .single (.faulted _ live (by simp))
    rename_i uncancelled
    have expired : Effects (.timer env) c ({ c with scanTimedOut_ := true }.cancelScan env
        (env.now 4)).2 :=
      (ReflTransGen.single (.scanTimedOut live due.1 uncancelled)).trans (cancelScan_effects _)
    dsimp only
    split
    · exact expired.tail (.faulted _ (cancelScan_frame (c := { c with scanTimedOut_ := true })
        env (env.now 4) live).1 (by simp))
    · exact expired
  · exact .refl

theorem checkTimeouts_effects : Effects (.timer env) c (c.checkTimeouts env) := by
  unfold checkTimeouts
  split
  · exact .refl
  rename_i live
  have live := live_of_not live
  extract_lets c₁ c₂ c₃
  obtain ⟨h₁, l₁⟩ : Effects (.timer env) c c₁ ∧ c₁.Live := checkLinkDeadlines_effects live
  obtain ⟨h₂, r₂⟩ : Effects (.timer env) c₁ c₂ ∧ c₂.running_ = true :=
    checkStationDeadline_effects l₁
  split
  · exact h₁.trans h₂
  rename_i sound
  have h₃ : Effects (.timer env) c₂ c₃ :=
    checkScanDeadline_effects ⟨r₂, by simpa using sound⟩
  split
  · exact (h₁.trans h₂).trans h₃
  · exact Effects.schedule ((h₁.trans h₂).trans h₃) _ _ _

/-! ## The work task -/

theorem supersede_effects (live : c.Live) :
    Effects (.work env) c (c.supersede env) ∧ (c.supersede env).running_ = true := by
  unfold supersede
  split
  · rename_i h
    have noted : Effects (.work env) c (c.record (.cancelConnect env.cancelConnect)) :=
      Effects.record .refl _
    dsimp only
    split
    · rename_i refused
      exact ⟨noted.tail (.faulted _ live refused), by rw [fault_eq]; exact live.1⟩
    · exact ⟨noted.tail (.cancelled _ live h.1 (by simpa [Controller.record] using h.2.2)),
        by rw [changed_eq]; exact live.1⟩
  · exact ⟨.refl, live.1⟩

theorem executeScan_effects :
    Effects (.work env) c (c.executeScan env) := by
  unfold executeScan
  extract_lets _ c₁ c₂ c₃ c₄
  have h₄ : Effects (.work env) c c₄ := by
    unfold c₄
    split
    · rename_i h
      have started : Effects (.work env) c c₃ :=
        .single (.scanStarted _ _ rfl h.1 h.2)
      split
      · rename_i refused
        have free : c₃.transition_ = .kNone := by
          rw [show c₃ = c₂.changed .kScan from rfl, changed_eq]
          exact h.1
        exact started.trans (onOperationFinished_effects
          (.inr ⟨rfl, refused, fun hc => absurd (free.symm.trans hc) (by simp)⟩))
      · exact started
    · exact .refl
  exact Effects.schedule h₄ _ _ _

/-- A chosen transition becomes a command; a refused one is completed at once. -/
theorem issueStation_effects {x : Controller} (t : Transition) (enabled : Bool) (attempts : Nat)
    (hx : x = { c with
      transition_ := t
      transitionEnabled_ := enabled
      state_.retry.attemptCount := attempts })
    (live : c.Live) (free : c.transition_ = .kNone) (noRetry : c.state_.retry.pending = false)
    (aim : c.activeRevision_ = c.state_.revision) (real : t ≠ .kNone)
    (wanted : t = .kConnect → c.state_.link.phase = .kIdle ∧ c.state_.desired = .kConnected) :
    Effects (.work env) c (x.issueStation env) := by
  unfold issueStation
  extract_lets c₁
  have submitted : ∃ act, (c₁.submitStation env).2 = c₁.record act ∧
      if t = .kConnect then c.state_.link.phase = .kIdle ∧ c.state_.desired = .kConnected ∧
        ∃ status, act = .connect c.nextId_ c.config_ c.credentials_ status
      else act.plain = true := by
    subst hx
    cases t with
    | kNone => exact absurd rfl real
    | kConnect => exact ⟨_, rfl, (wanted rfl).1, (wanted rfl).2, env.connect, rfl⟩
    | kEnable | kDisconnect => exact ⟨_, rfl, rfl⟩
  obtain ⟨act, hact, command⟩ := submitted
  split
  rename_i status c₂ heq
  obtain rfl : c₂ = c₁.record act := hact ▸ (congrArg Prod.snd heq).symm
  have issued : Effects (.work env) c ((c₁.record act).changed .kStation) := by
    subst hx
    exact .single (.issued t enabled attempts _ act live free real noRetry aim command)
  dsimp only
  split
  · rename_i refused
    refine issued.trans (onOperationFinished_effects (.inr ⟨rfl, refused, fun hc => ?_⟩))
    subst hx
    rw [changed_eq] at hc ⊢
    exact (wanted hc).1
  · exact issued

theorem restoreProfile_effects : Effects (.work env) c (c.restoreProfile env) := by
  unfold restoreProfile
  extract_lets c'
  have relaxed : Effects (.work env) c c' := .single (.relaxed rfl false c.autoConnect_)
  split
  rename_i status ssid _
  split
  · exact relaxed
  dsimp only
  have restored : Effects (.work env) c (c'.restoreLast env status ssid).2 := by
    obtain h | ⟨-, config, credentials, automatic, h⟩ := restoreLast_cases (c := c') env status ssid
    · rw [h]
      exact relaxed
    · rw [h]
      exact relaxed.trans (requestConnection_effects rfl config credentials ssid automatic)
  split
  · exact restored.tail (.unrestored _)
  · exact restored

theorem executeStation_effects (needsStation : Bool) (live : c.Live)
    (free : c.transition_ = .kNone) : Effects (.work env) c (c.executeStation env needsStation) := by
  unfold executeStation
  split
  · rename_i h
    have noRetry : c.state_.retry.pending = false := by simpa using h.2
    extract_lets c₁
    have aimed : Effects (.work env) c c₁ := .single (.aimed live free)
    split
    · exact aimed.trans ((issueStation_effects (c := c₁) .kDisconnect c.transitionEnabled_
        c.state_.retry.attemptCount rfl live free noRetry rfl (by simp) (by simp)).trans
        executeScan_effects)
    rename_i idle
    split
    · exact aimed.trans ((issueStation_effects (c := c₁) .kEnable _ c.state_.retry.attemptCount rfl
        live free noRetry rfl (by simp) (by simp)).trans executeScan_effects)
    split
    · exact Effects.schedule (aimed.trans restoreProfile_effects) _ _ _
    split
    · rename_i wanted
      exact aimed.trans ((issueStation_effects (c := c₁) .kConnect c.transitionEnabled_ _ rfl live
        free noRetry rfl (by simp) fun _ => ⟨not_not.mp idle, wanted⟩).trans executeScan_effects)
    · exact (aimed.tail (.settled live)).trans executeScan_effects
  · exact executeScan_effects

theorem executeIdle_effects (live : c.Live) (free : c.transition_ = .kNone) :
    Effects (.work env) c (c.executeIdle env) := by
  unfold executeIdle
  extract_lets needs
  split
  · have given : Effects (.work env) c (c.cancelScan env (env.now 1)).2 := cancelScan_effects _
    obtain ⟨live', free'⟩ := cancelScan_frame env (env.now 1) live
    dsimp only
    split
    · have faulted := given.tail (.faulted _ live' ‹_›)
      have hf : ((c.cancelScan env (env.now 1)).2.fault (c.cancelScan env (env.now 1)).1).faulted_ =
          true := by rw [fault_eq]
      rw [if_pos (by simp [hf])]
      exact faulted
    · split
      · exact given
      · exact given.trans (executeStation_effects needs live' (free'.trans free))
  · exact executeStation_effects needs live free

theorem execute_effects : Effects (.work env) c (c.execute env) := by
  unfold execute
  split
  · exact .refl
  rename_i live
  have live := live_of_not live
  split
  · exact .single (.faulted _ live (by simp))
  extract_lets c₁
  obtain ⟨h₁, r₁⟩ : Effects (.work env) c c₁ ∧ c₁.running_ = true := supersede_effects live
  split
  · exact h₁
  rename_i sound
  split
  · exact Effects.schedule h₁ _ _ _
  · rename_i free
    exact h₁.trans (executeIdle_effects ⟨r₁, by simpa using sound⟩ (not_not.mp free))

/-- **A call is a list of effects.** -/
theorem atom_effects (c : Controller) (a : Atom) : Effects a c (atom c a) := by
  cases a with
  | call call env => exact request_effects env call
  | work env =>
    simp only [atom]
    split
    · exact (ReflTransGen.single (.scheduled false c.timer_ c.reconnect_)).trans execute_effects
    · exact .refl
  | timer env =>
    simp only [atom]
    split
    · exact (ReflTransGen.single (.scheduled c.work_ ⊤ c.reconnect_)).trans checkTimeouts_effects
    · exact .refl
  | reconnect env =>
    simp only [atom]
    split
    · exact (ReflTransGen.single (.scheduled c.work_ c.timer_ ⊤)).trans retry_effects
    · exact .refl
  | operationFinished r env =>
    exact (Effects.record .refl (.delivered r)).trans (onOperationFinished_effects (.inl rfl))
  | linkChanged link env => exact onLinkChanged_effects link
  | enabledChanged enabled => exact onEnabledChanged_effects enabled
  | take =>
    simp only [atom]
    split
    · exact .single .taken
    · exact .refl
  | deliver listener change => exact Effects.record .refl _

/-! ## The larger effects, case by case -/

/-- What a station transition ends with, before anything is stored. -/
def outcome (r : OperationResult) (c : Controller) : Status :=
  if c.stationTimedOut_ then .kTimeout else r.status

/-- The completion makes the current intent a connected one. -/
def Succeeds (r : OperationResult) (c : Controller) : Prop :=
  c.transition_ = .kConnect ∧ c.activeRevision_ = c.state_.revision ∧ c.outcome r = .kOk

/-- What a finished connect ends with once its profile was stored. -/
def connectStatus (env : Env) (r : OperationResult) (c : Controller) : Status :=
  if c.outcome r = .kOk ∧ c.state_.desiredProfile.size ≠ 0 then env.writeLastProfile
  else c.outcome r

/-- The completion is a failure of the connect for the current intent. -/
def Fails (env : Env) (r : OperationResult) (c : Controller) : Prop :=
  c.transition_ = .kConnect ∧ c.activeRevision_ = c.state_.revision ∧
    c.connectStatus env r ≠ .kOk ∧ c.connectStatus env r ≠ .kCancelled

instance (r : OperationResult) (c : Controller) : Decidable (c.Succeeds r) :=
  inferInstanceAs (Decidable (_ ∧ _))

instance (env : Env) (r : OperationResult) (c : Controller) : Decidable (c.Fails env r) :=
  inferInstanceAs (Decidable (_ ∧ _))

/-- What a completion stores. -/
def stored (env : Env) (r : OperationResult) (c : Controller) : List Action :=
  if c.transition_ = .kEnable ∧ c.outcome r = .kOk then
    [.writeEnabled c.state_.enabled env.writeEnabled]
  else if c.Succeeds r ∧ c.state_.desiredProfile.size ≠ 0 then
    [.writeLastProfile c.state_.desiredProfile env.writeLastProfile]
  else []

theorem conclude_eq (env : Env) (r : OperationResult) (completed : Transition) (status : Status)
    (c : Controller) : c.conclude env r completed status =
      let x : Controller := { c with
        state_.status := status
        state_.nativeCode := r.nativeCode
        state_.hasNativeCode := r.hasNativeCode
        attemptedRevision_ := if completed = .kConnect ∨ status ≠ .kOk then c.state_.revision
          else c.attemptedRevision_ }
      if completed = .kConnect ∧ status ≠ .kOk ∧ status ≠ .kCancelled then
        (x.record (.failed r.id)).connectionFailed (env.now 4) status
          (if c.stationTimedOut_ then c.timeoutFailure_ else r.failure) r.nativeCode r.hasNativeCode
      else x := by
  unfold conclude
  by_cases h : completed = .kConnect ∨ status ≠ .kOk
  · simp only [if_pos h]
  · simp only [if_neg h]

/-- A completion frees the station; for the connect of current intent it also
remembers the profile or enters the failure. -/
theorem stationFinished_cases (env : Env) (r : OperationResult) (c : Controller) :
    ∃ (initialized : Bool) (attempted : Nat) (status : Status) (nativeCode : Int)
      (hasNativeCode : Bool) (x : Controller),
      x = { c with
        stationId_ := 0
        transition_ := .kNone
        cancellingConnect_ := false
        initialized_ := initialized
        attemptedRevision_ := attempted
        state_.status := status
        state_.nativeCode := nativeCode
        state_.hasNativeCode := hasNativeCode
        state_.connectedProfile := if c.Succeeds r then c.state_.desiredProfile
          else c.state_.connectedProfile
        trace := c.stored env r ++ c.trace } ∧
      c.stationFinished env r = ({ (if c.Fails env r then
          (x.record (.failed r.id)).connectionFailed (env.now 4) (c.connectStatus env r)
            (if c.stationTimedOut_ then c.timeoutFailure_ else r.failure) r.nativeCode
            r.hasNativeCode
        else x).changed .kStation with work_ := true }).scheduleTimeouts := by
  unfold stationFinished
  rw [show (if c.stationTimedOut_ then .kTimeout else r.status) = c.outcome r from rfl]
  by_cases hv : c.activeRevision_ = c.state_.revision
  · by_cases hc : c.transition_ = .kConnect
    · refine ⟨c.initialized_, c.state_.revision, c.connectStatus env r, r.nativeCode,
        r.hasNativeCode, _, rfl, ?_⟩
      by_cases ho : c.outcome r = .kOk
      · by_cases hp : c.state_.desiredProfile.size = 0 <;>
          simp [conclude_eq, rememberProfile, hc, hv, ho, hp, Succeeds, Fails, connectStatus, stored,
            Controller.record]
      · simp [conclude_eq, rememberProfile, hc, hv, ho, Succeeds, Fails, connectStatus, stored]
    · by_cases he : c.transition_ = .kEnable ∧ c.outcome r = .kOk
      · refine ⟨true, if env.writeEnabled ≠ .kOk then c.state_.revision else c.attemptedRevision_,
          env.writeEnabled, r.nativeCode, r.hasNativeCode, _, rfl, ?_⟩
        simp [conclude_eq, rememberProfile, hv, he, Succeeds, Fails, stored, Controller.record]
      · refine ⟨c.initialized_, if c.outcome r ≠ .kOk then c.state_.revision
          else c.attemptedRevision_, c.outcome r, r.nativeCode, r.hasNativeCode, _, rfl, ?_⟩
        simp [conclude_eq, rememberProfile, hc, hv, he, Succeeds, Fails, stored]
  · by_cases he : c.transition_ = .kEnable ∧ c.outcome r = .kOk
    · refine ⟨true, c.attemptedRevision_, c.state_.status, c.state_.nativeCode,
        c.state_.hasNativeCode, _, rfl, ?_⟩
      simp [hv, he, Succeeds, Fails, stored, Controller.record]
    · refine ⟨c.initialized_, c.attemptedRevision_, c.state_.status, c.state_.nativeCode,
        c.state_.hasNativeCode, _, rfl, ?_⟩
      simp [hv, he, Succeeds, Fails, stored]

/-- The completed scan was let run to its end, so its results are read. -/
def ScanSucceeds (r : OperationResult) (c : Controller) : Prop :=
  c.scanTimedOut_ = false ∧ c.state_.scan ≠ .kCancelling ∧ r.status = .kOk

instance (r : OperationResult) (c : Controller) : Decidable (c.ScanSucceeds r) :=
  inferInstanceAs (Decidable (_ ∧ _))

/-- What was read fits the buffer, so it is published. -/
def Publishes (env : Env) (r : OperationResult) (c : Controller) : Prop :=
  c.ScanSucceeds r ∧ env.readScanResults.status = .kOk ∧
    env.readScanResults.count ≤ c.records_.length

@[simp] theorem length_overwrite (buffer written : List ScanRecord) :
    (overwrite buffer written).length = buffer.length := by
  simp only [overwrite, List.length_take, List.length_append, List.length_drop]
  omega

/-- A completion ends the scan and publishes what a successful one read. -/
theorem scanFinished_cases (env : Env) (r : OperationResult) (c : Controller) :
    ∃ (status : Status) (records : List ScanRecord) (snapshot : ScanSnapshot),
      c.scanFinished env r = ({ { c with
        scanId_ := 0
        state_.scan := .kIdle
        state_.scanStatus := status
        records_ := records
        snapshot_ := snapshot }.changed .kScan with work_ := true }).scheduleTimeouts ∧
      (records = if c.ScanSucceeds r then overwrite c.records_ env.readScanResults.records
        else c.records_) ∧
      (c.Publishes env r ∧ status = .kOk ∧ snapshot = {
          generation := c.snapshot_.generation + 1
          count := env.readScanResults.count
          truncated := env.readScanResults.truncated } ∨
        ¬ c.Publishes env r ∧ snapshot = c.snapshot_ ∧ status ≠ .kOk ∧
          (c.scanTimedOut_ = true → status = .kTimeout) ∧
          (c.scanTimedOut_ = false → c.state_.scan = .kCancelling → status = .kCancelled)) := by
  by_cases hs : c.ScanSucceeds r
  · obtain ⟨timely, uncancelled, ok⟩ := id hs
    by_cases hp : env.readScanResults.status = .kOk ∧
        env.readScanResults.count ≤ c.records_.length
    · refine ⟨.kOk, _, _, ?_, rfl, .inl ⟨⟨hs, hp⟩, rfl, rfl⟩⟩
      have hfits : ¬ env.readScanResults.count > c.records_.length := not_lt.mpr hp.2
      simp [scanFinished, timely, uncancelled, ok, hs, hp.1, hfits]
    · refine ⟨if env.readScanResults.status = .kOk then .kCorrupt else env.readScanResults.status, _,
        _, ?_, rfl, .inr ⟨fun h => hp h.2, rfl, ?_, ?_, ?_⟩⟩
      · by_cases hr : env.readScanResults.status = .kOk
        · have hfits : env.readScanResults.count > c.records_.length :=
            not_le.mp fun hle => hp ⟨hr, hle⟩
          simp [scanFinished, timely, uncancelled, ok, hs, hr, hfits]
        · simp [scanFinished, timely, uncancelled, ok, hs, hr]
      · split
        · simp
        · assumption
      · intro late
        exact absurd (timely.symm.trans late) (by simp)
      · intro _ cancelling
        exact absurd cancelling uncancelled
  · refine ⟨if c.scanTimedOut_ then .kTimeout else if c.state_.scan = .kCancelling then .kCancelled
      else r.status, _, _, ?_, rfl, .inr ⟨fun h => hs h.1, rfl, ?_, ?_, ?_⟩⟩
    · cases timely : c.scanTimedOut_ with
      | true => simp [scanFinished, timely, hs]
      | false =>
        by_cases cancelling : c.state_.scan = .kCancelling
        · simp [scanFinished, timely, cancelling, hs]
        · have hr : r.status ≠ .kOk := fun ok => hs ⟨timely, cancelling, ok⟩
          simp [scanFinished, timely, cancelling, hr, hs]
    · split
      · simp
      · split
        · simp
        · exact fun ok => hs ⟨by simpa using ‹¬ c.scanTimedOut_ = true›, ‹_›, ok⟩
    · intro late
      rw [if_pos late]
    · intro timely cancelling
      rw [if_neg (by simp [timely]), if_pos cancelling]

/-- An address: the retry that waits for it may be over. -/
theorem hear_ready (env : Env) {link : LinkState} (c : Controller)
    (ready : link.phase = .kAddressReady) :
    ∃ (reconnect : Uptime) (pending : Bool) (next : Uptime) (attempted : Nat) (status : Status)
      (nativeCode : Int) (hasNativeCode : Bool),
      c.hear env link = { c with
        state_.link := link
        addressDeadline_ := ⊤
        stableDeadline_ := if c.state_.link.phase ≠ LinkPhase.kAddressReady then
            (env.now 0 + Millis c.options_.retry.stableConnectionMs : Nat)
          else c.stableDeadline_
        reconnect_ := reconnect
        state_.retry.pending := pending
        state_.retry.nextAttempt := next
        attemptedRevision_ := attempted
        state_.status := status
        state_.nativeCode := nativeCode
        state_.hasNativeCode := hasNativeCode }.changed .kStation ∧
      (pending = c.state_.retry.pending ∧ next = c.state_.retry.nextAttempt ∨
        pending = false ∧ next = ⊤) := by
  unfold hear observeAddress observeLoss
  rw [if_pos ready, if_neg (show ¬ link.phase = .kIdle by simp [ready])]
  dsimp only
  by_cases hp : c.state_.link.phase = .kAddressReady
  · rw [if_neg (not_not.mpr hp), if_neg (not_not.mpr hp)]
    split
    · exact ⟨⊤, false, ⊤, c.state_.revision, .kOk, 0, false, rfl, .inr ⟨rfl, rfl⟩⟩
    · exact ⟨c.reconnect_, c.state_.retry.pending, c.state_.retry.nextAttempt, c.attemptedRevision_,
        c.state_.status, c.state_.nativeCode, c.state_.hasNativeCode, rfl, .inl ⟨rfl, rfl⟩⟩
  · rw [if_pos hp, if_pos hp]
    split
    · exact ⟨⊤, false, ⊤, c.state_.revision, .kOk, 0, false, rfl, .inr ⟨rfl, rfl⟩⟩
    · exact ⟨c.reconnect_, c.state_.retry.pending, c.state_.retry.nextAttempt, c.attemptedRevision_,
        c.state_.status, c.state_.nativeCode, c.state_.hasNativeCode, rfl, .inl ⟨rfl, rfl⟩⟩

/-- A link on its way up, or without its address. -/
theorem hear_unready (env : Env) {link : LinkState} (c : Controller)
    (unready : link.phase ≠ .kAddressReady) (up : link.phase ≠ .kIdle) :
    c.hear env link = { c with
      state_.link := link
      stableDeadline_ := ⊤
      addressDeadline_ := if c.state_.link.phase = LinkPhase.kAddressReady ∧
          link.phase = LinkPhase.kAssociated ∧ c.transition_ = Transition.kNone then
          (env.now 0 + Millis c.options_.connectTimeoutMs : Nat)
        else c.addressDeadline_ }.changed .kStation := by
  unfold hear observeAddress observeLoss
  rw [if_neg unready, if_neg up]
  dsimp only
  split <;> rfl

/-- A link that is gone: with connection intent and nothing running, a failure. -/
theorem hear_idle (env : Env) {link : LinkState} (c : Controller) (idle : link.phase = .kIdle) :
    c.hear env link =
      let x : Controller := { c with
        state_.link := link
        stableDeadline_ := ⊤
        addressDeadline_ := ⊤
        state_.connectedProfile := {} }
      (if (core false c).Loses link then
        (x.record (.failed link.connectionId)).connectionFailed (env.now 1)
          (if link.reason = .kOk then .kConnectionFailed else link.reason)
          link.failure link.nativeCode link.hasNativeCode
      else x).changed .kStation := by
  have hl : (core false c).Loses link ↔ c.transition_ = .kNone ∧ c.state_.link.phase ≠ .kIdle ∧
      c.state_.desired = .kConnected := and_iff_right idle
  have hready : ¬ (c.state_.link.phase = .kAddressReady ∧ link.phase = .kAssociated ∧
      c.transition_ = .kNone) := fun h => absurd (idle.symm.trans h.2.1) (by simp)
  unfold hear observeAddress observeLoss
  rw [if_neg (show ¬ link.phase = .kAddressReady by simp [idle]), if_pos idle]
  dsimp only
  rw [if_neg hready]
  by_cases h : (core false c).Loses link
  · rw [if_pos h, if_pos (hl.mp h)]
  · rw [if_neg h, if_neg (fun hn => h (hl.mpr hn))]

/-- A scan that is cancelled changes nothing but itself. -/
theorem cancelScan_shape (c : Controller) (env : Env) (now : Nat) :
    ∃ (scan : ScanPhase) (status : Status) (deadline : Uptime) (work : Bool) (timer : Uptime)
      (changes : Changes) (notify : Bool) (trace : List Action),
      (c.cancelScan env now).2 = { c with
        state_.scan := scan
        state_.scanStatus := status
        scanDeadline_ := deadline
        work_ := work
        timer_ := timer
        pendingChanges_ := changes
        notify_ := notify
        trace := trace } := by
  unfold cancelScan
  dsimp only
  split
  · exact ⟨_, _, _, _, _, _, _, _, rfl⟩
  split
  · exact ⟨_, _, _, _, _, _, _, _, rfl⟩
  split
  · rw [changed_eq]
    exact ⟨_, _, _, _, _, _, _, _, rfl⟩
  split
  · exact ⟨_, _, _, _, _, _, _, _, rfl⟩
  · rw [changed_eq]
    exact ⟨_, _, _, _, _, _, _, _, rfl⟩

/-- The scan deadline faults, or acts on the scan alone. -/
theorem checkScanDeadline_shape (c : Controller) (env : Env) :
    (c.checkScanDeadline env).faulted_ = true ∨
    ∃ (timedOut : Bool) (scan : ScanPhase) (status : Status) (deadline : Uptime) (work : Bool)
      (timer : Uptime) (changes : Changes) (notify : Bool) (trace : List Action),
      c.checkScanDeadline env = { c with
        scanTimedOut_ := timedOut
        state_.scan := scan
        state_.scanStatus := status
        scanDeadline_ := deadline
        work_ := work
        timer_ := timer
        pendingChanges_ := changes
        notify_ := notify
        trace := trace } := by
  unfold checkScanDeadline
  split
  · split
    · exact .inl (by rw [fault_eq])
    dsimp only
    split
    · exact .inl (by rw [fault_eq])
    · obtain ⟨scan, status, deadline, work, timer, changes, notify, trace, h⟩ :=
        cancelScan_shape { c with scanTimedOut_ := true } env (env.now 4)
      exact .inr ⟨true, scan, status, deadline, work, timer, changes, notify, trace, h⟩
  · exact .inr ⟨_, _, _, _, _, _, _, _, _, rfl⟩

/-- The station deadline faults, or acts on the connect alone. -/
theorem checkStationDeadline_shape (c : Controller) (env : Env) :
    (c.checkStationDeadline env).faulted_ = true ∨ c.checkStationDeadline env = c ∨
    ∃ (failure : ConnectionFailure) (deadline : Uptime) (trace : List Action),
      c.checkStationDeadline env = { c with
        stationTimedOut_ := true
        timeoutFailure_ := failure
        cancellingConnect_ := true
        stationDeadline_ := deadline
        trace := trace }.changed .kStation := by
  unfold checkStationDeadline
  split
  · split
    · exact .inl (by rw [fault_eq])
    dsimp only
    split
    · exact .inl (by rw [fault_eq])
    · exact .inr (.inr ⟨_, _, _, rfl⟩)
  · exact .inr (.inl rfl)

/-! ## What only grows -/

structure Later (c d : Controller) : Prop where
  options : d.options_ = c.options_
  closed : d.closed_ = c.closed_
  running : c.running_ = true → d.running_ = true
  faulted : c.faulted_ = true → d.faulted_ = true
  revision : c.state_.revision ≤ d.state_.revision

@[simp] theorem later_changed {d : Controller} (change : Change) :
    Later c (d.changed change) ↔ Later c d := by
  rw [changed_eq]
  exact ⟨fun h => { h with }, fun h => { h with }⟩

theorem Later.refl (c : Controller) : Later c c := ⟨rfl, rfl, id, id, le_refl _⟩

theorem Later.trans {d e : Controller} (h : Later c d) (h' : Later d e) : Later c e where
  options := h'.options.trans h.options
  closed := h'.closed.trans h.closed
  running := h'.running ∘ h.running
  faulted := h'.faulted ∘ h.faulted
  revision := h.revision.trans h'.revision

theorem Later.connectionFailed (c : Controller) (now : Nat) (status : Status)
    (failure : ConnectionFailure) (code : Int) (hasCode : Bool) :
    Later c (c.connectionFailed now status failure code hasCode) := by
  obtain ⟨_, _, _, _, h, -⟩ := connectionFailed_cases now status failure code hasCode c
  rw [h]
  exact { Later.refl c with }

theorem Later.scanFinished (c : Controller) (env : Env) (r : OperationResult) :
    Later c (c.scanFinished env r) := by
  obtain ⟨_, _, _, h, -⟩ := scanFinished_cases env r c
  rw [h, changed_eq]
  exact { Later.refl c with }

theorem Later.stationFinished (c : Controller) (env : Env) (r : OperationResult) :
    Later c (c.stationFinished env r) := by
  obtain ⟨_, _, _, _, _, x, hx, h⟩ := stationFinished_cases env r c
  have hx : Later c x := by
    rw [hx]
    exact { Later.refl c with }
  rw [h]
  refine { (later_changed (d := if c.Fails env r then _ else x) .kStation).mpr ?_ with }
  split
  · exact hx.trans { Later.connectionFailed (x.record (.failed r.id)) _ _ _ _ _ with }
  · exact hx

theorem Later.hear (c : Controller) (env : Env) (link : LinkState) : Later c (c.hear env link) := by
  by_cases ready : link.phase = .kAddressReady
  · obtain ⟨_, _, _, _, _, _, _, h, -⟩ := hear_ready env c ready
    rw [h, later_changed]
    exact { Later.refl c with }
  by_cases idle : link.phase = .kIdle
  · rw [hear_idle env c idle, later_changed]
    split
    · exact { Later.connectionFailed _ _ _ _ _ _ with }
    · exact { Later.refl c with }
  · rw [hear_unready env c ready idle, later_changed]
    exact { Later.refl c with }

/-- The revision and the end of the controller's life only advance. -/
theorem Effect.later {d : Controller} (h : Effect a c d) :
    d.closed_ = true ∧ c.closed_ = false ∨ Later c d := by
  cases h with
  | shutdown opened =>
    rw [shutdown_eq opened]
    exact .inl ⟨rfl, opened⟩
  | noted | scheduled | listened | relaxed | repeated | aimed | timedOut | scanTimedOut | taken
  | retryIdle => exact .inr { Later.refl c with }
  | begun enabled fresh =>
    rw [newIntent_eq, changed_eq]
    exact .inr { Later.refl c with
      running := fun _ => rfl
      revision := Nat.le_succ _ }
  | withdrawn | requested =>
    rw [newIntent_eq]
    exact .inr { Later.refl c with revision := Nat.le_succ _ }
  | scanQueued | scanDropped | scanCancelled | profiles | cancelled | issued | settled | unrestored
  | scanStarted | stable | retryDenied | retryGranted | enabledReported =>
    rw [later_changed]
    exact .inr { Later.refl c with }
  | faulted =>
    rw [fault_eq]
    exact .inr { Later.refl c with faulted := fun _ => rfl }
  | addressExpired =>
    rw [later_changed]
    exact .inr { Later.connectionFailed _ _ _ _ _ _ with }
  | scanFinished r env => exact .inr (.scanFinished c env r)
  | stationFinished r env => exact .inr (.stationFinished c env r)
  | linkReported => exact .inr (.hear c _ _)

theorem Effect.closed {d : Controller} (h : Effect a c d) (closed : c.closed_ = true) :
    d.closed_ = true := by
  obtain ⟨hd, -⟩ | later := h.later
  · exact hd
  · exact later.closed.trans closed

/-- A new intent, a fault or the shutdown. -/
def Replaced (c d : Controller) : Prop :=
  c.state_.revision < d.state_.revision ∨ d.faulted_ = true ∨ d.closed_ = true

instance {d : Controller} : Decidable (Replaced c d) := inferInstanceAs (Decidable (_ ∨ _))

theorem Replaced.later {d e : Controller} (h : Replaced c d) (hl : Later d e) : Replaced c e :=
  h.imp (fun h => h.trans_le hl.revision) (.imp hl.faulted hl.closed.trans)

/-- What every effect respects until intent is replaced, a whole call respects. -/
theorem Effects.unless_replaced {I : Controller → Prop} {R : Controller → Controller → Prop}
    (refl : ∀ c, R c c) (trans : ∀ {c d e}, R c d → R d e → R c e)
    (hE : ∀ c d, Effect a c d → I c → I d ∧ (R c d ∨ Replaced c d)) {d : Controller}
    (h : Effects a c d) (hi : I c) : I d ∧ (R c d ∧ Later c d ∨ Replaced c d) := by
  induction h with
  | refl => exact ⟨hi, .inl ⟨refl c, .refl c⟩⟩
  | tail _ he ih =>
    obtain ⟨hx, ih⟩ := ih
    obtain ⟨hd, hr⟩ := hE _ _ he hx
    refine ⟨hd, ?_⟩
    obtain ⟨hclosed, -⟩ | hl := he.later
    · exact .inr (.inr (.inr hclosed))
    obtain ⟨hk, hl'⟩ | hx := ih
    · exact hr.imp (fun h => ⟨trans hk h, hl'.trans hl⟩) (.imp_left fun h => hl'.revision.trans_lt h)
    · exact .inr (hx.later hl)

theorem Effects.replaced {x d : Controller} (h : Effects a x d) (hr : Replaced c x) :
    Replaced c d := by
  induction h with
  | refl => exact hr
  | tail _ he ih =>
    obtain ⟨hclosed, -⟩ | hl := he.later
    · exact .inr (.inr hclosed)
    · exact ih.later hl

/-! ## Runs -/

/-- What every effect preserves holds after every list of calls. -/
theorem effects_invariant {J : Controller → Prop} (hE : ∀ a c d, Effect a c d → J c → J d)
    {options : Options} {seed : UInt32} (hs : J (init options seed)) (as : List Atom) :
    J (Machine.run atom (init options seed) as) :=
  Machine.run_invariant_all
    (fun c a => Machine.path_invariant (fun c d => hE a c d) (atom_effects c a)) hs as

theorem atom_later (c : Controller) (a : Atom) : Later c (atom c a) ∨ Replaced c (atom c a) :=
  ((atom_effects c a).unless_replaced (I := fun _ => True) (R := fun _ _ => True)
    (fun _ => trivial) (fun _ _ => trivial) (fun _ _ _ _ => ⟨trivial, .inl trivial⟩)
    trivial).2.imp_left And.right

/-- Nothing follows the shutdown. -/
theorem run_closed (closed : c.closed_ = true) (as : List Atom) :
    (Machine.run atom c as).closed_ = true :=
  Machine.run_invariant_all (I := fun c => c.closed_ = true)
    (fun c a => Machine.path_invariant (M := Effect a) (J := fun c => c.closed_ = true)
      (fun _ _ => Effect.closed) (atom_effects c a)) closed as

theorem run_replaced {x : Controller} (hr : Replaced c x) (as : List Atom) :
    Replaced c (Machine.run atom x as) :=
  Machine.run_invariant_all (fun x a h => (atom_effects x a).replaced h) hr as

/-- What is replaced later in a run is replaced in the whole of it. -/
theorem run_replaced_cons {as : List Atom}
    (h : Replaced (atom c a) (Machine.run atom (atom c a) as)) :
    Replaced c (Machine.run atom (atom c a) as) := by
  obtain later | replaced := atom_later c a
  · exact h.imp_left later.revision.trans_lt
  · exact run_replaced replaced as

/-- The exclusion of commands, call by call. -/
theorem atom_exclusive {c : Controller} (a : Atom) (hi : Exclusive (core false c)) :
    Exclusive (core false (atom c a)) :=
  Machine.path_invariant (J := Exclusive) (fun _ _ => Move.exclusive) (atom_path a hi.nextId_ne) hi

theorem atoms_exclusive (options : Options) (seed : UInt32) (as : List Atom) :
    Exclusive (core false (Machine.run atom (init options seed) as)) :=
  Machine.run_invariant_all (I := fun c => Exclusive (core false c))
    (fun _ a hi => atom_exclusive a hi) (exclusive_init options seed) as

/-- The trace is only added to. -/
theorem Move.suffix {A : Assumptions} {a b : Core} (h : Move A a b) : a.trace <:+ b.trace := by
  cases h with
  | shutdown =>
    unfold Core.shutdown
    dsimp only
    split
    · exact List.suffix_cons _ _
    · exact List.suffix_refl _
  | enableFinished => split <;> exact List.suffix_cons _ _
  | connectFailed r status retry level saved =>
    exact (List.suffix_cons (Action.delivered r) _).trans ((List.suffix_append saved _).trans
      (List.suffix_cons (Action.failed r.id) _))
  | _ => first | exact ⟨[], rfl⟩ | exact ⟨[_], rfl⟩ | exact ⟨[_, _], rfl⟩ | exact ⟨[_, _, _], rfl⟩

theorem atom_suffix {c : Controller} (a : Atom) (he : Exclusive (core false c)) :
    c.trace <:+ (atom c a).trace :=
  Machine.path_invariant (J := fun x => c.trace <:+ x.trace)
    (fun _ _ hm h => h.trans hm.suffix) (atom_path a he.nextId_ne) (List.suffix_refl _)

end RooWifi.Controller
