import RooWifi.Controller.Core

/-! # A step of the code is a path of moves

One lemma for each function of the code, from the bottom up. What the
abstraction drops (notification, snapshots, clocks, timers) drops out here
and is not seen again. -/
namespace RooWifi.Controller
open Relation (ReflTransGen)

variable {A : Assumptions} {c : Controller} {d : Bool}

/-! ## Functions that act as one operation on the abstract state -/

@[simp] theorem core_record (a : Action) : core d (c.record a) = (core d c).note a := rfl

@[simp] theorem core_changed (change : Change) : core d (c.changed change) = core d c := by
  simp only [changed]; split <;> rfl

@[simp] theorem core_scheduleTimeouts : core d c.scheduleTimeouts = core d c := rfl

@[simp] theorem core_cancelRetry : core d c.cancelRetry = (core d c).cancelRetry := rfl

theorem core_work : core d { c with work_ := true } = (core d c).wake := rfl

@[simp] theorem core_newIntent : core d c.newIntent = (core d c).newIntent := by
  simp only [newIntent, changed]; split <;> rfl

@[simp] theorem core_shutdown (h : c.closed_ = false) :
    core d c.shutdown = (core d c).shutdown := by
  simp only [shutdown, h, Bool.false_eq_true, if_false]
  cases hr : c.running_ <;> simp [core, Core.shutdown, record, hr]

@[simp] theorem core_fault (status : Status) : core d (c.fault status) = (core d c).fault status := by
  unfold fault
  extract_lets _ c₁ _ c₂ c₃ c₄ c₅
  have h₂ : core d c₂ = { core d c₁ with scan := .kIdle } := by
    unfold c₂
    split
    · exact core_changed _
    · rename_i hs
      have : c₁.state_.scan = .kIdle := by simpa [isScanning] using hs
      simp only [core, this]
  have h₅ : core d c₅ = { core d c₂ with
      scanId := 0
      stationId := 0
      transition := .kNone
      credentials := {}
      retry := (core d c₂).cancelRetry.retry
      addressDeadline := ⊤ } := rfl
  rw [core_changed, h₅, h₂]
  rfl

theorem core_connectionFailed (now : Nat) {status : Status} (failure : ConnectionFailure)
    (code : Int) (hasCode : Bool) (notOk : status ≠ .kOk) :
    ∃ r level, (core d c).Failure status r ∧
      core d (c.connectionFailed now status failure code hasCode) =
        (core d c).failed status r level := by
  unfold connectionFailed
  extract_lets _ _ c₁
  split
  · rename_i h
    exact ⟨_, _, ⟨notOk, fun _ => .inr h⟩, rfl⟩
  · exact ⟨c₁.state_.retry, c₁.retryLevel_, ⟨notOk, .inl⟩, rfl⟩

/-! ## Public requests -/

theorem core_admits (h : ¬ c.admission ≠ .kOk) : (core d c).Admits := by
  unfold admission at h
  split at h
  · exact absurd (by simp) h
  · rename_i hr
    split at h
    · exact absurd (by simp) h
    · rename_i hi
      simp only [Bool.or_eq_true, Bool.not_eq_eq_eq_not, Bool.not_true, not_or,
        Bool.not_eq_false, Bool.not_eq_true] at hr
      exact ⟨hr.1, hr.2, hi⟩

/-- A request that is refused leaves nothing but the record of its answer. -/
theorem returned_path {x : Core} (call : Call) {status : Status} (h : status ≠ .kOk) :
    Path A x (x.note (.returned call status)) :=
  .single (.noted _ (.inl h))

theorem begin_path (asked : A.requests) (env : Env) :
    Path A (core d c) (core d (c.request env .begin)) := by
  simp only [request, perform, begin]
  split
  · exact returned_path _ (by simp)
  split
  · exact returned_path _ (by simp)
  rename_i hc hr
  split
  · exact returned_path _ ‹_›
  split
  · exact returned_path _ (by rename_i h; exact h.1)
  split
  · rename_i hb
    exact .head (.noted (.begin env.interfaceBegin) hb) (returned_path _ hb)
  · rename_i hb
    rw [core_record, core_newIntent, core_changed, Classical.not_not.mp hb]
    exact .head (.begun _ (by simpa [core] using hr) (by simpa [core] using hc) asked)
      (.single (.noted _ (.inr rfl)))

theorem setEnabled_path (asked : A.requests) (env : Env) (enabled : Bool) :
    Path A (core d c) (core d (c.request env (.setEnabled enabled))) := by
  simp only [request, perform, setEnabled]
  split
  · exact returned_path _ ‹_›
  rename_i ha
  have h : (core d c).Admits := core_admits ha
  split
  · rename_i hs
    refine .single (.noted _ (.inr ⟨h.running, ?_⟩))
    rw [hs.1]; simp [core]
  · rw [core_record, core_newIntent]
    exact .single (.setEnabled enabled h asked)

theorem disconnect_path (asked : A.requests) (env : Env) :
    Path A (core d c) (core d (c.request env .disconnect)) := by
  simp only [request, perform, disconnect]
  split
  · exact returned_path _ ‹_›
  rename_i ha
  have h : (core d c).Admits := core_admits ha
  split
  · rename_i hs
    exact .head (.relaxed h hs.1 hs.2) (.single (.noted _ (.inr ⟨h.running, hs.1, rfl⟩)))
  · have hw := Move.withdrawn (A := A) h asked
    by_cases hd : c.state_.desired = .kDisabled
    · have hd' : (core d c).desired = .kDisabled := hd
      rw [if_neg (not_not.mpr hd), core_record, core_newIntent]
      rw [if_pos hd', ← hd'] at hw
      exact .single hw
    · have hd' : (core d c).desired ≠ .kDisabled := hd
      rw [if_pos hd, core_record, core_newIntent]
      rw [if_neg hd'] at hw
      exact .single hw

/-! Connection requests: `connectSaved` asks with a stored snapshot, and the
work task asks the same way when it restores the last profile. -/

/-- What a connection request does once its arguments are accepted. -/
theorem requestConnection_cases (env : Env) (config : ConnectionConfig) (credentials : Credentials)
    (profile : Ssid) (automatic : Bool) :
    ((c.requestConnection env config credentials profile automatic).1 ≠ .kOk ∧
      (c.requestConnection env config credentials profile automatic).2 = c) ∨
    ((c.requestConnection env config credentials profile automatic).1 = .kOk ∧
      (core d c).Admits ∧ c.state_.desired ≠ .kDisabled ∧
      ((c.state_.desired = .kConnected ∧ c.state_.desiredProfile.eq profile = true ∧
          SameConfig c.config_ config = true ∧ SameCredentials c.credentials_ credentials = true ∧
          (c.requestConnection env config credentials profile automatic).2 =
            { c with autoConnect_ := automatic }.record
              (.requested config credentials profile automatic)) ∨
        core d (c.requestConnection env config credentials profile automatic).2 =
          (core d c).accept config credentials profile automatic)) := by
  unfold requestConnection
  split
  · exact .inl ⟨‹_›, rfl⟩
  rename_i ha
  split
  · exact .inl ⟨by simp, rfl⟩
  rename_i hd
  split
  · exact .inl ⟨‹_›, rfl⟩
  split
  · exact .inl ⟨‹_›, rfl⟩
  refine .inr ?_
  dsimp only
  split
  · rename_i hs
    exact ⟨rfl, core_admits ha, hd, .inl ⟨hs.1, hs.2.2.1, hs.2.2.2.1, hs.2.2.2.2, rfl⟩⟩
  · rw [core_record, core_newIntent]
    exact ⟨rfl, core_admits ha, hd, .inr rfl⟩

theorem requested_path (asked : A.requests) (env : Env) (call : Call) (config : ConnectionConfig)
    (credentials : Credentials) (profile : Ssid) (automatic : Bool)
    (explicit : Core.connects call = true)
    (saved : profile = {} ∧ automatic = false ∨ profile.Valid) :
    Path A (core d c)
      (core d ((c.requestConnection env config credentials profile automatic).2.record
        (.returned call (c.requestConnection env config credentials profile automatic).1))) := by
  obtain ⟨hs, hc⟩ | ⟨hs, ha, hd, ⟨hk, ht, hcfg, hcred, hc⟩ | hc⟩ :=
    requestConnection_cases (d := d) (c := c) env config credentials profile automatic
  · rw [hc]
    exact returned_path _ hs
  · rw [hc, hs]
    exact .single (.repeated call config credentials profile automatic ha explicit hk saved ht
      hcfg hcred)
  · rw [core_record, hc, hs]
    exact .single (.accepted call config credentials profile automatic ha explicit hd saved asked)

theorem connect_path (asked : A.requests) (env : Env) (config : ConnectionConfig)
    (credentials : Credentials) :
    Path A (core d c) (core d (c.request env (.connect config credentials))) :=
  requested_path asked env _ config credentials {} false rfl (.inl ⟨rfl, rfl⟩)

theorem loadProfile_valid {env : Env} {nth : Nat} {ssid : Ssid}
    (h : (c.loadProfile env nth ssid).1 = .kOk) : ssid.Valid := by
  unfold loadProfile at h
  split at h
  · cases h
  split at h
  · cases h
  rename_i hv
  rw [not_or, gt_iff_lt, UInt8.not_lt] at hv
  refine ⟨?_, UInt8.le_iff_toNat_le.mp hv.2⟩
  exact Nat.one_le_iff_ne_zero.mpr fun h0 => hv.1 (UInt8.toNat_inj.mp (by simpa using h0))

/-- A saved profile is connected to as its stored snapshot asks, or not at all. -/
theorem connectSaved_cases (env : Env) (nth : Nat) (ssid : Ssid) :
    ((c.connectSaved env nth ssid).1 ≠ .kOk ∧ (c.connectSaved env nth ssid).2 = c) ∨
    (ssid.Valid ∧ ∃ config credentials automatic, c.connectSaved env nth ssid =
      c.requestConnection env config credentials ssid automatic) := by
  unfold connectSaved
  cases hl : c.loadProfile env nth ssid with
  | mk status profile =>
    have hv : status = .kOk → ssid.Valid := fun h =>
      loadProfile_valid ((congrArg Prod.fst hl).trans h)
    split
    · rename_i heq
      cases heq
      cases hc : env.loadCredentials ssid with
      | mk status credentials =>
        split
        · rename_i heq
          cases heq
          exact .inr ⟨hv rfl, _, credentials, _, rfl⟩
        · rename_i h heq
          cases heq
          exact .inl ⟨h, rfl⟩
    · rename_i h heq
      cases heq
      exact .inl ⟨h, rfl⟩

theorem connectSaved_path (asked : A.requests) (env : Env) (ssid : Ssid) :
    Path A (core d c) (core d (c.request env (.connectSaved ssid))) := by
  change Path A (core d c) (core d ((c.connectSaved env 0 ssid).2.record
    (.returned (.connectSaved ssid) (c.connectSaved env 0 ssid).1)))
  obtain ⟨hs, hc⟩ | ⟨hv, config, credentials, automatic, hc⟩ :=
    connectSaved_cases (c := c) env 0 ssid
  · rw [hc]
    exact returned_path _ hs
  · rw [hc]
    exact requested_path asked env _ config credentials ssid automatic rfl (.inr hv)

theorem startScan_path (asked : A.requests) (env : Env) :
    Path A (core d c) (core d (c.request env .startScan)) := by
  simp only [request, perform, startScan]
  split
  · exact returned_path _ ‹_›
  rename_i ha
  split
  · exact returned_path _ (by simp)
  rename_i hd
  split
  · exact returned_path _ (by simp)
  rename_i hb
  simp only [not_or, Bool.not_eq_true', Bool.not_eq_false, not_and, Classical.not_not,
    isScanning, decide_eq_true_eq, ne_eq] at hd hb
  rw [core_record, core_work, core_changed]
  exact .single (.scanQueued (core_admits ha) hd.2 hb.1 hb.2.1 hb.2.2.1 asked)

/-- What `cancelScan` does while the controller runs. -/
theorem cancelScan_cases (env : Env) (now : Nat) (hr : c.running_ = true) :
    (c.cancelScan env now = (.kOk, c) ∧ (c.state_.scan = .kIdle ∨ c.state_.scan = .kCancelling)) ∨
    ((c.cancelScan env now).1 = .kOk ∧ c.state_.scan = .kQueued ∧
      core d (c.cancelScan env now).2 = { core d c with scan := .kIdle, work := true }) ∨
    ((c.cancelScan env now).1 ≠ .kOk ∧ c.state_.scan = .kRunning ∧
      core d (c.cancelScan env now).2 =
        (core d c).note (.cancelScan (c.cancelScan env now).1)) ∨
    ((c.cancelScan env now).1 = .kOk ∧ c.state_.scan = .kRunning ∧
      core d (c.cancelScan env now).2 =
        { core d c with scan := .kCancelling, work := true }.note (.cancelScan .kOk)) := by
  unfold cancelScan
  rw [if_neg (by simp [hr])]
  cases hs : c.state_.scan with
  | kIdle => simp
  | kCancelling => simp
  | kQueued =>
    refine .inr (.inl ⟨rfl, rfl, ?_⟩)
    simp only [reduceCtorEq, or_self, if_false, if_true]
    rw [core_scheduleTimeouts, core_work, core_changed]
    rfl
  | kRunning =>
    simp only [reduceCtorEq, or_self, if_false]
    by_cases hk : env.cancelScan = .kOk
    · refine .inr (.inr (.inr ?_))
      rw [if_neg (not_not.mpr hk)]
      refine ⟨rfl, trivial, ?_⟩
      rw [core_scheduleTimeouts, core_work, core_changed, hk]
      rfl
    · refine .inr (.inr (.inl ?_))
      rw [if_pos hk]
      exact ⟨hk, trivial, rfl⟩

theorem cancelScan_moves (env : Env) (now : Nat) :
    Path A (core d c) (core d (c.cancelScan env now).2) := by
  cases hr : c.running_ with
  | false => simp [cancelScan, hr, ReflTransGen.refl]
  | true =>
    obtain ⟨hc, -⟩ | ⟨-, hq, hc⟩ | ⟨hs, hq, hc⟩ | ⟨-, hq, hc⟩ :=
      cancelScan_cases (d := d) env now hr
    · rw [hc]
    · rw [hc]; exact .single (.scanDropped hr hq)
    · rw [hc]; exact .single (.scanKept _ hr hq hs)
    · rw [hc]; exact .single (.scanCancelled hr hq)

/-- The two places that must cancel a scan or give the radio up. -/
theorem cancelScan_or_fault (env : Env) (now : Nat) (status : Status) (hr : c.running_ = true)
    (hf : c.faulted_ = false) (notOk : (c.cancelScan env now).1 ≠ .kOk → status ≠ .kOk) :
    Path A (core d c) (core d (if (c.cancelScan env now).1 ≠ .kOk then
      (c.cancelScan env now).2.fault status else (c.cancelScan env now).2)) := by
  have h := cancelScan_moves (A := A) (d := d) (c := c) env now
  split
  · rename_i hk
    rw [core_fault]
    refine h.tail (.faulted _ ?_ ?_ (notOk hk))
    all_goals
      obtain ⟨he, -⟩ | ⟨he, -⟩ | ⟨-, -, he⟩ | ⟨he, -⟩ := cancelScan_cases (d := d) env now hr
      · exact absurd (congrArg Prod.fst he) hk
      · exact absurd he hk
      · rw [he]; assumption
      · exact absurd he hk
  · exact h

theorem cancelScan_path (env : Env) : Path A (core d c) (core d (c.request env .cancelScan)) :=
  (cancelScan_moves env (env.now 0)).tail (.noted _ (.inr trivial))

theorem saveProfile_path (env : Env) (settings : ProfileSettings) (update : CredentialUpdate) :
    Path A (core d c) (core d (c.request env (.saveProfile settings update))) := by
  simp only [request, perform, saveProfile]
  split
  · exact returned_path _ (by simp)
  split
  · exact returned_path _ (by simp)
  rw [core_record, core_changed]
  exact .head (.noted (.saveProfile settings update env.saveProfile) trivial)
    (.single (.noted _ (.inr trivial)))

theorem removeProfile_path (env : Env) (ssid : Ssid) :
    Path A (core d c) (core d (c.request env (.removeProfile ssid))) := by
  simp only [request, perform, removeProfile]
  split
  · exact returned_path _ (by simp)
  split
  · exact returned_path _ (by simp)
  rw [core_record, core_changed]
  exact .head (.noted (.removeProfile ssid env.removeProfile) trivial)
    (.single (.noted _ (.inr trivial)))

theorem shutdown_path (env : Env) : Path A (core d c) (core d (c.request env .shutdown)) := by
  change Path A (core d c) ((core d c.shutdown).note (.returned .shutdown .kOk))
  cases hc : c.closed_ with
  | true =>
    rw [show c.shutdown = c by simp [shutdown, hc]]
    exact .single (.noted _ (.inr hc))
  | false =>
    rw [core_shutdown hc]
    exact .head (.shutdown hc) (.single (.noted _ (.inr rfl)))

/-- **A public call is a path of moves**, from inside a listener or not. -/
theorem request_path (asked : A.requests) (env : Env) (call : Call) :
    Path A (core d c) (core d (c.request env call)) := by
  cases call with
  | begin => exact begin_path asked env
  | shutdown => exact shutdown_path env
  | setEnabled enabled => exact setEnabled_path asked env enabled
  | connect config credentials => exact connect_path asked env config credentials
  | connectSaved ssid => exact connectSaved_path asked env ssid
  | disconnect => exact disconnect_path asked env
  | startScan => exact startScan_path asked env
  | cancelScan => exact cancelScan_path env
  | saveProfile settings update => exact saveProfile_path env settings update
  | removeProfile ssid => exact removeProfile_path env ssid
  | addListener listener =>
    have h : core d (c.addListener listener) = core d c := by
      simp only [addListener]; split <;> rfl
    exact h ▸ .single (.noted (c := core d (c.addListener listener)) _ (.inr trivial))
  | removeListener listener => exact .single (.noted (c := core d c) _ (.inr trivial))

theorem foldl_path {ι : Type*} {f : Controller → ι → Controller}
    (hf : ∀ x i, Path A (core d x) (core d (f x i))) (l : List ι) :
    Path A (core d c) (core d (l.foldl f c)) := by
  induction l generalizing c with
  | nil => exact .refl
  | cons i l ih => exact (hf c i).trans ih

theorem notifyOne_path (react : Reaction) (h : A.Listens react) (listener : Nat)
    (change : Change) : Path A (core d c) (core d (c.notifyOne react listener change)) := by
  refine .head (.noted (.notified listener change) trivial) ?_
  obtain asked | hnone := h
  · exact foldl_path (c := c.record (.notified listener change))
      (fun _ (r : Call × Env) => request_path asked r.2 r.1) _
  · rw [notifyOne, hnone]
    exact .refl

theorem notifyListeners_path (react : Reaction) (h : A.Listens react) :
    Path A (core d c) (core d (c.notifyListeners react)) := by
  refine foldl_path (c := { c with pendingChanges_ := {} }) (fun x listener => ?_) c.listeners_
  refine foldl_path (fun y change => ?_) _
  split
  · exact notifyOne_path react h listener change
  · exact .refl

/-! ## Interface callbacks -/

theorem core_scanFinished (env : Env) (r : OperationResult) :
    core d (c.scanFinished env r) = (core d c).scanRetired := by
  unfold scanFinished
  extract_lets s₁ s₂ read
  split
  rename_i s₃ c₃ heq
  have h₃ : core d c₃ = core d c := by
    split at heq
    · split at heq <;> cases heq <;> rfl
    · cases heq; rfl
  rw [core_scheduleTimeouts, core_work, core_changed, ← h₃]
  rfl

theorem core_conclude (env : Env) (r : OperationResult) {t : Transition} (status : Status)
    (ht : t ≠ .kConnect) :
    core d (c.conclude env r t status) = (core d c).concluded status := by
  unfold conclude
  extract_lets _ c₁ c₂
  rw [if_neg (fun h => ht h.1)]
  by_cases hs : status = .kOk
  · have h₂ : c₂ = c₁ := if_neg (by simp [ht, hs])
    rw [h₂, Core.concluded, if_pos hs]; rfl
  · have h₂ : c₂ = { c₁ with attemptedRevision_ := c₁.state_.revision } := if_pos (.inr hs)
    rw [h₂, Core.concluded, if_neg hs]; rfl

theorem core_concludeConnect (env : Env) (r : OperationResult) (status : Status) :
    ((status = .kOk ∨ status = .kCancelled) ∧ core d (c.conclude env r .kConnect status) =
      { core d c with status := status, attempted := c.state_.revision }) ∨
    ∃ retry level, (core d c).Failure status retry ∧
      core d (c.conclude env r .kConnect status) =
        ({ core d c with attempted := c.state_.revision }.note (.failed r.id)).failed
          status retry level := by
  unfold conclude
  extract_lets _ c₁ c₂
  have h₂ : c₂ = { c₁ with attemptedRevision_ := c₁.state_.revision } := if_pos (.inl rfl)
  by_cases hs : status = .kOk ∨ status = .kCancelled
  · refine .inl ⟨hs, ?_⟩
    rw [if_neg (fun h => hs.elim h.2.1 h.2.2), h₂]
    rfl
  · rw [not_or] at hs
    refine .inr ?_
    rw [if_pos ⟨rfl, hs⟩]
    obtain ⟨retry, level, hf, he⟩ :=
      core_connectionFailed (c := c₂.record (.failed r.id)) (d := d) (env.now 4)
      (if c₂.stationTimedOut_ then c₂.timeoutFailure_ else r.failure) r.nativeCode
      r.hasNativeCode hs.1
    rw [h₂] at hf
    refine ⟨retry, level, ⟨hf.notOk, hf.pending⟩, ?_⟩
    rw [he, h₂]
    rfl

theorem core_enableFinished (env : Env) {r : OperationResult} (he : c.transition_ = .kEnable)
    (ok : (core d c).outcome r = .kOk) :
    core d (c.stationFinished env r) =
      (if c.activeRevision_ = c.state_.revision then
          { (core d c).retired with initialized := true }.concluded env.writeEnabled
        else { (core d c).retired with initialized := true }).note
          (.writeEnabled c.state_.enabled env.writeEnabled) := by
  have hs : (if c.stationTimedOut_ then .kTimeout else r.status) = Status.kOk := ok
  unfold stationFinished
  extract_lets completed superseded status c₁
  rw [if_pos (⟨he, hs⟩ : completed = .kEnable ∧ status = .kOk), core_scheduleTimeouts, core_work,
    core_changed]
  by_cases hv : c.activeRevision_ = c.state_.revision
  · rw [if_neg (not_not.mpr hv), if_pos hv, rememberProfile, if_neg (by simp [completed, he])]
    simp only [completed, he]
    rw [core_conclude env r env.writeEnabled (by simp)]
    rfl
  · rw [if_pos hv, if_neg hv]; rfl

theorem core_staleFinished (env : Env) {r : OperationResult}
    (other : c.transition_ ≠ .kEnable ∨ (core d c).outcome r ≠ .kOk)
    (stale : c.activeRevision_ ≠ c.state_.revision) :
    core d (c.stationFinished env r) = (core d c).retired := by
  unfold stationFinished
  extract_lets completed superseded status c₁
  have hne : ¬ (completed = .kEnable ∧ status = .kOk) := not_and_or.mpr other
  rw [if_neg hne]
  dsimp only
  rw [core_scheduleTimeouts, core_work, core_changed, if_pos (show superseded from stale)]
  rfl

theorem core_stationFinished (env : Env) {r : OperationResult}
    (current : c.activeRevision_ = c.state_.revision) (nc : c.transition_ ≠ .kConnect)
    (other : c.transition_ ≠ .kEnable ∨ (core d c).outcome r ≠ .kOk) :
    core d (c.stationFinished env r) = (core d c).retired.concluded ((core d c).outcome r) := by
  unfold stationFinished
  extract_lets completed superseded status c₁
  have hne : ¬ (completed = .kEnable ∧ status = .kOk) := not_and_or.mpr other
  rw [if_neg hne]
  dsimp only
  rw [core_scheduleTimeouts, core_work, core_changed,
    if_neg (show ¬ superseded from not_not.mpr current), rememberProfile, if_neg (fun h => nc h.1)]
  dsimp only
  rw [core_conclude env r _ nc]
  rfl

theorem core_connectFinished (env : Env) {r : OperationResult}
    (current : c.activeRevision_ = c.state_.revision) (hc : c.transition_ = .kConnect) :
    ∃ (status : Status) (x : Core),
      ((core d c).outcome r = .kOk ∨ status = (core d c).outcome r) ∧
      (x = (core d c).retired ∨ ((core d c).outcome r = .kOk ∧
        x = (core d c).retired.note (.writeLastProfile c.state_.desiredProfile status))) ∧
      (((status = .kOk ∨ status = .kCancelled) ∧
        core d (c.stationFinished env r) =
          { x with status := status, attempted := c.state_.revision }) ∨
      ∃ retry level, (core d c).Failure status retry ∧
        core d (c.stationFinished env r) =
          ({ x with attempted := c.state_.revision }.note (.failed r.id)).failed
            status retry level) := by
  unfold stationFinished
  extract_lets completed superseded status c₁
  rw [if_neg (show ¬ (completed = .kEnable ∧ status = .kOk) by simp [completed, hc])]
  dsimp only
  rw [core_scheduleTimeouts, core_work, core_changed,
    if_neg (show ¬ superseded from not_not.mpr current)]
  have hr : ∃ w x, (status = .kOk ∨ w = status) ∧ c₁.rememberProfile env completed status = (w, x) ∧
      (core d x = core d c₁ ∨ (status = .kOk ∧
        core d x = (core d c₁).note (.writeLastProfile c.state_.desiredProfile w))) := by
    unfold rememberProfile
    split
    · rename_i h
      dsimp only
      split
      · exact ⟨_, _, .inl h.2, rfl, .inr ⟨h.2, rfl⟩⟩
      · exact ⟨_, _, .inl h.2, rfl, .inl rfl⟩
    · exact ⟨_, _, .inr rfl, rfl, .inl rfl⟩
  obtain ⟨w, x, hw, he, hx⟩ := hr
  have hrev : x.state_.revision = c.state_.revision := by
    obtain h | ⟨-, h⟩ := hx <;> exact congrArg Core.revision h
  rw [he, show completed = .kConnect from hc]
  refine ⟨w, { core d x with work := true }, hw, ?_, ?_⟩
  · obtain h | ⟨hs, h⟩ := hx
    · exact .inl (by rw [h]; rfl)
    · exact .inr ⟨hs, by rw [h]; rfl⟩
  · obtain ⟨hs, hk⟩ | ⟨retry, level, hf, hk⟩ := core_concludeConnect (d := d) (c := x) env r w
    · exact .inl ⟨hs, by rw [hk, hrev]; rfl⟩
    · refine .inr ⟨retry, level, ⟨hf.notOk, ?_⟩, by rw [hk, hrev]; rfl⟩
      obtain h | ⟨-, h⟩ := hx <;> rw [h] at hf <;> exact hf.pending

/-- A completion that matches nothing outstanding is dropped. -/
theorem onOperationFinished_cases (env : Env) (r : OperationResult) :
    ((core d c).CompletesScan r ∧ c.onOperationFinished env r = c.scanFinished env r) ∨
    ((core d c).Completes r ∧ c.onOperationFinished env r = c.stationFinished env r) ∨
    (¬ (core d c).Completes r ∧ ¬ (core d c).CompletesScan r ∧ c.onOperationFinished env r = c) := by
  unfold onOperationFinished
  split
  · rename_i h
    simp only [Bool.or_eq_true, Bool.not_eq_eq_eq_not, Bool.not_true, decide_eq_true_eq] at h
    refine .inr (.inr ⟨fun hk => ?_, fun hk => ?_, rfl⟩)
    · obtain ⟨h1, h2, h3, -, -⟩ := hk
      exact h.elim (fun h => h.elim (fun h => by simp [core, h] at h1) (fun h => by
        simp [core, h] at h2)) h3
    · obtain ⟨h1, h2, h3, -, -⟩ := hk
      exact h.elim (fun h => h.elim (fun h => by simp [core, h] at h1) (fun h => by
        simp [core, h] at h2)) h3
  rename_i h
  simp only [Bool.or_eq_true, Bool.not_eq_eq_eq_not, Bool.not_true, decide_eq_true_eq, not_or,
    Bool.not_eq_false, Bool.not_eq_true] at h
  split
  · rename_i hs
    exact .inl ⟨⟨h.1.1, h.1.2, h.2, hs.1, hs.2⟩, rfl⟩
  rename_i hs
  have hns : ¬ (core d c).CompletesScan r := fun hk => hs ⟨hk.id, hk.kind⟩
  split
  · rename_i hid
    exact .inr (.inr ⟨fun hk => hid hk.id, hns, rfl⟩)
  rename_i hid
  split
  · rename_i hkind
    exact .inr (.inr ⟨fun hk => hkind hk.kind, hns, rfl⟩)
  rename_i hkind
  exact .inr (.inl ⟨⟨h.1.1, h.1.2, h.2, not_not.mp hid, not_not.mp hkind⟩, rfl⟩)

theorem stationFinished_path (env : Env) {r : OperationResult} (h : (core d c).Completes r)
    (allowed : A.completion (core d c) r) :
    Path A (core d c) (core d ((c.record (.delivered r)).stationFinished env r)) := by
  by_cases he : c.transition_ = .kEnable ∧ (core d c).outcome r = .kOk
  · rw [core_enableFinished (c := c.record (.delivered r)) env he.1 he.2]
    exact .head (.enableFinished r env.writeEnabled h allowed he.1 he.2)
      (.single (.noted _ trivial))
  have hne := not_and_or.mp he
  by_cases hv : c.activeRevision_ = c.state_.revision
  · by_cases hc : c.transition_ = .kConnect
    · obtain ⟨w, x, hw, hx, hk⟩ :=
        core_connectFinished (d := d) (c := c.record (.delivered r)) env (r := r) hv hc
      obtain ⟨hs, hk⟩ | ⟨retry, level, hf, hk⟩ := hk
      · have hm := Move.connectFinished (A := A) r w h allowed hv hc hw hs
        rw [hk]
        obtain rfl | ⟨-, rfl⟩ := hx
        · exact .single hm
        · exact .head hm (.single (.noted (.writeLastProfile c.state_.desiredProfile w) trivial))
      · have hm := fun saved => Move.connectFailed (A := A) r w retry level saved h allowed hv hc
          ⟨hf.notOk, hf.pending⟩
        rw [hk]
        obtain rfl | ⟨-, rfl⟩ := hx
        · exact .single (hm [] (.inl rfl))
        · exact .single (hm [.writeLastProfile c.state_.desiredProfile w] (.inr ⟨_, rfl⟩))
    · rw [core_stationFinished (c := c.record (.delivered r)) env hv hc hne]
      exact .single (.stationFinished r h allowed hv hc hne)
  · rw [core_staleFinished (c := c.record (.delivered r)) env hne hv]
    exact .single (.staleFinished r h allowed hne hv)

theorem operationFinished_path (env : Env) (r : OperationResult)
    (allowed : (core d c).Completes r → A.completion (core d c) r) :
    Path A (core d c) (core d ((c.record (.delivered r)).onOperationFinished env r)) := by
  obtain ⟨h, hk⟩ | ⟨h, hk⟩ | ⟨h, hs, hk⟩ :=
    onOperationFinished_cases (d := d) (c := c.record (.delivered r)) env r
  · rw [hk, core_scanFinished]
    exact .single (.scanFinished r ⟨h.running, h.faulted, h.nonzero, h.id, h.kind⟩)
  · have h' : (core d c).Completes r := ⟨h.running, h.faulted, h.nonzero, h.id, h.kind⟩
    rw [hk]
    exact stationFinished_path env h' (allowed h')
  · rw [hk]
    refine .single (.noted _ ⟨fun h' => h ?_, fun h' => hs ?_⟩)
    · exact ⟨h'.running, h'.faulted, h'.nonzero, h'.id, h'.kind⟩
    · exact ⟨h'.running, h'.faulted, h'.nonzero, h'.id, h'.kind⟩

theorem enabledChanged_path (enabled : Bool)
    (allowed : c.running_ = true → c.faulted_ = false → A.enabledReport (core d c) enabled) :
    Path A (core d c) (core d (c.onEnabledChanged enabled)) := by
  unfold onEnabledChanged
  split
  · exact .refl
  rename_i h
  simp only [Bool.or_eq_true, Bool.not_eq_eq_eq_not, Bool.not_true, not_or, Bool.not_eq_false,
    Bool.not_eq_true] at h
  rw [core_changed]
  exact .single (.enabledReported enabled h.1 h.2 (allowed h.1 h.2))

/-! Link updates: the address block acts on a link that is up, the loss block on
one that is not. -/

theorem core_observeAddress_ready (now : Nat) (previous : LinkPhase) {link : LinkState}
    (hr : link.phase = .kAddressReady) :
    core d (c.observeAddress now previous link) =
      if c.transition_ = .kNone ∧ (c.state_.retry.pending = true ∨
          (previous ≠ .kAddressReady ∧ c.state_.retry.failure = .kAddressTimeout)) then
        (core d c).recovered
      else (core d c).address ⊤ := by
  unfold observeAddress
  extract_lets c₁ c₂ c₃
  rw [if_pos hr]
  have h₂ : core d c₂ = (core d c).address ⊤ := by unfold c₂; split <;> rfl
  have ht : c₂.transition_ = c.transition_ := congrArg Core.transition h₂
  have hy : c₂.state_.retry = c.state_.retry := congrArg Core.retry h₂
  rw [ht, hy]
  split
  · change { (core d c₂).cancelRetry with
      attempted := (core d c₂).revision
      status := .kOk } = (core d c).recovered
    rw [h₂]; rfl
  · exact h₂

theorem core_observeAddress_unready (now : Nat) (previous : LinkPhase) {link : LinkState}
    (hr : link.phase ≠ .kAddressReady) :
    ∃ deadline : Uptime,
      (if previous = .kAddressReady ∧ link.phase = .kAssociated ∧ c.transition_ = .kNone then
        deadline ≠ ⊤ else deadline = c.addressDeadline_) ∧
      core d (c.observeAddress now previous link) = (core d c).address deadline := by
  unfold observeAddress
  rw [if_neg hr]
  dsimp only
  split
  · exact ⟨_, WithTop.coe_ne_top, rfl⟩
  · exact ⟨_, rfl, rfl⟩

theorem core_observeLoss_up (now : Nat) (previous : LinkPhase) {link : LinkState}
    (hi : link.phase ≠ .kIdle) : c.observeLoss now previous link = c := if_neg hi

theorem core_observeLoss_idle (now : Nat) (previous : LinkPhase) {link : LinkState}
    (hi : link.phase = .kIdle) :
    if c.transition_ = .kNone ∧ previous ≠ .kIdle ∧ c.state_.desired = .kConnected then
      ∃ status r level, status = (if link.reason = .kOk then Status.kConnectionFailed
          else link.reason) ∧ (core d c).Failure status r ∧
        core d (c.observeLoss now previous link) =
          ((core d c).note (.failed link.connectionId)).failed status r level
    else core d (c.observeLoss now previous link) = (core d c).address ⊤ := by
  unfold observeLoss
  rw [if_pos hi]
  extract_lets _ c₁
  split
  · rename_i h
    have hs : (if link.reason = .kOk then Status.kConnectionFailed else link.reason) ≠ .kOk := by
      split
      · simp
      · assumption
    obtain ⟨r, level, hf, he⟩ := core_connectionFailed
      (c := c₁.record (.failed link.connectionId)) (d := d) now link.failure
      link.nativeCode link.hasNativeCode hs
    exact ⟨_, r, level, rfl, ⟨hf.notOk, hf.pending⟩, he.trans rfl⟩
  · rfl

theorem linkChanged_path (env : Env) (link : LinkState)
    (allowed : (core d c).Hears link → A.linkReport (core d c) link) :
    Path A (core d c) (core d (c.onLinkChanged env link)) := by
  unfold onLinkChanged
  split
  · exact .refl
  rename_i hr
  simp only [Bool.or_eq_true, Bool.not_eq_eq_eq_not, Bool.not_true, not_or, Bool.not_eq_false,
    Bool.not_eq_true] at hr
  split
  · exact .refl
  rename_i hid
  have hh : (core d c).Hears link := by
    refine ⟨hr.1, hr.2, ?_⟩
    by_cases h : link.connectionId = c.state_.link.connectionId
    · exact .inl h
    · exact .inr (show c.transition_ = .kConnect ∧ link.connectionId = c.stationId_ by
        simpa [h] using hid)
  extract_lets previous _ c₁ c₂ c₃
  have h₁ : core d c₁ = (core d c).heard link := rfl
  rw [core_scheduleTimeouts, core_changed]
  by_cases hready : link.phase = .kAddressReady
  · -- an address: either a recovery or nothing but the link itself
    have h₂ : core d c₂ = _ := core_observeAddress_ready (c := c₁) (env.now 0) previous hready
    rw [h₁] at h₂
    rw [show c₃ = c₂ from core_observeLoss_up _ _ (by simp [hready]), h₂]
    split
    · rename_i h
      exact .single (.linkRecovered link hh (allowed hh) ⟨hready, h⟩)
    · rename_i h
      exact .single (.linkReady link hh (allowed hh) hready fun hrec => h hrec.2)
  · obtain ⟨deadline, harm, h₂⟩ := core_observeAddress_unready (d := d) (c := c₁) (env.now 0)
      previous hready
    by_cases hidle : link.phase = .kIdle
    · have h₃ := core_observeLoss_idle (d := d) (c := c₂) (env.now 1) previous hidle
      have hT : c₂.transition_ = c.transition_ := congrArg Core.transition h₂
      have hD : c₂.state_.desired = c.state_.desired := congrArg Core.desired h₂
      rw [hT, hD] at h₃
      split at h₃
      · rename_i hl
        obtain ⟨status, r, level, hreason, hf, h₃⟩ := h₃
        rw [show c₃ = c₂.observeLoss (env.now 1) previous link from rfl, h₃,
          show core d c₂ = _ from h₂]
        rw [show core d c₂ = _ from h₂] at hf
        exact .single (.linkLost link status r level hh (allowed hh) ⟨hidle, hl⟩ hreason
          ⟨hf.notOk, hf.pending⟩)
      · rename_i hl
        rw [show c₃ = c₂.observeLoss (env.now 1) previous link from rfl, h₃,
          show core d c₂ = _ from h₂]
        exact .single (.linkIdle link hh (allowed hh) hidle fun h => hl h.2)
    · rw [show c₃ = c₂ from core_observeLoss_up _ _ hidle, show core d c₂ = _ from h₂]
      exact .single (.linkPartial link deadline hh (allowed hh) hready hidle harm)

/-! ## Timers -/

theorem retry_path (asked : A.requests) (env : Env) : Path A (core d c) (core d (c.retry env)) := by
  unfold retry
  extract_lets c₁
  split
  · rename_i h
    refine .single (.retryIdle (fun hr => ?_) asked)
    have hr' : c₁.running_ = true := hr
    have h' : c₁.faulted_ = true ∨ c₁.state_.desired ≠ .kConnected ∨ c₁.autoConnect_ = false := by
      simpa [hr', or_assoc] using h
    exact h'
  rename_i h
  simp only [Bool.or_eq_true, Bool.not_eq_eq_eq_not, Bool.not_true, decide_eq_true_eq, not_or,
    Bool.not_eq_false, Bool.not_eq_true, ne_eq, Classical.not_not] at h
  obtain ⟨⟨⟨hr, hf⟩, hd⟩, ha⟩ := h
  cases hl : c₁.loadProfile env 0 c₁.state_.desiredProfile with
  | mk status profile =>
    dsimp only
    split
    · rename_i hs
      rw [core_changed]
      have hm := Move.retryDenied (A := A) (c := core d c) c.state_.desiredProfile status
        profile.settings.autoConnect hr (by simpa using hs) asked
      by_cases hk : status = .kOk
      · rw [if_neg (not_not.mpr hk)]
        rw [if_neg (not_not.mpr hk)] at hm
        exact .single hm
      · rw [if_pos hk]
        rw [if_pos hk] at hm
        exact .single hm
    · rename_i hs
      simp only [ne_eq, Bool.not_eq_eq_eq_not, Bool.not_true, not_or, Classical.not_not,
        Bool.not_eq_false] at hs
      rw [core_work, core_changed, hs.1, hs.2]
      exact .single (.retryGranted hr hf hd ha (loadProfile_valid (c := c₁)
        ((congrArg Prod.fst hl).trans hs.1)) asked)

theorem checkLinkDeadlines_path (env : Env) (hr : c.running_ = true) (hf : c.faulted_ = false)
    (allowed : ((env.now 0 : Nat) : Uptime) ≥ c.addressDeadline_ → A.addressExpiry (core d c)) :
    Path A (core d c) (core d (c.checkLinkDeadlines env)) ∧
      (core d (c.checkLinkDeadlines env)).running = true ∧
      (core d (c.checkLinkDeadlines env)).faulted = false := by
  unfold checkLinkDeadlines
  extract_lets now _ c₁ c₂
  have h₁ : core d c₁ = core d c ∨ core d c₁ = { core d c with retry := {}, retryLevel := 0 } := by
    unfold c₁
    split
    · exact .inr (core_changed _)
    · exact .inl rfl
  have ha : c₁.addressDeadline_ = c.addressDeadline_ := by
    obtain h | h := h₁ <;> exact congrArg Core.addressDeadline h
  rw [ha]
  split
  · rename_i hx
    obtain ⟨r, level, hfail, he⟩ := core_connectionFailed (c := c₂) (d := d) (env.now 1)
      .kAddressTimeout 0 false (show Status.kTimeout ≠ .kOk by simp)
    rw [core_changed, he]
    rw [show core d c₂ = ((core d c₁).address ⊤).note (.failed (core d c₁).linkId) from rfl] at hfail ⊢
    obtain h | h := h₁
    · rw [h] at hfail ⊢
      exact ⟨.single (.addressExpired false r level hr hf (allowed hx)
        ⟨hfail.notOk, hfail.pending⟩), hr, hf⟩
    · rw [h] at hfail ⊢
      exact ⟨.single (.addressExpired true r level hr hf (allowed hx)
        ⟨hfail.notOk, hfail.pending⟩), hr, hf⟩
  · obtain h | h := h₁
    · rw [h]; exact ⟨.refl, hr, hf⟩
    · rw [h]; exact ⟨.single (.stable hr), hr, hf⟩

theorem checkStationDeadline_path (env : Env) (hr : c.running_ = true) (hf : c.faulted_ = false) :
    Path A (core d c) (core d (c.checkStationDeadline env)) ∧
      (core d (c.checkStationDeadline env)).running = true := by
  unfold checkStationDeadline
  split
  · rename_i hs
    split
    · rw [core_fault]
      exact ⟨.single (.faulted _ hr hf (by simp)), hr⟩
    · rename_i ht
      simp only [ne_eq, not_or, Classical.not_not, Bool.not_eq_true] at ht
      dsimp only
      split
      · rename_i hk
        rw [core_fault]
        exact ⟨.single (.stuck true env.cancelConnect .kTimeout hr hf ht.1 ht.2 hk (by simp)), hr⟩
      · rename_i hk
        rw [core_changed]
        have hm := Move.expired (A := A) (c := core d c) hr hf hs.1 ht.1 ht.2
        rw [← not_not.mp hk] at hm
        exact ⟨.single hm, hr⟩
  · exact ⟨.refl, hr⟩

theorem checkScanDeadline_path (env : Env) (hr : c.running_ = true) (hf : c.faulted_ = false) :
    Path A (core d c) (core d (c.checkScanDeadline env)) := by
  unfold checkScanDeadline
  split
  · split
    · rw [core_fault]
      exact .single (.faulted _ hr hf (by simp))
    · exact cancelScan_or_fault (c := { c with scanTimedOut_ := true }) env (env.now 4) .kTimeout hr hf
        fun _ => by simp
  · exact .refl

theorem checkTimeouts_path (env : Env)
    (allowed : c.running_ = true → c.faulted_ = false →
      ((env.now 0 : Nat) : Uptime) ≥ c.addressDeadline_ → A.addressExpiry (core d c)) :
    Path A (core d c) (core d (c.checkTimeouts env)) := by
  unfold checkTimeouts
  split
  · exact .refl
  rename_i h
  simp only [Bool.or_eq_true, Bool.not_eq_eq_eq_not, Bool.not_true, not_or, Bool.not_eq_false,
    Bool.not_eq_true] at h
  extract_lets c₁ c₂ c₃
  obtain ⟨p₁, hr₁, hf₁⟩ := checkLinkDeadlines_path env h.1 h.2 (allowed h.1 h.2)
  obtain ⟨p₂, hr₂⟩ := checkStationDeadline_path (A := A) (d := d) (c := c₁) env hr₁ hf₁
  split
  · exact p₁.trans p₂
  rename_i hf₂
  have p₃ := checkScanDeadline_path (A := A) (d := d) (c := c₂) env hr₂ (by simpa using hf₂)
  split
  · exact (p₁.trans p₂).trans p₃
  · exact (p₁.trans p₂).trans p₃

/-! ## The work task -/

/-- The answer to a station command. -/
def Env.answer (env : Env) : Transition → Status
  | .kEnable => env.setEnabled
  | .kConnect => env.connect
  | _ => env.disconnect

/-- The state in which `issueStation` is entered for transition `t`. -/
def Core.chosen (t : Transition) (x : Core) : Core :=
  { x with
    active := x.revision
    timedOut := false
    transition := t
    transitionEnabled := if t = .kEnable then decide (x.desired ≠ .kDisabled)
      else x.transitionEnabled
    retry := counted t x.retry }

theorem submitStation_spec (env : Env) {x : Core} {t : Transition} (h : x.Due t)
    (hc : core d c = { x.chosen t with stationId := x.nextId, nextId := (x.nextId + 1) % 2 ^ 64 }) :
    (c.submitStation env).1 = env.answer t ∧
      core d (c.submitStation env).2 = x.issued t (env.answer t) := by
  have ht : c.transition_ = t := congrArg Core.transition hc
  have hi : c.stationId_ = x.nextId := congrArg Core.stationId hc
  unfold submitStation
  rw [ht]
  cases t with
  | kNone => exact h.chosen.elim
  | kEnable =>
    have he : c.transitionEnabled_ = decide (x.desired ≠ .kDisabled) :=
      congrArg Core.transitionEnabled hc
    exact ⟨rfl, by rw [core_record, hc, hi, he]; rfl⟩
  | kConnect =>
    have h1 : c.config_ = x.config := congrArg Core.config hc
    have h2 : c.credentials_ = x.credentials := congrArg Core.credentials hc
    exact ⟨rfl, by rw [core_record, hc, hi, h1, h2]; rfl⟩
  | kDisconnect => exact ⟨rfl, by rw [core_record, hc, hi]; rfl⟩

theorem Transition.kind_ne_scan (t : Transition) : t.kind ≠ .kScan := by
  cases t <;> simp [Transition.kind]

@[simp] theorem Core.counted_pending (t : Transition) (r : RetryState) :
    (Core.counted t r).pending = r.pending := by
  unfold Core.counted; split <;> rfl

/-- A refused command is completed on the spot, as one move. -/
theorem refused_path (env : Env) {x : Core} {t : Transition} {r : OperationResult} (h : x.Due t)
    (hc : core d c = x.issued t r.status) (hid : x.nextId ≠ 0) (notOk : r.status ≠ .kOk)
    (hrid : r.id = c.stationId_) (hrk : r.kind = c.transition_.kind)
    (allowed : x.Again → A.reissue x.desired) :
    Path A x (core d (c.onOperationFinished env r)) ∧
      (core d (c.onOperationFinished env r)).scan = .kIdle ∧
      (core d (c.onOperationFinished env r)).work = true := by
  have hi : c.stationId_ = x.nextId := congrArg Core.stationId hc
  have ht : c.transition_ = t := congrArg Core.transition hc
  have hrev : c.state_.revision = x.revision := congrArg Core.revision hc
  have hv : c.activeRevision_ = c.state_.revision := (congrArg Core.active hc).trans hrev.symm
  have ho : (core d c).outcome r = r.status := by rw [hc]; rfl
  obtain ⟨hk, -⟩ | ⟨-, he⟩ | ⟨hk, -, -⟩ := onOperationFinished_cases (d := d) (c := c) env r
  · exact absurd (hrk.symm.trans hk.kind) (Transition.kind_ne_scan _)
  · rw [he]
    by_cases htc : t = .kConnect
    · subst htc
      obtain ⟨w, y, hw, hy, hk⟩ := core_connectFinished (d := d) env (r := r) hv ht
      rw [ho] at hw hy
      obtain rfl : w = r.status := hw.resolve_left notOk
      obtain rfl : y = (core d c).retired := hy.resolve_right fun h => notOk h.1
      rw [hrev, hc] at hk
      obtain ⟨hs, hk⟩ | ⟨retry, level, hf, hk⟩ := hk
      · rw [hk]
        exact ⟨.single (.refused .kConnect _ h notOk (.inr (hs.resolve_left notOk)) allowed),
          h.noScan, rfl⟩
      · rw [hk, hrid, hi]
        have hp : retry.pending = true → _ := hf.pending
        simp only [Core.issued, Core.counted_pending] at hp
        exact ⟨.single (.connectRefused _ retry level h ⟨notOk, hp⟩), h.noScan, rfl⟩
    · rw [core_stationFinished env hv (ht ▸ htc) (.inr (ho ▸ notOk)), ho, hc, Core.concluded,
        if_neg notOk]
      exact ⟨.single (.refused t _ h notOk (.inl htc) allowed), h.noScan, rfl⟩
  · refine absurd ⟨?_, ?_, ?_, hrid, hrk⟩ hk
    · rw [hc]; exact h.running
    · rw [hc]; exact h.faulted
    · rw [hrid, hi]; exact hid

theorem issueStation_path (env : Env) {x : Core} {t : Transition} (h : x.Due t)
    (hc : core d c = x.chosen t) (hid : x.nextId ≠ 0)
    (allowed : x.Again → A.reissue x.desired) :
    Path A x (core d (c.issueStation env)) ∧ (c.issueStation env).state_.scan = .kIdle ∧
      (core d (c.issueStation env)).Rested := by
  unfold issueStation
  extract_lets c₁
  have hn : c.nextId_ = x.nextId := congrArg Core.nextId hc
  have h₁ : core d c₁ = { x.chosen t with
      stationId := x.nextId
      nextId := (x.nextId + 1) % 2 ^ 64 } := by
    rw [← hn, ← hc]; rfl
  obtain ⟨hs, h₂⟩ := submitStation_spec env h h₁
  split
  rename_i status c₂ heq
  obtain rfl : c₂ = (c₁.submitStation env).2 := by rw [heq]
  obtain rfl : status = env.answer t := by rw [← hs, heq]
  extract_lets c₃
  have h₃ : core d c₃ = x.issued t (env.answer t) := by rw [← h₂]; exact core_changed _
  split
  · rename_i hno
    obtain ⟨hp, hscan, hwork⟩ := refused_path (A := A) env
      (r := { id := c₃.stationId_, kind := c₃.transition_.kind, status := env.answer t })
      h h₃ hid hno rfl rfl allowed
    exact ⟨hp, hscan, .inr (.inr (.inr (.inr (.inr (.inl hwork)))))⟩
  · rename_i hok
    rw [not_not.mp hok] at h₃
    refine ⟨h₃ ▸ .single (.issued t h allowed), ?_, .inr (.inr (.inl ?_))⟩
    · exact (congrArg Core.scan h₃).trans h.noScan
    · rw [h₃]
      rintro rfl
      exact h.chosen

theorem executeScan_path (env : Env)
    (h : c.state_.scan = .kQueued → (core d c).Admits ∧ c.nextId_ ≠ 0) :
    Path A (core d c) (core d (c.executeScan env)) ∧
      ((core d c).Rested → (core d (c.executeScan env)).Rested) := by
  unfold executeScan
  extract_lets _ c₁ c₂ c₃ c₄
  rw [core_scheduleTimeouts]
  by_cases hq : c.transition_ = .kNone ∧ c.state_.scan = .kQueued
  · rw [show c₄ = _ from if_pos hq]
    have h₃ : core d c₃ = { core d c with
        scanId := c.nextId_
        nextId := (c.nextId_ + 1) % 2 ^ 64
        scan := .kRunning }.note
          (.startScan c.nextId_ c.options_.maxScanResults env.startScan) := core_changed _
    by_cases hk : env.startScan = .kOk
    · rw [if_neg (not_not.mpr hk), h₃, hk]
      exact ⟨.single (.scanStarted _ (h hq.2).1 hq.1 hq.2),
        fun _ => .inr (.inr (.inr (.inl (by simp [Core.note]))))⟩
    · rw [if_pos hk]
      obtain ⟨ha, hid⟩ := h hq.2
      obtain ⟨-, he⟩ | ⟨hc, -⟩ | ⟨-, hc, -⟩ := onOperationFinished_cases (d := d) (c := c₃) env
        { id := c₃.scanId_, kind := .kScan, status := env.startScan }
      · rw [he, core_scanFinished, h₃]
        exact ⟨.single (.scanRefused _ _ ha hq.1 hq.2 hk),
          fun _ => .inr (.inr (.inr (.inr (.inr (.inl rfl)))))⟩
      · exact absurd hc.kind.symm (Transition.kind_ne_scan _)
      · refine absurd ⟨?_, ?_, ?_, rfl, rfl⟩ hc
        · rw [h₃]; exact ha.running
        · rw [h₃]; exact ha.faulted
        · rw [show c₃.scanId_ = c.nextId_ from congrArg Core.scanId h₃]; exact hid
  · rw [show c₄ = c from if_neg hq]
    exact ⟨.refl, id⟩

theorem restoreLast_cases (env : Env) (status : Status) (ssid : Ssid) :
    (c.restoreLast env status ssid).2 = c ∨ (ssid.Valid ∧ ∃ config credentials automatic,
      c.restoreLast env status ssid =
        c.requestConnection env config credentials ssid automatic) := by
  unfold restoreLast
  split
  split
  · exact (connectSaved_cases env 1 ssid).imp And.right id
  · exact .inl rfl

theorem restoreProfile_path (env : Env) (h : (core d c).Admits) (hr : c.restoreProfile_ = true) :
    Path A (core d c) (core d (c.restoreProfile env)).wake := by
  unfold restoreProfile
  extract_lets c'
  split
  rename_i status ssid _
  split
  · exact .single (.unrestored c.state_.status h.running hr (.inl rfl))
  have hpub : ∀ p : Status × Controller, core d (if p.1 ≠ .kOk then
      { p.2 with state_.status := p.1 }.changed .kStation else p.2) =
      { core d p.2 with status := if p.1 ≠ .kOk then p.1 else p.2.state_.status } := by
    intro p
    split
    · rw [core_changed]; rfl
    · rfl
  refine Eq.mpr (congrArg (fun x : Core => Path A (core d c) x.wake)
    (hpub (c'.restoreLast env status ssid))) ?_
  obtain hc | ⟨hv, config, credentials, automatic, hc⟩ := restoreLast_cases (c := c') env status ssid
  · rw [hc]
    refine .single (.unrestored _ h.running hr ?_)
    split
    · exact .inr ‹_›
    · exact .inl rfl
  · rw [hc]
    obtain ⟨hk, hs⟩ | ⟨hk, -, hd, ⟨hconn, -, -, -, hs⟩ | hs⟩ :=
      requestConnection_cases (d := d) (c := c') env config credentials ssid automatic
    · rw [hs, if_pos hk]
      exact .single (.unrestored _ h.running hr (.inr hk))
    · rw [hs, hk, if_neg (by simp)]
      exact .single (.restoredSame config credentials ssid automatic h.running hr hconn)
    · have hst : (c'.requestConnection env config credentials ssid automatic).2.state_.status =
          .kOk := congrArg Core.status hs
      rw [hs, hk, if_neg (by simp), hst]
      exact .single (.restored config credentials ssid automatic h hr hd hv)

/-- A station command is followed by the scan block, which finds nothing queued. -/
theorem issueStation_executeScan (env : Env) {x : Core} {t : Transition} (h : x.Due t)
    (hc : core d c = x.chosen t) (hid : x.nextId ≠ 0)
    (allowed : x.Again → A.reissue x.desired) :
    Path A x (core d ((c.issueStation env).executeScan env)) ∧
      (core d ((c.issueStation env).executeScan env)).Rested := by
  obtain ⟨hp, hs, hr⟩ := issueStation_path env h hc hid allowed
  obtain ⟨hp', hr'⟩ := executeScan_path (A := A) (d := d) (c := c.issueStation env) env
    fun hq => by rw [hs] at hq; cases hq
  exact ⟨hp.trans hp', hr' hr⟩

theorem executeStation_path (env : Env) (needs : Bool) (h : (core d c).Admits)
    (free : c.transition_ = .kNone) (hid : c.nextId_ ≠ 0)
    (needed : needs = true → c.state_.scan = .kIdle ∧
      (c.initialized_ = false ∨ c.attemptedRevision_ ≠ c.state_.revision))
    (settled : needs = false → c.initialized_ = true ∧ c.attemptedRevision_ = c.state_.revision)
    (allowed : (core d c).Again → A.reissue c.state_.desired) :
    Path A (core d c) (core d (c.executeStation env needs)) ∧
      (core d (c.executeStation env needs)).Rested := by
  unfold executeStation
  split
  · rename_i hn
    obtain ⟨hscan, hne⟩ := needed hn.1
    have hpend : c.state_.retry.pending = false := by simpa using hn.2
    dsimp only
    split
    · rename_i hl
      exact issueStation_executeScan env (x := core d c) (t := .kDisconnect)
        ⟨h, free, hscan, hpend, hne, hl⟩ rfl hid allowed
    rename_i hl
    have hl : c.state_.link.phase = .kIdle := not_not.mp hl
    split
    · rename_i he
      refine issueStation_executeScan env (x := core d c) (t := .kEnable)
        ⟨h, free, hscan, hpend, hne, hl, ?_⟩ rfl hid allowed
      exact he.imp (fun h => show c.initialized_ = false by simpa using h) id
    rename_i he
    have he : c.initialized_ = true ∧ c.state_.enabled = decide (c.state_.desired ≠ .kDisabled) :=
      ⟨by simpa using (not_or.mp he).1, not_not.mp (not_or.mp he).2⟩
    split
    · rename_i hr
      rw [core_work]
      have hp := restoreProfile_path (A := A) (d := d) (c := { c with
        activeRevision_ := c.state_.revision, stationTimedOut_ := false }) env
        ⟨h.running, h.faulted, h.hasId⟩ hr
      exact ⟨.head (.aimed free) hp, .inr (.inr (.inr (.inr (.inr (.inl rfl)))))⟩
    rename_i hr
    have hr : c.restoreProfile_ = false := by simpa using hr
    split
    · rename_i hd
      exact issueStation_executeScan env (x := core d c) (t := .kConnect)
        ⟨h, free, hscan, hpend, hne, hl, he.1, he.2, hr, hd⟩ rfl hid allowed
    · rename_i hd
      obtain ⟨hp, hrest⟩ := executeScan_path (A := A) (d := d) (c := { c with
        activeRevision_ := c.state_.revision
        stationTimedOut_ := false
        attemptedRevision_ := c.state_.revision }.changed .kStation) env fun hq => by
          simp only [changed] at hq
          split at hq <;> exact absurd (hscan.symm.trans hq) (by simp)
      rw [core_changed] at hp hrest
      refine ⟨.head (.aimed free) (.head (.settled ⟨h.running, h.faulted, h.hasId⟩ free hscan hpend
        hl he.1 he.2 hr hd) hp), hrest ?_⟩
      exact .inr (.inr (.inr (.inr (.inr (.inr ⟨he.1, rfl⟩)))))
  · rename_i hn
    obtain ⟨hp, hr⟩ := executeScan_path (A := A) (d := d) (c := c) env fun _ => ⟨h, hid⟩
    refine ⟨hp, hr ?_⟩
    cases hpend : c.state_.retry.pending with
    | true => exact .inr (.inr (.inr (.inr (.inl hpend))))
    | false =>
      have hn : needs = false := by simpa [hpend] using hn
      exact .inr (.inr (.inr (.inr (.inr (.inr (settled hn))))))

theorem supersede_cases (env : Env) (hr : c.running_ = true) (hf : c.faulted_ = false) :
    c.supersede env = c ∨
    (Path A (core d c) (core d (c.supersede env)) ∧
      ((core d (c.supersede env)).faulted = true ∨
        (core d (c.supersede env)).transition ≠ .kNone)) := by
  unfold supersede
  split
  · rename_i h
    refine .inr ?_
    simp only [Bool.not_eq_eq_eq_not, Bool.not_true] at h
    dsimp only
    split
    · rename_i hk
      rw [core_fault]
      exact ⟨.single (.stuck c.stationTimedOut_ _ _ hr hf h.1 h.2.2 hk hk), .inl rfl⟩
    · rename_i hk
      rw [core_changed]
      have hm := Move.superseded (A := A) (c := core d c) hr hf h.1 h.2.2 h.2.1
      rw [← not_not.mp hk] at hm
      refine ⟨.single hm, .inr ?_⟩
      change c.transition_ ≠ .kNone
      simp [h.1]
  · exact .inl rfl

theorem executeIdle_path (env : Env) (h : (core d c).Admits) (free : c.transition_ = .kNone)
    (hid : c.nextId_ ≠ 0) (allowed : (core d c).Again → A.reissue c.state_.desired) :
    Path A (core d c) (core d (c.executeIdle env)) ∧ (core d (c.executeIdle env)).Rested := by
  unfold executeIdle
  extract_lets needs
  have hneeds : needs = true → c.initialized_ = false ∨
      c.attemptedRevision_ ≠ c.state_.revision := by simp [needs]
  have hsettled : needs = false → c.initialized_ = true ∧
      c.attemptedRevision_ = c.state_.revision := by simp [needs]
  split
  · rename_i hs
    have hscan : c.state_.scan ≠ .kIdle := by simpa [isScanning] using hs.2
    obtain ⟨q, hq⟩ : ∃ q, q = if (c.cancelScan env (env.now 1)).1 ≠ .kOk then
        (c.cancelScan env (env.now 1)).2.fault (c.cancelScan env (env.now 1)).1
      else (c.cancelScan env (env.now 1)).2 := ⟨_, rfl⟩
    have hp : Path A (core d c) (core d q) := hq ▸ cancelScan_or_fault env (env.now 1)
      (c.cancelScan env (env.now 1)).1 h.running h.faulted id
    -- either the scan stays in the way or it was only queued and is gone
    have hgone : (q.isScanning || q.faulted_) = true ∨
        core d q = { core d c with scan := .kIdle, work := true } := by
      rw [hq]
      obtain ⟨hk, -⟩ | ⟨hk, -, he⟩ | ⟨hk, -, -⟩ | ⟨hk, -, he⟩ :=
        cancelScan_cases (d := d) env (env.now 1) h.running
      · rw [hk]
        exact .inl (by simp [hs.2])
      · rw [if_neg (not_not.mpr hk)]
        exact .inr he
      · rw [if_pos hk]
        have hf := congrArg Core.faulted (core_fault (d := d) (c := (c.cancelScan env (env.now 1)).2)
          (c.cancelScan env (env.now 1)).1)
        exact .inl (Bool.or_eq_true_iff.mpr (.inr hf))
      · rw [if_neg (not_not.mpr hk)]
        have hc : (c.cancelScan env (env.now 1)).2.state_.scan = .kCancelling :=
          congrArg Core.scan he
        exact .inl (by simp [isScanning, hc])
    suffices hgoal : Path A (core d c) (core d (if q.isScanning || q.faulted_ then q
          else q.executeStation env needs)) ∧
        (core d (if q.isScanning || q.faulted_ then q
          else q.executeStation env needs)).Rested by
      rw [hq] at hgoal
      exact hgoal
    by_cases hx : (q.isScanning || q.faulted_) = true
    · rw [if_pos hx]
      refine ⟨hp, ?_⟩
      obtain hi | hf := Bool.or_eq_true_iff.mp hx
      · exact .inr (.inr (.inr (.inl (show q.state_.scan ≠ .kIdle by
          simpa [isScanning] using hi))))
      · exact .inr (.inl hf)
    · rw [if_neg hx]
      have he := hgone.resolve_left hx
      have hi : q.initialized_ = c.initialized_ := congrArg Core.initialized he
      have hA : q.attemptedRevision_ = c.attemptedRevision_ := congrArg Core.attempted he
      have hR : q.state_.revision = c.state_.revision := congrArg Core.revision he
      have hN : q.nextId_ = c.nextId_ := congrArg Core.nextId he
      have hD : q.state_.desired = c.state_.desired := congrArg Core.desired he
      have hstep := executeStation_path (A := A) (d := d) (c := q) env needs
        ⟨(congrArg Core.running he).trans h.running, (congrArg Core.faulted he).trans h.faulted,
          fun hm => h.hasId (hN.symm.trans hm)⟩
        ((congrArg Core.transition he).trans free) (hN ▸ hid)
        (fun hn => ⟨congrArg Core.scan he, by rw [hi, hA, hR]; exact hneeds hn⟩)
        (fun hn => by rw [hi, hA, hR]; exact hsettled hn)
        (fun hn => hD ▸ allowed ⟨hi.symm.trans hn.1, hA.symm.trans (hn.2.trans hR)⟩)
      exact ⟨hp.trans hstep.1, hstep.2⟩
  · rename_i hs
    refine executeStation_path env needs h free hid (fun hn => ⟨?_, hneeds hn⟩) hsettled allowed
    simpa [hn, isScanning] using hs

theorem execute_path (env : Env) (hid : c.nextId_ ≠ 0)
    (allowed : c.running_ = true → c.faulted_ = false → c.nextId_ ≠ OperationId.max →
      c.transition_ = .kNone → (core d c).Again → A.reissue c.state_.desired) :
    Path A (core d c) (core d (c.execute env)) ∧ (core d (c.execute env)).Rested := by
  unfold execute
  split
  · rename_i h
    refine ⟨.refl, ?_⟩
    obtain h | h : c.running_ = false ∨ c.faulted_ = true := by simpa using h
    · exact .inl h
    · exact .inr (.inl h)
  rename_i h
  obtain ⟨hr, hf⟩ : c.running_ = true ∧ c.faulted_ = false := by simpa using h
  split
  · rw [core_fault]
    exact ⟨.single (.faulted _ hr hf (by simp)), .inr (.inl rfl)⟩
  rename_i hmax
  dsimp only
  obtain hc | ⟨hp, hc⟩ := supersede_cases (A := A) (d := d) env hr hf
  · rw [hc, if_neg (by simp [hf])]
    split
    · rename_i ht
      rw [core_scheduleTimeouts]
      exact ⟨.refl, .inr (.inr (.inl ht))⟩
    · rename_i ht
      have ht := not_not.mp ht
      exact executeIdle_path env ⟨hr, hf, hmax⟩ ht hid (allowed hr hf hmax ht)
  · split
    · rename_i hx
      exact ⟨hp, .inr (.inl hx)⟩
    rename_i hx
    have ht : (c.supersede env).transition_ ≠ .kNone := hc.resolve_left hx
    rw [if_pos ht, core_scheduleTimeouts]
    exact ⟨hp, .inr (.inr (.inl ht))⟩

/-! ## The refinement -/

/-- The input respects the assumptions in the state it meets. -/
def Permits (A : Assumptions) (c : Controller) (i : Input) : Prop :=
  match i.event with
  | .work => c.work_ = true → c.running_ = true → c.faulted_ = false →
      c.nextId_ ≠ OperationId.max → c.transition_ = .kNone →
      (core false c).Again → A.reissue c.state_.desired
  | .timer => c.timer_ ≠ ⊤ → c.running_ = true → c.faulted_ = false →
      ((i.env.now 0 : Nat) : Uptime) ≥ c.addressDeadline_ → A.addressExpiry (core false c)
  | .operationFinished r => (core false c).Completes r → A.completion (core false c) r
  | .linkChanged link => (core false c).Hears link → A.linkReport (core false c) link
  | .enabledChanged enabled => c.running_ = true → c.faulted_ = false →
      A.enabledReport (core false c) enabled
  | .notify react => A.Listens react
  | .call _ | .reconnect => A.requests

instance [Decidable A.requests] [DecidablePred A.Listens] [DecidablePred A.reissue]
    [DecidableRel A.completion] [DecidableRel A.linkReport] [DecidableRel A.enabledReport]
    [DecidablePred A.addressExpiry] :
    ∀ i : Input, Decidable (Permits A c i)
  | ⟨.call _, _⟩ | ⟨.reconnect, _⟩ => inferInstanceAs (Decidable A.requests)
  | ⟨.notify react, _⟩ => inferInstanceAs (Decidable (A.Listens react))
  | ⟨.work, _⟩ | ⟨.timer, _⟩ | ⟨.operationFinished _, _⟩ | ⟨.linkChanged _, _⟩
  | ⟨.enabledChanged _, _⟩ => inferInstanceAs (Decidable (_ → _))

/-- A dispatch of the scheduled work task: it is taken, it acts, it rests. -/
theorem work_path {i : Input} (hw : i.event = .work) (hdue : c.work_ = true) (hid : c.nextId_ ≠ 0)
    (h : Permits A c i) :
    Path A { core false c with work := false, dispatching := true } (core false (step c i)) := by
  simp only [Permits, hw] at h
  obtain ⟨hp, hr⟩ := execute_path (A := A) (d := true) (c := { c with work_ := false }) i.env hid
    (h hdue)
  simp only [step, hw, hdue, if_true]
  exact hp.tail (.rested hr)

/-- **Refinement.** Every scheduler step of the code, with every answer its
dependencies may give, is a path of moves of the abstract machine. -/
theorem step_path {i : Input} (hid : c.nextId_ ≠ 0) (h : Permits A c i) :
    Path A (core false c) (core false (step c i)) := by
  cases he : i.event with
  | call call =>
    simp only [Permits, he] at h
    simp only [step, he]
    exact request_path h i.env call
  | work =>
    cases hdue : c.work_ with
    | true => exact .head (.dispatched hdue) (work_path he hdue hid h)
    | false => simp [step, he, hdue, ReflTransGen.refl]
  | timer =>
    simp only [Permits, he] at h
    simp only [step, he]
    split
    · rename_i ht
      exact checkTimeouts_path (c := { c with timer_ := ⊤ }) i.env (h ht)
    · exact .refl
  | reconnect =>
    simp only [Permits, he] at h
    simp only [step, he]
    split
    · exact retry_path h (c := { c with reconnect_ := ⊤ }) i.env
    · exact .refl
  | notify react =>
    simp only [Permits, he] at h
    simp only [step, he]
    split
    · exact notifyListeners_path (c := { c with notify_ := false }) react h
    · exact .refl
  | operationFinished r =>
    simp only [Permits, he] at h
    simp only [step, he]
    exact operationFinished_path i.env r h
  | linkChanged link =>
    simp only [Permits, he] at h
    simp only [step, he]
    exact linkChanged_path i.env link h
  | enabledChanged enabled =>
    simp only [Permits, he] at h
    simp only [step, he]
    exact enabledChanged_path enabled h

theorem permits_none (c : Controller) (i : Input) : Permits .none c i := by
  unfold Permits
  split <;> simp [Assumptions.none, Assumptions.Listens]

end RooWifi.Controller
