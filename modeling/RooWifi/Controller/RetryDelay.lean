import RooWifi.Lib.Bitmask
import RooWifi.Controller.Effects

/-! # The delay before a retry

`retryDelay` mixes words of 32 and 64 bits, signed and unsigned. Read as integers
its operations stay in the range of their types, so the delay is the integer it
seems to be: the base of its level, spread by the jitter. The level and the
generator are kept in range by every step of a run. -/
namespace RooWifi.Controller

/-! ## The delay as integers -/

/-- The entry of the table that counts: the last one for failures that more
attempts will not cure. -/
def delayLevel (c : Controller) : Nat :=
  if c.state_.retry.failure = .kIncompatibleSecurity ∨
      (c.state_.retry.failure = .kAuthentication ∧ 2 ≤ c.retryLevel_) then 5
  else c.retryLevel_

def delayBase (c : Controller) : Nat :=
  max 1 (c.options_.retry.delaysMs.toList.getD c.delayLevel 0).toNat

def delaySpread (c : Controller) : Nat :=
  c.delayBase * min 50 c.options_.retry.jitterPercent.toNat / 100

/-- Where the generator puts the delay in its spread. -/
def delayOffset (c : Controller) : Nat :=
  (nextJitter c.jitterState_).toNat % (2 * c.delaySpread + 1)

/-- The delay returned. -/
def delay (c : Controller) : Nat := c.retryDelay.1.toNat

theorem delayBase_bounds (c : Controller) : 1 ≤ c.delayBase ∧ c.delayBase < 2 ^ 32 := by
  have bound := (c.options_.retry.delaysMs.toList.getD c.delayLevel 0).toNat_lt
  unfold delayBase
  omega

theorem delaySpread_le (c : Controller) : 2 * c.delaySpread ≤ c.delayBase := by
  have half : c.delayBase * min 50 c.options_.retry.jitterPercent.toNat ≤ c.delayBase * 50 :=
    Nat.mul_le_mul_left _ (min_le_left _ _)
  unfold delaySpread
  omega

theorem delayOffset_le (c : Controller) : c.delayOffset ≤ 2 * c.delaySpread :=
  Nat.le_of_lt_succ (Nat.mod_lt _ (Nat.succ_pos _))

/-! ## Machine words -/

theorem toNat_max_one (x : UInt32) : (max 1 x).toNat = max 1 x.toNat := by
  have unfolded : max 1 x = if 1 ≤ x then x else 1 := rfl
  rw [unfolded]
  split
  · rename_i h
    exact (max_eq_right (UInt32.le_iff_toNat_le.mp h)).symm
  · rename_i h
    have low : x.toNat < 1 := UInt32.lt_iff_toNat_lt.mp (UInt32.not_le.mp h)
    exact (max_eq_left low.le).symm

theorem toNat_min_fifty (x : UInt8) : (min 50 x).toNat = min 50 x.toNat := by
  have unfolded : min 50 x = if 50 ≤ x then 50 else x := rfl
  rw [unfolded]
  split
  · rename_i h
    exact (min_eq_left (UInt8.le_iff_toNat_le.mp h)).symm
  · rename_i h
    have low : x.toNat < 50 := UInt8.lt_iff_toNat_lt.mp (UInt8.not_le.mp h)
    exact (min_eq_right low.le).symm

/-- The spread computed in 64 bits and cut to 32. -/
theorem toNat_spread {base : UInt32} {percent : UInt8} (le : percent.toNat ≤ 50) :
    (base.toUInt64 * percent.toUInt64 / 100).toUInt32.toNat =
      base.toNat * percent.toNat / 100 := by
  have bound := base.toNat_lt
  have product : base.toNat * percent.toNat ≤ base.toNat * 50 := Nat.mul_le_mul_left _ le
  have hundred : (100 : UInt64).toNat = 100 := rfl
  rw [UInt64.toNat_toUInt32, UInt64.toNat_div, UInt64.toNat_mul, UInt32.toNat_toUInt64,
    UInt8.toNat_toUInt64, hundred, Nat.mod_eq_of_lt (a := _ * _) (by omega)]
  exact Nat.mod_eq_of_lt (by omega)

/-- The sum of base and offset computed in 64 bits. -/
theorem toNat_sum (jitter : UInt32) {base spread : UInt32} (le : 2 * spread.toNat ≤ base.toNat) :
    (base.toUInt64 - spread.toUInt64 + jitter.toUInt64 % (2 * spread.toUInt64 + 1)).toNat =
      base.toNat - spread.toNat + jitter.toNat % (2 * spread.toNat + 1) := by
  have bound := base.toNat_lt
  have two : (2 : UInt64).toNat = 2 := rfl
  have one : (1 : UInt64).toNat = 1 := rfl
  have width : (2 * spread.toUInt64 + 1).toNat = 2 * spread.toNat + 1 := by
    rw [UInt64.toNat_add, UInt64.toNat_mul, UInt32.toNat_toUInt64, two, one]
    omega
  have offset : jitter.toNat % (2 * spread.toNat + 1) < 2 * spread.toNat + 1 :=
    Nat.mod_lt _ (Nat.succ_pos _)
  have down : spread.toUInt64 ≤ base.toUInt64 := by
    rw [UInt64.le_iff_toNat_le, UInt32.toNat_toUInt64, UInt32.toNat_toUInt64]
    omega
  rw [UInt64.toNat_add, UInt64.toNat_mod, UInt64.toNat_sub_of_le _ _ down, width,
    UInt32.toNat_toUInt64, UInt32.toNat_toUInt64, UInt32.toNat_toUInt64]
  omega

/-- The clamp of a sum that is no negative integer. -/
theorem toNat_clamped {sum : UInt64} (small : sum.toNat < 2 ^ 63) :
    (UInt32.ofNat (min (2 ^ 32 - 1) (max 1 sum.toBitVec.toInt)).toNat).toNat =
      min (2 ^ 32 - 1) (max 1 sum.toNat) := by
  have whole : sum.toBitVec.toInt = sum.toNat := by
    rw [BitVec.toInt_eq_toNat_of_lt (by rw [UInt64.toNat_toBitVec]; omega)]
    rfl
  have clamped : (min (2 ^ 32 - 1) (max 1 (sum.toNat : Int))).toNat =
      min (2 ^ 32 - 1) (max 1 sum.toNat) := by omega
  rw [whole, clamped, UInt32.toNat_ofNat']
  exact Nat.mod_eq_of_lt (by omega)

/-! ## One call -/

/-- **The delay is the integer it seems to be.** -/
theorem delay_eq (c : Controller) :
    c.delay = min (2 ^ 32 - 1) (c.delayBase - c.delaySpread + c.delayOffset) := by
  obtain ⟨pos, below⟩ := c.delayBase_bounds
  have half := c.delaySpread_le
  have inside := c.delayOffset_le
  have base : (max 1 (c.options_.retry.delaysMs.toList.getD c.delayLevel 0)).toNat = c.delayBase :=
    toNat_max_one _
  have percent : (min 50 c.options_.retry.jitterPercent).toNat =
      min 50 c.options_.retry.jitterPercent.toNat := toNat_min_fifty _
  have spread : ((max 1 (c.options_.retry.delaysMs.toList.getD c.delayLevel 0)).toUInt64 *
      (min 50 c.options_.retry.jitterPercent).toUInt64 / 100).toUInt32.toNat = c.delaySpread := by
    rw [toNat_spread (percent.trans_le (min_le_left _ _)), base, percent]
    rfl
  have sum := toNat_sum (nextJitter c.jitterState_)
    ((congrArg (2 * ·) spread).trans_le (half.trans base.ge))
  rw [spread, base] at sum
  change _ = c.delayBase - c.delaySpread + c.delayOffset at sum
  have clamped := toNat_clamped (sum.trans_lt (by omega))
  rw [sum] at clamped
  refine Eq.trans ?_ (clamped.trans (by omega))
  rfl

/-- What a call of `retryDelay` computes, and that no operation on the way
leaves the range of its type. -/
structure DelayBounds (policy : RetryOptions) (c : Controller) : Prop where
  own : c.options_.retry = policy
  level : c.delayLevel ≤ 5
  lower : c.delayBase - c.delaySpread ≤ c.delay
  upper : c.delay ≤ min (2 ^ 32 - 1) (c.delayBase + c.delaySpread)
  positive : 1 ≤ c.delay
  steady : policy.jitterPercent = 0 → c.delay = c.delayBase
  before : c.jitterState_ ≠ 0
  after : c.retryDelay.2.jitterState_ ≠ 0
  base : c.delayBase < 2 ^ 32
  product : c.delayBase * min 50 policy.jitterPercent.toNat < 2 ^ 64
  spread : c.delaySpread < 2 ^ 32
  difference : c.delaySpread ≤ c.delayBase
  width : 2 * c.delaySpread + 1 < 2 ^ 64
  sum : c.delayBase - c.delaySpread + c.delayOffset < 2 ^ 63
  exact : c.delay = min (2 ^ 32 - 1) (max 1 (c.delayBase - c.delaySpread + c.delayOffset))

theorem nextJitter_ne_zero {x : UInt32} (nonzero : x ≠ 0) : nextJitter x ≠ 0 := by
  have word (y : UInt32) : y ≠ 0 ↔ y.toBitVec ≠ 0 := UInt32.toBitVec_inj.symm.not
  rw [word] at nonzero ⊢
  exact Bitmask.xor_shiftLeft_ne_zero (k := 5) (by decide)
    (Bitmask.xor_shiftRight_ne_zero (k := 17) (by decide)
      (Bitmask.xor_shiftLeft_ne_zero (k := 13) (by decide) nonzero))

/-- What the controller keeps in range. -/
structure Tuned (options : Options) (c : Controller) : Prop where
  options : c.options_ = options
  level : c.retryLevel_ ≤ 5
  jitter : c.jitterState_ ≠ 0

theorem Tuned.delayBounds {options : Options} {c : Controller} (hi : Tuned options c) :
    DelayBounds options.retry c := by
  obtain ⟨pos, below⟩ := c.delayBase_bounds
  have half := c.delaySpread_le
  have inside := c.delayOffset_le
  have exact := c.delay_eq
  have product : c.delayBase * min 50 options.retry.jitterPercent.toNat ≤ c.delayBase * 50 :=
    Nat.mul_le_mul_left _ (min_le_left _ _)
  refine {
    own := congrArg Options.retry hi.options
    level := ?_
    lower := by omega
    upper := by omega
    positive := by omega
    steady := ?_
    before := hi.jitter
    after := nextJitter_ne_zero hi.jitter
    base := below
    product := by omega
    spread := by omega
    difference := by omega
    width := by omega
    sum := by omega
    exact := by omega }
  · unfold delayLevel
    have level := hi.level
    split <;> omega
  · intro none
    have flat : c.delaySpread = 0 := by simp [delaySpread, hi.options, none]
    omega

/-! ## The calls of a step

`retryDelay` has one caller, `connectionFailed`, which a step reaches at most
once. For every function on a way there, the function of its name in `Delays`
gives the controller on which `retryDelay` is called. -/

/-- The first block of `connectionFailed`. -/
def noted (status : Status) (failure : ConnectionFailure) (code : Int) (hasCode : Bool)
    (c : Controller) : Controller :=
  { c with
    state_.status := status
    state_.nativeCode := code
    state_.hasNativeCode := hasCode
    state_.retry := { c.state_.retry with
      lastStatus := status
      failure := if failure = .kNone then .kTransient else failure
      nativeCode := code
      hasNativeCode := hasCode
      bssid := c.state_.link.bssid
      channel := c.state_.link.channel
      rssiDbm := c.state_.link.rssiDbm
      hasRadioInfo := c.state_.link.hasRadioInfo }
    stableDeadline_ := ⊤
    addressDeadline_ := ⊤ }

namespace Delays

def connectionFailed (status : Status) (failure : ConnectionFailure) (code : Int)
    (hasCode : Bool) (c : Controller) : Option Controller :=
  if c.autoConnect_ ∧ c.state_.desired = .kConnected ∧
      (status = .kConnectionFailed ∨ status = .kTimeout) then
    some (c.noted status failure code hasCode)
  else none

def conclude (result : OperationResult) (completed : Transition) (status : Status)
    (c : Controller) : Option Controller :=
  let c : Controller := { c with
    state_.status := status
    state_.nativeCode := result.nativeCode
    state_.hasNativeCode := result.hasNativeCode }
  let c : Controller := if completed = .kConnect ∨ status ≠ .kOk then
      { c with attemptedRevision_ := c.state_.revision }
    else c
  if completed = .kConnect ∧ status ≠ .kOk ∧ status ≠ .kCancelled then
    connectionFailed status (if c.stationTimedOut_ then c.timeoutFailure_ else result.failure)
      result.nativeCode result.hasNativeCode (c.record (.failed result.id))
  else none

def stationFinished (env : Env) (result : OperationResult) (c : Controller) : Option Controller :=
  let completed := c.transition_
  let superseded := c.activeRevision_ ≠ c.state_.revision
  let status := if c.stationTimedOut_ then .kTimeout else result.status
  let c : Controller := { c with
    stationId_ := 0
    transition_ := .kNone
    cancellingConnect_ := false }
  let (status, c) := if completed = .kEnable ∧ status = .kOk then
      (env.writeEnabled,
        { c with initialized_ := true }.record (.writeEnabled c.state_.enabled env.writeEnabled))
    else (status, c)
  if superseded then none
  else
    let (status, c) := c.rememberProfile env completed status
    conclude result completed status c

def onOperationFinished (env : Env) (result : OperationResult) (c : Controller) :
    Option Controller :=
  if !c.running_ || c.faulted_ || result.id = 0 then none
  else if result.id = c.scanId_ ∧ result.kind = .kScan then none
  else if result.id ≠ c.stationId_ then none
  else if result.kind ≠ c.transition_.kind then none
  else stationFinished env result c

def observeLoss (previous : LinkPhase) (link : LinkState) (c : Controller) : Option Controller :=
  if link.phase = .kIdle then
    let c : Controller := { c with addressDeadline_ := ⊤, state_.connectedProfile := {} }
    if c.transition_ = .kNone ∧ previous ≠ .kIdle ∧ c.state_.desired = .kConnected then
      connectionFailed (if link.reason = .kOk then .kConnectionFailed else link.reason)
        link.failure link.nativeCode link.hasNativeCode (c.record (.failed link.connectionId))
    else none
  else none

def onLinkChanged (env : Env) (link : LinkState) (c : Controller) : Option Controller :=
  if !c.running_ || c.faulted_ then none
  else if link.connectionId ≠ c.state_.link.connectionId ∧
      !(c.transition_ = .kConnect ∧ link.connectionId = c.stationId_) then none
  else
    let previous := c.state_.link.phase
    let c : Controller := { c with state_.link := link }
    let c := c.observeAddress (env.now 0) previous link
    observeLoss previous link c

def issueStation (env : Env) (c : Controller) : Option Controller :=
  let c : Controller := { c with
    stationId_ := c.nextId_
    nextId_ := (c.nextId_ + 1) % 2 ^ 64
    stationDeadline_ := (env.now 2 + Millis (if c.transition_ = .kConnect then
      c.options_.connectTimeoutMs else c.options_.transitionTimeoutMs) : Nat) }
  let (status, c) := c.submitStation env
  let c := c.changed .kStation
  if status ≠ .kOk then
    onOperationFinished env { id := c.stationId_, kind := c.transition_.kind, status } c
  else none

/-- The scan that may follow the command is not retried. -/
def executeStation (env : Env) (needsStation : Bool) (c : Controller) : Option Controller :=
  if needsStation ∧ !c.state_.retry.pending then
    let c : Controller := { c with activeRevision_ := c.state_.revision, stationTimedOut_ := false }
    if c.state_.link.phase ≠ .kIdle then
      issueStation env { c with transition_ := .kDisconnect }
    else if !c.initialized_ ∨ c.state_.enabled ≠ decide (c.state_.desired ≠ .kDisabled) then
      issueStation env { c with
        transition_ := .kEnable
        transitionEnabled_ := decide (c.state_.desired ≠ .kDisabled) }
    else if c.restoreProfile_ then none
    else if c.state_.desired = .kConnected then
      issueStation env { c with
        transition_ := .kConnect
        state_.retry.attemptCount :=
          if c.state_.retry.attemptCount ≠ 2 ^ 32 - 1 then c.state_.retry.attemptCount + 1
          else c.state_.retry.attemptCount }
    else none
  else none

def executeIdle (env : Env) (c : Controller) : Option Controller :=
  let needsStation := !c.initialized_ || decide (c.attemptedRevision_ ≠ c.state_.revision)
  if needsStation ∧ c.isScanning then
    let (status, c) := c.cancelScan env (env.now 1)
    let c : Controller := if status ≠ .kOk then c.fault status else c
    if c.isScanning || c.faulted_ then none else executeStation env needsStation c
  else executeStation env needsStation c

def execute (env : Env) (c : Controller) : Option Controller :=
  if !c.running_ || c.faulted_ then none
  else if c.nextId_ = OperationId.max then none
  else
    let c := c.supersede env
    if c.faulted_ then none
    else if c.transition_ ≠ .kNone then none
    else executeIdle env c

def checkLinkDeadlines (env : Env) (c : Controller) : Option Controller :=
  let now : Uptime := (env.now 0 : Nat)
  let c : Controller := if now ≥ c.stableDeadline_ then
      { c with stableDeadline_ := ⊤, state_.retry := {}, retryLevel_ := 0 }.changed .kStation
    else c
  if now ≥ c.addressDeadline_ then
    let c := { c with addressDeadline_ := ⊤ }.record (.failed c.state_.link.connectionId)
    connectionFailed .kTimeout .kAddressTimeout 0 false c
  else none

def checkTimeouts (env : Env) (c : Controller) : Option Controller :=
  if !c.running_ || c.faulted_ then none else checkLinkDeadlines env c

/-- No public call, and so no listener, reaches `connectionFailed`. -/
def step (c : Controller) (i : Input) : Option Controller :=
  match i.event with
  | .work => if c.work_ then execute i.env { c with work_ := false } else none
  | .timer => if c.timer_ ≠ ⊤ then checkTimeouts i.env { c with timer_ := ⊤ } else none
  | .operationFinished result =>
    onOperationFinished i.env result (c.record (.delivered result))
  | .linkChanged link => onLinkChanged i.env link c
  | _ => none

end Delays

/-- The controllers on which a run calls `retryDelay`, the earliest first. -/
def delays : Controller → List Input → List Controller
  | _, [] => []
  | c, i :: is => (Delays.step c i).toList ++ delays (step c i) is

/-! ## Between the calls -/

/-- The options and the generator are the same, and the level is no higher. -/
structure Quiet (c d : Controller) : Prop where
  options : d.options_ = c.options_
  jitter : d.jitterState_ = c.jitterState_
  level : d.retryLevel_ = c.retryLevel_ ∨ d.retryLevel_ = 0

theorem Quiet.refl (c : Controller) : Quiet c c := ⟨rfl, rfl, .inl rfl⟩

theorem Quiet.trans {c d e : Controller} (h : Quiet c d) (h' : Quiet d e) : Quiet c e where
  options := h'.options.trans h.options
  jitter := h'.jitter.trans h.jitter
  level := by
    obtain same | zero := h'.level
    · rw [same]
      exact h.level
    · exact .inr zero

@[simp] theorem quiet_changed {c d : Controller} (change : Change) :
    Quiet c (d.changed change) ↔ Quiet c d := by
  rw [changed_eq]
  exact ⟨fun h => { h with }, fun h => { h with }⟩

theorem Quiet.fault {c d : Controller} (h : Quiet c d) (status : Status) :
    Quiet c (d.fault status) := by
  rw [fault_eq]
  exact { h with }

theorem quiet_scanFinished (env : Env) (r : OperationResult) (c : Controller) :
    Quiet c (c.scanFinished env r) := by
  obtain ⟨_, _, _, h, -⟩ := scanFinished_cases env r c
  rw [h, changed_eq]
  exact { Quiet.refl c with }

/-- The tasks and callbacks that can reach `connectionFailed`. -/
def Atom.fails : Atom → Bool
  | .work _ | .timer _ | .operationFinished .. | .linkChanged .. => true
  | _ => false

theorem Effect.quiet {a : Atom} {c d : Controller} (h : Effect a c d) (harmless : a.fails = false) :
    Quiet c d := by
  cases h with
  | shutdown opened =>
    rw [shutdown_eq opened]
    exact { Quiet.refl c with }
  | noted | scheduled | listened | relaxed | repeated | taken | retryIdle =>
    exact { Quiet.refl c with }
  | begun | withdrawn | requested =>
    rw [newIntent_eq]
    exact ⟨rfl, rfl, .inr rfl⟩
  | scanQueued | scanDropped | scanCancelled | profiles | cancelled | retryDenied | retryGranted
  | enabledReported =>
    rw [quiet_changed]
    exact { Quiet.refl c with }
  | faulted status => exact (Quiet.refl c).fault status
  | scanFinished r env => exact quiet_scanFinished env r c
  | stationFinished r env source =>
    obtain rfl | ⟨rfl, -⟩ := source
    · cases harmless
    · cases harmless
  | aimed | issued | settled | unrestored | scanStarted | timedOut | scanTimedOut | stable
  | addressExpired | linkReported => cases harmless

theorem Effects.quiet {a : Atom} {c d : Controller} (h : Effects a c d)
    (harmless : a.fails = false) : Quiet c d := by
  induction h with
  | refl => exact .refl c
  | tail _ h ih => exact ih.trans (h.quiet harmless)

theorem Quiet.cancelScan {c d : Controller} (h : Quiet c d) (env : Env) (now : Nat) :
    Quiet c (d.cancelScan env now).2 :=
  h.trans ((cancelScan_effects (a := .call .cancelScan env) now).quiet rfl)

theorem quiet_request (env : Env) (call : Call) (c : Controller) : Quiet c (c.request env call) :=
  (request_effects env call).quiet rfl

theorem quiet_checkStationDeadline (env : Env) (c : Controller) :
    Quiet c (c.checkStationDeadline env) := by
  unfold checkStationDeadline
  split
  · split
    · exact (Quiet.refl c).fault _
    dsimp only
    split
    · refine Quiet.fault ?_ _
      exact { Quiet.refl c with }
    · rw [quiet_changed]
      exact { Quiet.refl c with }
  · exact .refl c

theorem quiet_checkScanDeadline (env : Env) (c : Controller) :
    Quiet c (c.checkScanDeadline env) := by
  unfold checkScanDeadline
  split
  · split
    · exact (Quiet.refl c).fault _
    have expired : Quiet c ({ c with scanTimedOut_ := true }.cancelScan env (env.now 4)).2 := by
      refine Quiet.cancelScan ?_ env _
      exact { Quiet.refl c with }
    dsimp only
    split
    · exact expired.fault _
    · exact expired
  · exact .refl c

theorem quiet_supersede (env : Env) (c : Controller) : Quiet c (c.supersede env) := by
  unfold supersede
  split
  · dsimp only
    split
    · refine Quiet.fault ?_ _
      exact { Quiet.refl c with }
    · rw [quiet_changed]
      exact { Quiet.refl c with }
  · exact .refl c

theorem quiet_restoreProfile (env : Env) (c : Controller) : Quiet c (c.restoreProfile env) := by
  unfold restoreProfile
  extract_lets c'
  have relaxed : Quiet c c' := { Quiet.refl c with }
  split
  rename_i status ssid _
  split
  · exact relaxed
  dsimp only
  have restored : Quiet c (c'.restoreLast env status ssid).2 := by
    obtain h | ⟨-, config, credentials, automatic, h⟩ := restoreLast_cases (c := c') env status ssid
    · rw [h]
      exact relaxed
    · rw [h]
      exact relaxed.trans ((requestConnection_effects (a := .call .begin env) rfl config credentials
        ssid automatic).quiet rfl)
  split
  · rw [quiet_changed]
    exact { restored with }
  · exact restored

/-- The completion of a refused scan is that of a scan. -/
theorem quiet_executeScan (env : Env) (c : Controller) : Quiet c (c.executeScan env) := by
  unfold executeScan
  extract_lets _ c₁ c₂ c₃ c₄
  have h₄ : Quiet c c₄ := by
    unfold c₄
    split
    · have started : Quiet c c₃ := by
        unfold c₃
        rw [quiet_changed]
        exact { Quiet.refl c with }
      split
      · unfold onOperationFinished
        split
        · exact started
        · rw [if_pos ⟨rfl, rfl⟩]
          exact started.trans (quiet_scanFinished env _ c₃)
      · exact started
    · exact .refl c
  exact { h₄ with }

/-! ## Every function calls where its counterpart says -/

/-- The controller after a call of `retryDelay` in `connectionFailed`, which
raises the level. -/
def raised (c : Controller) : Controller :=
  { c.retryDelay.2 with
    retryLevel_ := if c.retryLevel_ < 5 then c.retryLevel_ + 1 else c.retryLevel_ }

/-- On the way from `c` to `e` `retryDelay` is called at most once. -/
def Draws (c : Controller) (call : Option Controller) (e : Controller) : Prop :=
  match call with
  | none => Quiet c e
  | some d => Quiet c d ∧ Quiet d.raised e

theorem Draws.before {c d e : Controller} {call : Option Controller} (h : Quiet c d)
    (h' : Draws d call e) : Draws c call e := by
  cases call with
  | none => exact h.trans h'
  | some _ => exact h'.imp_left h.trans

theorem Draws.after {c d e : Controller} {call : Option Controller} (h : Draws c call d)
    (h' : Quiet d e) : Draws c call e := by
  cases call with
  | none => exact h.trans h'
  | some _ => exact h.imp_right (·.trans h')

theorem draws_connectionFailed (now : Nat) (status : Status) (failure : ConnectionFailure)
    (code : Int) (hasCode : Bool) (c : Controller) :
    Draws c (Delays.connectionFailed status failure code hasCode c)
      (c.connectionFailed now status failure code hasCode) := by
  unfold connectionFailed Delays.connectionFailed
  dsimp only
  split
  · exact ⟨{ Quiet.refl c with }, { Quiet.refl (c.noted status failure code hasCode).raised with }⟩
  · exact { Quiet.refl c with }

theorem draws_conclude (env : Env) (r : OperationResult) (completed : Transition) (status : Status)
    (c : Controller) :
    Draws c (Delays.conclude r completed status c) (c.conclude env r completed status) := by
  unfold conclude Delays.conclude
  dsimp only
  by_cases fails : completed = .kConnect ∧ status ≠ .kOk ∧ status ≠ .kCancelled
  · have attempted : completed = .kConnect ∨ status ≠ .kOk := .inl fails.1
    simp only [if_pos fails, if_pos attempted]
    refine (draws_connectionFailed (env.now 4) status _ _ _ _).before ?_
    exact { Quiet.refl c with }
  · rw [if_neg fails, if_neg fails]
    change Quiet c _
    split
    · exact { Quiet.refl c with }
    · exact { Quiet.refl c with }

theorem quiet_rememberProfile (env : Env) (completed : Transition) (status : Status)
    (c : Controller) : Quiet c (c.rememberProfile env completed status).2 := by
  unfold rememberProfile
  split
  · dsimp only
    split
    · exact { Quiet.refl c with }
    · exact { Quiet.refl c with }
  · exact .refl c

/-- The end of both branches of `onOperationFinished`. -/
theorem Draws.finish {c d : Controller} {call : Option Controller} (h : Draws c call d)
    (change : Change) : Draws c call { d.changed change with work_ := true }.scheduleTimeouts := by
  have changed : Quiet d (d.changed change) := by
    rw [quiet_changed]
    exact .refl d
  exact h.after { changed with }

theorem draws_stationFinished (env : Env) (r : OperationResult) (c : Controller) :
    Draws c (Delays.stationFinished env r c) (c.stationFinished env r) := by
  unfold stationFinished Delays.stationFinished
  extract_lets completed superseded status c₁
  have h₁ : Quiet c c₁ := { Quiet.refl c with }
  -- whatever was stored
  have concluded (status₂ : Status) {c₂ : Controller} (h₂ : Quiet c c₂) :
      let remembered := c₂.rememberProfile env completed status₂
      Draws c (if superseded then none else Delays.conclude r completed remembered.1 remembered.2)
        (if superseded then c₂ else remembered.2.conclude env r completed remembered.1) := by
    dsimp only
    by_cases old : superseded
    · rw [if_pos old, if_pos old]
      exact h₂
    · rw [if_neg old, if_neg old]
      exact (draws_conclude env r completed _ _).before
        (h₂.trans (quiet_rememberProfile env completed status₂ c₂))
  by_cases enabled : completed = .kEnable ∧ status = .kOk
  · simp only [if_pos enabled]
    refine (concluded env.writeEnabled ?_).finish .kStation
    exact { h₁ with }
  · simp only [if_neg enabled]
    exact (concluded status h₁).finish .kStation

theorem draws_onOperationFinished (env : Env) (r : OperationResult) (c : Controller) :
    Draws c (Delays.onOperationFinished env r c) (c.onOperationFinished env r) := by
  unfold onOperationFinished Delays.onOperationFinished
  split
  · exact Quiet.refl c
  split
  · exact quiet_scanFinished env r c
  split
  · exact Quiet.refl c
  split
  · exact Quiet.refl c
  · exact draws_stationFinished env r c

theorem draws_observeLoss (now : Nat) (previous : LinkPhase) (link : LinkState) (c : Controller) :
    Draws c (Delays.observeLoss previous link c) (c.observeLoss now previous link) := by
  unfold observeLoss Delays.observeLoss
  split
  · dsimp only
    split
    · refine (draws_connectionFailed now _ _ _ _ _).before ?_
      exact { Quiet.refl c with }
    · exact { Quiet.refl c with }
  · exact Quiet.refl c

theorem quiet_observeAddress (now : Nat) (previous : LinkPhase) (link : LinkState)
    (c : Controller) : Quiet c (c.observeAddress now previous link) := by
  unfold observeAddress
  split
  · extract_lets c₁ c₂
    have h₂ : Quiet c c₂ := by
      unfold c₂
      split
      · exact { Quiet.refl c with }
      · exact { Quiet.refl c with }
    split
    · exact { h₂ with }
    · exact h₂
  · dsimp only
    split
    · exact { Quiet.refl c with }
    · exact { Quiet.refl c with }

theorem draws_onLinkChanged (env : Env) (link : LinkState) (c : Controller) :
    Draws c (Delays.onLinkChanged env link c) (c.onLinkChanged env link) := by
  unfold onLinkChanged Delays.onLinkChanged
  split
  · exact Quiet.refl c
  split
  · exact Quiet.refl c
  dsimp only
  refine ((draws_observeLoss (env.now 1) _ link _).before ?_).after ?_
  · refine Quiet.trans ?_ (quiet_observeAddress (env.now 0) _ link _)
    exact { Quiet.refl c with }
  · exact { (quiet_changed .kStation).mpr (Quiet.refl _) with }

theorem quiet_submitStation (env : Env) (c : Controller) : Quiet c (c.submitStation env).2 := by
  unfold submitStation
  cases c.transition_ with
  | _ => exact { Quiet.refl c with }

theorem draws_issueStation (env : Env) (c : Controller) :
    Draws c (Delays.issueStation env c) (c.issueStation env) := by
  unfold issueStation Delays.issueStation
  extract_lets c₁
  have h₁ : Quiet c c₁ := { Quiet.refl c with }
  have h₂ := h₁.trans (quiet_submitStation env c₁)
  cases submitted : c₁.submitStation env with
  | mk status c₂ =>
    rw [submitted] at h₂
    have h₃ : Quiet c (c₂.changed .kStation) := (quiet_changed _).mpr h₂
    dsimp only
    split
    · exact (draws_onOperationFinished env _ _).before h₃
    · exact h₃

theorem draws_executeStation (env : Env) (needsStation : Bool) (c : Controller) :
    Draws c (Delays.executeStation env needsStation c) (c.executeStation env needsStation) := by
  have issued {x : Controller} (h : Quiet c x) :
      Draws c (Delays.issueStation env x) ((x.issueStation env).executeScan env) :=
    ((draws_issueStation env x).before h).after (quiet_executeScan env _)
  unfold executeStation Delays.executeStation
  split
  · extract_lets c₁
    have h₁ : Quiet c c₁ := { Quiet.refl c with }
    split
    · exact issued { h₁ with }
    split
    · exact issued { h₁ with }
    split
    · exact { h₁.trans (quiet_restoreProfile env c₁) with }
    split
    · exact issued { h₁ with }
    · refine Quiet.trans ?_ (quiet_executeScan env _)
      rw [quiet_changed]
      exact { h₁ with }
  · exact quiet_executeScan env c

theorem draws_executeIdle (env : Env) (c : Controller) :
    Draws c (Delays.executeIdle env c) (c.executeIdle env) := by
  unfold executeIdle Delays.executeIdle
  extract_lets needs
  split
  · have given : Quiet c (c.cancelScan env (env.now 1)).2 := (Quiet.refl c).cancelScan env _
    cases cancelled : c.cancelScan env (env.now 1) with
    | mk status d =>
      rw [cancelled] at given
      have h' : Quiet c (if status ≠ .kOk then d.fault status else d) := by
        split
        · exact given.fault status
        · exact given
      dsimp only
      generalize (if status ≠ .kOk then d.fault status else d) = d' at h' ⊢
      split
      · exact h'
      · exact (draws_executeStation env needs d').before h'
  · exact draws_executeStation env needs c

theorem draws_execute (env : Env) (c : Controller) :
    Draws c (Delays.execute env c) (c.execute env) := by
  unfold execute Delays.execute
  split
  · exact Quiet.refl c
  split
  · exact (Quiet.refl c).fault .kBusy
  extract_lets d
  have h : Quiet c d := quiet_supersede env c
  split
  · exact h
  split
  · exact { h with }
  · exact (draws_executeIdle env d).before h

theorem draws_checkLinkDeadlines (env : Env) (c : Controller) :
    Draws c (Delays.checkLinkDeadlines env c) (c.checkLinkDeadlines env) := by
  unfold checkLinkDeadlines Delays.checkLinkDeadlines
  extract_lets now _ c₁ c₂
  have h₁ : Quiet c c₁ := by
    unfold c₁
    split
    · rw [quiet_changed]
      exact ⟨rfl, rfl, .inr rfl⟩
    · exact .refl c
  split
  · have changed (d : Controller) : Quiet d (d.changed .kStation) :=
      (quiet_changed _).mpr (Quiet.refl d)
    refine ((draws_connectionFailed (env.now 1) .kTimeout .kAddressTimeout 0 false c₂).before
      ?_).after (changed _)
    exact { h₁ with }
  · exact h₁

theorem draws_checkTimeouts (env : Env) (c : Controller) :
    Draws c (Delays.checkTimeouts env c) (c.checkTimeouts env) := by
  unfold checkTimeouts Delays.checkTimeouts
  split
  · exact Quiet.refl c
  refine (draws_checkLinkDeadlines env c).after ?_
  have station := quiet_checkStationDeadline env (c.checkLinkDeadlines env)
  dsimp only
  split
  · exact station
  have scan := station.trans (quiet_checkScanDeadline env _)
  split
  · exact scan
  · exact { scan with }

theorem quiet_notifyListeners (react : Reaction) (c : Controller) :
    Quiet c (c.notifyListeners react) := by
  have folds {α : Type} {f : Controller → α → Controller} (hf : ∀ d x, Quiet d (f d x))
      (d : Controller) (xs : List α) : Quiet d (xs.foldl f d) := by
    induction xs generalizing d with
    | nil => exact .refl d
    | cons x xs ih => exact (hf d x).trans (ih (f d x))
  have notified (listener : Nat) (change : Change) (d : Controller) :
      Quiet d (d.notifyOne react listener change) := by
    refine Quiet.trans ?_ (folds (fun d (r : Call × Env) => quiet_request r.2 r.1 d) _ _)
    exact { Quiet.refl d with }
  unfold notifyListeners
  refine Quiet.trans ?_ (folds (fun d listener => folds (fun d change => ?_) d _) _ _)
  · exact { Quiet.refl c with }
  · split
    · exact notified listener change d
    · exact .refl d

/-- **A step calls `retryDelay` where `Delays` says, and touches the generator
nowhere else.** -/
theorem draws_step (c : Controller) (i : Input) : Draws c (Delays.step c i) (step c i) := by
  obtain ⟨event, env⟩ := i
  unfold step Delays.step
  cases event with
  | call call => exact quiet_request env call c
  | work =>
    dsimp only
    split
    · refine (draws_execute env _).before ?_
      exact { Quiet.refl c with }
    · exact Quiet.refl c
  | timer =>
    dsimp only
    split
    · refine (draws_checkTimeouts env _).before ?_
      exact { Quiet.refl c with }
    · exact Quiet.refl c
  | reconnect =>
    dsimp only
    split
    · refine Quiet.trans ?_ (retry_effects.quiet (a := .reconnect env) rfl)
      exact { Quiet.refl c with }
    · exact Quiet.refl c
  | notify react =>
    dsimp only
    split
    · refine Quiet.trans ?_ (quiet_notifyListeners react _)
      exact { Quiet.refl c with }
    · exact Quiet.refl c
  | operationFinished result =>
    refine (draws_onOperationFinished env result _).before ?_
    exact { Quiet.refl c with }
  | linkChanged link => exact draws_onLinkChanged env link c
  | enabledChanged enabled => exact (onEnabledChanged_effects enabled).quiet rfl

/-! ## Every call of a run -/

theorem Tuned.quiet {options : Options} {c d : Controller} (hi : Tuned options c)
    (h : Quiet c d) : Tuned options d where
  options := h.options.trans hi.options
  level := by
    have level := hi.level
    obtain same | zero := h.level <;> omega
  jitter := by
    rw [h.jitter]
    exact hi.jitter

theorem Tuned.raised {options : Options} {c : Controller} (hi : Tuned options c) :
    Tuned options c.raised where
  options := hi.options
  level := by
    have level := hi.level
    unfold Controller.raised
    dsimp only
    split <;> omega
  jitter := nextJitter_ne_zero hi.jitter

theorem tuned_init (options : Options) (seed : UInt32) : Tuned options (init options seed) where
  options := rfl
  level := Nat.zero_le 5
  jitter := by
    unfold init
    dsimp only
    split
    · decide
    · assumption

/-- A step keeps the tuning, and the call it makes finds it. -/
theorem Draws.tuned {options : Options} {c e : Controller} {call : Option Controller}
    (h : Draws c call e) (hi : Tuned options c) :
    (∀ d ∈ call.toList, Tuned options d) ∧ Tuned options e ∧
      e.jitterState_ = nextJitter^[call.toList.length] c.jitterState_ := by
  cases call with
  | none =>
    refine ⟨?_, hi.quiet h, h.jitter⟩
    intro d called
    cases called
  | some d =>
    have found := hi.quiet h.1
    refine ⟨?_, found.raised.quiet h.2, ?_⟩
    · intro d' called
      obtain rfl : d' = d := List.mem_singleton.mp called
      exact found
    · rw [h.2.jitter, ← h.1.jitter]
      rfl

theorem run_tuned {options : Options} (is : List Input) {c : Controller} (hi : Tuned options c) :
    (∀ d ∈ delays c is, Tuned options d) ∧
      (Machine.run step c is).jitterState_ =
        nextJitter^[(delays c is).length] c.jitterState_ := by
  induction is generalizing c with
  | nil =>
    refine ⟨?_, rfl⟩
    intro d called
    cases called
  | cons i is ih =>
    obtain ⟨called, kept, jitter⟩ := (draws_step c i).tuned hi
    obtain ⟨later, generated⟩ := ih kept
    constructor
    · intro d mem
      obtain first | rest := List.mem_append.mp mem
      · exact called d first
      · exact later d rest
    · rw [Machine.run_cons, generated, jitter, delays, List.length_append, Nat.add_comm,
        Function.iterate_add_apply]

/-- **Every delay of every run is in its bounds,** and the generator advances by
these calls alone. -/
theorem retryDelay_bounds (options : Options) (seed : UInt32) (is : List Input) :
    (∀ d ∈ delays (init options seed) is, DelayBounds options.retry d) ∧
      (Machine.run step (init options seed) is).jitterState_ =
        nextJitter^[(delays (init options seed) is).length] (init options seed).jitterState_ := by
  obtain ⟨called, jitter⟩ := run_tuned is (tuned_init options seed)
  exact ⟨fun d mem => (called d mem).delayBounds, jitter⟩

/-- A first failure waits for 500 ms, give or take a fifth. -/
example : (delays (init {} 7) (startUp ++ [willing (.call (.connectSaved (openNetwork 65).ssid)),
    willing .work, willing (.operationFinished
      { id := 2, kind := .kConnect, status := .kConnectionFailed })])).map delay = [568] := by
  decide

end RooWifi.Controller
