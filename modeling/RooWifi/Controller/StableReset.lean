import RooWifi.Controller.Deadlines
import RooWifi.Controller.PendingRetry

/-! # A connection that stays up resets the backoff

From the report of an address on, the stable deadline stands as long as every
report confirms the address and intent is not replaced. The one thing that
takes it away is the failure of the connect that brought the link up, which
may still be running, or whose profile the store may fail to remember. -/
namespace RooWifi.Controller

variable {c : Controller} {due : Uptime} {last : Status}

/-- The link has its address and counts as stable at `due`; `last` is the
failure the retry state remembers. -/
structure Stable (due : Uptime) (last : Status) (c : Controller) : Prop where
  running : c.running_ = true
  ready : c.state_.link.phase = .kAddressReady
  address : c.addressDeadline_ = ⊤
  stable : c.stableDeadline_ = due
  last : c.state_.retry.lastStatus = last

@[simp] theorem stable_changed (change : Change) :
    Stable due last (c.changed change) ↔ Stable due last c := by
  rw [changed_eq]
  exact ⟨fun h => { h with }, fun h => { h with }⟩

/-- Every report confirms the address, and the timer has not run when due. -/
def Calm (due : Uptime) (c : Controller) : Atom → Prop
  | .timer env => ((env.now 0 : Nat) : Uptime) < due
  | .linkChanged link _ => (core false c).Hears link → link.phase = .kAddressReady
  | _ => True

instance : ∀ a, Decidable (Calm due c a)
  | .timer _ => inferInstanceAs (Decidable (_ < _))
  | .linkChanged .. => inferInstanceAs (Decidable (_ → _))
  | .call .. | .work _ | .reconnect _ | .operationFinished .. | .enabledChanged _ | .take
  | .deliver .. => inferInstanceAs (Decidable True)

/-- The connect for current intent fails, or its profile is not remembered. -/
def FailsNow (c : Controller) : Atom → Prop
  | .operationFinished r env => (core false c).Completes r ∧ c.Fails env r
  | _ => False

instance : ∀ a, Decidable (FailsNow c a)
  | .operationFinished .. => inferInstanceAs (Decidable (_ ∧ _))
  | .call .. | .work _ | .timer _ | .reconnect _ | .linkChanged .. | .enabledChanged _ | .take
  | .deliver .. => inferInstanceAs (Decidable False)

/-! ## One step -/

theorem stationFinished_stable (h : Stable due last c) {env : Env} {r : OperationResult}
    (sound : ¬ c.Fails env r) : Stable due last (c.stationFinished env r) := by
  obtain ⟨_, _, _, _, _, x, hx, he⟩ := stationFinished_cases env r c
  have hx' : Stable due last (x.changed .kStation) := by
    rw [stable_changed, hx]
    exact { h with }
  rw [he, if_neg sound]
  exact { hx' with }

/-- The failure takes the stable deadline away and is remembered. -/
theorem stationFinished_fails (h : Stable due last c) {env : Env} {r : OperationResult}
    (fails : c.Fails env r) : Stable ⊤ (c.connectStatus env r) (c.stationFinished env r) := by
  obtain ⟨_, _, _, _, _, x, hx, he⟩ := stationFinished_cases env r c
  have hx' : Stable due last x := by
    rw [hx]
    exact { h with }
  obtain ⟨retry, _, _, _, hf, hlast, -⟩ := connectionFailed_cases (env.now 4) (c.connectStatus env r)
    (if c.stationTimedOut_ then c.timeoutFailure_ else r.failure) r.nativeCode r.hasNativeCode
    (x.record (.failed r.id))
  rw [he, if_pos fails, hf, changed_eq]
  exact { hx' with
    address := rfl
    stable := rfl
    last := hlast }

theorem onLinkChanged_stable (h : Stable due last c) {env : Env} {link : LinkState}
    (calm : Calm due c (.linkChanged link env)) : Stable due last (c.onLinkChanged env link) := by
  obtain he | ⟨hears, he⟩ := onLinkChanged_cases c env link
  · rw [he]
    exact h
  · obtain ⟨_, _, _, _, _, _, _, hh, -⟩ := hear_ready env c (calm hears)
    rw [he, hh, changed_eq]
    exact { h with
      ready := calm hears
      address := rfl
      stable := (if_neg (not_not.mpr h.ready)).trans h.stable }

theorem Effect.stable_or_replaced {a : Atom} {d : Controller} (he : Effect a c d)
    (before : ∀ env, a = .timer env → ((env.now 0 : Nat) : Uptime) < due)
    (other : ∀ r env, a ≠ .operationFinished r env) (unheard : ∀ link env, a ≠ .linkChanged link env)
    (h : Stable due last c) : Stable due last d ∨ Replaced c d := by
  cases he with
  | noted | scheduled | listened | relaxed | repeated | aimed | timedOut | scanTimedOut | taken
  | retryIdle => exact .inl { h with }
  | begun enabled fresh => exact absurd (h.running.symm.trans fresh) (by simp)
  | withdrawn | requested =>
    refine .inr (.inl ?_)
    rw [newIntent_eq]
    exact Nat.lt_succ_self _
  | shutdown opened =>
    refine .inr (.inr (.inr ?_))
    rw [shutdown_eq opened]
  | faulted =>
    refine .inr (.inr (.inl ?_))
    rw [fault_eq]
  | scanQueued | scanDropped | scanCancelled | profiles | cancelled | issued | settled | unrestored
  | scanStarted | retryDenied | retryGranted | enabledReported =>
    rw [stable_changed]
    exact .inl { h with }
  | stable live reached =>
    rw [h.stable] at reached
    exact absurd reached (not_le.mpr (before _ rfl))
  | addressExpired live reached =>
    rw [h.address] at reached
    exact absurd (top_le_iff.mp reached) WithTop.coe_ne_top
  | scanFinished r env =>
    obtain ⟨_, _, _, he, -⟩ := scanFinished_cases env r c
    rw [he, changed_eq]
    exact .inl { h with }
  | stationFinished r env source =>
    obtain rfl | ⟨-, -, idle⟩ := source
    · exact absurd rfl (other r env)
    · refine .inl (stationFinished_stable h fun fails => ?_)
      exact absurd (h.ready.symm.trans (idle fails.1)) (by simp)
  | linkReported => exact absurd rfl (unheard _ _)

theorem Effects.stable_or_replaced {a : Atom} {d : Controller} (he : Effects a c d)
    (before : ∀ env, a = .timer env → ((env.now 0 : Nat) : Uptime) < due)
    (other : ∀ r env, a ≠ .operationFinished r env) (unheard : ∀ link env, a ≠ .linkChanged link env)
    (h : Stable due last c) : Stable due last d ∨ Replaced c d :=
  (he.unless_replaced (I := fun _ => True) (R := fun x y => Stable due last x → Stable due last y)
    (fun _ => id) (fun hxy hyz => hyz ∘ hxy)
    (fun x y hxy _ => ⟨trivial, by
      by_cases hx : Stable due last x
      · exact (hxy.stable_or_replaced before other unheard hx).imp_left fun hy _ => hy
      · exact .inl fun h => absurd h hx⟩) trivial).2.imp_left fun hr => hr.1 h

/-- A calm step that does not fail keeps what is stable. -/
theorem atom_stable {a : Atom} (h : Stable due last c) (calm : Calm due c a)
    (sound : ¬ FailsNow c a) : Stable due last (atom c a) ∨ Replaced c (atom c a) := by
  cases a with
  | operationFinished r env =>
    have h' : Stable due last (c.record (.delivered r)) := { h with }
    obtain ⟨-, he⟩ | ⟨completes, he⟩ | ⟨-, -, he⟩ :=
      onOperationFinished_cases (d := false) (c := c.record (.delivered r)) env r
    · obtain ⟨_, _, _, hf, -⟩ := scanFinished_cases env r (c.record (.delivered r))
      simp only [atom]
      rw [he, hf, changed_eq]
      exact .inl { h with }
    · simp only [atom]
      rw [he]
      exact .inl (stationFinished_stable h' fun fails => sound ⟨{ completes with }, fails⟩)
    · simp only [atom]
      rw [he]
      exact .inl h'
  | linkChanged link env => exact .inl (onLinkChanged_stable h calm)
  | timer env =>
    exact (atom_effects c _).stable_or_replaced (fun _ he => by cases he; exact calm) (by simp)
      (by simp) h
  | _ => exact (atom_effects c _).stable_or_replaced (by simp) (by simp) (by simp) h

/-- The failure leaves a deadline that is never due and an outcome that stays. -/
theorem atom_fails {a : Atom} (h : Stable due last c) (fails : FailsNow c a) :
    ∃ status, status ≠ .kOk ∧ Stable ⊤ status (atom c a) := by
  cases a with
  | operationFinished r env =>
    obtain ⟨completes, fails⟩ := fails
    have h' : Stable due last (c.record (.delivered r)) := { h with }
    have fails' : (c.record (.delivered r)).Fails env r := fails
    refine ⟨_, fails.2.2.1, ?_⟩
    simp only [atom]
    obtain ⟨scan, -⟩ | ⟨-, he⟩ | ⟨other, -⟩ :=
      onOperationFinished_cases (d := false) (c := c.record (.delivered r)) env r
    · exact absurd (completes.kind.symm.trans scan.kind) (Transition.kind_ne_scan _)
    · rw [he]
      exact stationFinished_fails h' fails'
    · exact absurd { completes with } other
  | _ => exact fails.elim

/-! ## The window -/

theorem Calm.mono {a : Atom} (h : Calm due c a) : Calm ⊤ c a := by
  cases a with
  | timer env => exact WithTop.coe_lt_top _
  | linkChanged link env => exact h
  | _ => trivial

/-- What is stable at the start of a calm window is stable at its end. -/
theorem run_stable {as : List Atom} (h : Stable due last c)
    (calm : Machine.Along atom (fun c a => Calm due c a ∧ ¬ FailsNow c a) c as) :
    Stable due last (Machine.run atom c as) ∨ Replaced c (Machine.run atom c as) := by
  induction as generalizing c with
  | nil => exact .inl h
  | cons a as ih =>
    obtain ⟨⟨calm, sound⟩, rest⟩ := calm
    obtain hs | hr := atom_stable h calm sound
    · exact (ih hs rest).imp_right run_replaced_cons
    · exact .inr (run_replaced hr as)

/-- A window that starts after a failure ends after one. -/
theorem run_failed {as : List Atom} (h : ∃ status, status ≠ .kOk ∧ Stable ⊤ status c)
    (calm : Machine.Along atom (Calm due) c as) :
    (∃ status, status ≠ .kOk ∧ Stable ⊤ status (Machine.run atom c as)) ∨
      Replaced c (Machine.run atom c as) := by
  induction as generalizing c with
  | nil => exact .inl h
  | cons a as ih =>
    obtain ⟨calm, rest⟩ := calm
    obtain ⟨status, notOk, hs⟩ := h
    by_cases fails : FailsNow c a
    · exact (ih (atom_fails hs fails) rest).imp_right run_replaced_cons
    · obtain hs | hr := atom_stable hs calm.mono fails
      · exact (ih ⟨status, notOk, hs⟩ rest).imp_right run_replaced_cons
      · exact .inr (run_replaced hr as)

/-- A window in which the connect fails ends after a failure. -/
theorem run_fails {as : List Atom} (h : Stable due last c)
    (calm : Machine.Along atom (Calm due) c as)
    (fails : ¬ Machine.Along atom (fun c a => ¬ FailsNow c a) c as) :
    (∃ status, status ≠ .kOk ∧ Stable ⊤ status (Machine.run atom c as)) ∨
      Replaced c (Machine.run atom c as) := by
  induction as generalizing c with
  | nil => exact absurd trivial fails
  | cons a as ih =>
    obtain ⟨calm, rest⟩ := calm
    by_cases now : FailsNow c a
    · exact (run_failed (atom_fails h now) rest).imp_right run_replaced_cons
    · obtain hs | hr := atom_stable h calm now
      · exact (ih hs rest fun later => fails ⟨now, later⟩).imp_right run_replaced_cons
      · exact .inr (run_replaced hr as)

/-! ## The timer at the end -/

/-- The retry state and its level are kept, but for a retry that a fault drops. -/
def SameBackoff (c d : Controller) : Prop :=
  d.retryLevel_ = c.retryLevel_ ∧ (d.state_.retry = c.state_.retry ∨
    d.state_.retry = { c.state_.retry with pending := false, nextAttempt := ⊤ })

theorem SameBackoff.trans {d e : Controller} (h : SameBackoff c d) (h' : SameBackoff d e) :
    SameBackoff c e := by
  obtain ⟨hl, hr⟩ := h
  obtain ⟨hl', hr'⟩ := h'
  refine ⟨hl'.trans hl, ?_⟩
  obtain hr | hr := hr <;> obtain hr' | hr' := hr' <;> rw [hr', hr]
  · exact .inl rfl
  all_goals exact .inr rfl

theorem checkStationDeadline_backoff (env : Env) : SameBackoff c (c.checkStationDeadline env) := by
  unfold checkStationDeadline
  split
  · split
    · rw [fault_eq]
      exact ⟨rfl, .inr rfl⟩
    dsimp only
    split
    · rw [fault_eq]
      exact ⟨rfl, .inr rfl⟩
    · rw [changed_eq]
      exact ⟨rfl, .inl rfl⟩
  · exact ⟨rfl, .inl rfl⟩

theorem checkScanDeadline_backoff (env : Env) : SameBackoff c (c.checkScanDeadline env) := by
  unfold checkScanDeadline
  split
  · split
    · rw [fault_eq]
      exact ⟨rfl, .inr rfl⟩
    obtain ⟨_, _, _, _, _, _, _, _, he⟩ :=
      cancelScan_shape { c with scanTimedOut_ := true } env (env.now 4)
    dsimp only
    rw [he]
    split
    · rw [fault_eq]
      exact ⟨rfl, .inr rfl⟩
    · exact ⟨rfl, .inl rfl⟩
  · exact ⟨rfl, .inl rfl⟩

/-- Past the link deadlines the timer leaves the backoff alone. -/
theorem checkTimeouts_backoff (live : c.Live) (env : Env) :
    SameBackoff (c.checkLinkDeadlines env) (c.checkTimeouts env) := by
  unfold checkTimeouts
  rw [if_neg (by simp [live.1, live.2])]
  have station := checkStationDeadline_backoff (c := c.checkLinkDeadlines env) env
  dsimp only
  split
  · exact station
  have both := station.trans (checkScanDeadline_backoff env)
  split
  · exact both
  · exact both

/-- Without an address deadline, only the stable one is left to look at. -/
theorem checkLinkDeadlines_eq (env : Env) (address : c.addressDeadline_ = ⊤) :
    c.checkLinkDeadlines env =
      if c.stableDeadline_ ≤ ((env.now 0 : Nat) : Uptime) then
        { c with stableDeadline_ := ⊤, state_.retry := {}, retryLevel_ := 0 }.changed .kStation
      else c := by
  have never : ∀ x : Controller, x.addressDeadline_ = ⊤ →
      ¬ ((env.now 0 : Nat) : Uptime) ≥ x.addressDeadline_ := by
    intro x hx
    rw [hx]
    exact not_le.mpr (WithTop.coe_lt_top _)
  unfold checkLinkDeadlines
  dsimp only
  split
  · rw [if_neg (never _ (by rw [changed_eq]; exact address))]
  · rw [if_neg (never _ address)]

/-- The timer that finds the link stable clears the backoff. -/
theorem checkTimeouts_clears (live : c.Live) (h : Stable due last c) {env : Env}
    (reached : due ≤ ((env.now 0 : Nat) : Uptime)) :
    (c.checkTimeouts env).state_.retry = {} ∧ (c.checkTimeouts env).retryLevel_ = 0 := by
  obtain ⟨hl, hr⟩ := checkTimeouts_backoff live env
  rw [checkLinkDeadlines_eq env h.address, if_pos (h.stable ▸ reached), changed_eq] at hl hr
  exact ⟨hr.elim id id, hl⟩

/-- The timer after a failure leaves it in the retry state. -/
theorem checkTimeouts_remembers (live : c.Live) (h : Stable ⊤ last c) (env : Env) :
    (c.checkTimeouts env).state_.retry.lastStatus = last := by
  obtain ⟨-, hr⟩ := checkTimeouts_backoff live env
  rw [checkLinkDeadlines_eq env h.address, if_neg (by
    rw [h.stable]
    exact not_le.mpr (WithTop.coe_lt_top _))] at hr
  obtain hr | hr := hr <;> rw [hr] <;> exact h.last

/-- The report of the address starts the window, whatever failed before. -/
theorem linkChanged_starts {env : Env} {link : LinkState} (hears : (core false c).Hears link)
    (fresh : c.state_.link.phase ≠ .kAddressReady) (ready : link.phase = .kAddressReady) :
    ∃ last, Stable (env.now 0 + Millis c.options_.retry.stableConnectionMs : Nat) last
      (atom c (.linkChanged link env)) := by
  obtain ⟨_, _, _, _, _, _, _, hh, -⟩ := hear_ready env c ready
  refine ⟨c.state_.retry.lastStatus, ?_⟩
  simp only [atom]
  rw [onLinkChanged_eq hears, hh, changed_eq]
  exact {
    running := hears.running
    ready := ready
    address := rfl
    stable := if_pos fresh
    last := rfl }

/-- **A connection that stays up resets the backoff** exactly when the connect
that brought it up does not fail while it is up. -/
theorem stable_link_clears (options : Options) (seed : UInt32) (as bs : List Atom)
    (link : LinkState) (reported fired : Env) :
    let c := Machine.run atom (init options seed) as
    let due := reported.now 0 + Millis c.options_.retry.stableConnectionMs
    let up := atom c (.linkChanged link reported)
    let d := Machine.run atom up bs
    let e := atom d (.timer fired)
    (core false c).Hears link → c.state_.link.phase ≠ .kAddressReady →
      link.phase = .kAddressReady → Machine.Along atom (Calm (due : Nat)) up bs →
      ¬ Replaced up d → due ≤ fired.now 0 →
      (e.state_.retry = {} ∧ e.retryLevel_ = 0 ↔
        Machine.Along atom (fun c a => ¬ FailsNow c a) up bs) := by
  intro c due up d e hears fresh ready calm kept reached
  obtain ⟨last, start⟩ : ∃ last, Stable (due : Nat) last up :=
    linkChanged_starts hears fresh ready
  have unfaulted : d.faulted_ = false := by
    by_contra h
    exact kept (.inr (.inl (by simpa using h)))
  constructor
  · intro cleared
    by_contra fails
    obtain ⟨status, notOk, hs⟩ := (run_fails start calm fails).resolve_right kept
    refine notOk (?_ : status = .kOk)
    have hlast : e.state_.retry.lastStatus = status := by
      by_cases unarmed : d.timer_ = ⊤
      · have he : e = d := if_neg (not_not.mpr unarmed)
        rw [he]
        exact hs.last
      · have he : e = { d with timer_ := ⊤ }.checkTimeouts fired := if_pos unarmed
        rw [he]
        exact checkTimeouts_remembers (c := { d with timer_ := ⊤ }) ⟨hs.running, unfaulted⟩
          { hs with } fired
    rw [← hlast, cleared.1]
  · intro sound
    have hs : Stable (due : Nat) last d :=
      (run_stable start (Machine.along_and.mpr ⟨calm, sound⟩)).resolve_right kept
    have live : d.Live := ⟨hs.running, unfaulted⟩
    have armed : d.timer_ ≠ ⊤ := by
      have hd : d = Machine.run atom (init options seed) (as ++ .linkChanged link reported :: bs) := by
        rw [Machine.run_append, Machine.run_cons]
      have guarded : Guarded d := by
        rw [hd]
        exact (run_guarded options seed _).1
      have early : d.timer_ ≤ d.stableDeadline_ := (guarded live).stable
      rw [hs.stable] at early
      exact ne_top_of_le_ne_top WithTop.coe_ne_top early
    have he : e = { d with timer_ := ⊤ }.checkTimeouts fired := if_pos armed
    rw [he]
    exact checkTimeouts_clears (c := { d with timer_ := ⊤ }) live { hs with }
      (WithTop.coe_le_coe.mpr reached)

theorem stable_link_clears_test :
    let up := Machine.run atom (init {} 1)
      (connecting ++ [.linkChanged { connectionId := 2, phase := .kAddressReady } .willing,
        .operationFinished { id := 2, kind := .kConnect } .willing])
    (atom up (.timer (later 60000000))).retryLevel_ = 0 :=
  ((stable_link_clears {} 1 connecting [.operationFinished { id := 2, kind := .kConnect } .willing]
    { connectionId := 2, phase := .kAddressReady } .willing (later 60000000) (by decide) (by decide)
    rfl (by decide) (by decide) (by decide)).mpr (by decide)).2

/-- The store cannot remember the profile, which counts as a failure of the
connection that is up: it stays up, and its deadline is gone. -/
theorem unstored_link_stays_failed : ¬ ∀ options seed as bs link reported fired,
    let c := Machine.run atom (init options seed) as
    let due := reported.now 0 + Millis c.options_.retry.stableConnectionMs
    let up := atom c (.linkChanged link reported)
    let d := Machine.run atom up bs
    let e := atom d (.timer fired)
    (core false c).Hears link → c.state_.link.phase ≠ .kAddressReady →
      link.phase = .kAddressReady → Machine.Along atom (Calm (due : Nat)) up bs →
      ¬ Replaced up d → due ≤ fired.now 0 → e.state_.retry = {} ∧ e.retryLevel_ = 0 :=
  fun h => absurd (h {} 1 connecting [.operationFinished { id := 2, kind := .kConnect }
      { Env.willing with writeLastProfile := .kStorageFailure }]
    { connectionId := 2, phase := .kAddressReady } .willing (later 60000000) (by decide) (by decide)
    rfl (by decide) (by decide) (by decide)) (by decide)

end RooWifi.Controller
