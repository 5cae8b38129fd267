import RooWifi.Controller.Reconciliation
import RooWifi.System.Coherence

/-! # Reconciliation of the stack

The controller reconciles its intent over an interface that keeps its contract.
The interface of the stack keeps all of it except for what ESP-IDF reports of
its own accord; so the stack at rest is in the state that was asked for. -/
namespace RooWifi

namespace Controller

/-! ## The contract -/

/-- A successful completion has reported its effect, and a link comes up, and
starts to connect, only for an outstanding connect. -/
def Lawful (c : Controller) : Atom → Prop
  | .operationFinished r _ => (core false c).Completes r →
      (core false c).Reports r ∧ (core false c).ReportsLink r
  | .linkChanged link _ =>
      (core false c).LinksOnRequest link ∧ ¬ (core false c).Regresses link
  | _ => True

theorem reports_of_earned {c : Core} {r : OperationResult} (completes : c.Completes r)
    (earned : r.status = .kOk → c.radio.Earned (r.id, r.kind)) : c.Reports r ∧ c.ReportsLink r := by
  have kind := completes.kind
  refine ⟨fun ok => ⟨fun enabling => ?_, fun leaving => ?_⟩, fun ok connecting => ?_⟩
  · have effect := earned ok
    rw [kind, enabling] at effect
    exact effect.trans (by simp [Core.radio, enabling])
  · have effect := earned ok
    rw [kind, leaving] at effect
    exact effect
  · have effect := earned ok
    rw [kind, connecting] at effect
    exact ⟨effect.1, effect.2.trans completes.id⟩

theorem links_of_founded {c : Core} {link : LinkState} (founded : c.radio.Founded link) :
    c.LinksOnRequest link ∧ ¬ c.Regresses link := by
  unfold Radio.Founded at founded
  cases phase : link.phase with
  | kIdle => exact ⟨.inl phase, fun h => by cases phase.symm.trans h.1⟩
  | kConnecting =>
    rw [phase] at founded
    obtain ⟨connecting, -⟩ := Core.connecting_of_radio founded
    exact ⟨.inr (.inr connecting), fun h => by cases connecting.symm.trans h.2.1⟩
  | kAssociated | kAddressReady =>
    rw [phase] at founded
    exact ⟨.inr (.inl founded), fun h => by cases phase.symm.trans h.1⟩

theorem lawful_of_expects {c : Controller} {a : Atom} (expected : c.Expects a) : c.Lawful a := by
  cases a with
  | operationFinished r env => exact fun completes => reports_of_earned completes expected.2
  | linkChanged link env => exact links_of_founded expected.2
  | _ => trivial

/-! ## Persistence -/

/-- What neither level can promise: ESP-IDF reports another enablement only
during an enable, and none of the paths is taken on which the controller gives
an intent up in silence. -/
def Persists (c : Controller) : Atom → Prop
  | .work env => Permits persistent c { event := .work, env }
  | .timer env => Permits persistent c { event := .timer, env }
  | .linkChanged link _ => (core false c).Hears link → ¬ (core false c).RecoversElse link
  | .enabledChanged enabled => c.running_ = true → c.faulted_ = false →
      (core false c).EnablesOnRequest enabled
  | _ => True

instance (c : Controller) : DecidablePred c.Persists := fun a =>
  match a with
  | .work env => inferInstanceAs (Decidable (Permits persistent c { event := .work, env }))
  | .timer env => inferInstanceAs (Decidable (Permits persistent c { event := .timer, env }))
  | .linkChanged _ _ | .enabledChanged _ => inferInstanceAs (Decidable (_ → _))
  | .call .. | .reconnect _ | .operationFinished .. | .take | .deliver .. =>
    inferInstanceAs (Decidable True)

theorem persistent_path {c : Controller} {a : Atom} (hid : c.nextId_ ≠ 0)
    (lawful : c.Live → c.Lawful a) (persists : c.Persists a) :
    Path persistent (core false c) (core false (atom c a)) := by
  cases a with
  | call call env => exact step_path (i := { event := .call call, env }) hid trivial
  | work env => exact step_path (i := { event := .work, env }) hid persists
  | timer env => exact step_path (i := { event := .timer, env }) hid persists
  | reconnect env => exact step_path (i := { event := .reconnect, env }) hid trivial
  | operationFinished r env =>
    refine step_path (i := { event := .operationFinished r, env }) hid fun completes => ?_
    exact lawful ⟨completes.running, completes.faulted⟩ completes
  | linkChanged link env =>
    refine step_path (i := { event := .linkChanged link, env }) hid fun hears => ?_
    obtain ⟨requested, advances⟩ := lawful ⟨hears.running, hears.faulted⟩
    exact ⟨requested, persists hears, advances⟩
  | enabledChanged enabled => exact step_path (i := { event := .enabledChanged enabled }) hid persists
  | take =>
    simp only [atom]
    split <;> exact .refl
  | deliver listener change => exact .single (.noted (.notified listener change) trivial)

theorem reconciles_atom {c : Controller} {a : Atom} (hi : Reconciles (core false c))
    (lawful : c.Live → c.Lawful a) (persists : c.Persists a) :
    Reconciles (core false (atom c a)) :=
  Machine.path_invariant (J := Reconciles)
    (fun _ _ hm hi => ⟨hm.exclusive hi.exclusive,
      hm.observed persistent_contract hi.exclusive hi.observed,
      hm.reconciling hi.exclusive hi.observed hi.reconciling⟩)
    (persistent_path hi.exclusive.nextId_ne lawful persists) hi

/-- A controller at rest has what it wants. -/
theorem Reconciles.matches {c : Controller} (h : Reconciles (core false c)) (rest : AtRest c) :
    (core false c).Matches := by
  obtain ⟨exclusive, -, reconciling⟩ := h
  obtain ⟨running, sound, noWork, noStation, noScan, noRetry, ok⟩ := rest
  have coherent := reconciling.coherent running sound
  have free := exclusive.free.mpr noStation
  have done : ¬ ((core false c).initialized = false ∨
      (core false c).attempted ≠ (core false c).revision) := fun needed => by
    obtain h | h | h | h := coherent.awaiting rfl free needed
    · exact absurd (noWork.symm.trans h) (by simp)
    · exact absurd (noRetry.symm.trans h) (by simp)
    · exact h noScan
    · exact h ok
  obtain ⟨initialized, attempted⟩ := not_or.mp done
  exact coherent.settled (by simpa using initialized) free (not_not.mp attempted) ok

end Controller

/-! ## The stack -/

namespace Stack

open Controller (Options core)

variable (s : Stack)

/-- The interface keeps its contract towards a live controller. -/
def Lawful : Input → Prop
  | .atom .. => True
  | .interface input env => (∀ c, input.event ≠ .command c) →
      Machine.Along Controller.atom (fun c a => c.Live → c.Lawful a) s.controller
        (s.callbacks (s.interface.step input) env)

/-- The step gives no intent up in silence. -/
def Persists : Input → Prop
  | .atom a _ => s.controller.Persists (s.wired a)
  | .interface input env =>
    Machine.Along Controller.atom Controller.Persists s.controller
      (s.callbacks (s.interface.step input) env)

instance : DecidablePred s.Persists := fun input =>
  match input with
  | .atom _ _ => inferInstanceAs (Decidable (Controller.Persists _ _))
  | .interface _ _ => inferInstanceAs (Decidable (Machine.Along _ _ _ _))

/-- The station is what the intent asks for. -/
structure Matches : Prop where
  enabled : s.interface.ordered.enabled_ = decide (s.controller.state_.desired ≠ .kDisabled)
  idle : s.controller.state_.desired ≠ .kConnected → s.interface.ordered.link_.phase = .kIdle
  connected : s.controller.state_.desired = .kConnected →
    s.interface.ordered.link_.phase = .kAddressReady ∨
      s.interface.ordered.link_.phase = .kAssociated ∧ s.controller.addressDeadline_ ≠ ⊤

structure Reconciled (options : Options) (seed : UInt32) : Prop where
  wired : s.Wired options seed
  reconciles : Controller.Reconciles (core false s.controller)

variable {s} {options : Options} {seed : UInt32}

theorem Wired.lawful (hi : Wired s options seed) (input : Input) : s.Lawful input := by
  cases input with
  | atom => trivial
  | interface input env =>
    exact fun uncalled =>
      hi.callbacks_along (fun _ _ _ => Controller.lawful_of_expects) uncalled env

theorem reconciled_step (hi : Reconciled s options seed) {input : Input}
    (persists : s.Persists input) : Reconciled (s.step input) options seed := by
  refine ⟨wired_step hi.wired input, ?_⟩
  cases input with
  | atom a inputs =>
    by_cases meets : s.Meets a inputs
    · simp only [step, if_pos meets]
      refine Controller.reconciles_atom hi.reconciles (fun _ => ?_) persists
      have other : (s.wired a).callback = false := wired_callback.trans meets.1
      revert other
      cases s.wired a with
      | operationFinished | linkChanged | enabledChanged =>
        exact fun other => absurd other.symm Bool.false_ne_true
      | _ => exact fun _ => trivial
    · simp only [step, if_neg meets]
      exact hi.reconciles
  | interface input env =>
    have lawful := hi.wired.lawful (.interface input env)
    obtain ⟨event, idf⟩ := input
    cases event with
    | command c => exact hi.reconciles
    | drain | pump | native =>
      refine Machine.run_invariant (I := fun c => Controller.Reconciles (core false c))
        (fun c a h hi => Controller.reconciles_atom hi h.1 h.2) hi.reconciles
        (Machine.along_and.mpr ⟨lawful ?_, persists⟩)
      simp

/-- What the controller at rest believes is so. -/
theorem Reconciled.matches (hi : Reconciled s options seed)
    (rest : Controller.AtRest s.controller) : s.Matches := by
  have exclusive := hi.wired.exclusive
  have open_ := (exclusive.notStopped rest.1 rest.2.1).1
  have agree := hi.wired.coherent open_ rest.2.1
  have enabled : (core false s.controller).enabled = s.interface.ordered.enabled_ :=
    congrArg Radio.enabled agree
  have phase : (core false s.controller).phase = s.interface.ordered.link_.phase :=
    congrArg Radio.phase agree
  have believed := hi.reconciles.matches rest
  by_cases idle : (core false s.controller).phase = .kIdle
  · obtain ⟨wanted, offline⟩ := believed.idle idle
    exact ⟨enabled.symm.trans wanted, fun _ => phase.symm.trans idle,
      fun connected => absurd connected offline⟩
  · obtain ⟨connected, up, link⟩ := believed.connected idle
    refine ⟨?_, fun offline => absurd connected offline, fun _ => ?_⟩
    · rw [← enabled, up]
      exact (decide_eq_true (by simp [show s.controller.state_.desired = .kConnected from
        connected])).symm
    · rw [← phase]
      exact link

/-- The station connects, and gets its address. -/
def Connected : List Input :=
  Prepared ++ [alone .pump, alone .pump,
    alone (.native (.WIFI_EVENT_STA_CONNECTED
      { ssid := .load _ [65], ssidLen := 1, authmode := .WIFI_AUTH_WPA2_PSK })),
    alone .drain, alone .pump, alone .pump,
    alone (.native (.IP_EVENT_STA_GOT_IP { ip := 1 }))
      { staGetApInfo := some { ssid := .load _ [65] }, getIpInfo := some 1 },
    alone .drain, alone .pump, alone .pump, makes .work]

end Stack

/-- **The interface keeps its contract.** In every run a completion that
succeeds has reported its effect, and a link comes up only for an outstanding
connect. -/
theorem interface_lawful (wpa3 : Bool) (selection : Esp32Station.SelectionOptions)
    (options : Controller.Options) (seed : UInt32) (inputs : List Stack.Input) :
    Machine.Along Stack.step Stack.Lawful (Stack.init wpa3 selection options seed) inputs :=
  (Stack.wired_run wpa3 selection options seed inputs).1.mono fun _ input hi => hi.lawful input

/-- **The stack at rest is what was asked for**, in every run in which ESP-IDF
changes the enablement only when asked and no intent is given up in silence. -/
theorem stack_reconciled (wpa3 : Bool) (selection : Esp32Station.SelectionOptions)
    (options : Controller.Options) (seed : UInt32) (inputs : List Stack.Input)
    (persists : Machine.Along Stack.step Stack.Persists (Stack.init wpa3 selection options seed)
      inputs)
    (rest : Controller.AtRest
      (Machine.run Stack.step (Stack.init wpa3 selection options seed) inputs).controller) :
    (Machine.run Stack.step (Stack.init wpa3 selection options seed) inputs).Matches :=
  (Machine.run_invariant (I := fun s => Stack.Reconciled s options seed)
    (fun _ _ persists hi => Stack.reconciled_step hi persists)
    ⟨Stack.wired_init wpa3 selection, Controller.reconciles_init options seed⟩ persists).matches
    rest

theorem stack_reconciled_connected :
    (Machine.run Stack.step (Stack.init true {} {} 1) Stack.Connected).Matches := by
  have persists : Machine.Along Stack.step Stack.Persists (Stack.init true {} {} 1)
      Stack.Connected := by decide +kernel
  have rest : Controller.AtRest (Machine.run Stack.step (Stack.init true {} {} 1)
      Stack.Connected).controller := by decide +kernel
  exact stack_reconciled true {} {} 1 Stack.Connected persists rest

end RooWifi
