import RooWifi.System.Belief

/-! # Coherence of the two levels

Over any run of the stack the controller and its interface agree on the radio.
So every command comes in turn, and whatever the interface tells the controller
is waited for. -/
namespace RooWifi

open OrderedInterface (Happening)

/-! ## The adapter -/

namespace OrderedInterface

variable {o : OrderedInterface} {input : Input}

/-- The adapter drains its queue only while it is attached. -/
structure Attending (o : OrderedInterface) : Prop where
  tidy : o.Tidy
  attached : o.draining = true → o.attached_ = true

theorem draining_posts (posts : List NativeStation.Event) (o : OrderedInterface) :
    (posts.foldl OrderedInterface.post o).draining = o.draining := by
  induction posts generalizing o with
  | nil => rfl
  | cons event posts ih =>
    rw [List.foldl_cons, ih]
    unfold post
    split <;> rfl

theorem Attending.posts (hi : Attending o) (posts : List NativeStation.Event) :
    Attending (posts.foldl OrderedInterface.post o) where
  tidy := hi.tidy.of_holding (Esp32IdfInterface.holding_posts _ _)
  attached draining := by
    rw [draining_posts] at draining
    have attached := congrArg (·.2.1) (Esp32IdfInterface.holding_posts posts o)
    exact attached.trans (hi.attached draining)

/-- Only the dispatch task starts to drain. -/
theorem step_draining (idle : o.draining = false) (undrained : input.event ≠ .drain) :
    (o.step input).draining = false := by
  obtain ⟨event, native⟩ := input
  have posted {p : OrderedInterface} (event : NativeStation.Event) (idle : p.draining = false) :
      (p.post event).draining = false := (draining_posts [event] p).trans idle
  unfold OrderedInterface.step
  cases event with
  | drain => exact absurd rfl undrained
  | post event =>
    dsimp only
    split
    · exact posted event idle
    · exact idle
  | pump =>
    simp only [pump, idle]
    exact idle
  | _ =>
    simp only [idle, Bool.false_eq_true, if_false, begin, setEnabled, startScan, connect,
      disconnect, cancelScan, cancelConnect, shutdown]
    repeat' split
    all_goals
      first
      | rfl
      | exact idle
      | exact posted _ rfl
      | exact posted _ idle

theorem Attending.step (hi : Attending o) (input : Input) : Attending (o.step input) where
  tidy := hi.tidy.step input
  attached drains := by
    obtain ⟨event, native⟩ := input
    cases draining : o.draining with
    | false =>
      by_cases drain : event = .drain
      · subst drain
        simp only [OrderedInterface.step, OrderedInterface.drain, draining, Bool.false_eq_true,
          if_false] at drains ⊢
        split at drains
        · exact absurd (draining.symm.trans drains) Bool.false_ne_true
        · rename_i scheduled
          rw [if_neg scheduled]
          exact hi.tidy.sink.symm.trans drains
      · exact absurd ((step_draining draining drain).symm.trans drains) Bool.false_ne_true
    | true =>
      have attached := hi.attached draining
      cases event with
      | pump => exact (winds_pump o native).attached.trans attached
      | post event =>
        simp only [OrderedInterface.step, attached, if_true]
        exact (congrArg (·.2.1) (holding_post o event)).trans attached
      | _ => simpa [OrderedInterface.step, draining] using attached

/-- A command meets the adapter in the state it is meant for. -/
def Ready (o : OrderedInterface) : Esp32IdfInterface.Command → Prop
  | .begin | .shutdown => True
  | .setEnabled id _ => o.stationAdmission id = .kOk ∧ o.link_.phase = .kIdle
  | .startScan id _ => o.stationAdmission id = .kOk
  | .connect id _ _ => o.stationAdmission id = .kOk ∧ o.link_.phase = .kIdle ∧ o.enabled_ = true
  | .disconnect id => o.stationAdmission id = .kOk ∧ o.link_.phase ≠ .kIdle
  | .cancelScan => o.scan_.id ≠ 0 ∧ o.scanCancelling_ = false
  | .cancelConnect => (o.station_.id ≠ 0 ∧ o.station_.kind = .kConnect) ∧ o.cancelling_ = false

theorem outstanding_zero {r : OperationResult} (free : outstanding r = none) : r.id = 0 := by
  by_contra hid
  cases (outstanding_eq hid).symm.trans free

theorem Attending.ready (hi : Attending o) (sound : o.faulted_ = false)
    {c : Esp32IdfInterface.Command} (welcome : o.radio.Welcomes c) : o.Ready c := by
  have admitted {id : OperationId} (free : o.radio.Free id) : o.stationAdmission id = .kOk := by
    obtain ⟨attached, hid, station, scan⟩ := free
    have sink : o.sink_ = true := hi.tidy.sink.trans attached
    have unrequested : o.station_.id = 0 := outstanding_zero station
    have unscanned : o.scan_.id = 0 := outstanding_zero scan
    simp [stationAdmission, sink, sound, hid, unrequested, unscanned]
  cases c with
  | begin | shutdown => trivial
  | setEnabled | connect | disconnect => exact ⟨admitted welcome.1, welcome.2⟩
  | startScan => exact admitted welcome
  | cancelScan =>
    refine ⟨fun zero => ?_, welcome.2⟩
    have scan : o.radio.scan = none := if_pos zero
    rw [Radio.Welcomes, scan] at welcome
    exact absurd welcome.1 (by simp)
  | cancelConnect =>
    obtain ⟨⟨id, connecting⟩, fresh⟩ := welcome
    refine ⟨?_, fresh⟩
    have nonzero : o.station_.id ≠ 0 := by
      intro zero
      cases connecting.symm.trans (if_pos zero : o.radio.station = none)
    have pending : o.radio.station = some (o.station_.id, o.station_.kind) := outstanding_eq nonzero
    exact ⟨nonzero, congrArg Prod.snd (Option.some.inj (pending.symm.trans connecting))⟩

end OrderedInterface

/-! ## The interface -/

namespace Esp32IdfInterface

variable {s : Esp32IdfInterface}

theorem attending_step (hi : s.ordered.Attending) (input : Input) :
    (s.step input).ordered.Attending := by
  obtain ⟨event, idf⟩ := input
  cases event with
  | native e => exact hi.posts _
  | command | drain | pump => exact (hi.step _).posts _

/-- Within a call nothing is drained. -/
theorem step_within {input : Input} (idle : s.ordered.draining = false)
    (within : input.event.within = true) : (s.step input).ordered.draining = false := by
  obtain ⟨event, idf⟩ := input
  cases event with
  | native e => exact (OrderedInterface.draining_posts _ _).trans idle
  | drain | pump => cases within
  | command c =>
    refine (OrderedInterface.draining_posts _ _).trans (OrderedInterface.step_draining idle ?_)
    cases c <;> exact OrderedInterface.Event.noConfusion

/-- Outside a drain every command is answered. -/
theorem returned_command (idle : s.ordered.draining = false) (c : Command) (idf : Idf) :
    ∃ status, s.returned { event := .command c, idf } = some (c, status) := by
  cases c <;>
    simp [returned, answer, OrderedInterface.answer, answered, Command.event, idle]

/-- Commands that come in turn find the adapter ready. -/
theorem run_ready (hi : s.ordered.Attending) (idle : s.ordered.draining = false)
    {inputs : List Input} (within : ∀ input ∈ inputs, input.event.within = true)
    (welcome : Machine.Along Radio.serve (fun r x => r.Welcomes x.1) s.ordered.radio
      (s.returns inputs)) :
    Machine.Along step (fun s input => ∀ c, input.event = .command c →
      s.ordered.faulted_ = false → s.ordered.Ready c) s inputs := by
  induction inputs generalizing s with
  | nil => trivial
  | cons input inputs ih =>
    have inside := within _ List.mem_cons_self
    rw [returns_cons, Machine.along_append] at welcome
    refine ⟨fun c command sound => ?_, ih (attending_step hi input) (step_within idle inside)
      (fun other mem => within other (List.mem_cons_of_mem _ mem)) ?_⟩
    · obtain ⟨event, idf⟩ := input
      obtain rfl : event = .command c := command
      obtain ⟨status, returned⟩ := returned_command idle c idf
      rw [returned] at welcome
      exact hi.ready sound welcome.1.1
    · rw [step_radio inside]
      exact welcome.2

end Esp32IdfInterface

/-! ## The controller -/

namespace Controller

/-- What the controller is told is for it: a completion is of the operation it
has outstanding, a link report is of its link. -/
def Heeds (c : Controller) : Atom → Prop
  | .operationFinished result _ => (core false c).Completes result ∨ (core false c).CompletesScan result
  | .linkChanged link _ => (core false c).Hears link
  | _ => True

theorem sorted_radio (c : Core) : c.radio.Sorted where
  station := by
    intro op outstanding
    simp only [Core.radio] at outstanding
    split at outstanding
    · cases outstanding
    · obtain rfl := Option.some.inj outstanding
      exact Transition.kind_ne_scan _
  scan := by
    intro op outstanding
    simp only [Core.radio] at outstanding
    split at outstanding
    · cases outstanding
    · obtain rfl := Option.some.inj outstanding
      rfl

/-- The callback is one that the controller waits for. -/
def Expects (c : Controller) : Atom → Prop
  | .operationFinished result _ => (core false c).radio.Expects (.finished result)
  | .linkChanged link _ => (core false c).radio.Expects (.linkChanged link)
  | _ => True

/-- An expected callback is for the controller. -/
theorem heeds_of_expects {c : Controller} {a : Atom} (live : c.Live) (expected : c.Expects a) :
    c.Heeds a := by
  cases a with
  | operationFinished r env =>
    by_cases scan : r.kind = .kScan
    · exact .inr (completesScan_of_expects live expected scan)
    · exact .inl (completes_of_expects live expected scan)
  | linkChanged link env => exact hears_of_expects live expected
  | _ => trivial

theorem expects_callback {c : Controller} {h : Happening} {callback : Env → Atom} (env : Env)
    (told : Stack.hears h = some callback) (expected : (core false c).radio.Expects h) :
    c.Expects (callback env) := by
  cases h with
  | finished | linkChanged | enabledChanged =>
    cases told
    exact expected
  | _ => cases told

/-- A happening without a callback is no matter of the radio. -/
theorem tell_unheard (r : Radio) {h : Happening} (unheard : Stack.hears h = none) :
    r.tell h = r := by
  cases h with
  | finished | linkChanged | enabledChanged => cases unheard
  | _ => rfl

/-- **Callbacks in the order they are told.** Where each happening is expected,
so is its callback, and the controller believes it. -/
theorem run_told {c : Controller} (live : c.Live) {told : List Happening}
    (expected : Machine.Along Radio.tell Radio.Expects (core false c).radio told)
    (env : Nat → Env) :
    let as := (told.filterMap Stack.hears).mapIdx fun i callback => callback (env i)
    Machine.Along atom (fun c a => c.Live ∧ c.Expects a) c as ∧ (Machine.run atom c as).Live ∧
      (core false (Machine.run atom c as)).radio =
        Machine.run Radio.tell (core false c).radio told := by
  induction told generalizing c env with
  | nil => exact ⟨trivial, live, rfl⟩
  | cons h told ih =>
    cases heard : Stack.hears h with
    | none =>
      have rest := expected.2
      rw [tell_unheard _ heard] at rest
      simpa only [List.filterMap_cons, heard, Machine.run_cons, tell_unheard _ heard] using
        ih live rest env
    | some callback =>
      have believes := believes_callback (env 0) live heard expected.1
      have live' : (atom c (callback (env 0))).Live :=
        ⟨believes.running.trans live.1, believes.faulted.trans live.2⟩
      have rest := expected.2
      rw [← believes.radio] at rest
      obtain ⟨heeded, live'', radio⟩ := ih live' rest fun i => env (i + 1)
      simp only [List.filterMap_cons, heard, List.mapIdx_cons, Machine.run_cons]
      refine ⟨⟨⟨live, expects_callback (env 0) heard expected.1⟩, heeded⟩, live'', ?_⟩
      rw [radio, believes.radio]

/-- A controller that is not live ignores its callbacks. -/
theorem atom_deaf {c : Controller} {a : Atom} (dead : ¬ c.Live) (heard : a.callback = true) :
    (atom c a).running_ = c.running_ ∧ (atom c a).closed_ = c.closed_ ∧
      (atom c a).faulted_ = c.faulted_ := by
  have ended : (!c.running_ || c.faulted_) = true := by
    by_contra h
    exact dead (by simpa [Live] using h)
  cases a with
  | operationFinished r env =>
    have same : (c.record (.delivered r)).onOperationFinished env r = c.record (.delivered r) := by
      unfold onOperationFinished
      refine if_pos ?_
      change ((!c.running_ || c.faulted_ || decide (r.id = 0)) = true)
      rw [ended, Bool.true_or]
    simp only [atom, same]
    exact ⟨rfl, rfl, rfl⟩
  | linkChanged link env =>
    simp only [atom, onLinkChanged, if_pos ended, and_self]
  | enabledChanged enabled =>
    simp only [atom, onEnabledChanged, if_pos ended, and_self]
  | _ => cases heard

/-- No callback opens, starts or mends it. -/
theorem run_deaf {c : Controller} (dead : ¬ c.Live) {as : List Atom}
    (heard : ∀ a ∈ as, a.callback = true) :
    let d := Machine.run atom c as
    ¬ d.Live ∧ d.running_ = c.running_ ∧ d.closed_ = c.closed_ ∧ d.faulted_ = c.faulted_ :=
  Machine.run_invariant_inputs (I := fun d : Controller => ¬ d.Live ∧ d.running_ = c.running_ ∧
    d.closed_ = c.closed_ ∧ d.faulted_ = c.faulted_)
    (fun d a heard ⟨dead, running, closed, faulted⟩ => by
      obtain ⟨running', closed', faulted'⟩ := atom_deaf dead heard
      refine ⟨?_, running'.trans running, closed'.trans closed, faulted'.trans faulted⟩
      rwa [Live, running', faulted']) ⟨dead, rfl, rfl, rfl⟩ heard

end Controller

/-! ## The stack -/

namespace Stack

open Controller (Options core)

variable (s : Stack)

/-- While the controller is neither closed nor faulted, both levels agree on
whether the station is attached and enabled, on the phase and identity of its
link, and on what is outstanding and being cancelled. -/
def Coherent : Prop :=
  s.controller.closed_ = false → s.controller.faulted_ = false →
    (core false s.controller).radio = s.interface.ordered.radio

/-- Every command of the controller finds an adapter without a fault in the
state it is meant for. -/
def InTurn : Input → Prop
  | .atom a inputs => s.Meets a inputs → Machine.Along Esp32IdfInterface.step
      (fun s input => ∀ c, input.event = .command c → s.ordered.faulted_ = false →
        s.ordered.Ready c) s.interface inputs
  | .interface .. => True

/-- Everything a live controller is told is for it. -/
def Heeded : Input → Prop
  | .atom .. => True
  | .interface input env => (∀ c, input.event ≠ .command c) →
      Machine.Along Controller.atom (fun c a => c.Live → c.Heeds a) s.controller
        (s.callbacks (s.interface.step input) env)

/-- What carries coherence over runs. -/
structure Wired (options : Options) (seed : UInt32) : Prop where
  reached : ∃ as, s.controller = Machine.run Controller.atom (Controller.init options seed) as
  attending : s.interface.ordered.Attending
  attached : s.interface.ordered.attached_ = s.controller.running_
  coherent : s.Coherent

variable {s} {options : Options} {seed : UInt32}

theorem wired_init (wpa3 : Bool) (selection : Esp32Station.SelectionOptions) :
    Wired (init wpa3 selection options seed) options seed where
  reached := ⟨[], rfl⟩
  attending := ⟨⟨rfl, fun _ => rfl, fun _ => rfl⟩, fun draining => absurd draining Bool.false_ne_true⟩
  attached := rfl
  coherent := fun _ _ => rfl

theorem Wired.exclusive (hi : Wired s options seed) :
    Controller.Exclusive (core false s.controller) := by
  obtain ⟨as, reached⟩ := hi.reached
  rw [reached]
  exact Controller.atoms_exclusive options seed as

theorem Wired.reached_run (hi : Wired s options seed) (as : List Controller.Atom) :
    ∃ bs, Machine.run Controller.atom s.controller as =
      Machine.run Controller.atom (Controller.init options seed) bs := by
  obtain ⟨bs, reached⟩ := hi.reached
  exact ⟨bs ++ as, by rw [Machine.run_append, ← reached]⟩

theorem wired_callback {a : Controller.Atom} : (s.wired a).callback = a.callback := by
  cases a <;> rfl

/-- The commands of a call are those it adds to the trace. -/
theorem commands_eq {a : Controller.Atom} {new : List Controller.Action}
    (trace : (s.controller.atom (s.wired a)).trace = new ++ s.controller.trace) :
    s.commands a = Controller.commands new := by
  simp [commands, trace]

/-- A call leaves the station attached if it leaves the controller running. -/
theorem Wired.attaches (hi : Wired s options seed) (a : Controller.Atom) :
    (s.commands a).foldl Esp32IdfInterface.attaches s.controller.running_ =
      (s.controller.atom (s.wired a)).running_ := by
  obtain ⟨as, reached⟩ := hi.reached
  obtain ⟨new, grown⟩ := Controller.atom_suffix (s.wired a) hi.exclusive
  have before := (Controller.relinquished_run options seed as).attached
  have after := (Controller.relinquished_run options seed (as ++ [s.wired a])).attached
  rw [Machine.run_append, ← reached] at after
  rw [← reached] at before
  change Controller.attachment (s.controller.atom (s.wired a)).trace = _ at after
  rw [← grown, Controller.attachment_append] at after
  rw [commands_eq grown.symm]
  refine Eq.trans ?_ after
  exact congrArg (fun attached => (Controller.commands new).foldl _ attached) before.symm

/-- The commands of a call come in turn, and the controller believes them. -/
theorem Wired.obeys (hi : Wired s options seed) {a : Controller.Atom} (other : a.callback = false) :
    let d := s.controller.atom (s.wired a)
    Machine.Along Radio.serve (fun r x => r.Welcomes x.1) (core false s.controller).radio
        (s.commands a) ∧
      (d.closed_ = false → d.faulted_ = false →
        s.controller.closed_ = false ∧ s.controller.faulted_ = false ∧
          (core false d).radio = (s.commands a).foldl Radio.serve
            (core false s.controller).radio) ∧
      (s.controller.closed_ = true ∨ s.controller.faulted_ = true →
        ∀ x ∈ s.commands a, ∀ r : Radio, r.Welcomes x.1) := by
  have unheard : (s.wired a).callback = false := wired_callback.trans other
  obtain ⟨opened, sound, new, trace, commands⟩ := Controller.atom_obeys hi.exclusive unheard
  change (s.controller.atom (s.wired a)).trace = new ++ s.controller.trace at trace
  have none : Controller.handed new = [] := by
    have same := Controller.atom_handed (c := s.controller) unheard
    rw [trace, Controller.handed, List.filterMap_append] at same
    exact List.append_left_eq_self.mp same
  obtain ⟨welcome, radio, ended⟩ := commands none
  rw [commands_eq trace]
  exact ⟨welcome, fun open_ unfaulted => ⟨opened open_, sound unfaulted, radio open_ unfaulted⟩,
    ended⟩

/-- **The commands of a call find the adapter ready.** -/
theorem Wired.inTurn (hi : Wired s options seed) (input : Input) : s.InTurn input := by
  cases input with
  | interface => trivial
  | atom a inputs =>
    rintro ⟨other, idle, within, returns⟩
    obtain ⟨welcome, -, ended⟩ := hi.obeys other
    refine Esp32IdfInterface.run_ready hi.attending idle within ?_
    rw [returns]
    obtain past | ⟨open_, unfaulted⟩ := Controller.Core.ended_or (core false s.controller)
    · refine Machine.Along.mono (fun r _ h => h.2 r) ((Machine.along_of_forall (P := fun _ _ => True)
        (fun _ _ => trivial) _ _).and_forall (ended past))
    · rw [← hi.coherent open_ unfaulted]
      exact welcome

/-- A call keeps both levels coherent. -/
theorem Wired.atom (hi : Wired s options seed) {a : Controller.Atom}
    {inputs : List Esp32IdfInterface.Input} (meets : s.Meets a inputs) :
    Wired {
      controller := s.controller.atom (s.wired a)
      interface := Machine.run Esp32IdfInterface.step s.interface inputs } options seed := by
  obtain ⟨other, idle, within, returns⟩ := meets
  obtain ⟨-, radio, -⟩ := hi.obeys other
  refine ⟨hi.reached_run [s.wired a], ?_, ?_, ?_⟩
  · exact Machine.run_invariant_all (I := fun s : Esp32IdfInterface => s.ordered.Attending)
      (fun _ input hi => Esp32IdfInterface.attending_step hi input) hi.attending inputs
  · exact (s.interface.run_attached inputs).trans (by rw [returns, hi.attached, hi.attaches a])
  · intro open_ unfaulted
    obtain ⟨opened, sound, believed⟩ := radio open_ unfaulted
    refine believed.trans ?_
    rw [hi.coherent opened sound, ← returns]
    exact (Esp32IdfInterface.run_radio inputs within).symm

section Interface

variable {input : Esp32IdfInterface.Input} (uncalled : ∀ c, input.event ≠ .command c)
include uncalled

/-- What a live controller is told is expected and believed. -/
theorem Wired.told (hi : Wired s options seed) (live : s.controller.Live) (env : Nat → Controller.Env) :
    let as := s.callbacks (s.interface.step input) env
    Machine.Along Controller.atom (fun c a => c.Live ∧ c.Expects a) s.controller as ∧
      (Machine.run Controller.atom s.controller as).Live ∧
      (core false (Machine.run Controller.atom s.controller as)).radio =
        (s.interface.step input).ordered.radio := by
  have open_ : s.controller.closed_ = false := (hi.exclusive.notStopped live.1 live.2).1
  have agree := hi.coherent open_ live.2
  have sorted : s.interface.ordered.radio.Sorted := by
    rw [← agree]
    exact Controller.sorted_radio _
  obtain ⟨told, trace, radio, expected⟩ := Esp32IdfInterface.tells_step uncalled sorted
  have callbacks : s.callbacks (s.interface.step input) env =
      (told.filterMap hears).mapIdx fun i callback =>
        callback ({ s with interface := s.interface.step input }.reads (env i)) := by
    simp [Stack.callbacks, trace]
  rw [← agree] at radio expected
  rw [callbacks, radio]
  exact Controller.run_told live expected _

/-- A controller that has not started has an interface that tells nothing. -/
theorem Wired.untold (hi : Wired s options seed) (stopped : s.controller.running_ = false)
    (env : Nat → Controller.Env) :
    s.callbacks (s.interface.step input) env = [] ∧
      (s.interface.step input).ordered.radio = s.interface.ordered.radio := by
  have idle : s.interface.ordered.draining = false := by
    by_contra draining
    have attached := hi.attending.attached (by simpa using draining)
    exact Bool.false_ne_true (stopped.symm.trans (hi.attached.symm.trans attached))
  have same : (s.interface.step input).ordered.trace = s.interface.ordered.trace ∧
      (s.interface.step input).ordered.radio = s.interface.ordered.radio := by
    obtain ⟨event, idf⟩ := input
    cases event with
    | command c => exact absurd rfl (uncalled c)
    | native e => exact ⟨OrderedInterface.trace_posts _ _, OrderedInterface.radio_posts _ _⟩
    | drain =>
      refine ⟨(OrderedInterface.trace_posts _ _).trans ?_,
        (OrderedInterface.radio_posts _ _).trans ?_⟩
      all_goals
        simp only [OrderedInterface.step, Esp32IdfInterface.answered, OrderedInterface.drain]
        repeat' split
        all_goals rfl
    | pump =>
      refine ⟨(OrderedInterface.trace_posts _ _).trans ?_,
        (OrderedInterface.radio_posts _ _).trans ?_⟩
      all_goals simp [OrderedInterface.step, Esp32IdfInterface.answered, OrderedInterface.pump, idle]
  exact ⟨by simp [callbacks, same.1], same.2⟩

/-- A step of the interface keeps both levels coherent. -/
theorem Wired.interface (hi : Wired s options seed) (env : Nat → Controller.Env) :
    Wired {
      controller := Machine.run Controller.atom s.controller
        (s.callbacks (s.interface.step input) env)
      interface := s.interface.step input } options seed := by
  have heard := callbacks_callback (s := s) (s.interface.step input) env
  refine ⟨hi.reached_run _, Esp32IdfInterface.attending_step hi.attending input, ?_, ?_⟩
  · have returned : s.interface.returned input = none := by
      unfold Esp32IdfInterface.returned
      cases event : input.event with
      | command c => exact absurd event (uncalled c)
      | _ => rfl
    change _ = (Machine.run Controller.atom s.controller _).running_
    rw [Controller.run_running heard, Esp32IdfInterface.step_attached, returned]
    exact hi.attached
  · intro open_ unfaulted
    by_cases live : s.controller.Live
    · exact (hi.told uncalled live env).2.2
    · obtain ⟨-, -, closed, faulted⟩ := Controller.run_deaf live heard
      have stopped : s.controller.running_ = false := by
        by_contra running
        exact live ⟨by simpa using running, faulted.symm.trans unfaulted⟩
      obtain ⟨silent, same⟩ := hi.untold uncalled stopped env
      change (core false (Machine.run Controller.atom s.controller _)).radio = _
      rw [silent]
      exact (hi.coherent (closed.symm.trans open_) (faulted.symm.trans unfaulted)).trans same.symm

end Interface

/-- What every expected callback meets, every callback of a live controller meets. -/
theorem Wired.callbacks_along (hi : Wired s options seed) {P : Controller → Controller.Atom → Prop}
    (expected : ∀ c a, c.Live → c.Expects a → P c a) {input : Esp32IdfInterface.Input}
    (uncalled : ∀ c, input.event ≠ .command c) (env : Nat → Controller.Env) :
    Machine.Along Controller.atom (fun c a => c.Live → P c a) s.controller
      (s.callbacks (s.interface.step input) env) := by
  by_cases live : s.controller.Live
  · exact (hi.told uncalled live env).1.mono fun c a h (_ : c.Live) => expected c a h.1 h.2
  · have heard := callbacks_callback (s := s) (s.interface.step input) env
    have called : Machine.Along Controller.atom (fun _ a => a.callback = true) s.controller
        (s.callbacks (s.interface.step input) env) :=
      ((Machine.along_of_forall (P := fun _ _ => True) (fun _ _ => trivial) _ _).and_forall
        heard).mono fun _ _ h => h.2
    have dead := Machine.along_strengthen (I := fun c : Controller => ¬ c.Live) ?_ live called
    · exact dead.mono fun _ _ h live => absurd live h.2
    · intro c a heard dead
      obtain ⟨running, -, faulted⟩ := Controller.atom_deaf dead heard
      rwa [Controller.Live, running, faulted]

/-- **Whatever a live controller is told is for it.** -/
theorem Wired.heeded (hi : Wired s options seed) (input : Input) : s.Heeded input := by
  cases input with
  | atom => trivial
  | interface input env =>
    exact fun uncalled => hi.callbacks_along (fun _ _ => Controller.heeds_of_expects) uncalled env

theorem wired_step (hi : Wired s options seed) (input : Input) :
    Wired (s.step input) options seed := by
  cases input with
  | atom a inputs =>
    by_cases meets : s.Meets a inputs
    · simp only [step, if_pos meets]
      exact hi.atom meets
    · simp only [step, if_neg meets]
      exact hi
  | interface input env =>
    obtain ⟨event, idf⟩ := input
    cases event with
    | command c => exact hi
    | drain | pump | native =>
      refine hi.interface ?_ env
      simp

theorem wired_run (wpa3 : Bool) (selection : Esp32Station.SelectionOptions) (options : Options)
    (seed : UInt32) (inputs : List Input) :
    Machine.Along step (fun s _ => Wired s options seed) (init wpa3 selection options seed)
        inputs ∧
      Wired (Machine.run step (init wpa3 selection options seed) inputs) options seed := by
  refine ⟨?_, Machine.run_invariant_all (I := fun s => Wired s options seed)
    (fun _ input hi => wired_step hi input) (wired_init wpa3 selection) inputs⟩
  exact (Machine.along_strengthen (P := fun _ _ => True) (I := fun s => Wired s options seed)
    (fun _ input _ hi => wired_step hi input) (wired_init wpa3 selection)
    (Machine.along_of_forall (fun _ _ => trivial) _ _)).mono fun _ _ h => h.2

end Stack

/-- **The two levels agree.** In every reachable state of the stack, whatever
calls, tasks, native events and answers of ESP-IDF led to it, the controller
believes of the radio what its interface keeps of it. -/
theorem levels_coherent (wpa3 : Bool) (selection : Esp32Station.SelectionOptions)
    (options : Controller.Options) (seed : UInt32) (inputs : List Stack.Input) :
    (Machine.run Stack.step (Stack.init wpa3 selection options seed) inputs).Coherent :=
  (Stack.wired_run wpa3 selection options seed inputs).2.coherent

/-- **Nothing is told in vain.** In every run every completion that a live
controller is told is of the operation it has outstanding, and every link
report is of its link. -/
theorem callbacks_heeded (wpa3 : Bool) (selection : Esp32Station.SelectionOptions)
    (options : Controller.Options) (seed : UInt32) (inputs : List Stack.Input) :
    Machine.Along Stack.step Stack.Heeded (Stack.init wpa3 selection options seed) inputs :=
  (Stack.wired_run wpa3 selection options seed inputs).1.mono fun _ input hi => hi.heeded input

/-- **Commands come in turn.** In every run every command of the controller
finds an adapter that has not faulted in the state it is meant for. -/
theorem commands_inTurn (wpa3 : Bool) (selection : Esp32Station.SelectionOptions)
    (options : Controller.Options) (seed : UInt32) (inputs : List Stack.Input) :
    Machine.Along Stack.step Stack.InTurn (Stack.init wpa3 selection options seed) inputs :=
  (Stack.wired_run wpa3 selection options seed inputs).1.mono fun _ input hi => hi.inTurn input

end RooWifi
