import RooWifi.Controller.Effects
import RooWifi.Esp32.Interface

/-! # Credentials through the stack

A stack is a controller over its `Esp32IdfInterface`. What the controller
commands in a call or a task is served by the interface, and what the
interface tells its sink in an iteration of the drain is heard by the
controller. Native events come at any time. -/
namespace RooWifi

namespace Controller

/-! ## What the controller keeps -/

/-- The command an entry of the trace records, with its answer. -/
def Action.command : Action → Option (Esp32IdfInterface.Command × Status)
  | .begin status => some (.begin, status)
  | .shutdown => some (.shutdown, .kOk)
  | .setEnabled id enabled status => some (.setEnabled id enabled, status)
  | .connect id config credentials status => some (.connect id config credentials, status)
  | .disconnect id status => some (.disconnect id, status)
  | .startScan id maxResults status => some (.startScan id maxResults, status)
  | .cancelConnect status => some (.cancelConnect, status)
  | .cancelScan status => some (.cancelScan, status)
  | _ => none

/-- The commands of a trace, oldest first. -/
def commands (t : List Action) : List (Esp32IdfInterface.Command × Status) :=
  (t.filterMap Action.command).reverse

/-- Whether the commands leave the interface attached. -/
def attachment (t : List Action) : Bool := (commands t).foldl Esp32IdfInterface.attaches false

theorem commands_append (new t : List Action) :
    commands (new ++ t) = commands t ++ commands new := by
  simp [commands]

theorem attachment_append (new t : List Action) :
    attachment (new ++ t) = (commands new).foldl Esp32IdfInterface.attaches (attachment t) := by
  rw [attachment, commands_append, List.foldl_append]
  rfl

/-- What one entry says of it. -/
def Action.attaches (attached : Bool) : Action → Bool
  | .begin status => attached || decide (status = .kOk)
  | .shutdown => false
  | _ => attached

@[simp] theorem attachment_cons (act : Action) (t : List Action) :
    attachment (act :: t) = act.attaches (attachment t) := by
  rw [← List.singleton_append, attachment_append]
  cases act <;> rfl

/-- The interface is attached while the controller runs, and credentials are
kept for connection intent only. -/
structure Relinquished (c : Core) : Prop where
  attached : attachment c.trace = c.running
  stopped : c.running = false → c.desired ≠ .kConnected
  closed : c.closed = true → c.running = false
  discarded : c.desired ≠ .kConnected → c.credentials = {}

theorem Relinquished.note {c : Core} (hi : Relinquished c) {act : Action}
    (still : act.attaches c.running = c.running) : Relinquished (c.note act) :=
  { hi with attached := by rw [Core.note, attachment_cons, hi.attached, still] }

/-- A move that keeps the intent and drops the credentials at most. -/
theorem Relinquished.onward {a b : Core} (hi : Relinquished a)
    (trace : attachment b.trace = a.running) (running : b.running = a.running)
    (closed : b.closed = a.closed) (desired : b.desired = a.desired)
    (credentials : b.credentials = a.credentials ∨ b.credentials = {}) : Relinquished b where
  attached := trace.trans running.symm
  stopped := by
    rw [running, desired]
    exact hi.stopped
  closed := by
    rw [running, closed]
    exact hi.closed
  discarded := by
    rw [desired]
    intro offline
    obtain same | dropped := credentials
    · exact same.trans (hi.discarded offline)
    · exact dropped

theorem Move.relinquished {A : Assumptions} {a b : Core} (h : Move A a b) (hi : Relinquished a) :
    Relinquished b := by
  cases h with
  | noted act silent =>
    cases act with
    | begin status =>
      have refused : status ≠ .kOk := silent
      exact hi.note (by simp [Action.attaches, refused])
    | shutdown => cases silent
    | _ => exact hi.note rfl
  | begun enabled fresh opened =>
    exact {
      attached := by simp [Core.newIntent, Action.attaches]
      stopped := fun h => by cases h
      closed := fun h => absurd (opened.symm.trans h) Bool.false_ne_true
      discarded := fun _ => hi.discarded (hi.stopped fresh) }
  | shutdown opened =>
    exact {
      attached := by
        cases running : a.running <;>
          simp [Core.shutdown, running, hi.attached, Action.attaches]
      stopped := fun _ => by simp [Core.shutdown]
      closed := fun _ => rfl
      discarded := fun _ => rfl }
  | setEnabled enabled h | withdrawn h =>
    exact {
      attached := by simp [Core.newIntent, Core.note, Action.attaches, hi.attached]
      stopped := fun stopped => absurd (h.running.symm.trans stopped) (by simp)
      closed := hi.closed
      discarded := fun _ => rfl }
  | accepted call config credentials profile automatic h
  | restored config credentials profile automatic h =>
    exact {
      attached := by simp [Core.accept, Core.newIntent, Core.note, Action.attaches, hi.attached]
      stopped := fun stopped => absurd (h.running.symm.trans stopped) (by simp)
      closed := hi.closed
      discarded := fun offline => absurd rfl offline }
  | faulted | stuck =>
    refine hi.onward ?_ rfl rfl rfl (.inr rfl)
    simp [Core.fault, Core.note, Action.attaches, hi.attached]
  | issued t | refused t =>
    refine hi.onward ?_ rfl rfl rfl (.inl rfl)
    cases t <;> simp [Core.issued, Core.retired, Core.command, Action.attaches, hi.attached]
  | enableFinished =>
    split
    all_goals
      refine hi.onward ?_ rfl rfl rfl (.inl rfl)
      simp [Core.retired, Core.concluded, Core.note, Action.attaches, hi.attached]
  | connectFailed r status retry level saved h allowed current connecting failure persisted =>
    refine hi.onward ?_ rfl rfl rfl (.inl rfl)
    obtain rfl | ⟨profile, rfl⟩ := persisted <;>
      simp [Core.failed, Core.retired, Core.note, Action.attaches, hi.attached]
  | _ =>
    refine hi.onward ?_ rfl rfl rfl (.inl rfl)
    simp [Core.failed, Core.retired, Core.concluded, Core.note, Core.issued, Core.command,
      Core.scanRetired, Core.cancelRetry, Core.heard, Core.address, Core.recovered,
      Action.attaches, hi.attached]

theorem relinquished_run (options : Options) (seed : UInt32) (as : List Atom) :
    Relinquished (core false (Machine.run atom (init options seed) as)) := by
  refine (atoms_invariant (J := Relinquished) (fun _ _ hm _ hi => hm.relinquished hi) options seed
    ?_ as).2
  exact {
    attached := rfl
    stopped := fun _ => by simp [core, init]
    closed := fun closed => by cases closed
    discarded := fun _ => rfl }

/-! ## The callbacks of the interface -/

def Atom.callback : Atom → Bool
  | .operationFinished .. | .linkChanged .. | .enabledChanged _ => true
  | _ => false

/-- Only a public call starts or stops the controller. -/
theorem Effect.running {a : Atom} {c d : Controller} (h : Effect a c d)
    (heard : a.callback = true) : d.running_ = c.running_ := by
  cases h with
  | noted | scheduled | relaxed | repeated => rfl
  | requested => rw [newIntent_eq]; rfl
  | scanDropped | scanCancelled | cancelled | enabledReported => rw [changed_eq]
  | faulted => rw [fault_eq]
  | scanFinished r env source h =>
    exact ((Later.scanFinished c env r).running h.running).trans h.running.symm
  | stationFinished r env source h =>
    exact ((Later.stationFinished c env r).running h.running).trans h.running.symm
  | linkReported h => exact ((Later.hear c _ _).running h.running).trans h.running.symm
  | _ => cases heard

theorem run_running {as : List Atom} (heard : ∀ a ∈ as, a.callback = true) (c : Controller) :
    (Machine.run atom c as).running_ = c.running_ :=
  Machine.run_invariant_inputs (I := fun d => d.running_ = c.running_)
    (fun d a callback same => Machine.path_invariant (M := Effect a)
      (J := fun d => d.running_ = c.running_) (fun _ _ h same => (h.running callback).trans same)
      (atom_effects d a) same) rfl heard

end Controller

/-! ## The stack -/

/-- `readScanResults`, into a buffer of this size. -/
def Esp32IdfInterface.readScanResults (s : Esp32IdfInterface) (capacity : Nat) :
    Controller.ScanReading :=
  let (records, truncated) := s.station.readScan capacity
  { records, count := records.length, truncated }

/-- Whether the controller's context may take the step in a call or a task: the
dispatch task is another one. -/
def Esp32IdfInterface.Event.within : Event → Bool
  | .command _ | .native _ => true
  | _ => false

structure Stack where
  controller : Controller
  interface : Esp32IdfInterface

namespace Stack

open Controller (Env Atom Action Options)

def init (wpa3 : Bool) (selection : Esp32Station.SelectionOptions) (options : Options)
    (seed : UInt32) : Stack where
  controller := Controller.init options seed
  interface := { wpa3, station := { selectionOptions_ := selection } }

inductive Input where
  /-- A call, a task or a notification of the controller, with the commands it
  makes and the native events that come meanwhile. -/
  | atom (a : Atom) (inputs : List Esp32IdfInterface.Input)
  /-- A native event, or the dispatch task; `env` is what each callback meets. -/
  | interface (input : Esp32IdfInterface.Input) (env : Nat → Env)

variable (s : Stack)

/-- What is read of this interface is what it keeps. -/
def reads (env : Env) : Env :=
  { env with
    support := s.interface.support
    readScanResults := s.interface.readScanResults s.controller.records_.length }

/-- A call, task or notification that meets this interface. -/
def wired : Atom → Atom
  | .call call env => .call call (s.reads env)
  | .work env => .work (s.reads env)
  | .timer env => .timer (s.reads env)
  | .reconnect env => .reconnect (s.reads env)
  | .operationFinished result env => .operationFinished result (s.reads env)
  | .linkChanged link env => .linkChanged link (s.reads env)
  | .enabledChanged enabled => .enabledChanged enabled
  | .take => .take
  | .deliver listener change => .deliver listener change

/-- The commands of a call, oldest first. -/
def commands (a : Atom) : List (Esp32IdfInterface.Command × Status) :=
  let t := (s.controller.atom (s.wired a)).trace
  Controller.commands (t.take (t.length - s.controller.trace.length))

/-- The inputs are what the interface meets in this call: what it is commanded,
and answers, is what the controller commands, and is answered. -/
def Meets (a : Atom) (inputs : List Esp32IdfInterface.Input) : Prop :=
  a.callback = false ∧ s.interface.ordered.draining = false ∧
    (∀ input ∈ inputs, input.event.within = true) ∧ s.interface.returns inputs = s.commands a

instance (a : Atom) (inputs : List Esp32IdfInterface.Input) : Decidable (s.Meets a inputs) :=
  inferInstanceAs (Decidable (_ ∧ _ ∧ _ ∧ _))

/-- The callback that tells the controller. -/
def hears : OrderedInterface.Happening → Option (Env → Atom)
  | .finished result => some (.operationFinished result)
  | .linkChanged link => some (.linkChanged link)
  | .enabledChanged enabled => some fun _ => .enabledChanged enabled
  | _ => none

/-- The callbacks of a step of the interface, oldest first. -/
def callbacks (interface : Esp32IdfInterface) (env : Nat → Env) : List Atom :=
  let t := interface.ordered.trace
  let new := t.take (t.length - s.interface.ordered.trace.length)
  (new.reverse.filterMap hears).mapIdx fun i callback =>
    callback ({ s with interface }.reads (env i))

def step : Input → Stack
  | .atom a inputs =>
    if s.Meets a inputs then
      { controller := s.controller.atom (s.wired a)
        interface := Machine.run Esp32IdfInterface.step s.interface inputs }
    else s
  | .interface input env =>
    match input.event with
    | .command _ => s
    | _ =>
      let interface := s.interface.step input
      { controller := Machine.run Controller.atom s.controller (s.callbacks interface env)
        interface }

/-- The step strands no secret in the station. -/
def Careful : Input → Prop
  | .atom _ inputs =>
    Machine.Along Esp32IdfInterface.step (fun s input => ¬ s.Strands input) s.interface inputs
  | .interface input _ => ¬ s.interface.Strands input

instance : DecidablePred s.Careful := fun input =>
  match input with
  | .atom _ _ => inferInstanceAs (Decidable (Machine.Along _ _ _ _))
  | .interface _ _ => inferInstanceAs (Decidable (¬ _))

/-- No native operation is outstanding and no selection scan is active. -/
def Quiet : Prop :=
  s.interface.ordered.station_.id = 0 ∧ s.interface.ordered.scan_.id = 0 ∧
    s.interface.station.selecting_ = false

/-- No copy of the credentials is left. -/
def Empty : Prop :=
  s.controller.credentials_ = {} ∧ s.interface.ordered.credentials_ = {} ∧
    s.interface.station.secret_ = {}

/-- Credentials do not outlive their intent, nor the shutdown. -/
def Discarded : Prop :=
  (s.controller.state_.desired ≠ .kConnected → s.Quiet → s.Empty) ∧
    (s.controller.closed_ = true → s.Empty)

instance : Decidable s.Quiet := inferInstanceAs (Decidable (_ ∧ _ ∧ _))
instance : Decidable s.Empty := inferInstanceAs (Decidable (_ ∧ _ ∧ _))
instance : Decidable s.Discarded := inferInstanceAs (Decidable (_ ∧ _))

/-! ## Runs -/

/-- The station is attached while the controller runs, and keeps a secret only
for what it waits for. -/
structure Sound (options : Options) (seed : UInt32) : Prop where
  reached : ∃ as, s.controller = Machine.run Controller.atom (Controller.init options seed) as
  custody : s.interface.Custody
  attached : s.interface.ordered.attached_ = s.controller.running_

variable {s} {options : Options} {seed : UInt32}

theorem sound_init (wpa3 : Bool) (selection : Esp32Station.SelectionOptions) :
    Sound (init wpa3 selection options seed) options seed where
  reached := ⟨[], rfl⟩
  custody := {
    tidy := ⟨rfl, fun _ => rfl, fun _ => rfl⟩
    receiver := rfl
    stopped := fun _ => rfl
    held := fun kept => absurd rfl kept }
  attached := rfl

theorem Sound.relinquished (hi : Sound s options seed) :
    Controller.Relinquished (Controller.core false s.controller) := by
  obtain ⟨as, reached⟩ := hi.reached
  rw [reached]
  exact Controller.relinquished_run options seed as

theorem callbacks_callback (interface : Esp32IdfInterface) (env : Nat → Env) :
    ∀ a ∈ s.callbacks interface env, a.callback = true := by
  intro a called
  obtain ⟨i, inside, rfl⟩ := List.mem_mapIdx.mp called
  have told := List.getElem_mem inside
  obtain ⟨happening, -, heard⟩ := List.mem_filterMap.mp told
  cases happening with
  | finished | linkChanged | enabledChanged =>
    rw [← Option.some.inj heard]
    rfl
  | _ => cases heard

/-- The commands of a call tell whether it leaves the station attached. -/
theorem Sound.atom (hi : Sound s options seed) {a : Atom} {inputs : List Esp32IdfInterface.Input}
    (meets : s.Meets a inputs) (careful : s.Careful (.atom a inputs)) :
    Sound {
      controller := s.controller.atom (s.wired a)
      interface := Machine.run Esp32IdfInterface.step s.interface inputs } options seed := by
  obtain ⟨as, reached⟩ := hi.reached
  have reached' : s.controller.atom (s.wired a) =
      Machine.run Controller.atom (Controller.init options seed) (as ++ [s.wired a]) := by
    rw [Machine.run_append, ← reached]
    rfl
  have exclusive : Controller.Exclusive (Controller.core false s.controller) := by
    rw [reached]
    exact Controller.atoms_exclusive options seed as
  obtain ⟨new, grown⟩ := Controller.atom_suffix (s.wired a) exclusive
  have issued : s.commands a = Controller.commands new := by
    simp [commands, ← grown]
  refine ⟨⟨_, reached'⟩, Machine.run_invariant (fun _ _ => fun careful hi => ?_) hi.custody careful,
    ?_⟩
  · exact Esp32IdfInterface.custody_step hi careful
  · have before : s.controller.running_ = Controller.attachment s.controller.trace :=
      hi.relinquished.attached.symm
    have after := (Controller.relinquished_run options seed (as ++ [s.wired a])).attached
    rw [← reached'] at after
    change Controller.attachment (s.controller.atom (s.wired a)).trace = _ at after
    rw [← grown, Controller.attachment_append] at after
    change _ = (s.controller.atom (s.wired a)).running_
    rw [Esp32IdfInterface.run_attached, meets.2.2.2, issued, hi.attached, before]
    exact after

/-- No callback starts or stops anything. -/
theorem Sound.interface (hi : Sound s options seed) {input : Esp32IdfInterface.Input}
    {env : Nat → Env} (uncalled : ∀ c, input.event ≠ .command c)
    (careful : s.Careful (.interface input env)) :
    Sound {
      controller := Machine.run Controller.atom s.controller
        (s.callbacks (s.interface.step input) env)
      interface := s.interface.step input } options seed := by
  obtain ⟨as, reached⟩ := hi.reached
  refine ⟨⟨as ++ s.callbacks (s.interface.step input) env, ?_⟩,
    Esp32IdfInterface.custody_step hi.custody careful, ?_⟩
  · rw [Machine.run_append, ← reached]
  · have returned : s.interface.returned input = none := by
      unfold Esp32IdfInterface.returned
      cases event : input.event with
      | command c => exact absurd event (uncalled c)
      | _ => rfl
    change _ = (Machine.run Controller.atom s.controller _).running_
    rw [Controller.run_running (callbacks_callback _ env), Esp32IdfInterface.step_attached, returned]
    exact hi.attached

theorem sound_step (hi : Sound s options seed) {input : Input} (careful : s.Careful input) :
    Sound (s.step input) options seed := by
  cases input with
  | atom a inputs =>
    by_cases meets : s.Meets a inputs
    · simp only [step, if_pos meets]
      exact hi.atom meets careful
    · simp only [step, if_neg meets]
      exact hi
  | interface input env =>
    obtain ⟨event, idf⟩ := input
    cases event with
    | command c => exact hi
    | drain | pump | native => exact hi.interface (by simp) careful

/-- Where the station waits for nothing, it keeps nothing. -/
theorem Sound.discarded (hi : Sound s options seed) : s.Discarded := by
  have relinquished := hi.relinquished
  refine ⟨?_, ?_⟩
  · intro offline ⟨finished, _, unselecting⟩
    refine ⟨relinquished.discarded offline, hi.custody.tidy.idle finished, ?_⟩
    by_contra kept
    obtain selecting | ⟨-, pending⟩ := hi.custody.held kept
    · exact absurd (unselecting.symm.trans selecting) Bool.false_ne_true
    · exact pending.1 finished
  · intro closed
    have stopped : s.controller.running_ = false := relinquished.closed closed
    have detached : s.interface.ordered.attached_ = false := hi.attached.trans stopped
    exact ⟨relinquished.discarded (relinquished.stopped stopped),
      hi.custody.tidy.idle (hi.custody.tidy.stopped detached), hi.custody.stopped detached⟩

/-! ## Two runs -/

/-- A call or a task that makes these commands. -/
def makes (a : Env → Atom) (commands : List Esp32IdfInterface.Command := []) : Input :=
  .atom (a .willing) (commands.map fun c => { event := .command c })

/-- A native event, or the dispatch task. -/
def alone (event : Esp32IdfInterface.Event) (idf : Idf := {}) : Input :=
  .interface { event, idf } fun _ => .willing

def TestNetwork : ConnectionConfig :=
  { ssid := { bytes := .load 32 [65], size := 1 }, security := .kWpa2Personal }

def TestPassphrase : Credentials := { bytes := .load 64 (List.replicate 8 97), size := 8 }

/-- The radio is on, and the station has found an access point to connect to. -/
def Prepared : List Input :=
  [makes (.call .begin) [.begin], makes .work [.setEnabled 1 true],
    alone (.native .WIFI_EVENT_STA_START), alone .drain, alone .pump, alone .pump, makes .work,
    makes .work, makes (.call (.connect TestNetwork TestPassphrase)),
    makes .work [.connect 2 TestNetwork TestPassphrase], alone .drain, alone .pump,
    alone (.native (.WIFI_EVENT_SCAN_DONE 0))
      { aps := [{ ssid := .load _ [65], authmode := .WIFI_AUTH_WPA2_PSK }], scanGetApNum := 1 },
    alone .drain]

/-- The station connects to it, and the attempt is cancelled. -/
def Cancelled : List Input :=
  Prepared ++ [alone .pump, alone .pump, makes (.call .disconnect), makes .work [.cancelConnect],
    alone (.native (.WIFI_EVENT_STA_DISCONNECTED { ssid := .load _ [65], ssidLen := 1 })),
    alone .drain, alone .pump, alone .pump, makes .work]

/-- ESP-IDF rejects the MAC address of the attempt, and the caller gives up. -/
def Abandoned : List Input :=
  Prepared ++ [alone .pump { setMac := false }, alone .pump, makes .work,
    makes (.call .disconnect), makes .work]

end Stack

/-- **Credentials do not outlive their intent.** In every run whose steps strand
no secret, and for any order of calls, tasks and native events and any answers
of ESP-IDF: once a connection is no longer wanted, nothing is outstanding and
no access point is being selected, none of the three copies is left; nor is
one left after shutdown. -/
theorem credentials_discarded (wpa3 : Bool) (selection : Esp32Station.SelectionOptions)
    (options : Controller.Options) (seed : UInt32) (inputs : List Stack.Input)
    (careful : Machine.Along Stack.step Stack.Careful (Stack.init wpa3 selection options seed)
      inputs) :
    (Machine.run Stack.step (Stack.init wpa3 selection options seed) inputs).Discarded :=
  (Machine.run_invariant (I := fun s => Stack.Sound s options seed)
    (fun _ _ careful hi => Stack.sound_step hi careful) (Stack.sound_init wpa3 selection)
    careful).discarded

theorem credentials_discarded_cancelled :
    (Machine.run Stack.step (Stack.init true {} {} 1) Stack.Cancelled).Quiet ∧
      (Machine.run Stack.step (Stack.init true {} {} 1) Stack.Cancelled).Empty := by
  have careful : Machine.Along Stack.step Stack.Careful (Stack.init true {} {} 1)
      Stack.Cancelled := by decide +kernel
  have quiet : (Machine.run Stack.step (Stack.init true {} {} 1) Stack.Cancelled).Quiet := by
    decide +kernel
  have discarded := credentials_discarded true {} {} 1 Stack.Cancelled careful
  exact ⟨quiet, discarded.1 (by decide +kernel) quiet⟩

/-- **The station keeps the passphrase** when the attempt fails before it is
configured: nothing is left that would drop it. -/
theorem secret_outlives_intent : ¬ ∀ (wpa3 : Bool) (selection : Esp32Station.SelectionOptions)
    (options : Controller.Options) (seed : UInt32) (inputs : List Stack.Input),
    (Machine.run Stack.step (Stack.init wpa3 selection options seed) inputs).Discarded := by
  intro h
  have discarded := h true {} {} 1 Stack.Abandoned
  revert discarded
  decide +kernel

end RooWifi
