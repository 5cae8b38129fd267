import RooWifi.Controller.Exclusion

/-! # Runs call by call

A run of scheduler steps may hide public calls inside a notification. Here a
step is cut into its calls, so that a claim about every call also covers those
a listener makes from inside its callback. -/
namespace RooWifi.Controller

/-- One public call, task or callback of the interface; a notification is cut
into taking the pending changes and its callbacks. -/
inductive Atom where
  | call (call : Call) (env : Env)
  | work (env : Env)
  | timer (env : Env)
  | reconnect (env : Env)
  | operationFinished (result : OperationResult) (env : Env)
  | linkChanged (link : LinkState) (env : Env)
  | enabledChanged (enabled : Bool)
  | take
  | deliver (listener : Nat) (change : Change)

def atom (c : Controller) : Atom → Controller
  | .call call env => c.request env call
  | .work env => if c.work_ then { c with work_ := false }.execute env else c
  | .timer env => if c.timer_ ≠ ⊤ then { c with timer_ := ⊤ }.checkTimeouts env else c
  | .reconnect env => if c.reconnect_ ≠ ⊤ then { c with reconnect_ := ⊤ }.retry env else c
  | .operationFinished result env => (c.record (.delivered result)).onOperationFinished env result
  | .linkChanged link env => c.onLinkChanged env link
  | .enabledChanged enabled => c.onEnabledChanged enabled
  | .take => if c.notify_ then { c with notify_ := false, pendingChanges_ := {} } else c
  | .deliver listener change => c.record (.notified listener change)

/-! ## The calls of a step -/

/-- The order in which `notifyListeners` visits listeners and categories. -/
def visits (listeners : List Nat) : List (Nat × Change) :=
  listeners.flatMap fun listener => [Change.kStation, .kScan, .kProfiles].map (listener, ·)

/-- One callback with the calls its listener makes. -/
def visit (react : Reaction) (listener : Nat) (change : Change) : List Atom :=
  .deliver listener change :: (react listener change).map fun r => .call r.1 r.2

/-- The callbacks of a notification: none follows a shutdown. -/
def callbacks (react : Reaction) (changes : Changes) : Controller → List (Nat × Change) → List Atom
  | _, [] => []
  | c, (listener, change) :: rest =>
    if c.running_ ∧ changes.has change then
      visit react listener change ++
        callbacks react changes (Machine.run atom c (visit react listener change)) rest
    else callbacks react changes c rest

def expand (c : Controller) (i : Input) : List Atom :=
  match i.event with
  | .call call => [.call call i.env]
  | .work => [.work i.env]
  | .timer => [.timer i.env]
  | .reconnect => [.reconnect i.env]
  | .notify react =>
    if c.notify_ then
      .take :: callbacks react c.pendingChanges_ { c with notify_ := false, pendingChanges_ := {} }
        (visits c.listeners_)
    else []
  | .operationFinished result => [.operationFinished result i.env]
  | .linkChanged link => [.linkChanged link i.env]
  | .enabledChanged enabled => [.enabledChanged enabled]

theorem run_visit (react : Reaction) (listener : Nat) (change : Change) (c : Controller) :
    Machine.run atom c (visit react listener change) = c.notifyOne react listener change := by
  unfold visit Machine.run notifyOne
  rw [List.foldl_cons, List.foldl_map]
  rfl

theorem run_callbacks (react : Reaction) (changes : Changes) (c : Controller)
    (vs : List (Nat × Change)) :
    Machine.run atom c (callbacks react changes c vs) = vs.foldl (fun c v =>
      if c.running_ ∧ changes.has v.2 then c.notifyOne react v.1 v.2 else c) c := by
  induction vs generalizing c with
  | nil => rfl
  | cons v vs ih =>
    obtain ⟨listener, change⟩ := v
    simp only [callbacks, List.foldl_cons]
    split
    · rw [Machine.run_append, ih, run_visit]
    · exact ih c

/-- **A step is the run of its calls.** -/
theorem step_eq_run (c : Controller) (i : Input) : step c i = Machine.run atom c (expand c i) := by
  unfold step expand
  cases i.event with
  | notify react =>
    dsimp only
    split
    · rename_i h
      simp only [Machine.run_cons, atom, h, if_true]
      rw [run_callbacks, visits, List.foldl_flatMap]
      simp only [List.foldl_map, notifyListeners]
    · rfl
  | _ => rfl

/-! ## Refinement -/

theorem atom_path {c : Controller} (a : Atom) (hid : c.nextId_ ≠ 0) :
    Path .none (core false c) (core false (atom c a)) := by
  have hp (i : Input) : Path .none (core false c) (core false (step c i)) :=
    step_path hid (permits_none c i)
  cases a with
  | call call env => exact hp { event := .call call, env }
  | work env => exact hp { event := .work, env }
  | timer env => exact hp { event := .timer, env }
  | reconnect env => exact hp { event := .reconnect, env }
  | operationFinished result env => exact hp { event := .operationFinished result, env }
  | linkChanged link env => exact hp { event := .linkChanged link, env }
  | enabledChanged enabled => exact hp { event := .enabledChanged enabled }
  | take =>
    simp only [atom]
    split <;> exact .refl
  | deliver listener change => exact .single (.noted (.notified listener change) trivial)

/-- What a move preserves under exclusion holds after every list of calls. -/
theorem atoms_invariant {J : Core → Prop}
    (hM : ∀ a b, Move .none a b → Exclusive a → J a → J b) (options : Options) (seed : UInt32)
    (hs : J (core false (init options seed))) (as : List Atom) :
    Exclusive (core false (Machine.run atom (init options seed) as)) ∧
      J (core false (Machine.run atom (init options seed) as)) :=
  Machine.run_invariant_of_path (P := fun _ _ => True) (f := core false) (M := Move .none)
    (J := fun c => Exclusive c ∧ J c)
    (fun _ a _ hi => atom_path a hi.1.nextId_ne)
    (fun a b hm hi => ⟨hm.exclusive hi.1, hM a b hm hi.1 hi.2⟩)
    ⟨exclusive_init options seed, hs⟩ (Machine.along_of_forall (fun _ _ => trivial) _ as)

/-! ## Concrete runs -/

/-- The willing environment at a later time. -/
def later (now : Nat) : Env := { Env.willing with now := fun _ => now }

/-- Started and enabled, with nothing to restore. -/
def started : List Atom :=
  [.call .begin .willing, .work .willing, .enabledChanged true,
    .operationFinished { id := 1, kind := .kEnable } .willing, .work .willing, .work .willing]

/-- Connecting to a saved network, with operation 2. -/
def connecting : List Atom :=
  started ++ [.call (.connectSaved (openNetwork 65).ssid) .willing, .work .willing]

/-- Connected to it, with automatic connection. -/
def connected : List Atom :=
  connecting ++ [.linkChanged { connectionId := 2, phase := .kAddressReady } .willing,
    .operationFinished { id := 2, kind := .kConnect } .willing]

end RooWifi.Controller
