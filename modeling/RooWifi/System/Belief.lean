import RooWifi.System.Radio

/-! # What the controller believes of the radio

The controller changes what it keeps of the radio by the commands it makes, as
they are answered, and by what its callbacks tell it. -/
namespace RooWifi.Controller

/-! ## Completions

Only the callback hands a completion back: nothing else records one. -/

/-- The completion an entry of the trace records. -/
def Action.handed : Action → Option OperationResult
  | .delivered r => some r
  | _ => none

/-- The completions handed back, newest first. -/
def handed (t : List Action) : List OperationResult := t.filterMap Action.handed

variable {c : Controller} (env : Env)

@[simp] theorem handed_cons (act : Action) (t : List Action) :
    handed (act :: t) = act.handed.toList ++ handed t := by
  unfold handed
  cases h : act.handed <;> simp [h]

@[simp] theorem trace_record (act : Action) : (c.record act).trace = act :: c.trace := rfl
@[simp] theorem trace_cancelRetry : c.cancelRetry.trace = c.trace := rfl
@[simp] theorem trace_scheduleTimeouts : c.scheduleTimeouts.trace = c.trace := rfl

@[simp] theorem trace_changed (change : Change) : (c.changed change).trace = c.trace := by
  rw [changed_eq]

@[simp] theorem trace_connectionFailed (now : Nat) (status : Status) (failure : ConnectionFailure)
    (code : Int) (hasCode : Bool) :
    (c.connectionFailed now status failure code hasCode).trace = c.trace := by
  obtain ⟨_, _, _, _, same, -⟩ := connectionFailed_cases now status failure code hasCode c
  rw [same]

@[simp] theorem handed_newIntent : handed c.newIntent.trace = handed c.trace := by
  simp [newIntent_eq, Action.handed]

@[simp] theorem handed_fault (status : Status) : handed (c.fault status).trace = handed c.trace := by
  simp [fault_eq, Action.handed]

@[simp] theorem handed_shutdown : handed c.shutdown.trace = handed c.trace := by
  unfold shutdown
  repeat' split
  all_goals simp [Action.handed]

@[simp] theorem handed_retry : handed (c.retry env).trace = handed c.trace := by
  unfold retry
  dsimp only
  repeat' split
  all_goals simp [Action.handed]

@[simp] theorem handed_requestConnection (config : ConnectionConfig) (credentials : Credentials)
    (profile : Ssid) (automatic : Bool) :
    handed (c.requestConnection env config credentials profile automatic).2.trace =
      handed c.trace := by
  unfold requestConnection
  dsimp only
  repeat' split
  all_goals simp [Action.handed]

@[simp] theorem handed_connectSaved (nth : Nat) (ssid : Ssid) :
    handed (c.connectSaved env nth ssid).2.trace = handed c.trace := by
  unfold connectSaved
  repeat' split
  all_goals simp

@[simp] theorem handed_cancelScan (now : Nat) :
    handed (c.cancelScan env now).2.trace = handed c.trace := by
  unfold cancelScan
  dsimp only
  repeat' split
  all_goals simp [Action.handed]

@[simp] theorem handed_request (call : Call) : handed (c.request env call).trace = handed c.trace := by
  unfold request
  cases call with
  | connectSaved ssid => simp [perform, Action.handed]
  | cancelScan => simp [perform, Action.handed]
  | connect config credentials => simp [perform, Controller.connect, Action.handed]
  | shutdown => simp [perform, Action.handed]
  | _ =>
    simp only [perform, begin, setEnabled, disconnect, startScan, saveProfile, removeProfile,
      addListener, removeListener]
    repeat' split
    all_goals simp [Action.handed]

@[simp] theorem trace_scanFinished (r : OperationResult) :
    (c.scanFinished env r).trace = c.trace := by
  unfold scanFinished
  dsimp only
  repeat' split
  all_goals simp

theorem handed_stored (r : OperationResult) (t : List Action) :
    handed (c.stored env r ++ t) = handed t := by
  unfold stored
  split
  · rfl
  split <;> rfl

@[simp] theorem handed_stationFinished (r : OperationResult) :
    handed (c.stationFinished env r).trace = handed c.trace := by
  obtain ⟨_, _, _, _, _, x, hx, h⟩ := stationFinished_cases env r c
  have stored : handed x.trace = handed c.trace := by
    simp only [hx, handed_stored]
  rw [h]
  change handed (changed .kStation (if c.Fails env r then _ else x)).trace = _
  rw [trace_changed]
  split
  · simpa [Action.handed] using stored
  · exact stored

@[simp] theorem handed_onOperationFinished (r : OperationResult) :
    handed (c.onOperationFinished env r).trace = handed c.trace := by
  unfold onOperationFinished
  repeat' split
  all_goals simp

@[simp] theorem handed_supersede : handed (c.supersede env).trace = handed c.trace := by
  unfold supersede
  dsimp only
  repeat' split
  all_goals simp [Action.handed]

@[simp] theorem handed_restoreProfile : handed (c.restoreProfile env).trace = handed c.trace := by
  unfold restoreProfile restoreLast
  dsimp only
  repeat' split
  all_goals simp

@[simp] theorem handed_executeScan : handed (c.executeScan env).trace = handed c.trace := by
  unfold executeScan
  dsimp only
  repeat' split
  all_goals simp [Action.handed]

@[simp] theorem handed_issueStation : handed (c.issueStation env).trace = handed c.trace := by
  unfold issueStation submitStation
  dsimp only
  repeat' split
  all_goals simp [Action.handed]

@[simp] theorem handed_executeStation (needs : Bool) :
    handed (c.executeStation env needs).trace = handed c.trace := by
  unfold executeStation
  dsimp only
  repeat' split
  all_goals simp

@[simp] theorem handed_execute : handed (c.execute env).trace = handed c.trace := by
  unfold execute executeIdle
  dsimp only
  repeat' split
  all_goals simp

@[simp] theorem handed_checkLinkDeadlines :
    handed (c.checkLinkDeadlines env).trace = handed c.trace := by
  unfold checkLinkDeadlines
  by_cases due : ((env.now 0 : Nat) : Uptime) ≥ c.stableDeadline_
  · simp only [due, if_true]
    split <;> simp [Action.handed]
  · simp only [due, if_false]
    split <;> simp [Action.handed]

@[simp] theorem handed_checkStationDeadline :
    handed (c.checkStationDeadline env).trace = handed c.trace := by
  unfold checkStationDeadline
  dsimp only
  repeat' split
  all_goals simp [Action.handed]

@[simp] theorem handed_checkScanDeadline :
    handed (c.checkScanDeadline env).trace = handed c.trace := by
  unfold checkScanDeadline
  dsimp only
  repeat' split
  all_goals simp

@[simp] theorem handed_checkTimeouts : handed (c.checkTimeouts env).trace = handed c.trace := by
  unfold checkTimeouts
  dsimp only
  repeat' split
  all_goals simp

/-- **Only a completion is handed back.** -/
theorem atom_handed {a : Atom} (other : a.callback = false) :
    handed (atom c a).trace = handed c.trace := by
  cases a with
  | call call env => exact handed_request env call
  | work env | timer env | reconnect env =>
    simp only [atom]
    split <;> simp
  | take =>
    simp only [atom]
    split <;> rfl
  | deliver listener change => rfl
  | operationFinished | linkChanged | enabledChanged => cases other

/-! ## The belief -/

namespace Core

def radio (c : Core) : Radio where
  attached := c.running
  enabled := c.enabled
  phase := c.phase
  linkId := c.linkId
  station := if c.stationId = 0 then none else some (c.stationId, c.transition.kind)
  wanted := decide (c.transition = .kEnable) && c.transitionEnabled
  scan := if c.scanId = 0 then none else some (c.scanId, .kScan)
  cancelling := c.cancelling
  scanCancelling := decide (c.scan = .kCancelling)

/-- No callback is heard. -/
def deaf : Assumptions :=
  { Assumptions.none with
    completion := fun _ _ => False
    linkReport := fun _ _ => False
    enabledReport := fun _ _ => False }

/-- From `a` to `b` the belief follows the commands, as long as the controller
neither closes nor faults, and each of them comes in turn. -/
structure Obeys (a b : Core) : Prop where
  opened : b.closed = false → a.closed = false
  sound : b.faulted = false → a.faulted = false
  commands : ∃ new, b.trace = new ++ a.trace ∧ (handed new = [] →
    Machine.Along Radio.serve (fun r x => r.Welcomes x.1) a.radio (Controller.commands new) ∧
      (b.closed = false → b.faulted = false →
        b.radio = (Controller.commands new).foldl Radio.serve a.radio) ∧
      (a.closed = true ∨ a.faulted = true → ∀ x ∈ Controller.commands new, ∀ r : Radio,
        r.Welcomes x.1))

variable {a b c : Core}

theorem Obeys.refl (a : Core) : Obeys a a :=
  ⟨id, id, [], rfl, fun _ =>
    ⟨trivial, fun _ _ => rfl, fun _ _ called => absurd called List.not_mem_nil⟩⟩

theorem ended_or (c : Core) :
    (c.closed = true ∨ c.faulted = true) ∨ c.closed = false ∧ c.faulted = false := by
  cases c.closed <;> cases c.faulted <;> simp

theorem Obeys.trans (h : Obeys a b) (h' : Obeys b c) : Obeys a c := by
  obtain ⟨opened, sound, new, trace, commands⟩ := h
  obtain ⟨opened', sound', new', trace', commands'⟩ := h'
  refine ⟨opened ∘ opened', sound ∘ sound', new' ++ new, ?_, fun unheard => ?_⟩
  · rw [trace', trace, List.append_assoc]
  have parts : handed new' = [] ∧ handed new = [] := by
    simpa [handed, List.filterMap_append] using unheard
  obtain ⟨welcome, radio, ended⟩ := commands parts.2
  obtain ⟨welcome', radio', ended'⟩ := commands' parts.1
  refine ⟨?_, fun open_ unfaulted => ?_, fun ended_ x called r => ?_⟩
  · rw [commands_append, Machine.along_append]
    refine ⟨welcome, ?_⟩
    obtain past | ⟨open_, unfaulted⟩ := ended_or b
    · exact (Machine.along_of_forall (P := fun _ _ => True) (fun _ _ => trivial) _ _).and_forall
        (ended' past) |>.mono fun r _ h => h.2 r
    · rw [radio open_ unfaulted] at welcome'
      exact welcome'
  · rw [radio' open_ unfaulted, radio (opened' open_) (sound' unfaulted), commands_append,
      List.foldl_append]
  · rw [commands_append] at called
    obtain called | called := List.mem_append.mp called
    · exact ended ended_ x called r
    · refine ended' ?_ x called r
      obtain closed | faulted := ended_
      · exact .inl (by_contra fun h => by simp [opened (by simpa using h)] at closed)
      · exact .inr (by_contra fun h => by simp [sound (by simpa using h)] at faulted)

/-- A move that makes no command, and touches nothing of the radio unless it
ends the controller. -/
theorem Obeys.quiet (new : List Action) (silent : Controller.commands new = [])
    (trace : b.trace = new ++ a.trace)
    (radio : b.closed = false → b.faulted = false → b.radio = a.radio)
    (opened : b.closed = false → a.closed = false)
    (sound : b.faulted = false → a.faulted = false) : Obeys a b := by
  refine ⟨opened, sound, new, trace, fun _ => ?_⟩
  rw [silent]
  exact ⟨trivial, radio, fun _ _ called => absurd called List.not_mem_nil⟩

/-- A move that makes one command, or ends the controller with it. -/
theorem Obeys.commanded (new : List Action) {x : Esp32IdfInterface.Command × Status}
    (command : Controller.commands new = [x]) (trace : b.trace = new ++ a.trace)
    (radio : b.closed = false → b.faulted = false → b.radio = a.radio.serve x)
    (welcome : a.radio.Welcomes x.1)
    (live : a.closed = true ∨ a.faulted = true → ∀ r : Radio, r.Welcomes x.1)
    (opened : b.closed = false → a.closed = false)
    (sound : b.faulted = false → a.faulted = false) : Obeys a b := by
  refine ⟨opened, sound, new, trace, fun _ => ?_⟩
  rw [command]
  refine ⟨⟨welcome, trivial⟩, radio, fun ended y called r => ?_⟩
  obtain rfl := List.mem_singleton.mp called
  exact live ended r

end Core

open RooWifi.Controller.Core (deaf Obeys)

/-- The command that a due transition makes. -/
def Transition.ordered (c : Core) : Transition → Esp32IdfInterface.Command
  | .kEnable => .setEnabled c.nextId (decide (c.desired ≠ .kDisabled))
  | .kConnect => .connect c.nextId c.config c.credentials
  | _ => .disconnect c.nextId

theorem command_of_due {c : Core} {t : Transition} (due : c.Due t) (status : Status) :
    (c.command t status).command = some (t.ordered c, status) := by
  cases t with
  | kNone => exact due.chosen.elim
  | kEnable | kConnect | kDisconnect => rfl

/-- What a due transition commands comes in turn. -/
theorem Transition.welcome {c : Core} {t : Transition} (due : c.Due t)
    (free : c.radio.Free c.nextId) : c.radio.Welcomes (t.ordered c) := by
  have chosen := due.chosen
  cases t with
  | kNone => exact chosen.elim
  | kEnable => exact ⟨free, chosen.1⟩
  | kDisconnect => exact ⟨free, chosen⟩
  | kConnect =>
    obtain ⟨idle, -, enabled, -, connected⟩ := chosen
    refine ⟨free, idle, enabled.trans ?_⟩
    simp [connected]

theorem Move.obeys {a b : Core} (h : Move deaf a b) (hi : Exclusive a) : Obeys a b := by
  have never {p : Prop} (ended : true = false) : p := absurd ended.symm Bool.false_ne_true
  have idNe : a.nextId ≠ 0 := Nat.ne_of_gt hi.idPos
  have unrequested (free : a.transition = .kNone) : a.radio.station = none :=
    if_pos (hi.free.mp free)
  have unscanned (h : a.scan = .kIdle ∨ a.scan = .kQueued) : a.radio.scan = none := by
    refine if_pos ?_
    by_contra hne
    obtain h' | h' := hi.scanning.mp hne <;> obtain h | h := h <;> cases h.symm.trans h'
  have unstarted {t : Transition} (due : a.Due t) (open_ : a.closed = false) :
      { a.radio with station := none, wanted := false, cancelling := false } = a.radio :=
    Radio.ext rfl rfl rfl rfl (unrequested due.free).symm (by simp [Core.radio, due.free]) rfl
      (hi.uncancelled due.faulted open_ (by simp [due.free])).symm rfl
  have free (admits : a.Admits) (idle : a.transition = .kNone)
      (noScan : a.scan = .kIdle ∨ a.scan = .kQueued) : a.radio.Free a.nextId :=
    ⟨admits.running, idNe, unrequested idle, unscanned noScan⟩
  have live {x : Esp32IdfInterface.Command} (running : a.running = true)
      (unfaulted : a.faulted = false) (ended : a.closed = true ∨ a.faulted = true) (r : Radio) :
      r.Welcomes x := by
    obtain closed | faulted := ended
    · exact absurd ((hi.notStopped running unfaulted).1.symm.trans closed) Bool.false_ne_true
    · exact absurd (unfaulted.symm.trans faulted) Bool.false_ne_true
  have scanning (running : a.running = true) (h : a.scan = .kRunning) :
      a.radio.scan.isSome = true ∧ a.faulted = false ∧ a.radio.scanCancelling = false := by
    have outstanding : a.radio.scan = some (a.scanId, .kScan) := if_neg (hi.scanning.mpr (.inl h))
    refine ⟨by rw [outstanding]; rfl, ?_, by simp [Core.radio, h]⟩
    by_contra faulted
    have idle := (hi.quiet (.inr (by simpa using faulted))).2.2
    cases idle.symm.trans h
  have connecting (running : a.running = true) (unfaulted : a.faulted = false)
      (h : a.transition = .kConnect) : a.radio.station = some (a.stationId, .kConnect) := by
    have outstanding : a.stationId ≠ 0 := by
      intro zero
      cases (hi.free.mpr zero).symm.trans h
    simp only [Core.radio, if_neg outstanding, h, Transition.kind]
  cases h with
  | noted act silent =>
    refine ⟨id, id, [act], rfl, fun unheard => ?_⟩
    cases act with
    | delivered r => exact absurd unheard (List.cons_ne_nil _ _)
    | begin status =>
      refine ⟨⟨trivial, trivial⟩, fun _ _ => (Radio.serve_refused .begin silent).symm, ?_⟩
      intro _ x called r
      obtain rfl := List.mem_singleton.mp called
      trivial
    | shutdown | setEnabled | connect | disconnect | startScan | cancelConnect | cancelScan =>
      cases silent
    | _ => exact ⟨trivial, fun _ _ => rfl, fun _ _ called => absurd called List.not_mem_nil⟩
  | begun enabled fresh opened =>
    exact .commanded [.intent _, .begin .kOk] rfl rfl (fun _ _ => rfl) trivial
      (fun _ _ => trivial) id id
  | shutdown opened =>
    cases running : a.running with
    | true =>
      refine .commanded [.shutdown] (x := (.shutdown, .kOk)) rfl ?_ never trivial
        (fun _ _ => trivial) never id
      simp [Core.shutdown, running]
    | false =>
      refine .quiet [] rfl ?_ never never id
      simp [Core.shutdown, running]
  | faulted status running unfaulted notOk =>
    exact .quiet [.fault status] rfl rfl (fun _ => never) id never
  | stuck timedOut answer status running unfaulted connects fresh refused notOk =>
    exact .commanded [.fault status, .cancelConnect answer] rfl rfl
      (fun _ => never) ⟨⟨_, connecting running unfaulted connects⟩, fresh⟩
      (live running unfaulted) id never
  | scanCancelled running scans =>
    obtain ⟨outstanding, unfaulted, fresh⟩ := scanning running scans
    refine .commanded [.cancelScan .kOk] rfl rfl (fun _ _ => ?_) ⟨outstanding, fresh⟩
      (live running unfaulted) id id
    simp only [Radio.serve_ok, Radio.accept, outstanding, Bool.or_true]
    rfl
  | scanKept status running scans notOk =>
    obtain ⟨outstanding, unfaulted, fresh⟩ := scanning running scans
    exact .commanded [.cancelScan status] rfl rfl
      (fun _ _ => (Radio.serve_refused .cancelScan notOk).symm) ⟨outstanding, fresh⟩
      (live running unfaulted) id id
  | superseded running unfaulted connects fresh stale =>
    exact .commanded [.cancelConnect .kOk] rfl rfl (fun _ _ => rfl)
      ⟨⟨_, connecting running unfaulted connects⟩, fresh⟩ (live running unfaulted) id id
  | expired running unfaulted outstanding connects fresh =>
    exact .commanded [.cancelConnect .kOk] rfl rfl (fun _ _ => rfl)
      ⟨⟨_, connecting running unfaulted connects⟩, fresh⟩ (live running unfaulted) id id
  | scanQueued h enabled idle =>
    refine .quiet [.returned .startScan .kOk] rfl rfl (fun _ _ => ?_) id id
    have uncancelled : a.radio.scanCancelling = false := by simp [Core.radio, idle]
    exact Radio.ext rfl rfl rfl rfl rfl rfl rfl rfl uncancelled.symm
  | scanDropped running queued =>
    refine .quiet [] rfl rfl (fun _ _ => ?_) id id
    have uncancelled : a.radio.scanCancelling = false := by simp [Core.radio, queued]
    exact Radio.ext rfl rfl rfl rfl rfl rfl rfl rfl uncancelled.symm
  | issued t due allowed =>
    refine .commanded [a.command t .kOk]
      (by rw [Controller.commands, List.filterMap_cons, command_of_due due]; rfl) rfl
      (fun _ _ => ?_) (t.welcome due (free due.toAdmits due.free (.inl due.noScan)))
      (live due.running due.faulted) id id
    have station : (a.issued t .kOk).radio.station = some (a.nextId, t.kind) := if_neg idNe
    cases t with
    | kNone => exact due.chosen.elim
    | kEnable | kConnect | kDisconnect => exact Radio.ext rfl rfl rfl rfl station rfl rfl rfl rfl
  | refused t status due notOk quiet allowed =>
    refine .commanded [a.command t status]
      (by rw [Controller.commands, List.filterMap_cons, command_of_due due]; rfl) rfl
      (fun open_ _ => ?_) (t.welcome due (free due.toAdmits due.free (.inl due.noScan)))
      (live due.running due.faulted) id id
    rw [Radio.serve_refused _ notOk]
    exact unstarted due open_
  | connectRefused status r level due failure =>
    refine .commanded [.failed _, .connect a.nextId a.config a.credentials status] rfl rfl
      (fun open_ _ => ?_)
      (Transition.kConnect.welcome due (free due.toAdmits due.free (.inl due.noScan)))
      (live due.running due.faulted) id id
    rw [Radio.serve_refused _ failure.notOk]
    exact unstarted due open_
  | scanStarted size admits idle queued =>
    refine .commanded [.startScan a.nextId size .kOk] rfl rfl (fun _ _ => ?_)
      (free admits idle (.inr queued)) (live admits.running admits.faulted) id id
    have uncancelled : a.radio.scanCancelling = false := by simp [Core.radio, queued]
    exact Radio.ext rfl rfl rfl rfl rfl rfl (if_neg idNe) rfl uncancelled.symm
  | scanRefused size status admits idle queued notOk =>
    refine .commanded [.startScan a.nextId size status] rfl rfl (fun _ _ => ?_)
      (free admits idle (.inr queued)) (live admits.running admits.faulted) id id
    rw [Radio.serve_refused _ notOk]
    have uncancelled : a.radio.scanCancelling = false := by simp [Core.radio, queued]
    exact Radio.ext rfl rfl rfl rfl rfl rfl (unscanned (.inr queued)).symm rfl uncancelled.symm
  | scanFinished r h => exact ⟨id, id, [.delivered r], rfl, fun unheard =>
      absurd unheard (List.cons_ne_nil _ _)⟩
  | enableFinished r written h allowed | staleFinished r h allowed | stationFinished r h allowed
  | connectFinished r status h allowed | connectFailed r status retry level saved h allowed
  | enabledReported enabled running sound allowed | linkReady link h allowed
  | linkRecovered link h allowed | linkPartial link deadline h allowed | linkIdle link h allowed
  | linkLost link status r level h allowed => exact allowed.elim
  | setEnabled | withdrawn => exact .quiet [.returned _ _, .intent _] rfl rfl (fun _ _ => rfl) id id
  | accepted => exact .quiet [.returned _ _, .requested _ _ _ _, .intent _] rfl rfl (fun _ _ => rfl) id id
  | repeated => exact .quiet [.returned _ _, .requested _ _ _ _] rfl rfl (fun _ _ => rfl) id id
  | restored => exact .quiet [.requested _ _ _ _, .intent _] rfl rfl (fun _ _ => rfl) id id
  | restoredSame => exact .quiet [.requested _ _ _ _] rfl rfl (fun _ _ => rfl) id id
  | retryIdle => exact .quiet [.retryFired] rfl rfl (fun _ _ => rfl) id id
  | retryDenied | retryGranted => exact .quiet [.reloaded _ _ _, .retryFired] rfl rfl (fun _ _ => rfl) id id
  | addressExpired => exact .quiet [.failed _] rfl rfl (fun _ _ => rfl) id id
  | relaxed | dispatched | rested | aimed | settled | unrestored | stable =>
    exact .quiet [] rfl rfl (fun _ _ => rfl) id id

theorem Path.obeys {a b : Core} (hp : Path deaf a b) (hi : Exclusive a) :
    Obeys a b ∧ Exclusive b := by
  induction hp with
  | refl => exact ⟨.refl a, hi⟩
  | tail _ move ih => exact ⟨ih.1.trans (move.obeys ih.2), move.exclusive ih.2⟩

/-- **A call or a task changes the belief by its commands.** -/
theorem atom_obeys {a : Atom} (exclusive : Exclusive (core false c)) (other : a.callback = false) :
    Obeys (core false c) (core false (atom c a)) := by
  have stepped (i : Input) (permits : Permits deaf c i) :
      Obeys (core false c) (core false (step c i)) :=
    (Path.obeys (step_path exclusive.nextId_ne permits) exclusive).1
  cases a with
  | call call env => exact stepped { event := .call call, env } trivial
  | work env => exact stepped { event := .work, env } fun _ _ _ _ _ _ => trivial
  | timer env => exact stepped { event := .timer, env } fun _ _ _ _ => trivial
  | reconnect env => exact stepped { event := .reconnect, env } trivial
  | take =>
    simp only [atom]
    split <;> exact .refl _
  | deliver listener change =>
    exact (Path.obeys (.single (.noted (.notified listener change) trivial)) exclusive).1
  | operationFinished | linkChanged | enabledChanged => cases other

/-! ## Callbacks -/

/-- From `c` to `d` the controller was told `h` and believes it. -/
structure Believes (h : OrderedInterface.Happening) (c d : Controller) : Prop where
  running : d.running_ = c.running_
  faulted : d.faulted_ = c.faulted_
  radio : (core false d).radio = (core false c).radio.tell h

theorem completesScan_of_expects {r : OperationResult} (live : c.Live)
    (expected : (core false c).radio.Expects (.finished r)) (scan : r.kind = .kScan) :
    (core false c).CompletesScan r := by
  replace expected := expected.1
  simp only [if_pos scan, Core.radio] at expected
  split at expected
  · cases expected
  · rename_i outstanding
    obtain ⟨id, kind⟩ := Prod.ext_iff.mp (Option.some.inj expected)
    have id : (core false c).scanId = r.id := id
    exact ⟨live.1, live.2, fun zero => outstanding (id.trans zero), id.symm, scan⟩

theorem completes_of_expects {r : OperationResult} (live : c.Live)
    (expected : (core false c).radio.Expects (.finished r)) (station : r.kind ≠ .kScan) :
    (core false c).Completes r := by
  replace expected := expected.1
  simp only [if_neg station, Core.radio] at expected
  split at expected
  · cases expected
  · rename_i outstanding
    obtain ⟨id, kind⟩ := Prod.ext_iff.mp (Option.some.inj expected)
    have id : (core false c).stationId = r.id := id
    exact ⟨live.1, live.2, fun zero => outstanding (id.trans zero), id.symm, kind.symm⟩

theorem Core.connecting_of_radio {c : Core} {id : OperationId}
    (connecting : c.radio.station = some (id, .kConnect)) :
    c.transition = .kConnect ∧ id = c.stationId := by
  simp only [Core.radio] at connecting
  split at connecting
  · cases connecting
  · obtain ⟨id, kind⟩ := Prod.ext_iff.mp (Option.some.inj connecting)
    have kind : c.transition.kind = .kConnect := kind
    refine ⟨?_, id.symm⟩
    cases transition : c.transition with
    | kConnect => rfl
    | kNone | kEnable | kDisconnect =>
      rw [transition] at kind
      cases kind

theorem hears_of_expects {link : LinkState} (live : c.Live)
    (expected : (core false c).radio.Expects (.linkChanged link)) : (core false c).Hears link :=
  ⟨live.1, live.2, expected.1.imp_right Core.connecting_of_radio⟩

/-- A failure is no matter of the radio. -/
theorem core_radio_connectionFailed (now : Nat) (status : Status) (failure : ConnectionFailure)
    (code : Int) (hasCode : Bool) : let d := c.connectionFailed now status failure code hasCode
    d.running_ = c.running_ ∧ d.faulted_ = c.faulted_ ∧
      (core false d).radio = (core false c).radio := by
  obtain ⟨_, _, _, _, h, -⟩ := connectionFailed_cases now status failure code hasCode c
  rw [h]
  exact ⟨rfl, rfl, rfl⟩

theorem believes_changed {h : OrderedInterface.Happening} {d : Controller} (change : Change) :
    Believes h c (d.changed change) ↔ Believes h c d := by
  rw [changed_eq]
  exact ⟨fun b => ⟨b.running, b.faulted, b.radio⟩, fun b => ⟨b.running, b.faulted, b.radio⟩⟩

theorem Believes.connectionFailed {h : OrderedInterface.Happening} {d : Controller}
    (b : Believes h c d) (now : Nat) (status : Status) (failure : ConnectionFailure) (code : Int)
    (hasCode : Bool) : Believes h c (d.connectionFailed now status failure code hasCode) := by
  obtain ⟨running, faulted, radio⟩ := core_radio_connectionFailed (c := d) now status failure code
    hasCode
  exact ⟨running.trans b.running, faulted.trans b.faulted, radio.trans b.radio⟩

theorem believes_scanFinished {r : OperationResult} (scan : r.kind = .kScan) :
    Believes (.finished r) c (c.scanFinished env r) := by
  obtain ⟨_, _, _, h, -⟩ := scanFinished_cases env r c
  rw [h, changed_eq]
  refine ⟨rfl, rfl, ?_⟩
  simp only [Radio.tell, if_pos scan]
  rfl

theorem believes_stationFinished {r : OperationResult} (station : r.kind ≠ .kScan) :
    Believes (.finished r) c (c.stationFinished env r) := by
  obtain ⟨_, _, _, _, _, x, hx, h⟩ := stationFinished_cases env r c
  have retired : Believes (.finished r) c x := by
    rw [hx]
    refine ⟨rfl, rfl, ?_⟩
    simp only [Radio.tell, if_neg station]
    rfl
  have concluded : Believes (.finished r) c (changed .kStation (if c.Fails env r then
      (x.record (.failed r.id)).connectionFailed (env.now 4) (c.connectStatus env r)
        (if c.stationTimedOut_ then c.timeoutFailure_ else r.failure) r.nativeCode r.hasNativeCode
      else x)) := by
    rw [believes_changed]
    split
    · refine Believes.connectionFailed ?_ _ _ _ _ _
      exact ⟨retired.running, retired.faulted, retired.radio⟩
    · exact retired
  rw [h]
  exact ⟨concluded.running, concluded.faulted, concluded.radio⟩

theorem believes_hear (link : LinkState) : Believes (.linkChanged link) c (c.hear env link) := by
  by_cases ready : link.phase = .kAddressReady
  · obtain ⟨_, _, _, _, _, _, _, h, -⟩ := hear_ready env c ready
    rw [h, believes_changed]
    exact ⟨rfl, rfl, rfl⟩
  by_cases idle : link.phase = .kIdle
  · rw [hear_idle env c idle, believes_changed]
    split
    · refine Believes.connectionFailed ?_ _ _ _ _ _
      exact ⟨rfl, rfl, rfl⟩
    · exact ⟨rfl, rfl, rfl⟩
  · rw [hear_unready env c ready idle, believes_changed]
    exact ⟨rfl, rfl, rfl⟩

/-- **An expected callback is believed.** -/
theorem believes_callback {h : OrderedInterface.Happening} {callback : Env → Atom} (live : c.Live)
    (told : Stack.hears h = some callback) (expected : (core false c).radio.Expects h) :
    Believes h c (atom c (callback env)) := by
  cases h with
  | finished r =>
    cases told
    have delivered : (c.record (.delivered r)).Live := live
    simp only [atom]
    by_cases scan : r.kind = .kScan
    · have completes := completesScan_of_expects delivered expected scan
      obtain ⟨-, same⟩ | ⟨other, -⟩ | ⟨-, other, -⟩ :=
        onOperationFinished_cases (d := false) (c := c.record (.delivered r)) env r
      · rw [same]
        have b := believes_scanFinished (c := c.record (.delivered r)) env scan
        exact ⟨b.running, b.faulted, b.radio⟩
      · exact absurd (scan.symm.trans other.kind).symm (Transition.kind_ne_scan _)
      · exact absurd completes other
    · have completes := completes_of_expects delivered expected scan
      obtain ⟨other, -⟩ | ⟨-, same⟩ | ⟨other, -⟩ :=
        onOperationFinished_cases (d := false) (c := c.record (.delivered r)) env r
      · exact absurd other.kind scan
      · rw [same]
        have b := believes_stationFinished (c := c.record (.delivered r)) env scan
        exact ⟨b.running, b.faulted, b.radio⟩
      · exact absurd completes other
  | linkChanged link =>
    cases told
    have hears := hears_of_expects live expected
    have heard : c.onLinkChanged env link = (c.hear env link).scheduleTimeouts := by
      unfold onLinkChanged
      rw [if_neg (by simp [live.1, live.2]), if_neg]
      · rfl
      · rintro ⟨foreign, unexpected⟩
        obtain current | connecting := hears.current
        · exact foreign current
        · have connecting : c.transition_ = .kConnect ∧ link.connectionId = c.stationId_ :=
            connecting
          simp [connecting.1, connecting.2] at unexpected
    have b := believes_hear (c := c) env link
    simp only [atom, heard]
    exact ⟨b.running, b.faulted, b.radio⟩
  | enabledChanged enabled =>
    cases told
    simp only [atom, onEnabledChanged]
    rw [if_neg (by simp [live.1, live.2]), believes_changed]
    exact ⟨rfl, rfl, rfl⟩
  | _ => cases told

end RooWifi.Controller
