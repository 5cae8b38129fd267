import RooWifi.Controller.Effects

/-! # No lost invalidation

What a listener may read is cut into the three categories it is told about.
Every edit of the controller marks the category it touches, but for the retry
timer that finds nothing left to retry. -/
namespace RooWifi.Controller

variable {c : Controller}

/-! ## What a listener reads -/

/-- The station fields of `state()`: all but those of the other categories. -/
def stationView (c : Controller) : State :=
  { c.state with scan := .kIdle, scanStatus := .kOk, scanRevision := 0, profilesGeneration := 0 }

/-- The scan fields of `state()` with `scanSnapshot()` and its records. -/
def scanView (c : Controller) : ScanPhase × Status × Nat × ScanSnapshot × List ScanRecord :=
  (c.state_.scan, c.state_.scanStatus, c.state_.scanRevision, c.snapshot_,
    c.records_.take c.snapshot_.count)

/-- A listener reads the same in both states. -/
def SameView (c d : Controller) : Change → Prop
  | .kStation => stationView d = stationView c
  | .kScan => scanView d = scanView c
  | .kProfiles => d.state_.profilesGeneration = c.state_.profilesGeneration

theorem SameView.refl (c : Controller) : ∀ change, SameView c c change
  | .kStation | .kScan | .kProfiles => rfl

theorem SameView.trans {d e : Controller} : ∀ {change}, SameView c d change →
    SameView d e change → SameView c e change
  | .kStation, h, h' | .kScan, h, h' | .kProfiles, h, h' => Eq.trans h' h

/-- What changed is marked, and no mark is lost. -/
def Marks (c d : Controller) : Prop :=
  ∀ change, (c.pendingChanges_.has change = true → d.pendingChanges_.has change = true) ∧
    (SameView c d change ∨ d.pendingChanges_.has change = true)

namespace Marks

theorem refl (c : Controller) : Marks c c := fun change => ⟨id, .inl (.refl c change)⟩

theorem trans {d e : Controller} (h : Marks c d) (h' : Marks d e) : Marks c e := by
  intro change
  obtain ⟨hk, hs⟩ := h change
  obtain ⟨hk', hs'⟩ := h' change
  refine ⟨hk' ∘ hk, ?_⟩
  obtain same | marked := hs
  · exact hs'.imp_left same.trans
  · exact .inr (hk' marked)

/-- An edit no listener can see. -/
theorem of_same {d : Controller} (pending : d.pendingChanges_ = c.pendingChanges_)
    (same : ∀ change, SameView c d change) : Marks c d :=
  fun change => ⟨fun h => pending ▸ h, .inl (same change)⟩

end Marks

theorem has_raise (s : Changes) (change other : Change) :
    (s.raise change).has other = (s.has other || decide (change = other)) := by
  cases change <;> cases other <;> simp [Changes.raise, Changes.has]

/-- An edit of one category that marks it. -/
theorem Marks.of_raise {d : Controller} (change : Change)
    (pending : d.pendingChanges_ = c.pendingChanges_.raise change)
    (same : ∀ other, other ≠ change → SameView c d other) : Marks c d := by
  intro other
  rw [pending, has_raise]
  refine ⟨fun h => by simp [h], ?_⟩
  by_cases h : change = other
  · exact .inr (by simp [h])
  · exact .inl (same other (Ne.symm h))

/-- The fields a running controller's station view is computed from. -/
def stationFields (c : Controller) : Bool × Transition × Bool × Bool × State :=
  (c.faulted_, c.transition_, c.transitionEnabled_, c.cancellingConnect_,
    { c.state_ with scan := .kIdle, scanStatus := .kOk, scanRevision := 0, profilesGeneration := 0 })

theorem sameView_station {d : Controller} (running : c.running_ = true) (running' : d.running_ = true)
    (h : stationFields d = stationFields c) : SameView c d .kStation := by
  simp only [stationFields, Prod.mk.injEq, State.mk.injEq] at h
  obtain ⟨hf, ht, he, hc, hd, hs, hen, hl, hp, hcp, hr, hst, hn, hh, hre, -, -, -, -⟩ := h
  simp only [SameView, stationView, state, running, running', Bool.not_true, Bool.false_eq_true,
    if_false, hf, ht, he, hc, hd, hen, hl, hp, hcp, hr, hst, hn, hh, hre]

theorem marks_station {d : Controller} (running : d.running_ = true)
    (pending : d.pendingChanges_ = c.pendingChanges_) (scan : scanView d = scanView c)
    (profiles : d.state_.profilesGeneration = c.state_.profilesGeneration) :
    Marks c (d.changed .kStation) := by
  rw [changed_eq, if_pos running, pending]
  refine .of_raise .kStation rfl fun other h => ?_
  cases other with
  | kStation => exact absurd rfl h
  | kScan => exact scan
  | kProfiles => exact profiles

theorem marks_scan {d : Controller} (running : c.running_ = true)
    (pending : d.pendingChanges_ = c.pendingChanges_) (running' : d.running_ = true)
    (station : stationFields d = stationFields c)
    (profiles : d.state_.profilesGeneration = c.state_.profilesGeneration) :
    Marks c (d.changed .kScan) := by
  rw [changed_eq, if_pos running', pending]
  refine .of_raise .kScan rfl fun other h => ?_
  cases other with
  | kStation => exact sameView_station running running' station
  | kScan => exact absurd rfl h
  | kProfiles => exact profiles

theorem marks_newIntent {d : Controller} (running : d.running_ = true)
    (pending : d.pendingChanges_ = c.pendingChanges_) (scan : scanView d = scanView c)
    (profiles : d.state_.profilesGeneration = c.state_.profilesGeneration) :
    Marks c d.newIntent := by
  rw [newIntent_eq, if_pos running, pending]
  refine .of_raise .kStation rfl fun other h => ?_
  cases other with
  | kStation => exact absurd rfl h
  | kScan => exact scan
  | kProfiles => exact profiles

/-- A fault ends the scan, if there is one, and touches the station. -/
theorem marks_fault (running : c.running_ = true) (status : Status) : Marks c (c.fault status) := by
  rw [fault_eq, if_pos running]
  by_cases scanning : c.isScanning = true
  · rw [if_pos scanning, if_pos scanning]
    intro change
    cases change with
    | kStation => exact ⟨fun _ => rfl, .inr rfl⟩
    | kScan => exact ⟨fun _ => rfl, .inr rfl⟩
    | kProfiles => exact ⟨id, .inl rfl⟩
  · rw [if_neg scanning, if_neg scanning]
    refine .of_raise .kStation rfl fun other h => ?_
    cases other with
    | kStation => exact absurd rfl h
    | kScan =>
      have idle : c.state_.scan = .kIdle := by simpa [isScanning] using scanning
      simp only [SameView, scanView, idle]
    | kProfiles => rfl

theorem marks_connectionFailed {d : Controller} (running : d.running_ = true)
    (pending : d.pendingChanges_ = c.pendingChanges_) (scan : scanView d = scanView c)
    (profiles : d.state_.profilesGeneration = c.state_.profilesGeneration) (now : Nat)
    (status : Status) (failure : ConnectionFailure) (code : Int) (hasCode : Bool) :
    Marks c ((d.connectionFailed now status failure code hasCode).changed .kStation) := by
  obtain ⟨_, _, _, _, h, -⟩ := connectionFailed_cases now status failure code hasCode d
  rw [h]
  exact marks_station running pending scan profiles

theorem marks_scanFinished (running : c.running_ = true) (env : Env) (r : OperationResult) :
    Marks c (c.scanFinished env r) := by
  obtain ⟨status, records, snapshot, h, -⟩ := scanFinished_cases env r c
  rw [h]
  exact marks_scan (d := { c with
    scanId_ := 0
    state_.scan := .kIdle
    state_.scanStatus := status
    records_ := records
    snapshot_ := snapshot }) running rfl running rfl rfl

theorem marks_stationFinished (running : c.running_ = true) (env : Env) (r : OperationResult) :
    Marks c (c.stationFinished env r) := by
  obtain ⟨_, _, _, _, _, x, hx, h⟩ := stationFinished_cases env r c
  have hx' : x.running_ = true ∧ x.pendingChanges_ = c.pendingChanges_ ∧ scanView x = scanView c ∧
      x.state_.profilesGeneration = c.state_.profilesGeneration := by
    rw [hx]
    exact ⟨running, rfl, rfl, rfl⟩
  obtain ⟨hr, hp, hs, hg⟩ := hx'
  rw [h]
  change Marks c (Controller.changed .kStation _)
  split
  · exact marks_connectionFailed (d := x.record (.failed r.id)) hr hp hs hg _ _ _ _ _
  · exact marks_station hr hp hs hg

theorem marks_hear (running : c.running_ = true) (env : Env) (link : LinkState) :
    Marks c (c.hear env link) := by
  by_cases ready : link.phase = .kAddressReady
  · obtain ⟨_, _, _, _, _, _, _, h, -⟩ := hear_ready env c ready
    rw [h]
    exact marks_station running rfl rfl rfl
  by_cases idle : link.phase = .kIdle
  · rw [hear_idle env c idle]
    dsimp only
    split
    · refine marks_connectionFailed ?_ ?_ ?_ ?_ _ _ _ _ _
      exacts [running, rfl, rfl, rfl]
    · exact marks_station running rfl rfl rfl
  · rw [hear_unready env c ready idle]
    exact marks_station running rfl rfl rfl

/-- **Every edit but one marks what it changes**, while the controller runs. -/
theorem Effect.marks {a : Atom} {c d : Controller} (h : Effect a c d) (running : c.running_ = true)
    (untaken : a ≠ .take) (other : ∀ env, a ≠ .reconnect env) :
    Marks c d ∨ d.closed_ = true := by
  cases h with
  | noted | scheduled | listened | relaxed | repeated | aimed | timedOut | scanTimedOut =>
    refine .inl (.of_same rfl fun change => ?_)
    cases change with
    | kStation => exact sameView_station running running rfl
    | kScan | kProfiles => rfl
  | begun enabled fresh => exact absurd (running.symm.trans fresh) (by simp)
  | shutdown opened =>
    rw [shutdown_eq opened]
    exact .inr rfl
  | withdrawn | requested => exact .inl (marks_newIntent running rfl rfl rfl)
  | scanQueued | scanDropped | scanCancelled | scanStarted =>
    exact .inl (marks_scan running rfl running rfl rfl)
  | profiles =>
    refine .inl ?_
    rw [changed_eq, if_pos running]
    refine .of_raise .kProfiles rfl fun change h => ?_
    cases change with
    | kStation => exact sameView_station running running rfl
    | kScan => rfl
    | kProfiles => exact absurd rfl h
  | faulted status => exact .inl (marks_fault running status)
  | cancelled | issued | settled | unrestored | stable | enabledReported =>
    exact .inl (marks_station running rfl rfl rfl)
  | addressExpired =>
    refine .inl (marks_connectionFailed ?_ ?_ ?_ ?_ _ _ _ _ _)
    exacts [running, rfl, rfl, rfl]
  | scanFinished r env => exact .inl (marks_scanFinished running env r)
  | stationFinished r env => exact .inl (marks_stationFinished running env r)
  | retryIdle | retryDenied | retryGranted => exact absurd rfl (other _)
  | linkReported => exact .inl (marks_hear running _ _)
  | taken => exact absurd rfl untaken

theorem Effects.marks {a : Atom} {c d : Controller} (h : Effects a c d) (running : c.running_ = true)
    (untaken : a ≠ .take) (other : ∀ env, a ≠ .reconnect env) :
    Marks c d ∧ d.running_ = true ∨ d.closed_ = true := by
  induction h with
  | refl => exact .inl ⟨.refl c, running⟩
  | tail _ he ih =>
    obtain ⟨closed, -⟩ | later := he.later
    · exact .inr closed
    obtain ⟨marks, hr⟩ | closed := ih
    · exact (he.marks hr untaken other).imp_left fun h => ⟨marks.trans h, later.running hr⟩
    · exact .inr (later.closed.trans closed)

/-! ## The retry timer -/

/-- A retry is pending only for a connection that is wanted, and only then has
it a time. -/
structure Retrying (c : Controller) : Prop where
  wanted : c.running_ = true → c.state_.retry.pending = true →
    c.faulted_ = false ∧ c.state_.desired = .kConnected
  untimed : c.state_.retry.pending = false → c.state_.retry.nextAttempt = ⊤

namespace Retrying

@[simp] theorem changed_iff (change : Change) : Retrying (c.changed change) ↔ Retrying c := by
  rw [changed_eq]
  exact ⟨fun h => { h with }, fun h => { h with }⟩

/-- Nothing is pending. -/
theorem none (free : c.state_.retry.pending = false) (untimed : c.state_.retry.nextAttempt = ⊤) :
    Retrying c where
  wanted _ h := absurd (free.symm.trans h) (by simp)
  untimed _ := untimed

theorem newIntent (c : Controller) : Retrying c.newIntent := by
  rw [newIntent_eq]
  exact .none rfl rfl

theorem connectionFailed (hi : Retrying c) (sound : c.faulted_ = false) (now : Nat) (status : Status)
    (failure : ConnectionFailure) (code : Int) (hasCode : Bool) :
    Retrying (c.connectionFailed now status failure code hasCode) := by
  obtain ⟨retry, level, jitter, reconnect, h, -, ⟨hp, hn, -⟩ | ⟨hp, -, -, wanted, -⟩⟩ :=
    connectionFailed_cases now status failure code hasCode c
  · rw [h]
    exact {
      wanted := fun hr h => hi.wanted hr (hp.symm.trans h)
      untimed := fun h => hn.trans (hi.untimed (hp.symm.trans h)) }
  · rw [h]
    exact {
      wanted := fun _ _ => ⟨sound, wanted⟩
      untimed := fun h => absurd (hp.symm.trans h) (by simp) }

theorem scanFinished (hi : Retrying c) (env : Env) (r : OperationResult) :
    Retrying (c.scanFinished env r) := by
  obtain ⟨_, _, _, h, -⟩ := scanFinished_cases env r c
  rw [h, changed_eq]
  exact { hi with }

theorem stationFinished (hi : Retrying c) (sound : c.faulted_ = false) (env : Env)
    (r : OperationResult) : Retrying (c.stationFinished env r) := by
  obtain ⟨_, _, _, _, _, x, hx, h⟩ := stationFinished_cases env r c
  have hx' : Retrying x ∧ x.faulted_ = false := by
    rw [hx]
    exact ⟨{ hi with }, sound⟩
  rw [h]
  refine { (changed_iff (c := if c.Fails env r then _ else x) .kStation).mpr ?_ with }
  split
  · exact connectionFailed (c := x.record (.failed r.id)) { hx'.1 with } hx'.2 _ _ _ _ _
  · exact hx'.1

theorem hear (hi : Retrying c) (sound : c.faulted_ = false) (env : Env) (link : LinkState) :
    Retrying (c.hear env link) := by
  by_cases ready : link.phase = .kAddressReady
  · obtain ⟨_, pending, next, _, _, _, _, h, hp⟩ := hear_ready env c ready
    rw [h, changed_iff]
    obtain ⟨rfl, rfl⟩ | ⟨rfl, rfl⟩ := hp
    · exact { hi with }
    · exact .none rfl rfl
  by_cases idle : link.phase = .kIdle
  · rw [hear_idle env c idle, changed_iff]
    split
    · refine connectionFailed ?_ ?_ _ _ _ _ _
      · exact { hi with }
      · exact sound
    · exact { hi with }
  · rw [hear_unready env c ready idle, changed_iff]
    exact { hi with }

end Retrying

open Retrying (changed_iff) in
theorem Effect.retrying {a : Atom} {c d : Controller} (h : Effect a c d) (hi : Retrying c) :
    Retrying d := by
  cases h with
  | noted | scheduled | listened | relaxed | repeated | aimed | timedOut | scanTimedOut | taken =>
    exact { hi with }
  | begun | withdrawn => exact .newIntent _
  | requested => exact { Retrying.newIntent _ with }
  | shutdown opened =>
    rw [shutdown_eq opened]
    exact .none rfl rfl
  | scanQueued | scanDropped | scanCancelled | profiles | cancelled | issued | settled | unrestored
  | scanStarted | enabledReported =>
    rw [changed_iff]
    exact { hi with }
  | faulted =>
    rw [fault_eq]
    exact .none rfl rfl
  | stable | retryDenied | retryGranted =>
    rw [changed_iff]
    exact .none rfl rfl
  | retryIdle => exact .none rfl rfl
  | addressExpired live =>
    rw [changed_iff]
    refine .connectionFailed ?_ ?_ _ _ _ _ _
    · exact { hi with }
    · exact live.2
  | scanFinished r env => exact hi.scanFinished env r
  | stationFinished r env source h => exact hi.stationFinished h.faulted env r
  | linkReported h => exact hi.hear h.faulted _ _

theorem run_retrying (options : Options) (seed : UInt32) (as : List Atom) :
    Retrying (Machine.run atom (init options seed) as) :=
  effects_invariant (fun _ _ _ h => h.retrying)
    (.none rfl rfl) as

/-- The retry timer finds a pending retry no longer wanted, and nothing else is
waiting to be told to the listeners. -/
def Silences (c : Controller) : Atom → Prop
  | .reconnect _ => c.reconnect_ ≠ ⊤ ∧ c.state_.retry.pending = true ∧ c.autoConnect_ = false ∧
      c.pendingChanges_.station = false
  | _ => False

instance : ∀ a, Decidable (Silences c a)
  | .reconnect _ => inferInstanceAs (Decidable (_ ∧ _))
  | .call .. | .work _ | .timer _ | .operationFinished .. | .linkChanged .. | .enabledChanged _ | .take
  | .deliver .. => inferInstanceAs (Decidable False)

theorem retry_marks (hi : Retrying c) (running : c.running_ = true) (env : Env)
    (heard : c.state_.retry.pending = true → c.autoConnect_ = false →
      c.pendingChanges_.station = true) : Marks c (c.retry env) := by
  unfold retry
  extract_lets c₁
  split
  · rename_i idle
    have idle : c.faulted_ = true ∨ c.state_.desired ≠ .kConnected ∨ c.autoConnect_ = false := by
      have hr : c₁.running_ = true := running
      have h : c₁.faulted_ = true ∨ c₁.state_.desired ≠ .kConnected ∨ c₁.autoConnect_ = false := by
        simpa [hr, or_assoc] using idle
      exact h
    intro change
    refine ⟨id, ?_⟩
    cases change with
    | kStation =>
      by_cases pending : c.state_.retry.pending = true
      · obtain ⟨sound, wanted⟩ := hi.wanted running pending
        obtain h | h | h := idle
        · exact absurd (sound.symm.trans h) (by simp)
        · exact absurd wanted h
        · exact .inr (heard pending h)
      · have pending : c.state_.retry.pending = false := by simpa using pending
        refine .inl (sameView_station running running ?_)
        have same : c₁.state_.retry = c.state_.retry := by
          change { c.state_.retry with pending := false, nextAttempt := ⊤ } = c.state_.retry
          rw [← pending, ← hi.untimed pending]
        simp only [stationFields]
        rw [show c₁.state_ = { c.state_ with retry := c₁.state_.retry } from rfl, same]
        rfl
    | kScan | kProfiles => exact .inl rfl
  dsimp only
  split
  · split <;> exact marks_station running rfl rfl rfl
  · change Marks c (Controller.changed .kStation _)
    exact marks_station running rfl rfl rfl

/-- The timer that silences: the listeners are not told that the retry is gone. -/
theorem silences_unmarked {a : Atom} (running : c.running_ = true) (h : Silences c a) :
    ¬ (SameView c (atom c a) .kStation ∨
      (atom c a).pendingChanges_.has .kStation = true) := by
  cases a with
  | reconnect env =>
    obtain ⟨due, pending, automatic, unmarked⟩ := h
    have hd : atom c (.reconnect env) =
        { c with reconnect_ := ⊤ }.cancelRetry.record .retryFired := by
      simp only [atom, if_pos due]
      unfold retry
      rw [if_pos (by simp [cancelRetry, record, automatic])]
    rw [hd]
    intro h
    obtain same | marked := h
    · have hr : false = c.state_.retry.pending := by
        simpa [SameView, stationView, state, cancelRetry, record, running] using
          congrArg (·.retry.pending) same
      exact absurd (hr.trans pending) (by simp)
    · exact absurd (unmarked.symm.trans marked) (by simp)
  | _ => exact h.elim

theorem atom_marks {a : Atom} (hi : Retrying c) (running : c.running_ = true) (loud : ¬ Silences c a) :
    (∀ change, SameView c (atom c a) change ∨ (atom c a).pendingChanges_.has change = true) ∨
      (atom c a).closed_ = true := by
  cases a with
  | reconnect env =>
    refine .inl fun change => ?_
    by_cases due : c.reconnect_ = ⊤
    · have hd : atom c (.reconnect env) = c := if_neg (not_not.mpr due)
      rw [hd]
      exact .inl (.refl c change)
    · have hd : atom c (.reconnect env) = { c with reconnect_ := ⊤ }.retry env := if_pos due
      rw [hd]
      have heard : c.state_.retry.pending = true → c.autoConnect_ = false →
          c.pendingChanges_.station = true := by
        intro pending automatic
        by_contra h
        exact loud ⟨due, pending, automatic, by simpa using h⟩
      have marks := retry_marks (c := { c with reconnect_ := ⊤ }) { hi with } running env heard
      cases change with
      | kStation => exact (marks .kStation).2
      | kScan => exact (marks .kScan).2
      | kProfiles => exact (marks .kProfiles).2
  | take =>
    refine .inl fun change => .inl ?_
    simp only [atom]
    split
    · cases change with
      | kStation => exact sameView_station running running rfl
      | kScan | kProfiles => rfl
    · exact .refl c change
  | _ =>
    exact ((atom_effects c _).marks running (by simp) (by simp)).imp_left fun h change =>
      (h.1 change).2

/-! ## The notification task -/

/-- Whatever is marked, the notification task is scheduled for; no listener is
registered twice. -/
structure Announced (c : Controller) : Prop where
  scheduled : ∀ change, c.pendingChanges_.has change = true → c.notify_ = true
  distinct : c.listeners_.Nodup

namespace Announced

theorem changed (hi : Announced c) (change : Change) : Announced (c.changed change) where
  scheduled other h := by
    rw [changed_eq] at h ⊢
    cases running : c.running_ with
    | true => rfl
    | false =>
      rw [running, if_neg (by simp)] at h
      exact hi.scheduled other h
  distinct := by
    rw [changed_eq]
    exact hi.distinct

theorem newIntent (hi : Announced c) : Announced c.newIntent := by
  have hc := hi.changed .kStation
  rw [changed_eq] at hc
  rw [newIntent_eq]
  exact { hc with }

theorem connectionFailed (hi : Announced c) (now : Nat) (status : Status)
    (failure : ConnectionFailure) (code : Int) (hasCode : Bool) :
    Announced (c.connectionFailed now status failure code hasCode) := by
  obtain ⟨_, _, _, _, h, -⟩ := connectionFailed_cases now status failure code hasCode c
  rw [h]
  exact { hi with }

theorem scanFinished (hi : Announced c) (env : Env) (r : OperationResult) :
    Announced (c.scanFinished env r) := by
  obtain ⟨status, records, snapshot, h, -⟩ := scanFinished_cases env r c
  have hc := changed (c := { c with
    scanId_ := 0
    state_.scan := .kIdle
    state_.scanStatus := status
    records_ := records
    snapshot_ := snapshot }) { hi with } .kScan
  rw [h]
  exact { hc with }

theorem stationFinished (hi : Announced c) (env : Env) (r : OperationResult) :
    Announced (c.stationFinished env r) := by
  obtain ⟨_, _, _, _, _, x, hx, h⟩ := stationFinished_cases env r c
  have hx' : Announced x := by
    rw [hx]
    exact { hi with }
  rw [h]
  refine { changed (c := if c.Fails env r then _ else x) ?_ .kStation with }
  split
  · exact connectionFailed (c := x.record (.failed r.id)) { hx' with } _ _ _ _ _
  · exact hx'

theorem hear (hi : Announced c) (env : Env) (link : LinkState) : Announced (c.hear env link) := by
  by_cases ready : link.phase = .kAddressReady
  · obtain ⟨_, _, _, _, _, _, _, h, -⟩ := hear_ready env c ready
    rw [h]
    refine changed ?_ .kStation
    exact { hi with }
  by_cases idle : link.phase = .kIdle
  · rw [hear_idle env c idle]
    refine changed ?_ .kStation
    split
    · refine connectionFailed ?_ _ _ _ _ _
      exact { hi with }
    · exact { hi with }
  · rw [hear_unready env c ready idle]
    refine changed ?_ .kStation
    exact { hi with }

theorem fault (hi : Announced c) (status : Status) : Announced (c.fault status) := by
  rw [fault_eq]
  refine ⟨fun change h => ?_, hi.distinct⟩
  cases running : c.running_ with
  | true => rfl
  | false =>
    dsimp only at h
    rw [running, if_neg (by simp)] at h
    exact hi.scheduled change h

end Announced

theorem Effect.announced {a : Atom} {c d : Controller} (h : Effect a c d) (hi : Announced c) :
    Announced d := by
  cases h with
  | noted | scheduled | relaxed | repeated | aimed | timedOut | scanTimedOut | retryIdle =>
    exact { hi with }
  | listened listeners distinct => exact { hi with distinct := distinct hi.distinct }
  | begun =>
    refine .newIntent (.changed ?_ _)
    exact { hi with }
  | withdrawn =>
    refine .newIntent ?_
    exact { hi with }
  | requested config credentials profile automatic =>
    have hc := Announced.newIntent (c := { c with
      config_ := config
      credentials_ := credentials
      state_.desired := .kConnected
      state_.desiredProfile := profile
      autoConnect_ := automatic
      restoreProfile_ := false }) { hi with }
    exact { hc with }
  | shutdown opened =>
    rw [shutdown_eq opened]
    exact { scheduled := fun change h => (by cases change <;> cases h), distinct := hi.distinct }
  | scanQueued | scanDropped | scanCancelled | profiles | cancelled | issued | settled | unrestored
  | scanStarted | enabledReported | stable | retryDenied | retryGranted =>
    refine .changed ?_ _
    exact { hi with }
  | faulted status => exact hi.fault status
  | addressExpired =>
    refine .changed (.connectionFailed ?_ _ _ _ _ _) _
    exact { hi with }
  | scanFinished r env => exact hi.scanFinished env r
  | stationFinished r env => exact hi.stationFinished env r
  | linkReported => exact hi.hear _ _
  | taken => exact { scheduled := fun change h => (by cases change <;> cases h), distinct := hi.distinct }

theorem run_announced (options : Options) (seed : UInt32) (as : List Atom) :
    Announced (Machine.run atom (init options seed) as) :=
  effects_invariant (fun _ _ _ h => h.announced)
    { scheduled := fun change h => (by cases change <;> cases h), distinct := List.nodup_nil } as

/-- The callbacks among the calls of a step. -/
def deliveries (as : List Atom) : List (Nat × Change) :=
  as.filterMap fun | .deliver listener change => some (listener, change) | _ => none

theorem deliveries_append (as bs : List Atom) :
    deliveries (as ++ bs) = deliveries as ++ deliveries bs := List.filterMap_append

theorem deliveries_visit (react : Reaction) (listener : Nat) (change : Change) :
    deliveries (visit react listener change) = [(listener, change)] := by
  have none_of_calls : deliveries ((react listener change).map fun r => .call r.1 r.2) = [] := by
    simp [deliveries]
  exact congrArg ((listener, change) :: ·) none_of_calls

theorem callbacks_stopped {react : Reaction} {changes : Changes} (stopped : c.running_ = false)
    (vs : List (Nat × Change)) : callbacks react changes c vs = [] := by
  induction vs with
  | nil => rfl
  | cons v vs ih =>
    unfold callbacks
    rw [if_neg (by simp [stopped]), ih]

/-- Unless a callback shuts the controller down, every visit to a category that
was pending is made. -/
theorem deliveries_callbacks {react : Reaction} {changes : Changes} {vs : List (Nat × Change)}
    (lasts : (Machine.run atom c (callbacks react changes c vs)).running_ = true) :
    deliveries (callbacks react changes c vs) = vs.filter fun v => changes.has v.2 := by
  induction vs generalizing c with
  | nil => rfl
  | cons v vs ih =>
    obtain ⟨listener, change⟩ := v
    unfold callbacks at lasts ⊢
    split at lasts
    · rename_i h
      rw [if_pos h, deliveries_append, deliveries_visit]
      rw [Machine.run_append] at lasts
      rw [ih lasts, List.filter_cons, if_pos h.2]
      rfl
    · rename_i h
      rw [if_neg h, ih lasts, List.filter_cons]
      have running : c.running_ = true := by
        by_contra stopped
        rw [callbacks_stopped (by simpa using stopped)] at lasts
        exact stopped lasts
      rw [if_neg fun has => h ⟨running, has⟩]

/-- Calls and callbacks alone: no task runs inside a notification. -/
theorem callbacks_plain {react : Reaction} {changes : Changes} {vs : List (Nat × Change)} {a : Atom}
    (h : a ∈ callbacks react changes c vs) : a ≠ .take ∧ ∀ env, a ≠ .reconnect env := by
  induction vs generalizing c with
  | nil => cases h
  | cons v vs ih =>
    unfold callbacks at h
    split at h
    · obtain h | h := List.mem_append.mp h
      · obtain rfl | h := List.mem_cons.mp h
        · simp
        · obtain ⟨r, -, rfl⟩ := List.mem_map.mp h
          simp
      · exact ih h
    · exact ih h

theorem count_visits (listeners : List Nat) (listener : Nat) (change : Change) :
    (visits listeners).count (listener, change) = listeners.count listener := by
  induction listeners with
  | nil => rfl
  | cons l ls ih =>
    have hv : visits (l :: ls) = [Change.kStation, .kScan, .kProfiles].map (l, ·) ++ visits ls := rfl
    rw [hv, List.count_append, ih, List.count_cons, Nat.add_comm]
    by_cases h : l = listener
    · subst h
      cases change <;> simp
    · simp [h]

theorem count_told {listeners : List Nat} (distinct : listeners.Nodup) (changes : Changes)
    (listener : Nat) (change : Change) :
    ((visits listeners).filter fun v => changes.has v.2).count (listener, change) =
      if listener ∈ listeners ∧ changes.has change = true then 1 else 0 := by
  by_cases has : changes.has change = true
  · have told : ((visits listeners).filter fun v => changes.has v.2).count (listener, change) =
        (visits listeners).count (listener, change) := List.count_filter has
    rw [told, count_visits, distinct.count]
    simp [has]
  · rw [if_neg fun h => has h.2, List.count_eq_zero]
    intro mem
    exact has (List.mem_filter.mp mem).2

/-- Calls and callbacks mark what they change and take no mark away. -/
theorem run_marks {bs : List Atom} (running : c.running_ = true)
    (plain : ∀ a ∈ bs, a ≠ .take ∧ ∀ env, a ≠ .reconnect env) :
    Marks c (Machine.run atom c bs) ∧ (Machine.run atom c bs).running_ = true ∨
      (Machine.run atom c bs).closed_ = true := by
  induction bs generalizing c with
  | nil => exact .inl ⟨.refl c, running⟩
  | cons a bs ih =>
    obtain ⟨untaken, other⟩ := plain a List.mem_cons_self
    obtain ⟨marks, hr⟩ | closed := (atom_effects c a).marks running untaken other
    · refine (ih hr fun b hb => plain b (List.mem_cons_of_mem _ hb)).imp_left fun h => ?_
      exact ⟨marks.trans h.1, h.2⟩
    · exact .inr (run_closed closed bs)

/-- The calls of the notification task, after it took the marks. -/
theorem expand_notify {react : Reaction} {env : Env} (due : c.notify_ = true) :
    expand c { event := .notify react, env } = .take :: callbacks react c.pendingChanges_
      { c with notify_ := false, pendingChanges_ := {} } (visits c.listeners_) := if_pos due

/-- A notification that no shutdown cuts short. -/
theorem notify_told (hi : Announced c) {react : Reaction} (due : c.notify_ = true)
    (lasts : (step c { event := .notify react }).running_ = true) (listener : Nat)
    (change : Change) :
    (deliveries (expand c { event := .notify react })).count (listener, change) =
      if listener ∈ c.listeners_ ∧ c.pendingChanges_.has change = true then 1 else 0 := by
  have taken : atom c .take = { c with notify_ := false, pendingChanges_ := {} } := if_pos due
  rw [step_eq_run, expand_notify due, Machine.run_cons, taken] at lasts
  rw [expand_notify due]
  exact (congrArg (List.count (listener, change)) (deliveries_callbacks lasts)).trans
    (count_told hi.distinct c.pendingChanges_ listener change)

/-- A mark that is set while the listeners are told stays for a later run. -/
theorem notify_keeps (running : c.running_ = true) (stops : ∀ bs,
      (Machine.run atom c bs).closed_ = true → (Machine.run atom c bs).running_ = false)
    {react : Reaction} (due : c.notify_ = true)
    (lasts : (step c { event := .notify react }).running_ = true) {before after : List Atom}
    (split : expand c { event := .notify react } = .take :: (before ++ after)) {change : Change}
    (marked : (Machine.run atom c (.take :: before)).pendingChanges_.has change = true) :
    (step c { event := .notify react }).pendingChanges_.has change = true := by
  have plain : ∀ a ∈ before ++ after, a ≠ .take ∧ ∀ env, a ≠ .reconnect env := by
    intro a mem
    rw [← (List.cons.inj ((expand_notify due).symm.trans split)).2] at mem
    exact callbacks_plain mem
  have taken : (atom c .take).running_ = true := by
    simp only [atom, if_pos due]
    exact running
  have hd : step c { event := .notify react } =
      Machine.run atom (Machine.run atom (atom c .take) before) after := by
    rw [step_eq_run, split, Machine.run_cons, Machine.run_append]
  have ended : (Machine.run atom (Machine.run atom (atom c .take) before) after).closed_ ≠ true := by
    intro closed
    rw [← hd, step_eq_run] at closed
    rw [step_eq_run] at lasts
    exact absurd (lasts.symm.trans (stops _ closed)) (by simp)
  obtain ⟨-, hr⟩ | closed := run_marks taken fun a h => plain a (List.mem_append_left after h)
  · obtain ⟨marks, -⟩ | closed := run_marks hr fun a h => plain a (List.mem_append_right before h)
    · rw [hd]
      exact (marks change).1 marked
    · exact absurd closed ended
  · exact absurd (run_closed closed after) ended

/-- **No lost invalidation.** While the controller runs, a call marks what it
changes exactly when it is not the retry timer that silences; whatever is
marked is scheduled for notification; and a notification that no shutdown cuts
short visits every listener once for each mark it took and loses no mark that a
callback sets. -/
theorem no_lost_invalidation (options : Options) (seed : UInt32) (as : List Atom)
    (running : (Machine.run atom (init options seed) as).running_ = true) :
    let c := Machine.run atom (init options seed) as
    (∀ a, (atom c a).running_ = true →
      ((∀ change, SameView c (atom c a) change ∨
        (atom c a).pendingChanges_.has change = true) ↔ ¬ Silences c a)) ∧
    (∀ change, c.pendingChanges_.has change = true → c.notify_ = true) ∧
    (∀ react, c.notify_ = true →
      let i : Input := { event := .notify react }
      (step c i).running_ = true →
        (∀ listener change, (deliveries (expand c i)).count (listener, change) =
          if listener ∈ c.listeners_ ∧ c.pendingChanges_.has change = true then 1 else 0) ∧
        (∀ before after change, expand c i = .take :: (before ++ after) →
          (Machine.run atom c (.take :: before)).pendingChanges_.has change = true →
            (step c i).pendingChanges_.has change = true ∧ (step c i).notify_ = true)) := by
  intro c
  have announced : Announced c := run_announced options seed as
  have he : Exclusive (core false c) := atoms_exclusive options seed as
  refine ⟨fun a hr => ?_, announced.scheduled, fun react due => ?_⟩
  · constructor
    · intro marked silences
      exact silences_unmarked running silences (marked .kStation)
    · intro loud
      refine (atom_marks (run_retrying options seed as) running loud).resolve_right fun closed => ?_
      exact absurd ((atom_exclusive a he).closed closed) (by simp [core, hr])
  · intro i lasts
    have stops : ∀ bs, (Machine.run atom c bs).closed_ = true →
        (Machine.run atom c bs).running_ = false := by
      intro bs
      have hr : Exclusive (core false (Machine.run atom (init options seed) (as ++ bs))) :=
        atoms_exclusive options seed (as ++ bs)
      rw [Machine.run_append] at hr
      exact hr.closed
    have told : Announced (step c i) := by
      have hr : Announced (Machine.run atom (init options seed) (as ++ expand c i)) :=
        run_announced options seed _
      rw [Machine.run_append] at hr
      rw [step_eq_run]
      exact hr
    refine ⟨notify_told announced due lasts, fun before after change split marked => ?_⟩
    have kept := notify_keeps running stops due lasts split marked
    exact ⟨kept, told.scheduled change kept⟩

theorem no_lost_invalidation_test :
    let c := Machine.run atom (init {} 1) (.call (.addListener 7) .willing :: connected)
    (deliveries (expand c { event := .notify fun _ _ => [] })).count (7, .kStation) = 1 :=
  (((no_lost_invalidation {} 1 (.call (.addListener 7) .willing :: connected) (by decide)).2.2
    (fun _ _ => []) (by decide) (by decide)).1 7 .kStation).trans (by decide)

/-- The store's answer once the network is no longer to be connected automatically. -/
def manual : Env where
  support := Env.willing.support
  loadProfile _ ssid :=
    (.kOk, { settings := { connection := { ssid, security := .kOpen }, autoConnect := false } })
  loadCredentials _ := (.kOk, {})

/-- While the station disconnects for another network, the address of the old
link does not come; once the link is gone the same network is asked for again,
no longer automatically, and the listeners are told. -/
def dropped : List Atom :=
  connected ++ [.call (.connectSaved (openNetwork 66).ssid) .willing,
    .linkChanged { connectionId := 2, phase := .kAssociated } .willing, .work .willing,
    .timer (later 3000000), .linkChanged { connectionId := 2 } (later 3100000),
    .operationFinished { id := 3, kind := .kDisconnect } (later 3100000),
    .call (.connectSaved (openNetwork 66).ssid) manual, .take]

/-- The retry timer then drops the pending retry, and no listener is told. -/
theorem dropped_retry_untold : ¬ ∀ options seed as a,
    let c := Machine.run atom (init options seed) as
    c.running_ = true → (atom c a).running_ = true →
      ∀ change, SameView c (atom c a) change ∨ (atom c a).pendingChanges_.has change = true := by
  intro h
  have told := h { connectTimeoutMs := 3000 } 1 dropped (.reconnect .willing) (by decide) (by decide)
  exact silences_unmarked (by decide) (by decide) (told .kStation)

end RooWifi.Controller
