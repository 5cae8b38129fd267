import RooWifi.Controller.Effects

/-! # Scans and what they publish

`ScanLife` is what the controller knows of the current scan and of the last one
it published. Every call is a path of its moves. -/
namespace RooWifi.Controller
open Relation (ReflTransGen)

structure ScanLife where
  phase : ScanPhase
  status : Status
  id : OperationId
  timedOut : Bool
  snapshot : ScanSnapshot
  records : List ScanRecord
  closed : Bool
  /-- The faults that ended it, newest first. -/
  faults : List Status

/-- The faults on a trace. -/
def faults (t : List Action) : List Status :=
  t.filterMap fun | .fault status => some status | _ => none

theorem mem_faults {t : List Action} {status : Status} : status ∈ faults t ↔ .fault status ∈ t := by
  simp only [faults, List.mem_filterMap]
  constructor
  · rintro ⟨act, mem, h⟩
    cases act <;> cases h
    exact mem
  · intro mem
    exact ⟨_, mem, rfl⟩

theorem faults_plain {act : Action} (plain : act.plain = true) (t : List Action) :
    faults (act :: t) = faults t := by
  cases act <;> first | rfl | cases plain

def scanLife (c : Controller) : ScanLife where
  phase := c.state_.scan
  status := c.state_.scanStatus
  id := c.scanId_
  timedOut := c.scanTimedOut_
  snapshot := c.snapshot_
  records := c.records_
  closed := c.closed_
  faults := faults c.trace

namespace ScanLife

/-- The scan is over and ended with `status`. -/
def ended (status : Status) (s : ScanLife) : ScanLife :=
  { s with phase := .kIdle, status := status, id := 0 }

/-- What a successful read leaves. -/
def publish (read : ScanReading) (s : ScanLife) : ScanLife :=
  { s.ended .kOk with
    records := overwrite s.records read.records
    snapshot :=
      { generation := s.snapshot.generation + 1
        count := read.count
        truncated := read.truncated } }

/-- Results are read only of a scan that was let run to its end. -/
def finish (r : OperationResult) (read : ScanReading) (s : ScanLife) : ScanLife :=
  if s.timedOut then s.ended .kTimeout
  else if s.phase = .kCancelling then s.ended .kCancelled
  else if r.status ≠ .kOk then s.ended r.status
  else if read.status ≠ .kOk then
    { s.ended read.status with records := overwrite s.records read.records }
  else if read.count ≤ s.records.length then s.publish read
  else { s.ended .kCorrupt with records := overwrite s.records read.records }

end ScanLife

/-- One move of the scan during call `a`. -/
inductive ScanMove (a : Atom) : ScanLife → ScanLife → Prop
  | queued {s} (env : Env) (call : a = .call .startScan env) (idle : s.phase = .kIdle) :
      ScanMove a s { s with phase := .kQueued, status := .kOk, timedOut := false }
  | dropped {s} (queued : s.phase = .kQueued) :
      ScanMove a s { s with phase := .kIdle, status := .kCancelled }
  | started {s} (id : OperationId) (queued : s.phase = .kQueued) :
      ScanMove a s { s with phase := .kRunning, id := id }
  | cancelled {s} (running : s.phase = .kRunning) : ScanMove a s { s with phase := .kCancelling }
  | expired {s} (outstanding : s.id ≠ 0) : ScanMove a s { s with timedOut := true }
  | finished {s} (r : OperationResult) (env : Env) (outstanding : s.id ≠ 0) (id : r.id = s.id)
      (kind : r.kind = .kScan) (source : r.status = .kOk → a = .operationFinished r env) :
      ScanMove a s (s.finish r env.readScanResults)
  | faulted {s} (status : Status) :
      ScanMove a s { s.ended (if s.phase = ScanPhase.kIdle then s.status else status) with
        faults := status :: s.faults }
  | shutdown {s} :
      ScanMove a s
        { s with phase := .kIdle, status := .kOk, id := 0, snapshot := {}, closed := true }

variable {c : Controller}

@[simp] theorem scanLife_changed (change : Change) : scanLife (c.changed change) = scanLife c := by
  rw [changed_eq]
  rfl

theorem scanLife_record {act : Action} (plain : act.plain = true) :
    scanLife (c.record act) = scanLife c := by
  simp only [scanLife, record, faults_plain plain]

theorem scanLife_scanFinished (env : Env) (r : OperationResult) :
    scanLife (c.scanFinished env r) = (scanLife c).finish r env.readScanResults := by
  unfold scanFinished ScanLife.finish
  simp only [changed_eq]
  by_cases late : c.scanTimedOut_ = true
  · simp [scanLife, ScanLife.ended, scheduleTimeouts, late]
  have timely : c.scanTimedOut_ = false := by simpa using late
  by_cases cancelling : c.state_.scan = .kCancelling
  · simp [scanLife, ScanLife.ended, scheduleTimeouts, timely, cancelling]
  by_cases failed : r.status ≠ .kOk
  · simp [scanLife, ScanLife.ended, scheduleTimeouts, timely, cancelling, failed]
  have ok : r.status = .kOk := not_not.mp failed
  by_cases unread : env.readScanResults.status ≠ .kOk
  · simp [scanLife, ScanLife.ended, scheduleTimeouts, timely, cancelling, ok, unread]
  have read : env.readScanResults.status = .kOk := not_not.mp unread
  by_cases fits : env.readScanResults.count ≤ c.records_.length
  · have hn : ¬ c.records_.length < env.readScanResults.count := not_lt.mpr fits
    simp [scanLife, ScanLife.ended, ScanLife.publish, scheduleTimeouts, timely, cancelling, ok, read,
      fits, hn]
  · have hn : c.records_.length < env.readScanResults.count := not_le.mp fits
    simp [scanLife, ScanLife.ended, scheduleTimeouts, timely, cancelling, ok, read, hn]

theorem scanLife_connectionFailed (now : Nat) (status : Status) (failure : ConnectionFailure)
    (code : Int) (hasCode : Bool) :
    scanLife (c.connectionFailed now status failure code hasCode) = scanLife c := by
  obtain ⟨_, _, _, _, h, -⟩ := connectionFailed_cases now status failure code hasCode c
  rw [h]
  rfl

theorem scanLife_stationFinished (env : Env) (r : OperationResult) :
    scanLife (c.stationFinished env r) = scanLife c := by
  obtain ⟨_, _, _, _, _, x, hx, h⟩ := stationFinished_cases env r c
  have hx' : scanLife x = scanLife c := by
    have hs : faults (c.stored env r ++ c.trace) = faults c.trace := by
      unfold stored
      split
      · rfl
      split <;> rfl
    simp only [hx, scanLife, hs]
  rw [h]
  refine (scanLife_changed (c := if c.Fails env r then _ else x) .kStation).trans ?_
  split
  · exact (scanLife_connectionFailed (c := x.record (.failed r.id)) _ _ _ _ _).trans hx'
  · exact hx'

theorem scanLife_hear (env : Env) (link : LinkState) : scanLife (c.hear env link) = scanLife c := by
  by_cases ready : link.phase = .kAddressReady
  · obtain ⟨_, _, _, _, _, _, _, h, -⟩ := hear_ready env c ready
    rw [h, scanLife_changed]
    rfl
  by_cases idle : link.phase = .kIdle
  · rw [hear_idle env c idle, scanLife_changed]
    split
    · rw [scanLife_connectionFailed]
      rfl
    · rfl
  · rw [hear_unready env c ready idle, scanLife_changed]
    rfl

/-- **An effect is at most one move of the scan.** -/
theorem Effect.scan {a : Atom} {c d : Controller} (h : Effect a c d) :
    scanLife d = scanLife c ∨ ScanMove a (scanLife c) (scanLife d) := by
  cases h with
  | noted act plain => exact .inl (scanLife_record plain)
  | scheduled | listened | relaxed | repeated | aimed | timedOut | taken | retryIdle =>
    exact .inl rfl
  | begun =>
    rw [newIntent_eq, changed_eq]
    exact .inl rfl
  | shutdown opened =>
    rw [shutdown_eq opened]
    cases c.running_ <;> exact .inr .shutdown
  | withdrawn | requested =>
    rw [newIntent_eq]
    exact .inl rfl
  | scanQueued live idle =>
    rw [scanLife_changed]
    exact .inr (.queued _ rfl idle)
  | scanDropped running queued =>
    rw [scanLife_changed]
    exact .inr (.dropped queued)
  | scanCancelled deadline running scanning =>
    rw [scanLife_changed]
    exact .inr (.cancelled scanning)
  | scanStarted deadline act plain free queued =>
    rw [scanLife_changed, scanLife_record plain]
    exact .inr (.started c.nextId_ queued)
  | issued t enabled attempts deadline act live free real noRetry aim command =>
    rw [scanLife_changed]
    split at command
    · obtain ⟨-, -, status, rfl⟩ := command
      exact .inl rfl
    · exact .inl (scanLife_record command)
  | scanTimedOut live outstanding => exact .inr (.expired outstanding)
  | profiles | cancelled | settled | unrestored | stable | retryDenied | retryGranted
  | enabledReported =>
    rw [scanLife_changed]
    exact .inl rfl
  | faulted status =>
    refine .inr ?_
    have hs : scanLife (c.fault status) =
        { (scanLife c).ended (if (scanLife c).phase = ScanPhase.kIdle then (scanLife c).status
            else status) with faults := status :: (scanLife c).faults } := by
      rw [fault_eq]
      by_cases idle : c.state_.scan = .kIdle <;>
        simp [scanLife, ScanLife.ended, isScanning, idle, faults]
    rw [hs]
    exact .faulted status
  | addressExpired =>
    rw [scanLife_changed, scanLife_connectionFailed]
    exact .inl rfl
  | scanFinished r env source h =>
    rw [scanLife_scanFinished]
    refine .inr (.finished r env (fun hz => h.nonzero (h.id.trans hz)) h.id h.kind fun ok => ?_)
    exact source.resolve_right fun refused => refused.2.1 ok
  | stationFinished r env =>
    rw [scanLife_stationFinished]
    exact .inl rfl
  | linkReported =>
    rw [scanLife_hear]
    exact .inl rfl

theorem Effects.scan {a : Atom} {c d : Controller} (h : Effects a c d) :
    ReflTransGen (ScanMove a) (scanLife c) (scanLife d) := by
  induction h with
  | refl => exact .refl
  | tail _ he ih =>
    obtain h | h := he.scan
    · rwa [h]
    · exact ih.tail h

theorem atom_scan (c : Controller) (a : Atom) :
    ReflTransGen (ScanMove a) (scanLife c) (scanLife (atom c a)) :=
  (atom_effects c a).scan

/-! ## What is published -/

/-- The published scan with its records. -/
def ScanLife.published (s : ScanLife) : ScanSnapshot × List ScanRecord :=
  (s.snapshot, s.records.take s.snapshot.count)

/-- The contract of reading results: a failed read leaves the buffer alone, a
successful one copies no more than fits. -/
def ScanReading.Copies (capacity : Nat) (read : ScanReading) : Prop :=
  (read.status ≠ .kOk → read.records = []) ∧ (read.status = .kOk → read.count ≤ capacity)

/-- The results that become available with a completion keep the contract. -/
def Copies (capacity : Nat) : Atom → Prop
  | .operationFinished _ env => env.readScanResults.Copies capacity
  | _ => True

@[simp] theorem overwrite_nil (buffer : List ScanRecord) : overwrite buffer [] = buffer := by
  simp [overwrite]

/-- A move publishes nothing unless it completes a scan; only the shutdown
takes back what is published. -/
theorem ScanMove.published {a : Atom} {s t : ScanLife} (h : ScanMove a s t)
    (other : ∀ r env, a ≠ .operationFinished r env) :
    t.closed = true ∨ t.published = s.published := by
  cases h with
  | shutdown => exact .inl rfl
  | finished r env outstanding id kind source =>
    have failed : r.status ≠ .kOk := fun ok => other r env (source ok)
    refine .inr ?_
    unfold ScanLife.finish
    split
    · rfl
    split <;> rfl
  | _ => exact .inr rfl

theorem ScanMove.closed {a : Atom} {s t : ScanLife} (h : ScanMove a s t) (hs : s.closed = true) :
    t.closed = true := by
  cases h with
  | finished r env =>
    unfold ScanLife.finish
    repeat' split
    all_goals exact hs
  | shutdown => rfl
  | _ => exact hs

theorem atom_published {a : Atom} (other : ∀ r env, a ≠ .operationFinished r env) :
    (atom c a).closed_ = true ∨ (scanLife (atom c a)).published = (scanLife c).published :=
  Machine.path_invariant (M := ScanMove a)
    (J := fun t => t.closed = true ∨ t.published = (scanLife c).published)
    (fun s t hm hs => by
      obtain hc | hp := hs
      · exact .inl (hm.closed hc)
      · exact (hm.published other).imp_right fun h => h.trans hp)
    (atom_scan c a) (.inr rfl)

/-- A finished scan publishes what was read of it, or nothing. -/
theorem ScanLife.finish_published {r : OperationResult} {read : ScanReading} {s : ScanLife}
    (copies : read.Copies s.records.length) :
    (s.finish r read).published = s.published ∨
      s.timedOut = false ∧ s.phase ≠ .kCancelling ∧ r.status = .kOk ∧
        read.count ≤ s.records.length ∧ s.finish r read = s.publish read := by
  unfold finish
  by_cases late : s.timedOut = true
  · rw [if_pos late]
    exact .inl rfl
  rw [if_neg late]
  by_cases cancelling : s.phase = .kCancelling
  · rw [if_pos cancelling]
    exact .inl rfl
  rw [if_neg cancelling]
  by_cases failed : r.status ≠ .kOk
  · rw [if_pos failed]
    exact .inl rfl
  rw [if_neg failed]
  by_cases unread : read.status ≠ .kOk
  · rw [if_pos unread, copies.1 unread, overwrite_nil]
    exact .inl rfl
  have fits := copies.2 (not_not.mp unread)
  rw [if_neg unread, if_pos fits]
  exact .inr ⟨by simpa using late, cancelling, not_not.mp failed, fits, rfl⟩

/-- Scans keep the size of the buffer. -/
theorem ScanMove.capacity {a : Atom} {s t : ScanLife} (h : ScanMove a s t) :
    t.records.length = s.records.length := by
  cases h with
  | finished r env =>
    unfold ScanLife.finish
    repeat' split
    all_goals simp [ScanLife.ended, ScanLife.publish]
  | _ => rfl

theorem run_capacity (options : Options) (seed : UInt32) (as : List Atom) :
    (Machine.run atom (init options seed) as).records_.length = options.maxScanResults.toNat :=
  Machine.run_invariant_all (I := fun c => c.records_.length = options.maxScanResults.toNat)
    (fun c a hi => Machine.path_invariant (M := ScanMove a)
      (J := fun s => s.records.length = options.maxScanResults.toNat)
      (fun _ _ hm hs => hm.capacity.trans hs) (atom_scan c a) hi)
    (by simp [init]) as

/-! ## The end of a scan -/

/-- The step ends a scan. -/
def returns (c : Controller) (a : Atom) : Nat :=
  if c.state_.scan ≠ .kIdle ∧ (atom c a).state_.scan = .kIdle then 1 else 0

/-- A scan is started in this step. -/
def Starts (c : Controller) (a : Atom) : Prop :=
  ∃ env, a = .call .startScan env ∧ (c.startScan env).1 = .kOk

theorem startScan_refused {env : Env} (h : (c.startScan env).1 ≠ .kOk) : (c.startScan env).2 = c := by
  unfold startScan at h ⊢
  split
  · rfl
  split
  · rfl
  split
  · rfl
  rename_i h₁ h₂ h₃
  rw [if_neg h₁, if_neg h₂, if_neg h₃] at h
  exact absurd rfl h

theorem startScan_accepted {env : Env} (h : (c.startScan env).1 = .kOk) :
    c.state_.scan = .kIdle ∧ (c.startScan env).2.state_.scan = .kQueued := by
  unfold startScan at h ⊢
  split at h
  · exact absurd h ‹_›
  rename_i h₁
  split at h
  · cases h
  rename_i h₂
  split at h
  · cases h
  rename_i h₃
  rw [if_neg h₁, if_neg h₂, if_neg h₃]
  refine ⟨?_, ?_⟩
  · simpa [isScanning] using (not_or.mp h₃).1
  · dsimp only
    rw [changed_eq]

/-- The scan stays over until another one is started. -/
structure ScanLife.Over (s : ScanLife) : Prop where
  phase : s.phase = .kIdle
  id : s.id = 0

theorem ScanMove.over {a : Atom} {s t : ScanLife} (h : ScanMove a s t)
    (other : ∀ env, a ≠ .call .startScan env) (hs : s.Over) :
    t.Over ∧ (t.closed = true ∨ t.status = s.status) := by
  cases h with
  | queued env call => exact absurd call (other env)
  | dropped queued | started id queued => exact absurd (hs.phase.symm.trans queued) (by simp)
  | cancelled running => exact absurd (hs.phase.symm.trans running) (by simp)
  | expired => exact ⟨{ hs with }, .inr rfl⟩
  | finished r env outstanding => exact absurd hs.id outstanding
  | faulted status =>
    refine ⟨⟨rfl, rfl⟩, .inr ?_⟩
    simp only [ScanLife.ended, hs.phase, if_true]
  | shutdown => exact ⟨⟨rfl, rfl⟩, .inl rfl⟩

/-- The scan is being cancelled, or it is over and was. -/
def ScanLife.Doomed (s : ScanLife) : Prop :=
  s.phase = .kCancelling ∨
    s.Over ∧ (s.status = .kCancelled ∨ s.status = .kTimeout ∨ s.status ∈ s.faults)

theorem ScanMove.faults {a : Atom} {s t : ScanLife} (h : ScanMove a s t) {status : Status}
    (hs : status ∈ s.faults) : status ∈ t.faults := by
  cases h with
  | finished r env =>
    unfold ScanLife.finish
    repeat' split
    all_goals exact hs
  | faulted => exact List.mem_cons_of_mem _ hs
  | _ => exact hs

theorem ScanMove.doomed {a : Atom} {s t : ScanLife} (h : ScanMove a s t)
    (other : ∀ env, a ≠ .call .startScan env) (hs : s.Doomed) : t.closed = true ∨ t.Doomed := by
  obtain cancelling | ⟨ended, hs⟩ := hs
  · cases h with
    | queued env call => exact absurd call (other env)
    | dropped phase | started id phase | cancelled phase =>
      exact absurd (cancelling.symm.trans phase) (by simp)
    | expired => exact .inr (.inl cancelling)
    | finished r env =>
      -- whatever the interface says, its answer is not looked at
      refine .inr (.inr ?_)
      unfold ScanLife.finish
      split
      · exact ⟨⟨rfl, rfl⟩, .inr (.inl rfl)⟩
      · exact ⟨⟨rfl, rfl⟩, .inl rfl⟩
    | faulted status =>
      refine .inr (.inr ⟨⟨rfl, rfl⟩, .inr (.inr ?_)⟩)
      rw [if_neg (by simp [cancelling])]
      exact List.mem_cons_self
    | shutdown => exact .inl rfl
  · obtain ⟨ended', closed | same⟩ := h.over other ended
    · exact .inl closed
    · refine .inr (.inr ⟨ended', ?_⟩)
      rw [same]
      exact hs.imp id (.imp id h.faults)

/-- What the moves other than a start preserve holds after every call that
starts no scan. -/
theorem atom_unstarted {J : ScanLife → Prop} {a : Atom}
    (hJ : (∀ env, a ≠ .call .startScan env) → ∀ s t, ScanMove a s t → J s → J t)
    (unstarted : ¬ Starts c a) (hs : J (scanLife c)) : J (scanLife (atom c a)) := by
  by_cases call : ∃ env, a = .call .startScan env
  · obtain ⟨env, rfl⟩ := call
    have same : atom c (.call .startScan env) =
        c.record (.returned .startScan (c.startScan env).1) := by
      have hc := startScan_refused fun ok => unstarted ⟨env, rfl, ok⟩
      exact congrArg (record _) hc
    rw [same, scanLife_record rfl]
    exact hs
  · exact Machine.path_invariant (hJ fun env h => call ⟨env, h⟩) (atom_scan c a) hs

theorem atom_over {a : Atom} (unstarted : ¬ Starts c a) (hs : (scanLife c).Over) :
    (scanLife (atom c a)).Over :=
  atom_unstarted (fun other _ _ hm h => (hm.over other h).1) unstarted hs

theorem atom_doomed {a : Atom} (unstarted : ¬ Starts c a)
    (hs : (scanLife c).closed = true ∨ (scanLife c).Doomed) :
    (scanLife (atom c a)).closed = true ∨ (scanLife (atom c a)).Doomed :=
  atom_unstarted (J := fun s => s.closed = true ∨ s.Doomed)
    (fun other _ _ hm h => h.elim (fun hc => .inl (hm.closed hc)) (hm.doomed other)) unstarted hs

/-- An idle scan has no operation. -/
theorem over_of_idle (he : Exclusive (core false c)) (idle : c.state_.scan = .kIdle) :
    (scanLife c).Over where
  phase := idle
  id := by
    by_contra h
    have hs : c.state_.scan = .kRunning ∨ c.state_.scan = .kCancelling := he.scanning.mp h
    rw [idle] at hs
    exact hs.elim (by simp) (by simp)

/-- A queued scan has none either. -/
theorem queued_id (he : Exclusive (core false c)) (queued : c.state_.scan = .kQueued) :
    c.scanId_ = 0 := by
  by_contra h
  have hs : c.state_.scan = .kRunning ∨ c.state_.scan = .kCancelling := he.scanning.mp h
  rw [queued] at hs
  exact hs.elim (by simp) (by simp)

theorem cancelScan_queued (env : Env) (now : Nat) (running : c.running_ = true)
    (queued : c.state_.scan = .kQueued) : (c.cancelScan env now).1 = .kOk ∧
      (c.cancelScan env now).2.state_.scan = .kIdle := by
  unfold cancelScan
  rw [if_neg (by simp [running]), if_neg (by simp [queued]), if_pos queued]
  dsimp only
  rw [changed_eq]
  exact ⟨rfl, rfl⟩

theorem cancelScan_accepted {env : Env} {now : Nat} (he : Exclusive (core false c))
    (scanning : c.state_.scan ≠ .kIdle) (h : (c.cancelScan env now).1 = .kOk) :
    (scanLife (c.cancelScan env now).2).Doomed := by
  unfold cancelScan at h ⊢
  split at h
  · cases h
  rename_i running
  rw [if_neg running]
  split at h
  · rename_i settled
    rw [if_pos settled]
    exact .inl (settled.resolve_left scanning)
  rename_i unsettled
  rw [if_neg unsettled]
  split at h
  · rename_i queued
    rw [if_pos queued]
    have hid := queued_id he queued
    refine .inr ?_
    dsimp only
    rw [changed_eq]
    exact ⟨⟨rfl, hid⟩, .inl rfl⟩
  rename_i started
  rw [if_neg started]
  dsimp only at h ⊢
  split at h
  · exact absurd h ‹_›
  · rename_i accepted
    rw [if_neg accepted, changed_eq]
    exact .inl rfl

/-- Station work drops a scan that is still queued. -/
theorem execute_drops {env : Env} (he : Exclusive (core false c)) (live : c.Live)
    (hasId : c.nextId_ ≠ OperationId.max) (free : c.transition_ = .kNone)
    (needed : c.initialized_ = false ∨ c.attemptedRevision_ ≠ c.state_.revision)
    (queued : c.state_.scan = .kQueued) :
    (scanLife (c.execute env)).closed = true ∨ (scanLife (c.execute env)).Doomed := by
  have needs : (!c.initialized_ || decide (c.attemptedRevision_ ≠ c.state_.revision)) = true := by
    simpa using needed
  have kept : c.supersede env = c := if_neg (by simp [free])
  have hd : c.execute env = c.executeIdle env := by
    unfold execute
    rw [if_neg (by simp [live.1, live.2]), if_neg hasId, kept]
    simp only [live.2, free, ne_eq, not_true_eq_false, Bool.false_eq_true, if_false]
  rw [hd]
  unfold executeIdle
  obtain ⟨accepted, dropped⟩ := cancelScan_queued env (env.now 1) live.1 queued
  obtain ⟨live', free'⟩ := cancelScan_frame env (env.now 1) live
  have doomed := cancelScan_accepted he (by simp [queued]) accepted
  dsimp only
  rw [if_pos ⟨needs, by simp [isScanning, queued]⟩, if_neg (not_not.mpr accepted),
    if_neg (by simp [isScanning, dropped, live'.2])]
  have rest : Effects (.work env) (c.cancelScan env (env.now 1)).2 _ :=
    executeStation_effects (!c.initialized_ || decide (c.attemptedRevision_ ≠ c.state_.revision))
      live' (free'.trans free)
  exact Machine.path_invariant (M := ScanMove (.work env))
    (J := fun s => s.closed = true ∨ s.Doomed)
    (fun _ _ hm h => h.elim (fun hc => .inl (hm.closed hc)) (hm.doomed (by simp))) rest.scan
    (.inr doomed)

/-! ## Runs -/

theorem run_over {bs : List Atom} (hs : (scanLife c).Over)
    (unstarted : Machine.Along atom (fun c a => ¬ Starts c a) c bs) :
    Machine.totalCost atom returns c bs = 0 ∧ (scanLife (Machine.run atom c bs)).Over := by
  induction bs generalizing c with
  | nil => exact ⟨rfl, hs⟩
  | cons a bs ih =>
    obtain ⟨hcost, hover⟩ := ih (atom_over unstarted.1 hs) unstarted.2
    refine ⟨?_, hover⟩
    have free : returns c a = 0 := if_neg fun h => h.1 hs.phase
    simp only [Machine.totalCost, free, hcost]

/-- A scan that was started ends at most once before the next start, and it has
ended as soon as the phase is idle. -/
theorem run_returns {bs : List Atom} (he : Exclusive (core false c))
    (scanning : c.state_.scan ≠ .kIdle)
    (unstarted : Machine.Along atom (fun c a => ¬ Starts c a) c bs) :
    Machine.totalCost atom returns c bs =
      if (Machine.run atom c bs).state_.scan = .kIdle then 1 else 0 := by
  induction bs generalizing c with
  | nil => simp [Machine.totalCost, scanning]
  | cons a bs ih =>
    change returns c a + Machine.totalCost atom returns (atom c a) bs =
      if (Machine.run atom (atom c a) bs).state_.scan = .kIdle then 1 else 0
    by_cases idle : (atom c a).state_.scan = .kIdle
    · obtain ⟨hcost, hover⟩ := run_over (over_of_idle (atom_exclusive a he) idle) unstarted.2
      have ended : returns c a = 1 := if_pos ⟨scanning, idle⟩
      have finished : (Machine.run atom (atom c a) bs).state_.scan = .kIdle := hover.phase
      rw [hcost, ended, if_pos finished]
    · have going : returns c a = 0 := if_neg fun h => idle h.2
      rw [going, ih (atom_exclusive a he) idle unstarted.2, Nat.zero_add]

theorem run_doomed {bs : List Atom} (hs : (scanLife c).closed = true ∨ (scanLife c).Doomed)
    (unstarted : Machine.Along atom (fun c a => ¬ Starts c a) c bs) :
    (scanLife (Machine.run atom c bs)).closed = true ∨ (scanLife (Machine.run atom c bs)).Doomed :=
  Machine.run_invariant (I := fun c => (scanLife c).closed = true ∨ (scanLife c).Doomed)
    (fun _ _ h hi => atom_doomed h hi) hs unstarted

/-- The cancellation of the scan is accepted in this step: a caller's, or that
of station work, which drops a queued scan; a running one is being cancelled
after it, as it is at its deadline. -/
def Cancels (c : Controller) (a : Atom) : Prop :=
  (atom c a).state_.scan = .kCancelling ∨
    (∃ env, a = .call .cancelScan env ∧ (c.cancelScan env (env.now 0)).1 = .kOk) ∨
    ((∃ env, a = .work env) ∧ c.work_ = true ∧ c.Live ∧ c.nextId_ ≠ OperationId.max ∧
      c.transition_ = .kNone ∧ (c.initialized_ = false ∨ c.attemptedRevision_ ≠ c.state_.revision) ∧
      c.state_.scan = .kQueued)

theorem cancels_dooms {a : Atom} (he : Exclusive (core false c)) (scanning : c.state_.scan ≠ .kIdle)
    (h : Cancels c a) :
    (scanLife (atom c a)).closed = true ∨ (scanLife (atom c a)).Doomed := by
  obtain cancelling | ⟨env, rfl, accepted⟩ | ⟨⟨env, rfl⟩, due, live, hasId, free, needed, queued⟩ := h
  · exact .inr (.inl cancelling)
  · have hd : scanLife (atom c (.call .cancelScan env)) =
        scanLife (c.cancelScan env (env.now 0)).2 := scanLife_record rfl
    rw [hd]
    exact .inr (cancelScan_accepted he scanning accepted)
  · have hd : atom c (.work env) = { c with work_ := false }.execute env := if_pos due
    rw [hd]
    exact execute_drops (c := { c with work_ := false }) { he with } live hasId free needed queued

/-- A completion publishes the results of a scan that was let run to its end. -/
theorem operationFinished_published (he : Exclusive (core false c)) {r : OperationResult} {env : Env}
    (copies : env.readScanResults.Copies c.records_.length) :
    let d := atom c (.operationFinished r env)
    (scanLife d).published = (scanLife c).published ∨
      (core false c).CompletesScan r ∧ r.status = .kOk ∧ c.state_.scan = .kRunning ∧
        (ledger c.trace).scanCancelled = false ∧ c.scanTimedOut_ = false ∧
        env.readScanResults.count ≤ c.records_.length ∧
        scanLife d = (scanLife c).publish env.readScanResults := by
  have delivered : scanLife (c.record (.delivered r)) = scanLife c := scanLife_record rfl
  simp only [atom]
  obtain ⟨completes, hd⟩ | ⟨-, hd⟩ | ⟨-, -, hd⟩ :=
    onOperationFinished_cases (d := false) (c := c.record (.delivered r)) env r
  · have completes : (core false c).CompletesScan r := { completes with }
    rw [hd, scanLife_scanFinished, delivered]
    obtain same | ⟨timely, uncancelled, ok, fits, hp⟩ :=
      ScanLife.finish_published (r := r) (s := scanLife c) copies
    · exact .inl same
    have hid : (core false c).scanId ≠ 0 := completes.id ▸ completes.nonzero
    refine .inr ⟨completes, ok, ?_, ?_, timely, fits, hp⟩
    · exact (he.scanning.mp hid).resolve_right uncancelled
    · exact Bool.eq_false_of_not_eq_true fun hc => uncancelled ((he.scanCancelled hid).mp hc)
  · rw [hd, scanLife_stationFinished, delivered]
    exact .inl rfl
  · rw [hd, delivered]
    exact .inl rfl

/-- **Scans and their results.** What is published changes only when the
outstanding scan completes with success, uncancelled and in time; between two
starts a scan ends once; and one whose cancellation was accepted ends as
cancelled, timed out or faulted, whatever the interface delivers. -/
theorem scan_publication (options : Options) (seed : UInt32) (as bs : List Atom) (a : Atom)
    (copies : Copies options.maxScanResults.toNat a) :
    let c := Machine.run atom (init options seed) as
    let d := atom c a
    let e := Machine.run atom d bs
    (d.closed_ = true ∨ (scanLife d).published = (scanLife c).published ∨
      ∃ r env, a = .operationFinished r env ∧ (core false c).CompletesScan r ∧ r.status = .kOk ∧
        c.state_.scan = .kRunning ∧ (ledger c.trace).scanCancelled = false ∧
        c.scanTimedOut_ = false ∧ d.state_.scan = .kIdle ∧ d.state_.scanStatus = .kOk ∧
        d.snapshot_.generation = c.snapshot_.generation + 1 ∧
        d.snapshot_.count ≤ options.maxScanResults.toNat) ∧
    (Starts c a → Machine.Along atom (fun c a => ¬ Starts c a) d bs → (∃ b, Starts e b) →
      Machine.totalCost atom returns d bs = 1) ∧
    (c.state_.scan ≠ .kIdle → Cancels c a →
      Machine.Along atom (fun c a => ¬ Starts c a) d bs → e.closed_ = false →
      e.state_.scan = .kIdle → e.state_.scanStatus = .kCancelled ∨
        e.state_.scanStatus = .kTimeout ∨ .fault e.state_.scanStatus ∈ e.trace) := by
  intro c d e
  have he : Exclusive (core false c) := atoms_exclusive options seed as
  have capacity : c.records_.length = options.maxScanResults.toNat := run_capacity options seed as
  refine ⟨?_, ?_, ?_⟩
  · by_cases other : ∀ r env, a ≠ .operationFinished r env
    · exact (atom_published other).imp id .inl
    simp only [ne_eq, not_forall, not_not] at other
    obtain ⟨r, env, rfl⟩ := other
    refine .inr ((operationFinished_published he (capacity ▸ copies)).imp_right ?_)
    intro ⟨completes, ok, running, uncancelled, timely, fits, hd⟩
    refine ⟨r, env, rfl, completes, ok, running, uncancelled, timely, ?_, ?_, ?_, ?_⟩
    · exact congrArg ScanLife.phase hd
    · exact congrArg ScanLife.status hd
    · exact congrArg (·.snapshot.generation) hd
    · exact (congrArg (·.snapshot.count) hd).trans_le (capacity ▸ fits)
  · rintro ⟨env, rfl, accepted⟩ unstarted ⟨b, env', rfl, next⟩
    have queued : d.state_.scan = .kQueued := (startScan_accepted accepted).2
    have idle : e.state_.scan = .kIdle := (startScan_accepted next).1
    have scanning : d.state_.scan ≠ .kIdle := by simp [queued]
    rw [run_returns (atom_exclusive _ he) scanning unstarted, if_pos idle]
  · intro scanning cancelled unstarted opened idle
    obtain closed | cancelling | ⟨-, hs⟩ :=
      run_doomed (cancels_dooms he scanning cancelled) unstarted
    · exact absurd (opened.symm.trans closed) (by simp)
    · exact absurd (idle.symm.trans cancelling) (by simp)
    · exact hs.imp id (.imp id mem_faults.mp)

/-- A scan on an idle link. -/
def scanned : List Atom := started ++ [.call .startScan .willing, .work .willing]

/-- A network was found. -/
def found : Atom :=
  .operationFinished { id := 2, kind := .kScan }
    { Env.willing with readScanResults := { count := 1, records := [{}] } }

theorem scan_publication_test :
    let c := Machine.run atom (init { maxScanResults := 2 } 1) scanned
    (atom c found).snapshot_.generation = c.snapshot_.generation + 1 ∧
      (atom c found).snapshot_.count ≤ 2 := by
  obtain closed | same | ⟨_, _, _, _, _, _, _, _, _, _, generation, count⟩ :=
    (scan_publication { maxScanResults := 2 } 1 scanned [] found ⟨by decide, by decide⟩).1
  · exact absurd closed (by decide)
  · exact absurd (congrArg (·.1.generation) same) (by decide)
  · exact ⟨generation, count⟩

end RooWifi.Controller
