import RooWifi.Controller.Refinement
import RooWifi.Lib.Audit

/-! # One native operation at a time

`ledger` is an observer's account of the trace: what is outstanding at the
interface, which cancellations were spent on it and whether the controller has
stopped. `Disciplined` says that every command met a ledger that allows it. -/
namespace RooWifi.Controller

/-- What an observer of the interface knows. -/
structure Ledger where
  outstanding : Option (Nat × OperationKind) := none
  lastId : Nat := 0
  connectCancelled : Bool := false
  scanCancelled : Bool := false
  stopped : Bool := false
deriving DecidableEq

namespace Ledger

/-- A command handed over: outstanding unless it is rejected at once. -/
def submit (id : Nat) (kind : OperationKind) (status : Status) (l : Ledger) : Ledger :=
  { l with
    outstanding := if status = .kOk then some (id, kind) else l.outstanding
    lastId := id
    connectCancelled := false
    scanCancelled := false }

def observe (l : Ledger) : Action → Ledger
  | .setEnabled id _ status => l.submit id .kEnable status
  | .connect id _ _ status => l.submit id .kConnect status
  | .disconnect id status => l.submit id .kDisconnect status
  | .startScan id _ status => l.submit id .kScan status
  | .cancelConnect _ => { l with connectCancelled := true }
  | .cancelScan status => { l with scanCancelled := l.scanCancelled || decide (status = .kOk) }
  | .delivered r =>
      { l with outstanding := if l.outstanding = some (r.id, r.kind) then none else l.outstanding }
  | .fault _ | .shutdown | .returned .shutdown .kOk => { l with stopped := true }
  | _ => l

/-- A new command: nothing is outstanding and its id is a new one, below 2^64. -/
def Admits (l : Ledger) (id : Nat) : Prop :=
  l.stopped = false ∧ l.outstanding = none ∧ l.lastId < id ∧ id < 2 ^ 64

/-- The commands the observer accepts in this situation. -/
def Allows (l : Ledger) : Action → Prop
  | .setEnabled id _ _ | .connect id _ _ _ | .disconnect id _ | .startScan id _ _ => l.Admits id
  | .cancelConnect _ => l.stopped = false ∧ l.connectCancelled = false ∧
      ∃ id, l.outstanding = some (id, .kConnect)
  | .cancelScan _ => l.stopped = false ∧ l.scanCancelled = false ∧
      ∃ id, l.outstanding = some (id, .kScan)
  | _ => True

end Ledger

/-- The audit of the commands handed to the interface. -/
def exclusion : Audit Action Ledger := ⟨{}, Ledger.observe, Ledger.Allows⟩

def ledger (t : List Action) : Ledger := exclusion.account t

/-- Every command was allowed when it was issued. -/
def Disciplined (t : List Action) : Prop := exclusion.Clean t

@[simp] theorem ledger_cons (a : Action) (t : List Action) :
    ledger (a :: t) = (ledger t).observe a := rfl

/-- The operation the controller takes to be outstanding. -/
def Core.outstanding (c : Core) : Option (Nat × OperationKind) :=
  if c.stationId ≠ 0 then some (c.stationId, c.transition.kind)
  else if c.scanId ≠ 0 then some (c.scanId, .kScan)
  else none

/-- The observer and the controller agree, and station and scan exclude each
other. -/
structure Exclusive (c : Core) : Prop where
  disciplined : Disciplined c.trace
  idPos : 1 ≤ c.nextId
  idBound : c.nextId < 2 ^ 64
  fresh : (ledger c.trace).lastId < c.nextId
  closed : c.closed = true → c.running = false
  unstarted : c.running = false → c.closed = false → c.faulted = false
  stopped : (ledger c.trace).stopped = true → c.faulted = true ∨ c.closed = true
  quiet : c.running = false ∨ c.faulted = true →
    c.stationId = 0 ∧ c.scanId = 0 ∧ c.scan = .kIdle
  free : c.transition = .kNone ↔ c.stationId = 0
  scanning : c.scanId ≠ 0 ↔ c.scan = .kRunning ∨ c.scan = .kCancelling
  exclusive : c.transition ≠ .kNone → c.scan = .kIdle
  account : c.faulted = false → c.closed = false →
    (ledger c.trace).outstanding = c.outstanding
  connectCancelled : c.transition = .kConnect →
    (ledger c.trace).connectCancelled = c.cancelling
  scanCancelled : c.scanId ≠ 0 →
    ((ledger c.trace).scanCancelled = true ↔ c.scan = .kCancelling)
  uncancelled : c.faulted = false → c.closed = false → c.transition ≠ .kConnect →
    c.cancelling = false

theorem Exclusive.fault {c : Core} (hi : Exclusive c) (status : Status)
    (running : c.running = true) : Exclusive (c.fault status) where
  disciplined := hi.disciplined.cons
  idPos := hi.idPos
  idBound := hi.idBound
  fresh := hi.fresh
  closed := hi.closed
  unstarted h := absurd running (by rw [show c.running = false from h]; simp)
  stopped _ := .inl rfl
  quiet _ := ⟨rfl, rfl, rfl⟩
  free := by simp [Core.fault]
  scanning := by simp [Core.fault]
  exclusive _ := rfl
  account h := absurd h (by simp [Core.fault])
  connectCancelled h := absurd h (by simp [Core.fault])
  scanCancelled h := absurd rfl h
  uncancelled h := absurd h (by simp [Core.fault])

/-- A running controller without a fault has not stopped. -/
theorem Exclusive.notStopped {c : Core} (hi : Exclusive c) (running : c.running = true)
    (sound : c.faulted = false) : c.closed = false ∧ (ledger c.trace).stopped = false := by
  have hc : c.closed = false := by
    cases h : c.closed with
    | false => rfl
    | true => rw [hi.closed h] at running; cases running
  refine ⟨hc, ?_⟩
  cases h : (ledger c.trace).stopped with
  | false => rfl
  | true =>
    obtain h | h := hi.stopped h
    · rw [sound] at h; cases h
    · rw [hc] at h; cases h

/-- A completion ends the transition that was running. -/
theorem Exclusive.busy {c : Core} (hi : Exclusive c) {r : OperationResult} (h : c.Completes r) :
    c.transition ≠ .kNone := fun hn => h.nonzero (h.id.trans (hi.free.mp hn))

/-- With the station free and no scan at the interface, a new id may be used. -/
theorem Exclusive.ready {c : Core} (hi : Exclusive c) (h : c.Admits) (free : c.transition = .kNone)
    (noScan : c.scan = .kIdle ∨ c.scan = .kQueued) :
    (ledger c.trace).Admits c.nextId ∧ c.stationId = 0 ∧ c.scanId = 0 ∧
      (c.nextId + 1) % 2 ^ 64 = c.nextId + 1 ∧ c.nextId + 1 < 2 ^ 64 := by
  obtain ⟨hopen, hstop⟩ := hi.notStopped h.running h.faulted
  have hstation : c.stationId = 0 := hi.free.mp free
  have hscan : c.scanId = 0 := by
    by_contra hne
    obtain h | h := hi.scanning.mp hne <;> obtain h' | h' := noScan <;> rw [h] at h' <;> cases h'
  have hbound := hi.idBound
  have hmax := h.hasId
  have hout : (ledger c.trace).outstanding = none := by
    rw [hi.account h.faulted hopen, Core.outstanding, if_neg (not_not.mpr hstation),
      if_neg (not_not.mpr hscan)]
  exact ⟨⟨hstop, hout, hi.fresh, by omega⟩, hstation, hscan, Nat.mod_eq_of_lt (by omega), by omega⟩

@[simp] theorem Ledger.observe_command (l : Ledger) (c : Core) (t : Transition) (status : Status) :
    l.observe (c.command t status) = l.submit c.nextId t.kind status := by
  cases t <;> rfl

@[simp] theorem Ledger.allows_command (l : Ledger) (c : Core) (t : Transition) (status : Status) :
    l.Allows (c.command t status) ↔ l.Admits c.nextId := by
  cases t <;> rfl

theorem Core.Due.notNone {t : Transition} {c : Core} (h : c.Due t) : t ≠ .kNone := by
  rintro rfl
  exact h.chosen

theorem Exclusive.issued {c : Core} (hi : Exclusive c) {t : Transition} (h : c.Due t) :
    Exclusive (c.issued t .kOk) := by
  obtain ⟨hadm, hstation, hscan, hmod, hle⟩ := hi.ready h.toAdmits h.free (.inl h.noScan)
  have hpos := hi.idPos
  have hopen := (hi.notStopped h.running h.faulted).1
  exact {
    disciplined := hi.disciplined.cons ((Ledger.allows_command _ _ _ _).mpr hadm)
    idPos := by simp only [Core.issued, hmod]; omega
    idBound := by simp only [Core.issued, hmod]; exact hle
    fresh := by
      simp only [Core.issued, ledger_cons, Ledger.observe_command, Ledger.submit, hmod]
      omega
    closed := hi.closed
    unstarted := hi.unstarted
    stopped := by simpa [Core.issued, ledger_cons, Ledger.submit] using hi.stopped
    quiet := by simp [Core.issued, h.running, h.faulted]
    free := by simp [Core.issued, h.notNone]; omega
    scanning := by simp [Core.issued, hscan, h.noScan]
    exclusive := fun _ => h.noScan
    account := by
      have hne : c.nextId ≠ 0 := by omega
      simp [Core.issued, ledger_cons, Ledger.submit, Core.outstanding, hne]
    connectCancelled := by
      intro _
      have hc := hi.uncancelled h.faulted hopen (by rw [h.free]; simp)
      simp [Core.issued, ledger_cons, Ledger.submit, hc]
    scanCancelled := by simp [Core.issued, hscan]
    uncancelled := fun hf hc _ => hi.uncancelled hf hc (by rw [h.free]; simp) }

/-- A refused command leaves nothing outstanding. -/
theorem Exclusive.refused {c : Core} (hi : Exclusive c) {t : Transition} (h : c.Due t)
    {status : Status} (notOk : status ≠ .kOk) : Exclusive (c.issued t status).retired := by
  obtain ⟨hadm, hstation, hscan, hmod, hle⟩ := hi.ready h.toAdmits h.free (.inl h.noScan)
  have hpos := hi.idPos
  exact {
    disciplined := hi.disciplined.cons ((Ledger.allows_command _ _ _ _).mpr hadm)
    idPos := by simp only [Core.issued, Core.retired, hmod]; omega
    idBound := by simp only [Core.issued, Core.retired, hmod]; exact hle
    fresh := by
      simp only [Core.issued, Core.retired, ledger_cons, Ledger.observe_command, Ledger.submit, hmod]
      omega
    closed := hi.closed
    unstarted := hi.unstarted
    stopped := by simpa [Core.issued, Core.retired, ledger_cons, Ledger.submit] using hi.stopped
    quiet := by simp [Core.issued, Core.retired, h.running, h.faulted]
    free := by simp [Core.retired]
    scanning := by simp [Core.issued, Core.retired, hscan, h.noScan]
    exclusive := fun _ => h.noScan
    account := by
      simp [Core.issued, Core.retired, ledger_cons, Ledger.submit, Core.outstanding, notOk, hscan,
        hadm.2.1]
    connectCancelled := by simp [Core.retired]
    scanCancelled := by simp [Core.issued, Core.retired, hscan]
    uncancelled := fun _ _ _ => rfl }

/-- The completion of the outstanding transition frees the station. -/
theorem Exclusive.retired {c : Core} (hi : Exclusive c) {r : OperationResult} (h : c.Completes r) :
    Exclusive (c.note (.delivered r)).retired := by
  have hid : c.stationId ≠ 0 := h.id ▸ h.nonzero
  have ht : c.transition ≠ .kNone := fun h => hid (hi.free.mp h)
  have hscan : c.scanId = 0 := by
    by_contra hne
    obtain h | h := hi.scanning.mp hne <;> rw [hi.exclusive ht] at h <;> cases h
  have hopen := (hi.notStopped h.running h.faulted).1
  have hout : (ledger c.trace).outstanding = some (r.id, r.kind) := by
    rw [hi.account h.faulted hopen, Core.outstanding, if_pos hid, h.id, h.kind]
  exact {
    disciplined := hi.disciplined.cons
    idPos := hi.idPos
    idBound := hi.idBound
    fresh := hi.fresh
    closed := hi.closed
    unstarted := hi.unstarted
    stopped := hi.stopped
    quiet := by simp [Core.retired, Core.note, h.running, h.faulted]
    free := by simp [Core.retired]
    scanning := hi.scanning
    exclusive := by simp [Core.retired]
    account := by
      simp [Core.retired, Core.note, ledger_cons, Ledger.observe, Core.outstanding, hout, hscan]
    connectCancelled := by simp [Core.retired]
    scanCancelled := hi.scanCancelled
    uncancelled := fun _ _ _ => rfl }

/-- The completion of the outstanding scan. -/
theorem Exclusive.scanRetired {c : Core} (hi : Exclusive c) {r : OperationResult}
    (h : c.CompletesScan r) : Exclusive (c.note (.delivered r)).scanRetired := by
  have hid : c.scanId ≠ 0 := h.id ▸ h.nonzero
  have hstation : c.stationId = 0 := by
    by_contra hne
    have hidle := hi.exclusive fun h => hne (hi.free.mp h)
    obtain h | h := hi.scanning.mp hid <;> rw [hidle] at h <;> cases h
  have hopen := (hi.notStopped h.running h.faulted).1
  have hout : (ledger c.trace).outstanding = some (r.id, r.kind) := by
    rw [hi.account h.faulted hopen, Core.outstanding, if_neg (not_not.mpr hstation), if_pos hid,
      h.id, h.kind]
  exact { hi with
    disciplined := hi.disciplined.cons
    quiet := fun _ => ⟨hstation, rfl, rfl⟩
    scanning := by simp [Core.scanRetired]
    exclusive := fun _ => rfl
    account := by
      simp [Core.scanRetired, Core.note, ledger_cons, Ledger.observe, Core.outstanding, hout,
        hstation]
    scanCancelled := by simp [Core.scanRetired] }

/-- Entries that record nothing but themselves leave the account as it was. -/
theorem Exclusive.noted {c : Core} (hi : Exclusive c) {a : Action} (h : c.Silent a) :
    Exclusive (c.note a) := by
  cases a with
  | begin | writeEnabled | writeLastProfile | saveProfile | removeProfile | notified =>
    exact { hi with disciplined := hi.disciplined.cons }
  | delivered r =>
    -- a completion that matches nothing the controller has outstanding
    have hne : c.faulted = false → c.closed = false →
        (ledger c.trace).outstanding ≠ some (r.id, r.kind) := by
      intro hf hc hout
      rw [hi.account hf hc, Core.outstanding] at hout
      have hr : c.running = true := by
        cases hr : c.running with
        | true => rfl
        | false =>
          obtain ⟨h1, h2, -⟩ := hi.quiet (.inl hr)
          simp [h1, h2] at hout
      split at hout
      · rename_i hid
        simp only [Option.some.injEq, Prod.mk.injEq] at hout
        exact h.1 ⟨hr, hf, hout.1 ▸ hid, hout.1.symm, hout.2.symm⟩
      · split at hout
        · rename_i hid
          simp only [Option.some.injEq, Prod.mk.injEq] at hout
          exact h.2 ⟨hr, hf, hout.1 ▸ hid, hout.1.symm, hout.2.symm⟩
        · cases hout
    exact { hi with
      disciplined := hi.disciplined.cons
      account := fun hf hc => by
        rw [show (c.note (.delivered r)).outstanding = c.outstanding from rfl,
          ← hi.account hf hc]
        exact if_neg (hne hf hc) }
  | returned call status =>
    cases call with
    | shutdown =>
      cases status with
      | kOk =>
        have hc : c.closed = true := h.resolve_left (by simp)
        exact { hi with
          disciplined := hi.disciplined.cons
          stopped := fun _ => .inr hc }
      | _ => exact { hi with disciplined := hi.disciplined.cons }
    | _ => exact { hi with disciplined := hi.disciplined.cons }
  | _ => exact h.elim

theorem Exclusive.shutdown {c : Core} (hi : Exclusive c) : Exclusive c.shutdown := by
  exact {
    disciplined := by
      simp only [Core.shutdown]
      split
      · exact hi.disciplined.cons
      · exact hi.disciplined
    idPos := hi.idPos
    idBound := hi.idBound
    fresh := by
      simp only [Core.shutdown]
      split <;> exact hi.fresh
    closed := fun _ => rfl
    unstarted := fun _ h => absurd h (by simp [Core.shutdown])
    stopped := fun _ => .inr rfl
    quiet := fun _ => ⟨rfl, rfl, rfl⟩
    free := by simp [Core.shutdown]
    scanning := by simp [Core.shutdown]
    exclusive := fun _ => rfl
    account := fun _ h => absurd h (by simp [Core.shutdown])
    connectCancelled := by simp [Core.shutdown]
    scanCancelled := by simp [Core.shutdown]
    uncancelled := fun _ h => absurd h (by simp [Core.shutdown]) }

/-- A connect at the interface, not yet cancelled. -/
theorem Exclusive.connecting {c : Core} (hi : Exclusive c) (running : c.running = true)
    (sound : c.faulted = false) (connecting : c.transition = .kConnect)
    (fresh : c.cancelling = false) (status : Status) :
    (ledger c.trace).Allows (.cancelConnect status) := by
  obtain ⟨hopen, hstop⟩ := hi.notStopped running sound
  have hid : c.stationId ≠ 0 := fun h => by
    rw [hi.free.mpr h] at connecting
    cases connecting
  refine ⟨hstop, (hi.connectCancelled connecting).trans fresh, c.stationId, ?_⟩
  rw [hi.account sound hopen, Core.outstanding, if_pos hid, connecting]
  rfl

/-- A scan at the interface, not yet cancelled. -/
theorem Exclusive.scanRunning {c : Core} (hi : Exclusive c) (running : c.running = true)
    (scanning : c.scan = .kRunning) (status : Status) :
    c.faulted = false ∧ c.scanId ≠ 0 ∧ (ledger c.trace).Allows (.cancelScan status) := by
  have sound : c.faulted = false := by
    cases h : c.faulted with
    | false => rfl
    | true => have := (hi.quiet (.inr h)).2.2; rw [scanning] at this; cases this
  obtain ⟨hopen, hstop⟩ := hi.notStopped running sound
  have hid : c.scanId ≠ 0 := hi.scanning.mpr (.inl scanning)
  have hstation : c.stationId = 0 := by
    by_contra hne
    have := hi.exclusive fun h => hne (hi.free.mp h)
    rw [scanning] at this
    cases this
  have hfresh : (ledger c.trace).scanCancelled = false := by
    cases h : (ledger c.trace).scanCancelled with
    | false => rfl
    | true => have := (hi.scanCancelled hid).mp h; rw [scanning] at this; cases this
  refine ⟨sound, hid, hstop, hfresh, c.scanId, ?_⟩
  rw [hi.account sound hopen, Core.outstanding, if_neg (not_not.mpr hstation), if_pos hid]

theorem Move.exclusive {A : Assumptions} {a b : Core} (h : Move A a b) (hi : Exclusive a) :
    Exclusive b := by
  cases h with
  | noted act h => exact hi.noted h
  | begun enabled fresh opened =>
    exact { hi with
      disciplined := hi.disciplined.cons.cons
      closed := fun h => absurd (opened.symm.trans h) (by simp)
      unstarted := fun h => absurd h (by simp [Core.newIntent])
      quiet := fun _ => hi.quiet (.inl fresh) }
  | shutdown opened => exact hi.shutdown
  | faulted status running sound notOk => exact hi.fault status running
  | setEnabled enabled h => exact { hi with disciplined := hi.disciplined.cons.cons }
  | withdrawn h => exact { hi with disciplined := hi.disciplined.cons.cons }
  | relaxed h offline ok => exact { hi with disciplined := hi.disciplined }
  | accepted call config credentials profile automatic h explicit enabled saved =>
    cases call <;> first
      | exact absurd explicit Bool.false_ne_true
      | exact { hi with disciplined := hi.disciplined.cons.cons.cons }
  | repeated call config credentials profile automatic h explicit connected saved target =>
    cases call <;> first
      | exact absurd explicit Bool.false_ne_true
      | exact { hi with disciplined := hi.disciplined.cons.cons }
  | scanQueued h enabled idle free settled =>
    exact { hi with
      disciplined := hi.disciplined.cons
      quiet := fun hq => absurd hq (by simp [Core.note, h.running, h.faulted])
      scanning := by simpa [Core.note, idle] using hi.scanning
      exclusive := fun h => absurd free h
      scanCancelled := fun h => absurd (hi.scanning.mp h) (by simp [idle]) }
  | scanDropped running queued =>
    exact { hi with
      disciplined := hi.disciplined
      quiet := fun hq => ⟨(hi.quiet hq).1, (hi.quiet hq).2.1, rfl⟩
      scanning := by simpa [queued] using hi.scanning
      exclusive := fun _ => rfl
      scanCancelled := fun h => absurd (hi.scanning.mp h) (by simp [queued]) }
  | scanCancelled running scanning =>
    obtain ⟨sound, hid, hall⟩ := hi.scanRunning running scanning .kOk
    exact { hi with
      disciplined := hi.disciplined.cons hall
      quiet := fun hq => absurd hq (by simp [Core.note, running, sound])
      scanning := by simp [Core.note, hid]
      exclusive := fun h => absurd (hi.exclusive h) (by simp [scanning])
      scanCancelled := fun _ => by simp [Core.note, ledger_cons, Ledger.observe] }
  | scanKept status running scanning notOk =>
    obtain ⟨-, -, hall⟩ := hi.scanRunning running scanning status
    exact { hi with
      disciplined := hi.disciplined.cons hall
      scanCancelled := by
        simpa [Core.note, ledger_cons, Ledger.observe, notOk] using hi.scanCancelled }
  | superseded running sound connecting fresh stale =>
    exact { hi with
      disciplined := hi.disciplined.cons (hi.connecting running sound connecting fresh .kOk)
      connectCancelled := fun _ => rfl
      uncancelled := fun _ _ h => absurd connecting h }
  | expired running sound outstanding connecting fresh =>
    exact { hi with
      disciplined := hi.disciplined.cons (hi.connecting running sound connecting fresh .kOk)
      connectCancelled := fun _ => rfl
      uncancelled := fun _ _ h => absurd connecting h }
  | stuck timedOut answer status running sound connecting fresh refused notOk =>
    -- the fault discards the connect, so its cancellation is not kept in step
    have hall : Disciplined (.cancelConnect answer :: a.trace) :=
      hi.disciplined.cons (hi.connecting running sound connecting fresh answer)
    have hf := hi.fault status running
    exact { hf with
      disciplined := hall.cons
      connectCancelled := by simp [Core.fault] }
  | dispatched due => exact { hi with disciplined := hi.disciplined }
  | rested h => exact { hi with disciplined := hi.disciplined }
  | aimed free => exact { hi with disciplined := hi.disciplined }
  | issued t h allowed => exact hi.issued h
  | refused t status h notOk quiet allowed =>
    have := hi.refused h notOk
    exact { this with disciplined := this.disciplined }
  | connectRefused status r level h failure =>
    have := hi.refused h failure.notOk
    exact { this with disciplined := this.disciplined.cons }
  | settled h free noScan noRetry idle initialized enabled noRestore offline =>
    exact { hi with disciplined := hi.disciplined }
  | restored config credentials profile automatic h pending enabled saved =>
    exact { hi with disciplined := hi.disciplined.cons.cons }
  | restoredSame config credentials profile automatic running pending connected =>
    exact { hi with disciplined := hi.disciplined.cons }
  | unrestored status running pending outcome => exact { hi with disciplined := hi.disciplined }
  | scanStarted size h free queued =>
    obtain ⟨hadm, hstation, hscan, hmod, hle⟩ := hi.ready h free (.inr queued)
    have hpos := hi.idPos
    exact { hi with
      disciplined := hi.disciplined.cons hadm
      idPos := by simp only [Core.note, hmod]; omega
      idBound := by simp only [Core.note, hmod]; exact hle
      fresh := by simp only [Core.note, ledger_cons, Ledger.observe, Ledger.submit, hmod]; omega
      quiet := fun hq => absurd hq (by simp [Core.note, h.running, h.faulted])
      scanning := by simp [Core.note]; omega
      exclusive := fun h => absurd free h
      account := by
        have hne : a.nextId ≠ 0 := by omega
        simp [Core.note, ledger_cons, Ledger.observe, Ledger.submit, Core.outstanding, hstation, hne]
      connectCancelled := fun h => absurd (free.symm.trans h) (by simp)
      scanCancelled := by simp [Core.note, ledger_cons, Ledger.observe, Ledger.submit] }
  | scanRefused size status h free queued notOk =>
    obtain ⟨hadm, hstation, hscan, hmod, hle⟩ := hi.ready h free (.inr queued)
    have hpos := hi.idPos
    exact { hi with
      disciplined := hi.disciplined.cons hadm
      idPos := by simp only [Core.note, hmod]; omega
      idBound := by simp only [Core.note, hmod]; exact hle
      fresh := by simp only [Core.note, ledger_cons, Ledger.observe, Ledger.submit, hmod]; omega
      quiet := fun _ => ⟨hstation, rfl, rfl⟩
      scanning := by simp [Core.note]
      exclusive := fun _ => rfl
      account := by
        simp [Core.note, ledger_cons, Ledger.observe, Ledger.submit, Core.outstanding, hstation, notOk,
          hadm.2.1]
      connectCancelled := fun h => absurd (free.symm.trans h) (by simp)
      scanCancelled := by simp [Core.note] }
  | scanFinished r h => exact hi.scanRetired h
  | enableFinished r written h allowed enabling ok =>
    have := hi.retired h
    split <;> exact { this with disciplined := this.disciplined }
  | staleFinished r h allowed other stale => exact hi.retired h
  | stationFinished r h allowed current other failed =>
    have := hi.retired h
    exact { this with disciplined := this.disciplined }
  | connectFinished r status h allowed current connecting source quiet =>
    have := hi.retired h
    exact { this with disciplined := this.disciplined }
  | connectFailed r status retry level saved h allowed current connecting failure persisted =>
    have := hi.retired h
    obtain rfl | ⟨profile, rfl⟩ := persisted
    · exact { this with disciplined := this.disciplined.cons }
    · exact { this with disciplined := this.disciplined.cons.cons }
  | retryIdle h => exact { hi with disciplined := hi.disciplined.cons }
  | retryDenied profile status automatic running denied =>
    exact { hi with disciplined := hi.disciplined.cons.cons }
  | retryGranted running sound wanted automatic saved =>
    exact { hi with disciplined := hi.disciplined.cons.cons }
  | stable running => exact { hi with disciplined := hi.disciplined }
  | addressExpired stable r level running sound allowed failure =>
    exact { hi with disciplined := hi.disciplined.cons }
  | enabledReported enabled running sound allowed => exact { hi with disciplined := hi.disciplined }
  | linkReady link h allowed ready plain => exact { hi with disciplined := hi.disciplined }
  | linkRecovered link h allowed recovers => exact { hi with disciplined := hi.disciplined }
  | linkPartial link deadline h allowed unready up armed =>
    exact { hi with disciplined := hi.disciplined }
  | linkIdle link h allowed idle kept => exact { hi with disciplined := hi.disciplined }
  | linkLost link status r level h allowed loses reason failure =>
    exact { hi with disciplined := hi.disciplined.cons }

theorem exclusive_init (options : Options) (seed : UInt32) :
    Exclusive (core false (init options seed)) where
  disciplined := Audit.clean_nil
  idPos := le_refl _
  idBound := by simp [core, init]
  fresh := Nat.zero_lt_one
  closed h := by cases h
  unstarted _ _ := rfl
  stopped h := by cases h
  quiet _ := ⟨rfl, rfl, rfl⟩
  free := by simp [core, init]
  scanning := by simp [core, init]
  exclusive _ := rfl
  account _ _ := rfl
  connectCancelled h := by cases h
  scanCancelled h := absurd rfl h
  uncancelled _ _ _ := rfl

theorem Exclusive.nextId_ne {c : Controller} (hi : Exclusive (core false c)) : c.nextId_ ≠ 0 :=
  Nat.one_le_iff_ne_zero.mp hi.idPos

theorem run_exclusive (options : Options) (seed : UInt32) (es : List Input) :
    Exclusive (core false (Machine.run step (init options seed) es)) :=
  Machine.run_invariant_of_path (P := fun _ _ => True) (f := core false) (M := Move .none)
    (fun c i _ hi => step_path hi.nextId_ne (permits_none c i)) (fun _ _ => Move.exclusive)
    (exclusive_init options seed) (Machine.along_of_forall (fun _ _ => trivial) _ es)

/-- **One native operation at a time.** Whatever the interface answers, reports
and completes, and in whatever order requests and tasks arrive, every command
is handed over with nothing outstanding, under a fresh id, and never after a
fault or shutdown; an operation is cancelled at most once. -/
theorem one_operation_at_a_time (options : Options) (seed : UInt32) (es : List Input) :
    Disciplined (Machine.run step (init options seed) es).trace :=
  (run_exclusive options seed es).disciplined

end RooWifi.Controller
