import RooWifi.Controller.Exclusion

/-! # Failures stay with the intent that caused them

A failure may enter the retry state of connection intent only when it is the
failure of a connect made for that intent, and a retry may wait only once the
intent was attempted. Completions are guarded by the superseded test; the loss
of a link and the expiry of its address deadline are not, so the result holds
for the runs in which neither hits an intent it does not belong to. -/
namespace RooWifi.Controller

/-- Whose failures are the intent's own. -/
structure Blame where
  /-- The intent is a connection request. -/
  connecting : Bool := false
  /-- The connect commands issued since the intent was accepted. -/
  attempts : List Nat := []

def Blame.observe (b : Blame) : Action → Blame
  | .intent _ => { connecting := false, attempts := [] }
  | .requested .. => { b with connecting := true }
  | .connect id .. => { b with attempts := id :: b.attempts }
  | _ => b

/-- A failure recorded for connection intent is one of its own connects. -/
def Blame.Allows (b : Blame) : Action → Prop
  | .failed id => b.connecting = true → id ∈ b.attempts
  | _ => True

/-- The audit of the failures entered in the retry state. -/
def attribution : Audit Action Blame := ⟨{}, Blame.observe, Blame.Allows⟩

def blame (t : List Action) : Blame := attribution.account t

/-- Every recorded failure was the intent's own. -/
def Attributed (t : List Action) : Prop := attribution.Clean t

@[simp] theorem blame_cons (a : Action) (t : List Action) :
    blame (a :: t) = (blame t).observe a := rfl

/-- The lost link is not one of the intent's, or the intent was not attempted
and would wait to be retried. -/
def Core.StrayLoss (link : LinkState) (c : Core) : Prop :=
  c.Loses link ∧ (link.connectionId ∉ (blame c.trace).attempts ∨
    (c.attempted ≠ c.revision ∧ c.auto = true ∧
      (link.reason = .kOk ∨ link.reason = .kConnectionFailed ∨ link.reason = .kTimeout)))

/-- The same for a link whose address deadline expires. -/
def Core.StrayExpiry (c : Core) : Prop :=
  c.desired = .kConnected ∧ (c.linkId ∉ (blame c.trace).attempts ∨
    (c.attempted ≠ c.revision ∧ c.auto = true))

instance (link : LinkState) (c : Core) : Decidable (c.StrayLoss link) :=
  inferInstanceAs (Decidable (_ ∧ _))

instance (c : Core) : Decidable c.StrayExpiry := inferInstanceAs (Decidable (_ ∧ _))

/-- No loss or expiry hits an intent it does not belong to. -/
def noStray : Assumptions :=
  { Assumptions.none with
    linkReport := fun c link => ¬ c.StrayLoss link
    addressExpiry := fun c => ¬ c.StrayExpiry }

instance : Decidable noStray.requests := inferInstanceAs (Decidable True)
instance : DecidablePred noStray.Listens := fun _ => .isTrue (.inl trivial)
instance : DecidablePred noStray.reissue := fun _ => inferInstanceAs (Decidable True)
instance : DecidableRel noStray.completion := fun _ _ => inferInstanceAs (Decidable True)
instance : DecidableRel noStray.linkReport := fun _ _ => inferInstanceAs (Decidable ¬ _)
instance : DecidableRel noStray.enabledReport := fun _ _ => inferInstanceAs (Decidable True)
instance : DecidablePred noStray.addressExpiry := fun _ => inferInstanceAs (Decidable ¬ _)

structure OwnFailures (c : Core) : Prop where
  attributed : Attributed c.trace
  connecting : (blame c.trace).connecting = true → c.running = true → c.desired = .kConnected
  pending : c.retry.pending = true → c.attempted = c.revision
  clean : c.desired = .kConnected → (blame c.trace).attempts = [] →
    c.retry = {} ∧ c.retryLevel = 0
  activeLe : c.closed = false → c.active ≤ c.revision
  current : c.transition = .kConnect → c.active = c.revision →
    c.stationId ∈ (blame c.trace).attempts

/-- Every new intent starts with a clean retry state and no attempt. -/
theorem OwnFailures.newIntent {c x : Core} (hi : OwnFailures c) (opened : c.closed = false)
    (ha : x.active = c.active) (hr : x.revision = c.revision) (ht : Attributed x.trace) :
    OwnFailures x.newIntent := by
  have hle := hi.activeLe opened
  exact {
    attributed := ht.cons
    connecting := fun h => by cases h
    pending := fun h => by cases h
    clean := fun _ _ => ⟨rfl, rfl⟩
    activeLe := fun _ => by simp only [Core.newIntent]; omega
    current := fun _ h => by simp only [Core.newIntent] at h; omega }

theorem OwnFailures.requested {c : Core} (hi : OwnFailures c) (wanted : c.desired = .kConnected)
    (config : ConnectionConfig) (credentials : Credentials) (profile : Ssid) (automatic : Bool) :
    OwnFailures (c.note (.requested config credentials profile automatic)) :=
  { hi with
    attributed := hi.attributed.cons
    connecting := fun _ _ => wanted }

theorem OwnFailures.returned {c : Core} (hi : OwnFailures c) (call : Call) (status : Status) :
    OwnFailures (c.note (.returned call status)) :=
  { hi with attributed := hi.attributed.cons }

theorem OwnFailures.command {c : Core} (hi : OwnFailures c) {t : Transition} (h : c.Due t)
    (status : Status) : OwnFailures (c.issued t status) := by
  have hp : (Core.counted t c.retry).pending = false := by simpa using h.noRetry
  cases t with
  | kNone => exact h.chosen.elim
  | kConnect => exact {
      attributed := hi.attributed.cons
      connecting := hi.connecting
      pending := fun h => absurd (hp.symm.trans h) (by simp)
      clean := fun _ h => by cases h
      activeLe := fun _ => le_refl _
      current := fun _ _ => List.mem_cons_self }
  | _ => exact { hi with
      attributed := hi.attributed.cons
      activeLe := fun _ => le_refl _
      current := fun h => by cases h }

/-- The completion of a transition that counts as the attempt. -/
theorem OwnFailures.retired {c : Core} (hi : OwnFailures c) (r : OperationResult) :
    OwnFailures (c.note (.delivered r)).retired :=
  { hi with
    attributed := hi.attributed.cons
    current := fun h => by cases h }

theorem OwnFailures.concluded {c : Core} (hi : OwnFailures c) (status : Status) :
    OwnFailures (c.concluded status) :=
  { hi with
    attributed := hi.attributed
    pending := fun h => by
      simp only [Core.concluded]
      split
      · exact hi.pending h
      · rfl }

/-- Cancelling a retry keeps a clean state clean. -/
theorem OwnFailures.cancelRetry {c : Core} (hi : OwnFailures c) : OwnFailures c.cancelRetry :=
  { hi with
    attributed := hi.attributed
    pending := fun h => by cases h
    clean := fun hd h => ⟨by simp only [Core.cancelRetry, (hi.clean hd h).1], (hi.clean hd h).2⟩ }

theorem OwnFailures.fault {c : Core} (hi : OwnFailures c) (status : Status) :
    OwnFailures (c.fault status) :=
  { hi.cancelRetry with
    attributed := hi.attributed.cons
    current := fun h => by cases h }

theorem Move.ownFailures {a b : Core} (h : Move noStray a b) (he : Exclusive a)
    (hi : OwnFailures a) : OwnFailures b := by
  cases h with
  | noted act h =>
    cases act <;> first
      | exact { hi with attributed := hi.attributed.cons }
      | exact h.elim
  | begun enabled fresh opened => exact hi.newIntent opened rfl rfl hi.attributed.cons
  | shutdown opened =>
    exact {
      attributed := by
        simp only [Core.shutdown]
        split
        · exact hi.attributed.cons
        · exact hi.attributed
      connecting := fun _ h => by cases h
      pending := fun h => by cases h
      clean := fun h => by cases h
      activeLe := fun h => by cases h
      current := fun h => by cases h }
  | faulted status running sound notOk => exact hi.fault status
  | setEnabled enabled h =>
    refine OwnFailures.returned ?_ _ _
    exact hi.newIntent (he.notStopped h.running h.faulted).1 rfl rfl hi.attributed
  | withdrawn h =>
    refine OwnFailures.returned ?_ _ _
    exact hi.newIntent (he.notStopped h.running h.faulted).1 rfl rfl hi.attributed
  | relaxed h offline ok => exact { hi with attributed := hi.attributed }
  | accepted call config credentials profile automatic h explicit enabled saved =>
    refine OwnFailures.returned (OwnFailures.requested ?_ rfl _ _ _ _) _ _
    exact hi.newIntent (he.notStopped h.running h.faulted).1 rfl rfl hi.attributed
  | repeated call config credentials profile automatic h explicit connected saved target sameConfig
      sameCredentials =>
    exact { hi with
      attributed := hi.attributed.cons.cons
      connecting := fun _ _ => connected }
  | scanQueued h enabled idle free settled => exact { hi with attributed := hi.attributed.cons }
  | scanDropped running queued => exact { hi with attributed := hi.attributed }
  | scanCancelled running scanning => exact { hi with attributed := hi.attributed.cons }
  | scanKept status running scanning notOk => exact { hi with attributed := hi.attributed.cons }
  | superseded running sound connecting fresh stale =>
    exact { hi with attributed := hi.attributed.cons }
  | expired running sound outstanding connecting fresh =>
    exact { hi with attributed := hi.attributed.cons }
  | stuck timedOut answer status running sound connecting fresh refused notOk =>
    exact { hi.fault status with attributed := hi.attributed.cons.cons }
  | dispatched due => exact { hi with attributed := hi.attributed }
  | rested h => exact { hi with attributed := hi.attributed }
  | aimed free =>
    exact { hi with
      attributed := hi.attributed
      activeLe := fun _ => le_refl _
      current := fun h => absurd (free.symm.trans h) (by simp) }
  | issued t h allowed => exact hi.command h .kOk
  | refused t status h notOk quiet allowed =>
    exact { hi.command h status with
      attributed := (hi.command h status).attributed
      pending := fun _ => rfl
      current := fun h => by cases h }
  | connectRefused status r level h failure =>
    have hc := hi.command h status
    exact { hc with
      attributed := hc.attributed.cons fun _ => List.mem_cons_self
      pending := fun _ => rfl
      clean := fun _ h => by cases h
      current := fun h => by cases h }
  | settled h free noScan noRetry idle initialized enabled noRestore offline =>
    exact { hi with
      attributed := hi.attributed
      pending := fun _ => rfl }
  | restored config credentials profile automatic h pending enabled saved =>
    refine OwnFailures.requested ?_ rfl _ _ _ _
    exact hi.newIntent (he.notStopped h.running h.faulted).1 rfl rfl hi.attributed
  | restoredSame config credentials profile automatic running pending connected =>
    exact { hi with
      attributed := hi.attributed.cons
      connecting := fun _ _ => connected }
  | unrestored status running pending outcome => exact { hi with attributed := hi.attributed }
  | scanStarted size h free queued => exact { hi with attributed := hi.attributed.cons }
  | scanRefused size status h free queued notOk =>
    exact { hi with attributed := hi.attributed.cons }
  | scanFinished r h => exact { hi with attributed := hi.attributed.cons }
  | enableFinished r written h allowed enabling ok =>
    have hr := hi.retired r
    split
    · refine OwnFailures.concluded ?_ written
      exact { hr with attributed := hr.attributed }
    · exact { hr with attributed := hr.attributed }
  | staleFinished r h allowed other stale => exact hi.retired r
  | stationFinished r h allowed current other failed => exact (hi.retired r).concluded _
  | connectFinished r status h allowed current connecting source quiet =>
    have hr := hi.retired r
    exact { hr with
      attributed := hr.attributed
      pending := fun _ => rfl }
  | connectFailed r status retry level saved h allowed current connecting failure persisted =>
    -- the completion carries the id of the connect issued for this intent
    have hmem : r.id ∈ (blame a.trace).attempts := h.id ▸ hi.current connecting current
    have hne : (blame a.trace).attempts ≠ [] := List.ne_nil_of_mem hmem
    obtain rfl | ⟨profile, rfl⟩ := persisted
    · exact { hi.retired r with
        attributed := hi.attributed.cons.cons fun _ => hmem
        pending := fun _ => rfl
        clean := fun _ h => absurd h hne }
    · exact { hi.retired r with
        attributed := hi.attributed.cons.cons.cons fun _ => hmem
        pending := fun _ => rfl
        clean := fun _ h => absurd h hne }
  | retryIdle h => exact { hi.cancelRetry with attributed := hi.attributed.cons }
  | retryDenied profile status automatic running denied =>
    exact { hi.cancelRetry with attributed := hi.attributed.cons.cons }
  | retryGranted running sound wanted automatic saved =>
    exact { hi.cancelRetry with
      attributed := hi.attributed.cons.cons
      pending := fun h => by cases h }
  | stable running =>
    exact { hi with
      attributed := hi.attributed
      pending := fun h => by cases h
      clean := fun _ _ => ⟨rfl, rfl⟩ }
  | addressExpired stable r level running sound allowed failure =>
    have hown : a.desired = .kConnected → a.linkId ∈ (blame a.trace).attempts ∧
        (a.attempted ≠ a.revision → a.auto ≠ true) := fun hd =>
      ⟨by_contra fun hn => allowed ⟨hd, .inl hn⟩, fun hne ha => allowed ⟨hd, .inr ⟨hne, ha⟩⟩⟩
    exact { hi with
      attributed := hi.attributed.cons fun hb => (hown (hi.connecting hb running)).1
      pending := fun hp => by
        obtain hold | ⟨ha, hd, -⟩ := failure.pending hp
        · cases stable with
          | true => cases hold
          | false => exact hi.pending hold
        · cases stable <;> exact by_contra fun hne => (hown hd).2 hne ha
      clean := fun hd h => absurd h (List.ne_nil_of_mem (hown hd).1) }
  | enabledReported enabled running sound allowed => exact { hi with attributed := hi.attributed }
  | linkReady link h allowed ready plain => exact { hi with attributed := hi.attributed }
  | linkRecovered link h allowed recovers =>
    exact { hi.cancelRetry with
      attributed := hi.attributed
      pending := fun h => by cases h }
  | linkPartial link deadline h allowed unready up armed =>
    exact { hi with attributed := hi.attributed }
  | linkIdle link h allowed idle kept => exact { hi with attributed := hi.attributed }
  | linkLost link status r level h allowed loses reason failure =>
    have hmem : link.connectionId ∈ (blame a.trace).attempts :=
      by_contra fun hn => allowed ⟨loses, .inl hn⟩
    exact { hi with
      attributed := hi.attributed.cons fun _ => hmem
      pending := fun hp => by
        obtain hold | ⟨ha, -, hs⟩ := failure.pending hp
        · exact hi.pending hold
        · refine by_contra fun hne => allowed ⟨loses, .inr ⟨hne, ha, ?_⟩⟩
          rw [reason] at hs
          split at hs
          · exact .inl ‹_›
          · exact .inr hs
      clean := fun _ h => absurd h (List.ne_nil_of_mem hmem) }

theorem ownFailures_init (options : Options) (seed : UInt32) :
    OwnFailures (core false (init options seed)) where
  attributed := Audit.clean_nil
  connecting h := by cases h
  pending h := by cases h
  clean h := by cases h
  activeLe _ := le_refl _
  current h := by cases h

theorem run_ownFailures {options : Options} {seed : UInt32} {es : List Input}
    (h : Machine.Along step (Permits noStray) (init options seed) es) :
    let c := core false (Machine.run step (init options seed) es)
    Exclusive c ∧ OwnFailures c :=
  Machine.run_invariant_of_path (f := core false) (M := Move noStray)
    (J := fun c => Exclusive c ∧ OwnFailures c)
    (fun _ _ hp hi => step_path hi.1.nextId_ne hp)
    (fun _ _ hm hi => ⟨hm.exclusive hi.1, hm.ownFailures hi.1 hi.2⟩)
    ⟨exclusive_init options seed, ownFailures_init options seed⟩ h

/-- **Failures stay with their intent**, in every run in which no link loss and
no expired address deadline hits connection intent that has not attempted it. -/
theorem failures_stay_with_intent (options : Options) (seed : UInt32) (es : List Input)
    (h : Machine.Along step (Permits noStray) (init options seed) es) :
    let c := Machine.run step (init options seed) es
    (c.state_.retry.pending = true → c.attemptedRevision_ = c.state_.revision) ∧
      Attributed c.trace ∧
      (c.state_.desired = .kConnected → (blame c.trace).attempts = [] →
        c.state_.retry = {} ∧ c.retryLevel_ = 0) := by
  obtain ⟨-, hi⟩ := run_ownFailures h
  exact ⟨hi.pending, hi.attributed, hi.clean⟩

/-- The loss of the connected link while its own intent stands. -/
def ownLoss : List Input :=
  startUp ++ connectUp 65 ++ [willing (.linkChanged { connectionId := 2 })]

/-- The same loss just after a request for another network was accepted. -/
def strayLoss : List Input :=
  startUp ++ connectUp 65 ++ [willing (.call (.connectSaved (openNetwork 66).ssid)),
    willing (.linkChanged { connectionId := 2 })]

theorem failures_stay_with_intent_test :
    let c := Machine.run step (init {} 1) ownLoss
    c.state_.retry.pending = true → c.attemptedRevision_ = c.state_.revision :=
  (failures_stay_with_intent {} 1 ownLoss (by decide +kernel)).1

/-- The loss of network 65 makes the request for network 66 wait. -/
theorem stray_loss_backs_off : ¬ ∀ options seed es,
    let c := Machine.run step (init options seed) es
    c.state_.retry.pending = true → c.attemptedRevision_ = c.state_.revision := fun h =>
  absurd (h {} 1 strayLoss) (by decide +kernel)

end RooWifi.Controller
