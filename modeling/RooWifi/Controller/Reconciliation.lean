import RooWifi.Controller.Contract

/-! # Reconciliation at rest

When the controller has nothing left to do and reports no error, the observed
radio is what the intent asks for. Four paths of the code give an intent up in
silence; the result holds for the runs that take none of them. -/
namespace RooWifi.Controller

namespace Core

/-- A successful connect has reported its own link with an address. -/
def ReportsLink (c : Core) (r : OperationResult) : Prop :=
  r.status = .kOk → c.transition = .kConnect → c.phase = .kAddressReady ∧ c.linkId = c.stationId

/-- A link that comes back after an address timeout counts as the attempt, of
whatever the intent has become. -/
def RecoversElse (c : Core) (link : LinkState) : Prop := c.Recovers link ∧ c.desired ≠ .kConnected

/-- A settled connection falls back to connecting: no deadline watches that. -/
def Regresses (c : Core) (link : LinkState) : Prop :=
  link.phase = .kConnecting ∧ c.transition = .kNone ∧ c.desired = .kConnected ∧
    c.attempted = c.revision ∧ c.status = .kOk

/-- An address deadline makes a retry wait while a transition is running. -/
def ExpiresBusy (c : Core) : Prop :=
  c.transition ≠ .kNone ∧ c.desired = .kConnected ∧ c.auto = true

instance (c : Core) (r : OperationResult) : Decidable (c.ReportsLink r) :=
  inferInstanceAs (Decidable (_ → _))

instance (c : Core) (link : LinkState) : Decidable (c.RecoversElse link) :=
  inferInstanceAs (Decidable ((_ ∧ _) ∧ _))

instance (c : Core) (link : LinkState) : Decidable (c.Regresses link) :=
  inferInstanceAs (Decidable (_ ∧ _))

instance (c : Core) : Decidable c.ExpiresBusy := inferInstanceAs (Decidable (_ ∧ _))

/-- The observed radio is what the intent asks for. -/
def Matches (c : Core) : Prop :=
  match c.desired with
  | .kDisabled => c.enabled = false ∧ c.phase = .kIdle
  | .kDisconnected => c.enabled = true ∧ c.phase = .kIdle
  | .kConnected => c.enabled = true ∧
      (c.phase = .kAddressReady ∨ (c.phase = .kAssociated ∧ c.addressDeadline ≠ ⊤))

theorem matches_idle {c : Core} (idle : c.phase = .kIdle)
    (enabled : c.enabled = decide (c.desired ≠ .kDisabled)) (offline : c.desired ≠ .kConnected) :
    c.Matches := by
  unfold Matches
  cases hd : c.desired with
  | kDisabled => exact ⟨enabled.trans (by simp [hd]), idle⟩
  | kDisconnected => exact ⟨enabled.trans (by simp [hd]), idle⟩
  | kConnected => exact absurd hd offline

theorem matches_connected {c : Core} (connected : c.desired = .kConnected)
    (enabled : c.enabled = true)
    (link : c.phase = .kAddressReady ∨ (c.phase = .kAssociated ∧ c.addressDeadline ≠ ⊤)) :
    c.Matches := by
  unfold Matches
  rw [connected]
  exact ⟨enabled, link⟩

/-- A link that is up was asked for. -/
theorem Matches.connected {c : Core} (h : c.Matches) (up : c.phase ≠ .kIdle) :
    c.desired = .kConnected ∧ c.enabled = true ∧
      (c.phase = .kAddressReady ∨ (c.phase = .kAssociated ∧ c.addressDeadline ≠ ⊤)) := by
  unfold Matches at h
  cases hd : c.desired with
  | kDisabled => rw [hd] at h; exact absurd h.2 up
  | kDisconnected => rw [hd] at h; exact absurd h.2 up
  | kConnected => rw [hd] at h; exact ⟨rfl, h⟩

/-- A link that is down was not. -/
theorem Matches.idle {c : Core} (h : c.Matches) (down : c.phase = .kIdle) :
    c.enabled = decide (c.desired ≠ .kDisabled) ∧ c.desired ≠ .kConnected := by
  unfold Matches at h
  cases hd : c.desired with
  | kDisabled => rw [hd] at h; simp [h.1]
  | kDisconnected => rw [hd] at h; simp [h.1]
  | kConnected => rw [hd, down] at h; simp at h

end Core

/-- An interface that keeps its contract for connects as well. -/
def lawfulConnect : Assumptions :=
  { lawful with completion := fun c r => c.Reports r ∧ c.ReportsLink r }

/-- None of the paths that give an intent up in silence is taken. -/
def persistent : Assumptions :=
  { lawfulConnect with
    reissue := fun desired => desired ≠ .kConnected
    linkReport := fun c link => c.LinksOnRequest link ∧ ¬ c.RecoversElse link ∧ ¬ c.Regresses link
    addressExpiry := fun c => ¬ c.ExpiresBusy }

theorem persistent_contract : persistent.Contract := ⟨id, And.left, And.left⟩

/-- A link that is up between transitions was up before. -/
theorem Core.LinksOnRequest.up {c : Core} {link : LinkState} (h : c.LinksOnRequest link)
    (up : link.phase ≠ .kIdle) (free : c.transition = .kNone) : c.phase ≠ .kIdle :=
  (h.resolve_left up).resolve_right fun hc => absurd (free.symm.trans hc) (by simp)

/-! ## The invariant -/

/-- What a running controller without a fault keeps. -/
structure Coherent (c : Core) : Prop where
  uninitialized : c.initialized = false → c.attempted ≠ c.revision ∨ c.status ≠ .kOk
  /-- An intent that was not attempted will be, or an error is reported. -/
  awaiting : c.dispatching = false → c.transition = .kNone →
    (c.initialized = false ∨ c.attempted ≠ c.revision) →
    c.work = true ∨ c.retry.pending = true ∨ c.scan ≠ .kIdle ∨ c.status ≠ .kOk
  pending : c.retry.pending = true →
    c.status ≠ .kOk ∧ c.transition = .kNone ∧ c.desired = .kConnected
  /-- An intent that was attempted without an error has been met. -/
  settled : c.initialized = true → c.transition = .kNone → c.attempted = c.revision →
    c.status = .kOk → c.Matches
  connecting : c.transition = .kConnect → c.active = c.revision → c.desired = .kConnected
  /-- Only a failed first enable is tried again. -/
  busy : c.transition ≠ .kNone → c.attempted = c.revision →
    c.transition = .kEnable ∧ c.active = c.revision ∧ c.desired ≠ .kConnected

structure Reconciling (c : Core) : Prop where
  attemptedLe : c.closed = false → c.attempted ≤ c.revision
  started : c.running = true → 1 ≤ c.revision
  coherent : c.running = true → c.faulted = false → Coherent c

namespace Coherent

variable {c x : Core} {t : Transition}

/-- A new intent was neither attempted nor chosen a transition for. -/
theorem newIntent (ha : x.attempted ≤ x.revision) (hv : x.active ≤ x.revision) :
    Coherent x.newIntent where
  uninitialized _ := .inl (by simp only [Core.newIntent]; omega)
  awaiting _ _ _ := .inl rfl
  pending h := by cases h
  settled _ _ h := by simp only [Core.newIntent] at h; omega
  connecting _ h := by simp only [Core.newIntent] at h; omega
  busy _ h := by simp only [Core.newIntent] at h; omega

theorem noted (hi : Coherent c) (a : Action) : Coherent (c.note a) := { hi with }

/-- The station is free and an error is reported. -/
theorem failed (free : x.transition = .kNone) (notOk : x.status ≠ .kOk)
    (pending : x.retry.pending = true → x.desired = .kConnected) : Coherent x where
  uninitialized _ := .inr notOk
  awaiting _ _ _ := .inr (.inr (.inr notOk))
  pending h := ⟨notOk, free, pending h⟩
  settled _ _ _ h := absurd h notOk
  connecting h := by rw [free] at h; cases h
  busy h := absurd free h

theorem issued (hi : Coherent c) (ho : Observed c) (h : c.Due t)
    (allowed : c.Again → c.desired ≠ .kConnected) (status : Status) :
    Coherent (c.issued t status) where
  uninitialized := hi.uninitialized
  awaiting _ ht := by
    obtain rfl : t = .kNone := ht
    exact h.chosen.elim
  pending hp := by
    have hn : (Core.counted t c.retry).pending = false := by simpa using h.noRetry
    exact absurd (hn.symm.trans hp) (by simp)
  settled _ ht := by
    obtain rfl : t = .kNone := ht
    exact h.chosen.elim
  connecting ht _ := by
    obtain rfl : t = .kConnect := ht
    exact h.chosen.2.2.2.2
  busy _ ha := by
    have hu : c.initialized = false := h.needed.resolve_right fun hn => hn ha
    refine ⟨?_, rfl, allowed ⟨hu, ha⟩⟩
    cases t with
    | kNone => exact h.chosen.elim
    | kEnable => rfl
    | kConnect => exact absurd (h.chosen.2.1.symm.trans hu) (by simp)
    | kDisconnect => exact absurd (ho.uninitialized hu).1 h.chosen

/-- The end of a transition, which schedules the work task. -/
theorem freed (hi : Coherent c) (busy : c.transition ≠ .kNone) (free : x.transition = .kNone)
    (work : x.work = true) (retry : x.retry = c.retry)
    (uninitialized : x.initialized = false → x.attempted ≠ x.revision ∨ x.status ≠ .kOk)
    (settled : x.attempted = x.revision → x.status = .kOk → x.Matches) : Coherent x where
  uninitialized := uninitialized
  awaiting _ _ _ := .inl work
  pending h := absurd (hi.pending (retry ▸ h)).2.1 busy
  settled _ _ := settled
  connecting h := by rw [free] at h; cases h
  busy h := absurd free h

/-- No retry waits any more; an error stays one. -/
theorem quieted (hi : Coherent c) {r : RetryState} {s : Status} (level : Nat) (auto : Bool)
    (trace : List Action) (hp : r.pending = false) (hs : s = c.status ∨ s ≠ .kOk) :
    Coherent { c with
      retry := r, retryLevel := level, auto := auto, status := s, trace := trace } := by
  have kept (h : c.status ≠ .kOk) : s ≠ .kOk := hs.elim (fun he => he ▸ h) id
  have back (h : s = .kOk) : c.status = .kOk := hs.elim (fun he => he ▸ h) fun hn => absurd h hn
  exact {
    uninitialized := fun hu => (hi.uninitialized hu).imp_right kept
    awaiting := fun hd ht hn => by
      obtain hw | hp | hs | hs := hi.awaiting hd ht hn
      · exact .inl hw
      · exact .inr (.inr (.inr (kept (hi.pending hp).1)))
      · exact .inr (.inr (.inl hs))
      · exact .inr (.inr (.inr (kept hs)))
    pending := fun h => absurd (hp.symm.trans h) (by simp)
    settled := fun hu ht ha hk => hi.settled hu ht ha (back hk)
    connecting := hi.connecting
    busy := hi.busy }

end Coherent

/-- The completion of an attempt for current intent. -/
theorem concluded_le {c : Core} (h : c.attempted ≤ c.revision) (status : Status) :
    (c.concluded status).attempted ≤ (c.concluded status).revision := by
  simp only [Core.concluded]
  split
  · exact h
  · exact le_refl _

theorem Reconciling.noted {c : Core} (hi : Reconciling c) (a : Action) : Reconciling (c.note a) :=
  ⟨hi.attemptedLe, hi.started, fun hr hf => (hi.coherent hr hf).noted a⟩

theorem Reconciling.newIntent {c x : Core} (hi : Reconciling c) (ho : Observed c)
    (opened : c.closed = false) (ha : x.attempted = c.attempted) (hv : x.active = c.active)
    (hr : x.revision = c.revision) : Reconciling x.newIntent := by
  have hle := hi.attemptedLe opened
  have hlv := ho.activeLe opened
  exact ⟨fun _ => by simp only [Core.newIntent]; omega, fun _ => Nat.succ_pos _,
    fun _ _ => .newIntent (by omega) (by omega)⟩

theorem Move.reconciling {a b : Core} (h : Move persistent a b) (he : Exclusive a) (ho : Observed a)
    (hi : Reconciling a) : Reconciling b := by
  have hle := hi.attemptedLe
  have hc := hi.coherent
  cases h with
  | noted act h => exact hi.noted act
  | begun enabled fresh opened => exact hi.newIntent ho opened rfl rfl rfl
  | shutdown opened =>
    exact ⟨fun h => absurd h (by simp [Core.shutdown]), fun h => absurd h Bool.false_ne_true,
      fun h => absurd h Bool.false_ne_true⟩
  | faulted status running sound notOk =>
    exact ⟨hle, hi.started, fun _ hf => by cases hf⟩
  | setEnabled enabled h | withdrawn h =>
    refine .noted ?_ _
    exact hi.newIntent ho (he.notStopped h.running h.faulted).1 rfl rfl rfl
  | accepted call config credentials profile automatic h explicit enabled saved =>
    refine .noted (.noted ?_ _) _
    exact hi.newIntent ho (he.notStopped h.running h.faulted).1 rfl rfl rfl
  | restored config credentials profile automatic h pending enabled saved =>
    refine .noted ?_ _
    exact hi.newIntent ho (he.notStopped h.running h.faulted).1 rfl rfl rfl
  | relaxed | repeated | superseded | expired | scanKept =>
    exact ⟨hle, hi.started, fun hr hf => { hc hr hf with }⟩
  | scanQueued | scanDropped | scanCancelled | scanRefused | scanFinished | restoredSame =>
    exact ⟨hle, hi.started, fun hr hf => { hc hr hf with awaiting := fun _ _ _ => .inl rfl }⟩
  | scanStarted size h free queued =>
    exact ⟨hle, hi.started, fun hr hf =>
      { hc hr hf with awaiting := fun _ _ _ => .inr (.inr (.inl (by simp [Core.note]))) }⟩
  | stuck timedOut answer status running sound connecting fresh refused notOk =>
    exact ⟨hle, hi.started, fun _ hf => by cases hf⟩
  | dispatched due =>
    exact ⟨hle, hi.started, fun hr hf => { hc hr hf with awaiting := fun h => by cases h }⟩
  | rested h =>
    refine ⟨hle, hi.started, fun hr hf => { hc hr hf with awaiting := fun _ ht hn => ?_ }⟩
    obtain h | h | h | h | h | h | h := h
    · exact absurd (hr.symm.trans h) (by simp)
    · exact absurd (hf.symm.trans h) (by simp)
    · exact absurd ht h
    · exact .inr (.inr (.inl h))
    · exact .inr (.inl h)
    · exact .inl h
    · exact hn.elim (fun hu => absurd (h.1.symm.trans hu) (by simp)) fun hne => absurd h.2 hne
  | aimed free =>
    exact ⟨hle, hi.started, fun hr hf =>
      { hc hr hf with
        connecting := fun ht => absurd (free.symm.trans ht) (by simp)
        busy := fun ht => absurd free ht }⟩
  | issued t h allowed =>
    exact ⟨hle, hi.started, fun hr hf => (hc hr hf).issued ho h allowed .kOk⟩
  | refused t status h notOk quiet allowed =>
    refine ⟨fun _ => le_refl _, hi.started, fun _ _ => .failed rfl notOk fun hp => ?_⟩
    exact absurd (h.noRetry.symm.trans ((Core.counted_pending t a.retry).symm.trans hp)) (by simp)
  | connectRefused status r level h failure =>
    refine ⟨fun _ => le_refl _, hi.started, fun _ _ => .failed rfl failure.notOk fun _ => ?_⟩
    exact h.chosen.2.2.2.2
  | settled h free noScan noRetry idle initialized enabled noRestore offline =>
    refine ⟨fun _ => le_refl _, hi.started, fun hr hf => { hc hr hf with
      uninitialized := fun hu => absurd (initialized.symm.trans hu) (by simp)
      awaiting := fun _ _ hn => ?_
      settled := fun _ _ _ _ => Core.matches_idle idle enabled offline
      busy := fun ht => absurd free ht }⟩
    exact absurd hn (by simp [initialized])
  | unrestored status running pending outcome =>
    have kept (h : a.status ≠ .kOk) : status ≠ .kOk := outcome.elim (fun he => he ▸ h) id
    exact ⟨hle, hi.started, fun hr hf => { hc hr hf with
      uninitialized := fun hu => ((hc hr hf).uninitialized hu).imp_right kept
      awaiting := fun _ _ _ => .inl rfl
      pending := fun hp => ((hc hr hf).pending hp).imp_left kept
      settled := fun hu ht ha hk => (hc hr hf).settled hu ht ha (by_contra fun hn => kept hn hk) }⟩
  | enableFinished r written h allowed enabling ok =>
    have idle : a.phase = .kIdle := by_contra fun hp => (ho.up hp).2 enabling
    split
    · rename_i current
      have hk := (allowed.1 (outcome_ok ok)).1 enabling
      refine ⟨fun h => concluded_le (hle h) _, hi.started, fun hr hf => ?_⟩
      refine (hc hr hf).freed (he.busy h) rfl rfl rfl (fun hu => by cases hu) fun ha hw => ?_
      have hA : a.attempted = a.revision := (if_pos hw).symm.trans ha
      exact Core.matches_idle idle (hk.trans (ho.enabling enabling current))
        ((hc hr hf).busy (he.busy h) hA).2.2
    · rename_i stale
      refine ⟨hle, hi.started, fun hr hf => (hc hr hf).freed (he.busy h) rfl rfl rfl
        (fun hu => by cases hu) fun ha _ => ?_⟩
      exact absurd ((hc hr hf).busy (he.busy h) ha).2.1 stale
  | staleFinished r h allowed other stale =>
    refine ⟨hle, hi.started, fun hr hf => (hc hr hf).freed (he.busy h) rfl rfl rfl
      (fun hu => (hc hr hf).uninitialized hu) fun ha _ => ?_⟩
    exact absurd ((hc hr hf).busy (he.busy h) ha).2.1 stale
  | stationFinished r h allowed current other failed =>
    refine ⟨fun h => concluded_le (hle h) _, hi.started, fun hr hf => ?_⟩
    by_cases ok : a.outcome r = .kOk
    · have hne : a.attempted ≠ a.revision := fun ha =>
        failed.elim (fun ht => ht ((hc hr hf).busy (he.busy h) ha).1) fun hn => hn ok
      have hA : ((a.note (.delivered r)).retired.concluded (a.outcome r)).attempted ≠ a.revision :=
        fun ha => hne ((if_pos ok).symm.trans ha)
      exact (hc hr hf).freed (he.busy h) rfl rfl rfl (fun _ => .inl hA) fun ha => absurd ha hA
    · exact .failed rfl ok fun hp => absurd ((hc hr hf).pending hp).2.1 (he.busy h)
  | connectFinished r status h allowed current connecting source quiet =>
    refine ⟨fun _ => le_refl _, hi.started, fun hr hf => ?_⟩
    refine (hc hr hf).freed (he.busy h) rfl rfl rfl (fun hu => ?_) fun _ hk => ?_
    · obtain ht | ht := (ho.uninitialized hu).2 <;> rw [connecting] at ht <;> cases ht
    · have ok : a.outcome r = .kOk := source.elim id fun hs => hs.symm.trans hk
      exact Core.matches_connected ((hc hr hf).connecting connecting current)
        (ho.connecting connecting) (.inl (allowed.2 (outcome_ok ok) connecting).1)
  | connectFailed r status retry level saved h allowed current connecting failure persisted =>
    refine ⟨fun _ => le_refl _, hi.started, fun hr hf => .failed rfl failure.notOk fun _ => ?_⟩
    exact (hc hr hf).connecting connecting current
  | retryIdle h asked =>
    exact ⟨hle, hi.started, fun hr hf => (hc hr hf).quieted _ _ _ rfl (.inl rfl)⟩
  | retryDenied profile status automatic running denied asked =>
    refine ⟨hle, hi.started, fun hr hf => (hc hr hf).quieted _ _ _ rfl ?_⟩
    split
    · exact .inr ‹_›
    · exact .inl rfl
  | retryGranted running sound wanted automatic saved asked =>
    have hpos := hi.started running
    have hne : 0 ≠ a.revision := by omega
    exact ⟨fun _ => Nat.zero_le _, hi.started, fun hr hf => { hc hr hf with
      uninitialized := fun _ => .inl hne
      awaiting := fun _ _ _ => .inl rfl
      pending := fun hp => by cases hp
      settled := fun _ _ ha => absurd ha hne
      busy := fun _ ha => absurd ha hne }⟩
  | stable running =>
    exact ⟨hle, hi.started, fun hr hf => (hc hr hf).quieted _ _ _ rfl (.inl rfl)⟩
  | addressExpired stable r level running sound allowed failure =>
    refine ⟨hle, hi.started, fun hr hf => { hc hr hf with
      uninitialized := fun _ => .inr failure.notOk
      awaiting := fun _ _ _ => .inr (.inr (.inr failure.notOk))
      pending := fun hp => ⟨failure.notOk, ?_⟩
      settled := fun _ _ _ hk => absurd hk failure.notOk }⟩
    obtain hold | ⟨ha, hd, -⟩ := failure.pending hp
    · cases stable with
      | true => cases hold
      | false => exact ((hc hr hf).pending hold).2
    · have hd : a.desired = .kConnected := by cases stable <;> exact hd
      have ha : a.auto = true := by cases stable <;> exact ha
      exact ⟨by_contra fun ht => allowed ⟨ht, hd, ha⟩, hd⟩
  | enabledReported enabled running sound allowed =>
    refine ⟨hle, hi.started, fun hr hf => { hc hr hf with settled := fun hu ht ha hk => ?_ }⟩
    obtain rfl : enabled = a.enabled := Or.resolve_left allowed fun he =>
      absurd ((show a.transition = .kNone from ht).symm.trans he) (by simp)
    exact (hc hr hf).settled hu ht ha hk
  | linkReady link h allowed ready plain =>
    refine ⟨hle, hi.started, fun hr hf => { hc hr hf with settled := fun hu ht ha hk => ?_ }⟩
    obtain ⟨hd, hen, -⟩ := ((hc hr hf).settled hu ht ha hk).connected
      (allowed.1.up (by simp [ready]) ht)
    exact Core.matches_connected hd hen (.inl ready)
  | linkRecovered link h allowed recovers =>
    have hd : a.desired = .kConnected := by_contra fun hd => allowed.2.1 ⟨recovers, hd⟩
    have hup := allowed.1.up (by simp [recovers.1]) recovers.2.1
    have hinit : a.initialized = true := by
      by_contra hu
      exact hup (ho.uninitialized (by simpa using hu)).1
    exact ⟨fun _ => le_refl _, hi.started, fun hr hf =>
      { uninitialized := fun hu => absurd (hinit.symm.trans hu) (by simp)
        awaiting := fun _ _ hn => by
          obtain hu | hn := hn
          · exact absurd (hinit.symm.trans hu) (by simp)
          · exact absurd rfl hn
        pending := fun hp => by cases hp
        settled := fun _ _ _ _ => Core.matches_connected hd (ho.up hup).1 (.inl recovers.1)
        connecting := (hc hr hf).connecting
        busy := fun ht => absurd recovers.2.1 ht }⟩
  | linkPartial link deadline h allowed unready up armed =>
    refine ⟨hle, hi.started, fun hr hf => { hc hr hf with settled := fun hu ht ha hk => ?_ }⟩
    obtain ⟨hd, hen, hlink⟩ := ((hc hr hf).settled hu ht ha hk).connected (allowed.1.up up ht)
    have hassoc : link.phase = .kAssociated := by
      cases hp : link.phase with
      | kIdle => exact absurd hp up
      | kConnecting => exact absurd ⟨hp, ht, hd, ha, hk⟩ allowed.2.2
      | kAssociated => rfl
      | kAddressReady => exact absurd hp unready
    refine Core.matches_connected hd hen (.inr ⟨hassoc, ?_⟩)
    have ht : a.transition = .kNone := ht
    obtain hready | ⟨hold, hdead⟩ := hlink
    · rw [if_pos ⟨hready, hassoc, ht⟩] at armed
      exact armed
    · rw [if_neg (by simp [hold])] at armed
      exact fun hx => hdead (armed.symm.trans hx)
  | linkIdle link h allowed idle kept =>
    refine ⟨hle, hi.started, fun hr hf => { hc hr hf with settled := fun hu ht ha hk => ?_ }⟩
    have hm := (hc hr hf).settled hu ht ha hk
    have hdown : a.phase = .kIdle := by_contra fun hp => kept ⟨idle, ht, hp, (hm.connected hp).1⟩
    obtain ⟨hen, hd⟩ := hm.idle hdown
    exact Core.matches_idle idle hen hd
  | linkLost link status r level h allowed loses reason failure =>
    exact ⟨hle, hi.started, fun hr hf => .failed loses.2.1 failure.notOk fun _ => loses.2.2.2⟩

/-! ## Runs -/

structure Reconciles (c : Core) : Prop where
  exclusive : Exclusive c
  observed : Observed c
  reconciling : Reconciling c

theorem reconciles_init (options : Options) (seed : UInt32) :
    Reconciles (core false (init options seed)) where
  exclusive := exclusive_init options seed
  observed := observed_init options seed
  reconciling := ⟨fun _ => le_refl _, fun h => absurd h Bool.false_ne_true,
    fun h => absurd h Bool.false_ne_true⟩

theorem run_reconciles {options : Options} {seed : UInt32} {es : List Input}
    (h : Machine.Along step (Permits persistent) (init options seed) es) :
    Reconciles (core false (Machine.run step (init options seed) es)) :=
  Machine.run_invariant_of_path (fun _ _ hp hi => step_path hi.exclusive.nextId_ne hp)
    (fun _ _ hm hi => ⟨hm.exclusive hi.exclusive,
      hm.observed persistent_contract hi.exclusive hi.observed,
      hm.reconciling hi.exclusive hi.observed hi.reconciling⟩) (reconciles_init options seed) h

/-- Nothing is scheduled, outstanding or pending, and no error is reported. -/
def AtRest (c : Controller) : Prop :=
  c.running_ = true ∧ c.faulted_ = false ∧ c.work_ = false ∧ c.stationId_ = 0 ∧
    c.state_.scan = .kIdle ∧ c.state_.retry.pending = false ∧ c.state_.status = .kOk

instance (c : Controller) : Decidable (AtRest c) := inferInstanceAs (Decidable (_ ∧ _))

/-- **Reconciliation at rest**, in every run that takes none of the paths on
which an intent is given up in silence. -/
theorem reconciled_at_rest (options : Options) (seed : UInt32) (es : List Input)
    (h : Machine.Along step (Permits persistent) (init options seed) es)
    (rest : AtRest (Machine.run step (init options seed) es)) :
    (core false (Machine.run step (init options seed) es)).Matches := by
  obtain ⟨he, -, hi⟩ := run_reconciles h
  obtain ⟨running, sound, noWork, noStation, noScan, noRetry, ok⟩ := rest
  have hc := hi.coherent running sound
  have free := he.free.mpr noStation
  have hdone : ¬ ((core false (Machine.run step (init options seed) es)).initialized = false ∨
      (core false (Machine.run step (init options seed) es)).attempted ≠
        (core false (Machine.run step (init options seed) es)).revision) := fun hn => by
    obtain h | h | h | h := hc.awaiting rfl free hn
    · exact absurd (noWork.symm.trans h) (by simp)
    · exact absurd (noRetry.symm.trans h) (by simp)
    · exact h noScan
    · exact h ok
  obtain ⟨hu, ha⟩ := not_or.mp hdone
  exact hc.settled (by simpa using hu) free (not_not.mp ha) ok

instance : Decidable persistent.requests := inferInstanceAs (Decidable True)
instance : DecidablePred persistent.Listens := fun _ => .isTrue (.inl trivial)
instance : DecidablePred persistent.reissue := fun _ => inferInstanceAs (Decidable (_ ≠ _))
instance : DecidableRel persistent.completion := fun _ _ => inferInstanceAs (Decidable (_ ∧ _))
instance : DecidableRel persistent.linkReport := fun _ _ => inferInstanceAs (Decidable (_ ∧ _))
instance : DecidableRel persistent.enabledReport :=
  inferInstanceAs (DecidableRel Core.EnablesOnRequest)
instance : DecidablePred persistent.addressExpiry := fun _ => inferInstanceAs (Decidable ¬ _)

theorem reconciled_at_rest_test : (core false (Machine.run step (init {} 1)
    (startUp ++ connectUp 65 ++ [willing .work]))).Matches :=
  reconciled_at_rest {} 1 _ (by decide +kernel) (by decide +kernel)

instance : Decidable lawfulConnect.requests := inferInstanceAs (Decidable True)
instance : DecidablePred lawfulConnect.Listens := fun _ => .isTrue (.inl trivial)
instance : DecidablePred lawfulConnect.reissue := fun _ => inferInstanceAs (Decidable True)
instance : DecidableRel lawfulConnect.completion := fun _ _ => inferInstanceAs (Decidable (_ ∧ _))
instance : DecidableRel lawfulConnect.linkReport :=
  inferInstanceAs (DecidableRel Core.LinksOnRequest)
instance : DecidableRel lawfulConnect.enabledReport :=
  inferInstanceAs (DecidableRel Core.EnablesOnRequest)
instance : DecidablePred lawfulConnect.addressExpiry := fun _ => inferInstanceAs (Decidable True)

/-- A request made before the first enable, whose first attempt is refused and
whose second succeeds. -/
def droppedConnect : List Input :=
  [willing (.call .begin), willing (.call (.connectSaved (openNetwork 65).ssid)),
    { willing .work with env := { Env.willing with setEnabled := .kBusy } }, willing .work,
    willing (.enabledChanged true), willing (.operationFinished { id := 2, kind := .kEnable }),
    willing .work]

/-- The request is given up: the controller rests, enabled, with no link. -/
theorem connect_dropped : ¬ ∀ options seed es,
    Machine.Along step (Permits lawfulConnect) (init options seed) es →
      AtRest (Machine.run step (init options seed) es) →
        (core false (Machine.run step (init options seed) es)).Matches := by
  intro h
  have hm := h {} 1 droppedConnect (by decide +kernel) (by decide +kernel)
  have down : (core false (Machine.run step (init {} 1) droppedConnect)).phase = .kIdle := by
    decide +kernel
  have wanted : (core false (Machine.run step (init {} 1) droppedConnect)).desired =
      .kConnected := by
    decide +kernel
  exact (hm.idle down).2 wanted

end RooWifi.Controller
