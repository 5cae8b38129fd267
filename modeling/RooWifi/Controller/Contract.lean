import RooWifi.Controller.Exclusion

/-! # What the interface's contract gives

An interface keeps its contract when enablement changes only during an enable,
the link comes up only during a connect, and a successful completion was
preceded by the report of its effect. The link may go down at any time. -/
namespace RooWifi.Controller

namespace Core

/-- Enablement changes only during an outstanding enable command. -/
def EnablesOnRequest (c : Core) (enabled : Bool) : Prop :=
  c.transition = .kEnable ∨ enabled = c.enabled

/-- The link becomes non-idle only during an outstanding connect command. -/
def LinksOnRequest (c : Core) (link : LinkState) : Prop :=
  link.phase = .kIdle ∨ c.phase ≠ .kIdle ∨ c.transition = .kConnect

/-- A successful enable or disconnect has reported its effect. -/
def Reports (c : Core) (r : OperationResult) : Prop :=
  r.status = .kOk →
    (c.transition = .kEnable → c.enabled = c.transitionEnabled) ∧
    (c.transition = .kDisconnect → c.phase = .kIdle)

instance (c : Core) (enabled : Bool) : Decidable (c.EnablesOnRequest enabled) :=
  inferInstanceAs (Decidable (_ ∨ _))

instance (c : Core) (link : LinkState) : Decidable (c.LinksOnRequest link) :=
  inferInstanceAs (Decidable (_ ∨ _))

instance (c : Core) (r : OperationResult) : Decidable (c.Reports r) :=
  inferInstanceAs (Decidable (_ → _))

end Core

/-- An interface that keeps its contract. -/
def lawful : Assumptions :=
  { Assumptions.none with
    completion := Core.Reports
    linkReport := Core.LinksOnRequest
    enabledReport := Core.EnablesOnRequest }

instance : Decidable lawful.requests := inferInstanceAs (Decidable True)
instance : DecidablePred lawful.Listens := fun _ => .isTrue (.inl trivial)
instance : DecidablePred lawful.reissue := fun _ => inferInstanceAs (Decidable True)
instance : DecidableRel lawful.completion := inferInstanceAs (DecidableRel Core.Reports)
instance : DecidableRel lawful.linkReport := inferInstanceAs (DecidableRel Core.LinksOnRequest)
instance : DecidableRel lawful.enabledReport := inferInstanceAs (DecidableRel Core.EnablesOnRequest)
instance : DecidablePred lawful.addressExpiry := fun _ => inferInstanceAs (Decidable True)

/-- Assumptions that include the contract. -/
structure Assumptions.Contract (A : Assumptions) : Prop where
  enabledReport : ∀ {c enabled}, A.enabledReport c enabled → c.EnablesOnRequest enabled
  linkReport : ∀ {c link}, A.linkReport c link → c.LinksOnRequest link
  completion : ∀ {c r}, A.completion c r → c.Reports r

/-- The observed radio, under the contract. -/
structure Observed (c : Core) : Prop where
  /-- Before the first enable succeeds nothing but an enable is tried. -/
  uninitialized : c.initialized = false →
    c.phase = .kIdle ∧ (c.transition = .kNone ∨ c.transition = .kEnable)
  up : c.phase ≠ .kIdle → c.enabled = true ∧ c.transition ≠ .kEnable
  connecting : c.transition = .kConnect → c.enabled = true
  activeLe : c.closed = false → c.active ≤ c.revision
  /-- An enable for current intent asks for what the intent wants. -/
  enabling : c.transition = .kEnable → c.active = c.revision →
    c.transitionEnabled = decide (c.desired ≠ .kDisabled)

namespace Observed

variable {c x : Core} {t : Transition}

theorem noted (hi : Observed c) (a : Action) : Observed (c.note a) := { hi with }

/-- A new intent supersedes whatever transition is running. -/
theorem newIntent (hi : Observed c) (opened : c.closed = false)
    (radio : x.initialized = c.initialized ∧ x.phase = c.phase ∧ x.enabled = c.enabled)
    (ht : x.transition = c.transition) (ha : x.active = c.active) (hr : x.revision = c.revision) :
    Observed x.newIntent := by
  have hle := hi.activeLe opened
  obtain ⟨h1, h2, h3⟩ := radio
  exact {
    uninitialized := by simpa only [Core.newIntent, h1, h2, ht] using hi.uninitialized
    up := by simpa only [Core.newIntent, h2, h3, ht] using hi.up
    connecting := by simpa only [Core.newIntent, h3, ht] using hi.connecting
    activeLe := fun _ => by simp only [Core.newIntent]; omega
    enabling := fun _ h => by simp only [Core.newIntent] at h; omega }

theorem issued (hi : Observed c) (h : c.Due t) (status : Status) :
    Observed (c.issued t status) where
  uninitialized hu := by
    refine ⟨(hi.uninitialized hu).1, ?_⟩
    cases t with
    | kNone => exact .inl rfl
    | kEnable => exact .inr rfl
    | kConnect => exact absurd (h.chosen.2.1.symm.trans hu) (by simp)
    | kDisconnect => exact absurd (hi.uninitialized hu).1 h.chosen
  up hp := by
    refine ⟨(hi.up hp).1, ?_⟩
    rintro rfl
    exact hp h.chosen.1
  connecting ht := by
    obtain rfl : t = .kConnect := ht
    obtain ⟨-, -, he, -, hd⟩ := h.chosen
    exact he.trans (by simp [hd])
  activeLe _ := le_refl _
  enabling ht _ := by
    obtain rfl : t = .kEnable := ht
    rfl

/-- Freeing the station leaves the radio as it was observed. -/
theorem freed (hi : Observed c) (hx : x.transition = .kNone)
    (radio : x.initialized = c.initialized ∧ x.phase = c.phase ∧ x.enabled = c.enabled)
    (hle : x.closed = false → x.active ≤ x.revision) : Observed x where
  uninitialized hu := by
    rw [radio.1] at hu
    exact ⟨radio.2.1.trans (hi.uninitialized hu).1, .inl hx⟩
  up hp := by
    rw [radio.2.1] at hp
    exact ⟨radio.2.2.trans (hi.up hp).1, by simp [hx]⟩
  connecting h := by simp [hx] at h
  activeLe := hle
  enabling h := by simp [hx] at h

theorem retired (hi : Observed c) (r : OperationResult) : Observed (c.note (.delivered r)).retired :=
  hi.freed rfl ⟨rfl, rfl, rfl⟩ hi.activeLe

/-- A link report that keeps the contract. -/
theorem heard (hi : Observed c) {link : LinkState} (h : c.LinksOnRequest link) :
    Observed (c.heard link) where
  uninitialized hu := by
    obtain ⟨hp, ht⟩ := hi.uninitialized hu
    refine ⟨h.resolve_right ?_, ht⟩
    rintro (hp' | hc)
    · exact hp' hp
    · obtain ht | ht := ht <;> rw [hc] at ht <;> cases ht
  up hp := by
    obtain hc | hc := h.resolve_left hp
    · exact hi.up hc
    · exact ⟨hi.connecting hc, by simp [Core.heard, hc]⟩
  connecting := hi.connecting
  activeLe := hi.activeLe
  enabling := hi.enabling

end Observed

theorem outcome_ok {c : Core} {r : OperationResult} (h : c.outcome r = .kOk) : r.status = .kOk := by
  unfold Core.outcome at h
  split at h
  · cases h
  · exact h

variable {A : Assumptions}

theorem Move.observed {a b : Core} (h : Move A a b) (hA : A.Contract) (he : Exclusive a)
    (hi : Observed a) : Observed b := by
  cases h with
  | begun enabled fresh opened => exact hi.newIntent opened ⟨rfl, rfl, rfl⟩ rfl rfl rfl
  | shutdown opened =>
    exact {
      uninitialized := fun _ => ⟨rfl, .inl rfl⟩
      up := fun h => absurd rfl h
      connecting := fun h => by cases h
      activeLe := fun h => by cases h
      enabling := fun h => by cases h }
  | faulted status running sound notOk => exact hi.freed rfl ⟨rfl, rfl, rfl⟩ hi.activeLe
  | setEnabled enabled h | withdrawn h =>
    refine .noted ?_ _
    exact hi.newIntent (he.notStopped h.running h.faulted).1 ⟨rfl, rfl, rfl⟩ rfl rfl rfl
  | accepted call config credentials profile automatic h explicit enabled saved =>
    refine .noted (.noted ?_ _) _
    exact hi.newIntent (he.notStopped h.running h.faulted).1 ⟨rfl, rfl, rfl⟩ rfl rfl rfl
  | restored config credentials profile automatic h pending enabled saved =>
    refine .noted ?_ _
    exact hi.newIntent (he.notStopped h.running h.faulted).1 ⟨rfl, rfl, rfl⟩ rfl rfl rfl
  | stuck timedOut answer status running sound connecting fresh refused notOk =>
    exact hi.freed rfl ⟨rfl, rfl, rfl⟩ hi.activeLe
  | aimed free =>
    exact hi.freed free ⟨rfl, rfl, rfl⟩ fun _ => le_refl _
  | issued t h => exact hi.issued h .kOk
  | refused t status h notOk quiet allowed =>
    exact hi.freed rfl ⟨rfl, rfl, rfl⟩ fun _ => le_refl _
  | connectRefused status r level h failure =>
    exact hi.freed rfl ⟨rfl, rfl, rfl⟩ fun _ => le_refl _
  | enableFinished r written h allowed enabling ok =>
    have hr := hi.retired r
    have hx : Observed { (a.note (.delivered r)).retired with initialized := true } :=
      { hr with uninitialized := fun h => by cases h }
    split
    · exact { hx with }
    · exact hx
  | staleFinished r h allowed other stale => exact hi.retired r
  | stationFinished r h allowed current other failed => exact { hi.retired r with }
  | connectFinished r status h allowed current connecting source quiet =>
    exact { hi.retired r with }
  | connectFailed r status retry level saved h allowed current connecting failure persisted =>
    exact { hi.retired r with }
  | enabledReported enabled running sound allowed =>
    have hc := hA.enabledReport allowed
    exact { hi with
      up := fun hp => by
        obtain ⟨he, ht⟩ := hi.up hp
        exact ⟨(hc.resolve_left ht).trans he, ht⟩
      connecting := fun ht => by
        refine (hc.resolve_left ?_).trans (hi.connecting ht)
        rw [show a.transition = .kConnect from ht]; simp }
  | linkReady link h allowed ready plain => exact { hi.heard (hA.linkReport allowed) with }
  | linkRecovered link h allowed recovers => exact { hi.heard (hA.linkReport allowed) with }
  | linkPartial link deadline h allowed unready up armed =>
    exact { hi.heard (hA.linkReport allowed) with }
  | linkIdle link h allowed idle kept => exact { hi.heard (hA.linkReport allowed) with }
  | linkLost link status r level h allowed loses reason failure =>
    exact { hi.heard (hA.linkReport allowed) with }
  | _ => exact { hi with }

theorem observed_init (options : Options) (seed : UInt32) :
    Observed (core false (init options seed)) where
  uninitialized _ := ⟨rfl, .inl rfl⟩
  up h := absurd rfl h
  connecting h := by cases h
  activeLe _ := le_refl _
  enabling h := by cases h

end RooWifi.Controller
