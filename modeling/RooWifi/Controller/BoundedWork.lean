import RooWifi.Controller.Contract

/-! # Bounded native work

Between two causes (a new intent, a retry timer that fires) each kind of
station command is issued at most once, and the work task comes to rest. The
first enable is the exception: until one succeeds the station counts as needed
even though its intent was attempted, so the result holds for the runs in
which the work task never acts in that state. -/
namespace RooWifi.Controller

/-! ## The commands of a stretch -/

/-- The station commands issued since the last cause. -/
def observeCommand (s : List Transition) : Action → List Transition
  | .intent _ | .retryFired => []
  | .setEnabled .. => .kEnable :: s
  | .connect .. => .kConnect :: s
  | .disconnect .. => .kDisconnect :: s
  | _ => s

/-- A station command is the first of its kind. -/
def FirstOfKind (s : List Transition) : Action → Prop
  | .setEnabled .. => .kEnable ∉ s
  | .connect .. => .kConnect ∉ s
  | .disconnect .. => .kDisconnect ∉ s
  | _ => True

instance : DecidableRel FirstOfKind := fun _ a => by
  cases a <;> first
    | exact inferInstanceAs (Decidable (_ ∉ _))
    | exact .isTrue trivial

/-- The audit of the station commands between causes. -/
def repetition : Audit Action (List Transition) := ⟨[], observeCommand, FirstOfKind⟩

def spent (t : List Action) : List Transition := repetition.account t

/-- No station command was issued twice for one cause. -/
def Frugal (t : List Action) : Prop := repetition.Clean t

@[simp] theorem spent_cons (a : Action) (t : List Action) :
    spent (a :: t) = observeCommand (spent t) a := rfl

theorem observeCommand_silent {c : Core} {a : Action} (h : c.Silent a) (s : List Transition) :
    observeCommand s a = s := by
  cases a <;> first | rfl | exact h.elim

theorem observeCommand_command {c : Core} {t : Transition} (ht : t ≠ .kNone) (status : Status)
    (s : List Transition) : observeCommand s (c.command t status) = t :: s := by
  cases t <;> first | rfl | exact absurd rfl ht

theorem firstOfKind_command {c : Core} {t : Transition} {s : List Transition} (h : t ∉ s)
    (ht : t ≠ .kNone) (status : Status) : FirstOfKind s (c.command t status) := by
  cases t <;> first | exact h | exact absurd rfl ht

/-! ## The invariant -/

/-- The interface keeps its contract, and the work task never acts on intent
that was attempted before the radio was first enabled. -/
def unrepeated : Assumptions := { lawful with reissue := fun _ => False }

/-- The same without public calls and retry timers. -/
def undisturbed : Assumptions := { unrepeated with requests := False }

/-- Assumptions under which commands are not repeated. -/
structure Assumptions.Unrepeated (A : Assumptions) : Prop extends A.Contract where
  reissue : ∀ {d}, ¬ A.reissue d

theorem unrepeated_spec : unrepeated.Unrepeated := ⟨⟨id, id, id⟩, id⟩

theorem undisturbed_spec : undisturbed.Unrepeated := ⟨⟨id, id, id⟩, id⟩

/-- The transition that is running was chosen for current intent. -/
def Core.Aims (t : Transition) (c : Core) : Prop := c.transition = t ∧ c.active = c.revision

/-- Outside the exception, a due command means that intent was not attempted. -/
theorem Core.Due.fresh {c : Core} {t : Transition} (h : c.Due t) (hn : ¬ c.Again) :
    c.attempted ≠ c.revision := fun he => h.needed.elim (fun hu => hn ⟨hu, he⟩) fun hne => hne he

/-- What was spent is running, has had its effect, or settled the intent. -/
structure Spending (c : Core) : Prop where
  connect : .kConnect ∈ spent c.trace → c.attempted = c.revision ∨ c.Aims .kConnect
  disconnect : .kDisconnect ∈ spent c.trace → c.attempted = c.revision ∨ c.Aims .kDisconnect ∨
    c.Aims .kConnect ∨ (c.phase = .kIdle ∧ c.transition ≠ .kConnect)
  enable : .kEnable ∈ spent c.trace → c.attempted = c.revision ∨ c.Aims .kEnable ∨
    (c.initialized = true ∧ c.enabled = decide (c.desired ≠ .kDisabled) ∧ c.transition ≠ .kEnable)

/-- Commands are not repeated while the controller can issue any. -/
structure Thrifty (c : Core) : Prop where
  frugal : Frugal c.trace
  spending : c.closed = false → c.faulted = false → Spending c

namespace Spending

variable {c x : Core} {t : Transition}

theorem of_nil (h : spent c.trace = []) : Spending c where
  connect hm := by simp [h] at hm
  disconnect hm := by simp [h] at hm
  enable hm := by simp [h] at hm

theorem of_attempted (h : c.attempted = c.revision) : Spending c :=
  ⟨fun _ => .inl h, fun _ => .inl h, fun _ => .inl h⟩

/-- A command that is due was not issued for this cause. -/
theorem unspent (hi : Spending c) (h : c.Due t) (fresh : c.attempted ≠ c.revision) :
    t ∉ spent c.trace := by
  have idle {t : Transition} (ht : t ≠ .kNone) : ¬ c.Aims t := fun ha => ht (ha.1.symm.trans h.free)
  cases t with
  | kNone => exact h.chosen.elim
  | kEnable =>
    intro hm
    obtain ⟨hinit, he, -⟩ := ((hi.enable hm).resolve_left fresh).resolve_left (idle (by simp))
    obtain hu | hne := h.chosen.2
    · rw [hinit] at hu; cases hu
    · exact hne he
  | kConnect =>
    intro hm
    exact idle (by simp) ((hi.connect hm).resolve_left fresh)
  | kDisconnect =>
    intro hm
    obtain ⟨hp, -⟩ := (((hi.disconnect hm).resolve_left fresh).resolve_left
      (idle (by simp))).resolve_left (idle (by simp))
    exact h.chosen hp

theorem issued (hi : Spending c) (h : c.Due t) (fresh : c.attempted ≠ c.revision)
    (status : Status) : Spending (c.issued t status) := by
  have ht : t ≠ .kNone := by rintro rfl; exact h.chosen
  have aims : (c.issued t status).Aims t := ⟨rfl, rfl⟩
  have idle {u : Transition} (hu : u ≠ .kNone) : ¬ c.Aims u := fun ha => hu (ha.1.symm.trans h.free)
  have hs : spent (c.issued t status).trace = t :: spent c.trace :=
    observeCommand_command ht status _
  exact {
    connect := fun hm => by
      obtain rfl | hm := List.mem_cons.mp (hs ▸ hm)
      · exact .inr aims
      · exact absurd ((hi.connect hm).resolve_left fresh) (idle (by simp))
    disconnect := fun hm => by
      obtain rfl | hm := List.mem_cons.mp (hs ▸ hm)
      · exact .inr (.inl aims)
      obtain ⟨hp, -⟩ := (((hi.disconnect hm).resolve_left fresh).resolve_left
        (idle (by simp))).resolve_left (idle (by simp))
      by_cases hc : t = .kConnect
      · exact .inr (.inr (.inl (hc ▸ aims)))
      · exact .inr (.inr (.inr ⟨hp, hc⟩))
    enable := fun hm => by
      obtain rfl | hm := List.mem_cons.mp (hs ▸ hm)
      · exact .inr (.inl aims)
      obtain ⟨hu, he, -⟩ := ((hi.enable hm).resolve_left fresh).resolve_left (idle (by simp))
      refine .inr (.inr ⟨hu, he, ?_⟩)
      rintro rfl
      obtain hn | hn := h.chosen.2
      · rw [hu] at hn; cases hn
      · exact hn he }

/-- The end of a transition: if it was chosen for current intent, it has had
its effect or the intent counts as attempted. -/
theorem freed (hi : Spending c) (free : x.transition = .kNone)
    (trace : spent x.trace = spent c.trace) (phase : x.phase = c.phase)
    (enabled : x.enabled = c.enabled) (desired : x.desired = c.desired)
    (attempted : c.attempted = c.revision → x.attempted = x.revision)
    (initialized : c.initialized = true → x.initialized = true)
    (connect : c.Aims .kConnect → x.attempted = x.revision)
    (disconnect : c.Aims .kDisconnect → x.attempted = x.revision ∨ c.phase = .kIdle)
    (enable : c.Aims .kEnable → x.attempted = x.revision ∨
      (x.initialized = true ∧ c.enabled = decide (c.desired ≠ .kDisabled))) : Spending x where
  connect hm := .inl ((hi.connect (trace ▸ hm)).elim attempted connect)
  disconnect hm := by
    obtain h | h | h | h := hi.disconnect (trace ▸ hm)
    · exact .inl (attempted h)
    · exact (disconnect h).imp_right fun hp => .inr (.inr ⟨phase.trans hp, by simp [free]⟩)
    · exact .inl (connect h)
    · exact .inr (.inr (.inr ⟨phase.trans h.1, by simp [free]⟩))
  enable hm := by
    rw [enabled, desired]
    obtain h | h | h := hi.enable (trace ▸ hm)
    · exact .inl (attempted h)
    · exact (enable h).imp_right fun he => .inr ⟨he.1, he.2, by simp [free]⟩
    · exact .inr (.inr ⟨initialized h.1, h.2.1, by simp [free]⟩)

/-- A link report that keeps the contract. -/
theorem heard (hi : Spending c) {link : LinkState} (h : c.LinksOnRequest link) :
    Spending (c.heard link) :=
  { hi with
    disconnect := fun hm => (hi.disconnect hm).imp_right fun ho => ho.imp_right fun ho =>
      ho.imp_right fun ⟨hp, ht⟩ =>
        ⟨h.resolve_right fun hn => hn.elim (fun hp' => hp' hp) fun hc => ht hc, ht⟩ }

end Spending

variable {A : Assumptions} {a b : Core}

/-- A command that is due is the first of its kind. -/
theorem Thrifty.command (hi : Thrifty a) (he : Exclusive a) {t : Transition} (h : a.Due t)
    (fresh : a.attempted ≠ a.revision) (status : Status) : Frugal (a.issued t status).trace := by
  have ht : t ≠ .kNone := by rintro rfl; exact h.chosen
  have hs := hi.spending (he.notStopped h.running h.faulted).1 h.faulted
  exact hi.frugal.cons (firstOfKind_command (hs.unspent h fresh) ht status)

theorem Move.thrifty (h : Move A a b) (hA : A.Unrepeated) (he : Exclusive a) (ho : Observed a)
    (hi : Thrifty a) : Thrifty b := by
  have hs := hi.spending
  cases h with
  | noted act h =>
    cases act <;> first
      | exact ⟨hi.frugal.cons, fun hc hf => { hs hc hf with }⟩
      | exact h.elim
  | begun enabled fresh opened => exact ⟨hi.frugal.cons.cons, fun _ _ => .of_nil rfl⟩
  | shutdown opened =>
    refine ⟨?_, fun hc => by cases hc⟩
    simp only [Core.shutdown]
    split
    · exact hi.frugal.cons
    · exact hi.frugal
  | faulted status running sound notOk => exact ⟨hi.frugal.cons, fun _ hf => by cases hf⟩
  | setEnabled enabled h | withdrawn h => exact ⟨hi.frugal.cons.cons, fun _ _ => .of_nil rfl⟩
  | accepted call config credentials profile automatic h explicit enabled saved =>
    exact ⟨hi.frugal.cons.cons.cons, fun _ _ => .of_nil rfl⟩
  | repeated call config credentials profile automatic h explicit connected saved target sameConfig
      sameCredentials =>
    exact ⟨hi.frugal.cons.cons, fun hc hf => { hs hc hf with }⟩
  | relaxed | scanDropped | rested | dispatched | unrestored | stable =>
    exact ⟨hi.frugal, fun hc hf => { hs hc hf with }⟩
  | scanQueued | scanCancelled | scanKept | superseded | expired | restoredSame | scanStarted
  | scanRefused | scanFinished | addressExpired =>
    exact ⟨hi.frugal.cons, fun hc hf => { hs hc hf with }⟩
  | stuck timedOut answer status running sound connecting fresh refused notOk =>
    exact ⟨hi.frugal.cons.cons, fun _ hf => by cases hf⟩
  | aimed free =>
    exact ⟨hi.frugal, fun hc hf =>
      { connect := fun hm => ((hs hc hf).connect hm).imp_right fun h => ⟨h.1, rfl⟩
        disconnect := fun hm => ((hs hc hf).disconnect hm).imp_right fun h =>
          h.imp (fun h => ⟨h.1, rfl⟩) fun h => h.imp_left fun h => ⟨h.1, rfl⟩
        enable := fun hm => ((hs hc hf).enable hm).imp_right fun h =>
          h.imp_left fun h => ⟨h.1, rfl⟩ }⟩
  | issued t h allowed =>
    have fresh := h.fresh fun ha => hA.reissue (allowed ha)
    exact ⟨hi.command he h fresh .kOk, fun hc hf => (hs hc hf).issued h fresh .kOk⟩
  | refused t status h notOk quiet allowed =>
    have fresh := h.fresh fun ha => hA.reissue (allowed ha)
    exact ⟨hi.command he h fresh status, fun _ _ => .of_attempted rfl⟩
  | connectRefused status r level h failure =>
    have fresh := h.fresh fun ha => absurd (h.chosen.2.1.symm.trans ha.1) (by simp)
    exact ⟨(hi.command he h fresh status).cons, fun _ _ => .of_attempted rfl⟩
  | settled h free noScan noRetry idle initialized enabled noRestore offline =>
    exact ⟨hi.frugal, fun _ _ => .of_attempted rfl⟩
  | restored config credentials profile automatic h pending enabled saved =>
    exact ⟨hi.frugal.cons.cons, fun _ _ => .of_nil rfl⟩
  | enableFinished r written h allowed enabling ok =>
    obtain ⟨hk, -⟩ := hA.completion allowed (outcome_ok ok)
    have other {u : Transition} (hu : u ≠ .kEnable) : ¬ a.Aims u := fun h =>
      hu (h.1.symm.trans enabling)
    split
    · rename_i current
      refine ⟨hi.frugal.cons, fun hc hf => (hs hc hf).freed rfl rfl rfl rfl rfl ?_ (fun _ => rfl)
        (fun h => absurd h (other (by simp))) (fun h => absurd h (other (by simp)))
        fun _ => .inr ⟨rfl, (hk enabling).trans (ho.enabling enabling current)⟩⟩
      intro h
      simp only [Core.concluded]
      split
      · exact h
      · rfl
    · rename_i stale
      exact ⟨hi.frugal.cons, fun hc hf => (hs hc hf).freed rfl rfl rfl rfl rfl id (fun _ => rfl)
        (fun h => absurd h.2 stale) (fun h => absurd h.2 stale) fun h => absurd h.2 stale⟩
  | staleFinished r h allowed other stale =>
    exact ⟨hi.frugal.cons, fun hc hf => (hs hc hf).freed rfl rfl rfl rfl rfl id id
      (fun h => absurd h.2 stale) (fun h => absurd h.2 stale) fun h => absurd h.2 stale⟩
  | stationFinished r h allowed current other failed =>
    refine ⟨hi.frugal.cons, fun hc hf => (hs hc hf).freed rfl rfl rfl rfl rfl ?_ id
      (fun h => absurd h.1 other) ?_ ?_⟩
    · intro h
      simp only [Core.concluded]
      split
      · exact h
      · rfl
    · intro h
      by_cases ok : a.outcome r = .kOk
      · exact .inr ((hA.completion allowed (outcome_ok ok)).2 h.1)
      · exact .inl (if_neg ok)
    · exact fun h => .inl (if_neg (failed.resolve_left (not_not.mpr h.1)))
  | connectFinished r status h allowed current connecting source quiet =>
    exact ⟨hi.frugal.cons, fun _ _ => .of_attempted rfl⟩
  | connectFailed r status retry level saved h allowed current connecting failure persisted =>
    refine ⟨?_, fun _ _ => .of_attempted rfl⟩
    obtain rfl | ⟨profile, rfl⟩ := persisted
    · exact hi.frugal.cons.cons
    · exact hi.frugal.cons.cons.cons
  | retryIdle h => exact ⟨hi.frugal.cons, fun _ _ => .of_nil rfl⟩
  | retryDenied profile status automatic running denied =>
    exact ⟨hi.frugal.cons.cons, fun _ _ => .of_nil rfl⟩
  | retryGranted running sound wanted automatic saved =>
    exact ⟨hi.frugal.cons.cons, fun _ _ => .of_nil rfl⟩
  | enabledReported enabled running sound allowed =>
    exact ⟨hi.frugal, fun hc hf =>
      { hs hc hf with
        enable := fun hm => ((hs hc hf).enable hm).imp_right fun h => h.imp_right
          fun h => ⟨h.1, ((hA.enabledReport allowed).resolve_left h.2.2).trans h.2.1, h.2.2⟩ }⟩
  | linkReady link h allowed ready plain =>
    exact ⟨hi.frugal, fun hc hf => { (hs hc hf).heard (hA.linkReport allowed) with }⟩
  | linkRecovered link h allowed recovers => exact ⟨hi.frugal, fun _ _ => .of_attempted rfl⟩
  | linkPartial link deadline h allowed unready up armed =>
    exact ⟨hi.frugal, fun hc hf => { (hs hc hf).heard (hA.linkReport allowed) with }⟩
  | linkIdle link h allowed idle kept =>
    exact ⟨hi.frugal, fun hc hf => { (hs hc hf).heard (hA.linkReport allowed) with }⟩
  | linkLost link status r level h allowed loses reason failure =>
    exact ⟨hi.frugal.cons, fun hc hf => { (hs hc hf).heard (hA.linkReport allowed) with }⟩

/-! ## Coming to rest

Every dispatch of the work task is paid for by a command that can still be
issued, a transition or scan that is running, a restore that is due, or the
schedule itself. Only requests and retry timers bring new funds. -/

/-- The commands that can still be issued for the last cause. -/
def unspent (s : List Transition) : Nat :=
  (if .kEnable ∈ s then 0 else 1) + (if .kConnect ∈ s then 0 else 1) +
    (if .kDisconnect ∈ s then 0 else 1)

theorem unspent_le (s : List Transition) : unspent s ≤ 3 := by
  unfold unspent
  split <;> split <;> split <;> omega

theorem unspent_cons {t : Transition} {s : List Transition} (h : t ∉ s) (ht : t ≠ .kNone) :
    unspent (t :: s) + 1 = unspent s := by
  cases t with
  | kNone => exact absurd rfl ht
  | _ => simp [unspent, h] <;> omega

def ScanPhase.weight : ScanPhase → Nat
  | .kIdle => 0
  | .kCancelling => 2
  | .kRunning => 4
  | .kQueued => 5

def Core.potential (c : Core) : Nat :=
  (if c.work then 1 else 0) + (if c.transition = .kNone then 0 else 2) +
    (if c.restore then 10 else 0) + c.scan.weight + 3 * unspent (spent c.trace)

theorem Core.potential_le (c : Core) : c.potential ≤ 27 := by
  have hs := unspent_le (spent c.trace)
  have hw : c.scan.weight ≤ 5 := by cases c.scan <;> simp [ScanPhase.weight]
  unfold potential
  split <;> split <;> split <;> omega

theorem ite_le_ite {p q : Prop} [Decidable p] [Decidable q] (h : p → q) (n : Nat) :
    (if p then n else 0) ≤ if q then n else 0 := by
  split
  · rw [if_pos (h ‹_›)]
  · exact Nat.zero_le _

/-- A move that schedules nothing and starts nothing. -/
theorem potential_mono {x : Core} (work : x.work = true → a.work = true)
    (transition : a.transition = .kNone → x.transition = .kNone)
    (restore : x.restore = true → a.restore = true) (scan : x.scan.weight ≤ a.scan.weight)
    (trace : spent x.trace = spent a.trace) : x.potential ≤ a.potential := by
  have hw := ite_le_ite work 1
  have hr := ite_le_ite restore 10
  have ht := ite_le_ite (mt transition) 2
  simp only [ite_not] at ht
  simp only [Core.potential, trace]
  omega

/-- Freeing the station pays for the work it schedules. -/
theorem potential_freed {x : Core} (busy : a.transition ≠ .kNone) (free : x.transition = .kNone)
    (restore : x.restore = a.restore) (scan : x.scan.weight ≤ a.scan.weight)
    (trace : spent x.trace = spent a.trace) : x.potential ≤ a.potential := by
  simp only [Core.potential, restore, trace, free, if_neg busy, if_true]
  split <;> split <;> omega

/-- So does a step of the scan. -/
theorem potential_scan {x : Core} {p q : ScanPhase} (was : a.scan = p) (now : x.scan = q)
    (less : q.weight < p.weight) (transition : x.transition = a.transition)
    (restore : x.restore = a.restore) (trace : spent x.trace = spent a.trace) :
    x.potential ≤ a.potential := by
  simp only [Core.potential, restore, trace, transition, was, now]
  split <;> split <;> omega

/-- So does a command that was not issued before, whether or not it is refused. -/
theorem potential_command {x : Core} (free : a.transition = .kNone)
    (work : x.work = a.work ∨ x.transition = .kNone) (restore : x.restore = a.restore)
    (scan : x.scan = a.scan) (trace : unspent (spent x.trace) + 1 = unspent (spent a.trace)) :
    x.potential ≤ a.potential := by
  simp only [Core.potential, restore, scan, free, if_true]
  obtain h | h := work
  · rw [h]
    split <;> split <;> omega
  · rw [if_pos h]
    split <;> split <;> omega

/-- And dropping the restore, even when it asks for a new intent. -/
theorem potential_restore {x : Core} (pending : a.restore = true) (dropped : x.restore = false)
    (transition : x.transition = a.transition) (scan : x.scan = a.scan)
    (trace : unspent (spent x.trace) ≤ unspent (spent a.trace) + 3) :
    x.potential ≤ a.potential := by
  simp only [Core.potential, dropped, pending, transition, scan, if_true]
  split <;> split <;> simp <;> omega

theorem spent_command (he : Exclusive a) (hi : Thrifty a) {t : Transition} (h : a.Due t)
    (fresh : a.attempted ≠ a.revision) (status : Status) :
    unspent (spent (a.issued t status).trace) + 1 = unspent (spent a.trace) := by
  have ht : t ≠ .kNone := by rintro rfl; exact h.chosen
  have hs := hi.spending (he.notStopped h.running h.faulted).1 h.faulted
  exact (congrArg (unspent · + 1) (observeCommand_command ht status _)).trans
    (unspent_cons (hs.unspent h fresh) ht)

theorem Move.potential_le (h : Move A a b) (hq : ¬ A.requests) (hA : A.Unrepeated)
    (he : Exclusive a) (hi : Thrifty a) : b.potential ≤ a.potential := by
  cases h with
  | noted act h =>
    simp only [Core.potential, Core.note, spent_cons, observeCommand_silent h]
    exact le_refl _
  | begun | setEnabled | withdrawn | accepted | scanQueued | retryIdle | retryDenied
  | retryGranted => exact absurd ‹A.requests› hq
  | shutdown opened =>
    refine potential_mono (fun h => by cases h) (fun _ => rfl) id (Nat.zero_le _) ?_
    simp only [Core.shutdown]
    split <;> rfl
  | faulted status running sound notOk =>
    exact potential_mono id (fun _ => rfl) id (Nat.zero_le _) rfl
  | relaxed h offline ok => exact potential_mono id id (fun h => by cases h) (le_refl _) rfl
  | scanDropped running queued =>
    exact potential_scan (q := .kIdle) queued rfl (by decide) rfl rfl rfl
  | scanCancelled running scanning =>
    exact potential_scan (q := .kCancelling) scanning rfl (by decide) rfl rfl rfl
  | scanStarted size h free queued =>
    exact potential_scan (q := .kRunning) queued rfl (by decide) rfl rfl rfl
  | scanRefused size status h free queued notOk =>
    exact potential_scan (q := .kIdle) queued rfl (by decide) rfl rfl rfl
  | scanFinished r h =>
    obtain hs | hs := he.scanning.mp fun hz => h.nonzero (h.id.trans hz) <;>
      exact potential_scan (q := .kIdle) hs rfl (by decide) rfl rfl rfl
  | stuck timedOut answer status running sound connecting fresh refused notOk =>
    exact potential_freed (by rw [connecting]; simp) rfl rfl (Nat.zero_le _) rfl
  | dispatched due => exact potential_mono (fun h => by cases h) id id (le_refl _) rfl
  | issued t h allowed =>
    have hs := spent_command he hi h (h.fresh fun ha => hA.reissue (allowed ha)) .kOk
    exact potential_command h.free (.inl rfl) rfl rfl hs
  | refused t status h notOk quiet allowed =>
    have hs := spent_command he hi h (h.fresh fun ha => hA.reissue (allowed ha)) status
    exact potential_command h.free (.inr rfl) rfl rfl hs
  | connectRefused status r level h failure =>
    have fresh := h.fresh fun ha => absurd (h.chosen.2.1.symm.trans ha.1) (by simp)
    exact potential_command h.free (.inr rfl) rfl rfl (spent_command he hi h fresh status)
  | restored config credentials profile automatic h pending enabled saved =>
    exact potential_restore pending rfl rfl rfl ((unspent_le _).trans (Nat.le_add_left _ _))
  | restoredSame config credentials profile automatic running pending connected =>
    exact potential_restore pending rfl rfl rfl (Nat.le_add_right _ _)
  | unrestored status running pending outcome =>
    exact potential_restore pending rfl rfl rfl (Nat.le_add_right _ _)
  | enableFinished r written h allowed enabling ok =>
    split <;> exact potential_freed (he.busy h) rfl rfl (le_refl _) rfl
  | staleFinished r h | stationFinished r h =>
    exact potential_freed (he.busy h) rfl rfl (le_refl _) rfl
  | connectFinished r status h =>
    exact potential_freed (he.busy h) rfl rfl (le_refl _) rfl
  | connectFailed r status retry level saved h allowed current connecting failure persisted =>
    refine potential_freed (he.busy h) rfl rfl (le_refl _) ?_
    obtain rfl | ⟨profile, rfl⟩ := persisted <;> rfl
  | _ => exact le_refl _

/-! ## Runs -/

structure Economical (c : Core) : Prop where
  exclusive : Exclusive c
  observed : Observed c
  thrifty : Thrifty c

theorem Move.economical (h : Move A a b) (hA : A.Unrepeated) (hi : Economical a) : Economical b :=
  ⟨h.exclusive hi.exclusive, h.observed hA.toContract hi.exclusive hi.observed,
    h.thrifty hA hi.exclusive hi.observed hi.thrifty⟩

theorem economical_init (options : Options) (seed : UInt32) :
    Economical (core false (init options seed)) where
  exclusive := exclusive_init options seed
  observed := observed_init options seed
  thrifty := ⟨Audit.clean_nil, fun _ _ => .of_nil rfl⟩

/-- Without requests no path raises the potential. -/
theorem path_potential_le (hq : ¬ A.requests) (hA : A.Unrepeated) (hp : Path A a b)
    (hi : Economical a) : b.potential ≤ a.potential :=
  (Machine.path_invariant (J := fun c => Economical c ∧ c.potential ≤ a.potential)
    (fun _ _ hm h => ⟨hm.economical hA h.1,
      (hm.potential_le hq hA h.1.exclusive h.1.thrifty).trans h.2⟩) hp ⟨hi, le_refl _⟩).2

/-- Whether the input dispatches the work task. -/
def dispatch (c : Controller) (i : Input) : Nat :=
  match i.event with
  | .work => if c.work_ then 1 else 0
  | _ => 0

/-- A dispatch costs one. -/
theorem dispatch_paid {c : Controller} {i : Input} (h : Permits undisturbed c i)
    (hi : Economical (core false c)) :
    dispatch c i + (core false (step c i)).potential ≤ (core false c).potential := by
  have hid := hi.exclusive.nextId_ne
  by_cases hd : i.event = .work ∧ c.work_ = true
  · obtain ⟨hw, hdue⟩ := hd
    have hm : Move undisturbed (core false c) _ := .dispatched hdue
    have hle := path_potential_le id undisturbed_spec (work_path hw hdue hid h)
      (hm.economical undisturbed_spec hi)
    have hcost : dispatch c i = 1 := by simp [dispatch, hw, hdue]
    have hwork : (core false c).work = true := hdue
    rw [hcost]
    simp only [Core.potential, hwork, if_true] at hle ⊢
    simp only [Bool.false_eq_true, if_false] at hle
    omega
  · have hcost : dispatch c i = 0 := by
      unfold dispatch
      split
      · exact if_neg fun hdue => hd ⟨‹_›, hdue⟩
      · rfl
    rw [hcost, Nat.zero_add]
    exact path_potential_le id undisturbed_spec (step_path hid h) hi

/-- The input brings no public call and no retry timer. -/
def Event.Undisturbing : Event → Prop
  | .call _ | .reconnect => False
  | .notify react => ∀ listener change, react listener change = []
  | _ => True

theorem permits_undisturbed {c : Controller} {i : Input} (h : Permits unrepeated c i)
    (hu : i.event.Undisturbing) : Permits undisturbed c i := by
  unfold Permits at h ⊢
  cases he : i.event with
  | call | reconnect => rw [he] at hu; exact hu.elim
  | notify react => rw [he] at hu; exact .inr hu
  | _ => simp only [he] at h ⊢; exact h

theorem run_economical {options : Options} {seed : UInt32} {es : List Input}
    (h : Machine.Along step (Permits unrepeated) (init options seed) es) :
    Economical (core false (Machine.run step (init options seed) es)) :=
  Machine.run_invariant_of_path (fun _ _ hp hi => step_path hi.exclusive.nextId_ne hp)
    (fun _ _ hm hi => hm.economical unrepeated_spec hi) (economical_init options seed) h

/-- The work task is dispatched a bounded number of times. -/
theorem dispatches_le {c : Controller} {fs : List Input} (hi : Economical (core false c))
    (h : Machine.Along step (Permits unrepeated) c fs) (hu : ∀ i ∈ fs, i.event.Undisturbing) :
    Machine.totalCost step dispatch c fs ≤ 27 := by
  have hle := Machine.totalCost_le (fun c => (core false c).potential)
    (I := fun c => Economical (core false c))
    (fun c i hp hi => Machine.path_invariant (fun _ _ hm hi => hm.economical unrepeated_spec hi)
      (step_path hi.exclusive.nextId_ne hp.1) hi)
    (fun c i hp hi => dispatch_paid (permits_undisturbed hp.1 hp.2) hi) hi (h.and_forall hu)
  exact (Nat.le_add_right _ _).trans (hle.trans (core false c).potential_le)

/-- **Bounded native work.** No kind of station command is issued twice for
one cause; without new causes the work task is dispatched at most 27 times,
and dispatched again and again it comes to rest. -/
theorem bounded_native_work (options : Options) (seed : UInt32) (es fs : List Input)
    (h : Machine.Along step (Permits unrepeated) (init options seed) (es ++ fs)) :
    let c := Machine.run step (init options seed) es
    Frugal (Machine.run step c fs).trace ∧
      ((∀ i ∈ fs, i.event.Undisturbing) → Machine.totalCost step dispatch c fs ≤ 27) ∧
      ((∀ i ∈ fs, i.event = .work) → 27 < fs.length →
        ∃ n ≤ 27, (Machine.run step c (fs.take n)).work_ = false) := by
  obtain ⟨he, hf⟩ := Machine.along_append.mp h
  have hi := run_economical he
  refine ⟨?_, dispatches_le hi hf, fun hw hlen => ?_⟩
  · rw [← Machine.run_append]
    exact (run_economical h).thrifty.frugal
  · have hle := dispatches_le hi hf fun i hm => by rw [hw i hm]; trivial
    obtain ⟨n, i, hn, hget, hfree⟩ := Machine.exists_free (hle.trans_lt hlen)
    refine ⟨n, hn.trans hle, ?_⟩
    have hev : i.event = .work := hw i (List.mem_of_getElem? hget)
    simpa [dispatch, hev] using hfree

instance : Decidable unrepeated.requests := inferInstanceAs (Decidable True)
instance : DecidablePred unrepeated.Listens := fun _ => .isTrue (.inl trivial)
instance : DecidablePred unrepeated.reissue := fun _ => inferInstanceAs (Decidable False)
instance : DecidableRel unrepeated.completion := inferInstanceAs (DecidableRel Core.Reports)
instance : DecidableRel unrepeated.linkReport := inferInstanceAs (DecidableRel Core.LinksOnRequest)
instance : DecidableRel unrepeated.enabledReport :=
  inferInstanceAs (DecidableRel Core.EnablesOnRequest)
instance : DecidablePred unrepeated.addressExpiry := fun _ => inferInstanceAs (Decidable True)

theorem bounded_native_work_test :
    let c := Machine.run step (init {} 1) (startUp ++ connectUp 65)
    ∃ n ≤ 27, (Machine.run step c ((List.replicate 28 (willing .work)).take n)).work_ = false :=
  (bounded_native_work {} 1 (startUp ++ connectUp 65) (List.replicate 28 (willing .work))
    (by decide +kernel)).2.2 (fun i hm => by rw [List.eq_of_mem_replicate hm]; rfl) (by decide)

instance : DecidableRel repetition.allows := inferInstanceAs (DecidableRel FirstOfKind)

instance (t : List Action) : Decidable (Frugal t) := inferInstanceAs (Decidable (repetition.Clean t))

/-- The willing environment with an interface that refuses to be enabled. -/
def refusing (event : Event) : Input := { event, env := { Env.willing with setEnabled := .kBusy } }

/-- A refused first enable is issued again by the next dispatch. -/
theorem first_enable_repeats : ¬ ∀ options seed es,
    Machine.Along step (Permits lawful) (init options seed) es →
      Frugal (Machine.run step (init options seed) es).trace := fun h =>
  absurd (h {} 1 [willing (.call .begin), refusing .work, refusing .work] (by decide +kernel))
    (by decide +kernel)

end RooWifi.Controller
