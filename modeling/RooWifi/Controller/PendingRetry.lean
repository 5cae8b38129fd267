import RooWifi.Controller.Effects

/-! # A pending retry is not postponed

A failure enters the retry state only when a connect finishes, a link is lost
or an address does not come. No connect runs while a retry waits, so only the
last two can fail a second time; where they do not, what waits stays as it is
until the policy ends it. -/
namespace RooWifi.Controller

variable {c : Controller}

/-! ## No connect runs while a retry waits -/

structure Waits (c : Controller) : Prop where
  idle : c.state_.retry.pending = true → c.transition_ ≠ .kConnect
  unarmed : c.transition_ = .kConnect → c.addressDeadline_ = ⊤
  up : c.running_ = true → c.addressDeadline_ ≠ ⊤ → c.state_.link.phase ≠ .kIdle

namespace Waits

@[simp] theorem changed_iff (change : Change) : Waits (c.changed change) ↔ Waits c := by
  rw [changed_eq]
  exact ⟨fun h => { h with }, fun h => { h with }⟩

/-- Neither a retry nor an address deadline is left by a new intent. -/
theorem newIntent (c : Controller) : Waits c.newIntent := by
  rw [newIntent_eq]
  exact {
    idle := fun h => by cases h
    unarmed := fun _ => rfl
    up := fun _ h => absurd rfl h }

/-- A failure takes the address deadline away, and no connect is running. -/
theorem connectionFailed (free : c.transition_ ≠ .kConnect) (now : Nat) (status : Status)
    (failure : ConnectionFailure) (code : Int) (hasCode : Bool) :
    Waits (c.connectionFailed now status failure code hasCode) := by
  obtain ⟨_, _, _, _, h, -⟩ := connectionFailed_cases now status failure code hasCode c
  rw [h]
  exact {
    idle := fun _ => free
    unarmed := fun _ => rfl
    up := fun _ h => absurd rfl h }

theorem scanFinished (hi : Waits c) (env : Env) (r : OperationResult) :
    Waits (c.scanFinished env r) := by
  obtain ⟨status, records, snapshot, h, -⟩ := scanFinished_cases env r c
  have hc := (changed_iff (c := { c with
    scanId_ := 0
    state_.scan := .kIdle
    state_.scanStatus := status
    records_ := records
    snapshot_ := snapshot }) .kScan).mpr { hi with }
  rw [h]
  exact { hc with }

theorem stationFinished (hi : Waits c) (env : Env) (r : OperationResult) :
    Waits (c.stationFinished env r) := by
  obtain ⟨_, _, _, _, _, x, hx, h⟩ := stationFinished_cases env r c
  have hx' : Waits x := by
    rw [hx]
    exact {
      idle := fun _ => by simp
      unarmed := fun ht => by cases ht
      up := hi.up }
  rw [h]
  refine { (changed_iff (c := if c.Fails env r then _ else x) .kStation).mpr ?_ with }
  split
  · exact connectionFailed (c := x.record (.failed r.id)) (by rw [hx]; simp [record]) _ _ _ _ _
  · exact hx'

theorem hear (hi : Waits c) (env : Env) (link : LinkState) : Waits (c.hear env link) := by
  by_cases ready : link.phase = .kAddressReady
  · obtain ⟨_, pending, _, _, _, _, _, h, hp⟩ := hear_ready env c ready
    rw [h, changed_iff]
    refine { idle := fun h => ?_, unarmed := fun _ => rfl, up := fun _ h => absurd rfl h }
    obtain ⟨hp, -⟩ | ⟨hp, -⟩ := hp
    · exact hi.idle (hp ▸ h)
    · exact absurd (hp.symm.trans h) (by simp)
  by_cases idle : link.phase = .kIdle
  · rw [hear_idle env c idle, changed_iff]
    split
    · rename_i loses
      have free : c.transition_ = .kNone := loses.2.1
      refine connectionFailed ?_ _ _ _ _ _
      change c.transition_ ≠ .kConnect
      simp [free]
    · exact { idle := hi.idle, unarmed := fun _ => rfl, up := fun _ h => absurd rfl h }
  · rw [hear_unready env c ready idle, changed_iff]
    refine { idle := hi.idle, unarmed := fun ht => ?_, up := fun _ _ => idle }
    have ht : c.transition_ = .kConnect := ht
    rw [if_neg (fun h => by rw [h.2.2] at ht; cases ht)]
    exact hi.unarmed ht

end Waits

open Waits (changed_iff) in
theorem Effect.waits {a : Atom} {c d : Controller} (h : Effect a c d) (hi : Waits c) : Waits d := by
  cases h with
  | noted | scheduled | listened | relaxed | repeated | aimed | timedOut | scanTimedOut | taken =>
    exact { hi with }
  | begun | withdrawn => exact .newIntent _
  | requested => exact { Waits.newIntent _ with }
  | shutdown opened =>
    rw [shutdown_eq opened]
    exact { idle := (by cases ·), unarmed := (by cases ·), up := (by cases ·) }
  | scanQueued | scanDropped | scanCancelled | profiles | cancelled | settled | unrestored
  | scanStarted | enabledReported =>
    rw [changed_iff]
    exact { hi with }
  | faulted =>
    rw [fault_eq]
    exact { idle := (by cases ·), unarmed := (by cases ·), up := fun _ h => absurd rfl h }
  | issued t enabled attempts deadline act live free real noRetry aim command =>
    rw [changed_iff]
    refine {
      idle := fun h => absurd (noRetry.symm.trans h) (by simp)
      unarmed := fun ht => ?_
      up := hi.up }
    have ht : t = .kConnect := ht
    rw [if_pos ht] at command
    by_contra h
    exact hi.up live.1 h command.1
  | stable | retryDenied | retryGranted =>
    rw [changed_iff]
    exact { idle := (by cases ·), unarmed := hi.unarmed, up := hi.up }
  | retryIdle => exact { idle := (by cases ·), unarmed := hi.unarmed, up := hi.up }
  | addressExpired live due =>
    rw [changed_iff]
    refine .connectionFailed (fun ht => ?_) _ _ _ _ _
    rw [show c.addressDeadline_ = ⊤ from hi.unarmed ht] at due
    exact absurd (top_le_iff.mp due) WithTop.coe_ne_top
  | scanFinished r env => exact hi.scanFinished env r
  | stationFinished r env => exact hi.stationFinished env r
  | linkReported => exact hi.hear _ _

theorem run_waits (options : Options) (seed : UInt32) (as : List Atom) :
    Waits (Machine.run atom (init options seed) as) :=
  effects_invariant (fun _ _ _ h => h.waits)
    { idle := (by cases ·), unarmed := (by cases ·), up := (by cases ·) } as

/-! ## What waits is left alone -/

/-- The retry that waits and the level it was scheduled at. -/
def waiting (c : Controller) : Bool × Uptime × Nat :=
  (c.state_.retry.pending, c.state_.retry.nextAttempt, c.retryLevel_)

/-- The level the failure of the current attempt leads to at most. -/
def charge (c : Controller) : Nat :=
  if c.state_.retry.pending then c.retryLevel_ else c.retryLevel_ + 1

/-- What waits in `c` waits in `d`, and no level is charged twice. -/
structure Keeps (c d : Controller) : Prop where
  waiting : c.state_.retry.pending = true → d.waiting = c.waiting
  charge : d.charge ≤ c.charge

namespace Keeps

theorem of_eq {d : Controller} (h : d.waiting = c.waiting) : Keeps c d where
  waiting _ := h
  charge := by
    simp only [Controller.waiting, Prod.mk.injEq] at h
    simp only [Controller.charge, h.1, h.2.2, le_refl]

theorem refl (c : Controller) : Keeps c c := of_eq rfl

theorem trans {d e : Controller} (h : Keeps c d) (h' : Keeps d e) : Keeps c e where
  waiting hp := by
    have hd := h.waiting hp
    exact (h'.waiting ((congrArg Prod.fst hd).trans hp)).trans hd
  charge := h'.charge.trans h.charge

theorem to_eq {d e : Controller} (h : Keeps c d) (same : e.waiting = d.waiting) : Keeps c e :=
  h.trans (of_eq same)

theorem of_same {d e : Controller} (h : Keeps d e) (same : d.waiting = c.waiting) : Keeps c e :=
  (of_eq same).trans h

/-- A failure charges one level, and only where none is waiting. -/
theorem connectionFailed (now : Nat) (status : Status) (failure : ConnectionFailure) (code : Int)
    (hasCode : Bool) (free : c.state_.retry.pending = true → c.autoConnect_ = true →
      status ≠ .kConnectionFailed ∧ status ≠ .kTimeout) :
    Keeps c (c.connectionFailed now status failure code hasCode) := by
  obtain ⟨retry, level, jitter, reconnect, h, -, ⟨hp, hn, hl⟩ | ⟨hp, hl, automatic, -, hs⟩⟩ :=
    connectionFailed_cases now status failure code hasCode c
  · rw [h]
    refine of_eq ?_
    simp only [Controller.waiting, hp, hn, hl]
  · have hc : c.state_.retry.pending = false := by
      by_contra hc
      obtain ⟨h₁, h₂⟩ := free (by simpa using hc) automatic
      exact hs.elim h₁ h₂
    rw [h]
    exact {
      waiting := fun h => absurd (hc.symm.trans h) (by simp)
      charge := by simpa [Controller.charge, hp, hc] using hl }

end Keeps

@[simp] theorem waiting_changed (change : Change) : (c.changed change).waiting = c.waiting := by
  rw [changed_eq]
  rfl

/-- The connect that fails was made with nothing waiting. -/
theorem stationFinished_keeps (hi : Waits c) (env : Env) (r : OperationResult) :
    Keeps c (c.stationFinished env r) := by
  obtain ⟨_, _, _, _, _, x, hx, h⟩ := stationFinished_cases env r c
  have hw : x.waiting = c.waiting := by
    rw [hx]
    rfl
  rw [h]
  refine Keeps.to_eq ?_ (waiting_changed (c := if c.Fails env r then _ else x) .kStation)
  split
  · rename_i fails
    have free : c.state_.retry.pending ≠ true := fun hp => hi.idle hp fails.1
    refine (Keeps.connectionFailed _ _ _ _ _ fun hp => ?_).of_same
      (show (x.record _).waiting = c.waiting from hw)
    exact absurd ((congrArg Prod.fst hw).symm.trans hp) free
  · exact .of_eq hw

/-- The calls that may fail or end what waits by themselves. -/
def Atom.touchesRetry : Atom → Bool
  | .timer _ | .reconnect _ | .linkChanged .. => true
  | _ => false

theorem Effect.keeps {a : Atom} {c d : Controller} (h : Effect a c d) (hi : Waits c)
    (quiet : a.touchesRetry = false) : Keeps c d ∨ Replaced c d := by
  cases h with
  | noted | scheduled | listened | relaxed | repeated | aimed | taken => exact .inl (.of_eq rfl)
  | begun enabled =>
    refine .inr (.inl ?_)
    rw [newIntent_eq, changed_eq]
    exact Nat.lt_succ_self _
  | withdrawn | requested =>
    refine .inr (.inl ?_)
    rw [newIntent_eq]
    exact Nat.lt_succ_self _
  | shutdown opened =>
    refine .inr (.inr (.inr ?_))
    rw [shutdown_eq opened]
  | faulted =>
    refine .inr (.inr (.inl ?_))
    rw [fault_eq]
  | scanQueued | scanDropped | scanCancelled | profiles | cancelled | issued | settled | unrestored
  | scanStarted | enabledReported =>
    refine .inl (.of_eq ?_)
    rw [waiting_changed]
    rfl
  | scanFinished r env =>
    obtain ⟨_, _, _, h, -⟩ := scanFinished_cases env r c
    refine .inl (.of_eq ?_)
    rw [h, changed_eq]
    rfl
  | stationFinished r env =>
    exact .inl (stationFinished_keeps hi env r)
  | timedOut | scanTimedOut | stable | addressExpired | retryIdle | retryDenied | retryGranted
  | linkReported => cases quiet

theorem Effects.keeps {a : Atom} {c d : Controller} (h : Effects a c d) (hi : Waits c)
    (quiet : a.touchesRetry = false) : Keeps c d ∨ Replaced c d :=
  (h.unless_replaced (I := Waits) Keeps.refl Keeps.trans
    (fun _ _ he hw => ⟨he.waits hw, he.keeps hw quiet⟩) hi).2.imp_left And.left

theorem checkLinkDeadlines_keeps {env : Env} (patient : c.state_.retry.pending = true →
      ¬ c.stableDeadline_ ≤ ((env.now 0 : Nat) : Uptime) ∧
        (c.addressDeadline_ ≤ ((env.now 0 : Nat) : Uptime) → c.autoConnect_ = false)) :
    Keeps c (c.checkLinkDeadlines env) := by
  unfold checkLinkDeadlines
  extract_lets now _ c₁ c₂
  have h₁ : Keeps c c₁ ∧ c₁.addressDeadline_ = c.addressDeadline_ ∧
      c₁.autoConnect_ = c.autoConnect_ ∧
      (c₁.state_.retry.pending = true → c.state_.retry.pending = true) := by
    unfold c₁
    split
    · rename_i due
      -- only an idle retry state is cleared
      have free : ¬ c.state_.retry.pending = true := fun hp => (patient hp).1 due
      rw [changed_eq]
      refine ⟨⟨fun hp => absurd hp free, ?_⟩, rfl, rfl, (by cases ·)⟩
      simp [charge, free]
    · exact ⟨.refl c, rfl, rfl, id⟩
  obtain ⟨keeps, address, automatic, pending⟩ := h₁
  split
  · rename_i due
    rw [address] at due
    refine (keeps.trans ?_).to_eq (waiting_changed .kStation)
    refine (Keeps.connectionFailed (c := c₂) _ _ _ _ _ fun hp ha => ?_).of_same rfl
    have hoff := (patient (pending hp)).2 due
    exact absurd (hoff.symm.trans (automatic.symm.trans ha)) (by simp)
  · exact keeps

theorem checkTimeouts_keeps (env : Env) (patient : c.state_.retry.pending = true →
      ¬ c.stableDeadline_ ≤ ((env.now 0 : Nat) : Uptime) ∧
        (c.addressDeadline_ ≤ ((env.now 0 : Nat) : Uptime) → c.autoConnect_ = false)) :
    Keeps c (c.checkTimeouts env) ∨ (c.checkTimeouts env).faulted_ = true := by
  unfold checkTimeouts
  split
  · exact .inl (.refl c)
  extract_lets c₁ c₂ c₃
  have h₁ : Keeps c c₁ := checkLinkDeadlines_keeps patient
  split
  · exact .inr ‹_›
  rename_i sound
  have h₂ : Keeps c₁ c₂ := by
    obtain h | h | ⟨_, _, _, h⟩ := checkStationDeadline_shape c₁ env
    · exact absurd h sound
    · exact .of_eq (congrArg Controller.waiting h)
    · exact .of_eq ((congrArg Controller.waiting h).trans (waiting_changed _))
  split
  · exact .inr ‹_›
  rename_i sound
  have h₃ : Keeps c₂ c₃ := by
    obtain h | ⟨_, _, _, _, _, _, _, _, _, h⟩ := checkScanDeadline_shape c₂ env
    · exact absurd h sound
    · exact .of_eq ((congrArg Controller.waiting h).trans rfl)
  exact .inl (((h₁.trans h₂).trans h₃).to_eq rfl)

/-! ## A second failure -/

/-- A second failure while a retry waits: the link is lost once more, or its
address does not come; or the retry state is cleared under the retry, because
the link was stable meanwhile. -/
def Restarts (c : Controller) : Atom → Prop
  | .timer env => c.stableDeadline_ ≤ ((env.now 0 : Nat) : Uptime) ∨
      c.addressDeadline_ ≤ ((env.now 0 : Nat) : Uptime) ∧ c.autoConnect_ = true
  | .linkChanged link _ => (core false c).Hears link ∧ (core false c).Loses link ∧
      c.autoConnect_ = true ∧
      (link.reason = .kOk ∨ link.reason = .kConnectionFailed ∨ link.reason = .kTimeout)
  | _ => False

instance : ∀ a, Decidable (Restarts c a)
  | .timer _ => inferInstanceAs (Decidable (_ ∨ _))
  | .linkChanged .. => inferInstanceAs (Decidable (_ ∧ _))
  | .call .. | .work _ | .reconnect _ | .operationFinished .. | .enabledChanged _ | .take
  | .deliver .. => inferInstanceAs (Decidable False)

/-- No step fails a second time while a retry waits. -/
def Patient (c : Controller) (a : Atom) : Prop :=
  c.state_.retry.pending = true → ¬ Restarts c a

instance (a : Atom) : Decidable (Patient c a) := inferInstanceAs (Decidable (_ → _))

/-- What may end a pending retry: a new intent, a fault, the shutdown, its own
timer, or a link that has its address. -/
def Ends (c : Controller) (a : Atom) : Prop :=
  Replaced c (atom c a) ∨
    match a with
    | .reconnect _ => c.reconnect_ ≠ ⊤
    | .linkChanged link _ => (core false c).Hears link ∧ link.phase = .kAddressReady
    | _ => False

instance : ∀ a, Decidable (Ends c a)
  | .reconnect _ | .linkChanged .. => inferInstanceAs (Decidable (_ ∨ _))
  | .call .. | .work _ | .timer _ | .operationFinished .. | .enabledChanged _ | .take
  | .deliver .. => inferInstanceAs (Decidable (_ ∨ False))

theorem hear_keeps {env : Env} {link : LinkState} (hears : (core false c).Hears link)
    (patient : Patient c (.linkChanged link env)) (unready : link.phase ≠ .kAddressReady) :
    Keeps c (c.hear env link) := by
  by_cases idle : link.phase = .kIdle
  · rw [hear_idle env c idle]
    refine Keeps.to_eq ?_ (waiting_changed .kStation)
    split
    · rename_i loses
      refine (Keeps.connectionFailed _ _ _ _ _ fun hp ha => ?_).of_same rfl
      have hr := fun h => patient hp ⟨hears, loses, ha, h⟩
      split
      · exact absurd (.inl ‹_›) hr
      · exact ⟨fun h => hr (.inr (.inl h)), fun h => hr (.inr (.inr h))⟩
    · exact .of_eq rfl
  · rw [hear_unready env c unready idle]
    exact .of_eq (waiting_changed .kStation)

theorem atom_keeps_quiet {a : Atom} (hi : Waits c) (quiet : a.touchesRetry = false) :
    Keeps c (atom c a) ∨ Ends c a := by
  exact ((atom_effects c a).keeps hi quiet).imp_right .inl

theorem atom_keeps {a : Atom} (hi : Waits c) (patient : Patient c a) :
    Keeps c (atom c a) ∨ Ends c a := by
  cases a with
  | timer env =>
    simp only [Ends, atom]
    split
    · refine (checkTimeouts_keeps (c := { c with timer_ := ⊤ }) env fun hp => ?_).imp
        (·.of_same rfl) fun h => .inl (.inr (.inl h))
      have hr := not_or.mp (patient hp)
      exact ⟨hr.1, fun due => by simpa using fun ha => hr.2 ⟨due, ha⟩⟩
    · exact .inl (.refl c)
  | reconnect env =>
    by_cases due : c.reconnect_ = ⊤
    · simp only [atom, due, ne_eq, not_true_eq_false, if_false]
      exact .inl (.refl c)
    · exact .inr (.inr due)
  | linkChanged link env =>
    obtain h | ⟨hears, h⟩ := onLinkChanged_cases c env link
    · exact .inl (.of_eq (congrArg Controller.waiting h))
    · by_cases ready : link.phase = .kAddressReady
      · exact .inr (.inr ⟨hears, ready⟩)
      · exact .inl ((hear_keeps hears patient ready).to_eq
          ((congrArg Controller.waiting h).trans rfl))
  | _ => exact atom_keeps_quiet hi rfl

/-! ## Runs -/

theorem run_keeps {as : List Atom} (hi : Waits c) (patient : Machine.Along atom Patient c as)
    (hb : Machine.Along atom (fun c a => ¬ Ends c a) c as) : Keeps c (Machine.run atom c as) := by
  induction as generalizing c with
  | nil => exact .refl c
  | cons a as ih =>
    have hw : Waits (atom c a) :=
      Machine.path_invariant (J := Waits) (fun _ _ h => h.waits) (atom_effects c a) hi
    exact ((atom_keeps hi patient.1).resolve_right hb.1).trans (ih hw patient.2 hb.2)

/-- **A pending retry is not postponed** by a run that does not fail a second
time under it: until it is ended for one of the policy's reasons it keeps its
time and its level, and the backoff has advanced by one level at most. -/
theorem pending_retry_kept (options : Options) (seed : UInt32) (as bs : List Atom)
    (patient : Machine.Along atom Patient (init options seed) (as ++ bs))
    (lasting : Machine.Along atom (fun c a => ¬ Ends c a)
      (Machine.run atom (init options seed) as) bs) :
    let c := Machine.run atom (init options seed) as
    let d := Machine.run atom c bs
    (c.state_.retry.pending = true → d.state_.retry.pending = true ∧
        d.state_.retry.nextAttempt = c.state_.retry.nextAttempt ∧ d.retryLevel_ = c.retryLevel_) ∧
      d.retryLevel_ ≤ c.retryLevel_ + 1 := by
  intro c d
  have keeps : Keeps c d :=
    run_keeps (run_waits options seed as) (Machine.along_append.mp patient).2 lasting
  constructor
  · intro hp
    have h := keeps.waiting hp
    simp only [waiting, Prod.mk.injEq] at h
    exact ⟨h.1.trans hp, h.2.1, h.2.2⟩
  · have hc : c.charge ≤ c.retryLevel_ + 1 := by
      unfold charge
      split <;> omega
    have hd : d.retryLevel_ ≤ d.charge := by
      unfold charge
      split <;> omega
    exact (hd.trans keeps.charge).trans hc

/-- The link of operation 2 is gone, at the given time. -/
def lost (now : Nat) : Atom :=
  .linkChanged { connectionId := 2 } (later now)

/-- A second report of the same loss changes nothing. -/
theorem pending_retry_kept_test :
    let c := Machine.run atom (init {} 1) (connected ++ [lost 0])
    c.retryLevel_ = 1 ∧ (Machine.run atom c [lost 1000]).retryLevel_ ≤ c.retryLevel_ + 1 :=
  ⟨by decide, (pending_retry_kept {} 1 (connected ++ [lost 0]) [lost 1000] (by decide)
    (by decide)).2⟩

/-- The address is lost and does not come back in time. -/
def starved : List Atom :=
  connected ++ [.linkChanged { connectionId := 2, phase := .kAssociated } .willing,
    .timer (later 30000000)]

/-- One lost connection is reported by the address timeout and by the loss of
the link: the retry is postponed and the backoff advances twice. -/
theorem loss_postpones_retry : ¬ ∀ options seed as bs,
    Machine.Along atom (fun c a => ¬ Ends c a) (Machine.run atom (init options seed) as) bs →
      let c := Machine.run atom (init options seed) as
      let d := Machine.run atom c bs
      c.state_.retry.pending = true → d.state_.retry.nextAttempt ≤ c.state_.retry.nextAttempt ∧
        d.retryLevel_ ≤ c.retryLevel_ :=
  fun h => absurd (h {} 1 starved [lost 30100000] (by decide) (by decide)) (by decide)

end RooWifi.Controller
