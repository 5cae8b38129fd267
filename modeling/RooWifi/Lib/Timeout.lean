import Mathlib.Algebra.Order.Monoid.Unbundled.WithTop
import Mathlib.Order.Lattice.Nat

/-! # Operations under a deadline

An operation is granted a limit when it is issued, and a grace when it is
cancelled; it cannot be cancelled twice. A step lasts from `s` to `f` and reads
the clock in between. Where no step lasts longer than `δ` or ends later than
`δ` after the deadline, no operation is older than what it was granted and a
few times `δ`. -/
namespace Timeout

structure Operation where
  id : Nat
  limit : Nat
  cancelled : Bool
  deadline : WithTop Nat

/-- What a step does to the operation that is outstanding. -/
inductive Step (grace s f : Nat) : Option Operation → Option Operation → Prop
  | kept (o) : Step grace s f o o
  | ended (o) : Step grace s f o none
  | issued {o} (p : Operation) (n : Nat) (fresh : ∀ q ∈ o, q.id ≠ p.id)
      (uncancelled : p.cancelled = false) (after : s ≤ n) (before : n ≤ f)
      (deadline : p.deadline = (n + p.limit : Nat)) : Step grace s f o (some p)
  | cancelled (p : Operation) (n : Nat) (uncancelled : p.cancelled = false) (after : s ≤ n)
      (before : n ≤ f) :
      Step grace s f (some p) (some { p with cancelled := true, deadline := (n + grace : Nat) })

/-- When the operation that is outstanding was issued, if the one before was at `t`. -/
def since (s t : Nat) (o p : Option Operation) : Nat :=
  if o.map (·.id) = p.map (·.id) then t else s

/-- What a cancellation adds to the age of an operation. -/
def Operation.extension (δ grace : Nat) (p : Operation) : Nat :=
  if p.cancelled then δ + grace else 0

/-- An operation issued at `t` is watched at `now`: its deadline is near, and
not long past. -/
structure Operation.Watched (δ grace t now : Nat) (p : Operation) : Prop where
  early : p.deadline ≤ (t + δ + p.limit + p.extension δ grace : Nat)
  near : p.deadline ≤ (now + (if p.cancelled then grace else p.limit) : Nat)
  late : (now : WithTop Nat) ≤ p.deadline + (δ : Nat)

variable {δ grace s f t now : Nat} {o o' : Option Operation} {p : Operation}

theorem overrun_le {a b : Nat} {deadline : WithTop Nat}
    (late : (a : WithTop Nat) ≤ deadline + (δ : Nat)) (early : deadline ≤ (b : Nat)) :
    a ≤ b + δ := by
  cases deadline with
  | top => exact absurd (top_le_iff.mp early) WithTop.coe_ne_top
  | coe d =>
    have late : a ≤ d + δ := WithTop.coe_le_coe.mp late
    have early : d ≤ b := WithTop.coe_le_coe.mp early
    omega

theorem late_mono {a : Nat} {deadline later : WithTop Nat}
    (late : (a : WithTop Nat) ≤ deadline + (δ : Nat)) (h : deadline ≤ later) :
    (a : WithTop Nat) ≤ later + (δ : Nat) := by
  cases later with
  | top => exact le_top
  | coe b => exact WithTop.coe_le_coe.mpr (overrun_le late h)

/-- To be late by at most `δ` is to be no earlier than `δ` before. -/
theorem late_iff {a : Nat} {deadline : WithTop Nat} :
    (a : WithTop Nat) ≤ deadline + (δ : Nat) ↔ ((a - δ : Nat) : WithTop Nat) ≤ deadline := by
  cases deadline with
  | top => exact ⟨fun _ => le_top, fun _ => le_top⟩
  | coe d =>
    refine ⟨fun h => ?_, fun h => ?_⟩
    · have h : a ≤ d + δ := WithTop.coe_le_coe.mp h
      exact WithTop.coe_le_coe.mpr (Nat.sub_le_iff_le_add.mpr h)
    · have h : a - δ ≤ d := WithTop.coe_le_coe.mp h
      exact WithTop.coe_le_coe.mpr (Nat.sub_le_iff_le_add.mp h)

theorem Operation.Watched.age (h : p.Watched δ grace t now) :
    now ≤ t + p.limit + 2 * δ + p.extension δ grace := by
  have age := overrun_le h.late h.early
  omega

/-- A deadline that was set in a short step is not long past. -/
theorem late_of_set {n limit : Nat} (short : f ≤ s + δ) (after : s ≤ n) :
    (f : WithTop Nat) ≤ ((n + limit : Nat) : WithTop Nat) + (δ : Nat) := by
  have h : f ≤ n + limit + δ := by omega
  exact WithTop.coe_le_coe.mpr h

theorem since_issued (s t : Nat) (fresh : ∀ q ∈ o, q.id ≠ p.id) : since s t o (some p) = s := by
  refine if_neg fun same => ?_
  obtain ⟨q, mem, id⟩ := Option.map_eq_some_iff.mp same
  exact fresh q mem id

theorem since_extended (s t : Nat) (p : Operation) (cancelled : Bool) (deadline : WithTop Nat) :
    since s t (some p) (some { p with cancelled, deadline }) = t := if_pos rfl

/-- **A step keeps the watch** if it comes in time. -/
theorem Step.watched (h : Step grace s f o o') (forward : now ≤ s) (ordered : s ≤ f)
    (short : f ≤ s + δ) (punctual : ∀ p ∈ o, (f : WithTop Nat) ≤ p.deadline + (δ : Nat))
    (hi : ∀ p ∈ o, p.Watched δ grace t now) :
    ∀ p ∈ o', p.Watched δ grace (since s t o o') f := by
  intro p mem
  cases h with
  | kept =>
    obtain ⟨early, near, -⟩ := hi p mem
    refine ⟨?_, near.trans ?_, punctual p mem⟩
    · rwa [since, if_pos rfl]
    · exact WithTop.coe_le_coe.mpr (Nat.add_le_add_right (forward.trans ordered) _)
  | ended => cases mem
  | issued p' n fresh uncancelled after before deadline =>
    obtain rfl := Option.some.inj mem
    rw [since_issued s t fresh]
    refine ⟨?_, ?_, ?_⟩
    · have granted : n + p'.limit ≤ s + δ + p'.limit + p'.extension δ grace := by omega
      rw [deadline]
      exact WithTop.coe_le_coe.mpr granted
    · rw [deadline, uncancelled]
      exact WithTop.coe_le_coe.mpr (Nat.add_le_add_right before _)
    · rw [deadline]
      exact late_of_set short after
  | cancelled q n uncancelled after before =>
    obtain rfl := Option.some.inj mem
    obtain ⟨early, -, -⟩ := hi q rfl
    have reached : n ≤ t + δ + q.limit + q.extension δ grace + δ :=
      before.trans (overrun_le (punctual q rfl) early)
    have whole : q.extension δ grace = 0 := by simp [Operation.extension, uncancelled]
    have granted : n + grace ≤ t + δ + q.limit + (δ + grace) := by omega
    rw [since_extended]
    exact ⟨WithTop.coe_le_coe.mpr granted,
      WithTop.coe_le_coe.mpr (Nat.add_le_add_right before _), late_of_set short after⟩

end Timeout
