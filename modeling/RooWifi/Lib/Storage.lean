import Mathlib.Data.Set.Insert
import Mathlib.Logic.Function.Basic

/-! # Programs over a key-value backend that may fail

A storage program is a tree of bounded reads, writes and erases, each node
continuing with the answer it gets. Three meanings are given to one program:
over a reliable backend (`run`), over one whose `n`-th mutation is lost
(`runLosing`), and under any failures (`Exec` for complete executions,
`Reach` for the stores an execution cut short at any moment can leave).
Nothing here depends on what the fields hold. -/
namespace Storage

variable {K B E α β : Type}

/-- The stored fields. -/
abbrev Fields (K B : Type) := K → Option (List B)

/-- The errors of a working backend: an absent field, and a value longer than
the reader's buffer, which is never reported as absent. -/
structure Errors (E : Type) where
  missing : E
  tooLong : E
  ne : tooLong ≠ missing

inductive Prog (K B E α : Type) where
  | ret (a : α)
  | read (key : K) (capacity : Nat) (next : Except E (List B) → Prog K B E α)
  | write (key : K) (data : List B) (next : Bool → Prog K B E α)
  | erase (key : K) (next : Bool → Prog K B E α)

namespace Prog

def bind : Prog K B E α → (α → Prog K B E β) → Prog K B E β
  | ret a, q => q a
  | read key capacity next, q => read key capacity fun r => (next r).bind q
  | write key data next, q => write key data fun ok => (next ok).bind q
  | erase key next, q => erase key fun ok => (next ok).bind q

instance : Monad (Prog K B E) where
  pure := ret
  bind := bind

@[simp] theorem pure_eq (a : α) : (pure a : Prog K B E α) = ret a := rfl
@[simp] theorem bind_eq (p : Prog K B E α) (q : α → Prog K B E β) : p >>= q = p.bind q := rfl
@[simp] theorem bind_ret (a : α) (q : α → Prog K B E β) : (ret a).bind q = q a := rfl

end Prog

variable [DecidableEq K] (errors : Errors E)

/-- What a working backend answers to a bounded read. -/
def answer (f : Fields K B) (key : K) (capacity : Nat) : Except E (List B) :=
  match f key with
  | none => .error errors.missing
  | some v => if v.length ≤ capacity then .ok v else .error errors.tooLong

/-- The store after a committed write (`some`) or erase (`none`). -/
abbrev commit (f : Fields K B) (key : K) (v : Option (List B)) : Fields K B :=
  Function.update f key v

/-! ## A reliable backend -/

def run : Prog K B E α → Fields K B → α × Fields K B
  | .ret a, f => (a, f)
  | .read key capacity next, f => run (next (answer errors f key capacity)) f
  | .write key data next, f => run (next true) (commit f key (some data))
  | .erase key next, f => run (next true) (commit f key none)

/-- The keys mutated by a reliable run, in order. -/
def mutations : Prog K B E α → Fields K B → List K
  | .ret _, _ => []
  | .read key capacity next, f => mutations (next (answer errors f key capacity)) f
  | .write key data next, f => key :: mutations (next true) (commit f key (some data))
  | .erase key next, f => key :: mutations (next true) (commit f key none)

/-- The run whose mutation number `n` (counted from 0) fails without
committing, over a backend that is reliable otherwise. -/
def runLosing : Nat → Prog K B E α → Fields K B → α × Fields K B
  | _, .ret a, f => (a, f)
  | n, .read key capacity next, f => runLosing n (next (answer errors f key capacity)) f
  | 0, .write _ _ next, f => run errors (next false) f
  | n + 1, .write key data next, f => runLosing n (next true) (commit f key (some data))
  | 0, .erase _ next, f => run errors (next false) f
  | n + 1, .erase key next, f => runLosing n (next true) (commit f key none)

theorem run_bind (p : Prog K B E α) (q : α → Prog K B E β) (f : Fields K B) :
    run errors (p.bind q) f = run errors (q (run errors p f).1) (run errors p f).2 := by
  induction p generalizing f with
  | ret a => rfl
  | read key capacity next ih => exact ih _ f
  | write key data next ih => exact ih _ _
  | erase key next ih => exact ih _ _

theorem mutations_bind (p : Prog K B E α) (q : α → Prog K B E β) (f : Fields K B) :
    mutations errors (p.bind q) f =
      mutations errors p f ++ mutations errors (q (run errors p f).1) (run errors p f).2 := by
  induction p generalizing f with
  | ret a => rfl
  | read key capacity next ih => exact ih _ f
  | write key data next ih => simp only [Prog.bind, mutations, ih]; rfl
  | erase key next ih => simp only [Prog.bind, mutations, ih]; rfl

/-- The lost mutation is in the first program or in the second, by number. -/
theorem runLosing_bind (n : Nat) (p : Prog K B E α) (q : α → Prog K B E β) (f : Fields K B) :
    runLosing errors n (p.bind q) f =
      if n < (mutations errors p f).length then
        run errors (q (runLosing errors n p f).1) (runLosing errors n p f).2
      else
        runLosing errors (n - (mutations errors p f).length) (q (run errors p f).1)
          (run errors p f).2 := by
  induction p generalizing n f with
  | ret a => simp [Prog.bind, mutations, run]
  | read key capacity next ih =>
    simp only [Prog.bind, runLosing, mutations, run]
    exact ih _ n f
  | write key data next ih =>
    cases n with
    | zero => simp [Prog.bind, runLosing, mutations, run_bind]
    | succ n =>
      simp only [Prog.bind, runLosing, mutations, run, List.length_cons, ih]
      simp only [Nat.succ_lt_succ_iff, Nat.add_sub_add_right]
  | erase key next ih =>
    cases n with
    | zero => simp [Prog.bind, runLosing, mutations, run_bind]
    | succ n =>
      simp only [Prog.bind, runLosing, mutations, run, List.length_cons, ih]
      simp only [Nat.succ_lt_succ_iff, Nat.add_sub_add_right]

/-! ## Any failures -/

variable (fails : E → Prop)

/-- A read answers as a working backend would, or fails with a permitted error. -/
def ReadOutcome (f : Fields K B) (key : K) (capacity : Nat) (r : Except E (List B)) : Prop :=
  r = answer errors f key capacity ∨ ∃ e, fails e ∧ r = .error e

/-- A mutation from `f` to `g` commits, whatever it reports, or fails. -/
def MutationOutcome (f g : Fields K B) (ok : Bool) (h : Fields K B) : Prop :=
  h = g ∨ ok = false ∧ h = f

/-- Complete executions: the value returned and the store left. -/
def Exec : Prog K B E α → Fields K B → α → Fields K B → Prop
  | .ret a, f, x, g => x = a ∧ g = f
  | .read key capacity next, f, x, g =>
    ∃ r, ReadOutcome errors fails f key capacity r ∧ Exec (next r) f x g
  | .write key data next, f, x, g =>
    ∃ ok h, MutationOutcome f (commit f key (some data)) ok h ∧ Exec (next ok) h x g
  | .erase key next, f, x, g =>
    ∃ ok h, MutationOutcome f (commit f key none) ok h ∧ Exec (next ok) h x g

/-- The stores an execution that stops at any moment can leave. -/
def Reach : Prog K B E α → Fields K B → Fields K B → Prop
  | .ret _, f, g => g = f
  | .read key capacity next, f, g =>
    g = f ∨ ∃ r, ReadOutcome errors fails f key capacity r ∧ Reach (next r) f g
  | .write key data next, f, g =>
    g = f ∨ ∃ ok h, MutationOutcome f (commit f key (some data)) ok h ∧ Reach (next ok) h g
  | .erase key next, f, g =>
    g = f ∨ ∃ ok h, MutationOutcome f (commit f key none) ok h ∧ Reach (next ok) h g

theorem exec_run (p : Prog K B E α) (f : Fields K B) :
    Exec errors fails p f (run errors p f).1 (run errors p f).2 := by
  induction p generalizing f with
  | ret a => exact ⟨rfl, rfl⟩
  | read key capacity next ih => exact ⟨_, .inl rfl, ih _ f⟩
  | write key data next ih => exact ⟨true, _, .inl rfl, ih _ _⟩
  | erase key next ih => exact ⟨true, _, .inl rfl, ih _ _⟩

/-- Losing one mutation is one of the permitted failures. -/
theorem exec_runLosing (n : Nat) (p : Prog K B E α) (f : Fields K B) :
    Exec errors fails p f (runLosing errors n p f).1 (runLosing errors n p f).2 := by
  induction p generalizing n f with
  | ret a => cases n <;> exact ⟨rfl, rfl⟩
  | read key capacity next ih => cases n <;> exact ⟨_, .inl rfl, ih _ _ f⟩
  | write key data next ih =>
    cases n with
    | zero => exact ⟨false, f, .inr ⟨rfl, rfl⟩, exec_run errors fails _ f⟩
    | succ n => exact ⟨true, _, .inl rfl, ih _ n _⟩
  | erase key next ih =>
    cases n with
    | zero => exact ⟨false, f, .inr ⟨rfl, rfl⟩, exec_run errors fails _ f⟩
    | succ n => exact ⟨true, _, .inl rfl, ih _ n _⟩

theorem exec_bind (p : Prog K B E α) (q : α → Prog K B E β) {f g : Fields K B} {y : β} :
    Exec errors fails (p.bind q) f y g ↔
      ∃ x h, Exec errors fails p f x h ∧ Exec errors fails (q x) h y g := by
  induction p generalizing f with
  | ret a => simp [Prog.bind, Exec]
  | read key capacity next ih =>
    simp only [Prog.bind, Exec, ih]
    exact ⟨fun ⟨r, hr, x, h, h₁, h₂⟩ => ⟨x, h, ⟨r, hr, h₁⟩, h₂⟩,
      fun ⟨x, h, ⟨r, hr, h₁⟩, h₂⟩ => ⟨r, hr, x, h, h₁, h₂⟩⟩
  | write key data next ih =>
    simp only [Prog.bind, Exec, ih]
    exact ⟨fun ⟨ok, k, hk, x, h, h₁, h₂⟩ => ⟨x, h, ⟨ok, k, hk, h₁⟩, h₂⟩,
      fun ⟨x, h, ⟨ok, k, hk, h₁⟩, h₂⟩ => ⟨ok, k, hk, x, h, h₁, h₂⟩⟩
  | erase key next ih =>
    simp only [Prog.bind, Exec, ih]
    exact ⟨fun ⟨ok, k, hk, x, h, h₁, h₂⟩ => ⟨x, h, ⟨ok, k, hk, h₁⟩, h₂⟩,
      fun ⟨x, h, ⟨ok, k, hk, h₁⟩, h₂⟩ => ⟨ok, k, hk, x, h, h₁, h₂⟩⟩

/-- A store left by a sequence is left by its first part, or by its second
part started where some execution of the first ended. -/
theorem reach_bind {p : Prog K B E α} {q : α → Prog K B E β} {f g : Fields K B}
    (hg : Reach errors fails (p.bind q) f g) :
    Reach errors fails p f g ∨
      ∃ x h, Exec errors fails p f x h ∧ Reach errors fails (q x) h g := by
  induction p generalizing f with
  | ret a => exact .inr ⟨a, f, ⟨rfl, rfl⟩, hg⟩
  | read key capacity next ih =>
    rcases hg with rfl | ⟨r, hr, hg⟩
    · exact .inl (.inl rfl)
    · rcases ih r hg with h | ⟨x, h, h₁, h₂⟩
      · exact .inl (.inr ⟨r, hr, h⟩)
      · exact .inr ⟨x, h, ⟨r, hr, h₁⟩, h₂⟩
  | write key data next ih =>
    rcases hg with rfl | ⟨ok, k, hk, hg⟩
    · exact .inl (.inl rfl)
    · rcases ih ok hg with h | ⟨x, h, h₁, h₂⟩
      · exact .inl (.inr ⟨ok, k, hk, h⟩)
      · exact .inr ⟨x, h, ⟨ok, k, hk, h₁⟩, h₂⟩
  | erase key next ih =>
    rcases hg with rfl | ⟨ok, k, hk, hg⟩
    · exact .inl (.inl rfl)
    · rcases ih ok hg with h | ⟨x, h, h₁, h₂⟩
      · exact .inl (.inr ⟨ok, k, hk, h⟩)
      · exact .inr ⟨x, h, ⟨ok, k, hk, h₁⟩, h₂⟩

/-! ## Footprints -/

/-- The program commits only updates in `S`, whatever it is answered. -/
def Within (S : Set (K × Option (List B))) : Prog K B E α → Prop
  | .ret _ => True
  | .read _ _ next => ∀ r, Within S (next r)
  | .write key data next => (key, some data) ∈ S ∧ ∀ ok, Within S (next ok)
  | .erase key next => (key, none) ∈ S ∧ ∀ ok, Within S (next ok)

/-- A program without mutations. -/
abbrev ReadOnly (p : Prog K B E α) : Prop := Within ∅ p

/-- Every field of `g` is as in `f` or as some update of `S` leaves it. -/
def Between (S : Set (K × Option (List B))) (f g : Fields K B) : Prop :=
  ∀ k, g k = f k ∨ (k, g k) ∈ S

section Footprint

variable {S T : Set (K × Option (List B))}

omit [DecidableEq K] in
theorem within_mono (h : S ⊆ T) {p : Prog K B E α} (hp : Within S p) : Within T p := by
  induction p with
  | ret a => trivial
  | read key capacity next ih => exact fun r => ih r (hp r)
  | write key data next ih => exact ⟨h hp.1, fun ok => ih ok (hp.2 ok)⟩
  | erase key next ih => exact ⟨h hp.1, fun ok => ih ok (hp.2 ok)⟩

omit [DecidableEq K] in
theorem within_bind {p : Prog K B E α} {q : α → Prog K B E β}
    (hp : Within S p) (hq : ∀ x, Within S (q x)) : Within S (p.bind q) := by
  induction p with
  | ret a => exact hq a
  | read key capacity next ih => exact fun r => ih r (hp r)
  | write key data next ih => exact ⟨hp.1, fun ok => ih ok (hp.2 ok)⟩
  | erase key next ih => exact ⟨hp.1, fun ok => ih ok (hp.2 ok)⟩

omit [DecidableEq K] in
theorem ReadOnly.within {p : Prog K B E α} (hp : ReadOnly p) : Within S p :=
  within_mono (Set.empty_subset S) hp

theorem commit_of_ne {f : Fields K B} {key k : K} {v : Option (List B)} (h : k ≠ key) :
    commit f key v k = f k := Function.update_of_ne h v f

@[simp] theorem commit_same (f : Fields K B) (key : K) (v : Option (List B)) :
    commit f key v key = v := Function.update_self key v f

omit [DecidableEq K] in
theorem Between.mono {f g : Fields K B} (h : Between S f g) (hST : S ⊆ T) : Between T f g :=
  fun k => (h k).imp_right fun hk => hST hk

omit [DecidableEq K] in
theorem between_refl (f : Fields K B) : Between S f f := fun _ => .inl rfl

/-- One mutation, committed or not, keeps a store between. -/
theorem MutationOutcome.between {f g h : Fields K B} {key : K} {v : Option (List B)} (ok : Bool)
    (hf : Between S f g) (hv : (key, v) ∈ S)
    (hm : MutationOutcome g (commit g key v) ok h) : Between S f h := by
  rcases hm with rfl | ⟨-, rfl⟩
  · intro k
    by_cases hk : k = key
    · subst hk
      rw [commit_same]
      exact .inr hv
    · rw [commit_of_ne hk]
      exact hf k
  · exact hf

/-- **The footprint rule.** Whenever an execution stops, every field is as it
was or as the footprint allows. -/
theorem reach_between {p : Prog K B E α} {f g h : Fields K B} (hp : Within S p)
    (hf : Between S f g) (hr : Reach errors fails p g h) : Between S f h := by
  induction p generalizing g with
  | ret a =>
    cases hr
    exact hf
  | read key capacity next ih =>
    rcases hr with rfl | ⟨r, -, hr⟩
    · exact hf
    · exact ih r (hp r) hf hr
  | write key data next ih =>
    rcases hr with rfl | ⟨ok, i, hi, hr⟩
    · exact hf
    · exact ih ok (hp.2 ok) (hi.between ok hf hp.1) hr
  | erase key next ih =>
    rcases hr with rfl | ⟨ok, i, hi, hr⟩
    · exact hf
    · exact ih ok (hp.2 ok) (hi.between ok hf hp.1) hr

omit [DecidableEq K] in
/-- **The frame rule.** A field outside the footprint is as it was. -/
theorem Between.frame {f g : Fields K B} (h : Between S f g) {k : K} (hk : ∀ v, (k, v) ∉ S) :
    g k = f k :=
  (h k).resolve_right (hk _)

theorem exec_reach {p : Prog K B E α} {f g : Fields K B} {x : α}
    (h : Exec errors fails p f x g) : Reach errors fails p f g := by
  induction p generalizing f with
  | ret a => exact h.2
  | read key capacity next ih =>
    obtain ⟨r, hr, h⟩ := h
    exact .inr ⟨r, hr, ih r h⟩
  | write key data next ih =>
    obtain ⟨ok, i, hi, h⟩ := h
    exact .inr ⟨ok, i, hi, ih ok h⟩
  | erase key next ih =>
    obtain ⟨ok, i, hi, h⟩ := h
    exact .inr ⟨ok, i, hi, ih ok h⟩

theorem reach_readOnly {p : Prog K B E α} {f g : Fields K B} (hp : ReadOnly p)
    (h : Reach errors fails p f g) : g = f :=
  funext fun _ => (reach_between errors fails hp (between_refl f) h).frame fun _ => id

theorem exec_readOnly {p : Prog K B E α} {f g : Fields K B} {x : α} (hp : ReadOnly p)
    (h : Exec errors fails p f x g) : g = f :=
  reach_readOnly errors fails hp (exec_reach errors fails h)

@[simp] theorem run_readOnly {p : Prog K B E α} (hp : ReadOnly p) (f : Fields K B) :
    (run errors p f).2 = f :=
  exec_readOnly errors (fun _ => False) hp (exec_run errors _ p f)

theorem mutations_readOnly {p : Prog K B E α} (hp : ReadOnly p) (f : Fields K B) :
    mutations errors p f = [] := by
  induction p generalizing f with
  | ret a => rfl
  | read key capacity next ih => exact ih _ (hp _) f
  | write key data next ih => exact absurd hp.1 (Set.notMem_empty _)
  | erase key next ih => exact absurd hp.1 (Set.notMem_empty _)

/-- A read-only first part runs as over a reliable backend, and the mutation
lost is one of the second part. -/
theorem runLosing_bind_readOnly {p : Prog K B E α} (hp : ReadOnly p) (n : Nat)
    (q : α → Prog K B E β) (f : Fields K B) :
    runLosing errors n (p.bind q) f = runLosing errors n (q (run errors p f).1) f := by
  simp [runLosing_bind, mutations_readOnly errors hp, run_readOnly errors hp]

theorem run_bind_readOnly {p : Prog K B E α} (hp : ReadOnly p) (q : α → Prog K B E β)
    (f : Fields K B) : run errors (p.bind q) f = run errors (q (run errors p f).1) f := by
  rw [run_bind, run_readOnly errors hp]

theorem mutations_bind_readOnly {p : Prog K B E α} (hp : ReadOnly p) (q : α → Prog K B E β)
    (f : Fields K B) :
    mutations errors (p.bind q) f = mutations errors (q (run errors p f).1) f := by
  rw [mutations_bind, mutations_readOnly errors hp, run_readOnly errors hp, List.nil_append]

theorem exec_bind_readOnly {p : Prog K B E α} (hp : ReadOnly p) {q : α → Prog K B E β}
    {f g : Fields K B} {y : β} (h : Exec errors fails (p.bind q) f y g) :
    ∃ x, Exec errors fails p f x f ∧ Exec errors fails (q x) f y g := by
  obtain ⟨x, i, hx, hy⟩ := (exec_bind errors fails p q).mp h
  cases exec_readOnly errors fails hp hx
  exact ⟨x, hx, hy⟩

theorem reach_bind_readOnly {p : Prog K B E α} (hp : ReadOnly p) {q : α → Prog K B E β}
    {f g : Fields K B} (h : Reach errors fails (p.bind q) f g) :
    g = f ∨ ∃ x, Exec errors fails p f x f ∧ Reach errors fails (q x) f g := by
  rcases reach_bind errors fails h with h | ⟨x, i, hx, hy⟩
  · exact .inl (reach_readOnly errors fails hp h)
  · cases exec_readOnly errors fails hp hx
    exact .inr ⟨x, hx, hy⟩

end Footprint

/-! ## Results -/

/-- Every value the program can return satisfies `P`, whatever it is answered. -/
def Returns (P : α → Prop) : Prog K B E α → Prop
  | .ret a => P a
  | .read _ _ next => ∀ r, Returns P (next r)
  | .write _ _ next => ∀ ok, Returns P (next ok)
  | .erase _ next => ∀ ok, Returns P (next ok)

omit [DecidableEq K] in
theorem returns_bind {Q : α → Prop} {P : β → Prop} {p : Prog K B E α} {q : α → Prog K B E β}
    (hp : Returns Q p) (hq : ∀ x, Q x → Returns P (q x)) : Returns P (p.bind q) := by
  induction p with
  | ret a => exact hq a hp
  | read key capacity next ih => exact fun r => ih r (hp r)
  | write key data next ih => exact fun ok => ih ok (hp ok)
  | erase key next ih => exact fun ok => ih ok (hp ok)

omit [DecidableEq K] in
theorem returns_true (p : Prog K B E α) : Returns (fun _ => True) p := by
  induction p with
  | ret a => trivial
  | read key capacity next ih => exact ih
  | write key data next ih => exact ih
  | erase key next ih => exact ih

theorem exec_returns {P : α → Prop} {p : Prog K B E α} {f g : Fields K B} {x : α}
    (hp : Returns P p) (h : Exec errors fails p f x g) : P x := by
  induction p generalizing f with
  | ret a => exact h.1 ▸ hp
  | read key capacity next ih =>
    obtain ⟨r, -, h⟩ := h
    exact ih r (hp r) h
  | write key data next ih =>
    obtain ⟨ok, i, -, h⟩ := h
    exact ih ok (hp ok) h
  | erase key next ih =>
    obtain ⟨ok, i, -, h⟩ := h
    exact ih ok (hp ok) h

theorem run_returns {P : α → Prop} {p : Prog K B E α} (hp : Returns P p) (f : Fields K B) :
    P (run errors p f).1 :=
  exec_returns errors (fun _ => False) hp (exec_run errors _ p f)

/-! ## Answers -/

omit [DecidableEq K] in
theorem answer_ok {f : Fields K B} {key : K} {capacity : Nat} {d : List B}
    (h : f key = some d) (hd : d.length ≤ capacity) : answer errors f key capacity = .ok d := by
  simp only [answer, h, hd, if_true]

omit [DecidableEq K] in
theorem answer_missing {f : Fields K B} {key : K} {capacity : Nat} (h : f key = none) :
    answer errors f key capacity = .error errors.missing := by
  simp only [answer, h]

omit [DecidableEq K] in
/-- Only what is stored is ever read. -/
theorem ReadOutcome.of_ok {f : Fields K B} {key : K} {capacity : Nat} {d : List B}
    (h : ReadOutcome errors fails f key capacity (.ok d)) :
    f key = some d ∧ d.length ≤ capacity := by
  rcases h with h | ⟨e, -, h⟩
  · unfold answer at h
    split at h
    · cases h
    · split at h
      · cases h
        exact ⟨by assumption, by assumption⟩
      · cases h
  · cases h

omit [DecidableEq K] in
/-- An absent field is reported only where there is none, as long as failing
reads never report one. -/
theorem ReadOutcome.of_missing {f : Fields K B} {key : K} {capacity : Nat}
    (hf : ¬ fails errors.missing)
    (h : ReadOutcome errors fails f key capacity (.error errors.missing)) : f key = none := by
  rcases h with h | ⟨e, he, h⟩
  · unfold answer at h
    split at h
    · assumption
    · split at h
      · cases h
      · exact absurd (Except.error.inj h).symm errors.ne
  · cases h
    exact absurd he hf

/-! ## Logged executions -/

/-- A call of the backend with what it answered. -/
inductive Call (K B E : Type) where
  | read (key : K) (answered : Except E (List B))
  | write (key : K) (data : List B) (ok : Bool)
  | erase (key : K) (ok : Bool)

/-- Complete executions with the calls they make. -/
def Logged : Prog K B E α → Fields K B → List (Call K B E) → α → Fields K B → Prop
  | .ret a, f, log, x, g => log = [] ∧ x = a ∧ g = f
  | .read key capacity next, f, log, x, g =>
    ∃ r rest, log = .read key r :: rest ∧ ReadOutcome errors fails f key capacity r ∧
      Logged (next r) f rest x g
  | .write key data next, f, log, x, g =>
    ∃ ok h rest, log = .write key data ok :: rest ∧
      MutationOutcome f (commit f key (some data)) ok h ∧ Logged (next ok) h rest x g
  | .erase key next, f, log, x, g =>
    ∃ ok h rest, log = .erase key ok :: rest ∧
      MutationOutcome f (commit f key none) ok h ∧ Logged (next ok) h rest x g

/-- Every execution has a log. -/
theorem exec_iff_logged {p : Prog K B E α} {f g : Fields K B} {x : α} :
    Exec errors fails p f x g ↔ ∃ log, Logged errors fails p f log x g := by
  induction p generalizing f with
  | ret a => exact ⟨fun h => ⟨[], rfl, h⟩, fun ⟨_, _, h⟩ => h⟩
  | read key capacity next ih =>
    constructor
    · rintro ⟨r, answered, h⟩
      obtain ⟨rest, h⟩ := (ih r).mp h
      exact ⟨_, r, rest, rfl, answered, h⟩
    · rintro ⟨_, r, rest, -, answered, h⟩
      exact ⟨r, answered, (ih r).mpr ⟨rest, h⟩⟩
  | write key data next ih =>
    constructor
    · rintro ⟨ok, i, done, h⟩
      obtain ⟨rest, h⟩ := (ih ok).mp h
      exact ⟨_, ok, i, rest, rfl, done, h⟩
    · rintro ⟨_, ok, i, rest, -, done, h⟩
      exact ⟨ok, i, done, (ih ok).mpr ⟨rest, h⟩⟩
  | erase key next ih =>
    constructor
    · rintro ⟨ok, i, done, h⟩
      obtain ⟨rest, h⟩ := (ih ok).mp h
      exact ⟨_, ok, i, rest, rfl, done, h⟩
    · rintro ⟨_, ok, i, rest, -, done, h⟩
      exact ⟨ok, i, done, (ih ok).mpr ⟨rest, h⟩⟩

theorem Logged.exec {p : Prog K B E α} {f g : Fields K B} {log : List (Call K B E)} {x : α}
    (h : Logged errors fails p f log x g) : Exec errors fails p f x g :=
  (exec_iff_logged errors fails).mpr ⟨log, h⟩

/-- The log of a sequence is that of its parts. -/
theorem Logged.bind {p : Prog K B E α} {q : α → Prog K B E β} {f g : Fields K B}
    {log : List (Call K B E)} {y : β} (h : Logged errors fails (p.bind q) f log y g) :
    ∃ l l' x i, log = l ++ l' ∧ Logged errors fails p f l x i ∧
      Logged errors fails (q x) i l' y g := by
  induction p generalizing f log with
  | ret a => exact ⟨[], log, a, f, rfl, ⟨rfl, rfl, rfl⟩, h⟩
  | read key capacity next ih =>
    obtain ⟨r, rest, rfl, answered, h⟩ := h
    obtain ⟨l, l', x, i, rfl, first, second⟩ := ih r h
    exact ⟨.read key r :: l, l', x, i, rfl, ⟨r, l, rfl, answered, first⟩, second⟩
  | write key data next ih =>
    obtain ⟨ok, j, rest, rfl, done, h⟩ := h
    obtain ⟨l, l', x, i, rfl, first, second⟩ := ih ok h
    exact ⟨.write key data ok :: l, l', x, i, rfl, ⟨ok, j, l, rfl, done, first⟩, second⟩
  | erase key next ih =>
    obtain ⟨ok, j, rest, rfl, done, h⟩ := h
    obtain ⟨l, l', x, i, rfl, first, second⟩ := ih ok h
    exact ⟨.erase key ok :: l, l', x, i, rfl, ⟨ok, j, l, rfl, done, first⟩, second⟩

theorem Logged.seq {p : Prog K B E α} {q : α → Prog K B E β} {f i g : Fields K B}
    {l l' : List (Call K B E)} {x : α} {y : β} (first : Logged errors fails p f l x i)
    (second : Logged errors fails (q x) i l' y g) :
    Logged errors fails (p.bind q) f (l ++ l') y g := by
  induction p generalizing f l with
  | ret a =>
    obtain ⟨rfl, rfl, rfl⟩ := first
    exact second
  | read key capacity next ih =>
    obtain ⟨r, rest, rfl, answered, first⟩ := first
    exact ⟨r, rest ++ l', rfl, answered, ih r first⟩
  | write key data next ih =>
    obtain ⟨ok, j, rest, rfl, done, first⟩ := first
    exact ⟨ok, j, rest ++ l', rfl, done, ih ok first⟩
  | erase key next ih =>
    obtain ⟨ok, j, rest, rfl, done, first⟩ := first
    exact ⟨ok, j, rest ++ l', rfl, done, ih ok first⟩

/-- The program reads only fields in `S`, whatever it is answered. -/
def Reads (S : Set K) : Prog K B E α → Prop
  | .ret _ => True
  | .read key _ next => key ∈ S ∧ ∀ r, Reads S (next r)
  | .write _ _ next => ∀ ok, Reads S (next ok)
  | .erase _ next => ∀ ok, Reads S (next ok)

omit [DecidableEq K] in
theorem reads_bind {S : Set K} {p : Prog K B E α} {q : α → Prog K B E β} (hp : Reads S p)
    (hq : ∀ x, Reads S (q x)) : Reads S (p.bind q) := by
  induction p with
  | ret a => exact hq a
  | read key capacity next ih => exact ⟨hp.1, fun r => ih r (hp.2 r)⟩
  | write key data next ih => exact fun ok => ih ok (hp ok)
  | erase key next ih => exact fun ok => ih ok (hp ok)

/-- What is read is logged, and nothing else. -/
theorem Logged.reads {S : Set K} {p : Prog K B E α} (hp : Reads S p) {f g : Fields K B}
    {log : List (Call K B E)} {x : α} (h : Logged errors fails p f log x g) {key : K}
    {answered : Except E (List B)} (mem : .read key answered ∈ log) : key ∈ S := by
  induction p generalizing f log with
  | ret a =>
    obtain ⟨rfl, -⟩ := h
    cases mem
  | read k capacity next ih =>
    obtain ⟨r, rest, rfl, -, h⟩ := h
    obtain first | later := List.mem_cons.mp mem
    · cases first
      exact hp.1
    · exact ih r (hp.2 r) h later
  | write k data next ih =>
    obtain ⟨ok, j, rest, rfl, -, h⟩ := h
    obtain first | later := List.mem_cons.mp mem
    · cases first
    · exact ih ok (hp ok) h later
  | erase k next ih =>
    obtain ⟨ok, j, rest, rfl, -, h⟩ := h
    obtain first | later := List.mem_cons.mp mem
    · cases first
    · exact ih ok (hp ok) h later

omit [DecidableEq K] in
/-- A mutation that reports success is committed. -/
theorem MutationOutcome.committed {f g h : Fields K B} (m : MutationOutcome f g true h) : h = g :=
  m.resolve_right fun failed => Bool.noConfusion failed.1

end Storage
