import Mathlib.Data.List.Infix

/-! # Audits of a trace

An audit keeps an account of the actions seen so far and says which action the
account allows next. A trace (newest action first) is clean when every action
was allowed by the account of what came before it. -/

structure Audit (α σ : Type*) where
  start : σ
  observe : σ → α → σ
  allows : σ → α → Prop

namespace Audit

variable {α σ : Type*} (A : Audit α σ) {a : α} {t : List α}

/-- The account of a trace. -/
def account : List α → σ
  | [] => A.start
  | a :: t => A.observe (account t) a

@[simp] theorem account_nil : A.account [] = A.start := rfl

@[simp] theorem account_cons : A.account (a :: t) = A.observe (A.account t) a := rfl

theorem account_append (s t : List α) :
    A.account (s ++ t) = s.foldr (fun a account => A.observe account a) (A.account t) := by
  induction s with
  | nil => rfl
  | cons a s ih => rw [List.cons_append, account_cons, ih, List.foldr_cons]

/-- Every action was allowed by the account of what came before it. -/
def Clean (t : List α) : Prop := ∀ a s, a :: s <:+ t → A.allows (A.account s) a

variable {A}

theorem clean_nil : A.Clean [] := fun _ _ hs => absurd (List.eq_nil_of_suffix_nil hs) (by simp)

theorem clean_cons : A.Clean (a :: t) ↔ A.allows (A.account t) a ∧ A.Clean t := by
  refine ⟨fun h => ⟨h a t (List.suffix_refl _),
    fun b s hs => h b s (hs.trans (List.suffix_cons a t))⟩, fun h b s hs => ?_⟩
  obtain heq | hs := List.suffix_cons_iff.mp hs
  · cases heq; exact h.1
  · exact h.2 b s hs

/-- Extends a clean trace; an action that is always allowed needs no proof. -/
theorem Clean.cons (h : A.Clean t) (ha : A.allows (A.account t) a := by trivial) :
    A.Clean (a :: t) :=
  clean_cons.mpr ⟨ha, h⟩

/-- Actions that are always allowed leave a trace as clean as it was. -/
theorem clean_append {s : List α} (ha : ∀ a ∈ s, ∀ account, A.allows account a) :
    A.Clean (s ++ t) ↔ A.Clean t := by
  induction s with
  | nil => rfl
  | cons a s ih =>
    rw [List.cons_append, clean_cons, ih fun b hb => ha b (List.mem_cons_of_mem a hb)]
    exact and_iff_right (ha a List.mem_cons_self _)

instance decidableClean (A : Audit α σ) [∀ s a, Decidable (A.allows s a)] :
    ∀ t, Decidable (A.Clean t)
  | [] => .isTrue clean_nil
  | _ :: t =>
    have := decidableClean A t
    decidable_of_iff _ clean_cons.symm

end Audit
