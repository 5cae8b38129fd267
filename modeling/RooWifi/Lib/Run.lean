import Mathlib.Logic.Relation

/-! # Runs of a deterministic machine

A machine is a step function; its inputs carry everything the environment
chooses. `Along` states that every step of a run meets a condition in the
state it is taken from, which is how assumptions on an environment enter. -/
namespace Machine

variable {σ ε : Type*} (step : σ → ε → σ)

/-- The state a list of inputs leads to. -/
def run (s : σ) (es : List ε) : σ := es.foldl step s

@[simp] theorem run_nil (s : σ) : run step s [] = s := rfl

@[simp] theorem run_cons (s : σ) (e : ε) (es : List ε) :
    run step s (e :: es) = run step (step s e) es := rfl

theorem run_append (s : σ) (es fs : List ε) :
    run step s (es ++ fs) = run step (run step s es) fs := List.foldl_append

/-- Every step of the run meets `P` in the state it is taken from. -/
def Along (P : σ → ε → Prop) : σ → List ε → Prop
  | _, [] => True
  | s, e :: es => P s e ∧ Along P (step s e) es

instance decidableAlong (P : σ → ε → Prop) [∀ s e, Decidable (P s e)] :
    ∀ s es, Decidable (Along step P s es)
  | _, [] => inferInstanceAs (Decidable True)
  | s, e :: es =>
    have := decidableAlong P (step s e) es
    inferInstanceAs (Decidable (P s e ∧ Along step P (step s e) es))

variable {step} {P Q : σ → ε → Prop} {I : σ → Prop}

theorem Along.mono (h : ∀ s e, P s e → Q s e) {s : σ} {es : List ε}
    (ha : Along step P s es) : Along step Q s es := by
  induction es generalizing s with
  | nil => trivial
  | cons e es ih => exact ⟨h s e ha.1, ih ha.2⟩

theorem along_of_forall (h : ∀ s e, P s e) (s : σ) (es : List ε) : Along step P s es := by
  induction es generalizing s with
  | nil => trivial
  | cons e es ih => exact ⟨h s e, ih _⟩

theorem along_append {s : σ} {es fs : List ε} :
    Along step P s (es ++ fs) ↔ Along step P s es ∧ Along step P (run step s es) fs := by
  induction es generalizing s with
  | nil => simp [Along]
  | cons e es ih => simp [Along, ih, and_assoc]

theorem along_and {s : σ} {es : List ε} : Along step (fun s e => P s e ∧ Q s e) s es ↔
    Along step P s es ∧ Along step Q s es := by
  induction es generalizing s with
  | nil => simp [Along]
  | cons e es ih =>
    simp only [Along, ih]
    exact and_and_and_comm

/-- A condition on the inputs alone joins the one along the run. -/
theorem Along.and_forall {R : ε → Prop} {s : σ} {es : List ε} (ha : Along step P s es)
    (hr : ∀ e ∈ es, R e) : Along step (fun s e => P s e ∧ R e) s es := by
  induction es generalizing s with
  | nil => trivial
  | cons e es ih =>
    exact ⟨⟨ha.1, hr e List.mem_cons_self⟩, ih ha.2 fun e he => hr e (List.mem_cons_of_mem _ he)⟩

/-- **The invariant rule.** What every permitted step preserves holds at the
end of every run of permitted steps. -/
theorem run_invariant (hstep : ∀ s e, P s e → I s → I (step s e)) {s : σ} {es : List ε}
    (hs : I s) (ha : Along step P s es) : I (run step s es) := by
  induction es generalizing s with
  | nil => exact hs
  | cons e es ih => exact ih (hstep s e ha.1 hs) ha.2

theorem run_invariant_all (hstep : ∀ s e, I s → I (step s e)) {s : σ} (hs : I s)
    (es : List ε) : I (run step s es) :=
  run_invariant (P := fun _ _ => True) (fun s e _ => hstep s e) hs
    (along_of_forall (fun _ _ => trivial) s es)

/-- The rule for a condition on the inputs alone. -/
theorem run_invariant_inputs {R : ε → Prop} (hstep : ∀ s e, R e → I s → I (step s e)) {s : σ}
    {es : List ε} (hs : I s) (hr : ∀ e ∈ es, R e) : I (run step s es) := by
  induction es generalizing s with
  | nil => exact hs
  | cons e es ih =>
    exact ih (hstep s e (hr e List.mem_cons_self) hs) fun e he => hr e (List.mem_cons_of_mem _ he)

/-- **The exact condition of an invariant.** Where a step keeps it if and only
if the step meets `P`, it holds throughout a run if and only if every step does. -/
theorem always_iff_along {J : σ → Prop} (hJ : ∀ s e, J s → J (step s e))
    (hstep : ∀ s e, J s → I s → (I (step s e) ↔ P s e)) {s : σ} {es : List ε} (hj : J s)
    (hs : I s) : (∀ n, I (run step s (es.take n))) ↔ Along step P s es := by
  induction es generalizing s with
  | nil => simp [Along, hs]
  | cons e es ih =>
    constructor
    · intro h
      have he : I (step s e) := h 1
      exact ⟨(hstep s e hj hs).mp he, (ih (hJ s e hj) he).mp fun n => h (n + 1)⟩
    · rintro ⟨hp, ha⟩ n
      cases n with
      | zero => exact hs
      | succ n => exact (ih (hJ s e hj) ((hstep s e hj hs).mpr hp)).mpr ha n

/-- The same for a property that a step can only lose. -/
theorem run_iff_along {J : σ → Prop} (hJ : ∀ s e, J s → J (step s e))
    (hstep : ∀ s e, J s → (I (step s e) ↔ I s ∧ P s e)) {s : σ} {es : List ε} (hj : J s) :
    I (run step s es) ↔ I s ∧ Along step P s es := by
  induction es generalizing s with
  | nil => simp [Along]
  | cons e es ih =>
    rw [run_cons, ih (hJ s e hj), hstep s e hj]
    exact and_assoc

/-- An invariant found first may be used while a second one is proved. -/
theorem along_strengthen (hstep : ∀ s e, P s e → I s → I (step s e)) {s : σ} {es : List ε}
    (hs : I s) (ha : Along step P s es) : Along step (fun s e => P s e ∧ I s) s es := by
  induction es generalizing s with
  | nil => trivial
  | cons e es ih => exact ⟨⟨ha.1, hs⟩, ih (hstep s e ha.1 hs) ha.2⟩

/-! ## Outputs

A machine that also gives an output at every step. -/

section Outputs

variable {τ ω : Type*} (step) (out : σ → ε → ω)

/-- What a run gives out. -/
def outputs : σ → List ε → List ω
  | _, [] => []
  | s, e :: es => out s e :: outputs (step s e) es

variable {step out} {step' : τ → ε → τ} {out' : τ → ε → ω} {R : σ → τ → Prop}

/-- **The simulation rule.** Two machines whose permitted steps keep a relation
and give the same output give the same outputs along a run. -/
theorem outputs_eq_of_simulation
    (hR : ∀ s t e, P s e → R s t → out s e = out' t e ∧ R (step s e) (step' t e)) {s : σ} {t : τ}
    {es : List ε} (hst : R s t) (ha : Along step P s es) :
    outputs step out s es = outputs step' out' t es ∧ R (run step s es) (run step' t es) := by
  induction es generalizing s t with
  | nil => exact ⟨rfl, hst⟩
  | cons e es ih =>
    obtain ⟨ho, hn⟩ := hR s t e ha.1 hst
    obtain ⟨hos, hr⟩ := ih hn ha.2
    exact ⟨congrArg₂ _ ho hos, hr⟩

end Outputs

/-! ## Amortised cost

Where a potential pays for every step of a run, it bounds what the run costs. -/

section Cost

variable (step) (cost : σ → ε → Nat)

/-- What a run costs. -/
def totalCost : σ → List ε → Nat
  | _, [] => 0
  | s, e :: es => cost s e + totalCost (step s e) es

variable {step cost}

/-- **The potential rule.** -/
theorem totalCost_le (pot : σ → Nat) (hI : ∀ s e, P s e → I s → I (step s e))
    (hpay : ∀ s e, P s e → I s → cost s e + pot (step s e) ≤ pot s) {s : σ} {es : List ε}
    (hs : I s) (ha : Along step P s es) : totalCost step cost s es + pot (run step s es) ≤ pot s := by
  induction es generalizing s with
  | nil => simp [totalCost]
  | cons e es ih =>
    have hhead := hpay s e ha.1 hs
    have htail := ih (hI s e ha.1 hs) ha.2
    simp only [totalCost, run_cons]
    omega

/-- A run longer than its cost has a step that costs nothing. -/
theorem exists_free {s : σ} {es : List ε} (h : totalCost step cost s es < es.length) :
    ∃ n e, n ≤ totalCost step cost s es ∧ es[n]? = some e ∧
      cost (run step s (es.take n)) e = 0 := by
  induction es generalizing s with
  | nil => exact absurd h (by simp [totalCost])
  | cons e es ih =>
    obtain hz | hp := Nat.eq_zero_or_pos (cost s e)
    · exact ⟨0, e, by simp, rfl, hz⟩
    · simp only [totalCost, List.length_cons] at h ⊢
      obtain ⟨n, e', hn, he, hc⟩ := ih (s := step s e) (by omega)
      exact ⟨n + 1, e', by omega, he, hc⟩

end Cost

/-! ## Refinement

A machine refines a relation on its abstract states when every permitted step
is a path of the relation. -/

section Refinement

variable {τ : Type*} {f : σ → τ} {M : τ → τ → Prop} {J : τ → Prop}

/-- What the abstract relation preserves holds along its paths. -/
theorem path_invariant (hM : ∀ a b, M a b → J a → J b) {a b : τ}
    (hp : Relation.ReflTransGen M a b) (ha : J a) : J b := by
  induction hp with
  | refl => exact ha
  | tail _ hm ih => exact hM _ _ hm ih

/-- **The refinement rule.** An invariant of the abstract relation is one of
every machine that refines it; the refinement itself may rely on it. -/
theorem run_invariant_of_path
    (hstep : ∀ s e, P s e → J (f s) → Relation.ReflTransGen M (f s) (f (step s e)))
    (hM : ∀ a b, M a b → J a → J b) {s : σ} {es : List ε}
    (hs : J (f s)) (ha : Along step P s es) : J (f (run step s es)) :=
  run_invariant (I := fun s => J (f s))
    (fun s e hp hj => path_invariant hM (hstep s e hp hj) hj) hs ha

end Refinement

end Machine
