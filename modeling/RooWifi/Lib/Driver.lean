import RooWifi.Lib.Storage

/-! # Storage programs over a driver

A driver serves the reads, writes and erases of a program on a state of its
own. It is sound for a view of that state as fields when each single call does
what `Exec` permits; then whole programs do. -/
namespace Storage

variable {K B E σ α : Type}

structure Driver (K B E σ : Type) where
  read : K → Nat → σ → Except E (List B) × σ
  write : K → List B → σ → Bool × σ
  erase : K → σ → Bool × σ

/-- A program whose calls the driver serves. -/
def Prog.drive (d : Driver K B E σ) : Prog K B E α → σ → α × σ
  | .ret a, s => (a, s)
  | .read key capacity next, s =>
    let (r, s) := d.read key capacity s
    (next r).drive d s
  | .write key data next, s =>
    let (ok, s) := d.write key data s
    (next ok).drive d s
  | .erase key next, s =>
    let (ok, s) := d.erase key s
    (next ok).drive d s

/-- Each call of the driver is a permitted one on the fields it shows. -/
structure Driver.Sound [DecidableEq K] (errors : Errors E) (fails : E → Prop)
    (d : Driver K B E σ) (view : σ → Fields K B) : Prop where
  answers : ∀ key capacity s,
    ReadOutcome errors fails (view s) key capacity (d.read key capacity s).1
  reads : ∀ key capacity s, view (d.read key capacity s).2 = view s
  writes : ∀ key data s, MutationOutcome (view s) (commit (view s) key (some data))
    (d.write key data s).1 (view (d.write key data s).2)
  erases : ∀ key s, MutationOutcome (view s) (commit (view s) key none)
    (d.erase key s).1 (view (d.erase key s).2)

theorem Driver.Sound.mono [DecidableEq K] {errors : Errors E} {fails more : E → Prop}
    {d : Driver K B E σ} {view : σ → Fields K B} (sound : d.Sound errors fails view)
    (h : ∀ err, fails err → more err) : d.Sound errors more view where
  answers key capacity s :=
    (sound.answers key capacity s).imp_right fun ⟨err, failed, r⟩ => ⟨err, h err failed, r⟩
  reads := sound.reads
  writes := sound.writes
  erases := sound.erases

/-- **A sound driver executes programs.** -/
theorem Driver.Sound.exec [DecidableEq K] {errors : Errors E} {fails : E → Prop}
    {d : Driver K B E σ} {view : σ → Fields K B} (sound : d.Sound errors fails view)
    (p : Prog K B E α) (s : σ) :
    Exec errors fails p (view s) (p.drive d s).1 (view (p.drive d s).2) := by
  induction p generalizing s with
  | ret a => exact ⟨rfl, rfl⟩
  | read key capacity next ih =>
    refine ⟨_, sound.answers key capacity s, ?_⟩
    have rest := ih (d.read key capacity s).1 (d.read key capacity s).2
    rwa [sound.reads] at rest
  | write key data next ih => exact ⟨_, _, sound.writes key data s, ih _ _⟩
  | erase key next ih => exact ⟨_, _, sound.erases key s, ih _ _⟩

/-- What reads and the mutations of a footprint keep, its programs keep. -/
theorem drive_invariant {d : Driver K B E σ} {S : Set (K × Option (List B))} {I : σ → Prop}
    (reads : ∀ key capacity s, I s → I (d.read key capacity s).2)
    (writes : ∀ key data s, (key, some data) ∈ S → I s → I (d.write key data s).2)
    (erases : ∀ key s, (key, none) ∈ S → I s → I (d.erase key s).2)
    {p : Prog K B E α} (within : Within S p) {s : σ} (hs : I s) : I (p.drive d s).2 := by
  induction p generalizing s with
  | ret a => exact hs
  | read key capacity next ih => exact ih _ (within _) (reads key capacity s hs)
  | write key data next ih => exact ih _ (within.2 _) (writes key data s within.1 hs)
  | erase key next ih => exact ih _ (within.2 _) (erases key s within.1 hs)

end Storage
