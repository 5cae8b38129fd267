import RooWifi.Esp32.Cooldown

/-! # Which candidate is selected

The cached candidates are ordered once, when a selection scan finishes: those
that are not cooling first, each group by reception. They are searched later,
and the first whose cooldown has expired by then is the strongest unless a
candidate ordered among the cooling ones has recovered meanwhile. -/
namespace RooWifi

open BoundedInsertion (Slots Ranked Ranking insertAll)

namespace Esp32Station

/-! ## The order of the cache -/

/-- `late` says of each candidate whether it was ordered among the cooling ones:
those come last, and each group is ordered by reception. -/
structure Arranged (items : List Candidate) (late : List Bool) : Prop where
  covered : items.length ≤ late.length
  sorted : (items.zip late).Pairwise fun a b =>
    (a.2 = true → b.2 = true) ∧ (a.2 = b.2 → b.1.rssi ≤ a.1.rssi)

/-- A candidate ordered among the cooling ones has recovered, and is stronger than
every other candidate that is not cooling, of which there is one. -/
def Overtaken (now : Nat) (items : List Candidate) (late : List Bool) : Prop :=
  ∃ x ∈ items.zip late, x.2 = true ∧ expired now x.1 = true ∧
    (∃ y ∈ items.zip late, y.2 = false ∧ expired now y.1 = true) ∧
    ∀ y ∈ items.zip late, y.2 = false → expired now y.1 = true → y.1.rssi < x.1.rssi

instance (now : Nat) (items : List Candidate) (late : List Bool) :
    Decidable (Overtaken now items late) :=
  inferInstanceAs (Decidable (∃ _ ∈ _, _))

theorem exists_mem_zip {items : List Candidate} {late : List Bool} {x : Candidate}
    (covered : items.length ≤ late.length) (mem : x ∈ items) : ∃ b, (x, b) ∈ items.zip late := by
  induction items generalizing late with
  | nil => cases mem
  | cons a items ih =>
    cases late with
    | nil => cases covered
    | cons b late =>
      rcases List.mem_cons.mp mem with rfl | mem
      · exact ⟨b, List.mem_cons_self⟩
      · obtain ⟨b', there⟩ := ih (Nat.le_of_succ_le_succ covered) mem
        exact ⟨b', List.mem_cons_of_mem _ there⟩

/-- Where the first candidate is not cooling. -/
theorem Arranged.head_strongest {now : Nat} {c : Candidate} {b : Bool} {items : List Candidate}
    {late : List Bool} (h : Arranged (c :: items) (b :: late)) (free : expired now c = true) :
    (∀ x ∈ c :: items, expired now x = true → x.rssi ≤ c.rssi) ↔
      ¬ Overtaken now (c :: items) (b :: late) := by
  obtain ⟨after, -⟩ := List.pairwise_cons.mp h.sorted
  constructor
  · rintro strongest ⟨x, mem, late_, recovered, ⟨y, there, early, -⟩, stronger⟩
    have bound := strongest x.1 (List.of_mem_zip mem).1 recovered
    -- an early candidate at or after `c` makes `c` an early one
    have head : b = false := by
      rcases List.mem_cons.mp there with rfl | there
      · exact early
      · by_contra later
        exact absurd ((after y there).1 (by simpa using later)) (by simp [early])
    exact Int.not_lt.mpr bound (stronger (c, b) List.mem_cons_self head free)
  · intro kept x mem recovered
    rcases List.mem_cons.mp mem with rfl | mem
    · exact Int.le_refl _
    obtain ⟨b', there⟩ := exists_mem_zip (Nat.le_of_succ_le_succ h.covered) mem
    by_cases same : b = b'
    · exact (after _ there).2 same
    have flags : b = false ∧ b' = true := by
      cases b with
      | false => exact ⟨rfl, by simpa using Ne.symm same⟩
      | true => exact absurd ((after _ there).1 rfl) (Ne.symm same)
    obtain ⟨rfl, rfl⟩ := flags
    by_contra weaker
    refine kept ⟨(x, true), List.mem_cons_of_mem _ there, rfl, recovered,
      ⟨(c, false), List.mem_cons_self, rfl, free⟩, ?_⟩
    intro y mem early _
    rcases List.mem_cons.mp mem with rfl | mem
    · simpa using weaker
    · have := (after y mem).2 early.symm
      dsimp only at this ⊢
      omega

/-- **The first candidate that is not cooling is the strongest** unless one that
was ordered last has recovered. -/
theorem Arranged.strongest_iff {now : Nat} {c : Candidate} {items : List Candidate}
    {late : List Bool} (h : Arranged items late) (found : items.find? (expired now) = some c) :
    (∀ x ∈ items, expired now x = true → x.rssi ≤ c.rssi) ↔ ¬ Overtaken now items late := by
  induction items generalizing late with
  | nil => cases found
  | cons a items ih =>
    cases late with
    | nil => cases h.covered
    | cons b late =>
      rw [List.find?_cons] at found
      split at found
      · rename_i free
        cases found
        exact h.head_strongest free
      · rename_i cooling
        have rest : Arranged items late :=
          ⟨Nat.le_of_succ_le_succ h.covered, (List.pairwise_cons.mp h.sorted).2⟩
        have := ih rest found
        simpa [Overtaken, cooling] using this

/-! ## What keeps the order -/

theorem arranged_nil (late : List Bool) : Arranged [] late :=
  ⟨Nat.zero_le _, List.Pairwise.nil⟩

/-- Only reception counts. -/
theorem Arranged.congr {items items' : List Candidate} {late : List Bool} (h : Arranged items late)
    (same : items'.map Candidate.rssi = items.map Candidate.rssi) : Arranged items' late := by
  have sorted (l : List Candidate) : ((l.map Candidate.rssi).zip late).Pairwise (fun a b =>
      (a.2 = true → b.2 = true) ∧ (a.2 = b.2 → b.1 ≤ a.1)) ↔ (l.zip late).Pairwise fun a b =>
        (a.2 = true → b.2 = true) ∧ (a.2 = b.2 → b.1.rssi ≤ a.1.rssi) := by
    rw [List.zip_map_left, List.pairwise_map]
    rfl
  constructor
  · have length := congrArg List.length same
    rw [List.length_map, List.length_map] at length
    exact length ▸ h.covered
  · rw [← sorted, same, sorted]
    exact h.sorted

/-- A finished scan orders its candidates. -/
theorem arranged_remembered (c : Cache) (now : Nat) (aps : List WifiApRecord) :
    Arranged (c.remembered now aps) ((c.remembered now aps).map fun x => x.retryAfter > now) := by
  have ranked : Ranked (precedes now) (c.remembered now aps) :=
    (ranking_precedes now).insertAll (by simp [Ranked])
  refine ⟨Nat.le_of_eq (List.length_map _).symm, ?_⟩
  have zipped : (c.remembered now aps).zip
      ((c.remembered now aps).map fun x => decide (x.retryAfter > now)) =
      (c.remembered now aps).map fun x => (x, decide (x.retryAfter > now)) := by
    rw [← List.zip_map', List.map_id']
  rw [zipped, List.pairwise_map]
  refine ranked.imp fun {a b} level => ?_
  simp only [precedes] at level
  grind

theorem rssi_penalised (o : SelectionOptions) (now : Nat) (f : ConnectionFailure) (c : Candidate) :
    (penalised o now f c).rssi = c.rssi := rfl

theorem rssi_renewed (c : Candidate) : c.renewed.rssi = c.rssi := by
  unfold Candidate.renewed
  split <;> rfl

theorem rssi_forgiven (bssid : MacAddress) (c : Candidate) :
    (forgiven bssid c).rssi = c.rssi := by
  unfold forgiven
  split <;> rfl

theorem Arranged.move {c : Cache} {late : List Bool} (h : Arranged c.items late) {m : Move}
    (cached : ∀ now aps, m ≠ .remember now aps) : Arranged (c.move m).items late := by
  cases m with
  | clear => exact arranged_nil late
  | store config =>
    dsimp only [Cache.move]
    split
    · exact h
    · exact arranged_nil late
  | remember now aps => exact absurd rfl (cached now aps)
  | fail now f => exact h.congr (Slots.map_updateFirst _ (rssi_penalised _ now f) _)
  | forgive bssid =>
    refine h.congr ?_
    simp only [Cache.move, List.map_map]
    exact List.map_congr_left fun x _ => rssi_forgiven bssid x
  | select now =>
    simp only [Cache.move]
    split
    · exact h
    · exact h.congr (Slots.map_updateFirst _ rssi_renewed _)

/-! ## Runs -/

/-- A station with which of its candidates were ordered among the cooling ones. -/
structure Ordered where
  station : Esp32Station := {}
  late : List Bool := []

def Ordered.initial (options : SelectionOptions) : Ordered :=
  { station := { selectionOptions_ := options } }

def Ordered.step (t : Ordered) (input : Input) : Ordered :=
  { station := t.station.step input
    late := match t.station.finished input with
      | some aps =>
        (t.station.cache.remembered (input.idf.now 0) aps).map
          fun x => x.retryAfter > input.idf.now 0
      | none => t.late }

/-- The station a step calls `selectCandidate` on. -/
def selectsFrom (s : Esp32Station) (input : Input) : Option Esp32Station :=
  match input.action with
  | .connect config credentials =>
    if s.admits config ∧ input.idf.now 0 < s.candidatesExpire_ then
      some (s.store config credentials)
    else none
  | _ => match s.finished input with
    | some aps =>
      some ({ s with selecting_ := false }.rememberCandidates (input.idf.now 0) aps)
    | none => none

/-- The candidates of a run are arranged. -/
theorem Arranged.step {t : Ordered} (h : Arranged t.station.cache.items t.late) (input : Input) :
    Arranged (t.step input).station.cache.items (t.step input).late := by
  have moved : (t.step input).station.cache = _ := t.station.cache_step input
  rw [moved]
  cases fin : t.station.finished input with
  | some aps =>
    have ordered := arranged_remembered t.station.cache (input.idf.now 0) aps
    simp only [Ordered.step, fin, moves_finished fin]
    exact Arranged.move (c := t.station.cache.move (.remember _ aps)) ordered (m := .select _) nofun
  | none =>
    have rescan {m : Move} (mem : m ∈ t.station.moves input) (now : Nat)
        (aps : List WifiApRecord) : m ≠ .remember now aps := by
      rintro rfl
      cases fin.symm.trans (origin mem).1
    simp only [Ordered.step, fin]
    rcases moves_cases t.station input with none_ | ⟨m, one | two⟩
    · rw [none_]
      exact h
    · rw [one]
      exact h.move (rescan (by simp [one]))
    · rw [two]
      have first := h.move (rescan (m := m) (by simp [two]))
      exact first.move (m := .select _) nofun

theorem arranged_run (options : SelectionOptions) (inputs : List Input) :
    let t := Machine.run Ordered.step (.initial options) inputs
    Arranged t.station.cache.items t.late := by
  refine Machine.run_invariant_all (I := fun t : Ordered => Arranged t.station.cache.items t.late)
    (fun t input h => h.step input) ?_ inputs
  rw [show (Ordered.initial options).station.cache.items = [] from Slots.items_fresh (n := 3) {}]
  exact arranged_nil _

/-- What `selectCandidate` is called on is arranged. -/
theorem arranged_selectsFrom {t : Ordered} (h : Arranged t.station.cache.items t.late)
    {input : Input} {s : Esp32Station} (selects : t.station.selectsFrom input = some s) :
    Arranged s.cache.items (t.step input).late := by
  unfold selectsFrom at selects
  split at selects
  · rename_i config credentials action
    split at selects
    · cases selects
      have none_ : t.station.finished input = none := by simp only [finished, action]
      rw [cache_store]
      simp only [Ordered.step, none_]
      exact h.move (m := .store config) fun _ _ => Move.noConfusion
    · cases selects
  · split at selects
    · rename_i aps fin
      cases selects
      simp only [Ordered.step, fin]
      exact arranged_remembered t.station.cache (input.idf.now 0) aps
    · cases selects

/-- A selection scan that finishes is handled as such. -/
theorem perform_finished {s : Esp32Station} {input : Input} {aps : List WifiApRecord}
    (h : s.finished input = some aps) :
    s.scanCancelled_ = false ∧ ∃ code,
      s.perform input = (.kOk, s.selectionDone input.idf (some aps) code) := by
  obtain ⟨action, idf⟩ := input
  unfold finished at h
  split at h
  · rename_i status action
    cases action
    split at h
    · rename_i fresh
      obtain ⟨receiver, selecting, running, rfl, ok⟩ := fresh
      have ok : idf.scanGetApRecords = 0 := ok
      cases h
      refine ⟨by simpa using running, 0, ?_⟩
      simp only [perform, event, scanDone, receiver, selecting, ok, Bool.not_true,
        Bool.false_and, Bool.false_eq_true, if_false, if_true, and_self, decide_true]
      rfl
    · cases h
  · cases h

/-- A step ends in what `selectCandidate` leaves, where that succeeds. -/
theorem step_of_selects {s s₀ s₁ : Esp32Station} {input : Input}
    (selects : s.selectsFrom input = some s₀)
    (picked : s₀.selectCandidate (input.idf.now 1) = some s₁) : s.step input = s₁ := by
  unfold selectsFrom at selects
  split at selects
  · rename_i config credentials action
    split at selects
    · rename_i admitted
      cases selects
      simp only [step, perform, action]
      rcases s.connect_cases input.idf credentials admitted.1 with
        ⟨s', -, found, returned⟩ | ⟨missed, -⟩
      · cases found.symm.trans picked
        rw [returned]
      · cases (missed admitted.2).symm.trans picked
    · cases selects
  · split at selects
    · rename_i aps fin
      cases selects
      obtain ⟨running, code, performed⟩ := perform_finished fin
      rw [step, performed]
      rcases s.selectionDone_cases input.idf aps code running with
        ⟨s', found, returned⟩ | ⟨missed, -⟩
      · cases found.symm.trans picked
        rw [returned]
      · cases missed.symm.trans picked
    · cases selects

/-- **The exact condition of selecting the strongest.** In every run, what
`selectCandidate` selects is the strongest cached candidate that is not cooling,
if and only if no candidate that was ordered among the cooling ones has
recovered and is stronger than all others. -/
theorem selected_strongest_iff (options : SelectionOptions) (inputs : List Input) (input : Input)
    {s₀ s₁ : Esp32Station} :
    let t := Machine.run Ordered.step (.initial options) inputs
    t.station.selectsFrom input = some s₀ →
    s₀.selectCandidate (input.idf.now 1) = some s₁ →
    t.station.step input = s₁ ∧
      ((∀ c ∈ s₀.candidates_.items, expired (input.idf.now 1) c = true →
          c.rssi ≤ s₁.selected_.rssi) ↔
        ¬ Overtaken (input.idf.now 1) s₀.candidates_.items (t.step input).late) := by
  intro t selects picked
  refine ⟨step_of_selects selects picked, ?_⟩
  obtain ⟨c, found, selected⟩ := selected_of_picked picked
  have arranged := arranged_selectsFrom (arranged_run options inputs) selects
  rw [selected]
  exact arranged.strongest_iff found

/-- A scan that reports the cooling access point and a weaker one, selected and
cancelled. -/
def recovering : List Input :=
  attempting ++ [absent, { action := .connect SameConfig {}, idf := atSecond 3 [] },
    rescan 4 [SameAp 1 (-40), SameAp 2 (-60)], { action := .disconnect, idf := atSecond 5 [] }]

/-- The stronger access point recovers before the cache expires: a connect then
still selects the weaker one. -/
theorem weaker_selected :
    let s := Machine.run step {} recovering
    let input : Input := { action := .connect SameConfig {}, idf := atSecond 33 [] }
    ∃ s₀ s₁, s.selectsFrom input = some s₀ ∧ s₀.selectCandidate (input.idf.now 1) = some s₁ ∧
      ∃ c ∈ s₀.candidates_.items, expired (input.idf.now 1) c = true ∧
        s₁.selected_.rssi < c.rssi :=
  ⟨_, _, rfl, rfl, by decide +kernel⟩

/-- A first scan finds two access points, and the stronger one is selected. -/
theorem selected_strongest_same :
    let t := Machine.run Ordered.step (.initial {})
      [{ action := .attach }, { action := .connect SameConfig {} }]
    let input := rescan 1 [SameAp 1 (-70), SameAp 2 (-40)]
    ∃ s₀ s₁, t.station.selectsFrom input = some s₀ ∧
      s₀.selectCandidate (input.idf.now 1) = some s₁ ∧
      ∀ c ∈ s₀.candidates_.items, expired (input.idf.now 1) c = true →
        c.rssi ≤ s₁.selected_.rssi :=
  ⟨_, _, rfl, rfl, (selected_strongest_iff {} [{ action := .attach },
    { action := .connect SameConfig {} }] (rescan 1 [SameAp 1 (-70), SameAp 2 (-40)]) rfl rfl).2.mpr
      (by decide +kernel)⟩

end Esp32Station

end RooWifi
