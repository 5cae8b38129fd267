import RooWifi.Esp32.Strongest

/-! # What a selection scan leaves in the cache

The candidates of a scan are its records, as far as the policy allows them, each
with what the previous cache still holds against its access point. Insertion
into three slots leaves the first three of their stable sort. -/
namespace RooWifi

open BoundedInsertion (Slots Cells insertAll level)

namespace Esp32Station

/-! ## The purpose of `rememberCandidates` -/

/-- A previous candidate of the same access point and mode whose cache or
cooldown has not expired. -/
def Relevant (expire now : Nat) (ap : WifiApRecord) (old : Candidate) : Prop :=
  (old.bssid = ap.bssid ∧ old.auth = ap.authmode) ∧ (now < expire ∨ now < old.retryAfter)

instance (expire now : Nat) (ap : WifiApRecord) (old : Candidate) :
    Decidable (Relevant expire now ap old) :=
  inferInstanceAs (Decidable (_ ∧ _))

/-- A record with the failures and the cooldown of the first relevant candidate,
or none of either. -/
def carried (previous : List Candidate) (expire now : Nat) (ap : WifiApRecord) : Candidate :=
  let old := previous.find? fun c => decide (Relevant expire now ap c)
  { bssid := ap.bssid, channel := ap.primary, rssi := ap.rssi, auth := ap.authmode
    failures := (old.map Candidate.failures).getD 0
    retryAfter := (old.map Candidate.retryAfter).getD 0 }

/-- Not cooling before cooling, then decreasing reception. -/
def standsBefore (now : Nat) (a b : Candidate) : Bool :=
  (¬ now < a.retryAfter ∧ now < b.retryAfter) ∨
    ((now < a.retryAfter ↔ now < b.retryAfter) ∧ b.rssi ≤ a.rssi)

/-- The first three of the compatible records, in a stable sort. -/
def bestThree (s : Esp32Station) (now : Nat) (aps : List WifiApRecord) : List Candidate :=
  (((aps.filter fun ap => SecurityAllows s.config_.security (Auth ap.authmode)).map
    (carried s.candidates_.items s.candidatesExpire_ now)).mergeSort (standsBefore now)).take 3

/-! ## The code -/

theorem candidateOf_eq_carried (previous : List Candidate) (expire now : Nat) :
    candidateOf previous expire now = carried previous expire now := by
  funext ap
  have same : relevant expire now ap = fun old => decide (Relevant expire now ap old) := by
    funext old
    simp only [relevant, Relevant, and_assoc, gt_iff_lt]
  unfold candidateOf carried
  rw [same]
  cases previous.find? fun old => decide (Relevant expire now ap old) <;> rfl

theorem level_precedes (now : Nat) : level (precedes now) = standsBefore now := by
  funext a b
  simp only [level, precedes, standsBefore]
  have stronger : decide (b.rssi > a.rssi) = !decide (b.rssi ≤ a.rssi) := by
    rw [← decide_not, decide_eq_decide]
    exact Int.not_le.symm
  by_cases ha : now < a.retryAfter <;> by_cases hb : now < b.retryAfter <;>
    simp [ha, hb, stronger]

theorem arrivals_eq (s : Esp32Station) (now : Nat) (aps : List WifiApRecord) :
    arrivals s.config_ s.candidates_.items s.candidatesExpire_ now aps =
      (aps.filter fun ap => SecurityAllows s.config_.security (Auth ap.authmode)).map
        (carried s.candidates_.items s.candidatesExpire_ now) := by
  rw [arrivals, candidateOf_eq_carried]

theorem items_arrivals (s : Esp32Station) (now : Nat) (aps : List WifiApRecord)
    {next : Slots Candidate 3} (empty : next.items = []) :
    (insertAll (precedes now)
      (arrivals s.config_ s.candidates_.items s.candidatesExpire_ now aps) next).items =
        s.bestThree now aps := by
  rw [(ranking_precedes now).items_insertAll _ empty, level_precedes, arrivals_eq]
  rfl

/-- The loops of `rememberCandidates` over an array `next` that nothing bounds. -/
def rememberInto (s : Esp32Station) (now : Nat) (aps : List WifiApRecord)
    (next : Nat → Candidate) : Cells Candidate :=
  Cells.insertAll 3 (precedes now)
    (arrivals s.config_ s.candidates_.items s.candidatesExpire_ now aps) ⟨next, 0⟩

/-- **Bounded insertion is sorting and cutting.** The cache holds the best three
candidates in order, and nothing is written outside its three slots. -/
theorem rememberCandidates_sorts (s : Esp32Station) (now : Nat) (aps : List WifiApRecord) :
    (s.rememberCandidates now aps).candidates_.items = s.bestThree now aps ∧
      ∀ next : Nat → Candidate,
        (s.rememberInto now aps next).items = s.bestThree now aps ∧
          (s.rememberInto now aps next).retained ≤ 3 ∧
          ∀ i, 3 ≤ i → (s.rememberInto now aps next).cell i = next i := by
  refine ⟨s.items_arrivals now aps (Slots.items_fresh (n := 3) {}), ?_⟩
  intro next
  -- the slots whose contents are the first three of these cells
  have start : Cells.Holds ⟨next, 0⟩ (⟨.ofFn fun i => next i, 0, Nat.zero_le 3⟩ : Slots _ 3) :=
    ⟨rfl, fun i h => by simp⟩
  obtain ⟨holds, outside⟩ := start.insertAll (precedes now)
    (arrivals s.config_ s.candidates_.items s.candidatesExpire_ now aps)
  refine ⟨?_, ?_, outside⟩
  · exact holds.items.trans (s.items_arrivals now aps List.take_zero)
  · exact holds.retained.trans_le (Slots.le _)

end Esp32Station

end RooWifi
