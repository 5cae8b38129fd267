import RooWifi.Esp32.Policy

/-! # Cooldowns across rescans

The penalty of an access point lives in the three cached candidates that every
selection scan rebuilds. It survives as long as each scan reports the access
point and ranks fewer than three others before it; otherwise the penalty is
forgotten, and the access point selected before its cooldown is over. -/
namespace RooWifi

open BoundedInsertion (Slots Ranking insertAll)

namespace Esp32Station

/-! ## What is observed -/

/-- The access point a step prepares. -/
def prepares (s : Esp32Station) (input : Input) : Option Identity :=
  let (_, s', posted) := s.perform input
  if posted.any (fun e => e.kind = .kPrepared) then
    some (s'.selected_.bssid, s'.selected_.authmode)
  else none

/-- No access point is selected before its cooldown ends, unless an address was
validated for it meanwhile. -/
def CooldownsHold (s : Esp32Station) (inputs : List Input) : Prop :=
  ∀ before failing between selecting after ap deadline,
    inputs = before ++ failing :: (between ++ selecting :: after) →
    (Machine.run step s before).cools failing = some (ap, deadline) →
    Machine.Along step (fun s input => s.validated input ≠ some ap.1)
      (Machine.run step s (before ++ [failing])) between →
    (Machine.run step s (before ++ failing :: between)).prepares selecting = some ap →
    deadline ≤ selecting.idf.now 1

/-! ## Conditions -/

/-- Every reading of the clock is no earlier than those before it. -/
def Clocked (inputs : List Input) : Prop :=
  (∀ input ∈ inputs, input.idf.now 0 ≤ input.idf.now 1) ∧
    inputs.Pairwise fun a b => a.idf.now 1 ≤ b.idf.now 0

/-- Every connect is for the same network, policy and visibility; the radio is
neither disabled nor detached. -/
def Steady (network : ConnectionConfig) (input : Input) : Bool :=
  match input.action with
  | .connect config _ => sameSelection network config
  | .detach => false
  | .enable enabled => enabled
  | _ => true

/-- Some arrival from the access point `ap` has fewer than three others going before it. -/
def Spared (now : Nat) (ap : Identity) (xs : List Candidate) : Prop :=
  ∃ i : Fin xs.length, xs[i].identity = ap ∧
    (xs.take i).countP (fun y => !precedes now xs[i] y) +
      (xs.drop (i + 1)).countP (fun z => precedes now z xs[i]) < 3

instance (now : Nat) (ap : Identity) (xs : List Candidate) : Decidable (Spared now ap xs) :=
  inferInstanceAs (Decidable (∃ _, _))

/-- A step forgets no cooldown: a finished scan spares every access point that is
cooling, and one that is put into cooldown is cached once. -/
structure Keeps (s : Esp32Station) (input : Input) : Prop where
  spares : ∀ aps ∈ s.finished input, ∀ x ∈ s.candidates_.items,
    input.idf.now 0 < x.retryAfter → Spared (input.idf.now 0) x.identity
      (arrivals s.config_ s.candidates_.items s.candidatesExpire_ (input.idf.now 0) aps)
  once : ∀ cooled ∈ s.cools input,
    s.candidates_.items.countP (fun c => c.identity = cooled.1) ≤ 1

instance (s : Esp32Station) (input : Input) : Decidable (s.Keeps input) :=
  decidable_of_iff (_ ∧ _) ⟨fun h => ⟨h.1, h.2⟩, fun h => ⟨h.1, h.2⟩⟩

/-! ## The network stays the same -/

theorem sameSelection_iff (a b : ConnectionConfig) :
    sameSelection a b = true ↔ a.ssid.size.toNat ≤ 32 ∧ SameRequest a b := by
  constructor
  · intro h
    refine ⟨?_, sameRequest_of_sameSelection h⟩
    simp only [sameSelection, Ssid.eq, Bool.and_eq_true, decide_eq_true_eq] at h
    exact h.1.1.1.1
  · rintro ⟨short, same⟩
    simp [sameSelection, Ssid.eq, same.size, same.ssid, same.security, same.hidden,
      same.size ▸ short]

theorem SameRequest.symm {a b : ConnectionConfig} (h : SameRequest a b) : SameRequest b a :=
  ⟨h.size.symm, h.ssid.symm, h.security.symm, h.hidden.symm⟩

/-- Two configurations for one network select the same. -/
theorem sameSelection_of_network {network a b : ConnectionConfig}
    (ha : sameSelection network a = true) (hb : sameSelection network b = true) :
    sameSelection a b = true := by
  obtain ⟨short, ha⟩ := (sameSelection_iff network a).mp ha
  obtain ⟨-, hb⟩ := (sameSelection_iff network b).mp hb
  exact (sameSelection_iff a b).mpr ⟨ha.size ▸ short, ha.symm.trans hb⟩

/-- What is cached, or being scanned for, is of the network. -/
def Anchored (network : ConnectionConfig) (s : Esp32Station) : Prop :=
  s.selecting_ = true ∨ s.candidates_.items ≠ [] → sameSelection network s.config_ = true

theorem items_move_nil {c : Cache} {m : Move} (empty : c.items = [])
    (rescan : ∀ now aps, m ≠ .remember now aps) : (c.move m).items = [] := by
  cases m with
  | remember now aps => exact absurd rfl (rescan now aps)
  | clear => rfl
  | store config =>
    dsimp only [Cache.move]
    split
    · exact empty
    · rfl
  | fail now f => simp [Cache.move, empty, Slots.updateFirst]
  | forgive bssid => simp [Cache.move, empty]
  | select now => simp [Cache.move, empty]

/-- Candidates are only found by a selection scan. -/
theorem items_step_nil {s : Esp32Station} {input : Input} (empty : s.candidates_.items = [])
    (idle : s.selecting_ = false) : (s.step input).candidates_.items = [] := by
  have rescan : ∀ m ∈ s.moves input, ∀ now aps, m ≠ .remember now aps := by
    rintro m mem now aps rfl
    have selecting := finished_selecting (origin mem).1
    exact absurd selecting (by simp [idle])
  change (s.step input).cache.items = []
  rw [cache_step]
  rcases moves_cases s input with none_ | ⟨m, one | two⟩
  · rw [none_]
    exact empty
  · rw [one] at rescan ⊢
    exact items_move_nil empty (rescan m (by simp))
  · rw [two] at rescan ⊢
    have first : (s.cache.move m).items = [] := items_move_nil empty (rescan m (by simp))
    exact items_move_nil first (rescan (.select (input.idf.now 1)) (by simp))

theorem Anchored.step {network : ConnectionConfig} {s : Esp32Station} (h : Anchored network s)
    {input : Input} (steady : Steady network input) : Anchored network (s.step input) := by
  intro used
  by_cases connects : ∃ config secret, input.action = .connect config secret ∧
      s.admits config = true
  · obtain ⟨config, secret, action, admitted⟩ := connects
    have stored := (connect_stores s input.idf secret admitted).2
    simp only [Steady, action] at steady
    simp only [Esp32Station.step, perform, action]
    rw [stored]
    exact steady
  · rw [(s.config_step input).resolve_right connects]
    refine h ?_
    rcases used with selecting | cached
    · exact .inl ((selecting_step selecting).resolve_right connects)
    · cases idle : s.selecting_ with
      | true => exact .inl rfl
      | false => exact .inr fun empty => cached (items_step_nil empty idle)

/-! ## A cooldown survives -/

/-- The access point `ap` is cached, and cooling until `deadline`. -/
structure Cooling (ap : Identity) (deadline : Nat) (items : List Candidate) : Prop where
  cached : ∃ x ∈ items, x.identity = ap
  until_ : ∀ x ∈ items, x.identity = ap → deadline ≤ x.retryAfter

/-- What a move must not do to a cooldown. -/
def Harmless (ap : Identity) (deadline : Nat) (c : Cache) : Move → Prop
  | .clear => False
  | .store config => sameSelection c.config config = true
  | .remember now aps => now < deadline ∧
      Spared now ap (arrivals c.config c.items c.expire now aps)
  | .fail now _ => deadline ≤ now + Millis c.options.failureCooldownMs
  | .forgive bssid => bssid ≠ ap.1
  | .select _ => True

theorem ranking_precedes (now : Nat) : Ranking (precedes now) := by
  constructor
  · intro a b
    simp only [precedes]
    grind
  · intro a b c
    simp only [precedes]
    grind

/-- A failure never shortens a cooldown. -/
theorem le_penalised {o : SelectionOptions} {now deadline : Nat} {f : ConnectionFailure}
    {c : Candidate} (later : deadline ≤ now + Millis o.failureCooldownMs)
    (h : deadline ≤ c.retryAfter) : deadline ≤ (penalised o now f c).retryAfter := by
  unfold penalised
  dsimp only
  repeat' split
  all_goals assumption

/-- A record from a cooling access point takes the penalty over. -/
theorem candidateOf_cooling {ap : Identity} {deadline expire now : Nat} {items : List Candidate}
    (h : Cooling ap deadline items) (early : now < deadline) {r : WifiApRecord}
    (same : (r.bssid, r.authmode) = ap) :
    deadline ≤ (candidateOf items expire now r).retryAfter := by
  obtain ⟨x, mem, identity⟩ := h.cached
  have cooling := h.until_ x mem identity
  cases found : items.find? (relevant expire now r) with
  | none =>
    -- the cached penalty has not expired, so it is relevant
    have ignored := List.find?_eq_none.mp found x mem
    simp only [Candidate.identity, ← same, Prod.mk.injEq] at identity
    simp [relevant, identity.1, identity.2] at ignored
    omega
  | some old =>
    have taken : relevant expire now r old = true := List.find?_some found
    simp only [relevant, decide_eq_true_eq] at taken
    simp only [candidateOf, found]
    refine h.until_ old (List.mem_of_find?_eq_some found) ?_
    rw [← same, Candidate.identity, taken.1, taken.2.1]

/-- A scan that spares a cooling access point carries its penalty over. -/
theorem Cooling.remember {ap : Identity} {deadline now : Nat} {c : Cache} {aps : List WifiApRecord}
    (h : Cooling ap deadline c.items) (early : now < deadline)
    (spared : Spared now ap (arrivals c.config c.items c.expire now aps)) :
    Cooling ap deadline (c.remembered now aps) := by
  constructor
  · obtain ⟨i, identity, few⟩ := spared
    have kept := (ranking_precedes now).insertAll_fresh_keeps {} few
    simp only [Fin.getElem_fin, List.getElem_cons_drop, List.take_append_drop] at kept
    exact ⟨_, kept, identity⟩
  · intro x mem identity
    obtain ⟨r, -, -, rfl⟩ := mem_remembered mem
    refine candidateOf_cooling h early ?_
    rw [← identity]
    have record := candidateOf_record c.items c.expire now r
    simp only [Candidate.record, WifiApRecord.mk.injEq] at record
    rw [Candidate.identity, record.2.1, record.2.2.2.2]

/-- Changing an entry keeps a cooldown if it keeps the entry's. -/
theorem Cooling.updateFirst {ap : Identity} {deadline : Nat} {items : List Candidate}
    (h : Cooling ap deadline items) (p : Candidate → Bool) {f : Candidate → Candidate}
    (identity : ∀ c, (f c).identity = c.identity)
    (later : ∀ c, deadline ≤ c.retryAfter → deadline ≤ (f c).retryAfter) :
    Cooling ap deadline (Slots.updateFirst p f items) := by
  constructor
  · obtain ⟨x, mem, same⟩ := h.cached
    rcases Slots.mem_updateFirst_of_mem (p := p) (f := f) mem with stays | changed
    · exact ⟨x, stays, same⟩
    · exact ⟨f x, changed, (identity x).trans same⟩
  · intro x mem same
    rcases Slots.mem_updateFirst mem with old | ⟨y, old, -, rfl⟩
    · exact h.until_ x old same
    · exact later y (h.until_ y old ((identity y).symm.trans same))

/-- **A harmless move keeps the cooldown.** -/
theorem Cooling.move {ap : Identity} {deadline : Nat} {c : Cache} (h : Cooling ap deadline c.items)
    {m : Move} (harmless : Harmless ap deadline c m) : Cooling ap deadline (c.move m).items := by
  cases m with
  | clear => cases harmless
  | store config =>
    simp only [Cache.move, if_pos (show sameSelection c.config config = true from harmless)]
    exact h
  | remember now aps => exact h.remember harmless.1 harmless.2
  | fail now f =>
    exact h.updateFirst _ (penalised_identity _ _ _) fun x => le_penalised harmless
  | forgive bssid =>
    constructor
    · obtain ⟨x, mem, same⟩ := h.cached
      exact ⟨_, List.mem_map_of_mem mem, (forgiven_identity bssid x).trans same⟩
    · intro x mem same
      obtain ⟨y, old, rfl⟩ := List.mem_map.mp mem
      rw [forgiven_identity] at same
      have other : y.bssid ≠ bssid := fun eq => harmless (by rw [← same, ← eq]; rfl)
      rw [forgiven, if_neg other]
      exact h.until_ y old same
  | select now =>
    simp only [Cache.move]
    split
    · exact h
    · refine h.updateFirst _ renewed_identity fun x old => ?_
      rwa [renewed_retryAfter]

/-! ## Steps -/

section Steps

variable {network : ConnectionConfig} {options : SelectionOptions} {ap : Identity} {since : Nat}
  {s : Esp32Station} {input : Input}

/-- When a cooldown begun at `since` ends. -/
def deadline (options : SelectionOptions) (since : Nat) : Nat :=
  since + Millis options.failureCooldownMs

/-- What the cooldown of `ap` begun at `since` needs of a step before its end. -/
structure Patient (network : ConnectionConfig) (options : SelectionOptions) (ap : Identity)
    (since : Nat) (s : Esp32Station) (input : Input) : Prop where
  keeps : s.Keeps input
  steady : Steady network input
  later : since ≤ input.idf.now 0
  early : input.idf.now 0 < deadline options since
  unvalidated : s.validated input ≠ some ap.1

/-- The access point `ap` is held in the cooldown it began at `since`. -/
structure Held (network : ConnectionConfig) (options : SelectionOptions) (ap : Identity)
    (since : Nat) (s : Esp32Station) : Prop where
  anchored : Anchored network s
  configured : s.selectionOptions_ = options
  cooling : Cooling ap (deadline options since) s.cache.items

theorem options_move (c : Cache) (m : Move) : (c.move m).options = c.options := by
  cases m with
  | select now =>
    simp only [Cache.move]
    split <;> rfl
  | _ => rfl

theorem options_step (s : Esp32Station) (input : Input) :
    (s.step input).selectionOptions_ = s.selectionOptions_ := by
  have kept (ms : List Move) (c : Cache) : (c.moveAll ms).options = c.options := by
    induction ms generalizing c with
    | nil => rfl
    | cons m ms ih => rw [Cache.moveAll_cons, ih, options_move]
  have same := congrArg Cache.options (s.cache_step input)
  rwa [kept] at same

/-- Whatever a patient step does to the cache first is harmless. -/
theorem Held.harmless (held : Held network options ap since s)
    (patient : Patient network options ap since s input) {m : Move} (mem : m ∈ s.moves input) :
    Harmless ap (deadline options since) s.cache m := by
  obtain ⟨x, cached, identity⟩ := held.cooling.cached
  have used : s.candidates_.items ≠ [] := List.ne_nil_of_mem cached
  have why := origin mem
  have steady := patient.steady
  cases m with
  | clear =>
    rcases why with action | action <;> exact absurd steady (by simp [Steady, action])
  | store config =>
    obtain ⟨⟨secret, action⟩, -⟩ := why
    simp only [Steady, action] at steady
    exact sameSelection_of_network (held.anchored (.inr used)) steady
  | remember now aps =>
    obtain ⟨fin, rfl⟩ := why
    refine ⟨patient.early, ?_⟩
    have spared := patient.keeps.spares aps fin x cached
      (Nat.lt_of_lt_of_le patient.early (held.cooling.until_ x cached identity))
    rwa [identity] at spared
  | fail now f =>
    obtain ⟨-, rfl⟩ := why
    have same : s.cache.options = options := held.configured
    rw [Harmless, same]
    exact Nat.add_le_add_right patient.later _
  | forgive bssid => exact fun eq => patient.unvalidated (eq ▸ why)
  | select now => trivial

/-- **A patient step keeps the cooldown.** -/
theorem Held.step (held : Held network options ap since s)
    (patient : Patient network options ap since s input) :
    Held network options ap since (s.step input) := by
  refine ⟨held.anchored.step patient.steady, (s.options_step input).trans held.configured, ?_⟩
  have harmless {m : Move} (mem : m ∈ s.moves input) := held.harmless patient mem
  rw [cache_step]
  rcases moves_cases s input with none_ | ⟨m, one | two⟩
  · rw [none_]
    exact held.cooling
  · rw [one]
    exact held.cooling.move (harmless (by simp [one]))
  · rw [two]
    exact (held.cooling.move (harmless (by simp [two]))).move (m := .select _) trivial

theorem moves_failure {f : ConnectionFailure} (h : s.failure input = some f) :
    s.moves input = [.fail (input.idf.now 0) f] := by
  obtain ⟨action, idf⟩ := input
  cases action with
  | continueConnect => simp only [moves, finished, h]
  | event e =>
    cases e with
    | WIFI_EVENT_STA_DISCONNECTED info => simp only [moves, finished, h]
    | _ => cases h
  | _ => cases h

theorem moves_finished {aps : List WifiApRecord} (h : s.finished input = some aps) :
    s.moves input = [.remember (input.idf.now 0) aps, .select (input.idf.now 1)] := by
  obtain ⟨action, idf⟩ := input
  cases action with
  | event e => simp only [moves, h]
  | _ => cases h

theorem moves_validated {bssid : MacAddress} (h : s.validated input = some bssid) :
    s.moves input = [.forgive bssid] := by
  obtain ⟨action, idf⟩ := input
  cases action with
  | event e =>
    cases e with
    | IP_EVENT_STA_GOT_IP info => simp only [moves, finished, failure, h]
    | _ => cases h
  | _ => cases h

/-- An access point cached once is cooling after its penalty. -/
theorem Cooling.penalise {items : List Candidate} {p : Candidate → Bool}
    {f : Candidate → Candidate} {c : Candidate} {deadline : Nat} (found : items.find? p = some c)
    (once : items.countP (fun x => x.identity = c.identity) ≤ 1)
    (identity : (f c).identity = c.identity) (until_ : deadline ≤ (f c).retryAfter) :
    Cooling c.identity deadline (Slots.updateFirst p f items) := by
  refine ⟨⟨f c, Slots.mem_updateFirst_of_find found, identity⟩, ?_⟩
  intro x mem same
  rw [updateFirst_once found once mem (same.trans identity.symm) identity]
  exact until_

/-- The step that puts an access point into cooldown holds it. -/
theorem held_of_cools (anchored : Anchored network s) {ends : Nat}
    (cooled : s.cools input = some (ap, ends)) (keeps : s.Keeps input)
    (steady : Steady network input) :
    ends = deadline s.selectionOptions_ (input.idf.now 0) ∧
      Held network s.selectionOptions_ ap (input.idf.now 0) (s.step input) := by
  have once := keeps.once (ap, ends) cooled
  unfold cools at cooled
  split at cooled
  · rename_i f c failed found
    split at cooled
    · rename_i twice
      cases cooled
      refine ⟨rfl, anchored.step steady, s.options_step input, ?_⟩
      rw [cache_step, moves_failure failed]
      refine Cooling.penalise found once rfl ?_
      exact Nat.le_of_eq (if_pos twice).symm
    · cases cooled
  · cases cooled

theorem prepares_cases (prepared : s.prepares input = some ap) :
    ∃ m c, s.moves input = [m, .select (input.idf.now 1)] ∧ c ∈ (s.cache.move m).items ∧
      c.retryAfter ≤ input.idf.now 1 ∧ c.identity = ap := by
  simp only [prepares] at prepared
  split at prepared
  · rename_i posted
    obtain ⟨e, mem, kind⟩ := List.any_eq_true.mp posted
    obtain ⟨m, c, moved, found, selected⟩ := s.prepared_cases input mem (by simpa using kind)
    have free : expired (input.idf.now 1) c = true := List.find?_some found
    refine ⟨m, c, moved, List.mem_of_find?_eq_some found, by simpa [expired] using free, ?_⟩
    cases prepared
    change _ = ((s.step input).selected_.bssid, (s.step input).selected_.authmode)
    rw [selected]
    rfl
  · cases prepared

/-- A step does not select what is held before its cooldown ends. -/
theorem Held.prepares (held : Held network options ap since s) (keeps : s.Keeps input)
    (steady : Steady network input) (later : since ≤ input.idf.now 0)
    (prepared : s.prepares input = some ap) (early : input.idf.now 0 < deadline options since) :
    deadline options since ≤ input.idf.now 1 := by
  obtain ⟨m, c, moved, cached, free, same⟩ := prepares_cases prepared
  have unvalidated : s.validated input ≠ some ap.1 := by
    intro valid
    rw [moves_validated valid] at moved
    cases moved
  have kept := held.cooling.move
    (held.harmless ⟨keeps, steady, later, early, unvalidated⟩ (m := m) (by simp [moved]))
  exact (kept.until_ c cached same).trans free

/-- **Patient steps hold the access point throughout a run.** -/
theorem Held.run (held : Held network options ap since s) {inputs : List Input}
    (keeps : Machine.Along Esp32Station.step Keeps s inputs)
    (unvalidated : Machine.Along Esp32Station.step (fun s input => s.validated input ≠ some ap.1)
      s inputs)
    (within : ∀ input ∈ inputs, Steady network input ∧ since ≤ input.idf.now 0 ∧
      input.idf.now 0 < deadline options since) :
    Held network options ap since (Machine.run Esp32Station.step s inputs) := by
  have patient := (Machine.along_and.mpr ⟨keeps, unvalidated⟩).and_forall within
  refine Machine.run_invariant (fun s input meets held => ?_) held patient
  obtain ⟨⟨keeps, unvalidated⟩, steady, later, early⟩ := meets
  exact held.step ⟨keeps, steady, later, early, unvalidated⟩

end Steps

/-! ## Every run -/

/-- **Where every scan spares what is cooling, cooldowns hold in every run.** -/
theorem cooldowns_hold (options : SelectionOptions) (network : ConnectionConfig)
    {inputs : List Input} (clocked : Clocked inputs)
    (steady : ∀ input ∈ inputs, Steady network input)
    (keeps : Machine.Along step Keeps { selectionOptions_ := options } inputs) :
    CooldownsHold { selectionOptions_ := options } inputs := by
  intro before failing between selecting after ap ends same cooled unvalidated prepared
  subst same
  by_contra late
  rw [Nat.not_le] at late
  obtain ⟨ticks, ordered⟩ := clocked
  have mem {input : Input} (h : input ∈ failing :: (between ++ [selecting])) :
      input ∈ before ++ failing :: (between ++ selecting :: after) := by
    simp only [List.mem_append, List.mem_cons, List.not_mem_nil] at h ⊢
    tauto
  -- the clock over the part of the run between the two steps
  obtain ⟨-, ordered, -⟩ := List.pairwise_append.mp ordered
  obtain ⟨sinceFailing, ordered⟩ := List.pairwise_cons.mp ordered
  obtain ⟨-, -, untilSelecting⟩ := List.pairwise_append.mp ordered
  have begun := ticks failing (mem (by simp))
  have selectingTicks := ticks selecting (mem (by simp))
  -- the conditions, split likewise
  obtain ⟨-, keepsFailing, keeps⟩ := Machine.along_append.mp keeps
  obtain ⟨keepsBetween, keepsSelecting, -⟩ := Machine.along_append.mp keeps
  have anchored : Anchored network (Machine.run step { selectionOptions_ := options } before) := by
    refine Machine.run_invariant_inputs (R := fun input => Steady network input) (I := Anchored network)
      (fun s input st h => h.step st) ?_ fun input h => steady input (List.mem_append_left _ h)
    simp [Anchored]
  obtain ⟨rfl, held⟩ := held_of_cools anchored cooled keepsFailing (steady failing (mem (by simp)))
  have held := held.run keepsBetween (by simpa [Machine.run_append] using unvalidated) ?_
  · have later : failing.idf.now 0 ≤ selecting.idf.now 0 :=
      begun.trans (sinceFailing selecting (by simp))
    rw [Machine.run_append, Machine.run_cons] at prepared
    exact absurd (held.prepares keepsSelecting (steady selecting (mem (by simp))) later prepared
      (selectingTicks.trans_lt late)) (Nat.not_le.mpr late)
  · intro input h
    have here := mem (List.mem_cons_of_mem failing (List.mem_append_left _ h))
    have soon := untilSelecting input h selecting List.mem_cons_self
    have since := sinceFailing input (List.mem_append_left _ h)
    have tick := ticks input here
    exact ⟨steady input here, by omega, by omega⟩

/-- A rescan that reports four access points, the strongest of them cooling. -/
def crowded : List WifiApRecord := [SameAp 1 (-40), SameAp 2 (-50), SameAp 3 (-60), SameAp 4 (-70)]

/-- Three other access points push the cooling one out of the cache; the next
scan reports it again, and it is selected 25 seconds before its cooldown ends. -/
theorem cooldown_displaced :
    let inputs := attempting ++ absent ::
      ([{ action := .connect SameConfig {}, idf := atSecond 3 [] }, rescan 4 crowded,
        { action := .disconnect, idf := atSecond 5 [] },
        { action := .connect SameConfig {}, idf := atSecond 6 [] }] ++ rescan 7 crowded :: [])
    Clocked inputs ∧ (∀ input ∈ inputs, Steady SameConfig input) ∧
      ¬ CooldownsHold { selectionOptions_ := { cacheLifetimeMs := 1000 } } inputs := by
  refine ⟨⟨by decide, by decide⟩, by decide, fun hold => ?_⟩
  have late := hold attempting absent _ (rescan 7 crowded) []
    ((SameAp 1 (-40)).bssid, .WIFI_AUTH_WPA2_PSK) 32000000 rfl (by decide +kernel)
    (by decide +kernel) (by decide +kernel)
  exact absurd late (by decide)

/-- The only access point of the network stays in cooldown across a rescan. -/
theorem cooldowns_hold_missing :
    let inputs := attempting ++ absent ::
      ([{ action := .connect SameConfig {}, idf := atSecond 3 [] }, rescan 4 [SameAp 1 (-40)],
        { action := .connect SameConfig {}, idf := atSecond 40 [] }] ++
        [rescan 41 [SameAp 1 (-40)]])
    CooldownsHold { selectionOptions_ := {} } inputs :=
  cooldowns_hold {} SameConfig ⟨by decide, by decide⟩ (by decide) (by decide +kernel)

end Esp32Station

end RooWifi
