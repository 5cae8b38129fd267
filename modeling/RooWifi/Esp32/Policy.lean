import RooWifi.Esp32.Cache

/-! # Selection never downgrades security

A cached candidate is allowed by the policy it is cached for, and some
selection scan for the same network, policy and visibility reported it. -/
namespace RooWifi

open BoundedInsertion (Slots)

namespace Esp32Station

/-! ## What moves keep -/

theorem forgiven_record (bssid : MacAddress) (c : Candidate) :
    (forgiven bssid c).record = c.record := by
  unfold forgiven
  split <;> rfl

theorem renewed_record (c : Candidate) : c.renewed.record = c.record := by
  unfold Candidate.renewed
  split <;> rfl

theorem candidateOf_record (cached : List Candidate) (expire now : Nat) (ap : WifiApRecord) :
    (candidateOf cached expire now ap).record =
      { bssid := ap.bssid, primary := ap.primary, rssi := ap.rssi, authmode := ap.authmode } := by
  unfold candidateOf
  dsimp only
  split <;> rfl

theorem mem_remembered {c : Cache} {now : Nat} {aps : List WifiApRecord} {x : Candidate}
    (h : x ∈ c.remembered now aps) :
    ∃ ap ∈ aps, SecurityAllows c.config.security (Auth ap.authmode) = true ∧
      x = candidateOf c.items c.expire now ap := by
  rcases BoundedInsertion.insertAll_subset h with h | h
  · obtain ⟨ap, mem, rfl⟩ := List.mem_map.mp h
    obtain ⟨mem, allowed⟩ := List.mem_filter.mp mem
    exact ⟨ap, mem, allowed, rfl⟩
  · rw [Slots.items_fresh] at h
    cases h

/-! ## Provenance -/

/-- A finished selection scan: what it was for, and what it reported. -/
abbrev Scan := ConnectionConfig × List WifiApRecord

/-- Two configurations ask for the same network, policy and visibility. -/
structure SameRequest (a b : ConnectionConfig) : Prop where
  size : a.ssid.size = b.ssid.size
  ssid : a.ssid.view = b.ssid.view
  security : a.security = b.security
  hidden : a.hidden = b.hidden

theorem SameRequest.refl (a : ConnectionConfig) : SameRequest a a := ⟨rfl, rfl, rfl, rfl⟩

theorem SameRequest.trans {a b c : ConnectionConfig} (h : SameRequest a b)
    (h' : SameRequest b c) : SameRequest a c :=
  ⟨h.size.trans h'.size, h.ssid.trans h'.ssid, h.security.trans h'.security,
    h.hidden.trans h'.hidden⟩

theorem sameRequest_of_sameSelection {a b : ConnectionConfig} (h : sameSelection a b = true) :
    SameRequest a b := by
  simp only [sameSelection, Ssid.eq, Bool.and_eq_true, decide_eq_true_eq, beq_iff_eq] at h
  exact ⟨h.1.1.1.2, h.1.1.2, h.1.2, h.2⟩

/-- The access point of a candidate is allowed by the policy of `config`, and one
of `scans` made for the same request reported it. -/
structure Vetted (scans : List Scan) (config : ConnectionConfig) (ap : WifiApRecord) : Prop where
  allowed : SecurityAllows config.security (Auth ap.authmode) = true
  reported : ∃ scan ∈ scans, SameRequest scan.1 config ∧ ∃ r ∈ scan.2,
    ap = { bssid := r.bssid, primary := r.primary, rssi := r.rssi, authmode := r.authmode }

theorem Vetted.mono {scans scans' : List Scan} {config : ConnectionConfig} {ap : WifiApRecord}
    (h : Vetted scans config ap) (more : scans ⊆ scans') : Vetted scans' config ap := by
  obtain ⟨scan, mem, rest⟩ := h.reported
  exact ⟨h.allowed, scan, more mem, rest⟩

theorem Vetted.same {scans : List Scan} {config config' : ConnectionConfig} {ap : WifiApRecord}
    (h : Vetted scans config ap) (same : SameRequest config config') : Vetted scans config' ap := by
  obtain ⟨scan, mem, request, rest⟩ := h.reported
  exact ⟨same.security ▸ h.allowed, scan, mem, request.trans same, rest⟩

/-- Every cached candidate is vetted. -/
def AllVetted (scans : List Scan) (c : Cache) : Prop :=
  ∀ x ∈ c.items, Vetted scans c.config x.record

/-- A scan that is remembered is one of `scans`, made for the same request. -/
def Recorded (scans : List Scan) (c : Cache) : Move → Prop
  | .remember _ aps => ∃ scan ∈ scans, SameRequest scan.1 c.config ∧ scan.2 = aps
  | _ => True

/-- **One move keeps every candidate vetted.** -/
theorem AllVetted.move {scans : List Scan} {c : Cache} (h : AllVetted scans c) {m : Move}
    (recorded : Recorded scans c m) : AllVetted scans (c.move m) := by
  intro x mem
  cases m with
  | clear => cases mem
  | store config =>
    dsimp only [Cache.move] at mem ⊢
    split at mem
    · rename_i same
      exact (h x mem).same (sameRequest_of_sameSelection same)
    · cases mem
  | remember now aps =>
    obtain ⟨ap, reported, allowed, rfl⟩ := mem_remembered mem
    obtain ⟨scan, known, same, rfl⟩ := recorded
    rw [candidateOf_record]
    exact ⟨allowed, scan, known, same, ap, reported, rfl⟩
  | fail now f =>
    rcases Slots.mem_updateFirst mem with mem | ⟨y, old, -, rfl⟩
    · exact h x mem
    · exact h y old
  | forgive bssid =>
    obtain ⟨y, old, rfl⟩ := List.mem_map.mp mem
    rw [forgiven_record]
    exact h y old
  | select now =>
    simp only [Cache.move] at mem ⊢
    split at mem
    · exact h x mem
    · rename_i candidate found
      rcases Slots.mem_updateFirst mem with mem | ⟨y, old, -, rfl⟩
      · exact h x mem
      · rw [renewed_record]
        exact h y old

/-! ## Histories -/

/-- A station with what happened to it: the configuration most recently stored
by `connect`, the one the last selection scan was started for, and the
selection scans finished so far. -/
structure Tracked where
  station : Esp32Station := {}
  stored : ConnectionConfig := {}
  started : ConnectionConfig := {}
  scans : List Scan := []

namespace Tracked

def step (t : Tracked) (input : Input) : Tracked :=
  let outcome := t.station.perform input
  { station := outcome.2.1
    stored := match input.action with
      | .connect config _ =>
        if outcome.1 = .kBusy ∨ outcome.1 = .kUnsupported then t.stored else config
      | _ => t.stored
    started := match input.action with
      | .connect config _ =>
        if !t.station.selecting_ && outcome.2.1.selecting_ then config else t.started
      | _ => t.started
    scans := match t.station.finished input with
      | some aps => (t.started, aps) :: t.scans
      | none => t.scans }

end Tracked

/-! ## The selection scan in progress -/

theorem candidateFailed_selecting (s : Esp32Station) (now : Nat) (f : ConnectionFailure) :
    (s.candidateFailed now f).selecting_ = s.selecting_ := by
  unfold candidateFailed
  split <;> rfl

/-- What an admitted `connect` answers and stores. -/
theorem connect_stores (s : Esp32Station) (idf : Idf) {config : ConnectionConfig}
    (secret : Credentials) (admitted : s.admits config = true) :
    ¬ ((s.connect idf config secret).1 = .kBusy ∨
        (s.connect idf config secret).1 = .kUnsupported) ∧
      (s.connect idf config secret).2.1.config_ = config := by
  rcases s.connect_cases idf secret admitted with ⟨s', -, picked, returned⟩ | ⟨-, returned⟩
  · rw [returned]
    refine ⟨by simp, ?_⟩
    unfold selectCandidate at picked
    split at picked
    · cases picked
    · cases picked
      rfl
  · rw [returned, startSelection]
    split
    · exact ⟨by simp, rfl⟩
    · exact ⟨by simp, rfl⟩

theorem enable_selecting (s : Esp32Station) (idf : Idf) (enabled : Bool) :
    (s.enable idf enabled).2.1.selecting_ = s.selecting_ := by
  obtain ⟨mac, same⟩ := s.enable_state idf enabled
  rw [same]
  cases enabled <;> rfl

theorem continueConnect_selecting (s : Esp32Station) (idf : Idf) :
    (s.continueConnect idf).2.1.selecting_ = s.selecting_ := by
  unfold continueConnect
  split
  · rfl
  · obtain ⟨trace, started⟩ := { s with prepared_ := false }.startSelected_eq idf s.selected_
    rw [started]
    split
    · unfold startAttempt
      dsimp only
      split
      · rfl
      split
      · exact candidateFailed_selecting ..
      · rfl
    · rfl

theorem scanDone_selecting {s : Esp32Station} {idf : Idf} {status : UInt32}
    (after : (s.scanDone idf status).1.selecting_ = true) : s.selecting_ = true := by
  cases selecting : s.selecting_ with
  | true => rfl
  | false =>
    unfold scanDone at after
    simp only [selecting, Bool.false_eq_true, if_false] at after
    split at after
    · exact absurd after (by simp [selecting])
    · split at after <;> exact absurd after (by simp [selecting])

theorem event_selecting {s : Esp32Station} {idf : Idf} {e : IdfEvent}
    (after : (s.event idf e).1.selecting_ = true) : s.selecting_ = true := by
  unfold event at after
  split at after
  · exact after
  cases e with
  | WIFI_EVENT_STA_START | WIFI_EVENT_STA_STOP | IP_EVENT_STA_LOST_IP | other => exact after
  | WIFI_EVENT_SCAN_DONE status => exact scanDone_selecting after
  | WIFI_EVENT_STA_CONNECTED info =>
    simp only [staConnected] at after
    split at after <;> exact after
  | WIFI_EVENT_STA_DISCONNECTED info =>
    simp only [staDisconnected, candidateFailed_selecting] at after
    exact after
  | IP_EVENT_STA_GOT_IP info =>
    simp only [gotIp] at after
    split at after <;> exact after

/-- Only an admitted `connect` starts a selection scan. -/
theorem selecting_step {s : Esp32Station} {input : Input}
    (after : (s.step input).selecting_ = true) :
    s.selecting_ = true ∨ ∃ config secret, input.action = .connect config secret ∧
      s.admits config = true := by
  obtain ⟨action, idf⟩ := input
  cases action with
  | attach =>
    simp only [step, perform, attach] at after
    left
    split at after
    · exact after
    split at after <;> exact after
  | detach =>
    simp only [step, perform, detach] at after
    split at after
    · exact .inl after
    · cases after
  | enable enabled => exact .inl ((s.enable_selecting idf enabled).symm.trans after)
  | scan maxResults =>
    simp only [step, perform, scan] at after
    left
    split at after
    · exact after
    split at after <;> exact after
  | stopScan => exact .inl after
  | connect config secret =>
    cases admitted : s.admits config with
    | true => exact .inr ⟨config, secret, rfl, admitted⟩
    | false =>
      simp only [step, perform] at after
      rcases s.connect_refused idf secret admitted with refused | refused <;>
        (rw [refused] at after; exact .inl after)
  | continueConnect => exact .inl ((s.continueConnect_selecting idf).symm.trans after)
  | disconnect =>
    simp only [step, perform, disconnect] at after
    left
    split at after
    · exact after
    split at after <;> exact after
  | event e => exact .inl (event_selecting after)

/-! ## Every run -/

theorem config_move (c : Cache) (m : Move) :
    (c.move m).config = match m with
      | .store config => config
      | _ => c.config := by
  cases m with
  | select now =>
    simp only [Cache.move]
    split <;> rfl
  | _ => rfl

/-- Only the first move of a step is more than a selection. -/
theorem moves_cases (s : Esp32Station) (input : Input) :
    s.moves input = [] ∨ ∃ m, s.moves input = [m] ∨ s.moves input = [m, .select (input.idf.now 1)] := by
  obtain ⟨action, idf⟩ := input
  cases action
  all_goals
    simp only [moves]
    repeat' split
  all_goals first
    | exact .inl rfl
    | exact .inr ⟨_, .inl rfl⟩
    | exact .inr ⟨_, .inr rfl⟩

theorem config_moveAll {c : Cache} {ms : List Move}
    (h : ∀ m ∈ ms, ∀ config, m ≠ .store config) : (c.moveAll ms).config = c.config := by
  induction ms generalizing c with
  | nil => rfl
  | cons m ms ih =>
    rw [Cache.moveAll_cons, ih fun n mem => h n (List.mem_cons_of_mem m mem), config_move]
    split
    · rename_i config
      exact absurd rfl (h _ List.mem_cons_self config)
    · rfl

/-- Only an admitted `connect` stores a configuration. -/
theorem config_step (s : Esp32Station) (input : Input) :
    (s.step input).config_ = s.config_ ∨ ∃ config secret, input.action = .connect config secret ∧
      s.admits config = true := by
  by_cases stores : ∀ m ∈ s.moves input, ∀ config, m ≠ .store config
  · left
    have same := congrArg Cache.config (s.cache_step input)
    rw [config_moveAll stores] at same
    exact same
  · right
    push Not at stores
    obtain ⟨m, mem, config, rfl⟩ := stores
    obtain ⟨⟨secret, action⟩, admitted⟩ := origin mem
    exact ⟨config, secret, action, admitted⟩

/-- The configuration is the one stored most recently, a selection in progress
is for it, and every cached candidate is vetted. -/
structure Consistent (t : Tracked) : Prop where
  stored : t.station.config_ = t.stored
  started : t.station.selecting_ = true → t.started = t.stored
  vetted : AllVetted t.scans t.station.cache

theorem finished_selecting {s : Esp32Station} {input : Input} {aps : List WifiApRecord}
    (h : s.finished input = some aps) : s.selecting_ = true := by
  unfold finished at h
  split at h
  · split at h
    · rename_i fresh
      exact fresh.2.1
    · cases h
  · cases h

namespace Consistent

variable {t : Tracked}

/-- A scan that a step remembers is one of those finished. -/
theorem recorded (h : Consistent t) {input : Input} {m : Move}
    (mem : m ∈ t.station.moves input) : Recorded (t.step input).scans t.station.cache m := by
  cases m with
  | remember now aps =>
    have fin := (origin mem).1
    have request : t.started = t.station.config_ :=
      (h.started (finished_selecting fin)).trans h.stored.symm
    refine ⟨(t.started, aps), ?_, ?_, rfl⟩
    · simp only [Tracked.step, fin, List.mem_cons_self]
    · rw [request]
      exact SameRequest.refl _
  | _ => trivial

theorem scans_subset (t : Tracked) (input : Input) : t.scans ⊆ (t.step input).scans := by
  simp only [Tracked.step]
  split
  · exact List.subset_cons_self _ _
  · exact List.Subset.refl _

theorem vetted_later (h : Consistent t) (input : Input) :
    AllVetted (t.step input).scans t.station.cache :=
  fun x mem => (h.vetted x mem).mono (scans_subset t input)

theorem vetted_step (h : Consistent t) (input : Input) :
    AllVetted (t.step input).scans (t.station.step input).cache := by
  rw [cache_step]
  have before := h.vetted_later input
  rcases moves_cases t.station input with none_ | ⟨m, one | two⟩
  · rw [none_]
    exact before
  · have mem : m ∈ t.station.moves input := by simp [one]
    rw [one]
    exact before.move (h.recorded mem)
  · have mem : m ∈ t.station.moves input := by simp [two]
    rw [two]
    exact (before.move (h.recorded mem)).move (m := .select _) trivial

/-- A `connect` that is admitted stores, and scans for, its own configuration. -/
theorem step_admitted (t : Tracked) {input : Input} {config : ConnectionConfig}
    {secret : Credentials} (action : input.action = .connect config secret)
    (admitted : t.station.admits config = true) :
    (t.step input).station.config_ = (t.step input).stored ∧
      ((t.step input).station.selecting_ = true →
        (t.step input).started = (t.step input).stored) := by
  obtain ⟨accepted, stored⟩ := connect_stores t.station input.idf secret admitted
  have idle : t.station.selecting_ = false := by
    simp only [admits, Bool.and_eq_true, Bool.not_eq_true'] at admitted
    exact admitted.1.1
  simp only [Tracked.step, perform, action, idle, Bool.not_false, Bool.true_and]
  rw [if_neg accepted]
  exact ⟨stored, fun after => if_pos after⟩

/-- Nothing else is stored or scanned for. -/
theorem step_other (t : Tracked) {input : Input}
    (other : ¬ ∃ config secret, input.action = .connect config secret ∧
      t.station.admits config = true) :
    (t.step input).stored = t.stored ∧ (t.step input).started = t.started := by
  obtain ⟨action, idf⟩ := input
  cases action with
  | connect config secret =>
    have refused : t.station.admits config = false := by
      by_contra admitted
      exact other ⟨config, secret, rfl, by simpa using admitted⟩
    rcases t.station.connect_refused idf secret refused with returned | returned <;>
      simp [Tracked.step, perform, returned]
  | _ => exact ⟨rfl, rfl⟩

/-- **Every step keeps the history consistent.** -/
theorem step (h : Consistent t) (input : Input) : Consistent (t.step input) := by
  have vetted := h.vetted_step input
  by_cases connects : ∃ config secret, input.action = .connect config secret ∧
      t.station.admits config = true
  · obtain ⟨config, secret, action, admitted⟩ := connects
    obtain ⟨stored, started⟩ := step_admitted t action admitted
    exact ⟨stored, started, vetted⟩
  · obtain ⟨stored, started⟩ := step_other t connects
    refine ⟨?_, ?_, vetted⟩
    · rw [stored, ← h.stored]
      exact (t.station.config_step input).resolve_right connects
    · intro after
      rw [stored, started]
      exact h.started ((selecting_step after).resolve_right connects)

theorem run (inputs : List Input) (h : Consistent t) :
    Consistent (Machine.run Tracked.step t inputs) :=
  Machine.run_invariant_all (fun _ input h => h.step input) h inputs

end Consistent

/-! ## One cooldown for an access point -/

/-- An access point, as a cached penalty identifies it. -/
abbrev Identity := MacAddress × WifiAuthMode

def Candidate.identity (c : Candidate) : Identity := (c.bssid, c.auth)

/-- The access point a step puts into cooldown, and when its cooldown ends. -/
def cools (s : Esp32Station) (input : Input) : Option (Identity × Nat) :=
  match s.failure input, s.candidates_.items.find? (fun c => c.bssid = s.selected_.bssid) with
  | some failure, some c =>
    if (penalised s.selectionOptions_ (input.idf.now 0) failure c).failures ≥ 2 then
      some (c.identity, input.idf.now 0 + Millis s.selectionOptions_.failureCooldownMs)
    else none
  | _, _ => none

/-- An access point that a step puts into cooldown is cached once. -/
def CooledOnce (s : Esp32Station) (input : Input) : Prop :=
  ∀ cooled ∈ s.cools input, s.candidates_.items.countP (fun c => c.identity = cooled.1) ≤ 1

instance (s : Esp32Station) (input : Input) : Decidable (s.CooledOnce input) :=
  inferInstanceAs (Decidable (∀ cooled ∈ s.cools input, _))

/-- No cached entry of the access point is cooling. -/
def Rested (s : Esp32Station) (ap : Identity) (now : Nat) : Prop :=
  ∀ c ∈ s.candidates_.items, c.identity = ap → c.retryAfter ≤ now

instance (s : Esp32Station) (ap : Identity) (now : Nat) : Decidable (s.Rested ap now) :=
  inferInstanceAs (Decidable (∀ c ∈ s.candidates_.items, _))

/-- The cached entries of one access point have one cooldown. -/
def Agreed (items : List Candidate) : Prop :=
  ∀ x ∈ items, ∀ y ∈ items, x.identity = y.identity → x.retryAfter = y.retryAfter

theorem penalised_identity (o : SelectionOptions) (now : Nat) (f : ConnectionFailure)
    (c : Candidate) : (penalised o now f c).identity = c.identity := rfl

theorem renewed_retryAfter (c : Candidate) : c.renewed.retryAfter = c.retryAfter := by
  unfold Candidate.renewed
  split <;> rfl

theorem renewed_identity (c : Candidate) : c.renewed.identity = c.identity := by
  unfold Candidate.renewed
  split <;> rfl

theorem forgiven_identity (bssid : MacAddress) (c : Candidate) :
    (forgiven bssid c).identity = c.identity := by
  unfold forgiven
  split <;> rfl

/-- A record takes over the penalty of its access point, whatever else it reports. -/
theorem candidateOf_agreed (cached : List Candidate) (expire now : Nat) {a b : WifiApRecord}
    (same : (candidateOf cached expire now a).identity = (candidateOf cached expire now b).identity) :
    (candidateOf cached expire now a).retryAfter = (candidateOf cached expire now b).retryAfter := by
  have recordA := candidateOf_record cached expire now a
  have recordB := candidateOf_record cached expire now b
  simp only [Candidate.record, WifiApRecord.mk.injEq] at recordA recordB
  simp only [Candidate.identity, Prod.mk.injEq, recordA, recordB] at same
  have relevant : relevant expire now a = relevant expire now b := by
    unfold Esp32Station.relevant
    rw [same.1, same.2]
  unfold candidateOf
  dsimp only
  rw [relevant]
  split <;> rfl

/-- Entries that keep their access points and cooldowns still agree. -/
theorem Agreed.of_same {items changed : List Candidate} (h : Agreed items)
    (same : ∀ x ∈ changed, ∃ y ∈ items, y.identity = x.identity ∧ y.retryAfter = x.retryAfter) :
    Agreed changed := by
  intro x memX y memY identity
  obtain ⟨x', oldX, identityX, cooldownX⟩ := same x memX
  obtain ⟨y', oldY, identityY, cooldownY⟩ := same y memY
  rw [← cooldownX, ← cooldownY]
  exact h x' oldX y' oldY (identityX.trans (identity.trans identityY.symm))

/-- The only entry of an access point, once it is changed. -/
theorem updateFirst_once {items : List Candidate} {p : Candidate → Bool}
    {f : Candidate → Candidate} {c x : Candidate} (found : items.find? p = some c)
    (once : items.countP (fun x => x.identity = c.identity) ≤ 1)
    (mem : x ∈ Slots.updateFirst p f items) (same : x.identity = (f c).identity)
    (identity : (f c).identity = c.identity) : x = f c := by
  obtain ⟨a, b, rfl, changed⟩ := Slots.updateFirst_of_find found f
  rw [changed] at mem
  -- another entry of it would be a second one
  have alone : ∀ y ∈ a ++ b, y.identity ≠ c.identity := by
    intro y other twice
    have second : 0 < (a ++ b).countP fun x => x.identity = c.identity :=
      List.countP_pos_iff.mpr ⟨y, other, by simpa using twice⟩
    rw [List.countP_append, List.countP_cons_of_pos (by simp)] at once
    rw [List.countP_append] at second
    omega
  by_contra other
  refine alone x ?_ (same.trans identity)
  rcases List.mem_append.mp mem with before | later
  · exact List.mem_append_left b before
  · exact List.mem_append_right a ((List.mem_cons.mp later).resolve_left other)

/-- A failure that puts an access point into cooldown finds one entry of it. -/
def Once (c : Cache) : Move → Prop
  | .fail now failure => ∀ x, c.items.find? (fun x => x.bssid = c.selected.bssid) = some x →
    (penalised c.options now failure x).failures ≥ 2 →
    c.items.countP (fun y => y.identity = x.identity) ≤ 1
  | _ => True

/-- **One move keeps the cooldowns in agreement.** -/
theorem Agreed.move {c : Cache} (h : Agreed c.items) {m : Move} (once : Once c m) :
    Agreed (c.move m).items := by
  cases m with
  | clear =>
    intro x mem
    cases mem
  | store config =>
    dsimp only [Cache.move]
    split
    · exact h
    · intro x mem
      cases mem
  | remember now aps =>
    intro x memX y memY same
    obtain ⟨a, -, -, rfl⟩ := mem_remembered memX
    obtain ⟨b, -, -, rfl⟩ := mem_remembered memY
    exact candidateOf_agreed _ _ _ same
  | fail now f =>
    cases found : c.items.find? (fun x => x.bssid = c.selected.bssid) with
    | none =>
      refine h.of_same fun x mem => ?_
      rcases Slots.mem_updateFirst mem with old | ⟨y, old, hit, -⟩
      · exact ⟨x, old, rfl, rfl⟩
      · exact absurd hit (List.find?_eq_none.mp found y old)
    | some failed =>
      by_cases twice : (penalised c.options now f failed).failures ≥ 2
      · have alone {x : Candidate} (mem : x ∈ (c.move (.fail now f)).items)
            (same : x.identity = failed.identity) : x = penalised c.options now f failed :=
          updateFirst_once found (once failed found twice) mem same rfl
        intro x memX y memY same
        by_cases identity : x.identity = failed.identity
        · rw [alone memX identity, alone memY (same.symm.trans identity)]
        · obtain ⟨a, b, split, changed⟩ :=
            Slots.updateFirst_of_find found (penalised c.options now f)
          have kept {z : Candidate} (mem : z ∈ (c.move (.fail now f)).items)
              (other : z.identity ≠ failed.identity) : z ∈ c.items := by
            simp only [Cache.move, changed, List.mem_append, List.mem_cons] at mem
            rw [split]
            rcases mem with before | rfl | later
            · exact List.mem_append_left _ before
            · exact absurd rfl other
            · exact List.mem_append_right a (List.mem_cons_of_mem failed later)
          exact h x (kept memX identity) y
            (kept memY fun eq => identity (same.trans eq)) same
      · refine h.of_same fun x mem => ?_
        obtain ⟨a, b, split, changed⟩ :=
          Slots.updateFirst_of_find found (penalised c.options now f)
        simp only [Cache.move, changed, List.mem_append, List.mem_cons] at mem
        rw [split]
        rcases mem with before | rfl | later
        · exact ⟨x, List.mem_append_left _ before, rfl, rfl⟩
        · exact ⟨failed, List.mem_append_right a List.mem_cons_self, rfl, (if_neg twice).symm⟩
        · exact ⟨x, List.mem_append_right a (List.mem_cons_of_mem failed later), rfl, rfl⟩
  | forgive bssid =>
    intro x memX y memY same
    obtain ⟨x, oldX, rfl⟩ := List.mem_map.mp memX
    obtain ⟨y, oldY, rfl⟩ := List.mem_map.mp memY
    rw [forgiven_identity, forgiven_identity] at same
    have cooldown := h x oldX y oldY same
    have own : x.bssid = y.bssid := congrArg Prod.fst same
    unfold forgiven
    rw [own]
    split
    · rfl
    · exact cooldown
  | select now =>
    simp only [Cache.move]
    split
    · exact h
    · refine h.of_same fun x mem => ?_
      rcases Slots.mem_updateFirst mem with old | ⟨y, old, -, rfl⟩
      · exact ⟨x, old, rfl, rfl⟩
      · exact ⟨y, old, (renewed_identity y).symm, (renewed_retryAfter y).symm⟩

/-- A step that cools what is cached once makes such moves. -/
theorem CooledOnce.moves {s : Esp32Station} {input : Input} (once : s.CooledOnce input) {m : Move}
    (mem : m ∈ s.moves input) : Once s.cache m := by
  have why := origin mem
  cases m with
  | fail now f =>
    obtain ⟨failed, rfl⟩ := why
    intro x found twice
    refine once (x.identity, input.idf.now 0 + Millis s.selectionOptions_.failureCooldownMs) ?_
    have found : s.candidates_.items.find? (fun c => c.bssid = s.selected_.bssid) = some x := found
    simp only [cools, failed, found]
    exact if_pos twice
  | _ => exact trivial

/-- **Every step keeps the cooldowns in agreement.** -/
theorem Agreed.step {s : Esp32Station} (h : Agreed s.candidates_.items) {input : Input}
    (once : s.CooledOnce input) : Agreed (s.step input).candidates_.items := by
  change Agreed (s.step input).cache.items
  rw [cache_step]
  rcases moves_cases s input with none_ | ⟨m, one | two⟩
  · rw [none_]
    exact h
  · rw [one]
    exact h.move (once.moves (by simp [one]))
  · rw [two]
    exact (h.move (once.moves (by simp [two]))).move (m := .select _) trivial

/-! ## Prepared and associated -/

/-- A new station with its selection options. -/
def Tracked.initial (options : SelectionOptions) : Tracked :=
  { station := { selectionOptions_ := options } }

theorem consistent_initial (options : SelectionOptions) : Consistent (.initial options) := by
  refine ⟨rfl, fun selecting => ?_, fun x mem => ?_⟩
  · cases selecting
  · exact absurd mem (by simp [Tracked.initial, cache])

/-- The candidate a step prepares, in the cache it leaves and allowed there. -/
theorem prepared_candidate (s : Esp32Station) {input : Input} {e : NativeStation.Event}
    (posted : e ∈ (s.perform input).2.2) (prepared : e.kind = .kPrepared) :
    ∃ c ∈ (s.step input).candidates_.items,
      c.record = (s.step input).selected_ ∧ c.retryAfter ≤ input.idf.now 1 := by
  obtain ⟨m, c, moved, found, selected⟩ := s.prepared_cases input posted prepared
  refine ⟨c.renewed, ?_, ?_, ?_⟩
  · have left := congrArg Cache.items (s.cache_step input)
    rw [moved, Cache.moveAll_cons, Cache.moveAll_cons, Cache.moveAll_nil, Cache.move] at left
    simp only [found] at left
    change _ ∈ (s.step input).cache.items
    rw [left]
    exact Slots.mem_updateFirst_of_find found
  · rw [renewed_record, selected]
  · have free : expired (input.idf.now 1) c = true := List.find?_some found
    have free : c.retryAfter ≤ input.idf.now 1 := by simpa [expired] using free
    unfold Candidate.renewed
    split <;> exact free

/-- A step that selects stores a configuration, or remembers a scan, first. -/
theorem selects_cases {s : Esp32Station} {input : Input} {m : Move} {now : Nat}
    (moved : s.moves input = [m, .select now]) :
    (∃ config, m = .store config) ∨ ∃ aps, m = .remember (input.idf.now 0) aps := by
  obtain ⟨action, idf⟩ := input
  cases action
  all_goals
    simp only [moves] at moved
    repeat' split at moved
  all_goals cases moved
  all_goals first
    | exact .inl ⟨_, rfl⟩
    | exact .inr ⟨_, rfl⟩

/-- A cooldown that is cached for an access point holds for what is made of its
next record. -/
theorem Agreed.candidateOf {items : List Candidate} (h : Agreed items) {expire now : Nat}
    {ap : WifiApRecord} {x : Candidate} (mem : x ∈ items)
    (same : x.identity = (candidateOf items expire now ap).identity) (cooling : now < x.retryAfter) :
    (Esp32Station.candidateOf items expire now ap).retryAfter = x.retryAfter := by
  have record := candidateOf_record items expire now ap
  simp only [Candidate.record, WifiApRecord.mk.injEq] at record
  simp only [Candidate.identity, Prod.mk.injEq, record] at same
  have passes : relevant expire now ap x = true := by
    simp only [relevant, decide_eq_true_eq]
    exact ⟨same.1, same.2, .inr cooling⟩
  cases found : items.find? (relevant expire now ap) with
  | none => exact absurd passes (List.find?_eq_none.mp found x mem)
  | some old =>
    have taken : relevant expire now ap old = true := List.find?_some found
    simp only [relevant, decide_eq_true_eq] at taken
    simp only [Esp32Station.candidateOf, found]
    refine h old (List.mem_of_find?_eq_some found) x mem ?_
    rw [Candidate.identity, Candidate.identity, taken.1, taken.2.1, same.1, same.2]

/-- **What is selected is rested**, by the entries a step leaves and by those it
finds, if the cached cooldowns agree. -/
theorem Agreed.prepared {s : Esp32Station} (h : Agreed s.candidates_.items) {input : Input}
    {e : NativeStation.Event} (posted : e ∈ (s.perform input).2.2) (prepared : e.kind = .kPrepared) :
    let ap : Identity := ((s.step input).selected_.bssid, (s.step input).selected_.authmode)
    (s.step input).Rested ap (input.idf.now 1) ∧
      (input.idf.now 0 ≤ input.idf.now 1 → s.Rested ap (input.idf.now 1)) := by
  intro ap
  obtain ⟨m, c, moved, found, selected⟩ := s.prepared_cases input posted prepared
  have free : c.retryAfter ≤ input.idf.now 1 := by
    have free : expired (input.idf.now 1) c = true := List.find?_some found
    simpa [expired] using free
  have cached := List.mem_of_find?_eq_some found
  have own : c.identity = ap := by
    simp only [ap, selected]
    rfl
  have moves := selects_cases moved
  have once : Once s.cache m := by
    obtain ⟨config, rfl⟩ | ⟨aps, rfl⟩ := moves <;> exact trivial
  have agreed : Agreed (s.step input).candidates_.items := by
    change Agreed (s.step input).cache.items
    rw [cache_step, moved]
    exact (Agreed.move h once).move (m := .select _) trivial
  constructor
  · intro x mem same
    obtain ⟨y, here, record, rested⟩ := prepared_candidate s posted prepared
    have identity : y.identity = ap := by
      simp only [ap, ← record]
      rfl
    rw [agreed x mem y here (same.trans identity.symm)]
    exact rested
  intro ticks x mem same
  obtain ⟨config, rfl⟩ | ⟨aps, rfl⟩ := moves
  · -- the cached candidates were kept
    dsimp only [Cache.move] at cached
    split at cached
    · rw [h x mem c cached (same.trans own.symm)]
      exact free
    · cases cached
  · -- they were replaced by the records of a scan
    obtain ⟨record, -, -, rfl⟩ := mem_remembered cached
    by_contra cooling
    rw [Nat.not_le] at cooling
    have passed := h.candidateOf mem (same.trans own.symm) (ticks.trans_lt cooling)
    exact absurd (passed.symm.trans_le free) (Nat.not_le.mpr cooling)

theorem Tracked.run_station (t : Tracked) (inputs : List Input) :
    (Machine.run Tracked.step t inputs).station =
      Machine.run Esp32Station.step t.station inputs := by
  induction inputs generalizing t with
  | nil => rfl
  | cons input inputs ih => exact ih (t.step input)

theorem Tracked.agreed {options : SelectionOptions} {inputs : List Input}
    (once : Machine.Along Esp32Station.step CooledOnce { selectionOptions_ := options } inputs) :
    Agreed (Machine.run Tracked.step (.initial options) inputs).station.candidates_.items := by
  rw [Tracked.run_station]
  refine Machine.run_invariant (I := fun s => Agreed s.candidates_.items)
    (fun s input once h => h.step once) (fun x mem => ?_) once
  cases mem

/-- A directed scan reports only access points of the requested SSID. -/
def Directed (scan : Scan) : Prop := ∀ ap ∈ scan.2, (Record ap).ssid.view = scan.1.ssid.view

/-- **Selection never downgrades security.** In every run, a prepared access
point is allowed by the policy stored most recently and was reported by a
selection scan made for the same request; where every access point put into
cooldown was cached once, no entry of it, found or left by the step, is
cooling; and an association is only reported for a mode which that policy
allows. -/
theorem selection_keeps_policy (options : SelectionOptions) (inputs : List Input) (input : Input)
    {e : NativeStation.Event} :
    let t := Machine.run Tracked.step (.initial options) inputs
    let after := t.step input
    e ∈ (t.station.perform input).2.2 →
      (e.kind = .kPrepared →
        SecurityAllows after.stored.security (Auth after.station.selected_.authmode) = true ∧
        (∃ scan ∈ after.scans, SameRequest scan.1 after.stored ∧
          ∃ ap ∈ scan.2, after.station.selected_ =
            { bssid := ap.bssid, primary := ap.primary, rssi := ap.rssi, authmode := ap.authmode } ∧
            (Directed scan → (Record ap).ssid.view = after.stored.ssid.view)) ∧
        (∃ c ∈ after.station.candidates_.items, c.record = after.station.selected_ ∧
          c.retryAfter ≤ input.idf.now 1) ∧
        (Machine.Along Esp32Station.step CooledOnce { selectionOptions_ := options } inputs →
          let ap : Identity := (after.station.selected_.bssid, after.station.selected_.authmode)
          after.station.Rested ap (input.idf.now 1) ∧
            (input.idf.now 0 ≤ input.idf.now 1 → t.station.Rested ap (input.idf.now 1)))) ∧
      (e.kind = .kAssociated → ∃ info, input.action = .event (.WIFI_EVENT_STA_CONNECTED info) ∧
        e.link.security = Auth info.authmode ∧
        SecurityAllows after.stored.security (Auth info.authmode) = true) := by
  intro t after posted
  have consistent : Consistent t := (consistent_initial options).run inputs
  have left : Consistent after := consistent.step input
  constructor
  · intro prepared
    obtain ⟨c, mem, record, free⟩ := prepared_candidate t.station posted prepared
    have vetted := left.vetted c mem
    change Vetted after.scans after.station.config_ c.record at vetted
    rw [record, left.stored] at vetted
    obtain ⟨scan, known, same, ap, reported, selected⟩ := vetted.reported
    refine ⟨vetted.allowed, ⟨scan, known, same, ap, reported, selected, ?_⟩,
      ⟨c, mem, record, free⟩, ?_⟩
    · intro directed
      rw [directed ap reported, same.ssid]
    · intro once
      exact (Tracked.agreed once).prepared posted prepared
  · intro associated
    obtain ⟨info, action, security, allowed⟩ := t.station.associated_cases input posted associated
    refine ⟨info, action, security, ?_⟩
    have same : after.stored = t.stored := by simp only [after, Tracked.step, action]
    rw [same, ← consistent.stored]
    exact allowed

/-- The WPA2 network named `same`. -/
def SameConfig : ConnectionConfig :=
  { ssid := ssidOf [115, 97, 109, 101], security := .kWpa2Personal, hidden := true }

/-- An access point of it. -/
def SameAp (last : UInt8) (rssi : Int) : WifiApRecord :=
  { ssid := .load 33 [115, 97, 109, 101], bssid := .load 6 [2, 0, 0, 0, 0, last], primary := 6
    rssi, authmode := .WIFI_AUTH_WPA2_PSK }

/-- What ESP-IDF answers `t` seconds in, with these records ready. -/
def atSecond (t : Nat) (aps : List WifiApRecord) : Idf :=
  { now := fun _ => t * 1000000, scanGetApNum := aps.length.toUInt16, aps }

/-- Up to the attempt at the first access point. -/
def attempting : List Input :=
  [{ action := .attach }, { action := .connect SameConfig {} },
    { action := .event (.WIFI_EVENT_SCAN_DONE 0), idf := atSecond 1 [SameAp 1 (-40)] },
    { action := .continueConnect, idf := atSecond 1 [] }]

/-- It is absent. -/
def absent : Input :=
  { action := .event (.WIFI_EVENT_STA_DISCONNECTED { reason := .WIFI_REASON_NO_AP_FOUND })
    idf := atSecond 2 [] }

/-- A selection scan that finishes `t` seconds in. -/
def rescan (t : Nat) (aps : List WifiApRecord) : Input :=
  { action := .event (.WIFI_EVENT_SCAN_DONE 0), idf := atSecond t aps }

/-- While the first access point cools, a rescan selects the second one. -/
theorem selection_keeps_policy_same :
    let inputs := attempting ++
      [absent, { action := .connect SameConfig {}, idf := atSecond 3 [] }]
    let input := rescan 4 [SameAp 1 (-40), SameAp 2 (-50)]
    let t := Machine.run Tracked.step (.initial {}) inputs
    SecurityAllows .kWpa2Personal (Auth (t.step input).station.selected_.authmode) = true ∧
      (∃ scan ∈ (t.step input).scans, SameRequest scan.1 SameConfig) ∧
      (t.step input).station.Rested ((SameAp 2 (-50)).bssid, .WIFI_AUTH_WPA2_PSK) 4000000 ∧
      ¬ (t.step input).station.Rested ((SameAp 1 (-40)).bssid, .WIFI_AUTH_WPA2_PSK) 4000000 := by
  intro inputs input t
  obtain ⟨allowed, ⟨scan, known, same, -⟩, -, rested⟩ :=
    (selection_keeps_policy {} inputs input (e := { kind := .kPrepared }) (by decide +kernel)).1 rfl
  have selected : (t.step input).station.selected_.bssid = (SameAp 2 (-50)).bssid ∧
      (t.step input).station.selected_.authmode = .WIFI_AUTH_WPA2_PSK := by decide +kernel
  obtain ⟨rested, -⟩ := rested (by decide +kernel)
  rw [selected.1, selected.2] at rested
  exact ⟨allowed, ⟨scan, known, same⟩, rested, by decide +kernel⟩

/-- A scan reports the access point twice; its attempt fails, which puts one of
the two entries into cooldown, and `connect` selects the other. -/
theorem cooling_twin_selected :
    let inputs : List Input :=
      [{ action := .attach }, { action := .connect SameConfig {} },
        rescan 1 [SameAp 1 (-40), SameAp 1 (-40)],
        { action := .continueConnect, idf := atSecond 1 [] }, absent]
    let input : Input := { action := .connect SameConfig {}, idf := atSecond 3 [] }
    let s := Machine.run step {} inputs
    (s.perform input).2.2.map (fun e => e.kind) = [.kPrepared] ∧
      (s.step input).selected_.bssid = (SameAp 1 (-40)).bssid ∧
      (s.step input).selected_.authmode = .WIFI_AUTH_WPA2_PSK ∧
      ¬ (s.step input).Rested ((SameAp 1 (-40)).bssid, .WIFI_AUTH_WPA2_PSK) 3000000 := by
  decide +kernel

end Esp32Station

end RooWifi
