import RooWifi.Lib.Run
import RooWifi.Esp32.Station

/-! # The candidate cache of a station

Selection works on a small part of the station: the cached candidates, the
configuration they were found for and the access point selected last. Every
step of the station makes at most two moves on that part, over plain lists. -/
namespace RooWifi

open BoundedInsertion (Slots)

namespace Esp32Station

/-- What selection works on. -/
structure Cache where
  options : SelectionOptions := {}
  config : ConnectionConfig := {}
  items : List Candidate := []
  expire : Nat := 0
  selected : WifiApRecord := {}

inductive Move where
  | clear
  | store (config : ConnectionConfig)
  | remember (now : Nat) (aps : List WifiApRecord)
  | fail (now : Nat) (failure : ConnectionFailure)
  | forgive (bssid : MacAddress)
  | select (now : Nat)

namespace Cache

/-- The candidates a finished selection scan leaves. -/
def remembered (c : Cache) (now : Nat) (aps : List WifiApRecord) : List Candidate :=
  (BoundedInsertion.insertAll (precedes now) (arrivals c.config c.items c.expire now aps)
    (Slots.fresh 3 {})).items

def move (c : Cache) : Move → Cache
  | .clear => { c with items := [] }
  | .store config => { c with config, items := if sameSelection c.config config then c.items else [] }
  | .remember now aps =>
    { c with
      items := c.remembered now aps
      expire := now + Millis c.options.cacheLifetimeMs }
  | .fail now failure =>
    { c with
      items := Slots.updateFirst (fun x => x.bssid = c.selected.bssid)
        (penalised c.options now failure) c.items }
  | .forgive bssid => { c with items := c.items.map (forgiven bssid) }
  | .select now =>
    match c.items.find? (expired now) with
    | none => c
    | some candidate =>
      { c with
        items := Slots.updateFirst (expired now) Candidate.renewed c.items
        selected := candidate.record }

end Cache

/-! ## The moves of a step -/

def cache (s : Esp32Station) : Cache :=
  { options := s.selectionOptions_, config := s.config_, items := s.candidates_.items
    expire := s.candidatesExpire_, selected := s.selected_ }

/-- The records of a selection scan that ends the step, completed and not cancelled. -/
def finished (s : Esp32Station) (input : Input) : Option (List WifiApRecord) :=
  match input.action with
  | .event (.WIFI_EVENT_SCAN_DONE status) =>
    if s.receiver_ ∧ s.selecting_ ∧ !s.scanCancelled_ ∧ status = 0 ∧
        input.idf.scanGetApRecords = 0 then
      some (input.idf.aps.take (max (min input.idf.scanGetApNum.toNat 100) 1))
    else none
  | _ => none

/-- Whether `startSelected` gets as far as `esp_wifi_set_config`, after which the
secret is dropped. -/
def opens (s : Esp32Station) (idf : Idf) : Bool := (s.setupCalls idf).all Prod.snd

/-- Whether a continuation gets as far as `esp_wifi_connect`. -/
def reachesConnect (s : Esp32Station) (idf : Idf) : Bool :=
  s.prepared_ && s.opens idf && idf.setConfig

/-- The failure a step reports of the attempt in progress. -/
def failure (s : Esp32Station) (input : Input) : Option ConnectionFailure :=
  match input.action with
  | .continueConnect =>
    if s.reachesConnect input.idf ∧ !input.idf.connect then some .kTransient else none
  | .event (.WIFI_EVENT_STA_DISCONNECTED info) =>
    if s.receiver_ ∧ s.attemptActive_ then
      some (if s.rejectedSecurity_ ≠ .kNone then s.rejectedSecurity_
        else ClassifyDisconnect info.reason)
    else none
  | _ => none

/-- The access point of a validated address-ready event. -/
def validated (s : Esp32Station) (input : Input) : Option MacAddress :=
  match input.action with
  | .event (.IP_EVENT_STA_GOT_IP info) =>
    if s.receiver_ then (s.validAddress input.idf info).map WifiApRecord.bssid else none
  | _ => none

/-- Whether `connect` is neither busy nor asked for an unsupported SSID. -/
def admits (s : Esp32Station) (config : ConnectionConfig) : Bool :=
  !s.selecting_ && !s.scanActive_ && !config.ssid.view.contains 0

/-- The moves of a step, in order. -/
def moves (s : Esp32Station) (input : Input) : List Move :=
  match input.action with
  | .detach => if s.receiver_ then [.clear] else []
  | .enable enabled => if enabled then [] else [.clear]
  | .connect config _ =>
    if !s.admits config then []
    else if input.idf.now 0 < s.candidatesExpire_ then
      [.store config, .select (input.idf.now 1)]
    else [.store config]
  | _ =>
    match s.finished input with
    | some aps => [.remember (input.idf.now 0) aps, .select (input.idf.now 1)]
    | none =>
      match s.failure input with
      | some failure => [.fail (input.idf.now 0) failure]
      | none => match s.validated input with
        | some bssid => [.forgive bssid]
        | none => []

/-- Why a step makes a move. -/
def Origin (s : Esp32Station) (input : Input) : Move → Prop
  | .clear => input.action = .detach ∨ input.action = .enable false
  | .store config => (∃ secret, input.action = .connect config secret) ∧ s.admits config = true
  | .remember now aps => s.finished input = some aps ∧ now = input.idf.now 0
  | .fail now failure => s.failure input = some failure ∧ now = input.idf.now 0
  | .forgive bssid => s.validated input = some bssid
  | .select now => now = input.idf.now 1

theorem origin {s : Esp32Station} {input : Input} {m : Move} (h : m ∈ s.moves input) :
    s.Origin input m := by
  obtain ⟨action, idf⟩ := input
  cases action with
  | detach =>
    simp only [moves] at h
    split at h
    · cases List.mem_singleton.mp h
      exact .inl rfl
    · cases h
  | enable enabled =>
    cases enabled with
    | true => cases h
    | false =>
      cases List.mem_singleton.mp h
      exact .inr rfl
  | connect config secret =>
    simp only [moves] at h
    split at h
    · cases h
    rename_i admitted
    have admitted : s.admits config = true := by simpa using admitted
    split at h
    · rcases List.mem_pair.mp h with rfl | rfl
      · exact ⟨⟨secret, rfl⟩, admitted⟩
      · exact rfl
    · cases List.mem_singleton.mp h
      exact ⟨⟨secret, rfl⟩, admitted⟩
  | _ =>
    simp only [moves] at h
    split at h
    · rename_i aps fin
      rcases List.mem_pair.mp h with rfl | rfl
      · exact ⟨fin, rfl⟩
      · exact rfl
    split at h
    · rename_i f failed
      cases List.mem_singleton.mp h
      exact ⟨failed, rfl⟩
    split at h
    · rename_i bssid valid
      cases List.mem_singleton.mp h
      exact valid
    · cases h

/-! ## Refinement -/

theorem cache_selectCandidate (s : Esp32Station) (now : Nat) :
    ((s.selectCandidate now).getD s).cache = s.cache.move (.select now) := by
  unfold selectCandidate
  cases found : s.candidates_.items.find? (expired now) with
  | none => simp only [Option.getD_none, cache, Cache.move, found]
  | some c => simp only [Option.getD_some, cache, Cache.move, found, Slots.items_modifyFirst]

theorem cache_rememberCandidates (s : Esp32Station) (now : Nat) (aps : List WifiApRecord) :
    (s.rememberCandidates now aps).cache = s.cache.move (.remember now aps) := rfl

theorem cache_candidateFailed (s : Esp32Station) (now : Nat) (f : ConnectionFailure) :
    (s.candidateFailed now f).cache =
      if s.attemptActive_ then s.cache.move (.fail now f) else s.cache := by
  unfold candidateFailed
  cases s.attemptActive_ with
  | false => rfl
  | true =>
    simp only [Bool.not_true, Bool.false_eq_true, if_false, if_true, cache, Cache.move,
      Slots.items_modifyFirst]
    rfl

@[simp] theorem cache_record (s : Esp32Station) (setting : Setting) :
    (s.record setting).cache = s.cache := rfl

/-- The moves of a list, one after the other. -/
def Cache.moveAll (c : Cache) (ms : List Move) : Cache := ms.foldl Cache.move c

@[simp] theorem Cache.moveAll_nil (c : Cache) : c.moveAll [] = c := rfl

@[simp] theorem Cache.moveAll_cons (c : Cache) (m : Move) (ms : List Move) :
    c.moveAll (m :: ms) = (c.move m).moveAll ms := rfl

theorem readDeviceMac_state (s : Esp32Station) (idf : Idf) :
    ∃ mac, s.readDeviceMac idf = { s with deviceMac_ := mac } := by
  unfold readDeviceMac
  split
  · exact ⟨_, rfl⟩
  · exact ⟨s.deviceMac_, rfl⟩

/-- Besides forgetting the candidates, `enable` reads the device's MAC address. -/
theorem enable_state (s : Esp32Station) (idf : Idf) (enabled : Bool) :
    ∃ mac, (s.enable idf enabled).2.1 = { s.enabling enabled with deviceMac_ := mac } := by
  have same : ∃ mac, s.enabling enabled = { s.enabling enabled with deviceMac_ := mac } := ⟨_, rfl⟩
  unfold enable
  dsimp only
  split
  · exact same
  split
  · exact same
  split
  · split
    · exact same
    · exact (s.enabling enabled).readDeviceMac_state idf
  · split <;> exact same

theorem cache_enable (s : Esp32Station) (idf : Idf) (enabled : Bool) :
    (s.enable idf enabled).2.1.cache = s.cache.moveAll (if enabled then [] else [.clear]) := by
  obtain ⟨mac, same⟩ := s.enable_state idf enabled
  rw [same]
  cases enabled <;> rfl

theorem cache_store (s : Esp32Station) (config : ConnectionConfig) (secret : Credentials) :
    (s.store config secret).cache = s.cache.move (.store config) := by
  unfold store
  by_cases same : sameSelection s.config_ config = true
  · simp only [cache, Cache.move, same, if_true]
  · simp only [cache, Cache.move, same, Bool.false_eq_true, if_false, Slots.items_cleared]

theorem cache_startSelection (s : Esp32Station) (idf : Idf) :
    (s.startSelection idf).2.1.cache = s.cache := by
  unfold startSelection
  dsimp only
  split <;> rfl

/-- What an admitted `connect` does: it selects a cached candidate, or starts a
selection scan. -/
theorem connect_cases (s : Esp32Station) (idf : Idf) {config : ConnectionConfig}
    (secret : Credentials) (admitted : s.admits config = true) :
    (∃ s', idf.now 0 < s.candidatesExpire_ ∧
      (s.store config secret).selectCandidate (idf.now 1) = some s' ∧
      s.connect idf config secret = (.kOk, s', [{ kind := .kPrepared }])) ∨
    ((idf.now 0 < s.candidatesExpire_ →
        (s.store config secret).selectCandidate (idf.now 1) = none) ∧
      s.connect idf config secret = (s.store config secret).startSelection idf) := by
  simp only [admits, Bool.and_eq_true, Bool.not_eq_true'] at admitted
  obtain ⟨⟨selecting, scanning⟩, supported⟩ := admitted
  simp only [connect, selecting, scanning, supported, Bool.or_self, Bool.false_eq_true, if_false]
  by_cases live : idf.now 0 < s.candidatesExpire_
  · rw [if_pos (show idf.now 0 < (s.store config secret).candidatesExpire_ from live)]
    cases picked : (s.store config secret).selectCandidate (idf.now 1) with
    | some s' => exact .inl ⟨s', live, rfl, rfl⟩
    | none => exact .inr ⟨fun _ => rfl, rfl⟩
  · rw [if_neg (show ¬ idf.now 0 < (s.store config secret).candidatesExpire_ from live)]
    exact .inr ⟨fun h => absurd h live, rfl⟩

theorem connect_refused (s : Esp32Station) (idf : Idf) {config : ConnectionConfig}
    (secret : Credentials) (refused : s.admits config = false) :
    s.connect idf config secret = (.kBusy, s, []) ∨
      s.connect idf config secret = (.kUnsupported, s, []) := by
  unfold connect
  split
  · exact .inl rfl
  rename_i idle
  split
  · exact .inr rfl
  rename_i supported
  exact absurd refused (by simp_all [admits])

theorem cache_connect (s : Esp32Station) (idf : Idf) (config : ConnectionConfig)
    (secret : Credentials) :
    (s.connect idf config secret).2.1.cache = s.cache.moveAll
      (if !s.admits config then []
      else if idf.now 0 < s.candidatesExpire_ then [.store config, .select (idf.now 1)]
      else [.store config]) := by
  cases admitted : s.admits config with
  | false =>
    rcases s.connect_refused idf secret admitted with refused | refused <;> (rw [refused]; rfl)
  | true =>
    have selected := (s.store config secret).cache_selectCandidate (idf.now 1)
    rw [cache_store] at selected
    simp only [Bool.not_true, Bool.false_eq_true, if_false]
    rcases s.connect_cases idf secret admitted with ⟨s', live, picked, returned⟩ | ⟨none_, returned⟩
    · rw [returned, if_pos live]
      rw [picked] at selected
      exact selected
    · rw [returned, cache_startSelection]
      split
      · rename_i live
        rw [none_ live] at selected
        rw [Cache.moveAll_cons, Cache.moveAll_cons, Cache.moveAll_nil, ← selected]
        rfl
      · exact s.cache_store config secret

theorem program_eq (s : Esp32Station) (calls : List (Option Setting × Bool)) :
    ∃ trace, s.program calls = (calls.all Prod.snd, { s with trace }) := by
  induction calls generalizing s with
  | nil => exact ⟨s.trace, rfl⟩
  | cons call calls ih =>
    obtain ⟨setting, ok⟩ := call
    cases ok with
    | true =>
      cases setting with
      | none => exact ih s
      | some setting =>
        obtain ⟨trace, rest⟩ := ih (s.record setting)
        exact ⟨trace, rest⟩
    | false => cases setting <;> exact ⟨_, rfl⟩

/-- `startSelected` programs the driver up to the first call that fails. -/
theorem startSelected_eq (s : Esp32Station) (idf : Idf) (ap : WifiApRecord) :
    ∃ trace, s.startSelected idf ap =
      if s.opens idf then { s with trace }.startAttempt idf ap
      else (.kConnectionFailed, { s with trace }, []) := by
  obtain ⟨trace, programmed⟩ := s.program_eq (s.setupCalls idf)
  refine ⟨trace, ?_⟩
  rw [startSelected, programmed]
  cases done : (s.setupCalls idf).all Prod.snd with
  | true =>
    rw [if_pos (show s.opens idf = true from done)]
    rfl
  | false =>
    rw [if_neg (show ¬ s.opens idf = true by simp [opens, done])]
    rfl

theorem cache_startAttempt (s : Esp32Station) (idf : Idf) (ap : WifiApRecord) :
    (s.startAttempt idf ap).2.1.cache =
      if idf.setConfig ∧ !idf.connect then s.cache.move (.fail (idf.now 0) .kTransient)
      else s.cache := by
  unfold startAttempt
  cases idf.setConfig <;> cases idf.connect
  · rfl
  · rfl
  · exact cache_candidateFailed _ _ _
  · rfl

theorem cache_continueConnect (s : Esp32Station) (idf : Idf) :
    (s.continueConnect idf).2.1.cache =
      if s.reachesConnect idf ∧ !idf.connect then s.cache.move (.fail (idf.now 0) .kTransient)
      else s.cache := by
  unfold continueConnect reachesConnect
  cases prepared : s.prepared_ with
  | false => rfl
  | true =>
    obtain ⟨trace, started⟩ := { s with prepared_ := false }.startSelected_eq idf s.selected_
    have same : { s with prepared_ := false }.opens idf = s.opens idf := rfl
    simp only [Bool.not_true, Bool.false_eq_true, if_false, Bool.true_and]
    rw [started, same]
    cases s.opens idf with
    | false => rfl
    | true =>
      simp only [if_true, Bool.true_and]
      exact cache_startAttempt _ idf _

theorem cache_selectionFailed (s : Esp32Station) (f : ConnectionFailure) (code : Int) :
    (s.selectionFailed f code).1.cache = s.cache := rfl

/-- What a completed selection scan does: it prepares a candidate or fails. -/
theorem selectionDone_cases (s : Esp32Station) (idf : Idf) (aps : List WifiApRecord) (code : Int)
    (cancelled : s.scanCancelled_ = false) :
    let r := { s with selecting_ := false }.rememberCandidates (idf.now 0) aps
    (∃ s', r.selectCandidate (idf.now 1) = some s' ∧
      s.selectionDone idf (some aps) code = (s', [{ kind := .kPrepared }])) ∨
    (r.selectCandidate (idf.now 1) = none ∧
      s.selectionDone idf (some aps) code = r.selectionFailed (r.selectionFailure aps) code) := by
  intro r
  unfold selectionDone
  dsimp only
  rw [if_neg (by simp [cancelled])]
  split
  · rename_i s' picked
    exact .inl ⟨s', picked, rfl⟩
  · rename_i picked
    exact .inr ⟨picked, rfl⟩

theorem cache_selectionDone (s : Esp32Station) (idf : Idf) (aps : Option (List WifiApRecord))
    (code : Int) :
    (s.selectionDone idf aps code).1.cache =
      match aps with
      | none => s.cache
      | some aps =>
        if s.scanCancelled_ then s.cache
        else s.cache.moveAll [.remember (idf.now 0) aps, .select (idf.now 1)] := by
  cases aps with
  | none => rfl
  | some aps =>
    cases cancelled : s.scanCancelled_ with
    | true =>
      simp only [selectionDone, cancelled, if_true]
      rfl
    | false =>
      have selected := ({ s with selecting_ := false }.rememberCandidates (idf.now 0) aps
        ).cache_selectCandidate (idf.now 1)
      rw [cache_rememberCandidates] at selected
      simp only [Bool.false_eq_true, if_false, Cache.moveAll_cons, Cache.moveAll_nil]
      rcases s.selectionDone_cases idf aps code cancelled with
        ⟨s', picked, returned⟩ | ⟨picked, returned⟩
      · rw [returned]
        rw [picked] at selected
        exact selected
      · rw [returned, cache_selectionFailed]
        rw [picked] at selected
        exact selected

theorem cache_scanDone (s : Esp32Station) (idf : Idf) (status : UInt32) :
    (s.scanDone idf status).1.cache =
      if s.selecting_ ∧ !s.scanCancelled_ ∧ status = 0 ∧ idf.scanGetApRecords = 0 then
        s.cache.moveAll
          [.remember (idf.now 0) (idf.aps.take (max (min idf.scanGetApNum.toNat 100) 1)),
            .select (idf.now 1)]
      else s.cache := by
  unfold scanDone
  cases selecting : s.selecting_ with
  | false =>
    dsimp only
    simp only [Bool.false_eq_true, false_and, if_false]
    split
    · rfl
    · split <;> rfl
  | true =>
    simp only [Bool.not_true, Bool.false_and, Bool.false_eq_true, if_false, if_true, true_and]
    rw [cache_selectionDone]
    by_cases ok : status = 0 ∧ idf.scanGetApRecords = 0
    · simp only [ok, and_self, decide_true, if_true, and_true]
      cases s.scanCancelled_ <;> rfl
    · simp only [ok, decide_false, Bool.false_eq_true, if_false, and_false]

/-- **The moves of a step are what it does to the cache.** -/
theorem cache_step (s : Esp32Station) (input : Input) :
    (s.step input).cache = s.cache.moveAll (s.moves input) := by
  obtain ⟨action, idf⟩ := input
  cases action with
  | attach =>
    simp only [step, perform, attach, moves, finished, failure, validated]
    split
    · rfl
    split <;> rfl
  | detach =>
    simp only [step, perform, detach, moves]
    cases s.receiver_ with
    | false => rfl
    | true => simp [cache, Cache.move]
  | enable enabled => exact s.cache_enable idf enabled
  | scan maxResults =>
    simp only [step, perform, scan, moves, finished, failure, validated]
    split
    · rfl
    split <;> rfl
  | stopScan => rfl
  | connect config secret => exact s.cache_connect idf config secret
  | continueConnect =>
    simp only [step, perform, moves, finished, failure, validated]
    rw [cache_continueConnect]
    split <;> rfl
  | disconnect =>
    simp only [step, perform, disconnect, moves, finished, failure, validated]
    split
    · rfl
    split <;> rfl
  | event e =>
    show (s.event idf e).1.cache = _
    unfold event
    cases receiver : s.receiver_ with
    | false =>
      rw [Bool.not_false, if_pos rfl]
      cases e <;> simp [moves, finished, failure, validated, receiver]
    | true =>
      rw [Bool.not_true, if_neg Bool.false_ne_true]
      cases e with
      | WIFI_EVENT_STA_START | WIFI_EVENT_STA_STOP | IP_EVENT_STA_LOST_IP | other => rfl
      | WIFI_EVENT_SCAN_DONE status =>
        simp only [moves, finished, failure, validated, receiver, true_and]
        rw [cache_scanDone]
        split <;> rfl
      | WIFI_EVENT_STA_CONNECTED info =>
        show (s.staConnected idf info).1.cache = s.cache
        unfold staConnected
        split <;> rfl
      | WIFI_EVENT_STA_DISCONNECTED info =>
        simp only [moves, finished, failure, validated, receiver, true_and]
        show ({ s with rejectedSecurity_ := .kNone }.candidateFailed _ _).cache = _
        rw [cache_candidateFailed]
        dsimp only
        cases s.attemptActive_ <;> rfl
      | IP_EVENT_STA_GOT_IP info =>
        simp only [moves, finished, failure, validated, receiver, if_true]
        unfold gotIp
        cases s.validAddress idf info with
        | none => rfl
        | some ap => simp [cache, Cache.move]

/-! ## What is selected -/

theorem selected_of_picked {s s' : Esp32Station} {now : Nat}
    (h : s.selectCandidate now = some s') :
    ∃ c, s.cache.items.find? (expired now) = some c ∧ s'.selected_ = c.record := by
  unfold selectCandidate at h
  split at h
  · cases h
  · rename_i c found
    cases h
    exact ⟨c, found, rfl⟩

theorem enable_posts (s : Esp32Station) (idf : Idf) (enabled : Bool) {e : NativeStation.Event}
    (h : e ∈ (s.enable idf enabled).2.2) : e.kind = .kEnabled ∨ e.kind = .kDisabled := by
  unfold enable at h
  dsimp only at h
  split at h
  · cases h
  split at h
  · cases List.mem_singleton.mp h
    cases enabled
    · exact .inr rfl
    · exact .inl rfl
  split at h
  · split at h <;> cases h
  · split at h <;> cases h

theorem connect_posts (s : Esp32Station) (idf : Idf) {config : ConnectionConfig}
    {secret : Credentials} {e : NativeStation.Event}
    (h : e ∈ (s.connect idf config secret).2.2) :
    e.kind = .kPrepared ∧ s.admits config = true ∧ idf.now 0 < s.candidatesExpire_ ∧
      ∃ s', (s.store config secret).selectCandidate (idf.now 1) = some s' ∧
        (s.connect idf config secret).2.1 = s' := by
  cases admitted : s.admits config with
  | false =>
    rcases s.connect_refused idf secret admitted with refused | refused <;>
      (rw [refused] at h; cases h)
  | true =>
    rcases s.connect_cases idf secret admitted with ⟨s', live, picked, returned⟩ | ⟨-, returned⟩
    · rw [returned] at h
      cases List.mem_singleton.mp h
      exact ⟨rfl, rfl, live, s', picked, by rw [returned]⟩
    · rw [returned, startSelection] at h
      split at h <;> cases h

theorem continueConnect_posts (s : Esp32Station) (idf : Idf) :
    (s.continueConnect idf).2.2 = [] := by
  unfold continueConnect
  split
  · rfl
  · obtain ⟨trace, started⟩ := { s with prepared_ := false }.startSelected_eq idf s.selected_
    rw [started]
    split
    · unfold startAttempt
      dsimp only
      split
      · rfl
      split <;> rfl
    · rfl

theorem selectionFailed_posts {s : Esp32Station} {f : ConnectionFailure} {code : Int}
    {e : NativeStation.Event} (h : e ∈ (s.selectionFailed f code).2) : e.kind = .kDisconnected := by
  cases List.mem_singleton.mp h
  rfl

theorem selectionDone_kind {s : Esp32Station} {idf : Idf} {aps : Option (List WifiApRecord)}
    {code : Int} {e : NativeStation.Event} (h : e ∈ (s.selectionDone idf aps code).2) :
    e.kind = .kDisconnected ∨ e.kind = .kPrepared := by
  cases aps with
  | none => exact .inl (selectionFailed_posts h)
  | some aps =>
    cases cancelled : s.scanCancelled_ with
    | true =>
      simp only [selectionDone, cancelled, if_true] at h
      exact .inl (selectionFailed_posts h)
    | false =>
      rcases s.selectionDone_cases idf aps code cancelled with ⟨s', -, returned⟩ | ⟨-, returned⟩
      · rw [returned] at h
        cases List.mem_singleton.mp h
        exact .inr rfl
      · rw [returned] at h
        exact .inl (selectionFailed_posts h)

theorem scanDone_kind {s : Esp32Station} {idf : Idf} {status : UInt32} {e : NativeStation.Event}
    (h : e ∈ (s.scanDone idf status).2) :
    e.kind = .kDisconnected ∨ e.kind = .kPrepared ∨ e.kind = .kScanDone := by
  unfold scanDone at h
  split at h
  · cases h
  dsimp only at h
  split at h
  · exact (selectionDone_kind h).imp_right .inl
  · cases List.mem_singleton.mp h
    exact .inr (.inr rfl)

/-- A finished scan prepares after selecting, or reports a failure. -/
theorem scanDone_posts (s : Esp32Station) (idf : Idf) (status : UInt32) {e : NativeStation.Event}
    (h : e ∈ (s.scanDone idf status).2) (prepared : e.kind = .kPrepared) :
    (s.selecting_ ∧ !s.scanCancelled_ ∧ status = 0 ∧ idf.scanGetApRecords = 0) ∧
      ∃ c, (s.cache.move (.remember (idf.now 0)
          (idf.aps.take (max (min idf.scanGetApNum.toNat 100) 1)))).items.find?
            (expired (idf.now 1)) = some c ∧
        (s.scanDone idf status).1.selected_ = c.record := by
  have failed {s' : Esp32Station} {f : ConnectionFailure} {code : Int}
      (h : e ∈ (s'.selectionFailed f code).2) : False := by
    have := selectionFailed_posts h
    exact absurd (prepared.symm.trans this) nofun
  unfold scanDone at h ⊢
  cases selecting : s.selecting_ with
  | false =>
    simp only [selecting] at h
    split at h
    · cases h
    · cases List.mem_singleton.mp h
      exact absurd prepared nofun
  | true =>
    simp only [selecting, Bool.not_true, Bool.false_and, Bool.false_eq_true, if_false, if_true,
      true_and] at h ⊢
    by_cases ok : status = 0 ∧ idf.scanGetApRecords = 0
    · simp only [ok, and_self, decide_true, if_true, and_true] at h ⊢
      cases cancelled : s.scanCancelled_ with
      | true =>
        simp only [selectionDone, cancelled, if_true] at h
        exact (failed h).elim
      | false =>
        rcases s.selectionDone_cases idf _ _ cancelled with ⟨s', picked, returned⟩ | ⟨-, returned⟩
        · obtain ⟨c, found, selected⟩ := selected_of_picked picked
          rw [returned]
          exact ⟨rfl, c, found, selected⟩
        · rw [returned] at h
          exact (failed h).elim
    · simp only [ok, decide_false, Bool.false_eq_true, if_false] at h
      exact (failed h).elim

/-- What each event of ESP-IDF makes a station with a receiver post. -/
def Announces (s : Esp32Station) (idf : Idf) (e : NativeStation.Event) : IdfEvent → Prop
  | .WIFI_EVENT_STA_START => e.kind = .kEnabled
  | .WIFI_EVENT_STA_STOP => e.kind = .kDisabled
  | .WIFI_EVENT_SCAN_DONE status => e ∈ (s.scanDone idf status).2
  | .WIFI_EVENT_STA_CONNECTED info => e.kind = .kAssociated ∧ e.link.security = Auth info.authmode ∧
      SecurityAllows s.config_.security (Auth info.authmode) = true
  | .WIFI_EVENT_STA_DISCONNECTED _ => e.kind = .kDisconnected
  | .IP_EVENT_STA_GOT_IP _ => e.kind = .kAddressReady
  | .IP_EVENT_STA_LOST_IP => e.kind = .kAddressLost
  | .other => False

theorem staConnected_posts {s : Esp32Station} {idf : Idf} {info : StaConnected}
    {e : NativeStation.Event} (h : e ∈ (s.staConnected idf info).2) :
    e.kind = .kAssociated ∧ e.link.security = Auth info.authmode ∧
      SecurityAllows s.config_.security (Auth info.authmode) = true := by
  simp only [staConnected] at h
  split at h
  · cases h
  rename_i allowed
  rw [Bool.not_eq_true', Bool.not_eq_false] at allowed
  cases List.mem_singleton.mp h
  refine ⟨rfl, ?_, allowed⟩
  dsimp only
  split <;> split <;> rfl

theorem event_posts {s : Esp32Station} {idf : Idf} {event : IdfEvent} {e : NativeStation.Event}
    (h : e ∈ (s.event idf event).2) : s.receiver_ = true ∧ s.Announces idf e event := by
  unfold Esp32Station.event at h
  cases receiver : s.receiver_ with
  | false =>
    rw [receiver, Bool.not_false, if_pos rfl] at h
    cases h
  | true =>
    rw [receiver, Bool.not_true, if_neg Bool.false_ne_true] at h
    refine ⟨rfl, ?_⟩
    cases event with
    | WIFI_EVENT_STA_START | WIFI_EVENT_STA_STOP | WIFI_EVENT_STA_DISCONNECTED info =>
      cases List.mem_singleton.mp h
      exact rfl
    | WIFI_EVENT_SCAN_DONE status => exact h
    | WIFI_EVENT_STA_CONNECTED info => exact staConnected_posts h
    | IP_EVENT_STA_GOT_IP info =>
      simp only [gotIp] at h
      split at h
      · cases h
      · cases List.mem_singleton.mp h
        exact rfl
    | IP_EVENT_STA_LOST_IP =>
      simp only [lostIp] at h
      split at h
      · split at h
        · cases h
        · cases List.mem_singleton.mp h
          exact rfl
      · cases List.mem_singleton.mp h
        exact rfl
    | other => cases h

/-- A station posts when it is asked to switch the radio or to connect, and on
events of ESP-IDF. -/
theorem posts_cases {s : Esp32Station} {input : Input} {e : NativeStation.Event}
    (h : e ∈ (s.perform input).2.2) :
    match input.action with
    | .enable _ => e.kind = .kEnabled ∨ e.kind = .kDisabled
    | .connect config secret => e ∈ (s.connect input.idf config secret).2.2
    | .event event => s.receiver_ = true ∧ s.Announces input.idf e event
    | _ => False := by
  obtain ⟨action, idf⟩ := input
  cases action with
  | attach =>
    simp only [perform, attach] at h
    split at h
    · cases h
    split at h <;> cases h
  | detach | stopScan => cases h
  | enable enabled => exact s.enable_posts idf enabled h
  | scan maxResults =>
    simp only [perform, scan] at h
    split at h
    · cases h
    split at h <;> cases h
  | connect config secret => exact h
  | continueConnect =>
    simp only [perform, continueConnect_posts] at h
    cases h
  | disconnect =>
    simp only [perform, disconnect] at h
    split at h
    · cases h
    split at h <;> cases h
  | event event => exact event_posts h

/-- Only a connect and a finished selection scan prepare, each by selecting the
first cached candidate whose cooldown has expired. -/
theorem prepared_cases (s : Esp32Station) (input : Input) {e : NativeStation.Event}
    (h : e ∈ (s.perform input).2.2) (prepared : e.kind = .kPrepared) :
    ∃ m c, s.moves input = [m, .select (input.idf.now 1)] ∧
      (s.cache.move m).items.find? (expired (input.idf.now 1)) = some c ∧
      (s.step input).selected_ = c.record := by
  have posted := posts_cases h
  obtain ⟨action, idf⟩ := input
  cases action with
  | attach | detach | scan maxResults | stopScan | continueConnect | disconnect => cases posted
  | enable enabled =>
    rcases posted with other | other <;> exact absurd (prepared.symm.trans other) nofun
  | connect config secret =>
    obtain ⟨-, admitted, live, s', picked, returned⟩ := s.connect_posts idf h
    obtain ⟨c, found, selected⟩ := selected_of_picked picked
    rw [cache_store] at found
    refine ⟨.store config, c, ?_, found, ?_⟩
    · simp only [moves, admitted, live, Bool.not_true, Bool.false_eq_true, if_false, if_true]
    · simp only [step, perform]
      rw [returned, selected]
  | event event =>
    obtain ⟨receiver, posted⟩ := posted
    cases event with
    | WIFI_EVENT_SCAN_DONE status =>
      obtain ⟨fresh, c, found, selected⟩ := s.scanDone_posts idf status posted prepared
      refine ⟨_, c, ?_, found, ?_⟩
      · simp only [moves, finished, receiver, true_and]
        rw [if_pos fresh]
      · change (s.event idf (.WIFI_EVENT_SCAN_DONE status)).1.selected_ = _
        rw [event, if_neg (by simp [receiver])]
        exact selected
    | WIFI_EVENT_STA_CONNECTED info => exact absurd (prepared.symm.trans posted.1) nofun
    | other => cases posted
    | _ => exact absurd (prepared.symm.trans posted) nofun

/-- Only an association with an allowed mode is reported. -/
theorem associated_cases (s : Esp32Station) (input : Input) {e : NativeStation.Event}
    (h : e ∈ (s.perform input).2.2) (associated : e.kind = .kAssociated) :
    ∃ info, input.action = .event (.WIFI_EVENT_STA_CONNECTED info) ∧
      e.link.security = Auth info.authmode ∧
      SecurityAllows s.config_.security (Auth info.authmode) = true := by
  have posted := posts_cases h
  obtain ⟨action, idf⟩ := input
  cases action with
  | attach | detach | scan maxResults | stopScan | continueConnect | disconnect => cases posted
  | enable enabled =>
    rcases posted with other | other <;> exact absurd (associated.symm.trans other) nofun
  | connect config secret =>
    exact absurd (associated.symm.trans (s.connect_posts idf h).1) nofun
  | event event =>
    obtain ⟨-, posted⟩ := posted
    cases event with
    | WIFI_EVENT_SCAN_DONE status =>
      rcases scanDone_kind posted with other | other | other <;>
        exact absurd (associated.symm.trans other) nofun
    | WIFI_EVENT_STA_CONNECTED info => exact ⟨info, rfl, posted.2⟩
    | other => cases posted
    | _ => exact absurd (associated.symm.trans posted) nofun

end Esp32Station

end RooWifi
