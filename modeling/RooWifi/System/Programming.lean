import RooWifi.Esp32.Addressing
import RooWifi.OrderedInterface.Frame
import RooWifi.System.Coherence

/-! # What the station is programmed with

Every setting that the station programs into ESP-IDF is followed back to the
connection request it comes from. An attempt may outlive its request, and the
secret may be dropped before its attempt; but what one step programs is all of
one request. -/
namespace RooWifi

/-! ## The station -/

namespace Esp32Station

/-- The setting is one that an attempt of this configuration programs: with
this secret or with none. -/
def Setting.Of (config : ConnectionConfig) (secret : Credentials) : Setting → Prop
  | .mac address => config.macPolicy = .kRandomized → address.head &&& 0x03 = 0x02
  | .ipInfo ip gw netmask => .ipInfo ip gw netmask = Esp32Station.ipInfo config
  | .dns backup server => config.ipMode = .kStaticIpv4 ∧
      (backup = true → config.staticIpv4.hasDns2 = true) ∧
      server = NativeAddress (if backup then config.staticIpv4.dns2 else config.staticIpv4.dns1)
  | .sta ssid password _ _ _ pmfRequired => ssid = config.ssid.view ∧
      (password = secret.view ∨ password = []) ∧
      pmfRequired = decide (config.security = .kWpa3Personal)
  | .scanFor ssid => ssid = config.ssid.view

/-- The credentials are of a request for this network, or dropped. -/
def Kept (P : ConnectionConfig → Credentials → Prop) (config : ConnectionConfig)
    (credentials : Credentials) : Prop :=
  ∃ secret, P config secret ∧ (credentials = secret ∨ credentials = {})

/-- What the station waits to program was asked for. -/
def Faithful (P : ConnectionConfig → Credentials → Prop) (s : Esp32Station) : Prop :=
  s.selecting_ = true ∨ s.prepared_ = true → Kept P s.config_ s.secret_

/-- All that is programmed from `s` to `s'` is of this configuration and secret. -/
def Writes (config : ConnectionConfig) (secret : Credentials) (s s' : Esp32Station) : Prop :=
  ∃ new, s'.trace = new ++ s.trace ∧ ∀ setting ∈ new, setting.Of config secret

/-- From `s` to `s'` the station comes to wait for nothing new. -/
structure Carries (s s' : Esp32Station) : Prop where
  config : s'.config_ = s.config_
  secret : s'.secret_ = s.secret_ ∨ s'.secret_ = {}
  waits : s'.selecting_ = true ∨ s'.prepared_ = true → s.selecting_ = true ∨ s.prepared_ = true

/-- Nor does it program anything. -/
structure Idles (s s' : Esp32Station) : Prop extends Carries s s' where
  trace : s'.trace = s.trace

variable {P Q : ConnectionConfig → Credentials → Prop} {s s' t : Esp32Station} {idf : Idf}

theorem Kept.drop {config : ConnectionConfig} {credentials : Credentials}
    (h : Kept P config credentials) : Kept P config {} := by
  obtain ⟨secret, asked, -⟩ := h
  exact ⟨secret, asked, .inr rfl⟩

theorem Kept.carried {config : ConnectionConfig} {credentials dropped : Credentials}
    (h : Kept P config credentials) (same : dropped = credentials ∨ dropped = {}) :
    Kept P config dropped := by
  obtain rfl | rfl := same
  · exact h
  · exact h.drop

theorem Kept.mono (h : ∀ config secret, P config secret → Q config secret)
    {config : ConnectionConfig} {credentials : Credentials} (kept : Kept P config credentials) :
    Kept Q config credentials := by
  obtain ⟨secret, asked, same⟩ := kept
  exact ⟨secret, h _ _ asked, same⟩

theorem Faithful.mono (h : ∀ config secret, P config secret → Q config secret)
    (hi : Faithful P s) : Faithful Q s := by
  intro waits
  exact (hi waits).mono h

theorem Faithful.carried (hi : Faithful P s) (h : Carries s s') : Faithful P s' := by
  intro waits
  rw [h.config]
  exact (hi (h.waits waits)).carried h.secret

theorem Carries.refl (s : Esp32Station) : Carries s s := ⟨rfl, .inl rfl, id⟩

theorem Carries.trans (h : Carries s s') (h' : Carries s' t) : Carries s t where
  config := h'.config.trans h.config
  secret := by
    obtain same | dropped := h'.secret
    · rw [same]
      exact h.secret
    · exact .inr dropped
  waits := h.waits ∘ h'.waits

theorem Idles.refl (s : Esp32Station) : Idles s s := ⟨.refl s, rfl⟩

theorem Idles.trans (h : Idles s s') (h' : Idles s' t) : Idles s t :=
  ⟨h.toCarries.trans h'.toCarries, h'.trace.trans h.trace⟩

/-! ### What is programmed -/

section Writes

variable {config : ConnectionConfig} {secret : Credentials}

theorem Writes.of_trace (same : s'.trace = s.trace) : Writes config secret s s' :=
  ⟨[], same, fun _ none => absurd none List.not_mem_nil⟩

theorem Writes.trans (h : Writes config secret s s') (h' : Writes config secret s' t) :
    Writes config secret s t := by
  obtain ⟨new, same, of⟩ := h
  obtain ⟨later, same', of'⟩ := h'
  refine ⟨later ++ new, by rw [same', same, List.append_assoc], fun setting mem => ?_⟩
  obtain mem | mem := List.mem_append.mp mem
  · exact of' setting mem
  · exact of setting mem

theorem writes_record (s : Esp32Station) {setting : Setting} (of : setting.Of config secret) :
    Writes config secret s (s.record setting) := by
  refine ⟨[setting], rfl, fun other mem => ?_⟩
  rw [List.mem_singleton.mp mem]
  exact of

theorem writes_program (s : Esp32Station) (calls : List (Option Setting × Bool))
    (of : ∀ call ∈ calls, ∀ setting, call.1 = some setting → setting.Of config secret) :
    Writes config secret s (s.program calls).2 := by
  induction calls generalizing s with
  | nil => exact .of_trace rfl
  | cons call calls ih =>
    obtain ⟨setting, ok⟩ := call
    rw [List.forall_mem_cons] at of
    obtain ⟨first, rest⟩ := of
    cases setting with
    | none =>
      cases ok with
      | true => exact ih s rest
      | false => exact .of_trace rfl
    | some setting =>
      have recorded := s.writes_record (first setting rfl)
      cases ok with
      | true => exact recorded.trans (ih (s.record setting) rest)
      | false => exact recorded

end Writes

theorem Setting.Of.undropped {config : ConnectionConfig} {credentials secret : Credentials}
    {setting : Setting} (of : setting.Of config credentials)
    (same : credentials = secret ∨ credentials = {}) : setting.Of config secret := by
  obtain rfl | rfl := same
  · exact of
  · cases setting with
    | sta =>
      obtain ⟨ssid, password, pmf⟩ := of
      refine ⟨ssid, .inr ?_, pmf⟩
      obtain empty | empty := password
      · exact empty
      · exact empty
    | _ => exact of

/-- The settings of what is kept are of what was asked for. -/
theorem Writes.kept {config : ConnectionConfig} {credentials : Credentials}
    (h : Writes config credentials s s') (kept : Kept P config credentials) :
    ∃ secret, P config secret ∧ Writes config secret s s' := by
  obtain ⟨secret, asked, same⟩ := kept
  obtain ⟨new, grown, of⟩ := h
  exact ⟨secret, asked, new, grown, fun setting mem => (of setting mem).undropped same⟩

/-- A randomized address is local and unicast. -/
theorem attemptMac_local (s : Esp32Station) (idf : Idf)
    (randomized : s.config_.macPolicy = .kRandomized) :
    (s.attemptMac idf).head &&& 0x03 = 0x02 := by
  unfold attemptMac
  rw [if_pos randomized]
  obtain ⟨octets, six⟩ := idf.random
  obtain ⟨a, b, c, d, e, f, rfl⟩ : ∃ a b c d e f, octets = [a, b, c, d, e, f] := by
    match octets, six with
    | [a, b, c, d, e, f], _ => exact ⟨a, b, c, d, e, f, rfl⟩
  have masked : ∀ octet : BitVec 8, ((octet &&& 0xfe) ||| 0x02) &&& 0x03 = 0x02 := by decide
  exact UInt8.toBitVec_inj.mp (masked a.toBitVec)

/-- What an attempt sets up is of its configuration. -/
theorem setupCalls_of (s : Esp32Station) (idf : Idf) : ∀ call ∈ s.setupCalls idf,
    ∀ setting, call.1 = some setting → setting.Of s.config_ s.secret_ := by
  have unset : ∀ setting, (none : Option Setting) = some setting →
      setting.Of s.config_ s.secret_ := by
    intro setting none
    cases none
  have set {setting : Setting} (of : setting.Of s.config_ s.secret_) :
      ∀ other, some setting = some other → other.Of s.config_ s.secret_ := by
    intro other same
    obtain rfl := Option.some.inj same
    exact of
  have info : (Esp32Station.ipInfo s.config_).Of s.config_ s.secret_ := by
    unfold Esp32Station.ipInfo
    split
    · rename_i static
      simp only [Setting.Of, Esp32Station.ipInfo, static, if_true]
    · rename_i dynamic
      simp only [Setting.Of, Esp32Station.ipInfo, dynamic, if_false]
  unfold setupCalls
  simp only [List.forall_mem_append, List.forall_mem_cons]
  refine ⟨⟨⟨set (s.attemptMac_local idf), unset, unset, set info, ?_⟩, ?_⟩, ?_⟩
  · exact fun _ none => absurd none List.not_mem_nil
  · split
    · rename_i static
      simp only [List.forall_mem_cons]
      refine ⟨set ⟨static, fun main => absurd main Bool.false_ne_true, rfl⟩, ?_⟩
      split
      · rename_i configured
        simp only [List.forall_mem_cons]
        exact ⟨set ⟨static, fun _ => configured, rfl⟩, fun _ none => absurd none List.not_mem_nil⟩
      · exact fun _ none => absurd none List.not_mem_nil
    · exact fun _ none => absurd none List.not_mem_nil
  · split
    · simp only [List.forall_mem_cons]
      exact ⟨unset, fun _ none => absurd none List.not_mem_nil⟩
    · exact fun _ none => absurd none List.not_mem_nil

theorem carries_program (s : Esp32Station) (calls : List (Option Setting × Bool)) :
    Carries s (s.program calls).2 := by
  obtain ⟨trace, programmed⟩ := s.program_eq calls
  rw [programmed]
  exact ⟨rfl, .inl rfl, id⟩

theorem idles_candidateFailed (s : Esp32Station) (now : Nat) (failure : ConnectionFailure) :
    Idles s (s.candidateFailed now failure) := by
  unfold candidateFailed
  split <;> exact ⟨⟨rfl, .inl rfl, id⟩, rfl⟩

/-- The attempt is of what the station holds, and drops the secret. -/
theorem startAttempt_writes (s : Esp32Station) (idf : Idf) (ap : WifiApRecord) :
    Carries s (s.startAttempt idf ap).2.1 ∧
      Writes s.config_ s.secret_ s (s.startAttempt idf ap).2.1 := by
  have of : (Setting.sta s.config_.ssid.view s.secret_.view ap.bssid ap.primary
      (threshold ap.authmode) (s.config_.security = .kWpa3Personal)).Of s.config_ s.secret_ :=
    ⟨rfl, .inl rfl, rfl⟩
  have programmed := s.writes_record of
  unfold startAttempt
  dsimp only
  split
  · exact ⟨⟨rfl, .inr rfl, id⟩, programmed⟩
  split
  · have failed := idles_candidateFailed { s.record (.sta s.config_.ssid.view s.secret_.view ap.bssid
      ap.primary (threshold ap.authmode) (s.config_.security = .kWpa3Personal)) with
        secret_ := {}, attemptActive_ := true } (idf.now 0) .kTransient
    have dropped : Carries s { s.record (.sta s.config_.ssid.view s.secret_.view ap.bssid
      ap.primary (threshold ap.authmode) (s.config_.security = .kWpa3Personal)) with
        secret_ := {}, attemptActive_ := true } := ⟨rfl, .inr rfl, id⟩
    exact ⟨dropped.trans failed.toCarries, programmed.trans (.of_trace failed.trace)⟩
  · exact ⟨⟨rfl, .inr rfl, id⟩, programmed⟩

/-- **One continuation programs one connection**: the one that is prepared. -/
theorem continueConnect_writes (s : Esp32Station) (idf : Idf) :
    Carries s (s.continueConnect idf).2.1 ∧ ((s.continueConnect idf).2.1.trace = s.trace ∨
      s.prepared_ = true ∧ Writes s.config_ s.secret_ s (s.continueConnect idf).2.1) := by
  unfold continueConnect
  split
  · exact ⟨.refl s, .inl rfl⟩
  rename_i prepared
  have prepared : s.prepared_ = true := by simpa using prepared
  dsimp only
  unfold startSelected
  have taken : Carries s { s with prepared_ := false } :=
    ⟨rfl, .inl rfl, fun waits => .inl (by simpa using waits)⟩
  have opened : Writes s.config_ s.secret_ s
      ({ s with prepared_ := false }.program ({ s with prepared_ := false }.setupCalls idf)).2 :=
    writes_program { s with prepared_ := false } _ (setupCalls_of { s with prepared_ := false } idf)
  have carried := taken.trans (carries_program { s with prepared_ := false }
    ({ s with prepared_ := false }.setupCalls idf))
  obtain ⟨trace, programmed⟩ :=
    { s with prepared_ := false }.program_eq ({ s with prepared_ := false }.setupCalls idf)
  rw [programmed] at opened carried ⊢
  dsimp only at opened carried ⊢
  split
  · exact ⟨carried, .inr ⟨prepared, opened⟩⟩
  · obtain ⟨carries, attempt⟩ :=
      startAttempt_writes { s with prepared_ := false, trace } idf s.selected_
    exact ⟨carried.trans carries, .inr ⟨prepared, opened.trans attempt⟩⟩

theorem selectCandidate_carries {now : Nat} (picked : s.selectCandidate now = some s') :
    s'.config_ = s.config_ ∧ s'.secret_ = s.secret_ ∧ s'.trace = s.trace := by
  unfold selectCandidate at picked
  split at picked
  · cases picked
  · obtain rfl := Option.some.inj picked
    exact ⟨rfl, rfl, rfl⟩

/-- An admitted connect programs no more than the SSID its scan is directed at. -/
theorem connect_writes {config : ConnectionConfig} (secret : Credentials)
    (admitted : s.admits config = true) (idf : Idf) :
    let after := (s.connect idf config secret).2.1
    after.config_ = config ∧ (after.secret_ = secret ∨ after.secret_ = {}) ∧
      (after.trace = s.trace ∨ after.trace = .scanFor config.ssid.view :: s.trace) := by
  intro after
  obtain ⟨s', -, picked, returned⟩ | ⟨-, returned⟩ := s.connect_cases idf secret admitted
  · obtain ⟨config, secret, trace⟩ := selectCandidate_carries picked
    simp only [after, returned]
    exact ⟨config, .inl secret, .inl trace⟩
  · simp only [after, returned, startSelection]
    split
    · exact ⟨rfl, .inr rfl, .inr rfl⟩
    · exact ⟨rfl, .inl rfl, .inr rfl⟩

/-! ### Events -/

theorem idles_selectionDone (selecting : s.selecting_ = true) (aps : Option (List WifiApRecord))
    (code : Int) : Idles s (s.selectionDone idf aps code).1 := by
  unfold selectionDone
  dsimp only
  split
  · exact ⟨⟨rfl, .inr rfl, fun _ => .inl selecting⟩, rfl⟩
  split
  · exact ⟨⟨rfl, .inr rfl, fun _ => .inl selecting⟩, rfl⟩
  split
  · rename_i picked
    obtain ⟨config, secret, trace⟩ := selectCandidate_carries picked
    exact ⟨⟨config, .inl secret, fun _ => .inl selecting⟩, trace⟩
  · exact ⟨⟨rfl, .inr rfl, fun _ => .inl selecting⟩, rfl⟩

theorem idles_event (s : Esp32Station) (idf : Idf) (e : IdfEvent) : Idles s (s.event idf e).1 := by
  unfold event
  split
  · exact .refl s
  cases e with
  | WIFI_EVENT_SCAN_DONE status =>
    dsimp only
    unfold scanDone
    split
    · exact .refl s
    dsimp only
    split
    · rename_i selecting
      exact idles_selectionDone selecting _ _
    · split <;> exact ⟨⟨rfl, .inl rfl, id⟩, rfl⟩
  | WIFI_EVENT_STA_CONNECTED info =>
    dsimp only
    unfold staConnected
    split
    · exact ⟨⟨rfl, .inl rfl, id⟩, rfl⟩
    · exact .refl s
  | WIFI_EVENT_STA_DISCONNECTED info =>
    have reset : Idles s { s with rejectedSecurity_ := .kNone } := ⟨⟨rfl, .inl rfl, id⟩, rfl⟩
    exact reset.trans (idles_candidateFailed _ _ _)
  | IP_EVENT_STA_GOT_IP info =>
    dsimp only
    unfold gotIp
    split
    · exact .refl s
    · exact ⟨⟨rfl, .inl rfl, id⟩, rfl⟩
  | _ => exact .refl s

/-! ### Steps -/

/-- Every other action programs nothing. -/
theorem idles_perform (s : Esp32Station) {input : Input}
    (connects : ∀ config secret, input.action ≠ .connect config secret)
    (continues : input.action ≠ .continueConnect) : Idles s (s.perform input).2.1 := by
  obtain ⟨action, idf⟩ := input
  cases action with
  | attach =>
    simp only [perform, attach]
    split_ifs <;> exact ⟨⟨rfl, .inl rfl, id⟩, rfl⟩
  | detach =>
    simp only [perform, detach]
    split
    · exact .refl s
    · exact ⟨⟨rfl, .inr rfl, fun waits => .inr (by simpa using waits)⟩, rfl⟩
  | enable enabled =>
    obtain ⟨mac, same⟩ := s.enable_state idf enabled
    simp only [perform, same]
    cases enabled <;> exact ⟨⟨rfl, .inl rfl, id⟩, rfl⟩
  | scan capacity =>
    simp only [perform, scan]
    split_ifs <;> exact ⟨⟨rfl, .inl rfl, id⟩, rfl⟩
  | stopScan => exact ⟨⟨rfl, .inl rfl, id⟩, rfl⟩
  | connect config secret => exact absurd rfl (connects config secret)
  | continueConnect => exact absurd rfl continues
  | disconnect =>
    simp only [perform, disconnect]
    split_ifs
    · exact ⟨⟨rfl, .inr rfl, fun waits => .inl (by simpa using waits)⟩, rfl⟩
    all_goals exact ⟨⟨rfl, .inl rfl, id⟩, rfl⟩
  | event e => exact s.idles_event idf e

/-- **What a step programs** is all of one connection: of the one that was
prepared, or, as its SSID, of the one that the step takes. -/
inductive Programming (P : ConnectionConfig → Credentials → Prop) (s s' : Esp32Station) : Prop
  | none (same : s'.trace = s.trace)
  | continued (prepared : s.prepared_ = true) (kept : Kept P s.config_ s.secret_)
      (writes : Writes s.config_ s.secret_ s s')
  | directed (kept : Kept P s'.config_ s'.secret_)
      (scans : s'.trace = .scanFor s'.config_.ssid.view :: s.trace)

/-- **A step programs what was asked for**, if what it is asked to connect to was. -/
theorem Faithful.perform (hi : Faithful P s) {input : Input}
    (asked : ∀ config secret, input.action = .connect config secret →
      s.admits config = true → Kept P config secret) :
    Faithful P (s.perform input).2.1 ∧ Programming P s (s.perform input).2.1 := by
  by_cases continues : input.action = .continueConnect
  · obtain ⟨carries, same | ⟨prepared, writes⟩⟩ := s.continueConnect_writes input.idf
    all_goals simp only [Esp32Station.perform, continues]
    · exact ⟨hi.carried carries, .none same⟩
    · exact ⟨hi.carried carries, .continued prepared (hi (.inr prepared)) writes⟩
  by_cases connects : ∃ config secret, input.action = .connect config secret
  · obtain ⟨config, secret, action⟩ := connects
    simp only [Esp32Station.perform, action]
    cases admitted : s.admits config with
    | false =>
      obtain refused | refused := s.connect_refused input.idf secret admitted
      all_goals
        rw [refused]
        exact ⟨hi, .none rfl⟩
    | true =>
      obtain ⟨stored, held, trace⟩ := connect_writes secret admitted input.idf
      have kept : Kept P (s.connect input.idf config secret).2.1.config_
          (s.connect input.idf config secret).2.1.secret_ := by
        rw [stored]
        exact (asked config secret action admitted).carried held
      refine ⟨fun _ => kept, ?_⟩
      obtain same | scans := trace
      · exact .none same
      · refine .directed kept ?_
        rw [scans, stored]
  · have idles : Idles s (s.perform input).2.1 := by
      refine s.idles_perform (fun config secret action => ?_) continues
      exact connects ⟨config, secret, action⟩
    exact ⟨hi.carried idles.toCarries, .none idles.trace⟩

end Esp32Station

/-! ## The adapter -/

namespace OrderedInterface

open NativeStation (Answers)

variable {P Q : ConnectionConfig → Credentials → Prop} {o p : OrderedInterface}

/-- An outstanding connect is to what was asked for. -/
def Asked (P : ConnectionConfig → Credentials → Prop) (o : OrderedInterface) : Prop :=
  o.Pending → Esp32Station.Kept P o.config_ o.credentials_

theorem Asked.mono (h : ∀ config secret, P config secret → Q config secret) (hi : Asked P o) :
    Asked Q o :=
  fun pending => (hi pending).mono h

/-- Neither a connect nor another configuration comes of it. -/
structure Leaves (o p : OrderedInterface) : Prop where
  pending : p.Pending → o.Pending
  config : p.config_ = o.config_
  credentials : p.credentials_ = o.credentials_ ∨ p.credentials_ = {}

theorem Leaves.refl (o : OrderedInterface) : Leaves o o := ⟨id, rfl, .inl rfl⟩

theorem Leaves.trans {q : OrderedInterface} (h : Leaves o p) (h' : Leaves p q) : Leaves o q where
  pending := h.pending ∘ h'.pending
  config := h'.config.trans h.config
  credentials := by
    obtain same | dropped := h'.credentials
    · rw [same]
      exact h.credentials
    · exact .inr dropped

theorem Asked.leaves (hi : Asked P o) (h : Leaves o p) : Asked P p := by
  intro pending
  rw [h.config]
  exact (hi (h.pending pending)).carried h.credentials

theorem leaves_post (o : OrderedInterface) (event : NativeStation.Event) :
    Leaves o (o.post event) := by
  unfold post
  split <;> exact ⟨id, rfl, .inl rfl⟩

theorem leaves_posts (o : OrderedInterface) (posts : List NativeStation.Event) :
    Leaves o (posts.foldl OrderedInterface.post o) := by
  induction posts generalizing o with
  | nil => exact .refl o
  | cons post posts ih => exact (o.leaves_post post).trans (ih _)

/-! ### The drain -/

theorem config_finishStation (error : Status) (code : Int) (failure : ConnectionFailure) :
    (o.finishStation error code failure).config_ = o.config_ := by
  unfold finishStation
  split <;> rfl

theorem config_finishScan (error : Status) (code : Int) :
    (o.finishScan error code).config_ = o.config_ := by
  unfold finishScan
  split <;> rfl

theorem config_process (native : Answers) (event : NativeStation.Event) :
    (o.process native event).config_ = o.config_ :=
  congrArg (·.config_) (process_dressed (Fits.own (o := o)))

theorem config_drained (native : Answers) : (o.drained native).config_ = o.config_ :=
  congrArg (·.config_) (drained_dressed (Fits.own (o := o)))

theorem config_pump (native : Answers) : (o.pump native).config_ = o.config_ := by
  cases draining : o.draining with
  | false => rw [pump_stopped draining]
  | true =>
    cases overflow : o.overflow_ with
    | true =>
      rw [pump_overflow draining overflow, config_finishScan, config_finishStation]
      rfl
    | false =>
      cases waiting : o.queue_ with
      | nil =>
        rw [pump_ended draining overflow waiting]
        exact config_drained native
      | cons q queue =>
        rw [pump_processed draining overflow waiting]
        exact config_process native q.expand

/-- The drain starts no connect of its own. -/
theorem leaves_pump (o : OrderedInterface) (native : Answers) : Leaves o (o.pump native) where
  pending pending := by
    obtain same | ended := (o.winds_pump native).station
    · rwa [Pending, same] at pending
    · exact absurd ended pending.1
  config := config_pump native
  credentials := by
    obtain dropped | ⟨same, -⟩ := (o.winds_pump native).credentials
    · exact .inr dropped
    · exact .inl same

/-! ### Commands -/

/-- Only a valid request that the radio supports is admitted. -/
theorem connect_validated {native : Answers} {id : OperationId} {config : ConnectionConfig}
    {secret : Credentials} (admitted : (o.connect native id config secret).1 = .kOk) :
    Validate config secret = .kOk ∧ ValidateSupport config native.support = .kOk := by
  unfold connect at admitted
  dsimp only at admitted
  split at admitted
  · rename_i refused
    exact absurd admitted refused
  split at admitted
  · cases admitted
  split at admitted
  · rename_i invalid
    exact absurd admitted invalid
  rename_i valid
  split at admitted
  · rename_i unsupported
    exact absurd admitted unsupported
  rename_i supported
  exact ⟨not_not.mp valid, not_not.mp supported⟩

/-- What an admitted connect is to is asked for. -/
theorem Asked.connect (hi : Asked P o) (native : Answers) (id : OperationId)
    {config : ConnectionConfig} {secret : Credentials}
    (asked : (o.connect native id config secret).1 = .kOk → P config secret) :
    Asked P (o.connect native id config secret).2 := by
  obtain ⟨status, -, h⟩ | ⟨-, -, ⟨-, h⟩ | ⟨-, -, h⟩ | ⟨-, -, h⟩ | ⟨-, -, h⟩⟩ :=
    o.connect_outcomes native id config secret
  all_goals
    have loaded (admitted : (o.connect native id config secret).1 = .kOk) :
        Esp32Station.Kept P config secret := ⟨secret, asked admitted, .inl rfl⟩
    rw [h] at loaded ⊢
  · exact hi
  · exact fun _ => loaded rfl
  · exact fun _ => loaded rfl
  · have waiting : Asked P { o.loaded id config secret with waitingDisconnect_ := true } :=
      fun _ => loaded rfl
    have posted := waiting.leaves (leaves_post _ { kind := .kDisconnected, link := o.link_ })
    exact fun pending => posted pending
  · exact fun pending => absurd rfl pending.1

/-- **A step starts no connect but the one commanded.** -/
theorem Asked.step (hi : Asked P o) (input : Input)
    (asked : ∀ id config secret, input.event = .connect id config secret → o.draining = false →
      (o.connect input.native id config secret).1 = .kOk → P config secret) :
    Asked P (o.step input) := by
  obtain ⟨event, native⟩ := input
  have later {p : OrderedInterface} (h : o.draining = false → Asked P p) :
      Asked P (if o.draining then o else p) := by
    split
    · exact hi
    · rename_i idle
      exact h (by simpa using idle)
  have kept {p : OrderedInterface} (h : Leaves o p) : Asked P (if o.draining then o else p) :=
    later fun _ => hi.leaves h
  -- a command other than a connect
  have other {p : OrderedInterface} (h : p.station_.kind ≠ .kConnect) :
      Asked P (if o.draining then o else p) :=
    later fun _ pending => absurd pending.2 h
  cases event with
  | post event =>
    simp only [OrderedInterface.step]
    split
    · exact hi.leaves (o.leaves_post event)
    · exact hi
  | pump => exact hi.leaves (o.leaves_pump native)
  | begin =>
    refine kept ?_
    unfold OrderedInterface.begin
    split_ifs <;> exact ⟨id, rfl, .inl rfl⟩
  | setEnabled id enabled =>
    refine later fun _ => ?_
    unfold setEnabled
    dsimp only
    split_ifs
    · exact hi
    · exact fun pending => absurd rfl pending.1
    · exact fun pending => absurd pending.2 OperationKind.noConfusion
  | startScan id =>
    refine kept ?_
    unfold startScan
    dsimp only
    split_ifs <;> exact ⟨fun pending => pending, rfl, .inl rfl⟩
  | connect id config secret =>
    exact later fun idle => hi.connect native id (asked id config secret rfl idle)
  | disconnect id =>
    refine later fun _ => ?_
    have disconnecting : Asked P { o with
        station_ := { id, kind := .kDisconnect }, waitingDisconnect_ := true } :=
      fun pending => absurd pending.2 OperationKind.noConfusion
    unfold disconnect
    dsimp only
    generalize (if o.link_.phase = .kIdle then Status.kNotFound else native.disconnect) = status
    split_ifs
    · exact hi
    · exact disconnecting.leaves (leaves_post _ _)
    · exact fun pending => absurd rfl pending.1
    · exact disconnecting
  | cancelScan =>
    refine kept ?_
    unfold cancelScan
    split_ifs <;> exact ⟨id, rfl, .inl rfl⟩
  | cancelConnect =>
    refine kept ?_
    unfold cancelConnect
    split_ifs
    all_goals first
      | exact ⟨id, rfl, .inl rfl⟩
      | exact (leaves_post o _).trans ⟨id, rfl, .inl rfl⟩
  | shutdown => exact later fun _ pending => absurd rfl pending.1
  | drain =>
    refine kept ?_
    unfold drain
    split_ifs <;> exact ⟨id, rfl, .inl rfl⟩

/-! ### Native calls -/

/-- Only the drain starts a connect or continues one. -/
theorem calls_drained {input : Input} {call : NativeStation.Call} (called : call ∈ o.calls input)
    (starts : call = .continueConnect ∨ ∃ config secret, call = .connect config secret) :
    input.event = .pump ∧ call ∈ o.pumpCalls := by
  obtain ⟨event, native⟩ := input
  cases event with
  | post | drain => exact absurd called List.not_mem_nil
  | pump => exact ⟨rfl, called⟩
  | _ =>
    simp only [calls, beginCalls, setEnabledCalls, startScanCalls, connectCalls, disconnectCalls,
      cancelScanCalls, cancelConnectCalls, shutdownCalls] at called
    obtain rfl | ⟨config, secret, rfl⟩ := starts <;> split_ifs at called <;> simp at called

/-- The station is only handed the outstanding connect, when it is due. -/
theorem calls_connect {input : Input} {config : ConnectionConfig} {secret : Credentials}
    (called : .connect config secret ∈ o.calls input) :
    o.Due ∧ o.config_ = config ∧ o.credentials_ = secret := by
  obtain ⟨-, called⟩ := calls_drained called (.inr ⟨config, secret, rfl⟩)
  obtain none | ⟨-, -, ⟨-, due, handed⟩ | ⟨_, _, -, -, -, -, -, -, continued⟩⟩ := o.pumpCalls_cases
  · rw [none] at called
    exact absurd called List.not_mem_nil
  · rw [handed, List.mem_singleton] at called
    obtain ⟨rfl, rfl⟩ := NativeStation.Call.connect.inj called
    exact ⟨due, rfl, rfl⟩
  · rw [continued, List.mem_singleton] at called
    cases called

end OrderedInterface

/-! ## The interface -/

namespace Esp32IdfInterface

variable {P Q : ConnectionConfig → Credentials → Prop} {s : Esp32IdfInterface}

/-- What the station accepts of what was asked for: ESP-IDF's SSID filter is
a C string. -/
def Taken (P : ConnectionConfig → Credentials → Prop) (config : ConnectionConfig)
    (secret : Credentials) : Prop :=
  P config secret ∧ 0 ∉ config.ssid.view

/-- All that the interface keeps and has programmed was asked for. -/
structure Faithful (P : ConnectionConfig → Credentials → Prop) (s : Esp32IdfInterface) : Prop where
  station : s.station.Faithful (Taken P)
  ordered : s.ordered.Asked P

theorem Faithful.mono (h : ∀ config secret, P config secret → Q config secret)
    (hi : Faithful P s) : Faithful Q s :=
  ⟨hi.station.mono fun config secret taken => ⟨h config secret taken.1, taken.2⟩,
    hi.ordered.mono h⟩

/-- The station connects only to what an outstanding connect is to. -/
theorem Faithful.outcome (hi : Faithful P s) (event : OrderedInterface.Event)
    (maxResults : UInt16) (idf : Idf) :
    (s.outcome event maxResults idf).2.1.Faithful (Taken P) ∧
      Esp32Station.Programming (Taken P) s.station (s.outcome event maxResults idf).2.1 := by
  unfold Esp32IdfInterface.outcome
  split
  · exact ⟨hi.station, .none rfl⟩
  rename_i call calls called
  refine hi.station.perform fun config secret connects admitted => ?_
  have connect : call = .connect config secret := by
    cases call with
    | connect => simpa [action] using connects
    | _ => cases connects
  have handed : .connect config secret ∈ s.ordered.calls (s.answered event .kOk) := by
    rw [called, connect]
    exact List.mem_cons_self
  obtain ⟨due, rfl, rfl⟩ := OrderedInterface.calls_connect handed
  obtain ⟨secret, asked, same⟩ := hi.ordered ⟨due.1.1, due.1.2.1⟩
  have plain : 0 ∉ s.ordered.config_.ssid.view := by
    simp only [Esp32Station.admits, Bool.and_eq_true, Bool.not_eq_true'] at admitted
    simpa using admitted.2
  exact ⟨secret, ⟨asked, plain⟩, same⟩

/-- A connect that is admitted is returned as such, and was validated. -/
theorem returned_admitted (idle : s.ordered.draining = false) {id : OperationId}
    {config : ConnectionConfig} {secret : Credentials} {idf : Idf}
    (admitted : (s.ordered.connect (s.answered (.connect id config secret)
      (s.outcome (.connect id config secret) 0 idf).1).native id config secret).1 = .kOk) :
    s.returned { event := .command (.connect id config secret), idf } =
        some (.connect id config secret, .kOk) ∧
      Validate config secret = .kOk ∧ ValidateSupport config s.support = .kOk := by
  refine ⟨?_, OrderedInterface.connect_validated admitted⟩
  simp only [returned, answer, OrderedInterface.answer, answered, Command.event,
    Command.maxResults, idle, Bool.false_eq_true, if_false, Option.map_some]
  exact congrArg (fun status => some (Command.connect id config secret, status)) admitted

/-- **A step programs what was asked for**, if the connect it serves was. -/
theorem Faithful.step (hi : Faithful P s) {input : Input}
    (asked : ∀ id config secret, s.returned input = some (.connect id config secret, .kOk) →
      Validate config secret = .kOk → ValidateSupport config s.support = .kOk →
      P config secret) :
    Faithful P (s.step input) := by
  have served (event : OrderedInterface.Event) (maxResults : UInt16)
      (asked : ∀ id config secret, (s.answered event
          (s.outcome event maxResults input.idf).1).event = .connect id config secret →
        s.ordered.draining = false →
        (s.ordered.connect (s.answered event (s.outcome event maxResults input.idf).1).native
          id config secret).1 = .kOk → P config secret) :
      Faithful P (s.serve event maxResults input.idf) := by
    refine ⟨(hi.outcome event maxResults input.idf).1, ?_⟩
    exact (hi.ordered.step _ asked).leaves (OrderedInterface.leaves_posts _ _)
  obtain ⟨event, idf⟩ := input
  cases event with
  | drain =>
    refine served .drain 0 fun id config secret other => ?_
    cases other
  | pump =>
    refine served .pump 0 fun id config secret other => ?_
    cases other
  | native e =>
    have idles := s.station.idles_event idf e
    exact ⟨hi.station.carried idles.toCarries,
      hi.ordered.leaves (OrderedInterface.leaves_posts _ _)⟩
  | command c =>
    refine served c.event c.maxResults fun id config secret connects idle admitted => ?_
    cases c with
    | connect =>
      obtain ⟨rfl, rfl, rfl⟩ := OrderedInterface.Event.connect.inj connects
      obtain ⟨returned, valid, supported⟩ := returned_admitted idle admitted
      exact asked _ _ _ returned valid supported
    | _ => cases connects

/-- **What a step programs was asked for**, all of it in one request. -/
theorem Faithful.programs (hi : Faithful P s) (input : Input) :
    Esp32Station.Programming (Taken P) s.station (s.step input).station := by
  obtain ⟨event, idf⟩ := input
  cases event with
  | drain => exact (hi.outcome .drain 0 idf).2
  | pump => exact (hi.outcome .pump 0 idf).2
  | native e => exact .none (s.station.idles_event idf e).trace
  | command c => exact (hi.outcome c.event c.maxResults idf).2

/-- Nothing is programmed outside the drain. -/
theorem step_trace (s : Esp32IdfInterface) {input : Input} (within : input.event.within = true) :
    (s.step input).station.trace = s.station.trace := by
  obtain ⟨event, idf⟩ := input
  cases event with
  | drain | pump => cases within
  | native e => exact (s.station.idles_event idf e).trace
  | command c =>
    have undrained : (s.answered c.event .kOk).event ≠ .pump := by
      cases c <;> exact OrderedInterface.Event.noConfusion
    change (s.outcome c.event c.maxResults idf).2.1.trace = s.station.trace
    unfold Esp32IdfInterface.outcome
    split
    · rfl
    rename_i call calls called
    have made : call ∈ s.ordered.calls (s.answered c.event .kOk) := by
      rw [called]
      exact List.mem_cons_self
    refine (s.station.idles_perform (fun config secret connects => ?_) fun continues => ?_).trace
    · cases call with
      | connect => exact undrained (OrderedInterface.calls_drained made (.inr ⟨_, _, rfl⟩)).1
      | _ => cases connects
    · cases call with
      | continueConnect => exact undrained (OrderedInterface.calls_drained made (.inl rfl)).1
      | _ => cases continues

theorem Faithful.run (hi : Faithful P s) {inputs : List Input}
    (asked : ∀ id config secret,
      (.connect id config secret, .kOk) ∈ s.returns inputs → P config secret) :
    Faithful P (Machine.run Esp32IdfInterface.step s inputs) := by
  induction inputs generalizing s with
  | nil => exact hi
  | cons input inputs ih =>
    rw [Machine.run_cons]
    refine ih (hi.step fun id config secret returned _ _ => ?_) fun id config secret later => ?_
    · refine asked id config secret ?_
      rw [returns_cons]
      exact List.mem_append_left _ (by simp [returned])
    · refine asked id config secret ?_
      rw [returns_cons]
      exact List.mem_append_right _ later

/-! ### What ESP-IDF is given -/

/-- A configuration that can be programmed: what is copied of it fits, and its
mode and its addresses are ones the radio can use. -/
structure Programmable (wpa3 : Bool) (config : ConnectionConfig) (secret : Credentials) :
    Prop where
  ssid : config.ssid.Valid
  plain : 0 ∉ config.ssid.view
  size : secret.size.toNat ≤ 64
  keyless : config.security = .kOpen → secret.size = 0
  mode : config.security ∈ Esp32Station.supportedModes wpa3
  addresses : config.ipMode = .kStaticIpv4 → Usable config.staticIpv4

/-- Of the modes `Validate` knows only WPA3 depends on how ESP-IDF is built. -/
theorem mode_supported {wpa3 : Bool} {config : ConnectionConfig} {secret : Credentials}
    (valid : Validate config secret = .kOk)
    (supported : ValidateSupport config (Esp32Station.support wpa3) = .kOk) :
    config.security ∈ Esp32Station.supportedModes wpa3 := by
  have known : config.security = .kOpen ∨ config.security = .kWep ∨
      config.security = .kWpaPersonal ∨ config.security = .kWpa2Personal ∨
      config.security = .kWpaWpa2Personal ∨ config.security = .kWpa3Personal ∨
      config.security = .kWpa2Wpa3Personal := by
    by_contra unknown
    simp only [not_or] at unknown
    obtain ⟨open_, wep, wpa, wpa2, wpaWpa2, wpa3, wpa2Wpa3⟩ := unknown
    unfold Validate at valid
    split at valid
    · cases valid
    split at valid
    · cases valid
    rw [if_pos ⟨wpa, wpa2, wpaWpa2, wpa3, wpa2Wpa3⟩] at valid
    cases valid
  have built : config.security = .kWpa3Personal ∨ config.security = .kWpa2Wpa3Personal →
      wpa3 = true := by
    intro sae
    by_contra absent
    obtain rfl : wpa3 = false := by simpa using absent
    unfold ValidateSupport at supported
    rw [if_pos] at supported
    · cases supported
    · refine .inr (.inl ?_)
      obtain sae | sae := sae
      all_goals
        rw [sae]
        decide
  cases wpa3 with
  | true => simpa [Esp32Station.supportedModes, or_assoc] using known
  | false =>
    have personal : ¬ (config.security = .kWpa3Personal ∨ config.security = .kWpa2Wpa3Personal) :=
      fun sae => absurd (built sae) Bool.false_ne_true
    simp only [not_or] at personal
    simpa [Esp32Station.supportedModes, personal] using known

theorem programmable {wpa3 : Bool} {config : ConnectionConfig} {secret : Credentials}
    (plain : 0 ∉ config.ssid.view) (valid : Validate config secret = .kOk)
    (supported : ValidateSupport config (Esp32Station.support wpa3) = .kOk) :
    Programmable wpa3 config secret where
  ssid := valid_of_Validate valid
  plain := plain
  size := by
    by_contra large
    have large : secret.size > 64 := by simpa [UInt8.lt_iff_toNat_lt] using large
    simp [Validate, malformed, large] at valid
  keyless := by
    intro keyless
    unfold Validate at valid
    rw [if_pos keyless] at valid
    split_ifs at valid with _ _ empty
    exact empty
  mode := mode_supported valid supported
  addresses static := ((Validate_static_iff secret static).mp valid).2

/-- Whatever is asked for, what can be programmed is. -/
theorem faithful_start (wpa3 : Bool) (selection : Esp32Station.SelectionOptions) :
    Faithful P { wpa3, station := { selectionOptions_ := selection } } where
  station := by
    intro waits
    obtain selecting | prepared := waits
    · cases selecting
    · cases prepared
  ordered pending := absurd rfl pending.1

theorem step_wpa3 (s : Esp32IdfInterface) (input : Input) : (s.step input).wpa3 = s.wpa3 := by
  obtain ⟨event, idf⟩ := input
  cases event <;> rfl

/-- What the adapter admits is valid, and supported by the radio. -/
theorem validated_run (wpa3 : Bool) (selection : Esp32Station.SelectionOptions)
    (inputs : List Input) :
    Faithful (fun config secret => Validate config secret = .kOk ∧
        ValidateSupport config (Esp32Station.support wpa3) = .kOk)
      (Machine.run Esp32IdfInterface.step { wpa3, station := { selectionOptions_ := selection } }
        inputs) := by
  refine (Machine.run_invariant_all (I := fun s : Esp32IdfInterface => s.wpa3 = wpa3 ∧ Faithful _ s)
    (fun s input hi => ?_) ⟨rfl, faithful_start wpa3 selection⟩ inputs).2
  obtain ⟨built, faithful⟩ := hi
  refine ⟨(s.step_wpa3 input).trans built, faithful.step fun _ _ _ _ valid supported => ?_⟩
  rw [support, built] at supported
  exact ⟨valid, supported⟩

end Esp32IdfInterface

/-- Credentials that are dropped can be programmed as well. -/
theorem Esp32IdfInterface.Programmable.kept {wpa3 : Bool} {config : ConnectionConfig}
    {credentials : Credentials}
    (kept : Esp32Station.Kept (Programmable wpa3) config credentials) :
    Programmable wpa3 config credentials := by
  obtain ⟨secret, programmable, rfl | rfl⟩ := kept
  · exact programmable
  · exact { programmable with size := by decide, keyless := fun _ => rfl }

/-- What is validated and taken can be programmed. -/
theorem Esp32IdfInterface.kept_programmable {wpa3 : Bool} {config : ConnectionConfig}
    {credentials : Credentials} (kept : Esp32Station.Kept (Taken fun config secret =>
      Validate config secret = .kOk ∧ ValidateSupport config (Esp32Station.support wpa3) = .kOk)
        config credentials) : Programmable wpa3 config credentials := by
  refine Programmable.kept (kept.mono ?_)
  rintro config secret ⟨⟨valid, supported⟩, plain⟩
  exact programmable plain valid supported

/-- **Only what was validated is programmed.** In every run of the interface,
whatever configurations and credentials its owner hands to `connect`, the
configuration and the secret that the station holds for a connection are ones
that ESP-IDF can take; and all that the next step programs is of what the
station holds: of the prepared connection, or, as its SSID, of the one that the
step takes. -/
theorem programmed_sound (wpa3 : Bool) (selection : Esp32Station.SelectionOptions)
    (inputs : List Esp32IdfInterface.Input) (input : Esp32IdfInterface.Input) :
    let s := Machine.run Esp32IdfInterface.step
      { wpa3, station := { selectionOptions_ := selection } } inputs
    let before := s.station
    let after := (s.step input).station
    (before.selecting_ = true ∨ before.prepared_ = true →
      Esp32IdfInterface.Programmable wpa3 before.config_ before.secret_) ∧
    (after.trace = before.trace ∨
      before.prepared_ = true ∧
        Esp32Station.Writes before.config_ before.secret_ before after ∨
      Esp32IdfInterface.Programmable wpa3 after.config_ after.secret_ ∧
        after.trace = .scanFor after.config_.ssid.view :: before.trace) := by
  intro s before after
  have faithful := Esp32IdfInterface.validated_run wpa3 selection inputs
  constructor
  · intro waits
    exact Esp32IdfInterface.kept_programmable (faithful.station waits)
  · cases faithful.programs input with
    | none same => exact .inl same
    | continued prepared kept writes => exact .inr (.inl ⟨prepared, writes⟩)
    | directed kept scans =>
      exact .inr (.inr ⟨Esp32IdfInterface.kept_programmable kept, scans⟩)

/-- An attempt up to the point where an access point is prepared. -/
def Esp32IdfInterface.Attempt : List Esp32IdfInterface.Input :=
  [{ event := .command .begin }, { event := .command (.setEnabled 1 true) },
    { event := .native .WIFI_EVENT_STA_START }, { event := .drain }, { event := .pump },
    { event := .pump },
    { event := .command (.connect 2 Stack.TestNetwork Stack.TestPassphrase) },
    { event := .drain }, { event := .pump },
    { event := .native (.WIFI_EVENT_SCAN_DONE 0)
      idf := {
        aps := [{ ssid := .load _ [65], authmode := .WIFI_AUTH_WPA2_PSK }], scanGetApNum := 1 } },
    { event := .drain }]

/-- The station holds the validated request when the drain continues it. -/
theorem programmed_sound_attempt :
    Esp32IdfInterface.Programmable true Stack.TestNetwork Stack.TestPassphrase := by
  have held : (Machine.run Esp32IdfInterface.step { wpa3 := true }
        Esp32IdfInterface.Attempt).station.prepared_ = true ∧
      (Machine.run Esp32IdfInterface.step { wpa3 := true }
        Esp32IdfInterface.Attempt).station.config_ = Stack.TestNetwork ∧
      (Machine.run Esp32IdfInterface.step { wpa3 := true }
        Esp32IdfInterface.Attempt).station.secret_ = Stack.TestPassphrase := by decide +kernel
  obtain ⟨prepared, config, secret⟩ := held
  have sound := (programmed_sound true {} Esp32IdfInterface.Attempt { event := .pump }).1
    (.inr prepared)
  rwa [config, secret] at sound

/-! ## The controller -/

namespace Controller

/-- A connection to this network with this secret was requested. -/
def Requested (t : List Action) (config : ConnectionConfig) (credentials : Credentials) : Prop :=
  ∃ profile automatic, .requested config credentials profile automatic ∈ t

/-- The current connection and every one that was commanded were requested. -/
structure Intended (c : Core) : Prop where
  intent : c.faulted = false → c.desired = .kConnected → Requested c.trace c.config c.credentials
  connects : ∀ id config credentials status, .connect id config credentials status ∈ c.trace →
    Requested c.trace config credentials

theorem Requested.mono {t t' : List Action} {config : ConnectionConfig} {credentials : Credentials}
    (h : Requested t config credentials) (grown : t <:+ t') : Requested t' config credentials := by
  obtain ⟨profile, automatic, asked⟩ := h
  exact ⟨profile, automatic, grown.subset asked⟩

/-- A move that commands no connect and changes no intent, except to end it. -/
theorem Intended.onward {a b : Core} (hi : Intended a) (grown : a.trace <:+ b.trace)
    (connects : ∀ id config credentials status, .connect id config credentials status ∈ b.trace →
      .connect id config credentials status ∈ a.trace)
    (intent : b.faulted = false → b.desired = .kConnected → a.faulted = false ∧
      a.desired = .kConnected ∧ b.config = a.config ∧ b.credentials = a.credentials) :
    Intended b where
  intent sound connected := by
    obtain ⟨unfaulted, wanted, config, credentials⟩ := intent sound connected
    rw [config, credentials]
    exact (hi.intent unfaulted wanted).mono grown
  connects id config credentials status commanded :=
    (hi.connects id config credentials status (connects id config credentials status commanded)).mono
      grown

/-- A move that accepts a request. -/
theorem Intended.accepted {a b : Core} (hi : Intended a) (grown : a.trace <:+ b.trace)
    (connects : ∀ id config credentials status, .connect id config credentials status ∈ b.trace →
      .connect id config credentials status ∈ a.trace)
    (asked : Requested b.trace b.config b.credentials) : Intended b where
  intent _ _ := asked
  connects id config credentials status commanded :=
    (hi.connects id config credentials status (connects id config credentials status commanded)).mono
      grown

/-- A transition that is due commands what is intended. -/
theorem Intended.issued {c : Core} (hi : Intended c) {t : Transition} (due : c.Due t)
    (status : Status) : Intended (c.issued t status) where
  intent sound connected := (hi.intent sound connected).mono (List.suffix_cons _ _)
  connects id config credentials answer commanded := by
    obtain issued | earlier := List.mem_cons.mp commanded
    · cases t with
      | kConnect =>
        obtain ⟨-, rfl, rfl, -⟩ := Action.connect.inj issued
        exact (hi.intent due.faulted due.chosen.2.2.2.2).mono (List.suffix_cons _ _)
      | _ => cases issued
    · exact (hi.connects id config credentials answer earlier).mono (List.suffix_cons _ _)

theorem Move.intended {A : Assumptions} {a b : Core} (h : Move A a b) (hi : Intended a) :
    Intended b := by
  have grown := h.suffix
  cases h with
  | accepted call config credentials profile automatic h =>
    refine hi.accepted grown (by simp [Core.accept, Core.newIntent, Core.note]) ?_
    exact ⟨profile, automatic, by simp [Core.accept, Core.newIntent, Core.note]⟩
  | restored config credentials profile automatic h =>
    refine hi.accepted grown (by simp [Core.accept, Core.newIntent, Core.note]) ?_
    exact ⟨profile, automatic, by simp [Core.accept, Core.newIntent, Core.note]⟩
  | issued t due => exact hi.issued due _
  | refused t status due =>
    exact (hi.issued due status).onward (List.suffix_refl _) (fun _ _ _ _ => id)
      fun sound connected => ⟨sound, connected, rfl, rfl⟩
  | connectRefused status r level due =>
    refine (hi.issued due status).onward (List.suffix_cons _ _) ?_
      fun sound connected => ⟨sound, connected, rfl, rfl⟩
    simp [Core.failed, Core.retired, Core.note, Core.issued]
  | noted act silent =>
    refine hi.onward grown (fun id config credentials status commanded => ?_)
      fun sound connected => ⟨sound, connected, rfl, rfl⟩
    obtain rfl | earlier := List.mem_cons.mp commanded
    · cases silent
    · exact earlier
  | begun enabled | setEnabled enabled =>
    refine hi.onward grown (by simp [Core.newIntent, Core.note]) fun _ connected => ?_
    cases enabled <;> cases connected
  | shutdown =>
    refine hi.onward grown ?_ fun _ connected => by cases connected
    cases running : a.running <;> simp [Core.shutdown, running]
  | withdrawn h =>
    refine hi.onward grown (by simp [Core.newIntent, Core.note]) fun _ connected => ?_
    simp only [Core.newIntent, Core.note] at connected
    split at connected <;> cases connected
  | faulted | stuck =>
    refine hi.onward grown (by simp [Core.fault, Core.note]) fun sound => ?_
    cases sound
  | enableFinished =>
    split
    all_goals
      refine hi.onward (List.suffix_cons _ _) ?_ fun sound connected => ⟨sound, connected, rfl, rfl⟩
      simp [Core.retired, Core.concluded, Core.note]
  | connectFailed r status retry level saved h allowed current connecting failure persisted =>
    refine hi.onward grown ?_ fun sound connected => ⟨sound, connected, rfl, rfl⟩
    obtain rfl | ⟨profile, rfl⟩ := persisted <;> simp [Core.failed]
  | _ =>
    refine hi.onward grown ?_ fun sound connected => ⟨sound, connected, rfl, rfl⟩
    simp [Core.failed, Core.retired, Core.concluded, Core.note, Core.scanRetired, Core.cancelRetry,
      Core.heard, Core.address, Core.recovered]

theorem intended_run (options : Options) (seed : UInt32) (as : List Atom) :
    Intended (core false (Machine.run atom (init options seed) as)) := by
  refine (atoms_invariant (J := Intended) (fun _ _ hm _ hi => hm.intended hi) options seed ?_ as).2
  exact ⟨fun _ connected => (by cases connected), fun _ _ _ _ none => absurd none List.not_mem_nil⟩

/-- What has happened is never taken back. -/
theorem run_suffix {c : Controller} (he : Exclusive (core false c)) (as : List Atom) :
    c.trace <:+ (Machine.run atom c as).trace := by
  induction as generalizing c with
  | nil => exact List.suffix_refl _
  | cons a as ih =>
    exact (atom_suffix a he).trans (ih (atom_exclusive a he))

/-- A command to connect is one that the trace records. -/
theorem connect_of_commands {t : List Action} {id : OperationId} {config : ConnectionConfig}
    {credentials : Credentials} {status : Status}
    (commanded : (.connect id config credentials, status) ∈ commands t) :
    .connect id config credentials status ∈ t := by
  obtain ⟨act, mem, command⟩ := List.mem_filterMap.mp (List.mem_reverse.mp commanded)
  cases act with
  | connect =>
    cases command
    exact mem
  | _ => cases command

end Controller

/-! ## The stack -/

namespace Stack

open Controller (Options)

variable {s : Stack} {options : Options} {seed : UInt32}

/-- The setting is of a connection that was requested. -/
def Accounts (t : List Controller.Action) (setting : Esp32Station.Setting) : Prop :=
  ∃ config secret profile automatic,
    .requested config secret profile automatic ∈ t ∧ setting.Of config secret

/-- What the interface holds and has programmed was requested. -/
def Faithful (s : Stack) : Prop := s.interface.Faithful (Controller.Requested s.controller.trace)

theorem Wired.intended (hi : Wired s options seed) :
    Controller.Intended (Controller.core false s.controller) := by
  obtain ⟨as, reached⟩ := hi.reached
  rw [reached]
  exact Controller.intended_run options seed as

/-- A call hands over what was requested of the controller. -/
theorem Faithful.atom (hi : s.Faithful) (wired : Wired s options seed) {a : Controller.Atom}
    {inputs : List Esp32IdfInterface.Input} (meets : s.Meets a inputs) :
    Faithful {
      controller := s.controller.atom (s.wired a)
      interface := Machine.run Esp32IdfInterface.step s.interface inputs } := by
  obtain ⟨new, grown⟩ := Controller.atom_suffix (s.wired a) wired.exclusive
  have after := (wired.atom meets).intended
  refine (hi.mono fun config secret asked => ?_).run fun id config secret returned => ?_
  · exact asked.mono ⟨new, grown⟩
  · rw [meets.2.2.2, commands_eq grown.symm] at returned
    refine after.connects id config secret .kOk ?_
    change _ ∈ (s.controller.atom (s.wired a)).trace
    rw [← grown]
    exact List.mem_append_left _ (Controller.connect_of_commands returned)

/-- No callback takes a request back. -/
theorem Faithful.interface (hi : s.Faithful) (wired : Wired s options seed)
    {input : Esp32IdfInterface.Input} (uncalled : ∀ c, input.event ≠ .command c)
    (env : Nat → Controller.Env) :
    Faithful {
      controller := Machine.run Controller.atom s.controller
        (s.callbacks (s.interface.step input) env)
      interface := s.interface.step input } := by
  have returned : s.interface.returned input = none := by
    unfold Esp32IdfInterface.returned
    cases event : input.event with
    | command c => exact absurd event (uncalled c)
    | _ => rfl
  refine (hi.step fun id config secret commanded => ?_).mono fun config secret asked => ?_
  · rw [returned] at commanded
    cases commanded
  · exact asked.mono (Controller.run_suffix wired.exclusive _)

theorem Faithful.step (hi : s.Faithful) (wired : Wired s options seed) (input : Input) :
    (s.step input).Faithful := by
  cases input with
  | atom a inputs =>
    by_cases meets : s.Meets a inputs
    · simp only [Stack.step, if_pos meets]
      exact hi.atom wired meets
    · simp only [Stack.step, if_neg meets]
      exact hi
  | interface input env =>
    obtain ⟨event, idf⟩ := input
    cases event with
    | command c => exact hi
    | drain | pump | native =>
      refine hi.interface wired ?_ env
      simp

end Stack

/-- All that a step of the stack programs is of one connection that was requested
before. -/
def Stack.ProgramsOne (s s' : Stack) : Prop :=
  ∃ new, s'.interface.station.trace = new ++ s.interface.station.trace ∧
    (new = [] ∨ ∃ config secret profile automatic,
      .requested config secret profile automatic ∈ s.controller.trace ∧
        ∀ setting ∈ new, setting.Of config secret)

theorem Stack.Faithful.programs {s : Stack} (hi : s.Faithful) (input : Stack.Input) :
    s.ProgramsOne (s.step input) := by
  have idle {s' : Stack} (same : s'.interface.station.trace = s.interface.station.trace) :
      s.ProgramsOne s' := ⟨[], same, .inl rfl⟩
  -- what one step of the interface programs
  have one {s' : Stack} (input : Esp32IdfInterface.Input)
      (same : s'.interface = s.interface.step input) : s.ProgramsOne s' := by
    unfold Stack.ProgramsOne
    rw [same]
    cases Esp32IdfInterface.Faithful.programs hi input with
    | none same => exact ⟨[], same, .inl rfl⟩
    | continued prepared kept writes =>
      obtain ⟨secret, ⟨⟨profile, automatic, asked⟩, -⟩, new, grown, of⟩ := writes.kept kept
      exact ⟨new, grown, .inr ⟨_, secret, profile, automatic, asked, of⟩⟩
    | directed kept scans =>
      obtain ⟨secret, ⟨⟨profile, automatic, asked⟩, -⟩, -⟩ := kept
      refine ⟨[_], scans, .inr ⟨_, secret, profile, automatic, asked, fun setting mem => ?_⟩⟩
      rw [List.mem_singleton.mp mem]
      rfl
  cases input with
  | atom a inputs =>
    by_cases meets : s.Meets a inputs
    · refine idle ?_
      simp only [Stack.step, if_pos meets]
      exact Machine.run_invariant_inputs
        (R := fun input : Esp32IdfInterface.Input => input.event.within = true)
        (I := fun t : Esp32IdfInterface => t.station.trace = s.interface.station.trace)
        (fun t input within same => (t.step_trace within).trans same) rfl meets.2.2.1
    · refine idle ?_
      simp only [Stack.step, if_neg meets]
  | interface input env =>
    obtain ⟨event, idf⟩ := input
    cases event with
    | command c => exact idle rfl
    | drain => exact one { event := .drain, idf } rfl
    | pump => exact one { event := .pump, idf } rfl
    | native e => exact one { event := .native e, idf } rfl

/-- The requests of a step of the stack are kept. -/
theorem Stack.step_suffix {s : Stack} {options : Controller.Options} {seed : UInt32}
    (wired : Stack.Wired s options seed) (input : Stack.Input) :
    s.controller.trace <:+ (s.step input).controller.trace := by
  cases input with
  | atom a inputs =>
    by_cases meets : s.Meets a inputs
    · simp only [Stack.step, if_pos meets]
      exact Controller.atom_suffix (s.wired a) wired.exclusive
    · simp only [Stack.step, if_neg meets]
      exact List.suffix_refl _
  | interface input env =>
    obtain ⟨event, idf⟩ := input
    cases event with
    | command c => exact List.suffix_refl _
    | _ => exact Controller.run_suffix wired.exclusive _

theorem Stack.faithful_run (wpa3 : Bool) (selection : Esp32Station.SelectionOptions)
    (options : Controller.Options) (seed : UInt32) (inputs : List Stack.Input) :
    let s := Machine.run Stack.step (Stack.init wpa3 selection options seed) inputs
    Stack.Wired s options seed ∧ s.Faithful ∧
      ∀ setting ∈ s.interface.station.trace, Stack.Accounts s.controller.trace setting := by
  refine Machine.run_invariant_all (I := fun s => Stack.Wired s options seed ∧ s.Faithful ∧
    ∀ setting ∈ s.interface.station.trace, Stack.Accounts s.controller.trace setting)
    (fun s input hi => ?_) ⟨Stack.wired_init wpa3 selection,
      Esp32IdfInterface.faithful_start wpa3 selection, ?_⟩ inputs
  · obtain ⟨wired, faithful, accounted⟩ := hi
    refine ⟨Stack.wired_step wired input, faithful.step wired input, fun setting mem => ?_⟩
    have grown := Stack.step_suffix wired input
    obtain ⟨new, trace, one⟩ := faithful.programs input
    rw [trace] at mem
    obtain mem | mem := List.mem_append.mp mem
    · obtain rfl | ⟨config, secret, profile, automatic, asked, of⟩ := one
      · cases mem
      · exact ⟨config, secret, profile, automatic, grown.subset asked, of setting mem⟩
    · obtain ⟨config, secret, profile, automatic, asked, of⟩ := accounted setting mem
      exact ⟨config, secret, profile, automatic, grown.subset asked, of⟩
  · exact fun setting none => absurd none List.not_mem_nil

/-- **The station is programmed as requested.** In every run of the stack every
setting that the station programs, whatever calls, tasks, native events and
answers of ESP-IDF came before, is of a connection that was requested of the
controller: its SSID, its secret or none, its PMF requirement and its
addresses. And all that one step programs is of one and the same request. -/
theorem programmed_as_requested (wpa3 : Bool) (selection : Esp32Station.SelectionOptions)
    (options : Controller.Options) (seed : UInt32) (inputs : List Stack.Input) :
    let s := Machine.run Stack.step (Stack.init wpa3 selection options seed) inputs
    (∀ setting ∈ s.interface.station.trace, Stack.Accounts s.controller.trace setting) ∧
      ∀ input, s.ProgramsOne (s.step input) := by
  intro s
  obtain ⟨-, faithful, accounted⟩ := Stack.faithful_run wpa3 selection options seed inputs
  exact ⟨accounted, fun input => faithful.programs input⟩

/-- The attempt of this run programs three settings in one step, and all three are
of the network that was asked for. -/
theorem programmed_as_requested_cancelled :
    (∃ setting ∈ (Machine.run Stack.step (Stack.init true {} {} 1)
        Stack.Cancelled).interface.station.trace,
      setting.Of Stack.TestNetwork Stack.TestPassphrase ∧
        Stack.Accounts (Machine.run Stack.step (Stack.init true {} {} 1)
          Stack.Cancelled).controller.trace setting) ∧
      let s := Machine.run Stack.step (Stack.init true {} {} 1) Stack.Prepared
      let after := s.step (Stack.alone .pump)
      after.interface.station.trace.length = s.interface.station.trace.length + 3 ∧
        s.ProgramsOne after := by
  have programmed : Esp32Station.Setting.sta [65] (List.replicate 8 97) (.load 6 []) 0
      .WIFI_AUTH_WPA2_PSK false ∈ (Machine.run Stack.step (Stack.init true {} {} 1)
        Stack.Cancelled).interface.station.trace := by decide +kernel
  refine ⟨⟨_, programmed, ⟨by decide, .inl (by decide), by decide⟩, ?_⟩, by decide +kernel, ?_⟩
  · exact (programmed_as_requested true {} {} 1 Stack.Cancelled).1 _ programmed
  · exact (programmed_as_requested true {} {} 1 Stack.Prepared).2 (Stack.alone .pump)

end RooWifi
