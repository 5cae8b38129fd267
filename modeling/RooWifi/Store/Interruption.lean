import RooWifi.Store.Convergence

/-! # What a save that loses one mutation leaves readable

The secret is replaced before the settings it belongs to, and the two are
validated together when they are read back. -/
namespace RooWifi

open Storage

namespace FieldStore

variable {e : BackendErrors} {f g : FieldMap} {s : Ssid} {st : ProfileSettings}
  {u : CredentialUpdate} {c : Credentials} {n : Nat}

/-! ## One lost mutation of a save -/

section Losing

variable {α : Type} {key : FieldKey} {d : List UInt8} {capacity : Nat} {q : Status → FieldProg α}

theorem runLosing_writeVerified_same (n : Nat) (hf : f key = some d) (hd : d.length ≤ capacity) :
    runLosing e.1 n ((writeVerified key d capacity).bind q) f = runLosing e.1 n (q .kOk) f := by
  simp only [writeVerified, readField, Prog.bind_eq, Prog.bind, runLosing, answer_ok e.1 hf hd,
    if_true]

theorem answer_ne (hf : f key ≠ some d) : answer e.1 f key capacity ≠ .ok d := fun h =>
  hf (ReadOutcome.of_ok e.1 (fun _ => False) (.inl h.symm)).1

theorem runLosing_writeVerified_next (n : Nat) (hf : f key ≠ some d) :
    runLosing e.1 (n + 1) ((writeVerified key d capacity).bind q) f =
      runLosing e.1 n (q .kOk) (commit f key (some d)) := by
  simp only [writeVerified, readField, writeField, Prog.bind_eq, Prog.bind, runLosing,
    answer_ne hf, if_false, if_true]

/-- A lost write is reported as a failure, never as `kOk`. -/
theorem runLosing_writeVerified_lost (capacity : Nat) (hf : f key ≠ some d) :
    ∃ status, status ≠ .kOk ∧
      runLosing e.1 0 ((writeVerified key d capacity).bind q) f = run e.1 (q status) f := by
  refine ⟨(run e.1 (resolveWrite key d capacity) f).1, ?_, ?_⟩
  · simp only [resolveWrite, readField, Prog.bind_eq, Prog.bind, run]
    split
    · rename_i actual ha
      have hne : actual ≠ d := fun h =>
        absurd (ha.trans (congrArg Except.ok h)) (answer_ne hf)
      simp [run, hne]
    · simp only [run]
      split <;> decide
  · simp only [writeVerified, readField, writeField, Prog.bind_eq, Prog.bind, runLosing,
      answer_ne hf, if_false, Bool.false_eq_true]
    rw [run_bind, run_readOnly e.1 (readOnly_resolveWrite _ _ _)]

end Losing

/-- `saveSettings` after its write. -/
theorem saveSettings_eq (st : ProfileSettings) (intent : CredentialIntent) :
    saveSettings st intent =
      (writeVerified (Key 'p' st.connection.ssid) (EncodeProfile st) kMaxProfileSize).bind
        fun status =>
          if status ≠ .kOk then .ret status
          else if intent = .kClear then clearSecret st.connection.ssid
          else .ret .kOk := rfl

theorem within_clearSecret (s : Ssid) : Within {(Key 's' s, none)} (clearSecret s) := by
  refine within_bind (readOnly_readField _ _).within fun r => ?_
  split
  · split
    · trivial
    · exact ⟨rfl, fun _ => trivial⟩
  · exact ⟨rfl, fun _ => trivial⟩

/-- With the new settings in place, only a clearing save changes more. -/
theorem runLosing_clear (n : Nat) (intent : CredentialIntent) (s : Ssid) (f : FieldMap) :
    let r := runLosing e.1 n (if intent = .kClear then clearSecret s else .ret .kOk) f
    r.2 (Key 'p' s) = f (Key 'p' s) ∧ (intent ≠ .kClear → r.2 = f) := by
  dsimp only
  split
  · rename_i hi
    have hx := exec_runLosing e.1 (fun _ => False) n (clearSecret s) f
    have hb := reach_between e.1 _ (within_clearSecret s) (between_refl f)
      (exec_reach e.1 _ hx)
    refine ⟨hb.frame fun v hm => ?_, fun hne => absurd hi hne⟩
    exact Key_p_ne_s s s (Prod.ext_iff.mp hm).1
  · cases n <;> exact ⟨rfl, fun _ => rfl⟩

/-- The settings write is lost, or the save ends with the new settings in
place and its secret field as it was, unless it clears it. -/
theorem runLosing_saveSettings (n : Nat) (hs : st.connection.ssid.Valid)
    (intent : CredentialIntent) (f : FieldMap) :
    let r := (runLosing e.1 n (saveSettings st intent) f).2
    let P := some (EncodeProfile st)
    (n = 0 ∧ f (Key 'p' st.connection.ssid) ≠ P ∧ r = f) ∨
      ((n = 0 → f (Key 'p' st.connection.ssid) = P) ∧ r (Key 'p' st.connection.ssid) = P ∧
        (intent ≠ .kClear → r (Key 's' st.connection.ssid) = f (Key 's' st.connection.ssid))) := by
  dsimp only
  rw [saveSettings_eq]
  by_cases hp : f (Key 'p' st.connection.ssid) = some (EncodeProfile st)
  · right
    rw [runLosing_writeVerified_same n hp (length_EncodeProfile hs), if_neg (not_not.mpr rfl)]
    obtain ⟨h₁, h₂⟩ := runLosing_clear (e := e) n intent st.connection.ssid f
    exact ⟨fun _ => hp, h₁.trans hp, fun hi => by rw [h₂ hi]⟩
  cases n with
  | zero =>
    obtain ⟨status, hne, hr⟩ := runLosing_writeVerified_lost (e := e)
      (q := fun status => if status ≠ .kOk then .ret status
        else if intent = .kClear then clearSecret st.connection.ssid else .ret .kOk)
      kMaxProfileSize hp
    exact .inl ⟨rfl, hp, by rw [hr, if_pos hne]; rfl⟩
  | succ n =>
    right
    rw [runLosing_writeVerified_next n hp, if_neg (not_not.mpr rfl)]
    obtain ⟨h₁, h₂⟩ := runLosing_clear (e := e) n intent st.connection.ssid
      (commit f (Key 'p' st.connection.ssid) (some (EncodeProfile st)))
    refine ⟨fun h => absurd h (Nat.succ_ne_zero n), by rw [h₁, commit_same], fun hi => ?_⟩
    rw [h₂ hi, commit_of_ne (Key_s_ne_p _ _)]

/-- `saveRecords` of a replacing save. -/
theorem saveRecords_replace (hi : u.intent = .kReplace) (c : Credentials) :
    saveRecords st u.intent c =
      (writeVerified (Key 's' st.connection.ssid) (EncodeSecret st.connection.ssid c)
        kMaxSecretSize).bind
        fun status => if status ≠ .kOk then .ret status else saveSettings st u.intent := by
  rw [saveRecords, if_pos hi]
  rfl

/-- The secret is replaced and the settings write that follows is lost. -/
def Torn (f : FieldMap) (st : ProfileSettings) (u : CredentialUpdate) (n : Nat) : Prop :=
  u.intent = .kReplace ∧ n = 1 ∧
    f (Key 's' st.connection.ssid) ≠ some (EncodeSecret st.connection.ssid u.replacement) ∧
    f (Key 'p' st.connection.ssid) ≠ some (EncodeProfile st)

theorem Accepts.runLosing (ha : Accepts f st u c) (n : Nat) :
    runLosing e.1 n (saveProfile st u) f = runLosing e.1 n (saveRecords st u.intent c) f := by
  rw [saveProfile, Prog.bind_eq, runLosing_bind_readOnly e.1 (readOnly_admitSave st u),
    run_admitSave.mpr ha]

theorem Torn.fields (ht : Torn f st u n) (ha : Accepts f st u c) :
    (Storage.runLosing e.1 n (saveProfile st u) f).2 =
      commit f (Key 's' st.connection.ssid)
        (some (EncodeSecret st.connection.ssid u.replacement)) := by
  obtain ⟨hi, rfl, hsec, hset⟩ := ht
  have hc := ha.updated.replaced hi
  rw [ha.runLosing, saveRecords_replace hi, hc, runLosing_writeVerified_next 0 hsec,
    if_neg (not_not.mpr rfl)]
  rcases runLosing_saveSettings (e := e) 0 ha.owned.valid u.intent
    (commit f (Key 's' st.connection.ssid)
      (some (EncodeSecret st.connection.ssid u.replacement))) with ⟨-, -, hr⟩ | ⟨hp, -⟩
  · exact hr
  · rw [commit_of_ne (Key_p_ne_s _ _)] at hp
    exact absurd (hp rfl) hset

/-- An open network is only saved without credentials. -/
theorem Accepts.bare (ha : Accepts f st u c) (ho : st.connection.security = .kOpen) : c = {} := by
  have hi : u.intent = .kClear := by
    by_contra hi
    exact secured_of_matched ha.matched hi ho
  rcases ha.updated with ⟨hi', -⟩ | ⟨hi', -⟩ | ⟨-, -, hc⟩
  · exact absurd (hi.symm.trans hi') (by decide)
  · exact absurd (hi.symm.trans hi') (by decide)
  · exact hc

/-- With its settings in place, a secured profile needs its secret beside them. -/
theorem loads_new (ha : Accepts f st u c)
    (hp : g (Key 'p' st.connection.ssid) = some (EncodeProfile st))
    (hs : st.connection.security ≠ .kOpen → ∃ d t c', g (Key 's' st.connection.ssid) = some d ∧
      d.length ≤ kMaxSecretSize ∧ DecodeSecret d = .ok (t, c') ∧
      t.eq st.connection.ssid = true ∧ Validate st.connection c' = .kOk) :
    ∃ c', Loads g st.connection.ssid st.trim c' := by
  have hv := ha.owned.valid
  obtain ⟨p, hd, ho⟩ := decodes_EncodeProfile hv
  cases hd.symm.trans (DecodeProfile_EncodeProfile hv)
  have hset := (⟨_, hp, length_EncodeProfile hv, hd⟩ : ∃ d, g (Key 'p' st.connection.ssid) =
    some d ∧ d.length ≤ kMaxProfileSize ∧ DecodeProfile d = .ok st.trim)
  by_cases hopen : st.connection.security = .kOpen
  · exact ⟨{}, hv, hset, ho, .inl ⟨hopen, rfl⟩, ha.bare hopen ▸ ha.ok⟩
  · obtain ⟨d, t, c', hd, hlen, hc, ht, hok⟩ := hs hopen
    exact ⟨c', hv, hset, ho, .inr ⟨hopen, d, t, hd, hlen, hc, ht⟩, hok⟩

theorem loads_new_replaced (ha : Accepts f st u c) (hi : u.intent = .kReplace)
    (hp : g (Key 'p' st.connection.ssid) = some (EncodeProfile st))
    (hs : g (Key 's' st.connection.ssid) =
      some (EncodeSecret st.connection.ssid u.replacement)) :
    ∃ c', Loads g st.connection.ssid st.trim c' := by
  have hc := size_le_of_Validate ha.ok
  have hok : Validate st.connection c.trim = .kOk := (Validate_trim _ hc).trans ha.ok
  rw [ha.updated.replaced hi] at hc hok
  obtain ⟨t, hd, ht⟩ := decodes_EncodeSecret (s := st.connection.ssid) ha.owned.valid hc
  exact loads_new ha hp fun _ =>
    ⟨_, t, _, hs, length_EncodeSecret ha.owned.valid hc, hd, ht, hok⟩

theorem loads_new_kept (ha : Accepts f st u c) (hi : u.intent ≠ .kReplace)
    (hp : g (Key 'p' st.connection.ssid) = some (EncodeProfile st))
    (hs : u.intent ≠ .kClear →
      g (Key 's' st.connection.ssid) = f (Key 's' st.connection.ssid)) :
    ∃ c', Loads g st.connection.ssid st.trim c' := by
  refine loads_new ha hp fun hsec => ?_
  rcases ha.updated with ⟨hi', st₀, hl⟩ | ⟨hi', -⟩ | ⟨-, -, rfl⟩
  · rcases hl.secret with ⟨-, rfl⟩ | ⟨-, d, t, hd, hlen, hc, ht⟩
    · exact absurd rfl (size_ne_zero_of_secured ha.ok hsec)
    · exact ⟨d, t, c, (hs (hi' ▸ by decide)).trans hd, hlen, hc, ht, ha.ok⟩
  · exact absurd hi' hi
  · exact absurd rfl (size_ne_zero_of_secured ha.ok hsec)

/-- Unless the two writes are torn apart, a save with a lost mutation leaves
the fields as they were or a readable new profile. -/
theorem loads_of_not_torn (ha : Accepts f st u c) (n : Nat) (ht : ¬ Torn f st u n) :
    (Storage.runLosing e.1 n (saveProfile st u) f).2 = f ∨
      ∃ c', Loads (Storage.runLosing e.1 n (saveProfile st u) f).2 st.connection.ssid st.trim
        c' := by
  have hv := ha.owned.valid
  rw [ha.runLosing]
  by_cases hi : u.intent = .kReplace
  · have hi' : u.intent ≠ .kClear := hi ▸ by decide
    have hlen := length_EncodeSecret hv (ha.updated.replaced hi ▸ size_le_of_Validate ha.ok)
    rw [saveRecords_replace hi, ha.updated.replaced hi]
    by_cases hsec : f (Key 's' st.connection.ssid) =
        some (EncodeSecret st.connection.ssid u.replacement)
    · rw [runLosing_writeVerified_same n hsec hlen, if_neg (not_not.mpr rfl)]
      rcases runLosing_saveSettings (e := e) n hv u.intent f with ⟨-, -, hr⟩ | ⟨-, hp, hs⟩
      · exact .inl hr
      · exact .inr (loads_new_replaced ha hi hp ((hs hi').trans hsec))
    cases n with
    | zero =>
      obtain ⟨status, hne, hr⟩ := runLosing_writeVerified_lost (e := e)
        (q := fun status => if status ≠ .kOk then .ret status else saveSettings st u.intent)
        kMaxSecretSize hsec
      exact .inl (by rw [hr, if_pos hne]; rfl)
    | succ n =>
      rw [runLosing_writeVerified_next n hsec, if_neg (not_not.mpr rfl)]
      rcases runLosing_saveSettings (e := e) n hv u.intent
        (commit f (Key 's' st.connection.ssid)
          (some (EncodeSecret st.connection.ssid u.replacement))) with ⟨rfl, hp, -⟩ | ⟨-, hp, hs⟩
      · rw [commit_of_ne (Key_p_ne_s _ _)] at hp
        exact absurd ⟨hi, rfl, hsec, hp⟩ ht
      · exact .inr (loads_new_replaced ha hi hp ((hs hi').trans (commit_same _ _ _)))
  · rw [saveRecords, if_neg hi]
    rcases runLosing_saveSettings (e := e) n hv u.intent f with ⟨-, -, hr⟩ | ⟨-, hp, hs⟩
    · exact .inl hr
    · exact .inr (loads_new_kept ha hi hp hs)

/-- A secret that does not fit the settings stored with it. -/
theorem not_loads_misfit {p : ProfileSettings} {old : ProfileSettings} {c₀ c' : Credentials}
    (hl : Loads f s old c₀) (hsec : old.connection.security ≠ .kOpen)
    (hc : c.size.toNat ≤ 64) (hbad : Validate old.connection c ≠ .kOk) :
    ¬ Loads (commit f (Key 's' s) (some (EncodeSecret s c))) s p c' := by
  intro hl'
  obtain ⟨d, hd, -, hp⟩ := hl.settings
  obtain ⟨d', hd', -, hp'⟩ := hl'.settings
  rw [commit_of_ne (Key_p_ne_s s s), hd] at hd'
  cases hd'
  cases hp.symm.trans hp'
  rcases hl'.secret with ⟨ho, -⟩ | ⟨-, d, t, hd, -, hc', -⟩
  · exact hsec ho
  · rw [commit_same] at hd
    cases hd
    cases (DecodeSecret_EncodeSecret hl.valid hc).symm.trans hc'
    exact hbad ((Validate_trim _ hc).symm.trans hl'.ok)

/-- A replaced secret does not fit the old, secured settings, and the settings
write that was to follow it is the mutation lost. -/
def Strands (old st : ProfileSettings) (u : CredentialUpdate) (n : Nat) : Prop :=
  u.intent = .kReplace ∧ st.connection.security ≠ .kOpen ∧
    Validate st.connection u.replacement = .kOk ∧ old.connection.security ≠ .kOpen ∧
    Validate old.connection u.replacement ≠ .kOk ∧ n = 1

theorem Loads.owned {old : ProfileSettings} (hl : Loads f s old c)
    (hsec : old.connection.security ≠ .kOpen) : Owned f s := by
  obtain ⟨d, hd, hlen, hp⟩ := hl.settings
  refine ⟨hl.valid, .inr ⟨d, old, hd, hlen.trans (by decide), hp, hl.owner⟩, ?_⟩
  rcases hl.secret with ⟨ho, -⟩ | ⟨-, d, t, hd, hlen, hc, ht⟩
  · exact absurd ho hsec
  · exact .inr ⟨d, t, c, hd, hlen, hc, ht⟩

/-- Such a save passes its checks and is torn. -/
theorem Strands.torn {old : ProfileSettings} {n : Nat} (h : Strands old st u n)
    (hl : Loads f st.connection.ssid old c) :
    Accepts f st u u.replacement ∧ Torn f st u n := by
  obtain ⟨hi, hsec, hok, hold, hbad, hn⟩ := h
  have hc := size_le_of_Validate hok
  refine ⟨⟨hl.owned hold, by simp [mismatched, hsec], .inr (.inl ⟨hi, rfl⟩), hok⟩, hi, hn, ?_, ?_⟩
  · intro hf
    rcases hl.secret with ⟨ho, -⟩ | ⟨-, d, t, hd, -, hd', -⟩
    · exact hold ho
    · cases hf.symm.trans hd
      cases (DecodeSecret_EncodeSecret hl.valid hc).symm.trans hd'
      exact hbad ((Validate_trim _ hc).symm.trans hl.ok)
  · intro hf
    obtain ⟨d, hd, -, hp⟩ := hl.settings
    cases hf.symm.trans hd
    cases (DecodeProfile_EncodeProfile hl.valid).symm.trans hp
    exact hbad hok

/-- **A save that loses one mutation keeps the profile readable, with the old
settings or the new ones, exactly unless it strands the old settings beside a
secret that does not fit them.** -/
theorem interrupted_save (e : BackendErrors) (f : FieldMap) (old : Profile)
    (st : ProfileSettings) (u : CredentialUpdate) (n : Nat)
    (h : (run e.1 (loadProfile st.connection.ssid) f).1 = .ok old) :
    (∃ p : Profile,
      (run e.1 (loadProfile st.connection.ssid)
        (runLosing e.1 n (saveProfile st u) f).2).1 = .ok p ∧
        (p.settings = old.settings ∨ p.settings = st.trim)) ↔
      ¬ Strands old.settings st u n := by
  obtain ⟨c₀, hl, hhas⟩ := run_loadProfile.mp h
  constructor
  · rintro ⟨p, hp, -⟩ hstr
    obtain ⟨c', hl', -⟩ := run_loadProfile.mp hp
    obtain ⟨ha, ht⟩ := hstr.torn hl
    rw [ht.fields ha] at hl'
    exact not_loads_misfit hl hstr.2.2.2.1 (size_le_of_Validate ha.ok) hstr.2.2.2.2.1 hl'
  intro hstr
  rcases hr : (run e.1 (admitSave st u) f).1 with status | c
  · -- rejected: nothing is mutated
    have hg : (runLosing e.1 n (saveProfile st u) f).2 = f := by
      rw [saveProfile, Prog.bind_eq, runLosing_bind_readOnly e.1 (readOnly_admitSave st u), hr]
      cases n <;> rfl
    exact ⟨old, by rw [hg, h], .inl rfl⟩
  have ha := run_admitSave.mp hr
  by_cases ht : Torn f st u n
  · -- torn, but the new secret fits the old settings or is not looked at
    have hi := ht.1
    have hc := ha.updated.replaced hi
    have hcs := size_le_of_Validate ha.ok
    rw [ht.fields ha]
    have hset : commit f (Key 's' st.connection.ssid)
        (some (EncodeSecret st.connection.ssid u.replacement)) (Key 'p' st.connection.ssid) =
        f (Key 'p' st.connection.ssid) := commit_of_ne (Key_p_ne_s _ _)
    by_cases hold : old.settings.connection.security = .kOpen
    · exact ⟨old, run_loadProfile.mpr ⟨c₀, hl.congr hset fun hne => absurd hold hne, hhas⟩,
        .inl rfl⟩
    · have hnew := secured_of_matched ha.matched (hi ▸ by decide)
      have hfit : Validate old.settings.connection c = .kOk := by
        by_contra hbad
        exact hstr ⟨hi, hnew, hc ▸ ha.ok, hold, hc ▸ hbad, ht.2.1⟩
      obtain ⟨t, hd, hts⟩ := decodes_EncodeSecret (s := st.connection.ssid) hl.valid hcs
      refine ⟨{ settings := old.settings, hasCredentials := decide (c.trim.size ≠ 0) },
        run_loadProfile.mpr ⟨c.trim, ⟨hl.valid, hset ▸ hl.settings, hl.owner, .inr ⟨hold, ?_⟩, ?_⟩,
          rfl⟩, .inl rfl⟩
      · exact ⟨_, t, by rw [commit_same, hc], length_EncodeSecret hl.valid hcs, hd, hts⟩
      · exact (Validate_trim _ hcs).trans hfit
  · rcases loads_of_not_torn (e := e) ha n ht with hg | ⟨c', hl'⟩
    · exact ⟨old, by rw [hg, h], .inl rfl⟩
    · exact ⟨{ settings := st.trim, hasCredentials := decide (c'.size ≠ 0) },
        run_loadProfile.mpr ⟨c', hl', rfl⟩, .inr rfl⟩

/-- The fields of the WPA2 network. -/
def TestFields : FieldMap := fun k =>
  if k = Key 'p' TestConfig.ssid then some (EncodeProfile TestWpa2)
  else if k = Key 's' TestConfig.ssid then some (EncodeSecret TestConfig.ssid TestPassphrase)
  else none

/-- Switching it to WEP with the settings write lost leaves it corrupt. -/
theorem interrupted_save_corrupt :
    (run MemoryStore.1 (loadProfile TestConfig.ssid) TestFields).1 =
        .ok { settings := TestWpa2, hasCredentials := true } ∧
      (run MemoryStore.1 (loadProfile TestConfig.ssid)
        (runLosing MemoryStore.1 1 (saveProfile TestWep TestWepUpdate) TestFields).2).1 =
        .error .kCorrupt := by
  decide +kernel

/-- Losing the secret write instead leaves the WPA2 network readable. -/
theorem interrupted_save_test :
    ∃ p : Profile,
      (run MemoryStore.1 (loadProfile TestWep.connection.ssid)
        (runLosing MemoryStore.1 0 (saveProfile TestWep TestWepUpdate) TestFields).2).1 = .ok p ∧
        (p.settings = TestWpa2 ∨ p.settings = TestWep.trim) :=
  (interrupted_save MemoryStore TestFields { settings := TestWpa2, hasCredentials := true }
    TestWep TestWepUpdate 0 (by decide +kernel)).mpr fun h => absurd h.2.2.2.2.2 (by decide)

end FieldStore

end RooWifi
