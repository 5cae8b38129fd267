import RooWifi.Store.Codec
import RooWifi.Store.FieldStore

/-! # What the read-only store operations return

A load succeeds exactly on the fields `Loads` describes, and the identity
check passes exactly on those `Owned` describes. -/
namespace RooWifi

open Storage FieldStore

abbrev FieldMap := Fields FieldKey UInt8

namespace FieldStore

variable {e : BackendErrors} {fails : ReadError → Prop} {f g : FieldMap} {s : Ssid}
  {st : ProfileSettings} {u : CredentialUpdate}

/-! ## Read-only operations -/

theorem readOnly_readField (key : FieldKey) (capacity : Nat) :
    ReadOnly (readField key capacity) := fun _ => trivial

theorem readOnly_read (s : Ssid) : ReadOnly (read s) := by
  unfold read
  split
  · trivial
  refine within_bind (readOnly_readField _ _) fun r => ?_
  split
  · trivial
  split
  · trivial
  split
  · trivial
  split
  · trivial
  refine within_bind (readOnly_readField _ _) fun r => ?_
  split
  · trivial
  split
  · trivial
  split <;> trivial

theorem readOnly_loadProfile (s : Ssid) : ReadOnly (loadProfile s) :=
  within_bind (readOnly_read s) fun r => by split <;> trivial

theorem readOnly_loadCredentials (s : Ssid) : ReadOnly (loadCredentials s) :=
  within_bind (readOnly_read s) fun r => by split <;> trivial

theorem readOnly_checkSecretIdentity (s : Ssid) : ReadOnly (checkSecretIdentity s) := by
  refine within_bind (readOnly_readField _ _) fun r => ?_
  split
  · trivial
  split <;> trivial

theorem readOnly_checkIdentity (s : Ssid) : ReadOnly (checkIdentity s) := by
  unfold checkIdentity
  split
  · trivial
  refine within_bind (readOnly_readField _ _) fun r => ?_
  split
  · split
    · exact readOnly_checkSecretIdentity s
    · trivial
  split
  · trivial
  split
  · trivial
  · exact readOnly_checkSecretIdentity s

theorem readOnly_updatedCredentials (s : Ssid) (u : CredentialUpdate) :
    ReadOnly (updatedCredentials s u) := by
  unfold updatedCredentials
  split
  · exact readOnly_loadCredentials s
  split
  · trivial
  split <;> trivial

theorem readOnly_resolveWrite (key : FieldKey) (d : List UInt8) (capacity : Nat) :
    ReadOnly (resolveWrite key d capacity) :=
  within_bind (readOnly_readField _ _) fun r => by split <;> trivial

theorem readOnly_readLastProfile : ReadOnly readLastProfile :=
  within_bind (readOnly_readField _ _) fun r => by split <;> trivial

/-! ## Failures are never reported as success -/

/-- A result that is not a failure reported as `kOk`. -/
abbrev Sound {α : Type} (r : Except Status α) : Prop := r ≠ .error .kOk

theorem sound_of_ne {α : Type} {status : Status} (h : status ≠ .kOk) :
    Sound (.error status : Except Status α) := fun hr => h (Except.error.inj hr)

theorem sound_validated (st : ProfileSettings) (c : Credentials) : Sound (validated st c) := by
  unfold validated
  split
  · exact sound_of_ne (by decide)
  · exact fun h => by cases h

theorem returns_read (s : Ssid) : Returns Sound (read s) := by
  unfold read
  split
  · exact sound_of_ne (by decide)
  refine returns_bind (returns_true _) fun r _ => ?_
  split
  · rename_i err
    exact sound_of_ne err.2
  split
  · rename_i hp
    exact sound_of_ne (by rw [DecodeProfile_error hp]; decide)
  split
  · exact sound_of_ne (by decide)
  split
  · exact sound_validated _ _
  refine returns_bind (returns_true _) fun r _ => ?_
  split
  · rename_i err
    refine sound_of_ne ?_
    split
    · decide
    · exact err.2
  split
  · rename_i hc
    exact sound_of_ne (by rw [DecodeSecret_error hc]; decide)
  split
  · exact sound_of_ne (by decide)
  · exact sound_validated _ _

theorem returns_loadCredentials (s : Ssid) : Returns Sound (loadCredentials s) := by
  refine returns_bind (returns_read s) fun r hr => ?_
  split
  · exact sound_of_ne fun h => hr (h ▸ rfl)
  · exact fun h => by cases h

theorem returns_updatedCredentials (s : Ssid) (u : CredentialUpdate) :
    Returns Sound (updatedCredentials s u) := by
  unfold updatedCredentials
  split
  · exact returns_loadCredentials s
  split
  · exact fun h => by cases h
  split
  · simp only [Returns]
    split
    · exact sound_of_ne (by decide)
    · exact fun h => by cases h
  · exact sound_of_ne (by decide)

theorem returns_admitSave (st : ProfileSettings) (u : CredentialUpdate) :
    Returns Sound (admitSave st u) := by
  refine returns_bind (returns_true _) fun identity _ => ?_
  split
  · rename_i hi
    exact sound_of_ne hi
  split
  · exact sound_of_ne (by decide)
  refine returns_bind (returns_updatedCredentials _ _) fun r hr => ?_
  split
  · exact sound_of_ne fun h => hr (h ▸ rfl)
  simp only [Returns]
  split
  · rename_i hv
    exact sound_of_ne hv
  · exact fun h => by cases h

/-! ## Loading -/

/-- The fields hold a profile `st` of `s` with the secret `c`. -/
structure Loads (f : FieldMap) (s : Ssid) (st : ProfileSettings) (c : Credentials) : Prop where
  valid : s.Valid
  settings : ∃ d, f (Key 'p' s) = some d ∧ d.length ≤ kMaxProfileSize ∧ DecodeProfile d = .ok st
  owner : st.connection.ssid.eq s = true
  secret : (st.connection.security = .kOpen ∧ c = {}) ∨
    (st.connection.security ≠ .kOpen ∧ ∃ d t, f (Key 's' s) = some d ∧
      d.length ≤ kMaxSecretSize ∧ DecodeSecret d = .ok (t, c) ∧ t.eq s = true)
  ok : Validate st.connection c = .kOk

theorem validated_ok {c c' : Credentials} {st' : ProfileSettings}
    (h : validated st c = .ok (st', c')) : (st = st' ∧ c = c') ∧ Validate st.connection c = .kOk := by
  unfold validated at h
  split at h
  · cases h
  · rename_i hv
    cases h
    exact ⟨⟨rfl, rfl⟩, not_not.mp hv⟩

/-- Whatever reads fail, data returned by a load is data of this SSID. -/
theorem loads_of_exec {c : Credentials} (h : Exec e.1 fails (read s) f (.ok (st, c)) g) :
    Loads f s st c := by
  unfold read at h
  split at h
  · exact absurd h.1 (by simp)
  rename_i hs
  obtain ⟨r, hr, h⟩ := h
  rcases r with err | d
  · exact absurd h.1 (by simp)
  obtain ⟨hd, hlen⟩ := hr.of_ok
  dsimp only [Prog.bind_eq, Prog.bind] at h
  split at h
  · exact absurd h.1 (by simp)
  rename_i p hp
  split at h
  · exact absurd h.1 (by simp)
  rename_i ho
  have ho : p.connection.ssid.eq s = true := by simpa using ho
  split at h
  · rename_i hopen
    obtain ⟨⟨rfl, rfl⟩, hv⟩ := validated_ok h.1.symm
    exact ⟨not_not.mp hs, ⟨d, hd, hlen, hp⟩, ho, .inl ⟨hopen, rfl⟩, hv⟩
  rename_i hopen
  obtain ⟨r, hr, h⟩ := h
  rcases r with err | d'
  · exact absurd h.1 (by simp)
  obtain ⟨hd', hlen'⟩ := hr.of_ok
  dsimp only [Prog.bind] at h
  split at h
  · exact absurd h.1 (by simp)
  rename_i t c' hc
  split at h
  · exact absurd h.1 (by simp)
  rename_i ht
  have ht : t.eq s = true := by simpa using ht
  obtain ⟨⟨rfl, rfl⟩, hv⟩ := validated_ok h.1.symm
  exact ⟨not_not.mp hs, ⟨d, hd, hlen, hp⟩, ho, .inr ⟨hopen, d', t, hd', hlen', hc, ht⟩, hv⟩

theorem run_read (h : Loads f s st c) : (run e.1 (read s) f).1 = .ok (st, c) := by
  obtain ⟨hv, ⟨d, hd, hlen, hp⟩, ho, hsec, hok⟩ := h
  have hval : validated st c = .ok (st, c) := by simp [validated, hok]
  simp only [read, readField, hv, not_true_eq_false, if_false, Prog.bind_eq, Prog.bind, run,
    answer_ok e.1 hd hlen, hp, ho, Bool.not_true, Bool.false_eq_true]
  rcases hsec with ⟨hopen, rfl⟩ | ⟨hopen, d', t, hd', hlen', hc, ht⟩
  · simp only [hopen, if_true, run, hval]
  · simp only [hopen, if_false, run, answer_ok e.1 hd' hlen', hc, ht, Bool.not_true,
      Bool.false_eq_true, hval]

theorem run_read_iff : (run e.1 (read s) f).1 = .ok (st, c) ↔ Loads f s st c := by
  refine ⟨fun h => ?_, run_read⟩
  have := exec_run e.1 (fun _ => False) (read s) f
  rw [h] at this
  exact loads_of_exec this

theorem run_loadProfile {p : Profile} :
    (run e.1 (loadProfile s) f).1 = .ok p ↔
      ∃ c, Loads f s p.settings c ∧ p.hasCredentials = decide (c.size ≠ 0) := by
  rw [loadProfile, Prog.bind_eq, run_bind_readOnly e.1 (readOnly_read s)]
  constructor
  · intro h
    split at h
    · cases h
    · rename_i st c hr
      cases h
      exact ⟨c, run_read_iff.mp hr, rfl⟩
  · rintro ⟨c, hl, hc⟩
    obtain ⟨st, has⟩ := p
    cases hc
    rw [run_read hl]
    rfl

theorem run_loadCredentials {c : Credentials} :
    (run e.1 (loadCredentials s) f).1 = .ok c ↔ ∃ st, Loads f s st c := by
  rw [loadCredentials, Prog.bind_eq, run_bind_readOnly e.1 (readOnly_read s)]
  constructor
  · intro h
    split at h
    · cases h
    · rename_i st c hr
      cases h
      exact ⟨st, run_read_iff.mp hr⟩
  · rintro ⟨st, hl⟩
    rw [run_read hl]
    rfl

/-- Both loads report the status `read` fails with. -/
theorem run_load_error {status : Status} (h : (run e.1 (read s) f).1 = .error status) :
    (run e.1 (loadProfile s) f).1 = .error status ∧
      (run e.1 (loadCredentials s) f).1 = .error status := by
  rw [loadProfile, loadCredentials, Prog.bind_eq, Prog.bind_eq,
    run_bind_readOnly e.1 (readOnly_read s), run_bind_readOnly e.1 (readOnly_read s), h]
  exact ⟨rfl, rfl⟩

theorem Loads.unique {c c' : Credentials} {st' : ProfileSettings} (h : Loads f s st c)
    (h' : Loads f s st' c') : st = st' ∧ c = c' := by
  obtain ⟨d, hd, -, hp⟩ := h.settings
  obtain ⟨d', hd', -, hp'⟩ := h'.settings
  cases hd.symm.trans hd'
  cases hp.symm.trans hp'
  refine ⟨rfl, ?_⟩
  rcases h.secret with ⟨ho, rfl⟩ | ⟨ho, d, t, hd, -, hc, -⟩ <;>
    rcases h'.secret with ⟨ho', rfl⟩ | ⟨ho', d', t', hd', -, hc', -⟩
  · rfl
  · exact absurd ho ho'
  · exact absurd ho' ho
  · cases hd.symm.trans hd'
    cases hc.symm.trans hc'
    rfl

/-- A load only looks at the two fields of its SSID. -/
theorem Loads.congr {c : Credentials} (h : Loads f s st c) (hp : g (Key 'p' s) = f (Key 'p' s))
    (hs : st.connection.security ≠ .kOpen → g (Key 's' s) = f (Key 's' s)) : Loads g s st c := by
  refine ⟨h.valid, hp ▸ h.settings, h.owner, ?_, h.ok⟩
  rcases h.secret with hsec | ⟨ho, hsec⟩
  · exact .inl hsec
  · exact .inr ⟨ho, hs ho ▸ hsec⟩

/-! ## The identity check -/

/-- The settings field is free or names this SSID. -/
def OwnedSettings (f : FieldMap) (s : Ssid) : Prop :=
  f (Key 'p' s) = none ∨ ∃ d p, f (Key 'p' s) = some d ∧ d.length ≤ kMaxSecretSize ∧
    DecodeProfile d = .ok p ∧ p.connection.ssid.eq s = true

/-- The secret field is free or names this SSID. -/
def OwnedSecret (f : FieldMap) (s : Ssid) : Prop :=
  f (Key 's' s) = none ∨ ∃ d t c, f (Key 's' s) = some d ∧ d.length ≤ kMaxSecretSize ∧
    DecodeSecret d = .ok (t, c) ∧ t.eq s = true

/-- No field of this SSID holds, or may hold, data of another one. -/
structure Owned (f : FieldMap) (s : Ssid) : Prop where
  valid : s.Valid
  settings : OwnedSettings f s
  secret : OwnedSecret f s

theorem eq_missing {err : ReadError} (h : err.val = .kNotFound) : err = e.1.missing :=
  Subtype.ext (h.trans e.2.symm)

theorem ownedSecret_of_exec (hf : ¬ fails e.1.missing)
    (h : Exec e.1 fails (checkSecretIdentity s) f .kOk g) : OwnedSecret f s := by
  obtain ⟨r, hr, h⟩ := h
  rcases r with err | d
  · by_cases hm : err.val = .kNotFound
    · cases eq_missing (e := e) hm
      exact .inl (hr.of_missing _ _ hf)
    · simp only [Prog.bind, hm, if_false] at h
      exact absurd h.1.symm err.2
  obtain ⟨hd, hlen⟩ := hr.of_ok
  dsimp only [Prog.bind] at h
  split at h
  · rename_i status hs
    cases DecodeSecret_error hs
    exact absurd h.1 (by simp)
  · rename_i t c hc
    refine .inr ⟨d, t, c, hd, hlen, hc, ?_⟩
    by_contra ht
    simp only [ht] at h
    cases h.1

/-- Unless a failing read passes for an absent field, the check only passes
where both fields are free or this SSID's own. -/
theorem owned_of_exec (hf : ¬ fails e.1.missing)
    (h : Exec e.1 fails (checkIdentity s) f .kOk g) : Owned f s := by
  unfold checkIdentity at h
  split at h
  · cases h.1
  rename_i hs
  obtain ⟨r, hr, h⟩ := h
  rcases r with err | d
  · by_cases hm : err.val = .kNotFound
    · cases eq_missing (e := e) hm
      simp only [Prog.bind, hm, if_true] at h
      exact ⟨not_not.mp hs, .inl (hr.of_missing _ _ hf), ownedSecret_of_exec hf h⟩
    · simp only [Prog.bind, hm, if_false] at h
      exact absurd h.1.symm err.2
  obtain ⟨hd, hlen⟩ := hr.of_ok
  dsimp only [Prog.bind] at h
  split at h
  · rename_i status hp
    cases DecodeProfile_error hp
    cases h.1
  rename_i p hp
  split at h
  · cases h.1
  rename_i ho
  exact ⟨not_not.mp hs, .inr ⟨d, p, hd, hlen, hp, by simpa using ho⟩, ownedSecret_of_exec hf h⟩

theorem run_checkSecretIdentity (h : OwnedSecret f s) :
    (run e.1 (checkSecretIdentity s) f).1 = .kOk := by
  rcases h with h | ⟨d, t, c, hd, hlen, hc, ht⟩
  · simp only [checkSecretIdentity, readField, Prog.bind_eq, Prog.bind, run,
      answer_missing e.1 h, e.2, if_true]
  · simp only [checkSecretIdentity, readField, Prog.bind_eq, Prog.bind, run,
      answer_ok e.1 hd hlen, hc, ht, if_true]

theorem run_checkIdentity (h : Owned f s) : (run e.1 (checkIdentity s) f).1 = .kOk := by
  obtain ⟨hv, hp, hs⟩ := h
  rcases hp with hp | ⟨d, p, hd, hlen, hp, ho⟩
  · simp only [checkIdentity, hv, not_true_eq_false, if_false, readField, Prog.bind_eq, Prog.bind,
      run, answer_missing e.1 hp, e.2, if_true, run_checkSecretIdentity hs]
  · simp only [checkIdentity, hv, not_true_eq_false, if_false, readField, Prog.bind_eq, Prog.bind,
      run, answer_ok e.1 hd hlen, hp, ho, Bool.not_true, Bool.false_eq_true,
      run_checkSecretIdentity hs]

theorem run_checkIdentity_iff : (run e.1 (checkIdentity s) f).1 = .kOk ↔ Owned f s := by
  refine ⟨fun h => ?_, run_checkIdentity⟩
  have := exec_run e.1 (fun _ => False) (checkIdentity s) f
  rw [h] at this
  exact owned_of_exec id this

end FieldStore

end RooWifi
