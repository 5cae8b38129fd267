import RooWifi.Lib.Run
import RooWifi.Store.Mutation

/-! # The store refines a finite map

Over a reliable backend, any sequence of saves and removals behaves as one
that binds SSIDs to settings and credentials, except that an unbound SSID may
be reported as colliding with a bound one of the same hash. -/
namespace RooWifi

open Storage FieldStore

/-! ## The abstract store -/

/-- What each SSID is bound to. -/
abbrev Bindings := List UInt8 → Option (ProfileSettings × Credentials)

namespace Bindings

def empty : Bindings := fun _ => none

/-- The credentials an accepted save leaves an SSID with. -/
def updated (m : Bindings) (ssid : Ssid) (u : CredentialUpdate) : Credentials :=
  if u.intent = .kKeep then ((m ssid.view).map Prod.snd).getD {}
  else if u.intent = .kReplace then u.replacement
  else {}

/-- The effect of an accepted call. -/
def accept (m : Bindings) : StoreCall → Bindings
  | .save st u =>
    Function.update m st.connection.ssid.view (some (st, m.updated st.connection.ssid u))
  | .remove s => Function.update m s.view none

/-- Some bound SSID has the hash of this one. -/
def Shadowed (m : Bindings) (s : Ssid) : Prop :=
  ∃ t : Ssid, t.Valid ∧ m t.view ≠ none ∧ fnv1a t = fnv1a s

open Classical in
/-- What loading an unbound SSID reports. -/
noncomputable def absent (m : Bindings) (s : Ssid) : Status :=
  if m.Shadowed s then .kHashCollision else .kNotFound

noncomputable def loadProfile (m : Bindings) (s : Ssid) : Except Status Profile :=
  match m s.view with
  | some (st, c) => .ok { settings := st.trim, hasCredentials := c.size ≠ 0 }
  | none => .error (m.absent s)

noncomputable def loadCredentials (m : Bindings) (s : Ssid) : Except Status Credentials :=
  match m s.view with
  | some (_, c) => .ok c.trim
  | none => .error (m.absent s)

end Bindings

/-- One call, on the fields and on the bindings it is to be compared with. -/
def exec (e : BackendErrors) (x : FieldMap × Bindings) (call : StoreCall) : FieldMap × Bindings :=
  let r := run e.1 call.prog x.1
  (r.2, if r.1 = .kOk then x.2.accept call else x.2)

/-! ## The invariant -/

/-- The secret field that goes with settings and credentials. -/
def secretField (s : Ssid) (st : ProfileSettings) (c : Credentials) : Option (List UInt8) :=
  if st.connection.security = .kOpen then none else some (EncodeSecret s c)

/-- The two fields of a bound SSID hold its binding. -/
structure Binds (f : FieldMap) (s : Ssid) (st : ProfileSettings) (c : Credentials) : Prop where
  view : st.connection.ssid.view = s.view
  valid : Validate st.connection c = .kOk
  bare : st.connection.security = .kOpen → c = {}
  settings : f (Key 'p' s) = some (EncodeProfile st)
  secret : f (Key 's' s) = secretField s st c

/-- The fields of hashes that no bound SSID has are free, and nothing else is
stored. -/
structure Refines (f : FieldMap) (m : Bindings) : Prop where
  bound : ∀ s st c, s.Valid → m s.view = some (st, c) → Binds f s st c
  free : ∀ s, s.Valid → ¬ m.Shadowed s → f (Key 'p' s) = none ∧ f (Key 's' s) = none
  last : f kLastSsid = none

variable {e : BackendErrors} {f : FieldMap} {m : Bindings} {s : Ssid} {st : ProfileSettings}
  {u : CredentialUpdate} {c : Credentials}

theorem Credentials.trim_empty : ({} : Credentials).trim = {} := by
  simp only [Credentials.trim, Credentials.view, zeros, UInt8.toNat_zero, List.take_zero]
  rfl

/-- A binding is what a load finds. -/
theorem Binds.loads (h : Binds f s st c) (hs : s.Valid) : Loads f s st.trim c.trim := by
  have hv := valid_of_Validate h.valid
  have hc := size_le_of_Validate h.valid
  have hview : st.connection.ssid.trim.view = s.view := (Ssid.view_trim hv.2).trans h.view
  refine ⟨hs, ⟨_, h.settings, length_EncodeProfile hv, DecodeProfile_EncodeProfile hv⟩,
    (Ssid.eq_iff (a := st.connection.ssid.trim) hv hs).mpr hview, ?_, ?_⟩
  · by_cases ho : st.connection.security = .kOpen
    · exact .inl ⟨ho, by rw [h.bare ho, Credentials.trim_empty]⟩
    · refine .inr ⟨ho, _, s.trim, by rw [h.secret, secretField, if_neg ho],
        length_EncodeSecret hs hc, DecodeSecret_EncodeSecret hs hc, ?_⟩
      exact (Ssid.eq_iff (a := s.trim) hs hs).mpr (Ssid.view_trim hs.2)
  · rw [Validate_trimSsid, Validate_trim _ hc, h.valid]

/-- An SSID that passes the identity check shares its hash with no other
bound SSID. -/
theorem view_eq_of_owned {t : Ssid} (ho : Owned f s) (h : Binds f t st c)
    (hk : fnv1a t = fnv1a s) : t.view = s.view := by
  rcases ho.settings with hn | ⟨d, p, hd, -, hp, hps⟩
  · rw [← Key_inj.mpr hk, h.settings] at hn
    cases hn
  · rw [← Key_inj.mpr hk, h.settings] at hd
    cases hd
    have hv := valid_of_Validate h.valid
    cases (DecodeProfile_EncodeProfile hv).symm.trans hp
    rw [← h.view, ← Ssid.view_of_eq hps]
    exact (Ssid.view_trim hv.2).symm

/-! ## Saving -/

/-- Passing the identity check, an SSID whose settings field is taken is bound. -/
theorem Refines.bound_of_owned (h : Refines f m) (ho : Owned f s) (hp : f (Key 'p' s) ≠ none) :
    ∃ st c, m s.view = some (st, c) := by
  by_cases hsh : m.Shadowed s
  · obtain ⟨t, ht, hm, hk⟩ := hsh
    obtain ⟨⟨st, c⟩, hmt⟩ := Option.ne_none_iff_exists'.mp hm
    rw [← view_eq_of_owned ho (h.bound t st c ht hmt) hk]
    exact ⟨st, c, hmt⟩
  · exact absurd (h.free s ho.valid hsh).1 hp

/-- Bound SSIDs other than the owner of a field have other keys. -/
theorem Refines.hash_ne (h : Refines f m) (ho : Owned f s) {t : Ssid} (ht : t.Valid)
    (hm : m t.view ≠ none) (hne : t.view ≠ s.view) : fnv1a t ≠ fnv1a s := by
  obtain ⟨⟨st, c⟩, hmt⟩ := Option.ne_none_iff_exists'.mp hm
  exact fun hk => hne (view_eq_of_owned ho (h.bound t st c ht hmt) hk)

theorem Binds.congr {g : FieldMap} (h : Binds f s st c) (hp : g (Key 'p' s) = f (Key 'p' s))
    (hs : g (Key 's' s) = f (Key 's' s)) : Binds g s st c :=
  ⟨h.view, h.valid, h.bare, hp.trans h.settings, hs.trans h.secret⟩

/-- A call for an owned SSID leaves the fields of other hashes alone, so only
the binding of that SSID is to be looked at. -/
theorem Refines.update {g : FieldMap} {b : Option (ProfileSettings × Credentials)}
    (h : Refines f m) (ho : Owned f s)
    (hframe : ∀ k, k ≠ Key 'p' s → k ≠ Key 's' s → g k = f k)
    (hbound : ∀ t st c, t.Valid → t.view = s.view → b = some (st, c) → Binds g t st c)
    (hfree : b = none → g (Key 'p' s) = none ∧ g (Key 's' s) = none) :
    Refines g (Function.update m s.view b) := by
  have hkeys {t : Ssid} (ht : fnv1a t ≠ fnv1a s) :
      g (Key 'p' t) = f (Key 'p' t) ∧ g (Key 's' t) = f (Key 's' t) :=
    ⟨hframe _ (fun hk => ht (Key_inj.mp hk)) (Key_p_ne_s t s),
      hframe _ (Key_s_ne_p t s) fun hk => ht (Key_inj.mp hk)⟩
  refine ⟨fun t st c ht hm => ?_, fun t ht hsh => ?_, ?_⟩
  · by_cases hv : t.view = s.view
    · rw [hv, Function.update_self] at hm
      exact hbound t st c ht hv hm
    · rw [Function.update_of_ne hv] at hm
      obtain ⟨hp, hs⟩ := hkeys (h.hash_ne ho ht (by simp [hm]) hv)
      exact (h.bound t st c ht hm).congr hp hs
  · by_cases hk : fnv1a t = fnv1a s
    · rw [Key_inj.mpr hk, Key_inj.mpr hk]
      refine hfree (by_contra fun hb => hsh ⟨s, ho.valid, ?_, hk.symm⟩)
      rwa [Function.update_self]
    · obtain ⟨hp, hs⟩ := hkeys hk
      rw [hp, hs]
      refine h.free t ht fun ⟨r, hr, hm, hrt⟩ => hsh ⟨r, hr, ?_, hrt⟩
      have hv : r.view ≠ s.view := fun hv => hk (hrt.symm.trans (fnv1a_congr hv))
      rwa [Function.update_of_ne hv]
  · rw [hframe _ (Key_p_ne_last s).symm (Key_s_ne_last s).symm, h.last]

/-- The binding an accepted save makes is the one its fields hold. -/
theorem Refines.binds_saved (h : Refines f m) (ha : Accepts f st u c) :
    Binds (saved f st u) st.connection.ssid st (m.updated st.connection.ssid u) := by
  rcases ha.updated with ⟨hi, st', hl⟩ | ⟨hi, rfl⟩ | ⟨hi, -, rfl⟩
  · -- kept: the loaded credentials are the ones bound before, and they are not empty
    have hsec := secured_of_matched ha.matched (hi ▸ by decide)
    obtain ⟨d, hd, -⟩ := hl.settings
    obtain ⟨st₀, c₀, hm⟩ := h.bound_of_owned ha.owned (by simp [hd])
    have hb := h.bound _ st₀ c₀ ha.owned.valid hm
    obtain ⟨-, rfl⟩ := hl.unique (hb.loads ha.owned.valid)
    have hsec₀ : st₀.connection.security ≠ .kOpen := by
      intro ho
      rw [hb.bare ho] at ha
      exact size_ne_zero_of_secured ha.ok hsec rfl
    have hc₀ : m.updated st.connection.ssid u = c₀ := by simp [Bindings.updated, hi, hm]
    have hk : u.intent ≠ .kReplace := hi ▸ by decide
    have hk' : u.intent ≠ .kClear := hi ▸ by decide
    rw [hc₀]
    refine ⟨rfl, ?_, fun ho => absurd ho hsec, saved_settings f st u, ?_⟩
    · rw [← Validate_trim _ (size_le_of_Validate hb.valid), ha.ok]
    · rw [saved_secret, if_neg hk', if_neg hk, hb.secret, secretField, secretField,
        if_neg hsec₀, if_neg hsec]
  · have hsec := secured_of_matched ha.matched (hi ▸ by decide)
    have hk : u.intent ≠ .kKeep := hi ▸ by decide
    have hk' : u.intent ≠ .kClear := hi ▸ by decide
    have hc : m.updated st.connection.ssid u = u.replacement := by
      rw [Bindings.updated, if_neg hk, if_pos hi]
    rw [hc]
    refine ⟨rfl, ha.ok, fun ho => absurd ho hsec, saved_settings f st u, ?_⟩
    rw [saved_secret, if_neg hk', if_pos hi, secretField, if_neg hsec]
  · have hk : u.intent ≠ .kKeep := hi ▸ by decide
    have hk' : u.intent ≠ .kReplace := hi ▸ by decide
    have hc : m.updated st.connection.ssid u = {} := by
      rw [Bindings.updated, if_neg hk, if_neg hk']
    have ho : st.connection.security = .kOpen := by
      by_contra ho
      exact size_ne_zero_of_secured ha.ok ho rfl
    rw [hc]
    refine ⟨rfl, ha.ok, fun _ => rfl, saved_settings f st u, ?_⟩
    rw [saved_secret, if_pos hi, secretField, if_pos ho]

theorem Binds.rename {t : Ssid} (h : Binds f s st c) (hs : s.Valid) (ht : t.Valid)
    (hv : t.view = s.view) : Binds f t st c := by
  refine ⟨h.view.trans hv.symm, h.valid, h.bare, ?_, ?_⟩
  · rw [Key_congr hv, h.settings]
  · rw [Key_congr hv, h.secret, secretField, secretField,
      EncodeSecret_congr ht hs hv (size_le_of_Validate h.valid)]

theorem Refines.save (h : Refines f m) (ha : Accepts f st u c) :
    Refines (saved f st u) (m.accept (.save st u)) := by
  refine h.update ha.owned (fun k hp hs => saved_of_ne hp hs) ?_ (fun hb => by cases hb)
  intro t st' c' ht hv hb
  cases hb
  exact (h.binds_saved ha).rename ha.owned.valid ht hv

theorem Refines.remove (h : Refines f m) (ho : Owned f s) :
    Refines (withoutRecords f s) (m.accept (.remove s)) := by
  refine h.update ho (fun k hp hs => ?_) (fun _ _ _ _ _ hb => by cases hb) fun _ => ?_
  · rw [withoutRecords, commit_of_ne hs, commit_of_ne hp]
  · rw [withoutRecords, commit_of_ne (Key_p_ne_s s s), commit_same, commit_same]
    exact ⟨rfl, rfl⟩

/-- **One call.** An accepted call changes fields and bindings together, a
rejected one changes neither. -/
theorem Refines.exec (h : Refines f m) (call : StoreCall) :
    Refines (exec e (f, m) call).1 (exec e (f, m) call).2 ∧
      ((run e.1 call.prog f).1 ≠ .kOk → (run e.1 call.prog f).2 = f) := by
  cases call with
  | save st u =>
    rcases run_saveProfile (e := e) f st u with ⟨c, ha, hr⟩ | ⟨hne, hf⟩
    · refine ⟨?_, fun hne => absurd ?_ hne⟩
      · simp only [RooWifi.exec, StoreCall.prog, hr, if_true]
        exact h.save ha
      · rw [StoreCall.prog, hr]
    · refine ⟨?_, fun _ => hf⟩
      simpa only [RooWifi.exec, StoreCall.prog, hf, hne, if_false] using h
  | remove s =>
    by_cases ho : Owned f s
    · have hlast : withoutRecords f s kLastSsid = none := by rw [withoutRecords_last, h.last]
      have hr := (run_removeProfile (e := e) ho).trans (run_forgetLast_none hlast)
      refine ⟨?_, fun hne => absurd ?_ hne⟩
      · simp only [RooWifi.exec, StoreCall.prog, hr, if_true]
        exact h.remove ho
      · rw [StoreCall.prog, hr]
    · obtain ⟨hne, hf⟩ := run_removeProfile_rejected (e := e) ho
      refine ⟨?_, fun _ => hf⟩
      simpa only [RooWifi.exec, StoreCall.prog, hf, hne, if_false] using h

/-! ## Loading -/

theorem run_read_missing (hs : s.Valid) (hp : f (Key 'p' s) = none) :
    (run e.1 (FieldStore.read s) f).1 = .error .kNotFound := by
  simp only [FieldStore.read, hs, not_true_eq_false, if_false, readField, Prog.bind_eq, Prog.bind, run,
    answer_missing e.1 hp, e.2]

theorem run_read_collision (hs : s.Valid) {d : List UInt8} {p : ProfileSettings}
    (hd : f (Key 'p' s) = some d) (hlen : d.length ≤ kMaxProfileSize)
    (hp : DecodeProfile d = .ok p) (ho : p.connection.ssid.eq s = false) :
    (run e.1 (FieldStore.read s) f).1 = .error .kHashCollision := by
  simp only [FieldStore.read, hs, not_true_eq_false, if_false, readField, Prog.bind_eq, Prog.bind, run,
    answer_ok e.1 hd hlen, hp, ho, Bool.not_false, if_true]

/-- An unbound SSID reads as absent, or as colliding when it is shadowed. -/
theorem Refines.run_read_absent (h : Refines f m) (hs : s.Valid) (hm : m s.view = none) :
    (run e.1 (FieldStore.read s) f).1 = .error (m.absent s) := by
  by_cases hsh : m.Shadowed s
  · rw [Bindings.absent, if_pos hsh]
    obtain ⟨t, ht, hmt, hk⟩ := hsh
    obtain ⟨⟨st, c⟩, hmt⟩ := Option.ne_none_iff_exists'.mp hmt
    have hb := h.bound t st c ht hmt
    have hv := valid_of_Validate hb.valid
    refine run_read_collision hs (d := EncodeProfile st) ?_ (length_EncodeProfile hv)
      (DecodeProfile_EncodeProfile hv) ?_
    · rw [← Key_inj.mpr hk, hb.settings]
    · by_contra hne
      have hview := Ssid.view_of_eq (Bool.not_eq_false _ ▸ hne)
      have : t.view = s.view := hb.view.symm.trans ((Ssid.view_trim hv.2).symm.trans hview)
      rw [this, hm] at hmt
      cases hmt
  · rw [Bindings.absent, if_neg hsh, run_read_missing hs (h.free s hs hsh).1]

theorem Refines.loads (h : Refines f m) (hs : s.Valid) :
    (run e.1 (loadProfile s) f).1 = m.loadProfile s ∧
      (run e.1 (loadCredentials s) f).1 = m.loadCredentials s := by
  rw [Bindings.loadProfile, Bindings.loadCredentials]
  rcases hm : m s.view with _ | ⟨st, c⟩
  · exact run_load_error (h.run_read_absent hs hm)
  · have hl := (h.bound s st c hs hm).loads hs
    exact ⟨run_loadProfile.mpr ⟨_, hl, rfl⟩, run_loadCredentials.mpr ⟨_, hl⟩⟩

/-! ## No record is reported as corrupt -/

theorem Refines.checkSecretIdentity_ne (h : Refines f m) (hs : s.Valid) :
    (run e.1 (checkSecretIdentity s) f).1 ≠ .kCorrupt := by
  by_cases hsh : m.Shadowed s
  · obtain ⟨t, ht, hmt, hk⟩ := hsh
    obtain ⟨⟨st, c⟩, hmt⟩ := Option.ne_none_iff_exists'.mp hmt
    have hb := h.bound t st c ht hmt
    have hf : f (Key 's' s) = secretField t st c := by rw [← Key_inj.mpr hk, hb.secret]
    unfold secretField at hf
    split at hf
    · rw [run_checkSecretIdentity (.inl hf)]
      decide
    · have hc := size_le_of_Validate hb.valid
      simp only [checkSecretIdentity, readField, Prog.bind_eq, Prog.bind, run,
        answer_ok e.1 hf (length_EncodeSecret ht hc), DecodeSecret_EncodeSecret ht hc]
      split <;> decide
  · rw [run_checkSecretIdentity (.inl (h.free s hs hsh).2)]
    decide

theorem Refines.checkIdentity_ne (h : Refines f m) (s : Ssid) :
    (run e.1 (checkIdentity s) f).1 ≠ .kCorrupt := by
  by_cases hs : s.Valid
  · have hsec := h.checkSecretIdentity_ne (e := e) hs
    by_cases hsh : m.Shadowed s
    · obtain ⟨t, ht, hmt, hk⟩ := hsh
      obtain ⟨⟨st, c⟩, hmt⟩ := Option.ne_none_iff_exists'.mp hmt
      have hb := h.bound t st c ht hmt
      have hv := valid_of_Validate hb.valid
      have hf : f (Key 'p' s) = some (EncodeProfile st) := by rw [← Key_inj.mpr hk, hb.settings]
      have hlen : (EncodeProfile st).length ≤ kMaxSecretSize :=
        (length_EncodeProfile hv).trans (by decide)
      simp only [checkIdentity, hs, not_true_eq_false, if_false, readField, Prog.bind_eq,
        Prog.bind, run, answer_ok e.1 hf hlen, DecodeProfile_EncodeProfile hv]
      split
      · exact Status.noConfusion
      · exact hsec
    · simp only [checkIdentity, hs, not_true_eq_false, if_false, readField, Prog.bind_eq,
        Prog.bind, run, answer_missing e.1 (h.free s hs hsh).1, e.2, if_true]
      exact hsec
  · simp only [checkIdentity, hs, not_false_eq_true, if_true, run]
    exact Status.noConfusion

theorem Bindings.absent_ne (m : Bindings) (s : Ssid) : m.absent s ≠ .kCorrupt := by
  unfold Bindings.absent
  split <;> decide

theorem Refines.updatedCredentials_ne (h : Refines f m) (hs : s.Valid) (u : CredentialUpdate) :
    (run e.1 (updatedCredentials s u) f).1 ≠ .error .kCorrupt := by
  unfold updatedCredentials
  split
  · rw [(h.loads hs).2, Bindings.loadCredentials]
    split
    · exact fun hc => by cases hc
    · exact fun hc => m.absent_ne s (Except.error.inj hc)
  split
  · exact fun hc => by cases hc
  split
  · simp only [run]
    split <;> exact fun hc => by cases hc
  · exact fun hc => by cases hc

theorem Refines.admitSave_ne (h : Refines f m) (st : ProfileSettings) (u : CredentialUpdate) :
    (run e.1 (admitSave st u) f).1 ≠ .error .kCorrupt := by
  rw [admitSave, Prog.bind_eq, run_bind_readOnly e.1 (readOnly_checkIdentity _)]
  split
  · exact fun hc => h.checkIdentity_ne (e := e) _ (Except.error.inj hc)
  rename_i hid
  have hs := (run_checkIdentity_iff.mp (not_not.mp hid)).valid
  split
  · exact fun hc => by cases hc
  rw [Prog.bind_eq, run_bind_readOnly e.1 (readOnly_updatedCredentials _ _)]
  have hu := h.updatedCredentials_ne (e := e) hs u
  split
  · rename_i status hr
    exact fun hc => hu (hr.trans hc)
  · simp only [run]
    split
    · exact fun hc => Validate_ne_corrupt _ _ (Except.error.inj hc)
    · exact fun hc => by cases hc

theorem Refines.call_ne_corrupt (h : Refines f m) (call : StoreCall) :
    (run e.1 call.prog f).1 ≠ .kCorrupt := by
  cases call with
  | save st u =>
    have ha := h.admitSave_ne (e := e) st u
    rcases run_saveProfile (e := e) f st u with ⟨c, -, hr⟩ | -
    · rw [StoreCall.prog, hr]
      exact Status.noConfusion
    · rw [StoreCall.prog, saveProfile, Prog.bind_eq, run_bind_readOnly e.1 (readOnly_admitSave _ _)]
      split
      · rename_i status hr
        exact fun hc => ha (hr.trans (congrArg _ hc))
      · rename_i c hr
        rw [run_saveRecords (run_admitSave.mp hr).updated.replaced]
        exact Status.noConfusion
  | remove s =>
    by_cases ho : Owned f s
    · have hlast : withoutRecords f s kLastSsid = none := by rw [withoutRecords_last, h.last]
      rw [StoreCall.prog, run_removeProfile ho, run_forgetLast_none hlast]
      exact Status.noConfusion
    · have hne : (run e.1 (removeRecords s) f).1 ≠ .kOk := fun hk => ho (run_removeRecords_iff.mp hk)
      rw [StoreCall.prog, removeProfile, Prog.bind_eq, run_bind, if_pos hne, removeRecords,
        Prog.bind_eq, run_bind_readOnly e.1 (readOnly_checkIdentity s)]
      have hid : (run e.1 (checkIdentity s) f).1 ≠ .kOk := fun hk => ho (run_checkIdentity_iff.mp hk)
      rw [if_pos hid]
      exact h.checkIdentity_ne s

/-! ## Runs -/

theorem refines_empty : Refines (fun _ => none) Bindings.empty where
  bound := fun _ _ _ _ hm => absurd hm (by simp [Bindings.empty])
  free := fun _ _ _ => ⟨rfl, rfl⟩
  last := rfl

/-- The fields and the bindings after a sequence of calls on an empty store. -/
def afterCalls (e : BackendErrors) (calls : List StoreCall) : FieldMap × Bindings :=
  Machine.run (exec e) (fun _ => none, Bindings.empty) calls

theorem refines_afterCalls (e : BackendErrors) (calls : List StoreCall) :
    Refines (afterCalls e calls).1 (afterCalls e calls).2 :=
  Machine.run_invariant_all (I := fun x : FieldMap × Bindings => Refines x.1 x.2)
    (fun _ call h => (h.exec call).1) refines_empty calls

/-- Calls about other SSIDs bind nothing. -/
theorem afterCalls_other (e : BackendErrors) {calls : List StoreCall} {key : List UInt8}
    (others : ∀ call ∈ calls, key ≠ call.ssid.view) : (afterCalls e calls).2 key = none := by
  refine Machine.run_invariant_inputs (I := fun x : FieldMap × Bindings => x.2 key = none)
    (R := fun call : StoreCall => key ≠ call.ssid.view) (fun x call other unbound => ?_) rfl others
  unfold exec
  dsimp only
  split
  · cases call with
    | save => exact (Function.update_of_ne other _ _).trans unbound
    | remove => exact (Function.update_of_ne other _ _).trans unbound
  · exact unbound

/-- **`FieldStore` refines a finite map.** After any sequence of saves and
removals from an empty store, loads return what the map binds; a rejected call
changes nothing, and no call or load reports a record as corrupt. -/
theorem fieldStore_refines_map (e : BackendErrors) (calls : List StoreCall) :
    (∀ s : Ssid, s.Valid →
      (run e.1 (loadProfile s) (afterCalls e calls).1).1 =
          (afterCalls e calls).2.loadProfile s ∧
        (run e.1 (loadCredentials s) (afterCalls e calls).1).1 =
          (afterCalls e calls).2.loadCredentials s ∧
        (run e.1 (loadProfile s) (afterCalls e calls).1).1 ≠ .error .kCorrupt) ∧
      ∀ call : StoreCall,
        ((run e.1 call.prog (afterCalls e calls).1).1 ≠ .kOk →
          (run e.1 call.prog (afterCalls e calls).1).2 = (afterCalls e calls).1) ∧
        (run e.1 call.prog (afterCalls e calls).1).1 ≠ .kCorrupt := by
  have h := refines_afterCalls e calls
  refine ⟨fun s hs => ?_, fun call => ⟨(h.exec call).2, h.call_ne_corrupt call⟩⟩
  obtain ⟨hp, hc⟩ := h.loads (e := e) hs
  refine ⟨hp, hc, ?_⟩
  rw [hp, Bindings.loadProfile]
  split
  · exact fun hk => by cases hk
  · exact fun hk => Bindings.absent_ne _ s (Except.error.inj hk)

/-- The WPA2 network is saved with its passphrase, and then saved as hidden with
the passphrase kept. -/
def TestSaves : List StoreCall :=
  [.save TestWpa2 { intent := .kReplace, replacement := TestPassphrase },
    .save { connection := { TestWpa2.connection with hidden := true } }
      { intent := .kKeep }]

/-- Both saves are accepted and read back; so is the removal that follows. -/
theorem fieldStore_refines_map_test :
    ((run MemoryStore.1 (loadProfile TestConfig.ssid) (afterCalls MemoryStore TestSaves).1).1 =
        .ok { settings := { connection := { TestWpa2.connection with hidden := true } }
              hasCredentials := true } ∧
      (run MemoryStore.1 (loadCredentials TestConfig.ssid)
        (afterCalls MemoryStore TestSaves).1).1 = .ok TestPassphrase) ∧
    (run MemoryStore.1 (loadProfile TestConfig.ssid)
        (afterCalls MemoryStore (TestSaves ++ [.remove TestConfig.ssid])).1).1 =
      .error .kNotFound := by
  have named : TestConfig.ssid.Valid := by decide
  have saved : (afterCalls MemoryStore TestSaves).2 TestConfig.ssid.view =
      some ({ connection := { TestWpa2.connection with hidden := true } },
        TestPassphrase) := by decide +kernel
  obtain ⟨profile, credentials, -⟩ :=
    (fieldStore_refines_map MemoryStore TestSaves).1 TestConfig.ssid named
  refine ⟨⟨profile.trans ?_, credentials.trans ?_⟩, ?_⟩
  · rw [Bindings.loadProfile, saved]
    decide +kernel
  · rw [Bindings.loadCredentials, saved]
    decide +kernel
  · obtain ⟨removed, -, -⟩ := (fieldStore_refines_map MemoryStore
      (TestSaves ++ [.remove TestConfig.ssid])).1 TestConfig.ssid named
    have unbound (key : List UInt8) :
        (afterCalls MemoryStore (TestSaves ++ [.remove TestConfig.ssid])).2 key = none := by
      by_cases same : key = TestConfig.ssid.view
      · rw [same]
        decide +kernel
      · refine afterCalls_other MemoryStore fun call mem => ?_
        simp only [TestSaves, List.cons_append, List.nil_append, List.mem_cons,
          List.not_mem_nil, or_false] at mem
        rcases mem with rfl | rfl | rfl <;> exact same
    rw [removed, Bindings.loadProfile, unbound, Bindings.absent, if_neg]
    rintro ⟨t, -, bound, -⟩
    exact bound (unbound _)

end RooWifi
