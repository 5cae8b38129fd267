import RooWifi.Store.Load

/-! # What saving and removing return and leave

Both make all their checks before the first mutation and then commit updates
of a fixed footprint, in a fixed order. -/
namespace RooWifi

open Storage FieldStore

namespace FieldStore

variable {e : BackendErrors} {fails : ReadError → Prop} {f g : FieldMap} {s : Ssid}
  {st : ProfileSettings} {u : CredentialUpdate} {c : Credentials}

/-! ## Writing -/

theorem run_writeVerified (key : FieldKey) (d : List UInt8) (capacity : Nat) (f : FieldMap) :
    run e.1 (writeVerified key d capacity) f = (.kOk, commit f key (some d)) := by
  simp only [writeVerified, readField, writeField, Prog.bind_eq, Prog.bind, run]
  split
  · rename_i h
    have hd := (ReadOutcome.of_ok e.1 (fun _ => False) (.inl h.symm)).1
    rw [run, ← hd, commit, Function.update_eq_self]
  · rfl

/-- Nothing is written where the bytes are there already. -/
theorem mutations_writeVerified {key : FieldKey} {d : List UInt8} {capacity : Nat}
    (h : f key = some d) (hd : d.length ≤ capacity) :
    mutations e.1 (writeVerified key d capacity) f = [] := by
  simp only [writeVerified, readField, writeField, Prog.bind_eq, Prog.bind, mutations,
    answer_ok e.1 h hd, if_true]

theorem within_writeVerified {S : Set (FieldKey × Option (List UInt8))} {key : FieldKey}
    {d : List UInt8} {capacity : Nat} (h : (key, some d) ∈ S) :
    Within S (writeVerified key d capacity) := by
  refine within_bind (readOnly_readField _ _).within fun r => ?_
  split
  · trivial
  refine within_bind (p := writeField key d) ⟨h, fun _ => trivial⟩ fun ok => ?_
  split
  · trivial
  · exact (readOnly_resolveWrite _ _ _).within

theorem returns_writeVerified (key : FieldKey) (d : List UInt8) (capacity : Nat) :
    Returns (· ≠ .kHashCollision) (writeVerified key d capacity) := by
  refine returns_bind (returns_true _) fun r _ => ?_
  split
  · exact Status.noConfusion
  refine returns_bind (returns_true _) fun ok _ => ?_
  split
  · exact Status.noConfusion
  refine returns_bind (returns_true _) fun r _ => ?_
  split <;> (simp only [Returns]; split <;> exact Status.noConfusion)

/-! ## Saving -/

/-- The credentials an update settles on. -/
def Updated (f : FieldMap) (s : Ssid) (u : CredentialUpdate) (c : Credentials) : Prop :=
  (u.intent = .kKeep ∧ ∃ st, Loads f s st c) ∨ (u.intent = .kReplace ∧ c = u.replacement) ∨
    (u.intent = .kClear ∧ u.replacement.size = 0 ∧ c = {})

/-- The fields let a save through, with the credentials `c`. -/
structure Accepts (f : FieldMap) (st : ProfileSettings) (u : CredentialUpdate)
    (c : Credentials) : Prop where
  owned : Owned f st.connection.ssid
  matched : mismatched st u = false
  updated : Updated f st.connection.ssid u c
  ok : Validate st.connection c = .kOk

/-- The fields a completed save leaves. -/
def saved (f : FieldMap) (st : ProfileSettings) (u : CredentialUpdate) : FieldMap :=
  let s := st.connection.ssid
  let f := if u.intent = .kReplace then commit f (Key 's' s) (some (EncodeSecret s u.replacement))
    else f
  let f := commit f (Key 'p' s) (some (EncodeProfile st))
  if u.intent = .kClear then commit f (Key 's' s) none else f

theorem saved_of_ne {k : FieldKey} (hp : k ≠ Key 'p' st.connection.ssid)
    (hs : k ≠ Key 's' st.connection.ssid) : saved f st u k = f k := by
  unfold saved
  split <;> split <;> simp only [commit_of_ne hp, commit_of_ne hs]

theorem saved_settings (f : FieldMap) (st : ProfileSettings) (u : CredentialUpdate) :
    saved f st u (Key 'p' st.connection.ssid) = some (EncodeProfile st) := by
  unfold saved
  split <;> simp only [commit_of_ne (Key_p_ne_s _ _), commit_same]

theorem saved_secret (f : FieldMap) (st : ProfileSettings) (u : CredentialUpdate) :
    saved f st u (Key 's' st.connection.ssid) =
      if u.intent = .kClear then none
      else if u.intent = .kReplace then some (EncodeSecret st.connection.ssid u.replacement)
      else f (Key 's' st.connection.ssid) := by
  unfold saved
  split
  · rw [commit_same]
  · rw [commit_of_ne (Key_s_ne_p _ _)]
    split
    · rw [commit_same]
    · rfl

/-- Only a clearing save is of an open network. -/
theorem secured_of_matched (h : mismatched st u = false) (hi : u.intent ≠ .kClear) :
    st.connection.security ≠ .kOpen := by
  intro ho
  simp [mismatched, ho, hi] at h

/-- The updates a save may commit. -/
def saveFootprint (st : ProfileSettings) (u : CredentialUpdate) :
    Set (FieldKey × Option (List UInt8)) :=
  { m | m = (Key 'p' st.connection.ssid, some (EncodeProfile st)) ∨
    u.intent = .kReplace ∧
      m = (Key 's' st.connection.ssid, some (EncodeSecret st.connection.ssid u.replacement)) ∨
    u.intent = .kClear ∧ m = (Key 's' st.connection.ssid, none) }

theorem readOnly_admitSave (st : ProfileSettings) (u : CredentialUpdate) :
    ReadOnly (admitSave st u) := by
  refine within_bind (readOnly_checkIdentity _) fun identity => ?_
  split
  · trivial
  split
  · trivial
  refine within_bind (readOnly_updatedCredentials _ _) fun r => ?_
  split <;> trivial

theorem updated_of_exec {c : Credentials}
    (h : Exec e.1 fails (updatedCredentials s u) f (.ok c) g) : Updated f s u c := by
  unfold updatedCredentials at h
  split at h
  · rename_i hi
    obtain ⟨r, hr, h⟩ := exec_bind_readOnly e.1 fails (readOnly_read s) h
    split at h
    · cases h.1
    · rename_i st c' 
      cases h.1
      exact .inl ⟨hi, st, loads_of_exec hr⟩
  split at h
  · rename_i hi
    cases h.1
    exact .inr (.inl ⟨hi, rfl⟩)
  split at h
  · rename_i hi
    have h := h.1
    split at h
    · cases h
    · rename_i hs
      cases h
      exact .inr (.inr ⟨hi, not_not.mp hs, rfl⟩)
  · cases h.1

theorem exec_admitSave {c : Credentials} (h : Exec e.1 fails (admitSave st u) f (.ok c) g) :
    Exec e.1 fails (checkIdentity st.connection.ssid) f .kOk f ∧ mismatched st u = false ∧
      Updated f st.connection.ssid u c ∧ Validate st.connection c = .kOk := by
  obtain ⟨identity, hi, h⟩ := exec_bind_readOnly e.1 fails (readOnly_checkIdentity _) h
  split at h
  · cases h.1
  rename_i hid
  cases not_not.mp hid
  split at h
  · cases h.1
  rename_i hm
  obtain ⟨r, hr, h⟩ := exec_bind_readOnly e.1 fails (readOnly_updatedCredentials _ _) h
  split at h
  · cases h.1
  have h := h.1
  split at h
  · cases h
  rename_i hv
  cases h
  exact ⟨hi, by simpa using hm, updated_of_exec hr, not_not.mp hv⟩

theorem accepts_of_exec (hf : ¬ fails e.1.missing) {c : Credentials}
    (h : Exec e.1 fails (admitSave st u) f (.ok c) g) : Accepts f st u c := by
  obtain ⟨hi, hm, hu, hv⟩ := exec_admitSave h
  exact ⟨owned_of_exec hf hi, hm, hu, hv⟩

theorem Updated.replaced {c : Credentials} (h : Updated f s u c) (hi : u.intent = .kReplace) :
    c = u.replacement := by
  rcases h with ⟨hi', -⟩ | ⟨-, hc⟩ | ⟨hi', -⟩
  · exact absurd (hi.symm.trans hi') (by decide)
  · exact hc
  · exact absurd (hi.symm.trans hi') (by decide)

theorem run_updatedCredentials {c : Credentials} (h : Updated f s u c) :
    (run e.1 (updatedCredentials s u) f).1 = .ok c := by
  rcases h with ⟨hi, hl⟩ | ⟨hi, rfl⟩ | ⟨hi, hs, rfl⟩
  · simp only [updatedCredentials, hi, if_true, run_loadCredentials.mpr hl]
  · simp [updatedCredentials, hi, CredentialIntent.kReplace, CredentialIntent.kKeep, run]
  · simp [updatedCredentials, hi, hs, CredentialIntent.kReplace, CredentialIntent.kKeep,
      CredentialIntent.kClear, run]

theorem run_admitSave {c : Credentials} :
    (run e.1 (admitSave st u) f).1 = .ok c ↔ Accepts f st u c := by
  constructor
  · intro h
    have := exec_run e.1 (fun _ => False) (admitSave st u) f
    rw [h] at this
    exact accepts_of_exec id this
  · intro h
    rw [admitSave, Prog.bind_eq, run_bind_readOnly e.1 (readOnly_checkIdentity _),
      run_checkIdentity h.owned]
    simp only [ne_eq, not_true_eq_false, if_false, h.matched, Bool.false_eq_true, Prog.bind_eq]
    rw [run_bind_readOnly e.1 (readOnly_updatedCredentials _ _), run_updatedCredentials h.updated]
    simp only [run, h.ok, not_true_eq_false, if_false]

theorem run_clearSecret (s : Ssid) (f : FieldMap) :
    run e.1 (clearSecret s) f = (.kOk, commit f (Key 's' s) none) := by
  simp only [clearSecret, readField, eraseField, Prog.bind_eq, Prog.bind, run]
  split
  · split
    · rename_i err ha hm
      cases eq_missing (e := e) hm
      have := ReadOutcome.of_missing e.1 (fun _ => False) id (.inl ha.symm)
      rw [run, ← this, commit, Function.update_eq_self]
    · rfl
  · rfl

theorem run_saveSettings (st : ProfileSettings) (intent : CredentialIntent) (f : FieldMap) :
    run e.1 (saveSettings st intent) f =
      (.kOk,
        if intent = .kClear then
          commit (commit f (Key 'p' st.connection.ssid) (some (EncodeProfile st)))
            (Key 's' st.connection.ssid) none
        else commit f (Key 'p' st.connection.ssid) (some (EncodeProfile st))) := by
  simp only [saveSettings, Prog.bind_eq, run_bind, run_writeVerified, ne_eq, not_true_eq_false,
    if_false]
  split
  · rw [run_clearSecret]
  · rfl

theorem run_saveRecords {c : Credentials} (hc : u.intent = .kReplace → c = u.replacement)
    (f : FieldMap) : run e.1 (saveRecords st u.intent c) f = (.kOk, saved f st u) := by
  unfold saveRecords saved
  split
  · rename_i hi
    simp only [Prog.bind_eq, run_bind, run_writeVerified, ne_eq, not_true_eq_false, if_false,
      run_saveSettings, hc hi]
  · simp only [run_saveSettings]

/-- A save over a reliable backend either succeeds and leaves `saved`, or
fails and changes nothing. -/
theorem run_saveProfile (f : FieldMap) (st : ProfileSettings) (u : CredentialUpdate) :
    (∃ c, Accepts f st u c ∧ run e.1 (saveProfile st u) f = (.kOk, saved f st u)) ∨
      (run e.1 (saveProfile st u) f).1 ≠ .kOk ∧ (run e.1 (saveProfile st u) f).2 = f := by
  rw [saveProfile, Prog.bind_eq, run_bind_readOnly e.1 (readOnly_admitSave st u)]
  rcases hr : (run e.1 (admitSave st u) f).1 with status | c
  · have := run_returns e.1 (returns_admitSave st u) f
    rw [hr] at this
    exact .inr ⟨fun hk => this (congrArg _ hk), rfl⟩
  · have h := run_admitSave.mp hr
    exact .inl ⟨c, h, run_saveRecords h.updated.replaced f⟩

theorem run_saveProfile_ok {f g : FieldMap} :
    run e.1 (saveProfile st u) f = (.kOk, g) ↔ ∃ c, Accepts f st u c ∧ g = saved f st u := by
  constructor
  · intro h
    rcases run_saveProfile (e := e) f st u with ⟨c, hc, hr⟩ | ⟨hne, -⟩
    · exact ⟨c, hc, congrArg Prod.snd (h.symm.trans hr)⟩
    · exact absurd (congrArg Prod.fst h) hne
  · rintro ⟨c, hc, rfl⟩
    rw [saveProfile, Prog.bind_eq, run_bind_readOnly e.1 (readOnly_admitSave st u),
      run_admitSave.mpr hc]
    exact run_saveRecords hc.updated.replaced f

theorem within_saveSettings :
    Within (saveFootprint st u) (saveSettings st u.intent) := by
  refine within_bind (within_writeVerified (.inl rfl)) fun status => ?_
  split
  · trivial
  split
  · rename_i hi
    have hmem : (Key 's' st.connection.ssid, none) ∈ saveFootprint st u := .inr (.inr ⟨hi, rfl⟩)
    refine within_bind (readOnly_readField _ _).within fun r => ?_
    split
    · split
      · trivial
      · exact ⟨hmem, fun _ => trivial⟩
    · exact ⟨hmem, fun _ => trivial⟩
  · trivial

theorem within_saveRecords {c : Credentials} (hc : u.intent = .kReplace → c = u.replacement) :
    Within (saveFootprint st u) (saveRecords st u.intent c) := by
  unfold saveRecords
  split
  · rename_i hi
    refine within_bind (within_writeVerified ?_) fun status => ?_
    · rw [hc hi]
      exact .inr (.inl ⟨hi, rfl⟩)
    · split
      · trivial
      · exact within_saveSettings
  · exact within_saveSettings

/-- **Footprint of a save.** -/
theorem reach_saveProfile (hr : Reach e.1 fails (saveProfile st u) f g) :
    Between (saveFootprint st u) f g := by
  rcases reach_bind_readOnly e.1 fails (readOnly_admitSave st u) hr with rfl | ⟨r, hx, hr⟩
  · exact between_refl _
  rcases r with status | c
  · cases hr
    exact between_refl _
  · obtain ⟨-, -, hu, -⟩ := exec_admitSave hx
    exact reach_between e.1 fails (within_saveRecords hu.replaced) (between_refl f) hr

/-! ## Removing -/

/-- The stored selection, where one can be read. -/
def Selection (f : FieldMap) (t : Ssid) : Prop :=
  ∃ d, f kLastSsid = some d ∧ d.length ≤ 33 ∧ decodeLast d = .ok t

/-- The records of `s` are gone. -/
def withoutRecords (f : FieldMap) (s : Ssid) : FieldMap :=
  commit (commit f (Key 'p' s) none) (Key 's' s) none

theorem run_removeRecords (h : Owned f s) :
    run e.1 (removeRecords s) f = (.kOk, withoutRecords f s) := by
  rw [removeRecords, Prog.bind_eq, run_bind_readOnly e.1 (readOnly_checkIdentity s),
    run_checkIdentity h]
  rfl

theorem run_removeRecords_iff :
    (run e.1 (removeRecords s) f).1 = .kOk ↔ Owned f s := by
  refine ⟨fun h => run_checkIdentity_iff (e := e).mp ?_, fun h => by rw [run_removeRecords h]⟩
  rw [removeRecords, Prog.bind_eq, run_bind_readOnly e.1 (readOnly_checkIdentity s)] at h
  by_contra hne
  rw [if_pos hne] at h
  exact hne h

theorem exec_removeRecords {x : Status} (h : Exec e.1 fails (removeRecords s) f x g) :
    (Exec e.1 fails (checkIdentity s) f x f ∧ x ≠ .kOk ∧ g = f) ∨
      (Exec e.1 fails (checkIdentity s) f .kOk f ∧ (x = .kOk ∨ x = .kStorageFailure)) := by
  obtain ⟨identity, hi, h⟩ := exec_bind_readOnly e.1 fails (readOnly_checkIdentity s) h
  split at h
  · rename_i hne
    obtain ⟨rfl, rfl⟩ := h
    exact .inl ⟨hi, hne, rfl⟩
  rename_i hne
  cases not_not.mp hne
  refine .inr ⟨hi, ?_⟩
  obtain ⟨ok, i, -, h⟩ := h
  dsimp only [Prog.bind] at h
  split at h
  · exact .inr h.1
  obtain ⟨ok, i, -, h⟩ := h
  obtain ⟨rfl, -⟩ := h
  cases ok
  · exact .inr rfl
  · exact .inl rfl

/-- A removal of the records that succeeds has erased both. -/
theorem exec_removeRecords_done (h : Exec e.1 fails (removeRecords s) f .kOk g) :
    g = withoutRecords f s := by
  obtain ⟨identity, -, h⟩ := exec_bind_readOnly e.1 fails (readOnly_checkIdentity s) h
  split at h
  · rename_i failed
    exact absurd h.1.symm failed
  obtain ⟨ok, i, first, h⟩ := h
  dsimp only [Prog.bind] at h
  split at h
  · exact Status.noConfusion h.1
  rename_i erased
  have erased : ok = true := by simpa using erased
  subst erased
  obtain ⟨ok, j, second, h⟩ := h
  cases ok with
  | true =>
    obtain ⟨-, rfl⟩ := h
    cases second.committed
    cases first.committed
    rfl
  | false => exact Status.noConfusion h.1

/-- The updates of the two erases. -/
def recordErasures (s : Ssid) : Set (FieldKey × Option (List UInt8)) :=
  {(Key 'p' s, none), (Key 's' s, none)}

theorem within_removeRecords (s : Ssid) : Within (recordErasures s) (removeRecords s) := by
  refine within_bind (readOnly_checkIdentity s).within fun identity => ?_
  split
  · trivial
  refine ⟨.inl rfl, fun ok => ?_⟩
  dsimp only [Prog.bind]
  split
  · trivial
  · exact ⟨.inr rfl, fun _ => trivial⟩

theorem decodeLast_error {d : List UInt8} {status : Status} (h : decodeLast d = .error status) :
    status = .kCorrupt := by
  unfold decodeLast at h
  repeat' split at h
  all_goals first | exact (Except.error.inj h).symm | cases h

theorem run_forgetLast_none (h : f kLastSsid = none) :
    run e.1 (forgetLast s) f = (.kOk, f) := by
  simp only [forgetLast, readLastProfile, readField, Prog.bind_eq, Prog.bind, run,
    answer_missing e.1 h, e.2, if_true]

theorem run_forgetLast {t : Ssid} (h : Selection f t) :
    run e.1 (forgetLast s) f = (.kOk, if t.eq s then commit f kLastSsid none else f) := by
  obtain ⟨d, hd, hlen, ht⟩ := h
  simp only [forgetLast, readLastProfile, readField, Prog.bind_eq, Prog.bind, run,
    answer_ok e.1 hd hlen, ht]
  cases t.eq s <;> rfl

theorem reach_forgetLast (hr : Reach e.1 fails (forgetLast s) f g) :
    g = f ∨ ∃ t, Selection f t ∧ t.eq s = true ∧ g = commit f kLastSsid none := by
  rcases hr with rfl | ⟨r, hr, h⟩
  · exact .inl rfl
  rcases r with err | d
  · exact .inl h
  obtain ⟨hd, hlen⟩ := hr.of_ok
  rcases ht : decodeLast d with status | t
  · simp only [Prog.bind, ht] at h
    exact .inl h
  simp only [Prog.bind, ht] at h
  split at h
  · exact .inl h
  rename_i hts
  rcases h with rfl | ⟨ok, i, hi, h⟩
  · exact .inl rfl
  cases h
  rcases hi with rfl | ⟨-, rfl⟩
  · exact .inr ⟨t, ⟨d, hd, hlen, ht⟩, by simpa using hts, rfl⟩
  · exact .inl rfl

/-- The updates a removal may commit. -/
def removeFootprint (f : FieldMap) (s : Ssid) : Set (FieldKey × Option (List UInt8)) :=
  { m | m ∈ recordErasures s ∨
    (∃ t, Selection f t ∧ t.eq s = true) ∧ m = (kLastSsid, none) }

theorem Selection.congr {t : Ssid} (h : Selection f t) (hg : g kLastSsid = f kLastSsid) :
    Selection g t := by
  obtain ⟨d, hd, ht⟩ := h
  exact ⟨d, hg ▸ hd, ht⟩

theorem Selection.valid (h : Selection f s) : s.Valid := by
  obtain ⟨d, -, -, hs⟩ := h
  unfold decodeLast at hs
  split at hs
  · split at hs
    · cases hs
    rename_i hd
    simp only [not_or, gt_iff_lt, UInt8.not_lt, not_not, List.length_cons] at hd
    obtain ⟨hlong, hsize, hlen⟩ := hd
    cases hs
    refine ⟨?_, UInt8.le_iff_toNat_le.mp hsize⟩
    dsimp only
    omega
  · cases hs

/-- Only the bytes of a selection are stored. -/
theorem decodeLast_view (hs : s.Valid) :
    decodeLast (s.size :: s.view) = .ok { bytes := .load 32 s.view, size := s.size } := by
  have hlen := Ssid.length_view hs.2
  have h1 := hs.1
  have h2 : ¬ s.size > 32 := fun h => hs.size_ne (.inr h)
  simp only [decodeLast, List.length_cons, hlen]
  rw [if_neg]
  rintro (h | h | h)
  · omega
  · exact h2 h
  · exact h rfl

theorem last_notMem_recordErasures (s : Ssid) (v : Option (List UInt8)) :
    (kLastSsid, v) ∉ recordErasures s := by
  rintro (h | h)
  · exact Key_p_ne_last s (Prod.ext_iff.mp h).1.symm
  · exact Key_s_ne_last s (Prod.ext_iff.mp h).1.symm

/-- **Footprint of a removal.** -/
theorem reach_removeProfile (hr : Reach e.1 fails (removeProfile s) f g) :
    Between (removeFootprint f s) f g := by
  rcases reach_bind e.1 fails hr with h | ⟨x, i, hx, hr⟩
  · exact (reach_between e.1 fails (within_removeRecords s) (between_refl f) h).mono
      fun _ => .inl
  have hi := reach_between e.1 fails (within_removeRecords s) (between_refl f)
    (exec_reach e.1 fails hx)
  split at hr
  · cases hr
    exact hi.mono fun _ => .inl
  have hlast : i kLastSsid = f kLastSsid := hi.frame (last_notMem_recordErasures s)
  rcases reach_forgetLast hr with rfl | ⟨t, ht, hts, rfl⟩
  · exact hi.mono fun _ => .inl
  · have hi : Between (removeFootprint f s) f i := hi.mono fun _ => .inl
    exact MutationOutcome.between true hi (.inr ⟨⟨t, ht.congr hlast.symm, hts⟩, rfl⟩)
      (.inl rfl)

/-- Reads of the records do not see the last selection. -/
theorem withoutRecords_last (f : FieldMap) (s : Ssid) :
    withoutRecords f s kLastSsid = f kLastSsid := by
  rw [withoutRecords, commit_of_ne (Key_s_ne_last s).symm, commit_of_ne (Key_p_ne_last s).symm]

/-- A removal that succeeds owns the records it erases, and reads the selection. -/
theorem run_removeProfile (h : Owned f s) :
    run e.1 (removeProfile s) f = run e.1 (forgetLast s) (withoutRecords f s) := by
  rw [removeProfile, Prog.bind_eq, run_bind, run_removeRecords h]
  rfl

theorem run_removeProfile_rejected (h : ¬ Owned f s) :
    (run e.1 (removeProfile s) f).1 ≠ .kOk ∧ (run e.1 (removeProfile s) f).2 = f := by
  have hne : (run e.1 (removeRecords s) f).1 ≠ .kOk := fun hk => h (run_removeRecords_iff.mp hk)
  have hx := exec_run e.1 (fun _ => False) (removeRecords s) f
  rw [removeProfile, Prog.bind_eq, run_bind, if_pos hne]
  refine ⟨hne, ?_⟩
  rcases exec_removeRecords hx with ⟨-, -, hf⟩ | ⟨hc, -⟩
  · exact hf
  · exact absurd (owned_of_exec id hc) h

end FieldStore

end RooWifi
