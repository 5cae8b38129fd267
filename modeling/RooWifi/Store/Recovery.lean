import RooWifi.Store.Enumeration
import RooWifi.Store.Interruption
import RooWifi.Store.Refinement

/-! # What any history leaves in the store

A worn store is one that calls have been made on, each cut short at any moment
and with any backend failures. It may hold a secret without its settings or
settings beside a secret that does not fit them, but nothing the store does
not write, so it can still be enumerated, and any profile removed or saved
anew. -/
namespace RooWifi

open Storage

namespace FieldStore

/-! ## Histories -/

/-- The stores left by calls that may stop anywhere, whatever fails. -/
inductive Worn (e : BackendErrors) : FieldMap → Prop
  | new : Worn e fun _ => none
  | call {f g} (call : StoreCall) : Worn e f → Reach e.1 (fun _ => True) call.prog f g → Worn e g
  | select {f g} (s : Ssid) : Worn e f → Reach e.1 (fun _ => True) (writeLastProfile s) f g →
      Worn e g

/-- A field that the store writes. -/
inductive Entry : FieldKey → List UInt8 → Prop
  | settings (st : ProfileSettings) (valid : st.connection.ssid.Valid) :
      Entry (Key 'p' st.connection.ssid) (EncodeProfile st)
  | secret (s : Ssid) (c : Credentials) (valid : s.Valid) (small : c.size.toNat ≤ 64) :
      Entry (Key 's' s) (EncodeSecret s c)
  | last (s : Ssid) (valid : s.Valid) : Entry kLastSsid (s.size :: s.view)

/-- Nothing else is stored. -/
def Kept (f : FieldMap) : Prop := ∀ key d, f key = some d → Entry key d

variable {e : BackendErrors} {fails : ReadError → Prop} {f g : FieldMap} {s : Ssid}
  {st : ProfileSettings} {u : CredentialUpdate}

theorem Kept.between {S : Set (FieldKey × Option (List UInt8))} (kept : Kept f)
    (writes : ∀ key d, (key, some d) ∈ S → Entry key d) (h : Between S f g) : Kept g := by
  intro key d stored
  rcases h key with same | written
  · exact kept key d (same ▸ stored)
  · exact writes key d (stored ▸ written)

theorem Kept.save (kept : Kept f) (h : Reach e.1 fails (saveProfile st u) f g) : Kept g := by
  rcases reach_bind_readOnly e.1 fails (readOnly_admitSave st u) h with rfl | ⟨r, admitted, h⟩
  · exact kept
  rcases r with status | c
  · exact h ▸ kept
  obtain ⟨-, -, updated, ok⟩ := exec_admitSave admitted
  have valid := valid_of_Validate ok
  have within : Within (saveFootprint st u) (saveRecords st u.intent c) :=
    within_saveRecords updated.replaced
  refine kept.between ?_ (reach_between e.1 fails within (between_refl f) h)
  rintro key d (written | ⟨replaces, written⟩ | ⟨-, erased⟩)
  · cases written
    exact .settings st valid
  · cases written
    refine .secret _ _ valid ?_
    rw [← updated.replaced replaces]
    exact size_le_of_Validate ok
  · cases erased

theorem Kept.remove (kept : Kept f) (h : Reach e.1 fails (removeProfile s) f g) : Kept g := by
  refine kept.between ?_ (reach_removeProfile h)
  rintro key d ((erased | erased) | ⟨-, erased⟩) <;> cases erased

theorem Kept.select (kept : Kept f) (h : Reach e.1 fails (writeLastProfile s) f g) : Kept g := by
  unfold writeLastProfile at h
  split at h
  · exact h ▸ kept
  rename_i fits
  split at h
  · have within : Within {(kLastSsid, none)}
        (eraseField kLastSsid >>= fun ok => .ret (if ok then Status.kOk else .kStorageFailure)) :=
      ⟨rfl, fun _ => trivial⟩
    refine kept.between ?_ (reach_between e.1 fails within (between_refl f) h)
    rintro key d erased
    cases erased
  · rename_i nonempty
    have within : Within {(kLastSsid, some (s.size :: s.view))}
        (writeVerified kLastSsid (s.size :: s.view) 33) := within_writeVerified rfl
    refine kept.between ?_ (reach_between e.1 fails within (between_refl f) h)
    rintro key d written
    cases written
    refine .last s ⟨Nat.pos_of_ne_zero fun zero => nonempty (UInt8.toNat_inj.mp zero), ?_⟩
    exact Nat.le_of_not_lt fits

theorem Worn.kept (worn : Worn e f) : Kept f := by
  induction worn with
  | new => exact nofun
  | call call _ stopped ih =>
    cases call with
    | save st u => exact ih.save stopped
    | remove s => exact ih.remove stopped
  | select s _ stopped ih => exact ih.select stopped

/-! ## What is found there -/

theorem Kept.settings (kept : Kept f) {d : List UInt8} (stored : f (Key 'p' s) = some d) :
    ∃ st : ProfileSettings, st.connection.ssid.Valid ∧ d = EncodeProfile st := by
  generalize named : Key 'p' s = key at stored
  cases kept key d stored with
  | settings st valid => exact ⟨st, valid, rfl⟩
  | secret t c => exact absurd named (Key_p_ne_s s t)
  | last t => exact absurd named (Key_p_ne_last s)

theorem Kept.secret (kept : Kept f) {d : List UInt8} (stored : f (Key 's' s) = some d) :
    ∃ (t : Ssid) (c : Credentials), t.Valid ∧ c.size.toNat ≤ 64 ∧ d = EncodeSecret t c := by
  generalize named : Key 's' s = key at stored
  cases kept key d stored with
  | settings st valid => exact absurd named (Key_s_ne_p s _)
  | secret t c valid small => exact ⟨t, c, valid, small, rfl⟩
  | last t => exact absurd named (Key_s_ne_last s)

theorem head_of_ProfileKey {key : FieldKey} (h : ProfileKey key = true) : key.getD 0 0 = 112 := by
  simp only [ProfileKey, Bool.and_eq_true, decide_eq_true_eq] at h
  exact h.1.1.2

theorem Kept.wellkept (kept : Kept f) : Wellkept f := by
  intro key d stored canonical
  cases kept key d stored with
  | settings st valid =>
    exact ⟨st.trim, DecodeProfile_EncodeProfile valid, Key_congr (Ssid.view_trim valid.2) 'p'⟩
  | secret t c =>
    have head : 's'.toUInt8 = 112 := head_of_ProfileKey canonical
    exact absurd head (by decide)
  | last t =>
    exact absurd canonical (by decide)

/-- A selection, where there is one, can be read. -/
theorem Kept.selection (kept : Kept f) : f kLastSsid = none ∨ ∃ t, Selection f t := by
  rcases stored : f kLastSsid with _ | d
  · exact .inl rfl
  generalize named : kLastSsid = key at stored
  cases kept key d stored with
  | settings st => exact absurd named.symm (Key_p_ne_last _)
  | secret t c => exact absurd named.symm (Key_s_ne_last t)
  | last t valid =>
    refine .inr ⟨_, _, stored, ?_, decodeLast_view valid⟩
    rw [List.length_cons, Ssid.length_view valid.2]
    exact Nat.succ_le_succ valid.2

/-- A stored record that names another network stands in the way of `s`. -/
def Foreign (f : FieldMap) (s : Ssid) : Prop :=
  (∃ d p, f (Key 'p' s) = some d ∧ DecodeProfile d = .ok p ∧ p.connection.ssid.eq s = false) ∨
    ∃ d t c, f (Key 's' s) = some d ∧ DecodeSecret d = .ok (t, c) ∧ t.eq s = false

theorem Owned.not_foreign (owned : Owned f s) : ¬ Foreign f s := by
  rintro (⟨d, p, stored, decoded, other⟩ | ⟨d, t, c, stored, decoded, other⟩)
  · rcases owned.settings with free | ⟨d', p', stored', -, decoded', own⟩
    · cases free.symm.trans stored
    · cases stored'.symm.trans stored
      cases decoded'.symm.trans decoded
      exact absurd (own.symm.trans other) (by decide)
  · rcases owned.secret with free | ⟨d', t', c', stored', -, decoded', own⟩
    · cases free.symm.trans stored
    · cases stored'.symm.trans stored
      cases decoded'.symm.trans decoded
      exact absurd (own.symm.trans other) (by decide)

theorem Kept.ownedSecret (kept : Kept f) (s : Ssid) : OwnedSecret f s ∨
    (∃ d t c, f (Key 's' s) = some d ∧ d.length ≤ kMaxSecretSize ∧ DecodeSecret d = .ok (t, c) ∧
      t.eq s = false) := by
  rcases stored : f (Key 's' s) with _ | d
  · exact .inl (.inl stored)
  obtain ⟨t, c, valid, small, rfl⟩ := kept.secret stored
  have decoded := DecodeSecret_EncodeSecret valid small
  have fits := length_EncodeSecret valid small
  cases own : t.trim.eq s with
  | false => exact .inr ⟨_, _, _, rfl, fits, decoded, own⟩
  | true => exact .inl (.inr ⟨_, _, _, stored, fits, decoded, own⟩)

theorem Kept.ownedSettings (kept : Kept f) (s : Ssid) : OwnedSettings f s ∨
    (∃ d p, f (Key 'p' s) = some d ∧ d.length ≤ kMaxSecretSize ∧ DecodeProfile d = .ok p ∧
      p.connection.ssid.eq s = false) := by
  rcases stored : f (Key 'p' s) with _ | d
  · exact .inl (.inl stored)
  obtain ⟨st, valid, rfl⟩ := kept.settings stored
  have decoded := DecodeProfile_EncodeProfile valid
  have fits : (EncodeProfile st).length ≤ kMaxSecretSize :=
    (length_EncodeProfile valid).trans (by decide)
  cases own : st.trim.connection.ssid.eq s with
  | false => exact .inr ⟨_, _, rfl, fits, decoded, own⟩
  | true => exact .inl (.inr ⟨_, _, stored, fits, decoded, own⟩)

/-- **The identity check has two outcomes** on a worn store. -/
theorem Kept.checkIdentity (kept : Kept f) (valid : s.Valid) : Owned f s ∨
    Foreign f s ∧ (run e.1 (checkIdentity s) f).1 = .kHashCollision := by
  have secret : OwnedSecret f s ∨ Foreign f s ∧
      (run e.1 (checkSecretIdentity s) f).1 = .kHashCollision := by
    rcases kept.ownedSecret s with owned | ⟨d, t, c, stored, fits, decoded, other⟩
    · exact .inl owned
    · refine .inr ⟨.inr ⟨d, t, c, stored, decoded, other⟩, ?_⟩
      simp only [checkSecretIdentity, readField, Prog.bind_eq, Prog.bind, run,
        answer_ok e.1 stored fits, decoded, other, Bool.false_eq_true, if_false]
  rcases kept.ownedSettings s with owned | ⟨d, p, stored, fits, decoded, other⟩
  · refine secret.imp (fun own => ⟨valid, owned, own⟩) (And.imp_right fun collides => ?_)
    rcases owned with free | ⟨d, p, stored, fits, decoded, own⟩
    · simp only [FieldStore.checkIdentity, valid, not_true_eq_false, if_false, readField,
        Prog.bind_eq, Prog.bind, run, answer_missing e.1 free, e.2, if_true, collides]
    · simp only [FieldStore.checkIdentity, valid, not_true_eq_false, if_false, readField,
        Prog.bind_eq, Prog.bind, run, answer_ok e.1 stored fits, decoded, own, Bool.not_true,
        Bool.false_eq_true, collides]
  · refine .inr ⟨.inl ⟨d, p, stored, decoded, other⟩, ?_⟩
    simp only [FieldStore.checkIdentity, valid, not_true_eq_false, if_false, readField,
      Prog.bind_eq, Prog.bind, run, answer_ok e.1 stored fits, decoded, other, Bool.not_false,
      if_true]

/-! ## What can be done about it -/

/-- A save that brings all it needs: a secret for a secured network, or none
for an open one. -/
structure Complete (st : ProfileSettings) (u : CredentialUpdate) : Prop where
  matched : mismatched st u = false
  brings : u.intent = .kReplace ∨ u.intent = .kClear ∧ u.replacement.size = 0
  ok : Validate st.connection (if u.intent = .kReplace then u.replacement else {}) = .kOk

instance (st : ProfileSettings) (u : CredentialUpdate) : Decidable (Complete st u) :=
  decidable_of_iff (_ ∧ _ ∧ _)
    ⟨fun ⟨matched, brings, ok⟩ => ⟨matched, brings, ok⟩, fun h => ⟨h.matched, h.brings, h.ok⟩⟩

theorem Complete.accepts (complete : Complete st u) (owned : Owned f st.connection.ssid) :
    Accepts f st u (if u.intent = .kReplace then u.replacement else {}) := by
  refine ⟨owned, complete.matched, ?_, complete.ok⟩
  rcases complete.brings with replaces | ⟨clears, bare⟩
  · exact .inr (.inl ⟨replaces, if_pos replaces⟩)
  · have keeps : u.intent ≠ .kReplace := clears ▸ by decide
    exact .inr (.inr ⟨clears, bare, if_neg keeps⟩)

/-- What a complete save leaves is what it was given. -/
theorem Complete.loads (complete : Complete st u) (owned : Owned f st.connection.ssid) :
    Loads (saved f st u) st.connection.ssid st.trim
      (if u.intent = .kReplace then u.replacement.trim else {}) := by
  have accepts := complete.accepts owned
  have settings := saved_settings f st u
  have secret := saved_secret f st u
  by_cases replaces : u.intent = .kReplace
  · rw [if_neg (replaces ▸ by decide), if_pos replaces] at secret
    obtain ⟨c, loads⟩ := loads_new_replaced accepts replaces settings secret
    have secured : st.connection.security ≠ .kOpen :=
      secured_of_matched complete.matched (replaces ▸ by decide)
    have small : u.replacement.size.toNat ≤ 64 := by
      have ok := complete.ok
      rw [if_pos replaces] at ok
      exact size_le_of_Validate ok
    rw [if_pos replaces]
    rcases loads.secret with ⟨opened, -⟩ | ⟨-, d, t, stored, -, decoded, -⟩
    · exact absurd opened secured
    · cases secret.symm.trans stored
      cases (DecodeSecret_EncodeSecret owned.valid small).symm.trans decoded
      exact loads
  · obtain ⟨c, loads⟩ := loads_new_kept accepts replaces settings fun notCleared =>
      absurd (complete.brings.resolve_left replaces).1 notCleared
    rw [if_neg replaces]
    rcases loads.secret with ⟨-, rfl⟩ | ⟨secured, -⟩
    · exact loads
    · have ok := complete.ok
      rw [if_neg replaces] at ok
      exact absurd rfl (size_ne_zero_of_secured ok secured)

/-- A call that meets a foreign record changes nothing and says so. -/
theorem run_saveProfile_foreign
    (collides : (run e.1 (checkIdentity st.connection.ssid) f).1 = .kHashCollision) :
    run e.1 (saveProfile st u) f = (.kHashCollision, f) := by
  have refused : (run e.1 (admitSave st u) f).1 = .error .kHashCollision := by
    rw [admitSave, Prog.bind_eq, run_bind_readOnly e.1 (readOnly_checkIdentity _), collides]
    rfl
  rw [saveProfile, Prog.bind_eq, run_bind_readOnly e.1 (readOnly_admitSave st u), refused]
  rfl

theorem run_removeProfile_foreign
    (collides : (run e.1 (checkIdentity s) f).1 = .kHashCollision) :
    run e.1 (removeProfile s) f = (.kHashCollision, f) := by
  have refused : run e.1 (removeRecords s) f = (.kHashCollision, f) := by
    rw [removeRecords, Prog.bind_eq, run_bind_readOnly e.1 (readOnly_checkIdentity s), collides]
    rfl
  rw [removeProfile, Prog.bind_eq, run_bind, refused]
  rfl

theorem Kept.removes (kept : Kept f) (owned : Owned f s) :
    (run e.1 (removeProfile s) f).1 = .kOk ∧
      (run e.1 (loadProfile s) (run e.1 (removeProfile s) f).2).1 = .error .kNotFound := by
  have gone : withoutRecords f s (Key 'p' s) = none := by
    rw [withoutRecords, commit_of_ne (Key_p_ne_s s s), commit_same]
  have missing {g : FieldMap} (free : g (Key 'p' s) = none) :
      (run e.1 (loadProfile s) g).1 = .error .kNotFound :=
    (run_load_error (run_read_missing owned.valid free)).1
  rw [run_removeProfile owned]
  rcases kept.selection with none_ | ⟨t, selected⟩
  · rw [run_forgetLast_none ((withoutRecords_last f s).trans none_)]
    exact ⟨rfl, missing gone⟩
  · rw [run_forgetLast (selected.congr (withoutRecords_last f s))]
    refine ⟨rfl, missing ?_⟩
    dsimp only
    split
    · rw [commit_of_ne (Key_p_ne_last s), gone]
    · exact gone

/-- **No history bricks the store.** Whatever calls were cut short wherever,
and whatever failed: the profiles can be enumerated; any profile can be
removed, and is gone; and a save that brings its own credentials is accepted
and reads back. The one obstacle is a record that names another network of the
same hash: it is reported, and nothing changes. -/
theorem store_recovers (e : BackendErrors) (f : FieldMap) (worn : Worn e f) :
    (∀ keys : List FieldKey, (∀ key, key ∈ keys ↔ f key ≠ none) →
      (run e.1 (enumerateProfiles (fun _ _ => true) keys) f).1.1 = .kOk) ∧
    (∀ s : Ssid, s.Valid →
      (¬ Foreign f s → (run e.1 (removeProfile s) f).1 = .kOk ∧
        (run e.1 (loadProfile s) (run e.1 (removeProfile s) f).2).1 = .error .kNotFound) ∧
      (Foreign f s → run e.1 (removeProfile s) f = (.kHashCollision, f))) ∧
    ∀ (st : ProfileSettings) (u : CredentialUpdate), Complete st u →
      (¬ Foreign f st.connection.ssid → (run e.1 (saveProfile st u) f).1 = .kOk ∧
        (run e.1 (loadProfile st.connection.ssid) (run e.1 (saveProfile st u) f).2).1 =
          .ok { settings := st.trim, hasCredentials := decide (u.intent = .kReplace) } ∧
        (run e.1 (loadCredentials st.connection.ssid) (run e.1 (saveProfile st u) f).2).1 =
          .ok (if u.intent = .kReplace then u.replacement.trim else {})) ∧
      (Foreign f st.connection.ssid → run e.1 (saveProfile st u) f = (.kHashCollision, f)) := by
  have kept := worn.kept
  refine ⟨?_, ?_, ?_⟩
  · intro keys each
    rw [run_enumerateProfiles]
    exact (tour_ok_iff each).mpr kept.wellkept
  · intro s valid
    rcases kept.checkIdentity (e := e) valid with owned | ⟨foreign, collides⟩
    · exact ⟨fun _ => kept.removes owned, fun foreign => absurd foreign owned.not_foreign⟩
    · exact ⟨absurd foreign, fun _ => run_removeProfile_foreign collides⟩
  · intro st u complete
    have valid := valid_of_Validate complete.ok
    rcases kept.checkIdentity (e := e) valid with owned | ⟨foreign, collides⟩
    · refine ⟨fun _ => ?_, fun foreign => absurd foreign owned.not_foreign⟩
      have loads := complete.loads owned
      rw [run_saveProfile_ok.mpr ⟨_, complete.accepts owned, rfl⟩]
      refine ⟨rfl, run_loadProfile.mpr ⟨_, loads, ?_⟩, run_loadCredentials.mpr ⟨_, loads⟩⟩
      by_cases replaces : u.intent = .kReplace
      · have secured := secured_of_matched complete.matched (replaces ▸ by decide)
        have ok := complete.ok
        rw [if_pos replaces] at ok
        simp [replaces, size_ne_zero_of_secured ok secured]
      · simp [replaces]
    · exact ⟨absurd foreign, fun _ => run_saveProfile_foreign collides⟩

/-- The WPA2 network, and then a change to WEP that loses its second write. -/
def TornFields : FieldMap :=
  (runLosing MemoryStore.1 1 (saveProfile TestWep TestWepUpdate)
    (run MemoryStore.1
      (saveProfile TestWpa2 { intent := .kReplace, replacement := TestPassphrase })
      fun _ => none).2).2

theorem store_recovers_torn :
    (run MemoryStore.1 (loadProfile TestConfig.ssid) TornFields).1 = .error .kCorrupt ∧
      (run MemoryStore.1 (saveProfile TestWep TestWepUpdate) TornFields).1 = .kOk := by
  have secured : Worn MemoryStore _ :=
    .call (.save TestWpa2 { intent := .kReplace, replacement := TestPassphrase }) .new
      (exec_reach _ _ (exec_run MemoryStore.1 _ _ _))
  have worn : Worn MemoryStore TornFields := .call (.save TestWep TestWepUpdate) secured
    (exec_reach _ _ (exec_runLosing MemoryStore.1 _ 1 _ _))
  have saves := ((store_recovers MemoryStore TornFields worn).2.2 TestWep TestWepUpdate
    (by decide +kernel)).1
  refine ⟨by decide +kernel, (saves ?_).1⟩
  exact (run_checkIdentity_iff (e := MemoryStore).mp (by decide +kernel)).not_foreign

end FieldStore

end RooWifi
