import RooWifi.Store.Mutation

/-! # Repeating an interrupted save or removal

Wherever an execution stopped, each field is as it was or as the call would
leave it, and the same call finishes the work. -/
namespace RooWifi

open Storage

namespace FieldStore

variable {e : BackendErrors} {fails : ReadError → Prop} {f g : FieldMap} {s : Ssid}
  {st : ProfileSettings} {u : CredentialUpdate} {c : Credentials}

/-! ## Repeating a save -/

theorem decodes_EncodeProfile (hs : st.connection.ssid.Valid) :
    ∃ p, DecodeProfile (EncodeProfile st) = .ok p ∧
      p.connection.ssid.eq st.connection.ssid = true :=
  ⟨st.trim, DecodeProfile_EncodeProfile hs,
    (Ssid.eq_iff (a := st.connection.ssid.trim) hs hs).mpr (Ssid.view_trim hs.2)⟩

theorem decodes_EncodeSecret (hs : s.Valid) (hc : c.size.toNat ≤ 64) :
    ∃ t, DecodeSecret (EncodeSecret s c) = .ok (t, c.trim) ∧ t.eq s = true :=
  ⟨s.trim, DecodeSecret_EncodeSecret hs hc,
    (Ssid.eq_iff (a := s.trim) hs hs).mpr (Ssid.view_trim hs.2)⟩

/-- The settings field of an interrupted save is the old or the new one. -/
theorem between_settings (h : Between (saveFootprint st u) f g) :
    g (Key 'p' st.connection.ssid) = f (Key 'p' st.connection.ssid) ∨
      g (Key 'p' st.connection.ssid) = some (EncodeProfile st) := by
  refine (h _).imp_right fun hm => ?_
  rcases hm with hm | ⟨-, hm⟩ | ⟨-, hm⟩
  · exact (Prod.ext_iff.mp hm).2
  · exact absurd (Prod.ext_iff.mp hm).1 (Key_p_ne_s _ _)
  · exact absurd (Prod.ext_iff.mp hm).1 (Key_p_ne_s _ _)

/-- The secret field of an interrupted save is the old one, or as the update has it. -/
theorem between_secret (h : Between (saveFootprint st u) f g) :
    g (Key 's' st.connection.ssid) = f (Key 's' st.connection.ssid) ∨
      u.intent = .kReplace ∧ g (Key 's' st.connection.ssid) =
        some (EncodeSecret st.connection.ssid u.replacement) ∨
      u.intent = .kClear ∧ g (Key 's' st.connection.ssid) = none := by
  refine (h _).imp_right fun hm => ?_
  rcases hm with hm | ⟨hi, hm⟩ | ⟨hi, hm⟩
  · exact absurd (Prod.ext_iff.mp hm).1 (Key_s_ne_p _ _)
  · exact .inl ⟨hi, (Prod.ext_iff.mp hm).2⟩
  · exact .inr ⟨hi, (Prod.ext_iff.mp hm).2⟩

theorem between_frame (h : Between (saveFootprint st u) f g) {k : FieldKey}
    (hp : k ≠ Key 'p' st.connection.ssid) (hs : k ≠ Key 's' st.connection.ssid) : g k = f k := by
  refine h.frame fun v hm => ?_
  rcases hm with hm | ⟨-, hm⟩ | ⟨-, hm⟩
  · exact hp (Prod.ext_iff.mp hm).1
  · exact hs (Prod.ext_iff.mp hm).1
  · exact hs (Prod.ext_iff.mp hm).1

theorem Accepts.owned_between (ha : Accepts f st u c) (h : Between (saveFootprint st u) f g) :
    Owned g st.connection.ssid := by
  have hs := ha.owned.valid
  refine ⟨hs, ?_, ?_⟩
  · rcases between_settings h with hg | hg
    · rw [OwnedSettings, hg]
      exact ha.owned.settings
    · obtain ⟨p, hp, ho⟩ := decodes_EncodeProfile hs
      exact .inr ⟨_, p, hg, (length_EncodeProfile hs).trans (by decide), hp, ho⟩
  · rcases between_secret h with hg | ⟨hi, hg⟩ | ⟨-, hg⟩
    · rw [OwnedSecret, hg]
      exact ha.owned.secret
    · have hc := size_le_of_Validate ha.ok
      rw [ha.updated.replaced hi] at hc
      obtain ⟨t, ht, ho⟩ := decodes_EncodeSecret hs hc
      exact .inr ⟨_, t, _, hg, length_EncodeSecret hs hc, ht, ho⟩
    · exact .inl hg

/-- Kept credentials are read again, from the old settings or the new ones. -/
theorem Accepts.updated_between (ha : Accepts f st u c) (h : Between (saveFootprint st u) f g) :
    Updated g st.connection.ssid u c := by
  rcases ha.updated with ⟨hi, st₀, hl⟩ | hu | hu
  · have hg : g (Key 's' st.connection.ssid) = f (Key 's' st.connection.ssid) := by
      rcases between_secret h with hg | ⟨hi', -⟩ | ⟨hi', -⟩
      · exact hg
      · exact absurd (hi.symm.trans hi') (by decide)
      · exact absurd (hi.symm.trans hi') (by decide)
    rcases between_settings h with hp | hp
    · exact .inl ⟨hi, st₀, hl.congr hp fun _ => hg⟩
    · have hs := ha.owned.valid
      have hsec := secured_of_matched ha.matched (hi ▸ by decide)
      obtain ⟨p, hd, ho⟩ := decodes_EncodeProfile hs
      cases hd.symm.trans (DecodeProfile_EncodeProfile hs)
      refine .inl ⟨hi, st.trim, hs, ⟨_, hp, length_EncodeProfile hs, hd⟩, ho, .inr ⟨hsec, ?_⟩,
        ha.ok⟩
      -- the old profile cannot have been open: its credentials would not fit the new settings
      rcases hl.secret with ⟨-, rfl⟩ | ⟨-, hd⟩
      · exact absurd rfl (size_ne_zero_of_secured ha.ok hsec)
      · rw [hg]
        exact hd
  · exact .inr (.inl hu)
  · exact .inr (.inr hu)

theorem Accepts.between (ha : Accepts f st u c) (h : Between (saveFootprint st u) f g) :
    Accepts g st u c :=
  ⟨ha.owned_between h, ha.matched, ha.updated_between h, ha.ok⟩

theorem saved_between (h : Between (saveFootprint st u) f g) : saved g st u = saved f st u := by
  funext k
  by_cases hp : k = Key 'p' st.connection.ssid
  · rw [hp, saved_settings, saved_settings]
  by_cases hs : k = Key 's' st.connection.ssid
  · rw [hs, saved_secret, saved_secret]
    rcases between_secret h with hg | ⟨hi, -⟩ | ⟨hi, -⟩
    · rw [hg]
    · simp only [hi, if_true]
    · simp only [hi, if_true]
  · rw [saved_of_ne hp hs, saved_of_ne hp hs, between_frame h hp hs]

/-- A completed save finds every field as it would write it. -/
theorem mutations_saved (ha : Accepts f st u c) :
    mutations e.1 (saveProfile st u) (saved f st u) = [] := by
  have hs := ha.owned.valid
  have hb : Between (saveFootprint st u) f (saved f st u) := by
    have hr := exec_run e.1 (fun _ => False) (saveProfile st u) f
    rw [run_saveProfile_ok.mpr ⟨c, ha, rfl⟩] at hr
    exact reach_saveProfile (exec_reach e.1 _ hr)
  have hset : mutations e.1 (saveSettings st u.intent) (saved f st u) = [] := by
    rw [saveSettings, Prog.bind_eq, mutations_bind,
      mutations_writeVerified (saved_settings f st u) (length_EncodeProfile hs),
      run_writeVerified, List.nil_append, commit, ← saved_settings f st u,
      Function.update_eq_self]
    simp only [ne_eq, not_true_eq_false, if_false]
    split
    · rename_i hi
      have hnone : saved f st u (Key 's' st.connection.ssid) = none := by
        rw [saved_secret, if_pos hi]
      simp only [clearSecret, readField, Prog.bind_eq, Prog.bind, mutations,
        answer_missing e.1 hnone, e.2, if_true]
    · rfl
  rw [saveProfile, Prog.bind_eq, mutations_bind_readOnly e.1 (readOnly_admitSave st u),
    run_admitSave.mpr (ha.between hb)]
  dsimp only
  unfold saveRecords
  split
  · rename_i hi
    have hsec : saved f st u (Key 's' st.connection.ssid) =
        some (EncodeSecret st.connection.ssid c) := by
      rw [saved_secret, if_neg (hi ▸ by decide), if_pos hi, ha.updated.replaced hi]
    rw [Prog.bind_eq, mutations_bind, mutations_writeVerified hsec
      (length_EncodeSecret hs (size_le_of_Validate ha.ok)), run_writeVerified, List.nil_append,
      commit, ← hsec, Function.update_eq_self]
    simpa only [ne_eq, not_true_eq_false, if_false] using hset
  · exact hset

/-! ## Repeating a removal -/

theorem removal_frame (h : Between (removeFootprint f s) f g) {k : FieldKey}
    (hp : k ≠ Key 'p' s) (hs : k ≠ Key 's' s) (hl : k ≠ kLastSsid) : g k = f k := by
  refine h.frame fun v hm => ?_
  rcases hm with (hm | hm) | ⟨-, hm⟩
  · exact hp (Prod.ext_iff.mp hm).1
  · exact hs (Prod.ext_iff.mp hm).1
  · exact hl (Prod.ext_iff.mp hm).1

theorem removal_last (h : Between (removeFootprint f s) f g) :
    g kLastSsid = f kLastSsid ∨
      (∃ t, Selection f t ∧ t.eq s = true) ∧ g kLastSsid = none := by
  refine (h kLastSsid).imp_right fun hm => ?_
  rcases hm with hm | ⟨ht, hm⟩
  · exact absurd hm (last_notMem_recordErasures s _)
  · exact ⟨ht, (Prod.ext_iff.mp hm).2⟩

theorem Owned.removal (ho : Owned f s) (h : Between (removeFootprint f s) f g) : Owned g s := by
  refine ⟨ho.valid, ?_, ?_⟩
  · rcases h (Key 'p' s) with hg | (hm | hm) | ⟨-, hm⟩
    · rw [OwnedSettings, hg]
      exact ho.settings
    · exact .inl (Prod.ext_iff.mp hm).2
    · exact absurd (Prod.ext_iff.mp hm).1 (Key_p_ne_s s s)
    · exact absurd (Prod.ext_iff.mp hm).1 (Key_p_ne_last s)
  · rcases h (Key 's' s) with hg | (hm | hm) | ⟨-, hm⟩
    · rw [OwnedSecret, hg]
      exact ho.secret
    · exact absurd (Prod.ext_iff.mp hm).1 (Key_s_ne_p s s)
    · exact .inl (Prod.ext_iff.mp hm).2
    · exact absurd (Prod.ext_iff.mp hm).1 (Key_s_ne_last s)

/-- Without its records, an interrupted removal differs from a fresh one in
the last selection at most. -/
theorem withoutRecords_removal (h : Between (removeFootprint f s) f g) {k : FieldKey}
    (hl : k ≠ kLastSsid) : withoutRecords g s k = withoutRecords f s k := by
  by_cases hs : k = Key 's' s
  · rw [hs, withoutRecords, withoutRecords, commit_same, commit_same]
  by_cases hp : k = Key 'p' s
  · rw [hp, withoutRecords, withoutRecords, commit_of_ne (Key_p_ne_s s s),
      commit_of_ne (Key_p_ne_s s s), commit_same, commit_same]
  · rw [withoutRecords, withoutRecords, commit_of_ne hs, commit_of_ne hs, commit_of_ne hp,
      commit_of_ne hp, removal_frame h hp hs hl]

theorem removal_repeats {F : FieldMap} (hF : run e.1 (removeProfile s) f = (.kOk, F))
    (h : Between (removeFootprint f s) f g) : run e.1 (removeProfile s) g = (.kOk, F) := by
  have ho : Owned f s := by
    by_contra ho
    exact (run_removeProfile_rejected (e := e) ho).1 (congrArg Prod.fst hF)
  rw [run_removeProfile ho] at hF
  rw [run_removeProfile (ho.removal h)]
  rcases removal_last h with hl | ⟨⟨t, ht, hts⟩, hl⟩
  · have heq : withoutRecords g s = withoutRecords f s := by
      funext k
      by_cases hk : k = kLastSsid
      · rw [hk, withoutRecords_last, withoutRecords_last, hl]
      · exact withoutRecords_removal h hk
    rw [heq, hF]
  · -- the selection is gone already
    have ht' : Selection (withoutRecords f s) t := ht.congr (withoutRecords_last f s)
    rw [run_forgetLast ht', if_pos hts] at hF
    rw [run_forgetLast_none (by rw [withoutRecords_last, hl]), ← hF]
    refine congrArg (Prod.mk _) (funext fun k => ?_)
    by_cases hk : k = kLastSsid
    · rw [hk, withoutRecords_last, hl, commit_same]
    · rw [commit_of_ne hk, withoutRecords_removal h hk]

/-- **Repeating an interrupted call converges.** Wherever the first execution
stopped, whatever failed before, the same call leaves the fields of a single
uninterrupted execution; a completed save mutates nothing when repeated. -/
theorem repeat_converges (e : BackendErrors) (call : StoreCall) (f F : FieldMap)
    (hF : run e.1 call.prog f = (.kOk, F)) :
    (∀ g, Reach e.1 (fun _ => True) call.prog f g → run e.1 call.prog g = (.kOk, F)) ∧
      ∀ st u, call = .save st u → mutations e.1 call.prog F = [] := by
  cases call with
  | save st u =>
    obtain ⟨c, ha, rfl⟩ := run_saveProfile_ok.mp hF
    refine ⟨fun g hg => ?_, fun _ _ _ => mutations_saved ha⟩
    have hb := reach_saveProfile hg
    exact run_saveProfile_ok.mpr ⟨c, ha.between hb, (saved_between hb).symm⟩
  | remove s =>
    refine ⟨fun g hg => removal_repeats hF (reach_removeProfile hg), ?_⟩
    rintro st u ⟨⟩

/-- The save of a new WPA2 network. -/
def TestSecured : StoreCall :=
  .save TestWpa2 { intent := .kReplace, replacement := TestPassphrase }

/-- What it leaves when nothing after its secret is committed. -/
def SecretOnly : FieldMap := (runLosing MemoryStore.1 1 TestSecured.prog fun _ => none).2

/-- The repeated save finds its secret and completes; a third one has nothing to do. -/
theorem repeat_converges_test :
    SecretOnly (Key 's' TestConfig.ssid) = some (EncodeSecret TestConfig.ssid TestPassphrase) ∧
      SecretOnly (Key 'p' TestConfig.ssid) = none ∧
      ∃ F : FieldMap,
        run MemoryStore.1 TestSecured.prog (fun _ => none) = (.kOk, F) ∧
          run MemoryStore.1 TestSecured.prog SecretOnly = (.kOk, F) ∧
          mutations MemoryStore.1 TestSecured.prog F = [] := by
  have ok : (run MemoryStore.1 TestSecured.prog fun _ => none).1 = .kOk := by decide +kernel
  have saves : run MemoryStore.1 TestSecured.prog (fun _ => none) =
      (.kOk, (run MemoryStore.1 TestSecured.prog fun _ => none).2) := Prod.ext ok rfl
  have cut : Reach MemoryStore.1 (fun _ => True) TestSecured.prog (fun _ => none) SecretOnly :=
    exec_reach _ _ (exec_runLosing MemoryStore.1 _ 1 _ _)
  obtain ⟨converges, settled⟩ := repeat_converges MemoryStore TestSecured _ _ saves
  exact ⟨by decide +kernel, by decide +kernel, _, saves, converges SecretOnly cut,
    settled _ _ rfl⟩

end FieldStore

end RooWifi
