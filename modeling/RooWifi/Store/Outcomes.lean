import RooWifi.Store.Mutation

/-! # What a returned status says

Whatever reads, writes and erases fail, a success is never reported for bytes
that are not there, nor a failure for bytes that are. -/
namespace RooWifi

open Storage FieldStore

namespace FieldStore

variable {e : BackendErrors} {fails : ReadError → Prop} {f g : FieldMap} {s : Ssid}
  {st : ProfileSettings} {u : CredentialUpdate} {key : FieldKey} {d : List UInt8}
  {capacity : Nat} {status : Status}

/-! ## One verified write -/

/-- The calls of a write whose outcome stays unknown: the confirming reread is
the last of them, and fails. -/
def Unconfirmed (key : FieldKey) (d : List UInt8)
    (log : List (Call FieldKey UInt8 ReadError)) : Prop :=
  ∃ r err, log = [.read key r, .write key d false, .read key (.error err)] ∧ err.val ≠ .kNotFound

/-- What the status of a verified write of `d` says. -/
structure Verdict (key : FieldKey) (d : List UInt8) (log : List (Call FieldKey UInt8 ReadError))
    (status : Status) (g : FieldMap) : Prop where
  ok : status = .kOk → g key = some d
  failed : status = .kStorageFailure → g key ≠ some d
  unknown : status = .kCommitUnknown → Unconfirmed key d log

theorem verdict_ok {log : List (Call FieldKey UInt8 ReadError)} (h : g key = some d) :
    Verdict key d log .kOk g := ⟨fun _ => h, Status.noConfusion, Status.noConfusion⟩

/-- The reread compares what is stored, unless it fails. -/
theorem resolveWrite_verdict (hf : ¬ fails e.1.missing) {r : Except ReadError (List UInt8)}
    {log : List (Call FieldKey UInt8 ReadError)}
    (h : Logged e.1 fails (resolveWrite key d capacity) f log status g) :
    Verdict key d (.read key r :: .write key d false :: log) status g := by
  obtain ⟨actual, rest, rfl, answered, h⟩ := h
  rcases actual with err | actual
  · obtain ⟨rfl, rfl, rfl⟩ := h
    split
    · rename_i absent
      cases eq_missing (e := e) absent
      have free := answered.of_missing _ _ hf
      exact ⟨Status.noConfusion, fun _ => by simp [free], Status.noConfusion⟩
    · rename_i other
      exact ⟨Status.noConfusion, Status.noConfusion, fun _ => ⟨r, err, rfl, other⟩⟩
  · obtain ⟨stored, -⟩ := answered.of_ok
    obtain ⟨rfl, rfl, rfl⟩ := h
    split
    · rename_i same
      exact verdict_ok (same ▸ stored)
    · rename_i differs
      refine ⟨Status.noConfusion, fun _ there => ?_, Status.noConfusion⟩
      exact differs (Option.some.inj (stored.symm.trans there))

/-- **A verified write tells the truth.** -/
theorem writeVerified_verdict (hf : ¬ fails e.1.missing)
    {log : List (Call FieldKey UInt8 ReadError)}
    (h : Logged e.1 fails (writeVerified key d capacity) f log status g) :
    Verdict key d log status g := by
  obtain ⟨r, rest, rfl, answered, h⟩ := h
  dsimp only [Prog.bind] at h
  split at h
  · rename_i same
    subst same
    obtain ⟨-, rfl, rfl⟩ := h
    exact verdict_ok answered.of_ok.1
  obtain ⟨ok, i, rest, rfl, done, h⟩ := h
  cases ok with
  | true =>
    obtain ⟨-, rfl, rfl⟩ := h
    exact verdict_ok (by rw [done.committed, commit_same])
  | false => exact resolveWrite_verdict hf h

/-- A last selection that is not empty is written the same way. -/
theorem writeLastProfile_verdict (hf : ¬ fails e.1.missing) (nonempty : s.size ≠ 0)
    {log : List (Call FieldKey UInt8 ReadError)}
    (h : Logged e.1 fails (writeLastProfile s) f log status g) :
    Verdict kLastSsid (s.size :: s.view) log status g := by
  unfold writeLastProfile at h
  split at h
  · obtain ⟨-, rfl, -⟩ := h
    exact ⟨Status.noConfusion, Status.noConfusion, Status.noConfusion⟩
  · exact writeVerified_verdict hf h

theorem exec_writeVerified_ok (hf : ¬ fails e.1.missing)
    (h : Exec e.1 fails (writeVerified key d capacity) f .kOk g) : g key = some d := by
  obtain ⟨log, h⟩ := (exec_iff_logged e.1 fails).mp h
  exact (writeVerified_verdict hf h).ok rfl

/-- A write touches no other field. -/
theorem exec_writeVerified_frame (h : Exec e.1 fails (writeVerified key d capacity) f status g)
    {k : FieldKey} (other : k ≠ key) : g k = f k := by
  have between := reach_between e.1 fails (within_writeVerified (Set.mem_singleton (key, some d)))
    (between_refl f) (exec_reach e.1 fails h)
  exact between.frame fun v mem => other (Prod.ext_iff.mp mem).1

/-! ## Saving -/

theorem exec_clearSecret (hf : ¬ fails e.1.missing)
    (h : Exec e.1 fails (clearSecret s) f .kOk g) :
    g (Key 's' s) = none ∧ ∀ k, k ≠ Key 's' s → g k = f k := by
  have erased (h : Exec e.1 fails
      ((eraseField (Key 's' s)).bind fun ok =>
        .ret (if ok then Status.kOk else .kStorageFailure)) f .kOk g) :
      g (Key 's' s) = none ∧ ∀ k, k ≠ Key 's' s → g k = f k := by
    obtain ⟨ok, i, done, h⟩ := h
    cases ok with
    | true =>
      obtain ⟨-, rfl⟩ := h
      cases done.committed
      exact ⟨commit_same _ _ _, fun k other => commit_of_ne other⟩
    | false => exact Status.noConfusion h.1
  obtain ⟨r, answered, h⟩ := h
  rcases r with err | d
  · by_cases absent : err.val = .kNotFound
    · cases eq_missing (e := e) absent
      simp only [Prog.bind, absent, if_true] at h
      obtain ⟨-, rfl⟩ := h
      exact ⟨answered.of_missing _ _ hf, fun _ _ => rfl⟩
    · simp only [Prog.bind, absent, if_false] at h
      exact erased h
  · exact erased h

theorem exec_saveSettings (hf : ¬ fails e.1.missing) {intent : CredentialIntent}
    (h : Exec e.1 fails (saveSettings st intent) f .kOk g) :
    g (Key 'p' st.connection.ssid) = some (EncodeProfile st) ∧
      g (Key 's' st.connection.ssid) =
        if intent = .kClear then none else f (Key 's' st.connection.ssid) := by
  obtain ⟨status, i, written, h⟩ := (exec_bind e.1 fails _ _).mp h
  split at h
  · rename_i failed
    exact absurd h.1.symm failed
  rename_i ok
  cases not_not.mp ok
  have settings := exec_writeVerified_ok hf written
  split at h
  · rename_i clear
    obtain ⟨gone, rest⟩ := exec_clearSecret hf h
    rw [if_pos clear]
    exact ⟨(rest _ (Key_p_ne_s _ _)).trans settings, gone⟩
  · rename_i keep
    obtain ⟨-, rfl⟩ := h
    rw [if_neg keep]
    exact ⟨settings, exec_writeVerified_frame written (Key_s_ne_p _ _)⟩

theorem exec_saveRecords {c : Credentials} (hf : ¬ fails e.1.missing)
    (hc : u.intent = .kReplace → c = u.replacement)
    (h : Exec e.1 fails (saveRecords st u.intent c) f .kOk g) :
    g (Key 'p' st.connection.ssid) = some (EncodeProfile st) ∧
      g (Key 's' st.connection.ssid) =
        if u.intent = .kClear then none
        else if u.intent = .kReplace then some (EncodeSecret st.connection.ssid u.replacement)
        else f (Key 's' st.connection.ssid) := by
  unfold saveRecords at h
  dsimp only at h
  split at h
  · rename_i replace
    obtain ⟨status, i, written, h⟩ := (exec_bind e.1 fails _ _).mp h
    split at h
    · rename_i failed
      exact absurd h.1.symm failed
    rename_i ok
    cases not_not.mp ok
    obtain ⟨settings, secret⟩ := exec_saveSettings hf h
    refine ⟨settings, secret.trans ?_⟩
    rw [if_pos replace, exec_writeVerified_ok hf written, hc replace]
  · rename_i other
    obtain ⟨settings, secret⟩ := exec_saveSettings hf h
    refine ⟨settings, secret.trans ?_⟩
    rw [if_neg other]

/-- The stored secret of `s` is one that is valid for these settings. -/
def SecretFits (f : FieldMap) (st : ProfileSettings) : Prop :=
  ∃ d t c, f (Key 's' st.connection.ssid) = some d ∧ DecodeSecret d = .ok (t, c) ∧
    t.eq st.connection.ssid = true ∧ Validate st.connection c = .kOk

/-- A kept secret was loaded and validated before anything was written. -/
theorem Accepts.kept {c : Credentials} (h : Accepts f st u c) (keep : u.intent = .kKeep) :
    SecretFits f st := by
  have secured : st.connection.security ≠ .kOpen :=
    secured_of_matched h.matched (by rw [keep]; decide)
  rcases h.updated with ⟨-, old, loads⟩ | ⟨replace, -⟩ | ⟨clear, -⟩
  · rcases loads.secret with ⟨-, rfl⟩ | ⟨-, d, t, stored, -, decoded, owner⟩
    · exact absurd rfl (size_ne_zero_of_secured h.ok secured)
    · exact ⟨d, t, c, stored, decoded, owner, h.ok⟩
  · exact absurd (keep.symm.trans replace) (by decide)
  · exact absurd (keep.symm.trans clear) (by decide)

/-- **A save reported as successful is stored.** -/
theorem exec_saveProfile_ok (hf : ¬ fails e.1.missing)
    (h : Exec e.1 fails (saveProfile st u) f .kOk g) :
    g (Key 'p' st.connection.ssid) = some (EncodeProfile st) ∧
      (u.intent = .kReplace →
        g (Key 's' st.connection.ssid) =
          some (EncodeSecret st.connection.ssid u.replacement)) ∧
      (u.intent = .kClear → g (Key 's' st.connection.ssid) = none) ∧
      (u.intent = .kKeep →
        g (Key 's' st.connection.ssid) = f (Key 's' st.connection.ssid) ∧ SecretFits g st) ∧
      (u.intent = .kReplace ∨ u.intent = .kClear ∨ u.intent = .kKeep) := by
  obtain ⟨r, admitted, h⟩ := exec_bind_readOnly e.1 fails (readOnly_admitSave st u) h
  rcases r with status | c
  · have sound := exec_returns e.1 fails (returns_admitSave st u) admitted
    exact absurd (congrArg Except.error h.1.symm) sound
  have accepts := accepts_of_exec hf admitted
  obtain ⟨settings, secret⟩ := exec_saveRecords hf accepts.updated.replaced h
  refine ⟨settings, ?_, ?_, ?_, ?_⟩
  · intro replace
    rw [secret, if_neg (by rw [replace]; decide), if_pos replace]
  · intro clear
    rw [secret, if_pos clear]
  · intro keep
    have same : g (Key 's' st.connection.ssid) = f (Key 's' st.connection.ssid) := by
      rw [secret, if_neg (by rw [keep]; decide), if_neg (by rw [keep]; decide)]
    obtain ⟨d, t, c, stored, fits⟩ := accepts.kept keep
    exact ⟨same, d, t, c, same.trans stored, fits⟩
  · rcases accepts.updated with ⟨keep, -⟩ | ⟨replace, -⟩ | ⟨clear, -⟩
    · exact .inr (.inr keep)
    · exact .inl replace
    · exact .inr (.inl clear)

/-! ## Removing -/

theorem exec_removeRecords_ok (h : Exec e.1 fails (removeRecords s) f .kOk g) :
    g (Key 'p' s) = none ∧ g (Key 's' s) = none := by
  obtain rfl := exec_removeRecords_done h
  exact ⟨by rw [withoutRecords, commit_of_ne (Key_p_ne_s _ _), commit_same], commit_same _ _ _⟩

/-- After a successful removal's last step, `s` is not the last selection. -/
theorem exec_forgetLast_ok (hf : ¬ fails e.1.missing)
    (h : Exec e.1 fails (forgetLast s) f .kOk g) :
    (∀ t, Selection g t → t.eq s = false) ∧ ∀ k, k ≠ kLastSsid → g k = f k := by
  obtain ⟨r, answered, h⟩ := h
  rcases r with err | d
  · by_cases absent : err.val = .kNotFound
    · cases eq_missing (e := e) absent
      simp only [Prog.bind, absent, if_true] at h
      obtain ⟨-, rfl⟩ := h
      have free := answered.of_missing _ _ hf
      refine ⟨?_, fun _ _ => rfl⟩
      rintro t ⟨d, stored, -⟩
      cases free.symm.trans stored
    · simp only [Prog.bind, absent, if_false] at h
      exact absurd h.1.symm err.2
  obtain ⟨stored, -⟩ := answered.of_ok
  rcases decoded : decodeLast d with status | last
  · cases decodeLast_error decoded
    simp only [Prog.bind, decoded] at h
    exact absurd h.1 (by simp)
  simp only [Prog.bind, decoded] at h
  split at h
  · rename_i other
    obtain ⟨-, rfl⟩ := h
    refine ⟨?_, fun _ _ => rfl⟩
    rintro t ⟨d', stored', -, decoded'⟩
    cases stored.symm.trans stored'
    cases decoded.symm.trans decoded'
    simpa using other
  · obtain ⟨ok, i, erased, h⟩ := h
    cases ok with
    | true =>
      obtain ⟨-, rfl⟩ := h
      cases erased.committed
      refine ⟨?_, fun k other => commit_of_ne other⟩
      rintro t ⟨d, stored, -⟩
      rw [commit_same] at stored
      cases stored
    | false => exact Status.noConfusion h.1

/-- **A removal reported as successful leaves neither record** nor a last
selection of that network. -/
theorem exec_removeProfile_ok (hf : ¬ fails e.1.missing)
    (h : Exec e.1 fails (removeProfile s) f .kOk g) :
    g (Key 'p' s) = none ∧ g (Key 's' s) = none ∧ ∀ t, Selection g t → t.eq s = false := by
  obtain ⟨status, i, removed, h⟩ := (exec_bind e.1 fails _ _).mp h
  split at h
  · rename_i failed
    exact absurd h.1.symm failed
  rename_i ok
  cases not_not.mp ok
  obtain ⟨settings, secret⟩ := exec_removeRecords_ok removed
  obtain ⟨forgotten, rest⟩ := exec_forgetLast_ok hf h
  exact ⟨(rest _ (Key_p_ne_last _)).trans settings, (rest _ (Key_s_ne_last _)).trans secret,
    forgotten⟩

/-! ## Outcomes -/

/-- **Storage outcomes are truthful** under any failures of the backend. -/
theorem storage_outcomes (e : BackendErrors) (fails : ReadError → Prop)
    (hf : ∀ err, fails err → err.val ≠ .kNotFound) :
    (∀ (st : ProfileSettings) (u : CredentialUpdate) (f g : FieldMap),
      Exec e.1 fails (saveProfile st u) f .kOk g →
      g (Key 'p' st.connection.ssid) = some (EncodeProfile st) ∧
      (u.intent = .kReplace →
        g (Key 's' st.connection.ssid) =
          some (EncodeSecret st.connection.ssid u.replacement)) ∧
      (u.intent = .kClear → g (Key 's' st.connection.ssid) = none) ∧
      (u.intent = .kKeep →
        g (Key 's' st.connection.ssid) = f (Key 's' st.connection.ssid) ∧ SecretFits g st) ∧
      (u.intent = .kReplace ∨ u.intent = .kClear ∨ u.intent = .kKeep)) ∧
    (∀ (s : Ssid) (f g : FieldMap), Exec e.1 fails (removeProfile s) f .kOk g →
      g (Key 'p' s) = none ∧ g (Key 's' s) = none ∧ ∀ t, Selection g t → t.eq s = false) ∧
    (∀ (key : FieldKey) (d : List UInt8) (capacity : Nat) (f g : FieldMap) log status,
      Logged e.1 fails (writeVerified key d capacity) f log status g →
      Verdict key d log status g) ∧
    ∀ (s : Ssid) (f g : FieldMap) log status, s.size ≠ 0 →
      Logged e.1 fails (writeLastProfile s) f log status g →
      Verdict kLastSsid (s.size :: s.view) log status g := by
  have hf : ¬ fails e.1.missing := fun failing => hf _ failing e.2
  refine ⟨?_, ?_, ?_, ?_⟩
  · intro st u f g h
    exact exec_saveProfile_ok hf h
  · intro s f g h
    exact exec_removeProfile_ok hf h
  · intro key d capacity f g log status h
    exact writeVerified_verdict hf h
  · intro s f g log status nonempty h
    exact writeLastProfile_verdict hf nonempty h

/-- A write that is committed but reported as failed is found in its place, even
where the field could not be read before. -/
theorem logged_writeVerified_unreported (f : FieldMap) {err : ReadError} (failing : fails err)
    (fits : d.length ≤ capacity) :
    Logged e.1 fails (writeVerified key d capacity) f
      [.read key (.error err), .write key d false, .read key (.ok d)] .kOk
      (commit f key (some d)) := by
  have there : ReadOutcome e.1 fails (commit f key (some d)) key capacity (.ok d) :=
    .inl (answer_ok e.1 (commit_same _ _ _) fits).symm
  refine ⟨_, _, rfl, .inr ⟨err, failing, rfl⟩, false, _, _, rfl, .inl rfl, _, _, rfl, there, rfl,
    ?_, rfl⟩
  exact (if_pos rfl).symm

/-- A new network is saved over a backend that cannot read the secret and then
reports the write of it as failed. The save succeeds, and everything is stored. -/
theorem storage_outcomes_test :
    ∃ (log : List (Call FieldKey UInt8 ReadError)) (g : FieldMap),
      Logged MemoryStore.1 (fun err => err.val = .kStorageFailure)
        (saveProfile TestWpa2 { intent := .kReplace, replacement := TestPassphrase })
        (fun _ => none) log .kOk g ∧
      .write (Key 's' TestConfig.ssid) (EncodeSecret TestConfig.ssid TestPassphrase) false ∈ log ∧
      g (Key 'p' TestConfig.ssid) = some (EncodeProfile TestWpa2) ∧
      g (Key 's' TestConfig.ssid) = some (EncodeSecret TestConfig.ssid TestPassphrase) := by
  let fails : ReadError → Prop := fun err => err.val = .kStorageFailure
  let update : CredentialUpdate := { intent := .kReplace, replacement := TestPassphrase }
  let secret := EncodeSecret TestConfig.ssid TestPassphrase
  let halfway : FieldMap := commit (fun _ => none) (Key 's' TestConfig.ssid) (some secret)
  have failing : ∀ err, fails err → err.val ≠ .kNotFound :=
    fun err failed found => Status.noConfusion (failed.symm.trans found)
  have accepted : (run MemoryStore.1 (admitSave TestWpa2 update) fun _ => none).1 =
      .ok TestPassphrase := by decide +kernel
  obtain ⟨checks, admitted⟩ := (exec_iff_logged MemoryStore.1 fails).mp
    (exec_run MemoryStore.1 fails (admitSave TestWpa2 update) fun _ => none)
  rw [run_readOnly _ (readOnly_admitSave _ _), accepted] at admitted
  have written : Logged MemoryStore.1 fails
      (writeVerified (Key 's' TestConfig.ssid) secret kMaxSecretSize) (fun _ => none)
      [.read (Key 's' TestConfig.ssid) (.error ⟨.kStorageFailure, by decide⟩),
        .write (Key 's' TestConfig.ssid) secret false,
        .read (Key 's' TestConfig.ssid) (.ok secret)] .kOk halfway :=
    logged_writeVerified_unreported _ rfl (by decide)
  have saved : (run MemoryStore.1 (saveSettings TestWpa2 .kReplace) halfway).1 = .kOk := by
    decide +kernel
  obtain ⟨rest, settled⟩ := (exec_iff_logged MemoryStore.1 fails).mp
    (exec_run MemoryStore.1 fails (saveSettings TestWpa2 .kReplace) halfway)
  rw [saved] at settled
  have records : Logged MemoryStore.1 fails (saveRecords TestWpa2 .kReplace TestPassphrase)
      (fun _ => none) _ .kOk _ := written.seq _ _ settled
  have logged : Logged MemoryStore.1 fails (saveProfile TestWpa2 update) (fun _ => none) _ .kOk _ :=
    admitted.seq _ _ records
  obtain ⟨settings, replaced, -⟩ := (storage_outcomes MemoryStore fails failing).1
    TestWpa2 update _ _ (logged.exec _ _)
  exact ⟨_, _, logged, by simp [secret], settings, replaced rfl⟩

end FieldStore

end RooWifi
