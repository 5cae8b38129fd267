import RooWifi.Store.Mutation

/-! # Isolation between networks

No call for one SSID destroys, changes or leaks the profile of another one,
whatever their hashes, whatever is stored and whatever fails. -/
namespace RooWifi

open Storage

namespace FieldStore

variable {e : BackendErrors} {fails : ReadError → Prop} {f g : FieldMap} {s : Ssid}
  {st : ProfileSettings} {u : CredentialUpdate} {c : Credentials}

/-! ## Nothing is mutated before the identity check -/

theorem reach_removeRecords_owned (hf : ¬ fails e.1.missing)
    (hr : Reach e.1 fails (removeRecords s) f g) : g = f ∨ Owned f s := by
  rcases reach_bind_readOnly e.1 fails (readOnly_checkIdentity s) hr with h | ⟨identity, hi, hr⟩
  · exact .inl h
  split at hr
  · exact .inl hr
  · rename_i hid
    cases not_not.mp hid
    exact .inr (owned_of_exec hf hi)

/-- A call that has changed anything has passed the identity check. -/
theorem reach_owned (hf : ¬ fails e.1.missing) (call : StoreCall)
    (hr : Reach e.1 fails call.prog f g) : g = f ∨ Owned f call.ssid := by
  cases call with
  | save st u =>
    rcases reach_bind_readOnly e.1 fails (readOnly_admitSave st u) hr with h | ⟨r, hx, hr⟩
    · exact .inl h
    · rcases r with status | c
      · exact .inl hr
      · exact .inr (accepts_of_exec hf hx).owned
  | remove s =>
    rcases reach_bind e.1 fails hr with h | ⟨x, i, hx, hlast⟩
    · exact reach_removeRecords_owned hf h
    · rcases exec_removeRecords hx with ⟨-, hne, rfl⟩ | ⟨hi, -⟩
      · rw [if_pos hne] at hlast
        exact .inl hlast
      · exact .inr (owned_of_exec hf hi)

/-- The fields a call for `s` may change. -/
theorem reach_frame (call : StoreCall) (hr : Reach e.1 fails call.prog f g) {k : FieldKey}
    (hp : k ≠ Key 'p' call.ssid) (hs : k ≠ Key 's' call.ssid) (hl : k ≠ kLastSsid) :
    g k = f k := by
  cases call with
  | save st u =>
    refine (reach_saveProfile hr).frame fun v hm => ?_
    rcases hm with hm | ⟨-, hm⟩ | ⟨-, hm⟩
    · exact hp (Prod.ext_iff.mp hm).1
    · exact hs (Prod.ext_iff.mp hm).1
    · exact hs (Prod.ext_iff.mp hm).1
  | remove s =>
    refine (reach_removeProfile hr).frame fun v hm => ?_
    rcases hm with (hm | hm) | ⟨-, hm⟩
    · exact hp (Prod.ext_iff.mp hm).1
    · exact hs (Prod.ext_iff.mp hm).1
    · exact hl (Prod.ext_iff.mp hm).1

/-- A loadable profile shares no key with an SSID that passes the check. -/
theorem hash_ne_of_loads {b : Ssid} (ho : Owned f s) (hl : Loads f b st c)
    (hne : s.eq b = false) : fnv1a b ≠ fnv1a s := by
  intro hk
  obtain ⟨d, hd, -, hp⟩ := hl.settings
  rw [Key_inj.mpr hk] at hd
  rcases ho.settings with hn | ⟨d', p, hd', -, hp', hps⟩
  · cases hn.symm.trans hd
  · cases hd.symm.trans hd'
    cases hp.symm.trans hp'
    have hview : s.view = b.view := (Ssid.view_of_eq hps).symm.trans (Ssid.view_of_eq hl.owner)
    rw [(Ssid.eq_iff ho.valid hl.valid).mpr hview] at hne
    cases hne

/-- Another network's profile loads as before, wherever the call stopped. -/
theorem loads_of_reach (hf : ¬ fails e.1.missing) (call : StoreCall) {b : Ssid}
    (hne : call.ssid.eq b = false) (hr : Reach e.1 fails call.prog f g) (hl : Loads f b st c) :
    Loads g b st c := by
  rcases reach_owned hf call hr with rfl | ho
  · exact hl
  · have hk := hash_ne_of_loads ho hl hne
    refine hl.congr ?_ fun _ => ?_
    · exact reach_frame call hr (fun h => hk (Key_inj.mp h)) (Key_p_ne_s _ _) (Key_p_ne_last b)
    · exact reach_frame call hr (Key_s_ne_p _ _) (fun h => hk (Key_inj.mp h)) (Key_s_ne_last b)

/-! ## Loads under failing reads -/

theorem loads_of_exec_loadProfile {p : Profile}
    (h : Exec e.1 fails (loadProfile s) f (.ok p) g) :
    ∃ c, Loads f s p.settings c ∧ p.hasCredentials = decide (c.size ≠ 0) := by
  obtain ⟨r, hr, h⟩ := exec_bind_readOnly e.1 fails (readOnly_read s) h
  rcases r with status | ⟨st, c⟩
  · cases h.1
  · cases h.1
    exact ⟨c, loads_of_exec hr, rfl⟩

theorem loads_of_exec_loadCredentials
    (h : Exec e.1 fails (loadCredentials s) f (.ok c) g) : ∃ st, Loads f s st c := by
  obtain ⟨r, hr, h⟩ := exec_bind_readOnly e.1 fails (readOnly_read s) h
  rcases r with status | ⟨st, c⟩
  · cases h.1
  · cases h.1
    exact ⟨st, loads_of_exec hr⟩

/-! ## Reported collisions -/

theorem returns_saveRecords (st : ProfileSettings) (intent : CredentialIntent)
    (c : Credentials) : Returns (· ≠ .kHashCollision) (saveRecords st intent c) := by
  have hclear : Returns (· ≠ .kHashCollision) (clearSecret st.connection.ssid) := by
    have herase : Returns (· ≠ Status.kHashCollision)
        (eraseField (Key 's' st.connection.ssid) >>= fun ok =>
          .ret (if ok then .kOk else .kStorageFailure)) := by
      intro ok
      cases ok <;> exact Status.noConfusion
    refine returns_bind (returns_true _) fun r _ => ?_
    split
    · split
      · exact Status.noConfusion
      · exact herase
    · exact herase
  have hset : Returns (· ≠ .kHashCollision) (saveSettings st intent) := by
    refine returns_bind (returns_writeVerified _ _ _) fun status hs => ?_
    split
    · exact hs
    split
    · exact hclear
    · exact Status.noConfusion
  unfold saveRecords
  split
  · refine returns_bind (returns_writeVerified _ _ _) fun status hs => ?_
    split
    · exact hs
    · exact hset
  · exact hset

/-- A save that reports a collision has changed nothing. -/
theorem exec_save_collision (h : Exec e.1 fails (saveProfile st u) f .kHashCollision g) :
    g = f := by
  obtain ⟨r, -, h⟩ := exec_bind_readOnly e.1 fails (readOnly_admitSave st u) h
  rcases r with status | c
  · exact h.2
  · have := exec_returns e.1 fails (returns_saveRecords st u.intent c) h
    exact absurd rfl this

/-- The read of the last selection reports a collision by itself. -/
def LastCollides (log : List (Call FieldKey UInt8 ReadError)) : Prop :=
  ∃ err : ReadError, .read kLastSsid (.error err) ∈ log ∧ err.val = .kHashCollision

/-- A removal that has erased something before its read of the last selection
reports a collision. -/
def Spoiled (call : StoreCall) (f : FieldMap) (log : List (Call FieldKey UInt8 ReadError)) : Prop :=
  ∃ s, call = .remove s ∧ LastCollides log ∧ (f (Key 'p' s) ≠ none ∨ f (Key 's' s) ≠ none)

/-- Up to the last selection a removal reads the two records only. -/
theorem reads_removeRecords (s : Ssid) :
    Reads {key | key = Key 'p' s ∨ key = Key 's' s} (removeRecords s) := by
  have secret : Reads {key | key = Key 'p' s ∨ key = Key 's' s} (checkSecretIdentity s) := by
    refine ⟨.inr rfl, fun r => ?_⟩
    rcases r with err | d
    · exact trivial
    · dsimp only [Prog.bind]
      split <;> exact trivial
  have identity : Reads {key | key = Key 'p' s ∨ key = Key 's' s} (checkIdentity s) := by
    unfold checkIdentity
    split
    · exact trivial
    refine ⟨.inl rfl, fun r => ?_⟩
    rcases r with err | d
    · dsimp only [Prog.bind]
      split
      · exact secret
      · exact trivial
    · dsimp only [Prog.bind]
      split
      · exact trivial
      · split
        · exact trivial
        · exact secret
  refine reads_bind identity fun status => ?_
  split
  · exact trivial
  refine fun ok => ?_
  dsimp only [Prog.bind]
  split
  · exact trivial
  · exact fun ok => trivial

variable {log : List (Call FieldKey UInt8 ReadError)} {status : Status}

theorem removeRecords_quiet (h : Logged e.1 fails (removeRecords s) f log status g) :
    ¬ LastCollides log := by
  rintro ⟨err, mem, -⟩
  rcases h.reads _ _ (reads_removeRecords s) mem with records | records
  · exact Key_p_ne_last s records.symm
  · exact Key_s_ne_last s records.symm

/-- The end of a removal reports a collision exactly where its read does. -/
theorem forgetLast_collision (h : Logged e.1 fails (forgetLast s) f log status g) :
    (status = .kHashCollision ↔ LastCollides log) ∧ (status = .kHashCollision → g = f) := by
  obtain ⟨r, rest, rfl, -, h⟩ := h
  rcases r with err | d
  · obtain ⟨rfl, rfl, rfl⟩ := h
    refine ⟨?_, fun _ => rfl⟩
    constructor
    · intro collision
      refine ⟨err, List.mem_cons_self, ?_⟩
      split at collision
      · cases collision
      · exact collision
    · rintro ⟨err', mem, collision⟩
      obtain ⟨-, same⟩ := Call.read.inj (List.mem_singleton.mp mem)
      obtain rfl := Except.error.inj same
      rw [if_neg (by rw [collision]; decide)]
      exact collision
  -- what was read is no error, and nothing is read after it
  have quiet {rest : List (Call FieldKey UInt8 ReadError)}
      (unread : ∀ key r, .read key r ∉ rest) :
      ¬ LastCollides (.read kLastSsid (.ok d) :: rest) := by
    rintro ⟨err, mem, -⟩
    rcases List.mem_cons.mp mem with first | later
    · cases first
    · exact unread _ _ later
  have never {rest : List (Call FieldKey UInt8 ReadError)} (other : status ≠ .kHashCollision)
      (unread : ∀ key r, .read key r ∉ rest) :
      (status = .kHashCollision ↔ LastCollides (.read kLastSsid (.ok d) :: rest)) ∧
        (status = .kHashCollision → g = f) :=
    ⟨⟨fun same => absurd same other, fun collides => absurd collides (quiet unread)⟩,
      fun same => absurd same other⟩
  rcases decoded : decodeLast d with corrupt | t
  · cases decodeLast_error decoded
    simp only [Prog.bind, decoded] at h
    obtain ⟨rfl, rfl, -⟩ := h
    exact never (by simp) (by simp)
  simp only [Prog.bind, decoded] at h
  split at h
  · obtain ⟨rfl, rfl, -⟩ := h
    exact never (by simp) (by simp)
  · obtain ⟨ok, i, rest, rfl, -, rfl, rfl, -⟩ := h
    refine never ?_ (by simp)
    cases ok <;> decide

theorem withoutRecords_eq (f : FieldMap) (s : Ssid) :
    withoutRecords f s = f ↔ f (Key 'p' s) = none ∧ f (Key 's' s) = none := by
  constructor
  · intro same
    constructor
    · rw [← same, withoutRecords, commit_of_ne (Key_p_ne_s s s), commit_same]
    · rw [← same, withoutRecords, commit_same]
  · rintro ⟨settings, secret⟩
    funext key
    by_cases hs : key = Key 's' s
    · rw [hs, withoutRecords, commit_same, secret]
    by_cases hp : key = Key 'p' s
    · rw [hp, withoutRecords, commit_of_ne (Key_p_ne_s s s), commit_same, settings]
    · rw [withoutRecords, commit_of_ne hs, commit_of_ne hp]

/-- **A reported collision.** It has changed nothing, unless the last read of a
removal reports one after the records were erased. -/
theorem collision_iff (call : StoreCall) (h : Logged e.1 fails call.prog f log status g) :
    (status = .kHashCollision → g = f) ↔ ¬ Spoiled call f log := by
  cases call with
  | save st u =>
    refine iff_of_true (fun collision => ?_) ?_
    · subst collision
      exact exec_save_collision h.exec
    · rintro ⟨s, other, -⟩
      cases other
  | remove s =>
    obtain ⟨first, last, removed, i, rfl, records, h⟩ := Logged.bind _ _ h
    have quiet := removeRecords_quiet records
    split at h
    · -- the removal ends before its last read
      rename_i failed
      obtain ⟨rfl, rfl, rfl⟩ := h
      refine iff_of_true (fun collision => ?_) ?_
      · subst collision
        rcases exec_removeRecords records.exec with ⟨-, -, same⟩ | ⟨-, ok | failure⟩
        · exact same
        · cases ok
        · cases failure
      · rintro ⟨s, -, collides, -⟩
        rw [List.append_nil] at collides
        exact quiet collides
    · rename_i ok
      cases not_not.mp ok
      obtain rfl := exec_removeRecords_done records.exec
      obtain ⟨reported, kept⟩ := forgetLast_collision h
      have collides : LastCollides (first ++ last) ↔ LastCollides last := by
        constructor
        · rintro ⟨err, mem, collision⟩
          rcases List.mem_append.mp mem with earlier | mem
          · exact absurd ⟨err, earlier, collision⟩ quiet
          · exact ⟨err, mem, collision⟩
        · rintro ⟨err, mem, collision⟩
          exact ⟨err, List.mem_append_right _ mem, collision⟩
      have unchanged : (status = .kHashCollision → g = f) ↔
          (status = .kHashCollision → withoutRecords f s = f) := by
        refine forall_congr' fun collision => ?_
        rw [kept collision]
      rw [unchanged, reported, withoutRecords_eq]
      constructor
      · rintro same ⟨t, removed, collision, stored⟩
        obtain rfl := StoreCall.remove.inj removed
        obtain ⟨settings, secret⟩ := same (collides.mp collision)
        exact stored.elim (absurd settings) (absurd secret)
      · intro sound collision
        by_contra stored
        refine sound ⟨s, rfl, collides.mpr collision, ?_⟩
        tauto

/-- **Isolation.** Under any failures, a call for one network leaves the
profiles and credentials of others as they were; what loads for a network
comes from records that name it; and a call that reports a collision has
changed nothing, exactly unless it is a removal whose last read reports one
after its erases. -/
theorem isolation (e : BackendErrors) (fails : ReadError → Prop) (hf : ¬ fails e.1.missing) :
    (∀ (call : StoreCall) (B : Ssid) (f g : FieldMap), call.ssid.eq B = false →
      Reach e.1 fails call.prog f g →
      (∀ p, (run e.1 (loadProfile B) f).1 = .ok p → (run e.1 (loadProfile B) g).1 = .ok p) ∧
      ∀ c, (run e.1 (loadCredentials B) f).1 = .ok c →
        (run e.1 (loadCredentials B) g).1 = .ok c) ∧
    (∀ (A : Ssid) (f g : FieldMap),
      (∀ p, Exec e.1 fails (loadProfile A) f (.ok p) g →
        ∃ c, Loads f A p.settings c ∧ p.hasCredentials = decide (c.size ≠ 0)) ∧
      ∀ c, Exec e.1 fails (loadCredentials A) f (.ok c) g → ∃ st, Loads f A st c) ∧
    ∀ (call : StoreCall) (f g : FieldMap) log status,
      Logged e.1 fails call.prog f log status g →
      ((status = .kHashCollision → g = f) ↔ ¬ Spoiled call f log) := by
  refine ⟨?_, ?_, ?_⟩
  · intro call B f g hne hr
    constructor
    · intro p hp
      obtain ⟨c, hl, hh⟩ := run_loadProfile.mp hp
      exact run_loadProfile.mpr ⟨c, loads_of_reach hf call hne hr hl, hh⟩
    · intro c hc
      obtain ⟨st, hl⟩ := run_loadCredentials.mp hc
      exact run_loadCredentials.mpr ⟨st, loads_of_reach hf call hne hr hl⟩
  · intro A f g
    exact ⟨fun p => loads_of_exec_loadProfile, fun c => loads_of_exec_loadCredentials⟩
  · intro call f g log status h
    exact collision_iff call h

/-- The test network's settings as the only field. -/
def TestOpenFields : FieldMap := fun k =>
  if k = Key 'p' TestConfig.ssid then some (EncodeProfile { connection := TestConfig }) else none

/-- The same settings under the key of another network. -/
def TestCollidingFields : FieldMap := fun k =>
  if k = Key 'p' { size := 3 } then some (EncodeProfile { connection := TestConfig }) else none

/-- Removing another network leaves them readable, storage failures included;
and a save that meets the settings of another network leaves them alone. -/
theorem isolation_test :
    (run MemoryStore.1 (loadProfile TestConfig.ssid)
      (run MemoryStore.1 (removeProfile { size := 3 }) TestOpenFields).2).1 =
        .ok { settings := { connection := TestConfig } } ∧
      run MemoryStore.1 (saveProfile
          { connection := { TestConfig with ssid := { size := 3 } } } { intent := .kClear })
        TestCollidingFields = (.kHashCollision, TestCollidingFields) := by
  obtain ⟨others, -, collisions⟩ :=
    isolation MemoryStore (fun err => err.val = .kStorageFailure) (by decide)
  constructor
  · have reached := exec_reach MemoryStore.1 (fun err => err.val = .kStorageFailure)
      (exec_run MemoryStore.1 _ (removeProfile { size := 3 }) TestOpenFields)
    refine (others (.remove { size := 3 }) TestConfig.ssid _ _ (by decide) reached).1 _ ?_
    decide +kernel
  · have save := exec_run MemoryStore.1 (fun err => err.val = .kStorageFailure) (saveProfile
      { connection := { TestConfig with ssid := { size := 3 } } } { intent := .kClear })
      TestCollidingFields
    obtain ⟨log, logged⟩ := (exec_iff_logged _ _).mp save
    have unspoiled : ¬ Spoiled (.save { connection := { TestConfig with ssid := { size := 3 } } }
        { intent := .kClear }) TestCollidingFields log := by
      rintro ⟨s, other, -⟩
      cases other
    have reported : (run MemoryStore.1 (saveProfile
        { connection := { TestConfig with ssid := { size := 3 } } } { intent := .kClear })
        TestCollidingFields).1 = .kHashCollision := by decide +kernel
    exact Prod.ext reported ((collisions (.save _ _) _ _ _ _ logged).mpr unspoiled reported)

/-- A removal whose last read fails with a collision reports one after erasing. -/
theorem removeProfile_reports_collision :
    ¬ (MemoryStore.1.missing.val = .kHashCollision) ∧
      Exec MemoryStore.1 (fun err => err.val = .kHashCollision) (removeProfile TestConfig.ssid)
        TestOpenFields .kHashCollision (withoutRecords TestOpenFields TestConfig.ssid) ∧
      withoutRecords TestOpenFields TestConfig.ssid ≠ TestOpenFields := by
  refine ⟨by decide, ?_, ?_⟩
  · have owned : Owned TestOpenFields TestConfig.ssid :=
      run_checkIdentity_iff (e := MemoryStore).mp (by decide +kernel)
    have erased := exec_run MemoryStore.1 (fun err => err.val = .kHashCollision)
      (removeRecords TestConfig.ssid) TestOpenFields
    rw [run_removeRecords owned] at erased
    refine (exec_bind MemoryStore.1 _ _ _).mpr ⟨_, _, erased, ?_⟩
    exact ⟨.error ⟨.kHashCollision, by decide⟩, .inr ⟨_, rfl, rfl⟩, rfl, rfl⟩
  · rw [ne_eq, withoutRecords_eq, TestOpenFields, if_pos rfl]
    exact fun none => Option.some_ne_none _ none.1

end FieldStore

end RooWifi
