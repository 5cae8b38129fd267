import RooWifi.Store.Recovery

/-! # Enumeration over the finite map

What `forEachProfile` visits after a sequence of calls are the SSIDs that the
map of `Store.Refinement` binds. -/
namespace RooWifi

open Storage FieldStore

variable {e : BackendErrors} {f : FieldMap} {m : Bindings} {s : Ssid}

theorem worn_exec {x : FieldMap × Bindings} (call : StoreCall) (worn : Worn e x.1) :
    Worn e (exec e x call).1 :=
  .call call worn (exec_reach e.1 _ (exec_run e.1 _ call.prog x.1))

theorem worn_afterCalls (e : BackendErrors) (calls : List StoreCall) :
    Worn e (afterCalls e calls).1 :=
  Machine.run_invariant_all (I := fun x : FieldMap × Bindings => Worn e x.1)
    (fun _ call worn => worn_exec call worn) .new calls

/-- The SSIDs with a record of their own are the bound ones. -/
theorem Refines.record_iff (h : Refines f m) (valid : s.Valid) :
    (∃ d p, f (Key 'p' s) = some d ∧ DecodeProfile d = .ok p ∧ p.connection.ssid.eq s = true) ↔
      m s.view ≠ none := by
  constructor
  · rintro ⟨d, p, stored, decoded, own⟩
    by_cases shadowed : m.Shadowed s
    · obtain ⟨t, valid', bound, same⟩ := shadowed
      obtain ⟨⟨st, c⟩, binding⟩ := Option.ne_none_iff_exists'.mp bound
      have binds := h.bound t st c valid' binding
      have valid'' := valid_of_Validate binds.valid
      have record : f (Key 'p' s) = some (EncodeProfile st) := by
        rw [← Key_inj.mpr same, binds.settings]
      cases record.symm.trans stored
      cases (DecodeProfile_EncodeProfile valid'').symm.trans decoded
      have view : st.connection.ssid.view = s.view :=
        (Ssid.view_trim valid''.2).symm.trans (Ssid.view_of_eq own)
      rwa [← view, binds.view]
    · cases (h.free s valid shadowed).1.symm.trans stored
  · intro bound
    obtain ⟨⟨st, c⟩, binding⟩ := Option.ne_none_iff_exists'.mp bound
    have binds := h.bound s st c valid binding
    have valid' := valid_of_Validate binds.valid
    refine ⟨_, _, binds.settings, DecodeProfile_EncodeProfile valid', ?_⟩
    exact (Ssid.eq_iff (a := st.connection.ssid.trim) valid' valid).mpr
      ((Ssid.view_trim valid'.2).trans binds.view)

/-- **Enumeration lists the map.** After any sequence of saves and removals on
an empty store, rejected ones included, `forEachProfile` returns `kOk` and
visits each bound SSID exactly once and no other one. -/
theorem listing_refines_map (e : BackendErrors) (calls : List StoreCall) (keys : List FieldKey)
    (once : keys.Nodup) (each : ∀ key, key ∈ keys ↔ (afterCalls e calls).1 key ≠ none) :
    ∃ visited,
      (run e.1 (enumerateProfiles (fun _ _ => true) keys) (afterCalls e calls).1).1 =
        (.kOk, visited) ∧
      (∀ s : Ssid, s.Valid →
        ((∃ v ∈ visited, v.eq s = true) ↔ (afterCalls e calls).2 s.view ≠ none)) ∧
      (∀ v ∈ visited, v.Valid) ∧ visited.Pairwise fun a b => a.eq b = false := by
  have refines := refines_afterCalls e calls
  have kept := (worn_afterCalls e calls).kept
  have stored : ∀ key ∈ keys, (afterCalls e calls).1 key ≠ none := fun key => (each key).mp
  have ok : (tour e (afterCalls e calls).1 always keys []).1 = .kOk :=
    (tour_ok_iff each).mpr kept.wellkept
  obtain ⟨new, visits, from_, apart⟩ := tour_sound (e := e) always [] stored
  rw [List.append_nil] at visits
  refine ⟨new, ?_, ?_, ?_, ?_⟩
  · rw [run_enumerateProfiles]
    exact Prod.ext ok visits
  · intro s valid
    rw [← visits]
    exact (tour_visits each ok s).trans (refines.record_iff valid)
  · intro v mem
    obtain ⟨key, -, p, -, ⟨d, -, decoded, -⟩, rfl⟩ := from_ v mem
    exact DecodeProfile_valid decoded
  · refine (apart once).imp fun {a b} differ => ?_
    exact Bool.eq_false_iff.mpr fun same => differ (Key_congr (Ssid.view_of_eq same) 'p')

/-- The test network, saved. -/
def TestCalls : List StoreCall := [.save { connection := TestConfig } { intent := .kClear }]

theorem listing_refines_map_test :
    ∃ visited,
      (run MemoryStore.1 (enumerateProfiles (fun _ _ => true) [Key 'p' TestConfig.ssid])
        (afterCalls MemoryStore TestCalls).1).1 = (.kOk, visited) ∧
      ∃ v ∈ visited, v.eq TestConfig.ssid = true := by
  have saves : run MemoryStore.1 (saveProfile { connection := TestConfig } { intent := .kClear })
      (fun _ => none) = (.kOk, saved (fun _ => none) { connection := TestConfig }
        { intent := .kClear }) :=
    run_saveProfile_ok.mpr ⟨{}, ⟨⟨by decide, .inl rfl, .inl rfl⟩, by decide,
      .inr (.inr ⟨rfl, rfl, rfl⟩), by decide⟩, rfl⟩
  have fields : (afterCalls MemoryStore TestCalls).1 =
      saved (fun _ => none) { connection := TestConfig } { intent := .kClear } :=
    congrArg Prod.snd saves
  have bound : (afterCalls MemoryStore TestCalls).2 TestConfig.ssid.view ≠ none := by
    simp only [afterCalls, TestCalls, Machine.run_cons, Machine.run_nil, exec, StoreCall.prog,
      saves, if_true, Bindings.accept, Function.update_self]
    exact Option.some_ne_none _
  have each : ∀ key, key ∈ [Key 'p' TestConfig.ssid] ↔
      (afterCalls MemoryStore TestCalls).1 key ≠ none := by
    intro key
    rw [fields, List.mem_singleton]
    constructor
    · rintro rfl
      exact ne_of_eq_of_ne (saved_settings _ { connection := TestConfig } _)
        (Option.some_ne_none _)
    · intro taken
      by_contra other
      by_cases secret : key = Key 's' TestConfig.ssid
      · exact taken (secret ▸ saved_secret _ { connection := TestConfig } _)
      · exact taken (saved_of_ne other secret)
  obtain ⟨visited, lists, all, -⟩ :=
    listing_refines_map MemoryStore TestCalls _ (List.nodup_singleton _) each
  exact ⟨visited, lists, (all TestConfig.ssid (by decide)).mpr bound⟩

end RooWifi
