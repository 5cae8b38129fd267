import RooWifi.Controller.Exclusion

/-! # Every connect command is authorised

`warrant` reads from the trace what the caller asked for: the connection
request behind the current intent, whether a connect was already made on it,
and whether the caller asked to stay offline. Only the reload of the requested
saved profile, right after a retry timer fired, renews it. -/
namespace RooWifi.Controller

/-- What a connect command may rest on. -/
structure Warrant where
  /-- The last connection request accepted for this intent; a direct one names
  no profile. -/
  request : Option (ConnectionConfig × Credentials × Ssid) := none
  /-- A connect was issued for this intent, and its profile was not found
  willing to connect automatically since. -/
  spent : Bool := false
  /-- The caller disconnected or disabled the radio and did not take it back. -/
  offline : Bool := false
  /-- The retry timer has just fired. -/
  fired : Bool := false

namespace Warrant

/-- The stored profile `ssid` is the one the last request asked for. -/
def Saved (w : Warrant) (ssid : Ssid) : Prop :=
  ssid.Valid ∧ ∃ config credentials profile,
    w.request = some (config, credentials, profile) ∧ ssid.eq profile = true

instance (w : Warrant) (ssid : Ssid) : Decidable (w.Saved ssid) :=
  match hr : w.request with
  | none => .isFalse (by rintro ⟨-, _, _, _, h, -⟩; rw [hr] at h; cases h)
  | some (config, credentials, profile) =>
    if h : ssid.Valid ∧ ssid.eq profile = true then
      .isTrue ⟨h.1, config, credentials, profile, hr, h.2⟩
    else .isFalse (by
      rintro ⟨hv, _, _, _, h', he⟩
      rw [hr] at h'
      cases h'
      exact h ⟨hv, he⟩)

def observe (w : Warrant) : Action → Warrant
  | .intent _ => { w with request := none, spent := false, fired := false }
  | .requested config credentials profile _ =>
      { w with request := some (config, credentials, profile), fired := false }
  | .retryFired => { w with fired := true }
  | .reloaded ssid .kOk true =>
      { w with spent := w.spent && !decide (w.Saved ssid), fired := false }
  | .connect .. => { w with spent := true, fired := false }
  | .returned .disconnect .kOk | .returned (.setEnabled false) .kOk =>
      { w with offline := true, fired := false }
  | .returned (.setEnabled true) .kOk | .returned (.connect ..) .kOk
  | .returned (.connectSaved _) .kOk => { w with offline := false, fired := false }
  | _ => { w with fired := false }

/-- The connect commands and profile reloads this warrant covers. -/
def Allows (w : Warrant) : Action → Prop
  | .connect _ config credentials _ => w.spent = false ∧ w.offline = false ∧
      ∃ config' credentials' profile, w.request = some (config', credentials', profile) ∧
        SameConfig config config' = true ∧ SameCredentials credentials credentials' = true
  | .reloaded .. => w.fired = true
  | _ => True

end Warrant

/-- The audit of the connect commands. -/
def authorisation : Audit Action Warrant := ⟨{}, Warrant.observe, Warrant.Allows⟩

def warrant (t : List Action) : Warrant := authorisation.account t

/-- Every connect command was covered when it was issued. -/
def Warranted (t : List Action) : Prop := authorisation.Clean t

@[simp] theorem warrant_cons (a : Action) (t : List Action) :
    warrant (a :: t) = (warrant t).observe a := rfl

/-! ## The comparisons of connection requests -/

@[simp] theorem SameConfig_refl (c : ConnectionConfig) : SameConfig c c = true := by
  simp [SameConfig]

@[simp] theorem SameCredentials_refl (c : Credentials) : SameCredentials c c = true := by
  simp [SameCredentials]

theorem eq_refl_of_saved {profile : Ssid} {automatic : Bool}
    (h : profile = {} ∧ automatic = false ∨ profile.Valid) : profile.eq profile = true := by
  obtain ⟨rfl, -⟩ | h := h
  · decide
  · exact h.eq_self

/-! ## The invariant -/

/-- Why the next connect command will be covered. -/
structure Authorised (c : Core) : Prop where
  warranted : Warranted c.trace
  unstarted : c.running = false → c.closed = false → (warrant c.trace).offline = false
  /-- A restore is only asked for while the caller wants the radio on and idle. -/
  restoring : c.running = true → c.restore = true → c.desired = .kDisconnected
  offline : c.running = true → (warrant c.trace).offline = true →
    c.desired ≠ .kConnected ∧ c.restore = false
  request : c.running = true → c.faulted = false → c.desired = .kConnected →
    ∃ config credentials profile,
      (warrant c.trace).request = some (config, credentials, profile) ∧
      SameConfig c.config config = true ∧ SameCredentials c.credentials credentials = true ∧
      c.profile.eq profile = true
  spent : c.running = true → c.faulted = false → (warrant c.trace).spent = true →
    c.attempted = c.revision ∨ (c.transition = .kConnect ∧ c.active = c.revision)

theorem Authorised.noted {c : Core} (hi : Authorised c) {act : Action} (h : c.Silent act) :
    Authorised (c.note act) := by
  cases act with
  | begin | writeEnabled | writeLastProfile | saveProfile | removeProfile | notified | delivered =>
    exact { hi with warranted := hi.warranted.cons }
  | returned call status =>
    cases call with
    | disconnect =>
      cases status with
      | kOk =>
        obtain ⟨hr, hd, hrest⟩ := h.resolve_left (by simp)
        exact { hi with
          warranted := hi.warranted.cons
          unstarted := fun h => absurd (hr.symm.trans h) (by simp)
          offline := fun _ _ => ⟨hd, hrest⟩ }
      | _ => exact { hi with warranted := hi.warranted.cons }
    | setEnabled enabled =>
      cases enabled with
      | true =>
        cases status with
        | kOk => exact { hi with
            warranted := hi.warranted.cons
            unstarted := fun _ _ => rfl
            offline := fun _ h => by cases h }
        | _ => exact { hi with warranted := hi.warranted.cons }
      | false =>
        cases status with
        | kOk =>
          obtain ⟨hr, hen⟩ := h.resolve_left (by simp)
          have hd : c.desired = .kDisabled := by simpa using hen
          exact { hi with
            warranted := hi.warranted.cons
            unstarted := fun h => absurd (hr.symm.trans h) (by simp)
            offline := fun hr _ => ⟨by simp [Core.note, hd], by
              cases hrest : c.restore with
              | false => exact hrest
              | true => exact absurd (hd.symm.trans (hi.restoring hr hrest)) (by simp)⟩ }
        | _ => exact { hi with warranted := hi.warranted.cons }
    | connect =>
      cases status with
      | kOk => exact (h.resolve_left (by simp)).elim
      | _ => exact { hi with warranted := hi.warranted.cons }
    | connectSaved =>
      cases status with
      | kOk => exact (h.resolve_left (by simp)).elim
      | _ => exact { hi with warranted := hi.warranted.cons }
    | _ => exact { hi with warranted := hi.warranted.cons }
  | _ => exact h.elim

/-- A station command is covered, and a connect spends the warrant. -/
theorem Authorised.command {c : Core} (hi : Authorised c) {t : Transition} (h : c.Due t)
    (status : Status) : Authorised (c.issued t status) := by
  have hA : (warrant c.trace).spent = true → c.attempted = c.revision := fun hs =>
    (hi.spent h.running h.faulted hs).resolve_right fun hc => by rw [h.free] at hc; cases hc.1
  cases t with
  | kNone => exact h.chosen.elim
  | kConnect =>
    obtain ⟨-, hinit, -, -, hd⟩ := h.chosen
    have hspent : (warrant c.trace).spent = false := by
      cases hs : (warrant c.trace).spent with
      | false => rfl
      | true => exact absurd (hA hs) (h.needed.resolve_left (by simp [hinit]))
    have hoff : (warrant c.trace).offline = false := by
      cases ho : (warrant c.trace).offline with
      | false => rfl
      | true => exact absurd hd (hi.offline h.running ho).1
    obtain ⟨config, credentials, profile, hreq, h1, h2, -⟩ := hi.request h.running h.faulted hd
    exact { hi with
      warranted := hi.warranted.cons ⟨hspent, hoff, config, credentials, profile, hreq, h1, h2⟩
      spent := fun _ _ _ => .inr ⟨rfl, rfl⟩ }
  | _ => exact { hi with
      warranted := hi.warranted.cons
      spent := fun _ _ hs => .inl (hA hs) }

theorem Move.authorised {A : Assumptions} {a b : Core} (h : Move A a b) (hi : Authorised a) :
    Authorised b := by
  cases h with
  | noted act h => exact hi.noted h
  | begun enabled fresh opened =>
    have hoff := hi.unstarted fresh opened
    exact {
      warranted := hi.warranted.cons.cons
      unstarted := fun h => absurd h (by simp [Core.newIntent])
      restoring := fun _ (h : enabled = true) => by simp [Core.newIntent, h]
      offline := fun _ h => absurd (hoff.symm.trans h) (by simp)
      request := fun _ _ h => by cases enabled <;> cases h
      spent := fun _ _ h => absurd h (by simp [Core.newIntent, Warrant.observe]) }
  | shutdown opened =>
    exact {
      warranted := by
        simp only [Core.shutdown]
        split
        · exact hi.warranted.cons
        · exact hi.warranted
      unstarted := fun _ h => absurd h (by simp [Core.shutdown])
      restoring := fun h => absurd h (by simp [Core.shutdown])
      offline := fun h => absurd h (by simp [Core.shutdown])
      request := fun h => absurd h (by simp [Core.shutdown])
      spent := fun h => absurd h (by simp [Core.shutdown]) }
  | faulted status running sound notOk =>
    exact { hi with
      warranted := hi.warranted.cons
      request := fun _ h => absurd h (by simp [Core.fault])
      spent := fun _ h => absurd h (by simp [Core.fault]) }
  | setEnabled enabled h =>
    cases enabled with
    | false =>
      exact {
        warranted := hi.warranted.cons.cons
        unstarted := fun hr => absurd (h.running.symm.trans hr) (by simp)
        restoring := fun _ h => by cases h
        offline := fun _ _ => ⟨by simp [Core.note, Core.newIntent], rfl⟩
        request := fun _ _ h => by cases h
        spent := fun _ _ h => by cases h }
    | true =>
      exact {
        warranted := hi.warranted.cons.cons
        unstarted := fun hr => absurd (h.running.symm.trans hr) (by simp)
        restoring := fun _ _ => rfl
        offline := fun _ h => by cases h
        request := fun _ _ h => by cases h
        spent := fun _ _ h => by cases h }
  | withdrawn h =>
    have hd : (if a.desired = Target.kDisabled then Target.kDisabled else .kDisconnected) ≠
        .kConnected := by split <;> simp
    exact {
      warranted := hi.warranted.cons.cons
      unstarted := fun hr => absurd (h.running.symm.trans hr) (by simp)
      restoring := fun _ h => by cases h
      offline := fun _ _ => ⟨hd, rfl⟩
      request := fun _ _ h => absurd h hd
      spent := fun _ _ h => by cases h }
  | relaxed h offline ok =>
    exact { hi with
      warranted := hi.warranted
      restoring := fun _ h => by cases h
      offline := fun _ _ => ⟨offline, rfl⟩ }
  | accepted call config credentials profile automatic h explicit enabled saved =>
    cases call <;> first
      | exact absurd explicit Bool.false_ne_true
      | exact {
          warranted := hi.warranted.cons.cons.cons
          unstarted := fun hr => absurd (h.running.symm.trans hr) (by simp)
          restoring := fun _ h => by cases h
          offline := fun _ h => by cases h
          request := fun _ _ _ => ⟨config, credentials, profile, rfl, SameConfig_refl config,
            SameCredentials_refl credentials, eq_refl_of_saved saved⟩
          spent := fun _ _ h => by cases h }
  | repeated call config credentials profile automatic h explicit connected saved target sameConfig
      sameCredentials =>
    cases call <;> first
      | exact absurd explicit Bool.false_ne_true
      | exact { hi with
          warranted := hi.warranted.cons.cons
          unstarted := fun hr => absurd (h.running.symm.trans hr) (by simp)
          offline := fun _ h => by cases h
          request := fun _ _ _ =>
            ⟨config, credentials, profile, rfl, sameConfig, sameCredentials, target⟩ }
  | scanQueued h enabled idle free settled => exact { hi with warranted := hi.warranted.cons }
  | scanDropped running queued => exact { hi with warranted := hi.warranted }
  | scanCancelled running scanning => exact { hi with warranted := hi.warranted.cons }
  | scanKept status running scanning notOk => exact { hi with warranted := hi.warranted.cons }
  | superseded running sound connecting fresh stale =>
    exact { hi with warranted := hi.warranted.cons }
  | expired running sound outstanding connecting fresh =>
    exact { hi with warranted := hi.warranted.cons }
  | stuck timedOut answer status running sound connecting fresh refused notOk =>
    exact { hi with
      warranted := hi.warranted.cons.cons
      request := fun _ h => absurd h (by simp [Core.fault])
      spent := fun _ h => absurd h (by simp [Core.fault]) }
  | dispatched due => exact { hi with warranted := hi.warranted }
  | rested h => exact { hi with warranted := hi.warranted }
  | aimed free =>
    exact { hi with
      warranted := hi.warranted
      spent := fun hr hf hs => (hi.spent hr hf hs).imp id fun h => ⟨h.1, rfl⟩ }
  | issued t h allowed =>
    exact { hi.command h .kOk with
      warranted := (hi.command h .kOk).warranted }
  | refused t status h notOk quiet allowed =>
    exact { hi.command h status with
      warranted := (hi.command h status).warranted
      spent := fun _ _ _ => .inl rfl }
  | connectRefused status r level h failure =>
    exact { hi.command h status with
      warranted := (hi.command h status).warranted.cons
      spent := fun _ _ _ => .inl rfl }
  | settled h free noScan noRetry idle initialized enabled noRestore offline =>
    exact { hi with
      warranted := hi.warranted
      spent := fun _ _ _ => .inl rfl }
  | restored config credentials profile automatic h pending enabled saved =>
    exact {
      warranted := hi.warranted.cons.cons
      unstarted := hi.unstarted
      restoring := fun _ h => by cases h
      -- whoever is offline has no restore left
      offline := fun hr ho => absurd (pending.symm.trans (hi.offline hr ho).2) (by simp)
      request := fun _ _ _ => ⟨config, credentials, profile, rfl, SameConfig_refl config,
        SameCredentials_refl credentials,
        eq_refl_of_saved (.inr saved : profile = {} ∧ automatic = false ∨ _)⟩
      spent := fun _ _ h => by cases h }
  | restoredSame config credentials profile automatic running pending connected =>
    exact absurd (connected.symm.trans (hi.restoring running pending)) (by simp)
  | unrestored status running pending outcome =>
    exact { hi with
      warranted := hi.warranted
      restoring := fun _ h => by cases h
      offline := fun hr ho => ⟨(hi.offline hr ho).1, rfl⟩ }
  | scanStarted size h free queued => exact { hi with warranted := hi.warranted.cons }
  | scanRefused size status h free queued notOk => exact { hi with warranted := hi.warranted.cons }
  | scanFinished r h => exact { hi with warranted := hi.warranted.cons }
  | enableFinished r written h allowed enabling ok =>
    have hA := fun hs => (hi.spent h.running h.faulted hs).resolve_right
      fun hc => by rw [enabling] at hc; cases hc.1
    split
    · exact { hi with
        warranted := hi.warranted.cons
        spent := fun _ _ hs => .inl (by
          simp only [Core.concluded]
          split
          · exact hA hs
          · rfl) }
    · exact { hi with
        warranted := hi.warranted.cons
        spent := fun _ _ hs => .inl (hA hs) }
  | staleFinished r h allowed other stale =>
    exact { hi with
      warranted := hi.warranted.cons
      spent := fun hr hf hs => .inl ((hi.spent hr hf hs).resolve_right fun hc => stale hc.2) }
  | stationFinished r h allowed current other failed =>
    exact { hi with
      warranted := hi.warranted.cons
      spent := fun hr hf hs => .inl (by
        simp only [Core.concluded]
        split
        · exact (hi.spent hr hf hs).resolve_right fun hc => other hc.1
        · rfl) }
  | connectFinished r status h allowed current connecting source quiet =>
    exact { hi with
      warranted := hi.warranted.cons
      spent := fun _ _ _ => .inl rfl }
  | connectFailed r status retry level saved h allowed current connecting failure persisted =>
    obtain rfl | ⟨profile, rfl⟩ := persisted
    · exact { hi with
        warranted := hi.warranted.cons.cons
        spent := fun _ _ _ => .inl rfl }
    · exact { hi with
        warranted := hi.warranted.cons.cons.cons
        spent := fun _ _ _ => .inl rfl }
  | retryIdle h => exact { hi with warranted := hi.warranted.cons }
  | retryDenied profile status automatic running denied =>
    cases status with
    | kOk =>
      obtain rfl : automatic = false := denied.resolve_left (by simp)
      exact { hi with warranted := hi.warranted.cons.cons rfl }
    | _ => exact { hi with warranted := hi.warranted.cons.cons rfl }
  | retryGranted running sound wanted automatic saved =>
    obtain ⟨config, credentials, profile, hreq, -, -, heq⟩ := hi.request running sound wanted
    have hsaved : ({ warrant a.trace with fired := true } : Warrant).Saved a.profile :=
      ⟨saved, config, credentials, profile, hreq, heq⟩
    exact { hi with
      warranted := hi.warranted.cons.cons rfl
      spent := fun _ _ hs => absurd hs (by
        simp only [warrant_cons, Warrant.observe]
        simp [hsaved]) }
  | stable running => exact { hi with warranted := hi.warranted }
  | addressExpired stable r level running sound allowed failure =>
    exact { hi with warranted := hi.warranted.cons }
  | enabledReported enabled running sound allowed => exact { hi with warranted := hi.warranted }
  | linkReady link h allowed ready plain => exact { hi with warranted := hi.warranted }
  | linkRecovered link h allowed recovers =>
    exact { hi with
      warranted := hi.warranted
      spent := fun _ _ _ => .inl rfl }
  | linkPartial link deadline h allowed unready up armed =>
    exact { hi with warranted := hi.warranted }
  | linkIdle link h allowed idle kept => exact { hi with warranted := hi.warranted }
  | linkLost link status r level h allowed loses reason failure =>
    exact { hi with warranted := hi.warranted.cons }

theorem authorised_init (options : Options) (seed : UInt32) :
    Authorised (core false (init options seed)) where
  warranted := Audit.clean_nil
  unstarted _ _ := rfl
  restoring h := by cases h
  offline h := by cases h
  request h := by cases h
  spent h := by cases h

theorem run_authorised (options : Options) (seed : UInt32) (es : List Input) :
    let c := core false (Machine.run step (init options seed) es)
    Exclusive c ∧ Authorised c :=
  Machine.run_invariant_of_path (P := fun _ _ => True) (f := core false) (M := Move .none)
    (J := fun c => Exclusive c ∧ Authorised c)
    (fun c i _ hi => step_path hi.1.nextId_ne (permits_none c i))
    (fun _ _ hm hi => ⟨hm.exclusive hi.1, hm.authorised hi.2⟩)
    ⟨exclusive_init options seed, authorised_init options seed⟩
    (Machine.along_of_forall (fun _ _ => trivial) _ es)

/-- **Every connect command is authorised.** It carries the settings and
credentials of the request behind the current intent; one command follows each
request, and another one only a retry timer whose reload found the requested
saved profile willing; none follows an accepted `disconnect` or
`setEnabled(false)` until the caller connects or enables again. -/
theorem connects_authorised (options : Options) (seed : UInt32) (es : List Input) :
    Warranted (Machine.run step (init options seed) es).trace :=
  (run_authorised options seed es).2.warranted

end RooWifi.Controller
