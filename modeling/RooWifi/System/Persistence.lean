import RooWifi.Controller.LastProfile
import RooWifi.Store.Interruption
import RooWifi.Store.Isolation

/-! # The controller over a `FieldStore`

A device is a controller with the fields its store keeps on a reliable
backend. The store answers what `FieldStore` answers over these fields, and
each store call in the controller's trace commits what `FieldStore` commits.
The enabled flag is the backend's own, so its answers stay the environment's. -/
namespace RooWifi

open Storage FieldStore

/-- A status with its output, which keeps its initial value on failure. -/
def answered {α : Type} (initial : α) : Except Status α → Status × α
  | .ok a => (.kOk, a)
  | .error status => (status, initial)

/-- The fields after a store call of the trace. -/
def Controller.Action.commits (e : BackendErrors) (f : FieldMap) : Controller.Action → FieldMap
  | .saveProfile settings update _ => (run e.1 (FieldStore.saveProfile settings update) f).2
  | .removeProfile ssid _ => (run e.1 (FieldStore.removeProfile ssid) f).2
  | .writeLastProfile ssid _ => (run e.1 (FieldStore.writeLastProfile ssid) f).2
  | _ => f

structure Device where
  controller : Controller
  /-- The fields at the time this controller was built. -/
  initial : FieldMap

namespace Device

open Controller (Env Call Action Atom Options)

variable (e : BackendErrors)

def fieldsAfter (f : FieldMap) : List Action → FieldMap
  | [] => f
  | act :: t => act.commits e (fieldsAfter f t)

@[simp] theorem fieldsAfter_cons (f : FieldMap) (act : Action) (t : List Action) :
    fieldsAfter e f (act :: t) = act.commits e (fieldsAfter e f t) := rfl

def fields (d : Device) : FieldMap := fieldsAfter e d.initial d.controller.trace

/-- The answers of the store to the loads of one step and to the one
selection it may write. -/
def loads (d : Device) (env : Env) : Env :=
  let f := d.fields e
  { env with
    readLastProfile := answered {} (run e.1 FieldStore.readLastProfile f).1
    writeLastProfile :=
      (run e.1 (FieldStore.writeLastProfile d.controller.state_.desiredProfile) f).1
    loadProfile := fun _ ssid => answered {} (run e.1 (FieldStore.loadProfile ssid) f).1
    loadCredentials := fun ssid => answered {} (run e.1 (FieldStore.loadCredentials ssid) f).1 }

/-- The answers to one public call. -/
def serves (d : Device) (env : Env) (call : Call) : Env :=
  let env := d.loads e env
  match call with
  | .saveProfile settings update =>
    { env with saveProfile := (run e.1 (FieldStore.saveProfile settings update) (d.fields e)).1 }
  | .removeProfile ssid =>
    { env with removeProfile := (run e.1 (FieldStore.removeProfile ssid) (d.fields e)).1 }
  | _ => env

/-- A call, task or callback that meets this device's store. -/
def stocked (d : Device) : Atom → Atom
  | .call call env => .call call (d.serves e env call)
  | .work env => .work (d.loads e env)
  | .timer env => .timer (d.loads e env)
  | .reconnect env => .reconnect (d.loads e env)
  | .operationFinished result env => .operationFinished result (d.loads e env)
  | .linkChanged link env => .linkChanged link (d.loads e env)
  | .enabledChanged enabled => .enabledChanged enabled
  | .take => .take
  | .deliver listener change => .deliver listener change

inductive Event where
  | atom (a : Atom)
  /-- The controller is destroyed and another one built over the same store. -/
  | restart (options : Options) (seed : UInt32)

def step (d : Device) : Event → Device
  | .atom a => { d with controller := Controller.atom d.controller (d.stocked e a) }
  | .restart options seed =>
    { controller := Controller.init options seed, initial := d.fields e }

end Device

/-! ## Stored profiles -/

namespace FieldStore

variable {e : BackendErrors} {f g : FieldMap} {s : Ssid} {st : ProfileSettings}
  {u : CredentialUpdate} {c : Credentials}

/-- A profile for exactly this SSID is stored. -/
def Stored (e : BackendErrors) (f : FieldMap) (s : Ssid) : Prop :=
  (run e.1 (FieldStore.loadProfile s) f).1.isOk = true

instance (e : BackendErrors) (f : FieldMap) (s : Ssid) : Decidable (Stored e f s) :=
  inferInstanceAs (Decidable (_ = true))

/-- No last selection is set, or a profile for exactly that SSID is stored. -/
def Anchored (e : BackendErrors) (f : FieldMap) : Prop :=
  f kLastSsid = none ∨ ∃ s, Selection f s ∧ Stored e f s

theorem stored_iff : Stored e f s ↔ ∃ st c, Loads f s st c := by
  unfold Stored
  constructor
  · intro h
    rcases hr : (run e.1 (FieldStore.loadProfile s) f).1 with status | p
    · rw [hr] at h
      cases h
    · obtain ⟨c, hl, -⟩ := run_loadProfile.mp hr
      exact ⟨p.settings, c, hl⟩
  · rintro ⟨st, c, hl⟩
    have hr := run_loadProfile (e := e) (p := { settings := st, hasCredentials := c.size ≠ 0 }) |>.mpr
      ⟨c, hl, rfl⟩
    rw [hr]
    rfl

theorem Loads.rename {t : Ssid} (h : Loads f s st c) (ht : t.Valid) (hv : t.view = s.view) :
    Loads f t st c where
  valid := ht
  settings := by
    rw [Key_congr hv]
    exact h.settings
  owner := by
    have hst := Ssid.valid_of_eq h.owner h.valid
    exact (Ssid.eq_iff hst ht).mpr ((Ssid.view_of_eq h.owner).trans hv.symm)
  secret := by
    rw [Key_congr hv]
    refine h.secret.imp_right (.imp_right ?_)
    rintro ⟨d, r, hd, hlen, hc, hr⟩
    have hrv := Ssid.valid_of_eq hr h.valid
    exact ⟨d, r, hd, hlen, hc, (Ssid.eq_iff hrv ht).mpr ((Ssid.view_of_eq hr).trans hv.symm)⟩
  ok := h.ok

theorem Stored.rename {t : Ssid} (h : Stored e f s) (ht : t.Valid) (hv : t.view = s.view) :
    Stored e f t := by
  obtain ⟨st, c, hl⟩ := stored_iff.mp h
  exact stored_iff.mpr ⟨st, c, hl.rename ht hv⟩

/-- Calls about other networks leave a stored profile where it is. -/
theorem Stored.other (h : Stored e f s) (call : StoreCall) (hne : call.ssid.eq s = false) :
    Stored e (run e.1 call.prog f).2 s := by
  obtain ⟨st, c, hl⟩ := stored_iff.mp h
  have hx := exec_run e.1 (fun _ => False) call.prog f
  exact stored_iff.mpr ⟨st, c, loads_of_reach id call hne (exec_reach e.1 _ hx) hl⟩

/-- An accepted save leaves a profile that loads. -/
theorem Accepts.stored (ha : Accepts f st u c) : Stored e (saved f st u) st.connection.ssid := by
  have hp := saved_settings f st u
  have hs := saved_secret f st u
  by_cases hi : u.intent = .kReplace
  · rw [if_neg (hi ▸ by decide), if_pos hi] at hs
    exact stored_iff.mpr ⟨_, loads_new_replaced ha hi hp hs⟩
  · refine stored_iff.mpr ⟨_, loads_new_kept ha hi hp fun hc => ?_⟩
    rw [hs, if_neg hc, if_neg hi]

/-! ## What keeps the selection anchored -/

theorem not_anchored {d : List UInt8} (hd : f kLastSsid = some d) (hs : decodeLast d = .ok s)
    (lost : ¬ Stored e f s) : ¬ Anchored e f := by
  rintro (hn | ⟨t, ⟨d', hd', -, ht⟩, hst⟩)
  · cases hd.symm.trans hn
  · cases hd.symm.trans hd'
    cases hs.symm.trans ht
    exact lost hst

theorem Anchored.saveProfile (h : Anchored e f) (st : ProfileSettings) (u : CredentialUpdate) :
    Anchored e (run e.1 (FieldStore.saveProfile st u) f).2 := by
  obtain ⟨c, ha, hr⟩ | ⟨-, hr⟩ := run_saveProfile (e := e) f st u
  · have hlast : (run e.1 (FieldStore.saveProfile st u) f).2 kLastSsid = f kLastSsid := by
      rw [hr]
      exact saved_of_ne (Key_p_ne_last _).symm (Key_s_ne_last _).symm
    obtain hn | ⟨s, hsel, hst⟩ := h
    · exact .inl (hlast.trans hn)
    refine .inr ⟨s, hsel.congr hlast, ?_⟩
    by_cases hne : st.connection.ssid.eq s = true
    · rw [hr]
      exact ha.stored.rename hsel.valid (Ssid.view_of_eq hne).symm
    · exact hst.other (.save st u) (Bool.eq_false_iff.mpr hne)
  · rw [hr]
    exact h

theorem Anchored.removeProfile (h : Anchored e f) (t : Ssid) :
    Anchored e (run e.1 (FieldStore.removeProfile t) f).2 := by
  by_cases ho : Owned f t
  · obtain hn | ⟨s, hsel, hst⟩ := h
    · have hn' := (withoutRecords_last f t).trans hn
      rw [run_removeProfile ho, run_forgetLast_none hn']
      exact .inl hn'
    have hr := run_removeProfile (e := e) ho
    rw [run_forgetLast (hsel.congr (withoutRecords_last f t))] at hr
    by_cases hst' : s.eq t = true
    · rw [hr, if_pos hst']
      exact .inl (commit_same (withoutRecords f t) kLastSsid none)
    · rw [if_neg hst'] at hr
      have hne : t.eq s = false := by
        by_contra hts
        have hv := Ssid.view_of_eq (Bool.not_eq_false _ ▸ hts)
        exact hst' ((Ssid.eq_iff hsel.valid ho.valid).mpr hv.symm)
      refine .inr ⟨s, ?_, hst.other (.remove t) hne⟩
      rw [hr]
      exact hsel.congr (withoutRecords_last f t)
  · rw [(run_removeProfile_rejected ho).2]
    exact h

/-- The selection says nothing about what is stored. -/
theorem stored_select (d : Option (List UInt8)) :
    Stored e (commit f kLastSsid d) s ↔ Stored e f s := by
  rw [stored_iff, stored_iff]
  have hp (g : FieldMap) (d) : commit g kLastSsid d (Key 'p' s) = g (Key 'p' s) :=
    commit_of_ne (Key_p_ne_last s)
  have hs (g : FieldMap) (d) : commit g kLastSsid d (Key 's' s) = g (Key 's' s) :=
    commit_of_ne (Key_s_ne_last s)
  constructor
  · rintro ⟨st, c, hl⟩
    exact ⟨st, c, hl.congr (hp f d).symm fun _ => (hs f d).symm⟩
  · rintro ⟨st, c, hl⟩
    exact ⟨st, c, hl.congr (hp f d) fun _ => hs f d⟩

/-- A selection is anchored if and only if its profile is stored when it is made. -/
theorem anchored_select (hs : s.Valid) :
    Anchored e (run e.1 (FieldStore.writeLastProfile s) f).2 ↔ Stored e f s := by
  have hsize := not_or.mp hs.size_ne
  rw [FieldStore.writeLastProfile, if_neg hsize.2, if_neg hsize.1, run_writeVerified]
  have hview : ({ bytes := .load 32 s.view, size := s.size } : Ssid).view = s.view :=
    Ssid.view_trim hs.2
  dsimp only
  constructor
  · intro h
    obtain hn | ⟨t, ⟨d, hd, -, ht⟩, hst⟩ := h
    · rw [commit_same] at hn
      cases hn
    · rw [commit_same] at hd
      cases hd
      rw [decodeLast_view hs] at ht
      cases ht
      exact ((stored_select _).mp hst).rename hs hview.symm
  · intro h
    refine .inr ⟨_, ⟨_, commit_same _ _ _, ?_, decodeLast_view hs⟩, ?_⟩
    · rw [List.length_cons, Ssid.length_view hs.2]
      have := hs.2
      omega
    · exact ((stored_select _).mpr h).rename hs hview

/-- Other SSIDs are refused, or clear the selection. -/
theorem Anchored.select (h : Anchored e f) (hs : s.Valid → Stored e f s) :
    Anchored e (run e.1 (FieldStore.writeLastProfile s) f).2 := by
  by_cases hv : s.Valid
  · exact (anchored_select hv).mpr (hs hv)
  by_cases hlong : s.size > 32
  · rw [FieldStore.writeLastProfile, if_pos hlong]
    exact h
  by_cases hempty : s.size = 0
  · rw [FieldStore.writeLastProfile, if_neg hlong, if_pos hempty]
    exact .inl (commit_same f kLastSsid none)
  · refine absurd ⟨?_, ?_⟩ hv
    · exact Nat.one_le_iff_ne_zero.mpr fun h0 => hempty (UInt8.toNat_inj.mp h0)
    · exact UInt8.le_iff_toNat_le.mp (UInt8.not_lt.mp hlong)

end FieldStore

/-! ## What a controller commits -/

namespace Controller

variable {c d : Controller} {e : BackendErrors} {f : FieldMap}

/-- A completion commits the selection of the connect that succeeded. -/
theorem stationFinished_fields (env : Env) (r : OperationResult) (c : Controller) :
    Device.fieldsAfter e f (c.stationFinished env r).trace =
      if c.Succeeds r ∧ c.state_.desiredProfile.size ≠ 0 then
        (run e.1 (FieldStore.writeLastProfile c.state_.desiredProfile)
          (Device.fieldsAfter e f c.trace)).2
      else Device.fieldsAfter e f c.trace := by
  have hstored : Device.fieldsAfter e f (c.stored env r ++ c.trace) =
      if c.Succeeds r ∧ c.state_.desiredProfile.size ≠ 0 then
        (run e.1 (FieldStore.writeLastProfile c.state_.desiredProfile)
          (Device.fieldsAfter e f c.trace)).2
      else Device.fieldsAfter e f c.trace := by
    unfold Controller.stored
    by_cases he : c.transition_ = .kEnable ∧ c.outcome r = .kOk
    · have hs : ¬ (c.Succeeds r ∧ c.state_.desiredProfile.size ≠ 0) := fun h =>
        absurd (he.1.symm.trans h.1.1) (by simp)
      rw [if_pos he, if_neg hs]
      rfl
    · rw [if_neg he]
      split <;> rfl
  obtain ⟨_, _, _, _, _, x, hx, h⟩ := stationFinished_cases env r c
  have hx' : x.trace = c.stored env r ++ c.trace := by rw [hx]
  rw [h, changed_eq]
  split
  · obtain ⟨_, _, _, _, hf, -⟩ := connectionFailed_cases (env.now 4) (c.connectStatus env r)
      (if c.stationTimedOut_ then c.timeoutFailure_ else r.failure) r.nativeCode r.hasNativeCode
      (x.record (.failed r.id))
    rw [hf]
    change Device.fieldsAfter e f x.trace = _
    rw [hx', hstored]
  · change Device.fieldsAfter e f x.trace = _
    rw [hx', hstored]

end Controller

namespace FieldStore

variable {e : BackendErrors} {f : FieldMap} {t u : List Controller.Action}

open Controller (remembered)

theorem Anchored.commits {act : Controller.Action} (h : Anchored e f) (hn : remembered [act] = []) :
    Anchored e (act.commits e f) := by
  cases act with
  | saveProfile settings update => exact h.saveProfile settings update
  | removeProfile ssid => exact h.removeProfile ssid
  | writeLastProfile ssid status => cases hn
  | _ => exact h

/-- Nothing but a new selection can lose its profile. -/
theorem Anchored.suffix (h : Anchored e (Device.fieldsAfter e f t)) (grown : t <:+ u)
    (hr : remembered u = remembered t) : Anchored e (Device.fieldsAfter e f u) := by
  obtain ⟨new, rfl⟩ := grown
  have hnew : remembered new = [] := by
    unfold remembered at hr ⊢
    rwa [List.filterMap_append, List.append_left_eq_self] at hr
  clear hr
  induction new with
  | nil => exact h
  | cons act new ih =>
    unfold remembered at hnew
    rw [← List.singleton_append, List.filterMap_append, List.append_eq_nil_iff] at hnew
    exact (ih hnew.2).commits hnew.1

end FieldStore

namespace Device

open Controller (Env Call Action Atom Options Exclusive core)

variable {e : BackendErrors} {d : Device}

/-- The completion of the connect that current intent asked for selects a
profile that is not stored any more. -/
def Strays (e : BackendErrors) (d : Device) : Event → Prop
  | .atom (.operationFinished r _) =>
    (core false d.controller).Completes r ∧ d.controller.Succeeds r ∧
      d.controller.state_.desiredProfile.Valid ∧
      ¬ Stored e (d.fields e) d.controller.state_.desiredProfile
  | _ => False

instance (e : BackendErrors) (d : Device) : ∀ i, Decidable (Strays e d i)
  | .atom (.operationFinished _ _) => inferInstanceAs (Decidable (_ ∧ _))
  | .atom (.call _ _) | .atom (.work _) | .atom (.timer _) | .atom (.reconnect _)
  | .atom (.linkChanged _ _) | .atom (.enabledChanged _) | .atom .take | .atom (.deliver _ _)
  | .restart _ _ => inferInstanceAs (Decidable False)

theorem step_exclusive (d : Device) (i : Event) (he : Exclusive (core false d.controller)) :
    Exclusive (core false (step e d i).controller) := by
  cases i with
  | atom a => exact Controller.atom_exclusive _ he
  | restart options seed => exact Controller.exclusive_init options seed

/-- Whatever does not complete a native operation selects nothing. -/
theorem anchored_other (he : Exclusive (core false d.controller)) (hi : Anchored e (d.fields e))
    {a : Atom} (other : ∀ r env, a ≠ .operationFinished r env) :
    Anchored e (fieldsAfter e d.initial (Controller.atom d.controller a).trace) :=
  hi.suffix (Controller.atom_suffix a he)
    ((Controller.atom_effects d.controller a).forgets other).1

theorem anchored_finished (hi : Anchored e (d.fields e)) (r : OperationResult) (env : Env) :
    Anchored e ((step e d (.atom (.operationFinished r env))).fields e) ↔
      ¬ Strays e d (.atom (.operationFinished r env)) := by
  have hd : (step e d (.atom (.operationFinished r env))).fields e = fieldsAfter e d.initial
      ((d.controller.record (.delivered r)).onOperationFinished (d.loads e env) r).trace := rfl
  rw [hd]
  obtain ⟨scan, h⟩ | ⟨completes, h⟩ | ⟨foreign, -, h⟩ :=
    Controller.onOperationFinished_cases (d := false)
      (c := d.controller.record (.delivered r)) (d.loads e env) r
  · have foreign : ¬ (core false d.controller).Completes r := fun hc =>
      Controller.Transition.kind_ne_scan _ (hc.kind.symm.trans scan.kind)
    obtain ⟨_, _, _, hs, -⟩ :=
      Controller.scanFinished_cases (d.loads e env) r (d.controller.record (.delivered r))
    rw [h, hs, Controller.changed_eq]
    exact ⟨fun _ hc => foreign hc.1, fun _ => hi⟩
  · have completes : (core false d.controller).Completes r := { completes with }
    rw [h, Controller.stationFinished_fields]
    change Anchored e (if d.controller.Succeeds r ∧ d.controller.state_.desiredProfile.size ≠ 0
      then (run e.1 (FieldStore.writeLastProfile d.controller.state_.desiredProfile)
        (d.fields e)).2 else d.fields e) ↔ _
    split
    · rename_i succeeds
      by_cases valid : d.controller.state_.desiredProfile.Valid
      · rw [anchored_select valid]
        exact ⟨fun hs hc => hc.2.2.2 hs, fun hc => not_not.mp fun hs =>
          hc ⟨completes, succeeds.1, valid, hs⟩⟩
      · exact ⟨fun _ hc => valid hc.2.2.1, fun _ => hi.select fun hv => absurd hv valid⟩
    · rename_i fails
      refine ⟨fun _ hc => fails ⟨hc.2.1, fun h0 => ?_⟩, fun _ => hi⟩
      exact hc.2.2.1.size_ne (.inl h0)
  · have foreign : ¬ (core false d.controller).Completes r := fun hc => foreign { hc with }
    rw [h]
    exact ⟨fun _ hc => foreign hc.1, fun _ => hi⟩

/-- **One step.** -/
theorem step_anchored (he : Exclusive (core false d.controller)) (hi : Anchored e (d.fields e))
    (i : Event) : Anchored e ((step e d i).fields e) ↔ ¬ Strays e d i := by
  cases i with
  | restart options seed => exact ⟨fun _ => id, fun _ => hi⟩
  | atom a =>
    cases a with
    | operationFinished r env => exact anchored_finished hi r env
    | _ => exact ⟨fun _ => id, fun _ => anchored_other he hi fun _ _ h => by cases h⟩

/-! ## Restoration -/

/-- A request with a stored profile is not refused for the want of one. -/
theorem requestConnection_found (env : Env) {config : ConnectionConfig} {secret : Credentials}
    (profile : Ssid) (automatic : Bool) (c : Controller) (h : Validate config secret = .kOk) :
    (c.requestConnection env config secret profile automatic).1 ≠ .kNotFound ∧
      ((c.requestConnection env config secret profile automatic).2.state_.status = .kNotFound →
        c.state_.status = .kNotFound) := by
  have hadmission : c.admission ≠ .kNotFound := by
    unfold Controller.admission
    repeat' split
    all_goals exact Status.noConfusion
  have hsupport : ValidateSupport config env.support ≠ .kNotFound := by
    unfold ValidateSupport
    split <;> exact Status.noConfusion
  unfold Controller.requestConnection
  split
  · exact ⟨hadmission, id⟩
  split
  · exact ⟨Status.noConfusion, id⟩
  rw [h, if_neg (not_not.mpr rfl)]
  split
  · exact ⟨hsupport, id⟩
  dsimp only
  split
  · exact ⟨Status.noConfusion, id⟩
  · refine ⟨Status.noConfusion, fun hs => ?_⟩
    rw [Controller.newIntent_eq] at hs
    cases hs

theorem run_readLastProfile {f : FieldMap} {s : Ssid} (h : Selection f s) :
    (run e.1 FieldStore.readLastProfile f).1 = .ok s := by
  obtain ⟨d, hd, hlen, hs⟩ := h
  simp only [FieldStore.readLastProfile, readField, Prog.bind_eq, Prog.bind, run,
    answer_ok e.1 hd hlen, hs]

theorem run_readLastProfile_none {f : FieldMap} (h : f kLastSsid = none) :
    (run e.1 FieldStore.readLastProfile f).1 = .error .kNotFound := by
  simp only [FieldStore.readLastProfile, readField, Prog.bind_eq, Prog.bind, run,
    answer_missing e.1 h, e.2]

/-- Restoring a stored profile is not refused for the want of one. -/
theorem restoreLast_found {s : Ssid} (hs : Stored e (d.fields e) s) (env : Env)
    (c : Controller) :
    (c.restoreLast (d.loads e env) .kOk s).1 ≠ .kNotFound ∧
      ((c.restoreLast (d.loads e env) .kOk s).2.state_.status = .kNotFound →
        c.state_.status = .kNotFound) := by
  obtain ⟨st, secret, hl⟩ := stored_iff.mp hs
  have hprofile (nth : Nat) : (d.loads e env).loadProfile nth s =
      (.kOk, { settings := st, hasCredentials := secret.size ≠ 0 }) := by
    have hr : (run e.1 (FieldStore.loadProfile s) (d.fields e)).1 =
      .ok { settings := st, hasCredentials := secret.size ≠ 0 } :=
      run_loadProfile.mpr ⟨secret, hl, rfl⟩
    simp only [loads, hr, answered]
  have hsecret : (d.loads e env).loadCredentials s = (.kOk, secret) := by
    simp only [loads, run_loadCredentials.mpr ⟨st, hl⟩, answered]
  have hload (nth : Nat) : c.loadProfile (d.loads e env) nth s = if !c.running_ then
      (.kNotStarted, {}) else (.kOk, { settings := st, hasCredentials := secret.size ≠ 0 }) := by
    unfold Controller.loadProfile
    rw [if_neg hl.valid.size_ne, hprofile]
  have hempty : s.size ≠ 0 := fun h0 => hl.valid.size_ne (.inl h0)
  unfold Controller.restoreLast
  rw [if_pos ⟨rfl, hempty⟩, hload]
  by_cases running : c.running_
  · rw [if_neg (by simp [running])]
    dsimp only
    split
    · unfold Controller.connectSaved
      rw [hload, if_neg (by simp [running]), hsecret]
      exact requestConnection_found _ _ _ _ hl.ok
    · exact ⟨Status.noConfusion, id⟩
  · rw [if_pos (by simpa using running)]
    dsimp only
    rw [if_neg (by simp)]
    exact ⟨Status.noConfusion, id⟩

theorem restoreProfile_found (hi : Anchored e (d.fields e)) (env : Env) (c : Controller)
    (h : (c.restoreProfile (d.loads e env)).state_.status = .kNotFound) :
    c.state_.status = .kNotFound := by
  obtain hn | ⟨s, hsel, hs⟩ := hi
  · have hread : (d.loads e env).readLastProfile = (.kNotFound, {}) := by
      simp only [loads, run_readLastProfile_none hn, answered]
    simp only [Controller.restoreProfile, hread, if_true] at h
    exact h
  · have hread : (d.loads e env).readLastProfile = (.kOk, s) := by
      simp only [loads, run_readLastProfile hsel, answered]
    obtain ⟨hstatus, hkept⟩ := restoreLast_found hs env { c with restoreProfile_ := false }
    simp only [Controller.restoreProfile, hread] at h
    rw [if_neg (by simp)] at h
    split at h
    · rw [Controller.changed_eq] at h
      exact absurd h hstatus
    · exact hkept h

/-! ## Runs -/

/-- A controller built over the fields `f`. -/
def built (options : Options) (seed : UInt32) (f : FieldMap) : Device :=
  { controller := Controller.init options seed, initial := f }

/-- **The last selection is anchored** in every state of a run from an unset
one if and only if no step of the run completes a connect to a profile that
was removed since the connect was admitted. While that holds, restoring the
last profile, after a restart or when the radio is enabled again, never ends
with `kNotFound`. -/
theorem last_selection_anchored (e : BackendErrors) (options : Options) (seed : UInt32)
    (f : FieldMap) (unset : f kLastSsid = none) (events : List Event) :
    ((∀ n, Anchored e ((Machine.run (step e) (built options seed f) (events.take n)).fields e)) ↔
      Machine.Along (step e) (fun d i => ¬ Strays e d i) (built options seed f) events) ∧
    (Machine.Along (step e) (fun d i => ¬ Strays e d i) (built options seed f) events →
      let d := Machine.run (step e) (built options seed f) events
      ∀ (env : Env) (c : Controller),
        (c.restoreProfile (d.loads e env)).state_.status = .kNotFound →
          c.state_.status = .kNotFound) := by
  have exclusive : Exclusive (core false (built options seed f).controller) :=
    Controller.exclusive_init options seed
  have always : (∀ n, Anchored e ((Machine.run (step e) (built options seed f)
      (events.take n)).fields e)) ↔
        Machine.Along (step e) (fun d i => ¬ Strays e d i) (built options seed f) events :=
    Machine.always_iff_along (J := fun d => Exclusive (core false d.controller))
      (I := fun d => Anchored e (d.fields e)) (fun d i he => step_exclusive d i he)
      (fun d i he hi => step_anchored he hi i) exclusive (.inl unset)
  refine ⟨always, ?_⟩
  intro unstrayed d env c h
  have hd := always.mpr unstrayed events.length
  rw [List.take_length] at hd
  exact restoreProfile_found hd env c h

/-- A network is saved and a connect to it is admitted, as operation 2. -/
def admitted : List Event :=
  (Controller.started ++ [
    Atom.call (.saveProfile { connection := TestConfig, autoConnect := true }
      { intent := .kClear }) .willing,
    Atom.call (.connectSaved TestConfig.ssid) .willing, Atom.work .willing]).map .atom

/-- That connect succeeds. -/
def completed : List Event :=
  [Atom.linkChanged { connectionId := 2, phase := .kAddressReady } .willing,
    Atom.operationFinished { id := 2, kind := .kConnect } .willing].map .atom

theorem last_selection_anchored_test :
    let d := Machine.run (step MemoryStore) (built {} 1 fun _ => none) (admitted ++ completed)
    d.fields MemoryStore kLastSsid ≠ none ∧ Anchored MemoryStore (d.fields MemoryStore) :=
  ⟨by decide +kernel, (last_selection_anchored MemoryStore {} 1 (fun _ => none) rfl
    (admitted ++ completed)).1.mpr (by decide +kernel) (admitted ++ completed).length⟩

/-- The profile is removed while its connect is under way. -/
def removedMeanwhile : List Event :=
  admitted ++ .atom (.call (.removeProfile TestConfig.ssid) .willing) :: completed

/-- The connect then selects a profile that is gone. -/
theorem removed_profile_selected : ¬ ∀ e options seed f events, f kLastSsid = none →
    Anchored e ((Machine.run (step e) (built options seed f) events).fields e) := by
  intro h
  refine not_anchored (e := MemoryStore) (d := [7, 110, 101, 116, 119, 111, 114, 107])
    (s := TestConfig.ssid) ?_ ?_ ?_ (h MemoryStore {} 1 (fun _ => none) removedMeanwhile rfl)
  all_goals decide +kernel

/-- The next start fails to restore it. -/
example : (Machine.run (step MemoryStore) (built {} 1 fun _ => none) (removedMeanwhile ++
    .restart {} 1 :: Controller.started.map .atom)).controller.state_.status = .kNotFound := by
  decide +kernel

end Device
end RooWifi
