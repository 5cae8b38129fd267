import RooWifi.Controller.Effects

/-! # Only the current saved profile is remembered

`intention` reads from the trace which request the current intent came from
and which intent the last connect command was for. The profile that a
completion remembers is the one both of them name. -/
namespace RooWifi.Controller

/-- The current intent and the last connect command. -/
structure Intention where
  revision : Nat := 0
  /-- The profile of the request that was accepted as this intent; a direct
  one names none. -/
  profile : Option Ssid := none
  /-- The id of the last connect command, with the revision it was made for. -/
  command : Option (OperationId × Nat) := none
deriving DecidableEq

namespace Intention

def observe (i : Intention) : Action → Intention
  | .intent revision => { i with revision := revision, profile := none }
  | .requested _ _ profile _ => { i with profile := i.profile.or (some profile) }
  | .connect id _ _ _ => { i with command := some (id, i.revision) }
  | _ => i

theorem observe_plain (i : Intention) {act : Action} (h : act.plain = true) : i.observe act = i := by
  cases act <;> first | rfl | cases h

end Intention

def intention : List Action → Intention
  | [] => {}
  | a :: t => (intention t).observe a

@[simp] theorem intention_cons (a : Action) (t : List Action) :
    intention (a :: t) = (intention t).observe a := rfl

/-- The last profiles handed to the store, newest first. -/
def remembered (t : List Action) : List (Ssid × Status) :=
  t.filterMap fun | .writeLastProfile ssid status => some (ssid, status) | _ => none

variable {c : Controller}

/-! ## What current intent stands for -/

/-- Intent and the running connect are what the trace says they are. -/
structure Minded (c : Controller) : Prop where
  revision : (intention c.trace).revision = c.state_.revision
  profile : c.state_.desired = .kConnected →
    (intention c.trace).profile = some c.state_.desiredProfile
  active : c.activeRevision_ ≤ c.state_.revision
  command : c.transition_ = .kConnect →
    (intention c.trace).command = some (c.stationId_, c.activeRevision_)
  wanted : c.transition_ = .kConnect → c.activeRevision_ = c.state_.revision →
    c.state_.desired = .kConnected

namespace Minded

@[simp] theorem changed_iff (change : Change) : Minded (c.changed change) ↔ Minded c := by
  rw [changed_eq]
  exact ⟨fun h => { h with }, fun h => { h with }⟩

/-- An entry that says nothing new about intent. -/
theorem noted (hi : Minded c) {act : Action}
    (he : (intention c.trace).observe act = intention c.trace) : Minded (c.record act) where
  revision := (congrArg _ he).trans hi.revision
  profile h := (congrArg _ he).trans (hi.profile h)
  active := hi.active
  command h := (congrArg _ he).trans (hi.command h)
  wanted := hi.wanted

theorem record (hi : Minded c) {act : Action} (plain : act.plain = true) :
    Minded (c.record act) :=
  hi.noted (Intention.observe_plain _ plain)

/-- A running connect is for an older intent once there is a new one. -/
theorem newIntent (hi : Minded c) {x : Controller} (revision : x.state_.revision = c.state_.revision)
    (active : x.activeRevision_ = c.activeRevision_) (transition : x.transition_ = c.transition_)
    (station : x.stationId_ = c.stationId_) (trace : x.trace = c.trace) :
    (intention x.newIntent.trace).revision = x.newIntent.state_.revision ∧
      x.newIntent.activeRevision_ < x.newIntent.state_.revision ∧
      (x.newIntent.transition_ = .kConnect → (intention x.newIntent.trace).command =
        some (x.newIntent.stationId_, x.newIntent.activeRevision_)) := by
  rw [newIntent_eq]
  refine ⟨rfl, ?_, fun ht => ?_⟩
  · exact Nat.lt_succ_of_le (active ▸ revision ▸ hi.active)
  · simp only [intention_cons, Intention.observe, trace, station, active]
    exact hi.command (transition ▸ ht)

theorem connectionFailed (hi : Minded c) (now : Nat) (status : Status)
    (failure : ConnectionFailure) (code : Int) (hasCode : Bool) :
    Minded (c.connectionFailed now status failure code hasCode) := by
  obtain ⟨_, _, _, _, h, -⟩ := connectionFailed_cases now status failure code hasCode c
  rw [h]
  exact { hi with }

theorem scanFinished (hi : Minded c) (env : Env) (r : OperationResult) :
    Minded (c.scanFinished env r) := by
  obtain ⟨status, records, snapshot, h, -⟩ := scanFinished_cases env r c
  have hc := (changed_iff (c := { c with
    scanId_ := 0
    state_.scan := .kIdle
    state_.scanStatus := status
    records_ := records
    snapshot_ := snapshot }) .kScan).mpr { hi with }
  rw [h]
  exact { hc with }

/-- What a completion stores is no part of intent. -/
theorem intention_stored (env : Env) (r : OperationResult) (c : Controller) (t : List Action) :
    intention (c.stored env r ++ t) = intention t := by
  unfold stored
  split
  · rfl
  split <;> rfl

theorem stationFinished (hi : Minded c) (env : Env) (r : OperationResult) :
    Minded (c.stationFinished env r) := by
  obtain ⟨_, _, _, _, _, x, hx, h⟩ := stationFinished_cases env r c
  have hx' : Minded x := by
    rw [hx]
    exact {
      revision := (congrArg _ (intention_stored env r c c.trace)).trans hi.revision
      profile := fun hd => (congrArg _ (intention_stored env r c c.trace)).trans (hi.profile hd)
      active := hi.active
      command := (by cases ·)
      wanted := (by cases ·) }
  rw [h]
  refine { (changed_iff (c := if c.Fails env r then _ else x) .kStation).mpr ?_ with }
  split
  · exact (hx'.record rfl).connectionFailed _ _ _ _ _
  · exact hx'

theorem hear (hi : Minded c) (env : Env) (link : LinkState) : Minded (c.hear env link) := by
  by_cases ready : link.phase = .kAddressReady
  · obtain ⟨_, _, _, _, _, _, _, h, -⟩ := hear_ready env c ready
    rw [h, changed_iff]
    exact { hi with }
  by_cases idle : link.phase = .kIdle
  · rw [hear_idle env c idle, changed_iff]
    have hx : Minded { c with
        state_.link := link
        stableDeadline_ := ⊤
        addressDeadline_ := ⊤
        state_.connectedProfile := {} } := { hi with }
    split
    · exact (hx.record rfl).connectionFailed _ _ _ _ _
    · exact hx
  · rw [hear_unready env c ready idle, changed_iff]
    exact { hi with }

end Minded

open Minded (changed_iff) in
theorem Effect.minded {a : Atom} {c d : Controller} (h : Effect a c d)
    (hi : c.closed_ = false → Minded c) (opened : d.closed_ = false) : Minded d := by
  have hi : Minded c := by
    obtain ⟨closed, -⟩ | later := h.later
    · exact absurd (closed.symm.trans opened) (by simp)
    · exact hi (later.closed.symm.trans opened)
  cases h with
  | noted act plain => exact hi.record plain
  | scheduled | listened | relaxed | timedOut | scanTimedOut | taken | retryIdle =>
    exact { hi with }
  | begun enabled fresh =>
    obtain ⟨hr, ha, hc⟩ := hi.newIntent (x := { c with
      running_ := true
      state_.desired := if enabled then .kDisconnected else .kDisabled
      restoreProfile_ := enabled }.changed .kProfiles) (by rw [changed_eq]) (by rw [changed_eq])
      (by rw [changed_eq]) (by rw [changed_eq]) (by rw [changed_eq])
    refine ⟨hr, fun hd => ?_, ha.le, hc, fun _ hv => absurd hv ha.ne⟩
    rw [newIntent_eq, changed_eq] at hd
    cases enabled <;> cases hd
  | shutdown fresh =>
    rw [shutdown_eq fresh] at opened
    cases opened
  | withdrawn desired restore live offline =>
    obtain ⟨hr, ha, hc⟩ := hi.newIntent (x := { c with
      state_.desired := desired
      state_.desiredProfile := {}
      credentials_ := {}
      autoConnect_ := false
      restoreProfile_ := restore }) rfl rfl rfl rfl rfl
    refine ⟨hr, fun hd => ?_, ha.le, hc, fun _ hv => absurd hv ha.ne⟩
    rw [newIntent_eq] at hd
    exact absurd hd offline
  | requested config credentials profile automatic =>
    obtain ⟨hr, ha, hc⟩ := hi.newIntent (x := { c with
      config_ := config
      credentials_ := credentials
      state_.desired := .kConnected
      state_.desiredProfile := profile
      autoConnect_ := automatic
      restoreProfile_ := false }) rfl rfl rfl rfl rfl
    refine ⟨hr, fun _ => ?_, ha.le, hc, fun _ hv => absurd hv ha.ne⟩
    rw [newIntent_eq]
    rfl
  | repeated config credentials profile automatic h live connected =>
    have hc : Minded { c with autoConnect_ := automatic } := { hi with }
    refine hc.noted ?_
    cases h : intention c.trace with
    | mk revision origin command =>
      have ho : origin = some c.state_.desiredProfile := by
        rw [← hi.profile connected, h]
      simp only [ho, Intention.observe, Option.some_or]
  | scanQueued | scanDropped | scanCancelled | profiles | cancelled | settled | unrestored
  | enabledReported | stable | retryDenied | retryGranted =>
    rw [changed_iff]
    exact { hi with }
  | faulted =>
    rw [fault_eq]
    exact {
      revision := hi.revision
      profile := hi.profile
      active := hi.active
      command := (by cases ·)
      wanted := (by cases ·) }
  | aimed live free =>
    exact {
      revision := hi.revision
      profile := hi.profile
      active := le_refl _
      command := fun h => absurd (free.symm.trans h) (by simp)
      wanted := fun h => absurd (free.symm.trans h) (by simp) }
  | issued t enabled attempts deadline act live free real noRetry aim command =>
    rw [changed_iff]
    by_cases ht : t = .kConnect
    · rw [if_pos ht] at command
      obtain ⟨-, wanted, status, rfl⟩ := command
      exact {
        revision := hi.revision
        profile := hi.profile
        active := hi.active
        command := fun _ => by
          simp only [record, intention_cons, Intention.observe, hi.revision, aim]
        wanted := fun _ _ => wanted }
    · rw [if_neg ht] at command
      have he := Intention.observe_plain (intention c.trace) command
      exact {
        revision := (congrArg _ he).trans hi.revision
        profile := fun h => (congrArg _ he).trans (hi.profile h)
        active := hi.active
        command := fun h => absurd h ht
        wanted := fun h => absurd h ht }
  | scanStarted deadline act plain =>
    rw [changed_iff]
    exact { hi.record plain with }
  | addressExpired =>
    rw [changed_iff]
    exact ((show Minded { c with addressDeadline_ := ⊤ } from { hi with }).record rfl).connectionFailed
      _ _ _ _ _
  | scanFinished r env => exact hi.scanFinished env r
  | stationFinished r env => exact hi.stationFinished env r
  | linkReported => exact hi.hear _ _

theorem run_minded (options : Options) (seed : UInt32) (as : List Atom) :
    let c := Machine.run atom (init options seed) as
    c.closed_ = false → Minded c :=
  effects_invariant (J := fun c => c.closed_ = false → Minded c) (fun _ _ _ h hi => h.minded hi)
    (fun _ => ⟨rfl, (by cases ·), le_refl _, (by cases ·), (by cases ·)⟩) as

/-! ## What is remembered -/

/-- Nothing is handed to the store, and no profile becomes the connected one. -/
def Forgets (c d : Controller) : Prop :=
  remembered d.trace = remembered c.trace ∧
    (d.state_.connectedProfile = c.state_.connectedProfile ∨ d.state_.connectedProfile = {})

namespace Forgets

theorem refl (c : Controller) : Forgets c c := ⟨rfl, .inl rfl⟩

theorem trans {d e : Controller} (h : Forgets c d) (h' : Forgets d e) : Forgets c e := by
  refine ⟨h'.1.trans h.1, ?_⟩
  obtain he | he := h'.2
  · rw [he]
    exact h.2
  · exact .inr he

end Forgets

theorem remembered_plain {act : Action} (plain : act.plain = true) (t : List Action) :
    remembered (act :: t) = remembered t := by
  cases act <;> first | rfl | cases plain

theorem forgets_record {act : Action} (plain : act.plain = true) : Forgets c (c.record act) :=
  ⟨remembered_plain plain c.trace, .inl rfl⟩

@[simp] theorem forgets_changed {d : Controller} (change : Change) :
    Forgets c (d.changed change) ↔ Forgets c d := by
  rw [changed_eq]
  exact Iff.rfl

theorem forgets_connectionFailed (now : Nat) (status : Status) (failure : ConnectionFailure)
    (code : Int) (hasCode : Bool) :
    Forgets c (c.connectionFailed now status failure code hasCode) := by
  obtain ⟨_, _, _, _, h, -⟩ := connectionFailed_cases now status failure code hasCode c
  rw [h]
  exact ⟨rfl, .inl rfl⟩

theorem remembered_stored (env : Env) (r : OperationResult) (c : Controller) (t : List Action) :
    remembered (c.stored env r ++ t) =
      if c.Succeeds r ∧ c.state_.desiredProfile.size ≠ 0 then
        (c.state_.desiredProfile, env.writeLastProfile) :: remembered t
      else remembered t := by
  unfold stored
  by_cases he : c.transition_ = .kEnable ∧ c.outcome r = .kOk
  · have hs : ¬ (c.Succeeds r ∧ c.state_.desiredProfile.size ≠ 0) := fun h =>
      absurd (he.1.symm.trans h.1.1) (by simp)
    rw [if_pos he, if_neg hs]
    rfl
  · rw [if_neg he]
    split <;> rfl

/-- A completion remembers what intent stands for if the connect succeeded. -/
theorem stationFinished_remembers (env : Env) (r : OperationResult) (c : Controller) :
    let d := c.stationFinished env r
    d.stationId_ = 0 ∧
    d.state_.connectedProfile =
      (if c.Succeeds r then c.state_.desiredProfile else c.state_.connectedProfile) ∧
    remembered d.trace = if c.Succeeds r ∧ c.state_.desiredProfile.size ≠ 0 then
        (c.state_.desiredProfile, env.writeLastProfile) :: remembered c.trace
      else remembered c.trace := by
  obtain ⟨_, _, _, _, _, x, hx, h⟩ := stationFinished_cases env r c
  have hx' : x.stationId_ = 0 ∧ x.state_.connectedProfile =
      (if c.Succeeds r then c.state_.desiredProfile else c.state_.connectedProfile) ∧
      x.trace = c.stored env r ++ c.trace := by
    rw [hx]
    exact ⟨rfl, rfl, rfl⟩
  rw [h, changed_eq]
  split
  · obtain ⟨_, _, _, _, hf, -⟩ := connectionFailed_cases (env.now 4) (c.connectStatus env r)
      (if c.stationTimedOut_ then c.timeoutFailure_ else r.failure) r.nativeCode r.hasNativeCode
      (x.record (.failed r.id))
    rw [hf]
    refine ⟨hx'.1, hx'.2.1, ?_⟩
    exact (remembered_plain rfl x.trace).trans (hx'.2.2 ▸ remembered_stored env r c c.trace)
  · exact ⟨hx'.1, hx'.2.1, hx'.2.2 ▸ remembered_stored env r c c.trace⟩

theorem stationFinished_forgets {env : Env} {r : OperationResult} (h : ¬ c.Succeeds r) :
    Forgets c (c.stationFinished env r) := by
  obtain ⟨-, hp, hr⟩ := stationFinished_remembers env r c
  rw [if_neg h] at hp
  rw [if_neg (fun hs => h hs.1)] at hr
  exact ⟨hr, .inl hp⟩

theorem scanFinished_forgets (env : Env) (r : OperationResult) : Forgets c (c.scanFinished env r) := by
  obtain ⟨_, _, _, h, -⟩ := scanFinished_cases env r c
  rw [h, changed_eq]
  exact ⟨rfl, .inl rfl⟩

theorem hear_forgets (env : Env) (link : LinkState) : Forgets c (c.hear env link) := by
  by_cases ready : link.phase = .kAddressReady
  · obtain ⟨_, _, _, _, _, _, _, h, -⟩ := hear_ready env c ready
    rw [h, forgets_changed]
    exact ⟨rfl, .inl rfl⟩
  by_cases idle : link.phase = .kIdle
  · rw [hear_idle env c idle, forgets_changed]
    have hx : Forgets c { c with
        state_.link := link
        stableDeadline_ := ⊤
        addressDeadline_ := ⊤
        state_.connectedProfile := {} } := ⟨rfl, .inr rfl⟩
    split
    · exact (hx.trans (forgets_record rfl)).trans (forgets_connectionFailed _ _ _ _ _)
    · exact hx
  · rw [hear_unready env c ready idle, forgets_changed]
    exact ⟨rfl, .inl rfl⟩

/-- Only the interface's completion of a connect remembers anything: a command
refused at once has failed. -/
theorem Effect.forgets {a : Atom} {c d : Controller} (h : Effect a c d)
    (other : ∀ r env, a ≠ .operationFinished r env) : Forgets c d := by
  cases h with
  | noted act plain => exact forgets_record plain
  | scheduled | listened | relaxed | repeated | aimed | timedOut | scanTimedOut | taken | retryIdle =>
    exact ⟨rfl, .inl rfl⟩
  | begun =>
    rw [newIntent_eq, changed_eq]
    exact ⟨rfl, .inl rfl⟩
  | shutdown opened =>
    rw [shutdown_eq opened]
    cases h : c.running_ <;> exact ⟨rfl, .inr rfl⟩
  | withdrawn | requested =>
    rw [newIntent_eq]
    exact ⟨rfl, .inl rfl⟩
  | scanQueued | scanDropped | scanCancelled | profiles | cancelled | settled | unrestored
  | enabledReported | stable | retryDenied | retryGranted =>
    rw [forgets_changed]
    exact ⟨rfl, .inl rfl⟩
  | faulted =>
    rw [fault_eq]
    exact ⟨rfl, .inl rfl⟩
  | issued t enabled attempts deadline act live free real noRetry aim command =>
    rw [forgets_changed]
    split at command
    · obtain ⟨-, -, status, rfl⟩ := command
      exact ⟨rfl, .inl rfl⟩
    · exact ⟨remembered_plain command c.trace, .inl rfl⟩
  | scanStarted deadline act plain =>
    rw [forgets_changed]
    exact ⟨remembered_plain plain c.trace, .inl rfl⟩
  | addressExpired =>
    rw [forgets_changed]
    refine .trans ?_ (forgets_connectionFailed _ _ _ _ _)
    exact ⟨rfl, .inl rfl⟩
  | scanFinished r env => exact scanFinished_forgets env r
  | stationFinished r env source =>
    obtain rfl | ⟨-, refused, -⟩ := source
    · exact absurd rfl (other r env)
    · refine stationFinished_forgets fun hs => ?_
      have ho := hs.2.2
      unfold outcome at ho
      split at ho
      · cases ho
      · exact refused ho
  | linkReported => exact hear_forgets _ _

theorem Effects.forgets {a : Atom} {c d : Controller} (h : Effects a c d)
    (other : ∀ r env, a ≠ .operationFinished r env) : Forgets c d := by
  induction h with
  | refl => exact .refl c
  | tail _ he ih => exact ih.trans (he.forgets other)

/-- A direct connection that is accepted stands for no saved profile. -/
theorem connect_unsaved (hi : c.closed_ = false → Minded c) (hc : c.closed_ = true → c.running_ = false)
    {env : Env} {config : ConnectionConfig} {credentials : Credentials}
    (accepted : (c.connect env config credentials).1 = .kOk) :
    ∃ ssid, (intention (c.connect env config credentials).2.trace).profile = some ssid ∧
      ssid.size = 0 := by
  unfold connect requestConnection at accepted ⊢
  by_cases refused : c.admission ≠ .kOk
  · rw [if_pos refused] at accepted
    exact absurd accepted refused
  rw [if_neg refused] at accepted ⊢
  have minded : Minded c := hi (by
    by_contra closed
    have stopped := hc (by simpa using closed)
    exact absurd ((live_of_admission refused).1.symm.trans stopped) (by simp))
  by_cases disabled : c.state_.desired = .kDisabled
  · rw [if_pos disabled] at accepted
    cases accepted
  rw [if_neg disabled] at accepted ⊢
  by_cases invalid : Validate config credentials ≠ .kOk
  · rw [if_pos invalid] at accepted
    exact absurd accepted invalid
  rw [if_neg invalid] at accepted ⊢
  by_cases unsupported : ValidateSupport config env.support ≠ .kOk
  · rw [if_pos unsupported] at accepted
    exact absurd accepted unsupported
  rw [if_neg unsupported]
  dsimp only
  split
  · rename_i same
    refine ⟨c.state_.desiredProfile, ?_, ?_⟩
    · simp only [record, intention_cons, Intention.observe, minded.profile same.1, Option.some_or]
    · have heq : c.state_.desiredProfile.eq {} = true := same.2.2.1
      simp only [Ssid.eq, Bool.and_eq_true, beq_iff_eq] at heq
      exact heq.1.2
  · refine ⟨{}, ?_, rfl⟩
    rw [newIntent_eq]
    rfl

theorem connectionFailed_connectedProfile (now : Nat) (status : Status)
    (failure : ConnectionFailure) (code : Int) (hasCode : Bool) :
    (c.connectionFailed now status failure code hasCode).state_.connectedProfile =
      c.state_.connectedProfile := by
  obtain ⟨_, _, _, _, h, -⟩ := connectionFailed_cases now status failure code hasCode c
  rw [h]

/-- A report that the link is gone leaves no connected profile. -/
theorem hear_idle_profile {env : Env} {link : LinkState} (idle : link.phase = .kIdle) :
    (c.hear env link).state_.connectedProfile = {} := by
  rw [hear_idle env c idle, changed_eq]
  dsimp only
  split
  · exact connectionFailed_connectedProfile _ _ _ _ _
  · rfl

/-- A completion that succeeds is the interface's answer to the command made for
current intent. -/
theorem succeeds_intention (hi : Minded c) (he : Exclusive (core false c)) {r : OperationResult}
    (completes : (core false c).Completes r) (h : c.Succeeds r) :
    r.status = .kOk ∧ (ledger c.trace).outstanding = some (r.id, .kConnect) ∧
      intention c.trace =
        { revision := c.state_.revision
          profile := some c.state_.desiredProfile
          command := some (r.id, c.state_.revision) } := by
  obtain ⟨connecting, current, ok⟩ := h
  have hid : r.id = c.stationId_ := completes.id
  refine ⟨?_, ?_, ?_⟩
  · unfold outcome at ok
    split at ok
    · cases ok
    · exact ok
  · rw [show c.trace = (core false c).trace from rfl, he.account completes.faulted
      (he.notStopped completes.running completes.faulted).1]
    unfold Core.outstanding
    rw [if_pos (show (core false c).stationId ≠ 0 from completes.id ▸ completes.nonzero),
      show (core false c).transition = .kConnect from connecting, ← completes.id]
    rfl
  · have hc := hi.command connecting
    rw [← hid, current] at hc
    have hp := hi.profile (hi.wanted connecting current)
    have hr := hi.revision
    cases h : intention c.trace with
    | mk revision profile command =>
      rw [h] at hc hp hr
      dsimp only at hc hp hr
      rw [hc, hp, hr]

theorem operationFinished_remembers (minded : c.closed_ = false → Minded c)
    (he : Exclusive (core false c)) (r : OperationResult) (env : Env) :
    let d := atom c (.operationFinished r env)
    Forgets c d ∨ ∃ ssid, r.status = .kOk ∧
      (ledger c.trace).outstanding = some (r.id, .kConnect) ∧ d.stationId_ = 0 ∧
      intention c.trace =
        { revision := c.state_.revision
          profile := some ssid
          command := some (r.id, c.state_.revision) } ∧
      d.state_.connectedProfile = ssid ∧
      remembered d.trace = if ssid.size ≠ 0 then
          (ssid, env.writeLastProfile) :: remembered c.trace
        else remembered c.trace := by
  have delivered : Forgets c (c.record (.delivered r)) := forgets_record rfl
  simp only [atom]
  obtain ⟨-, hd⟩ | ⟨completes, hd⟩ | ⟨-, -, hd⟩ :=
    onOperationFinished_cases (d := false) (c := c.record (.delivered r)) env r
  · rw [hd]
    exact .inl (delivered.trans (scanFinished_forgets env r))
  · rw [hd]
    by_cases h : c.Succeeds r
    · have completes : (core false c).Completes r := { completes with }
      have hm : Minded c := minded (he.notStopped completes.running completes.faulted).1
      obtain ⟨hok, hl, hi⟩ := succeeds_intention hm he completes h
      obtain ⟨hs, hp, hr⟩ := stationFinished_remembers env r (c.record (.delivered r))
      rw [if_pos (show (c.record (.delivered r)).Succeeds r from h)] at hp
      have hr' : (c.record (.delivered r)).Succeeds r ∧ c.state_.desiredProfile.size ≠ 0 ↔
          c.state_.desiredProfile.size ≠ 0 := and_iff_right h
      exact .inr ⟨c.state_.desiredProfile, hok, hl, hs, hi, hp, hr.trans (if_congr hr' rfl rfl)⟩
    · exact .inl (delivered.trans (stationFinished_forgets (c := c.record (.delivered r)) h))
  · rw [hd]
    exact .inl delivered

/-- **Only the current saved profile is remembered.** A step hands a profile to
the store or makes it the connected one only as the successful completion of
the outstanding connect, made for the revision that is still current and came
from a request for that very profile; a direct one names none. The connected
profile is gone with the link. -/
theorem current_profile_remembered (options : Options) (seed : UInt32) (as : List Atom)
    (a : Atom) :
    let c := Machine.run atom (init options seed) as
    let d := atom c a
    (remembered d.trace = remembered c.trace ∧
        (d.state_.connectedProfile = c.state_.connectedProfile ∨
          d.state_.connectedProfile = {}) ∨
      ∃ r env ssid, a = .operationFinished r env ∧ r.status = .kOk ∧
        (ledger c.trace).outstanding = some (r.id, .kConnect) ∧ d.stationId_ = 0 ∧
        intention c.trace =
          { revision := c.state_.revision
            profile := some ssid
            command := some (r.id, c.state_.revision) } ∧
        d.state_.connectedProfile = ssid ∧
        remembered d.trace = if ssid.size ≠ 0 then
            (ssid, env.writeLastProfile) :: remembered c.trace
          else remembered c.trace) ∧
    (∀ config credentials env, a = .call (.connect config credentials) env →
      (c.connect env config credentials).1 = .kOk →
        ∃ ssid, (intention d.trace).profile = some ssid ∧ ssid.size = 0) ∧
    (∀ link env, a = .linkChanged link env → (core false c).Hears link → link.phase = .kIdle →
      d.state_.connectedProfile = {}) := by
  intro c d
  have minded : c.closed_ = false → Minded c := run_minded options seed as
  have he : Exclusive (core false c) := atoms_exclusive options seed as
  refine ⟨?_, ?_, ?_⟩
  · by_cases other : ∀ r env, a ≠ .operationFinished r env
    · exact .inl ((atom_effects c a).forgets other)
    simp only [ne_eq, not_forall, not_not] at other
    obtain ⟨r, env, rfl⟩ := other
    exact (operationFinished_remembers minded he r env).imp_right fun ⟨ssid, h⟩ =>
      ⟨r, env, ssid, rfl, h⟩
  · rintro config credentials env rfl accepted
    exact connect_unsaved minded he.closed accepted
  · rintro link env rfl hears idle
    have hd : d = (c.hear env link).scheduleTimeouts := onLinkChanged_eq hears
    rw [hd]
    exact hear_idle_profile idle

end RooWifi.Controller
