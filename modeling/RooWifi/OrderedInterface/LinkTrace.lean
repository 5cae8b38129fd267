import RooWifi.OrderedInterface.Accounting

/-! # The link states an adapter tells of

`Trail` is what the owner can say of the link: the phase it was told last, the
connect that started it, and whether a cancellation or a disconnect is still to
complete. The adapter changes its link state without telling the sink only
where the sink could not see the difference. -/
namespace RooWifi.OrderedInterface

/-! ## The owner's view of the link -/

structure Trail where
  phase : LinkPhase := .kIdle
  /-- The outstanding connect and its network. -/
  connect : Option (OperationId × Ssid) := none
  /-- The connect whose start the sink was told of last, and its network. -/
  started : Option (OperationId × Ssid) := none
  /-- The cancelled connect or the disconnect that is yet to complete. -/
  ending : Option (OperationId × OperationKind) := none
  /-- The connection that the last report found ready. -/
  ready : Option OperationId := none

namespace Trail

def accept (t : Trail) : OrderedInterface.Event → Trail
  | .connect id config _ => { t with connect := some (id, config.ssid) }
  | .disconnect id => { t with ending := some (id, .kDisconnect) }
  | .cancelConnect => { t with ending := (t.connect.map fun c => (c.1, .kConnect)).or t.ending }
  | _ => t

/-- The sink is told of a link state. -/
def hear (t : Trail) (link : LinkState) : Trail :=
  { t with
    phase := link.phase
    started := if link.phase = .kConnecting then t.connect else t.started
    ready := if link.phase = .kAddressReady then some link.connectionId else none }

def finish (t : Trail) (r : OperationResult) : Trail :=
  { t with
    connect := if r.kind = .kConnect then none else t.connect
    ending := if t.ending = some (r.id, r.kind) then none else t.ending
    ready := none }

def observe (t : Trail) : Report → Trail
  | .returned command status =>
    let t := { t with ready := none }
    if status = .kOk then t.accept command else t
  | .delivered (.linkChanged link) _ => t.hear link
  | .delivered (.finished r) _ => t.finish r
  | .delivered _ _ => { t with ready := none }

/-- The phases a link state may follow. -/
def Follows : LinkPhase → LinkPhase → Prop
  | _, .kIdle => True
  | .kIdle, .kConnecting => True
  | .kConnecting, .kAssociated => True
  | .kAssociated, .kAddressReady => True
  | .kAddressReady, .kAssociated => True
  | .kAddressReady, .kAddressReady => True
  | _, _ => False

/-- The link state carries the id of this connect and the network it asked for. -/
def Names (connect : Option (OperationId × Ssid)) (link : LinkState) : Prop :=
  ∃ ssid, connect = some (link.connectionId, ssid) ∧ link.ssid.eq ssid = true

/-- A link state that may be told. -/
structure Permits (t : Trail) (link : LinkState) : Prop where
  follows : Follows t.phase link.phase
  names : link.phase ≠ .kIdle → Names (t.hear link).started link
  address : link.hasIpv4 = true ↔ link.phase = .kAddressReady
  ending : link.phase = .kAddressReady → t.ending = none

def Allows (t : Trail) : Report → Prop
  | .delivered (.linkChanged link) _ => t.Permits link
  | .delivered (.finished r) _ => r.kind = .kConnect → r.status = .kOk → t.ready = some r.id
  | _ => True

end Trail

def trailing : Audit Report Trail where
  start := {}
  observe := Trail.observe
  allows := Trail.Allows

/-! ## The view agrees with the adapter -/

open Trail (Names)

structure Trail.Agrees (t : Trail) (c : Core) : Prop where
  phase : t.phase = c.link.phase
  address : c.link.hasIpv4 = true → c.link.phase = .kAddressReady
  names : c.link.phase ≠ .kIdle → Names t.started c.link
  connect : ∀ id, c.station = some (id, .kConnect) →
    t.connect = some (id, c.ssid) ∧ c.ssid.Valid
  /-- A connect that waits for nothing has not come to its address. -/
  unready : ∀ id, c.Ahead id → c.link.phase ≠ .kAddressReady
  own : ∀ id, c.Ahead id → c.link.phase ≠ .kIdle → c.link.connectionId = id
  ending : ∀ op, t.ending = some op → c.station = some op ∧
    (op.2 = .kConnect → c.cancelling = true) ∧ (op.2 ≠ .kConnect → c.waiting = true)

structure Traced (c : Core) : Prop where
  held : Held c
  clean : trailing.Clean c.history
  agrees : c.live = true → (trailing.account c.history).Agrees c

theorem eq_of_differs {a b c : Ssid} (h : differs a b = false) (hb : b.eq c = true) :
    a.eq c = true := by
  unfold differs at h
  unfold Ssid.eq at hb ⊢
  simp only [Bool.not_eq_false', Bool.and_eq_true, beq_iff_eq, decide_eq_true_eq] at h hb ⊢
  obtain ⟨size, view⟩ := h
  rw [size, view]
  exact hb

namespace Trail

variable {t : Trail} {c d : Core} {link : LinkState}

theorem finish_ending {r : OperationResult}
    (h : ∀ op, t.ending = some op → op = (r.id, r.kind)) : (t.finish r).ending = none := by
  unfold finish
  dsimp only
  split
  · rfl
  · rename_i other
    cases hop : t.ending with
    | none => rfl
    | some op => exact absurd (hop.trans (congrArg some (h op hop))) other

namespace Agrees

/-- Nothing is ending while the station has no operation. -/
theorem free (h : t.Agrees c) (hs : c.station = none) : t.ending = none := by
  cases hop : t.ending with
  | none => rfl
  | some op =>
    have held := (h.ending op hop).1
    rw [hs] at held
    exact nomatch held

/-- While the station has no connect the view is that of the link alone. -/
theorem unconnected (hs : ∀ id, d.station ≠ some (id, .kConnect))
    (ending : ∀ op, t.ending = some op → d.station = some op ∧ d.waiting = true)
    (phase : t.phase = d.link.phase)
    (address : d.link.hasIpv4 = true → d.link.phase = .kAddressReady)
    (names : d.link.phase ≠ .kIdle → Names t.started d.link) : t.Agrees d where
  phase := phase
  address := address
  names := names
  connect := fun id hid => absurd hid (hs id)
  unready := fun id ahead => absurd ahead.1 (hs id)
  own := fun id ahead => absurd ahead.1 (hs id)
  ending := by
    intro op hop
    obtain ⟨held, waits⟩ := ending op hop
    refine ⟨held, ?_, fun _ => waits⟩
    intro kind
    obtain ⟨id, _⟩ := op
    cases kind
    exact absurd held (hs id)

theorem vacant (hs : d.station = none) (he : t.ending = none) (phase : t.phase = d.link.phase)
    (address : d.link.hasIpv4 = true → d.link.phase = .kAddressReady)
    (names : d.link.phase ≠ .kIdle → Names t.started d.link) : t.Agrees d := by
  refine .unconnected ?_ ?_ phase address names
  · intro id hid
    rw [hs] at hid
    exact nomatch hid
  · intro op hop
    rw [he] at hop
    exact nomatch hop

/-- The sink is told of a link state that the view permits. -/
theorem hear (h : t.Agrees c) {reported : Status} (permits : t.Permits link)
    (unready : ∀ id, c.Ahead id → link.phase ≠ .kAddressReady)
    (own : ∀ id, c.Ahead id → link.phase ≠ .kIdle → link.connectionId = id) :
    (t.hear link).Agrees (c.tell link reported) where
  phase := rfl
  address := permits.address.mp
  names := permits.names
  connect := h.connect
  unready := unready
  own := own
  ending := h.ending

/-! ## The link states that are told -/

theorem permits_lost (h : t.Agrees c) (phase : link.phase = .kIdle)
    (address : link.hasIpv4 = true → c.link.hasIpv4 = true ∧ ∃ id, c.Ahead id) :
    t.Permits link where
  follows := by
    rw [phase]
    cases t.phase <;> trivial
  names := fun up => absurd phase up
  address := by
    constructor
    · intro ip
      obtain ⟨ip, id, ahead⟩ := address ip
      exact absurd (h.address ip) (h.unready id ahead)
    · intro ready
      rw [phase] at ready
      exact nomatch ready
  ending := by
    intro ready
    rw [phase] at ready
    exact nomatch ready

theorem permits_connecting (h : t.Agrees c) (ahead : c.Ahead link.connectionId)
    (idle : c.link.phase = .kIdle) (ssid : link.ssid = c.ssid)
    (phase : link.phase = .kConnecting) (address : link.hasIpv4 = false) : t.Permits link where
  follows := by
    rw [h.phase, idle, phase]
    trivial
  names := by
    intro _
    obtain ⟨connect, valid⟩ := h.connect link.connectionId ahead.1
    refine ⟨c.ssid, ?_, ?_⟩
    · rw [Trail.hear, if_pos phase]
      exact connect
    · rw [ssid]
      exact valid.eq_self
  address := by simp [phase, address]
  ending := by
    intro ready
    rw [phase] at ready
    exact nomatch ready

/-- A link state after the first keeps to the connect that started it. -/
theorem names_kept (h : t.Agrees c) (up : c.link.phase ≠ .kIdle)
    (started : link.phase ≠ .kConnecting) (id : link.connectionId = c.link.connectionId)
    (ssid : ∀ network, c.link.ssid.eq network = true → link.ssid.eq network = true) :
    Names (t.hear link).started link := by
  obtain ⟨network, connect, same⟩ := h.names up
  refine ⟨network, ?_, ssid network same⟩
  rw [Trail.hear, if_neg started, id]
  exact connect

theorem permits_associated (h : t.Agrees c) (connecting : c.link.phase = .kConnecting)
    (id : link.connectionId = c.link.connectionId) (ssid : differs link.ssid c.link.ssid = false)
    (phase : link.phase = .kAssociated) (address : link.hasIpv4 = false) : t.Permits link where
  follows := by
    rw [h.phase, connecting, phase]
    trivial
  names := fun _ => h.names_kept (by simp [connecting]) (by simp [phase]) id
    fun _ => eq_of_differs ssid
  address := by simp [phase, address]
  ending := by
    intro ready
    rw [phase] at ready
    exact nomatch ready

theorem permits_addressLost (h : t.Agrees c) (up : c.link.phase = .kAddressReady)
    (same : Core.Same link c) (phase : link.phase = .kAssociated)
    (address : link.hasIpv4 = false) : t.Permits link where
  follows := by
    rw [h.phase, up, phase]
    trivial
  names := fun _ => h.names_kept (by simp [up]) (by simp [phase]) same.id
    fun network hn => same.ssid ▸ hn
  address := by simp [phase, address]
  ending := by
    intro ready
    rw [phase] at ready
    exact nomatch ready

/-- Nothing is ending while address reports count. -/
theorem permits_ready (h : t.Agrees c) (hears : Core.Hears link c) : t.Permits link where
  follows := by
    rw [h.phase, hears.phase]
    obtain up | up := hears.up
    · rw [up]
      trivial
    · rw [up]
      trivial
  names := by
    intro _
    refine h.names_kept ?_ (by simp [hears.phase]) hears.id fun network hn => hears.ssid ▸ hn
    obtain up | up := hears.up <;> simp [up]
  address := by simp [hears.phase, hears.address]
  ending := by
    intro _
    cases hop : t.ending with
    | none => rfl
    | some op =>
      obtain ⟨-, cancelled, waits⟩ := h.ending op hop
      by_cases kind : op.2 = .kConnect
      · exact absurd ((cancelled kind).symm.trans hears.uncancelled) nofun
      · exact absurd ((waits kind).symm.trans hears.unwaiting) nofun

end Agrees

end Trail

/-! ## Moves -/

namespace Traced

variable {c d : Core}

theorem report (h : Traced c) {r : Report} (held : Held d) (hd : d.history = r :: c.history)
    (allowed : (trailing.account c.history).Allows r)
    (agrees : d.live = true → ((trailing.account c.history).observe r).Agrees d) : Traced d where
  held := held
  clean := by
    rw [hd]
    exact h.clean.cons allowed
  agrees := by
    rw [hd]
    exact agrees

/-- The sink is told of a link state. -/
theorem hear (h : Traced c) (live : c.live = true) {link : LinkState} (reported : Status)
    (permits : (trailing.account c.history).Permits link)
    (unready : ∀ id, c.Ahead id → link.phase ≠ .kAddressReady)
    (own : ∀ id, c.Ahead id → link.phase ≠ .kIdle → link.connectionId = id) :
    Traced (c.tell link reported) :=
  h.report { h.held with } rfl permits fun _ => (h.agrees live).hear permits unready own

end Traced

theorem Move.traced {c d : Core} (move : Move c d) (h : Traced c) : Traced d := by
  have held := move.held h.held
  cases move with
  | refused command status notOk =>
    refine h.report held rfl trivial fun live => ?_
    simp only [Trail.observe, if_neg notOk]
    exact { h.agrees live with }
  | rejected command status ssid notOk admits =>
    refine h.report held rfl trivial fun live => ?_
    have agrees := h.agrees live
    simp only [Trail.observe, if_neg notOk]
    exact .vacant rfl (agrees.free admits.station) agrees.phase agrees.address agrees.names
  | enable id enabled admits =>
    refine h.report held rfl trivial fun live => ?_
    have agrees := h.agrees live
    refine .unconnected (fun _ => nofun) ?_ agrees.phase agrees.address agrees.names
    intro op hop
    exact absurd (hop.symm.trans (agrees.free admits.station)) nofun
  | scan id admits =>
    exact h.report held rfl trivial fun live => { h.agrees live with }
  | connect id config secret admits valid =>
    refine h.report held rfl trivial fun live => ?_
    have agrees := h.agrees live
    -- a connect that need not wait finds the link idle
    have idle (other : OperationId) (ahead : Core.Ahead other (Core.note
        (.returned (.connect id config secret) .kOk) { c with
          station := some (id, .kConnect)
          ssid := config.ssid
          waiting := c.waiting || decide (c.link.phase ≠ LinkPhase.kIdle) })) :
        c.link.phase = .kIdle := by
      have waits := (Bool.or_eq_false_iff.mp ahead.2).2
      simpa using waits
    exact {
      phase := agrees.phase
      address := agrees.address
      names := agrees.names
      connect := by
        intro other hid
        cases hid
        exact ⟨rfl, valid⟩
      unready := by
        intro other ahead ready
        exact absurd ((idle other ahead).symm.trans ready) nofun
      own := fun other ahead up => absurd (idle other ahead) up
      ending := by
        intro op hop
        exact absurd (hop.symm.trans (agrees.free admits.station)) nofun }
  | disconnect id admits =>
    refine h.report held rfl trivial fun live => ?_
    have agrees := h.agrees live
    refine .unconnected (fun _ => nofun) ?_ agrees.phase agrees.address agrees.names
    intro op hop
    cases hop
    exact ⟨rfl, rfl⟩
  | scanKept | scanCancelled => exact h.report held rfl trivial fun live => { h.agrees live with }
  | connectCancelled id hop =>
    refine h.report held rfl trivial fun live => ?_
    have agrees := h.agrees live
    have ahead {other : OperationId} (later : Core.Ahead other (Core.note
        (.returned .cancelConnect .kOk) { c with
          cancelling := true
          waiting := c.waiting || (!c.cancelling && decide (c.link.phase ≠ LinkPhase.kIdle)) })) :
        c.Ahead other := ⟨later.1, (Bool.or_eq_false_iff.mp later.2).1⟩
    exact {
      phase := agrees.phase
      address := agrees.address
      names := agrees.names
      connect := agrees.connect
      unready := fun other later => agrees.unready other (ahead later)
      own := fun other later => agrees.own other (ahead later)
      ending := by
        intro op hend
        change ((trailing.account c.history).connect.map fun c => (c.1, OperationKind.kConnect)).or
          (trailing.account c.history).ending = some op at hend
        rw [(agrees.connect id hop).1] at hend
        cases hend
        exact ⟨hop, fun _ => rfl, fun other => absurd rfl other⟩ }
  | shutdown => exact h.report held rfl trivial nofun
  | stationFinished r reported live hop completes failed =>
    refine h.report held rfl (fun kind ok => absurd ok (failed kind)) fun _ => ?_
    have agrees := h.agrees live
    refine .vacant rfl (Trail.finish_ending fun op hend => ?_) agrees.phase agrees.address
      agrees.names
    exact Option.some.inj ((agrees.ending op hend).1.symm.trans hop)
  | scanFinished r reported live hop =>
    have kind := h.held.scanKind _ hop
    have stationFree := h.held.station_of_scan hop
    have agrees := h.agrees live
    refine h.report held rfl (fun connect => absurd (kind.symm.trans connect) nofun) fun _ => ?_
    refine .vacant stationFree (Trail.finish_ending fun op hend => ?_) agrees.phase agrees.address
      agrees.names
    exact absurd (hend.symm.trans (agrees.free stationFree)) nofun
  | enabledReported enabled reported live =>
    exact h.report held rfl trivial fun live => { h.agrees live with }
  | lost link reported live phase address =>
    refine h.hear live reported ((h.agrees live).permits_lost phase address) ?_ ?_
    · intro _ _ ready
      rw [phase] at ready
      exact nomatch ready
    · intro _ _ up
      exact absurd phase up
  | released id hop uncancelled idle =>
    refine { h with held, agrees := fun live => ?_ }
    exact { h.agrees live with
      unready := by
        intro _ _ ready
        exact absurd (idle.symm.trans ready) nofun
      own := fun _ _ up => absurd idle up
      ending := by
        intro op hend
        obtain ⟨same, cancelled, -⟩ := (h.agrees live).ending op hend
        have kind : op.2 = .kConnect := congrArg Prod.snd (Option.some.inj (same.symm.trans hop))
        exact absurd ((cancelled kind).symm.trans uncancelled) nofun }
  | connecting link reported live ahead idle ssid phase address =>
    refine h.hear live reported
      ((h.agrees live).permits_connecting ahead idle ssid phase address) ?_ ?_
    · intro _ _ ready
      rw [phase] at ready
      exact nomatch ready
    · intro id other _
      exact congrArg Prod.fst (Option.some.inj (ahead.1.symm.trans other.1))
  | associated link reported live connecting id ssid phase address =>
    refine h.hear live reported
      ((h.agrees live).permits_associated connecting id ssid phase address) ?_ ?_
    · intro _ _ ready
      rw [phase] at ready
      exact nomatch ready
    · intro other ahead _
      exact id.trans ((h.agrees live).own other ahead (by simp [connecting]))
  | addressless link same phase address =>
    refine { h with held, agrees := fun live => ?_ }
    have agrees := h.agrees live
    exact {
      phase := agrees.phase.trans phase.symm
      address := fun ip => absurd (ip.symm.trans address) nofun
      names := by
        intro up
        obtain ⟨network, connect, equal⟩ := agrees.names (phase ▸ up)
        exact ⟨network, same.id ▸ connect, same.ssid ▸ equal⟩
      connect := agrees.connect
      unready := fun id ahead => phase ▸ agrees.unready id ahead
      own := fun id ahead up => same.id.trans (agrees.own id ahead (phase ▸ up))
      ending := agrees.ending }
  | ready link reported hears other =>
    have agrees := h.agrees hears.live
    have own (id : OperationId) (ahead : c.Ahead id) : link.connectionId = id := by
      refine hears.id.trans (agrees.own id ahead ?_)
      obtain up | up := hears.up <;> simp [up]
    refine h.hear hears.live reported (agrees.permits_ready hears) ?_ fun id ahead _ => own id ahead
    intro id ahead
    exact absurd (own id ahead ▸ ahead.1) other
  | connected link r reported hears station id kind ok =>
    have permits := (h.agrees hears.live).permits_ready hears
    have none := permits.ending hears.phase
    have heard : trailing.Clean (c.tell link reported).history := h.clean.cons permits
    refine ⟨held, heard.cons fun _ _ => ?_, fun _ => ?_⟩
    · change ((trailing.account c.history).hear link).ready = _
      rw [Trail.hear, if_pos hears.phase, id]
    · refine .vacant rfl (Trail.finish_ending fun op hop => ?_) rfl permits.address.mp
        permits.names
      exact absurd (hop.symm.trans none) nofun
  | addressLost link reported live up same phase address =>
    refine h.hear live reported ((h.agrees live).permits_addressLost up same phase address) ?_ ?_
    · intro _ _ ready
      rw [phase] at ready
      exact nomatch ready
    · intro other ahead _
      exact absurd up ((h.agrees live).unready other ahead)

/-! ## Runs -/

theorem traced_begun (status : Status) : Traced (.begun status) where
  held := (kept_begun status).held
  clean := Audit.clean_nil.cons
  agrees := by
    intro _
    have first : Trail.observe {} (.returned .begin status) = {} := by
      simp only [Trail.observe]
      split <;> rfl
    refine .vacant rfl ?_ ?_ nofun (fun up => absurd rfl up)
    · exact congrArg Trail.ending first
    · exact congrArg Trail.phase first

/-- **The link trace.** In every run from the beginning of a new adapter, each
link state the sink is told of follows the last one in the phase graph, carries
the id and the network of the connect that started it and has an address only
when it is ready; none is ready while a cancelled connect or a disconnect is yet
to complete; and a connect succeeds only right after its own readiness. -/
theorem link_trace (native : NativeStation.Answers) (inputs : List Input)
    (other : ∀ input ∈ inputs, input.event ≠ .begin) :
    trailing.Clean (Machine.run Session.step (Session.begun native) inputs).history :=
  (session_invariant (fun _ _ => Move.traced) (traced_begun native.attach) other).clean

/-- The link states told in a history, newest first. -/
def toldPhases (history : List Report) : List LinkPhase :=
  history.filterMap fun
    | .delivered (.linkChanged link) _ => some link.phase
    | _ => none

/-- A connection is made, loses and regains its address, and is taken down. -/
def linked : List Input :=
  let link : LinkState := { ssid := (TestNetwork 65).ssid, hasIpv4 := true }
  [.setEnabled 1 true, .post { kind := .kEnabled }, .drain, .pump, .pump,
    .connect 2 (TestNetwork 65) {}, .drain, .pump, .post { kind := .kAssociated, link },
    .post { kind := .kAddressReady, link }, .post { kind := .kAddressLost },
    .post { kind := .kAddressReady, link }, .drain, .pump, .pump, .pump, .pump, .pump,
    .disconnect 3, .post { kind := .kAddressReady, link }, .post { kind := .kDisconnected }, .drain,
    .pump, .pump, .pump].map
      fun event => { event, native := { support := { authenticationModes := 2 } } }

theorem link_trace_test :
    let history := (Machine.run Session.step (Session.begun {}) linked).history
    trailing.Clean history ∧
      toldPhases history = [.kIdle, .kAddressReady, .kAssociated, .kAddressReady, .kAssociated,
        .kConnecting] ∧
      completed history = [(3, .kDisconnect), (2, .kConnect), (1, .kEnable)] :=
  ⟨link_trace {} linked (by simp [linked]), by decide +kernel, by decide +kernel⟩

end RooWifi.OrderedInterface
