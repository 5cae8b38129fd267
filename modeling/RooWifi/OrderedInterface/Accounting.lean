import RooWifi.OrderedInterface.Session

/-! # Operation accounting

The owner of an adapter keeps an account of the operation it has outstanding,
by what its commands returned and what the sink was told alone. The adapter
agrees with that account after every move, and so what it tells the sink of
operations is what the account allows. -/
namespace RooWifi.OrderedInterface

/-! ## The owner's account -/

structure Account where
  running : Bool := false
  outstanding : Option (OperationId × OperationKind) := none
  /-- A cancellation of the outstanding operation was accepted. -/
  cancelled : Bool := false

namespace Account

/-- An operation of this kind is outstanding. -/
def has (kind : OperationKind) (a : Account) : Bool :=
  match a.outstanding with
  | some (_, outstanding) => outstanding = kind
  | none => false

/-- A command that returned `kOk`. -/
def accept (a : Account) (command : OrderedInterface.Event) : Account :=
  match command with
  | .begin => { running := true }
  | .shutdown => {}
  | .cancelScan => { a with cancelled := a.cancelled || a.has .kScan }
  | .cancelConnect => { a with cancelled := a.cancelled || a.has .kConnect }
  | command =>
    match command.operation with
    | some operation => { a with outstanding := some operation, cancelled := false }
    | none => a

def observe (a : Account) : Report → Account
  | .returned command status => if status = .kOk then a.accept command else a
  | .delivered (.finished _) _ => { a with outstanding := none, cancelled := false }
  | .delivered _ _ => a

/-- An operation is admitted only while none is outstanding. The sink is told
nothing unless the adapter is running; a completion is that of the outstanding
operation, and it is `kCancelled` after an accepted cancellation, or else only
by the station's own status. -/
def Allows (a : Account) : Report → Prop
  | .returned command status =>
    status = .kOk → command.operation ≠ none → a.running = true ∧ a.outstanding = none
  | .delivered (.finished r) reported =>
    a.running = true ∧ a.outstanding = some (r.id, r.kind) ∧
      Core.Completes a.cancelled r reported
  | .delivered _ _ => a.running = true

end Account

def accounting : Audit Report Account where
  start := {}
  observe := Account.observe
  allows := Account.Allows

/-! ## What is outstanding -/

/-- The flags of an adapter belong to its outstanding operation. -/
structure Held (c : Core) : Prop where
  single : c.station = none ∨ c.scan = none
  stationKind : ∀ op, c.station = some op → op.2 ≠ .kScan
  scanKind : ∀ op, c.scan = some op → op.2 = .kScan
  detached : c.live = false → c.station = none ∧ c.scan = none
  cancelling : c.live = true → c.cancelling = true → ∃ id, c.station = some (id, .kConnect)
  scanCancelling : c.live = true → c.scanCancelling = true → c.scan ≠ none

namespace Held

variable {c d : Core}

theorem stationFree (h : Held c) (live : c.live = true) (free : c.station = none) :
    c.cancelling = false := by
  by_contra hc
  obtain ⟨id, hid⟩ := h.cancelling live (by simpa using hc)
  rw [free] at hid
  exact nomatch hid

theorem scanFree (h : Held c) (live : c.live = true) (free : c.scan = none) :
    c.scanCancelling = false := by
  by_contra hc
  exact h.scanCancelling live (by simpa using hc) free

theorem live_of_station (h : Held c) {op : OperationId × OperationKind}
    (hop : c.station = some op) : c.live = true := by
  by_contra hl
  rw [(h.detached (by simpa using hl)).1] at hop
  exact nomatch hop

theorem live_of_scan (h : Held c) {op : OperationId × OperationKind} (hop : c.scan = some op) :
    c.live = true := by
  by_contra hl
  rw [(h.detached (by simpa using hl)).2] at hop
  exact nomatch hop

theorem scan_of_station (h : Held c) {op : OperationId × OperationKind}
    (hop : c.station = some op) : c.scan = none := by
  refine h.single.resolve_left ?_
  rw [hop]
  exact Option.some_ne_none op

theorem station_of_scan (h : Held c) {op : OperationId × OperationKind} (hop : c.scan = some op) :
    c.station = none := by
  refine h.single.resolve_right ?_
  rw [hop]
  exact Option.some_ne_none op

/-- An operation of the station is admitted. -/
theorem admitted (h : Held c) (admits : c.Admits) {id : OperationId} {kind : OperationKind}
    (other : kind ≠ .kScan) (hl : d.live = c.live) (hs : d.station = some (id, kind))
    (hn : d.scan = c.scan) (hc : d.cancelling = c.cancelling)
    (hsc : d.scanCancelling = c.scanCancelling) : Held d where
  single := .inr (hn.trans admits.scan)
  stationKind := by
    intro op hop
    rw [hs] at hop
    cases hop
    exact other
  scanKind := by
    intro op hop
    rw [hn, admits.scan] at hop
    exact nomatch hop
  detached := by
    intro hd
    rw [hl, admits.live] at hd
    exact nomatch hd
  cancelling := by
    intro _ hd
    rw [hc, h.stationFree admits.live admits.station] at hd
    exact nomatch hd
  scanCancelling := by
    intro _ hd
    rw [hsc, h.scanFree admits.live admits.scan] at hd
    exact nomatch hd

theorem stationDone (h : Held c) {r : OperationResult} {reported : Status}
    (hop : c.station = some (r.id, r.kind)) : Held (c.stationDone r reported) where
  single := .inl rfl
  stationKind := fun _ => nofun
  scanKind := h.scanKind
  detached := fun _ => ⟨rfl, h.scan_of_station hop⟩
  cancelling := fun _ => nofun
  scanCancelling := h.scanCancelling

theorem scanDone (h : Held c) {r : OperationResult} {reported : Status}
    (hop : c.scan = some (r.id, r.kind)) : Held (c.scanDone r reported) where
  single := .inr rfl
  stationKind := h.stationKind
  scanKind := fun _ => nofun
  detached := fun _ => ⟨h.station_of_scan hop, rfl⟩
  cancelling := h.cancelling
  scanCancelling := fun _ => nofun

end Held

theorem Move.held {c d : Core} (move : Move c d) (h : Held c) : Held d := by
  cases move with
  | rejected command status ssid notOk admits =>
    exact { h with
      single := .inl rfl
      stationKind := fun _ => nofun
      detached := fun hd => ⟨rfl, (h.detached hd).2⟩
      cancelling := fun hl hc => by
        obtain ⟨id, hid⟩ := h.cancelling hl hc
        rw [admits.station] at hid
        exact nomatch hid }
  | enable id enabled admits => exact h.admitted admits (by decide) rfl rfl rfl rfl rfl
  | scan id admits =>
    exact { h with
      single := .inl admits.station
      scanKind := by
        intro op hop
        cases hop
        rfl
      detached := fun hd => absurd (admits.live.symm.trans hd) nofun
      scanCancelling := fun _ _ => Option.some_ne_none _ }
  | connect id config secret admits => exact h.admitted admits (by decide) rfl rfl rfl rfl rfl
  | disconnect id admits => exact h.admitted admits (by decide) rfl rfl rfl rfl rfl
  | scanCancelled op hop =>
    exact { h with
      scanCancelling := by
        intro _ _ free
        rw [show c.scan = none from free] at hop
        exact nomatch hop }
  | connectCancelled id hop => exact { h with cancelling := fun _ _ => ⟨id, hop⟩ }
  | shutdown =>
    exact {
      single := .inl rfl
      stationKind := fun _ => nofun
      scanKind := fun _ => nofun
      detached := fun _ => ⟨rfl, rfl⟩
      cancelling := nofun
      scanCancelling := nofun }
  | stationFinished r reported live hop => exact h.stationDone hop
  | scanFinished r reported live hop => exact h.scanDone hop
  | connected link r reported hears station id kind =>
    refine Held.stationDone (c := c.tell link reported) { h with } ?_
    rw [kind]
    exact station
  | _ => exact { h with }

/-! ## The account agrees with the adapter -/

structure Kept (c : Core) : Prop where
  held : Held c
  clean : accounting.Clean c.history
  account : accounting.account c.history =
    { running := c.live
      outstanding := c.station.or c.scan
      cancelled := c.live && (c.cancelling || c.scanCancelling) }

theorem Account.observe_admitted (a : Account) {command : Event}
    {op : OperationId × OperationKind} (hop : command.operation = some op) :
    a.observe (.returned command .kOk) = { a with outstanding := some op, cancelled := false } := by
  cases command with
  | setEnabled | startScan | connect | disconnect =>
    cases hop
    rfl
  | _ => exact nomatch hop

namespace Kept

variable {c d : Core}

/-- A report that the account allows, and after which it agrees again. -/
theorem report (h : Kept c) {r : Report} (held : Held d) (hd : d.history = r :: c.history)
    (allowed : (accounting.account c.history).Allows r)
    (agrees : (accounting.account c.history).observe r =
      { running := d.live
        outstanding := d.station.or d.scan
        cancelled := d.live && (d.cancelling || d.scanCancelling) }) : Kept d where
  held := held
  clean := by
    rw [hd]
    exact h.clean.cons allowed
  account := by
    rw [hd]
    exact agrees

/-- Both kinds of operation are admitted in the same way. -/
theorem admitted (h : Kept c) (admits : c.Admits) {command : Event}
    {op : OperationId × OperationKind} (hop : command.operation = some op) (held : Held d)
    (hd : d.history = .returned command .kOk :: c.history) (hl : d.live = c.live)
    (outstanding : d.station.or d.scan = some op) (hc : d.cancelling = c.cancelling)
    (hsc : d.scanCancelling = c.scanCancelling) : Kept d := by
  refine h.report held hd ?_ ?_
  · rw [h.account]
    intro _ _
    refine ⟨admits.live, ?_⟩
    rw [admits.station, admits.scan]
    rfl
  · rw [Account.observe_admitted _ hop, h.account, hl, outstanding, hc, hsc,
      h.held.stationFree admits.live admits.station, h.held.scanFree admits.live admits.scan,
      Bool.or_false, Bool.and_false]

/-- So are they completed. -/
theorem finished (h : Kept c) {r : OperationResult} {reported : Status} (held : Held d)
    (live : c.live = true) (hop : c.station.or c.scan = some (r.id, r.kind))
    (completes : Core.Completes (c.cancelling || c.scanCancelling) r reported)
    (hd : d.history = .delivered (.finished r) reported :: c.history) (hl : d.live = c.live)
    (outstanding : d.station.or d.scan = none)
    (flags : (d.cancelling || d.scanCancelling) = false) : Kept d := by
  refine h.report held hd ?_ ?_
  · rw [h.account, live, Bool.true_and]
    exact ⟨rfl, hop, completes⟩
  · rw [h.account, hl, outstanding, flags, Bool.and_false]
    rfl

/-- The sink is told of anything else. -/
theorem told (h : Kept c) (live : c.live = true) (link : LinkState) {happening : Happening}
    (reported : Status) (other : ∀ r, happening ≠ .finished r := by intro _ same; cases same) :
    Kept ({ c with link }.note (.delivered happening reported)) := by
  have running : (accounting.account c.history).running = true := by
    rw [h.account]
    exact live
  refine h.report { h.held with } rfl ?_ ?_
  · cases happening with
    | finished r => exact absurd rfl (other r)
    | _ => exact running
  · cases happening with
    | finished r => exact absurd rfl (other r)
    | _ => exact h.account

/-- A completion of the station's operation. -/
theorem stationFinished (h : Kept c) {r : OperationResult} {reported : Status}
    (live : c.live = true) (hop : c.station = some (r.id, r.kind))
    (completes : Core.Completes c.cancelling r reported) : Kept (c.stationDone r reported) := by
  have scanFree := h.held.scan_of_station hop
  have flag := h.held.scanFree live scanFree
  refine h.finished (h.held.stationDone hop) live ?_ ?_ rfl rfl ?_ ?_
  · rw [hop]
    rfl
  · rw [flag, Bool.or_false]
    exact completes
  · exact scanFree
  · exact flag

theorem scanFinished (h : Kept c) {r : OperationResult} {reported : Status}
    (live : c.live = true) (hop : c.scan = some (r.id, r.kind))
    (completes : Core.Completes c.scanCancelling r reported) : Kept (c.scanDone r reported) := by
  have stationFree := h.held.station_of_scan hop
  have flag := h.held.stationFree live stationFree
  refine h.finished (h.held.scanDone hop) live ?_ ?_ rfl rfl ?_ ?_
  · rw [stationFree, hop]
    rfl
  · rw [flag, Bool.false_or]
    exact completes
  · rw [Option.or_eq_none_iff]
    exact ⟨stationFree, rfl⟩
  · rw [Bool.or_eq_false_iff]
    exact ⟨flag, rfl⟩

/-- A cancellation is accepted. -/
theorem cancelled (h : Kept c) {command : Event} {kind : OperationKind} (held : Held d)
    (hd : d.history = .returned command .kOk :: c.history)
    (hk : command = .cancelScan ∧ kind = .kScan ∨ command = .cancelConnect ∧ kind = .kConnect)
    (hl : d.live = c.live) (ho : d.station.or d.scan = c.station.or c.scan)
    (flags : (d.live && (d.cancelling || d.scanCancelling)) =
      ((c.live && (c.cancelling || c.scanCancelling)) ||
        (accounting.account c.history).has kind)) : Kept d := by
  have accepts (a : Account) : a.observe (.returned command .kOk) =
      { a with cancelled := a.cancelled || a.has kind } := by
    obtain ⟨rfl, rfl⟩ | ⟨rfl, rfl⟩ := hk <;> rfl
  have notOperation : command.operation = none := by
    obtain ⟨rfl, -⟩ | ⟨rfl, -⟩ := hk <;> rfl
  refine h.report held hd (fun _ other => absurd notOperation other) ?_
  rw [accepts, flags, hl, ho, h.account]

theorem has_scan (h : Kept c) :
    (accounting.account c.history).has .kScan = c.scan.isSome := by
  rw [h.account]
  cases hs : c.station with
  | none =>
    cases hn : c.scan with
    | none => rfl
    | some op => exact decide_eq_true (h.held.scanKind op hn)
  | some op =>
    rw [h.held.scan_of_station hs]
    exact decide_eq_false (h.held.stationKind op hs)

theorem has_connect (h : Kept c) {id : OperationId} (hop : c.station = some (id, .kConnect)) :
    (accounting.account c.history).has .kConnect = true := by
  rw [h.account, hop]
  rfl

end Kept

theorem Move.kept {c d : Core} (move : Move c d) (h : Kept c) : Kept d := by
  have held := move.held h.held
  cases move with
  | refused command status notOk =>
    refine h.report held rfl (fun ok => absurd ok notOk) ?_
    simp only [Account.observe, if_neg notOk]
    exact h.account
  | rejected command status ssid notOk admits =>
    refine h.report held rfl (fun ok => absurd ok notOk) ?_
    simp only [Account.observe, if_neg notOk]
    rw [h.account, admits.station]
    rfl
  | enable id enabled admits => exact h.admitted admits rfl held rfl rfl rfl rfl rfl
  | scan id admits =>
    refine h.admitted admits rfl held rfl rfl ?_ rfl rfl
    rw [Option.or_eq_some_iff]
    exact .inr ⟨admits.station, rfl⟩
  | connect id config secret admits => exact h.admitted admits rfl held rfl rfl rfl rfl rfl
  | disconnect id admits => exact h.admitted admits rfl held rfl rfl rfl rfl rfl
  | scanKept kept =>
    refine h.cancelled held rfl (.inl ⟨rfl, rfl⟩) rfl rfl ?_
    cases hop : c.scan with
    | none =>
      rw [h.has_scan, hop, Option.isSome_none, Bool.or_false]
      rfl
    | some op =>
      have flag : c.scanCancelling = true := kept.resolve_left (by simp [hop])
      simp [Core.note, flag, h.held.live_of_scan hop]
  | scanCancelled op hop =>
    refine h.cancelled held rfl (.inl ⟨rfl, rfl⟩) rfl rfl ?_
    simp [Core.note, h.has_scan, hop, h.held.live_of_scan hop]
  | connectCancelled id hop =>
    refine h.cancelled held rfl (.inr ⟨rfl, rfl⟩) rfl rfl ?_
    simp [Core.note, h.has_connect hop, h.held.live_of_station hop]
  | shutdown => exact h.report held rfl (fun _ other => absurd rfl other) rfl
  | stationFinished r reported live hop completes => exact h.stationFinished live hop completes
  | scanFinished r reported live hop completes => exact h.scanFinished live hop completes
  | connected link r reported hears station id kind ok =>
    have heard : Kept (c.tell link reported) := h.told hears.live link reported
    refine heard.stationFinished hears.live ?_ ⟨?_, ?_⟩
    · rw [kind]
      exact station
    · intro hc
      cases hc.symm.trans hears.uncancelled
    · intro _ hs
      cases ok.symm.trans hs
  | released | addressless => exact { h with held }
  | enabledReported enabled reported live => exact h.told live c.link reported
  | lost link reported live => exact h.told live link reported
  | connecting link reported live => exact h.told live link reported
  | associated link reported live => exact h.told live link reported
  | addressLost link reported live => exact h.told live link reported
  | ready link reported hears => exact h.told hears.live link reported

/-! ## Operations in a history -/

/-- The operations that were asked for, with what the commands returned. -/
def asked (history : List Report) : List ((OperationId × OperationKind) × Status) :=
  history.filterMap fun
    | .returned command status => command.operation.map (·, status)
    | .delivered _ _ => none

def admitted (history : List Report) : List (OperationId × OperationKind) :=
  ((asked history).filter (·.2 = .kOk)).map Prod.fst

def completed (history : List Report) : List (OperationId × OperationKind) :=
  history.filterMap fun
    | .delivered (.finished r) _ => some (r.id, r.kind)
    | _ => none

theorem admitted_cons_operation (history : List Report) {command : Event} {status : Status}
    {op : OperationId × OperationKind} (hop : command.operation = some op) :
    admitted (.returned command status :: history) =
      if status = .kOk then op :: admitted history else admitted history := by
  by_cases ok : status = .kOk <;> simp [admitted, asked, hop, ok]

theorem admitted_cons_other (history : List Report) {command : Event} {status : Status}
    (hop : command.operation = none) :
    admitted (.returned command status :: history) = admitted history := by
  simp [admitted, asked, hop]

/-- What the account has outstanding after a command that admits nothing. -/
theorem Account.accept_outstanding (a : Account) {command : Event}
    (hop : command.operation = none) :
    (a.accept command).outstanding = none ∨ (a.accept command).outstanding = a.outstanding := by
  cases command with
  | setEnabled | startScan | connect | disconnect => exact nomatch hop
  | begin | shutdown => exact .inl rfl
  | _ => exact .inr rfl

/-- **Every completion is that of an admission of its own**, in the same order. -/
theorem completed_sublist {history : List Report} (clean : accounting.Clean history) :
    ((accounting.account history).outstanding.toList ++ completed history).Sublist
      (admitted history) := by
  induction history with
  | nil => exact .slnil
  | cons report history ih =>
    obtain ⟨allowed, clean⟩ := Audit.clean_cons.mp clean
    specialize ih clean
    have fewer : (completed history).Sublist (admitted history) :=
      (List.sublist_append_right _ _).trans ih
    cases report with
    | returned command status =>
      change (List.Sublist (((accounting.account history).observe
        (.returned command status)).outstanding.toList ++ completed history) _)
      cases hop : command.operation with
      | none =>
        rw [admitted_cons_other _ hop]
        simp only [Account.observe]
        split
        · obtain h | h := Account.accept_outstanding _ hop
          · rw [h]
            exact fewer
          · rw [h]
            exact ih
        · exact ih
      | some op =>
        rw [admitted_cons_operation _ hop]
        by_cases ok : status = .kOk
        · subst ok
          rw [Account.observe_admitted _ hop, if_pos rfl]
          exact fewer.cons_cons op
        · simp only [Account.observe, if_neg ok]
          exact ih
    | delivered happening reported =>
      cases happening with
      | finished r =>
        obtain ⟨-, outstanding, -⟩ := allowed
        rw [show (accounting.account history).outstanding = _ from outstanding] at ih
        exact ih
      | _ => exact ih

/-! ## Operations in a run -/

/-- The ids under which the commands of a run ask for operations. -/
def requested (inputs : List Input) : List OperationId :=
  inputs.filterMap fun input => input.event.operation.map Prod.fst

def askedIds (history : List Report) : List OperationId :=
  (asked history).map fun ask => ask.1.1

theorem askedIds_append (new history : List Report) :
    askedIds (new ++ history) = askedIds new ++ askedIds history := by
  simp only [askedIds, asked, List.filterMap_append, List.map_append]

theorem askedIds_deliveries (new : List Happening) (reported : Status) :
    askedIds (deliveries new reported) = [] := by
  simp [askedIds, asked, deliveries, List.filterMap_map]

theorem askedIds_returned (answer : Option Status) (command : Event) :
    (askedIds (answer.toList.map (.returned command))).Sublist
      (command.operation.map Prod.fst).toList := by
  cases answer with
  | none => exact List.nil_sublist _
  | some status =>
    cases hop : command.operation with
    | none => simp [askedIds, asked, hop]
    | some op => simp [askedIds, asked, hop]

theorem askedIds_step (s : Session) (input : Input) :
    (askedIds (s.step input).history).Sublist
      ((input.event.operation.map Prod.fst).toList ++ askedIds s.history) := by
  simp only [Session.step, askedIds_append, askedIds_deliveries, List.nil_append]
  exact (askedIds_returned _ _).append (.refl _)

theorem askedIds_run (s : Session) (inputs : List Input) :
    (askedIds (Machine.run Session.step s inputs).history).Sublist
      ((requested inputs).reverse ++ askedIds s.history) := by
  induction inputs generalizing s with
  | nil => exact .refl _
  | cons input inputs ih =>
    have ids : (requested (input :: inputs)).reverse =
        (requested inputs).reverse ++ (input.event.operation.map Prod.fst).toList := by
      unfold requested
      cases hop : input.event.operation with
      | none => simp [hop]
      | some op => simp [hop]
    rw [ids, List.append_assoc]
    exact (ih (s.step input)).trans ((List.Sublist.refl _).append (askedIds_step s input))

/-- A run that does not begin again has only its first report of a beginning. -/
theorem begun_once (native : NativeStation.Answers) {inputs : List Input}
    (other : ∀ input ∈ inputs, input.event ≠ .begin) (status : Status) :
    .returned .begin status ∉
      (Machine.run Session.step (Session.begun native) inputs).history.dropLast := by
  refine (Machine.run_invariant_inputs (I := fun s : Session =>
    s.history ≠ [] ∧ .returned .begin status ∉ s.history.dropLast) ?_ ?_ other).2
  · intro s input notBegin ⟨written, ih⟩
    refine ⟨?_, ?_⟩
    · simp [Session.step, written]
    · simp only [Session.step]
      rw [List.dropLast_append_of_ne_nil (by simp [written]),
        List.dropLast_append_of_ne_nil written]
      simp only [List.mem_append, not_or]
      refine ⟨by simp [deliveries], ?_, ih⟩
      intro again
      obtain ⟨_, -, same⟩ := List.mem_map.mp again
      exact notBegin (Report.returned.inj same).1
  · rw [begun_history]
    exact ⟨List.cons_ne_nil _ _, List.not_mem_nil⟩

/-- Only a beginning makes the adapter run again. -/
theorem Account.observe_stopped {a : Account} (stopped : a.running = false) {r : Report}
    (other : ∀ status, r ≠ .returned .begin status) : (a.observe r).running = false := by
  cases r with
  | returned command status =>
    simp only [observe]
    split
    · cases command with
      | begin => exact absurd rfl (other status)
      | shutdown => rfl
      | _ => exact stopped
    · exact stopped
  | delivered happening reported =>
    cases happening <;> exact stopped

theorem stopped_after_shutdown (old : List Report) {new : List Report}
    (once : ∀ status, .returned .begin status ∉ new) :
    (accounting.account (new ++ .returned .shutdown .kOk :: old)).running = false := by
  induction new with
  | nil => rfl
  | cons report new ih =>
    refine Account.observe_stopped (ih ?_) ?_
    · intro status again
      exact once status (List.mem_cons_of_mem _ again)
    · intro status same
      exact once status (same ▸ List.mem_cons_self)

/-- Whatever the sink is told, the account has the adapter running. -/
theorem Account.running_of_allows {a : Account} {happening : Happening} {reported : Status}
    (allowed : a.Allows (.delivered happening reported)) : a.running = true := by
  cases happening with
  | finished r => exact allowed.1
  | _ => exact allowed

theorem silent_after_shutdown {new old : List Report}
    (clean : accounting.Clean (new ++ .returned .shutdown .kOk :: old))
    (once : ∀ status, .returned .begin status ∉ new) (happening : Happening)
    (reported : Status) : .delivered happening reported ∉ new := by
  intro told
  obtain ⟨later, earlier, rfl⟩ := List.append_of_mem told
  have allowed := clean (.delivered happening reported)
    (earlier ++ .returned .shutdown .kOk :: old) ⟨later, by simp⟩
  have running := Account.running_of_allows allowed
  rw [stopped_after_shutdown old] at running
  · exact nomatch running
  · intro status again
    exact once status (by simp [again])

/-- A rejected operation's id is that of no admitted one. -/
theorem rejected_of_distinct {history : List Report} (distinct : (askedIds history).Nodup)
    {op : OperationId × OperationKind} {status : Status} (hop : (op, status) ∈ asked history)
    (rejected : status ≠ .kOk) : op.1 ∉ (admitted history).map Prod.fst := by
  intro again
  obtain ⟨op', hop', same⟩ := List.mem_map.mp again
  obtain ⟨⟨_, status'⟩, ask, rfl⟩ := List.mem_map.mp hop'
  obtain ⟨ask, ok⟩ := List.mem_filter.mp ask
  have equal := List.inj_on_of_nodup_map distinct ask hop same
  cases equal
  exact rejected (by simpa using ok)

theorem admitted_nodup {history : List Report} (distinct : (askedIds history).Nodup) :
    ((admitted history).map Prod.fst).Nodup := by
  have fewer : ((admitted history).map Prod.fst).Sublist (askedIds history) := by
    unfold admitted askedIds
    rw [List.map_map]
    exact List.filter_sublist.map _
  exact distinct.sublist fewer

theorem kept_begun (status : Status) : Kept (.begun status) where
  held := {
    single := .inl rfl
    stationKind := fun _ => nofun
    scanKind := fun _ => nofun
    detached := fun _ => ⟨rfl, rfl⟩
    cancelling := fun _ => nofun
    scanCancelling := fun _ => nofun }
  clean := Audit.clean_nil.cons fun _ other => absurd rfl other
  account := by
    by_cases ok : status = .kOk
    · subst ok
      rfl
    · change (Account.observe {} (.returned .begin status)) = _
      simp [Account.observe, Core.begun, ok]

/-- **Operation accounting.** In every run from the beginning of a new adapter,
whose commands give their operations distinct ids, everything the sink is told
and every admission is allowed by the owner's account; an operation whose
command did not return `kOk` is never completed; the completions, each with its
operation's own id and kind, are those of admitted operations, each of which has
at most one; and after a shutdown the sink is told nothing. -/
theorem operation_accounting (native : NativeStation.Answers) (inputs : List Input)
    (other : ∀ input ∈ inputs, input.event ≠ .begin) (distinct : (requested inputs).Nodup) :
    let history := (Machine.run Session.step (Session.begun native) inputs).history
    accounting.Clean history ∧
      (∀ op status, (op, status) ∈ asked history → status ≠ .kOk →
        op.1 ∉ (completed history).map Prod.fst) ∧
      (completed history).Sublist (admitted history) ∧
      ((completed history).map Prod.fst).Nodup ∧
      ∀ new old, history = new ++ .returned .shutdown .kOk :: old →
        ∀ happening reported, .delivered happening reported ∉ new := by
  intro history
  have clean : accounting.Clean history :=
    (session_invariant (fun _ _ => Move.kept) (kept_begun native.attach) other).clean
  have ids : (askedIds history).Nodup := by
    have fewer := askedIds_run (Session.begun native) inputs
    rw [begun_history] at fewer
    rw [show askedIds [.returned .begin native.attach] = [] from rfl, List.append_nil] at fewer
    exact (List.nodup_reverse.mpr distinct).sublist fewer
  have own : (completed history).Sublist (admitted history) :=
    (List.sublist_append_right _ _).trans (completed_sublist clean)
  refine ⟨clean, ?_, own, (admitted_nodup ids).sublist (own.map _), ?_⟩
  · intro op status hop rejected done
    exact rejected_of_distinct ids hop rejected ((own.map _).subset done)
  · intro new old split happening reported
    rw [split] at clean
    refine silent_after_shutdown clean ?_ happening reported
    intro status again
    refine begun_once native other status ?_
    change _ ∈ history.dropLast
    rw [split, List.dropLast_append_of_ne_nil (List.cons_ne_nil _ _)]
    exact List.mem_append_left _ again

/-- A connect is refused while the radio is being enabled, another one is
cancelled before it starts, and a scan is outstanding at the shutdown. -/
def accounted : List Input :=
  [.setEnabled 1 true, .connect 2 (TestNetwork 65) {}, .post { kind := .kEnabled }, .drain, .pump,
    .pump, .connect 3 (TestNetwork 65) {}, .cancelConnect, .drain, .pump, .startScan 4,
    .post { kind := .kScanDone }, .shutdown, .drain, .pump].map
      fun event => { event, native := { support := { authenticationModes := 2 } } }

theorem operation_accounting_test :
    let history := (Machine.run Session.step (Session.begun {}) accounted).history
    admitted history = [(4, .kScan), (3, .kConnect), (1, .kEnable)] ∧
      completed history = [(3, .kConnect), (1, .kEnable)] ∧
      2 ∉ (completed history).map Prod.fst := by
  intro history
  have accounting := operation_accounting {} accounted (by simp [accounted]) (by decide)
  refine ⟨by decide +kernel, by decide +kernel, ?_⟩
  exact accounting.2.1 (2, .kConnect) .kBusy (by decide +kernel) (by decide)

end RooWifi.OrderedInterface
