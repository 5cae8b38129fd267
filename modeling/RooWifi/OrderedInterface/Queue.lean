import RooWifi.Lib.RingBuffer
import RooWifi.OrderedInterface.Reattachment

/-! # The event queue

The source keeps its events, packed, in a ring of sixteen slots. The adapter
over any buffer is compared with the adapter over its list of packed events:
over the ring it is the same, and over an unbounded list of whole events it is
the same for as long as no post finds the ring full. -/
namespace RooWifi

open NativeStation (EventKind Answers Call)

namespace OrderedInterface

/-! ## Adapters over a buffer -/

/-- What the adapter does with its queue: `begin` resets it, `shutdown` and an
overflow clear it. -/
structure Buffer (κ : Type) where
  full : κ → Bool
  push : κ → NativeStation.Event → κ
  pop : κ → Option (NativeStation.Event × κ)
  reset : κ → κ
  clear : κ → κ

/-- `queue_`, `head_` and `count_` of the source. -/
def slots : Buffer (RingBuffer QueuedEvent capacity) where
  full r := r.full
  push r event := r.push (.of event)
  pop r := r.pop.map fun (q, r) => (q.expand, r)
  reset r := r.reset
  clear r := r.clear

def slots.start : RingBuffer QueuedEvent capacity where
  slots := .replicate capacity {}
  head := 0
  count := 0
  head_lt := by decide
  count_le := by decide

/-- Whole events, oldest first, and as many as there are. -/
def fifo : Buffer (List NativeStation.Event) where
  full _ := false
  push l event := l ++ [event]
  pop
    | [] => none
    | event :: l => some (event, l)
  reset _ := []
  clear _ := []

/-- The adapter with its events in a buffer; its own `queue_` stays empty. -/
structure Buffered (κ : Type) where
  adapter : OrderedInterface := {}
  events : κ

namespace Buffered

variable {κ : Type} (b : Buffer κ) (s : Buffered κ)

def post (event : NativeStation.Event) : Buffered κ :=
  let s := if b.full s.events then { s with adapter := { s.adapter with overflow_ := true } }
    else { s with events := b.push s.events event }
  { s with adapter := { s.adapter with scheduled_ := true } }

/-- A command has left `p`, over an empty queue. What is in it then is the
report it posted itself, that the link it found is gone. -/
def reposted (p : OrderedInterface) (events : κ) : Buffered κ :=
  let after : Buffered κ := { adapter := { p with queue_ := [] }, events }
  if p.queue_ = [] then after else after.post b { kind := .kDisconnected, link := s.adapter.link_ }

/-- What a command leaves of the buffer. -/
def kept (command : OrderedInterface.Event) : κ :=
  match command with
  | .begin => if s.adapter.attached_ then s.events else b.reset s.events
  | .shutdown => b.clear s.events
  | _ => s.events

def pump (native : Answers) : Buffered κ :=
  if !s.adapter.draining then s
  else if s.adapter.overflow_ then
    { adapter := s.adapter.pump native, events := b.clear s.events }
  else
    match b.pop s.events with
    | none => { s with adapter := s.adapter.pump native }
    | some (event, events) => { adapter := s.adapter.process native event, events }

def step (input : Input) : Buffered κ :=
  match input.event with
  | .post event => if s.adapter.attached_ then s.post b event else s
  | .pump => s.pump b input.native
  | command =>
    if s.adapter.draining then s
    else s.reposted b (s.adapter.step input) (s.kept b command)

def pumpCalls : List Call :=
  if !s.adapter.draining then []
  else if s.adapter.overflow_ then []
  else
    match b.pop s.events with
    | none => s.adapter.drainedCalls
    | some (event, _) => s.adapter.processCalls event

def calls (input : Input) : List Call :=
  match input.event with
  | .pump => s.pumpCalls b
  | _ => s.adapter.calls input

def observe (input : Input) : Observation where
  answer := s.adapter.answer input
  calls := s.calls b input
  told :=
    let fresh : Buffered κ := { s with adapter := { s.adapter with trace := [] } }
    (fresh.step b input).adapter.trace.filter told

end Buffered

/-! ## Adapters that were told the same -/

/-- The same but for what the trace holds beside the deliveries. -/
def Level (o p : OrderedInterface) : Prop :=
  { o with trace := [] } = { p with trace := [] } ∧ o.trace.filter told = p.trace.filter told

section Level

variable {o p q : OrderedInterface}

theorem Level.refl (o : OrderedInterface) : Level o o := ⟨rfl, rfl⟩

theorem Level.trans (h : Level o p) (h' : Level p q) : Level o q :=
  ⟨h.1.trans h'.1, h.2.trans h'.2⟩

theorem Level.symm (h : Level o p) : Level p o := ⟨h.1.symm, h.2.symm⟩

/-- What never looks at the trace keeps adapters level. -/
theorem Level.map {f : OrderedInterface → OrderedInterface}
    (hf : ∀ t o, f (under t o) = under t (f o)) (h : Level o p) : Level (f o) (f p) := by
  have ho : f o = under o.trace (f { o with trace := [] }) := hf o.trace { o with trace := [] }
  have hp : f p = under p.trace (f { p with trace := [] }) := hf p.trace { p with trace := [] }
  rw [ho, hp, h.1]
  refine ⟨rfl, ?_⟩
  rw [under_trace, under_trace, List.filter_append, List.filter_append, h.2]

theorem Level.step (h : Level o p) (input : Input) : Level (o.step input) (p.step input) :=
  h.map (f := fun o => o.step input) fun t o => step_under t o input

theorem Level.answer (h : Level o p) (input : Input) : o.answer input = p.answer input := by
  have bare (q : OrderedInterface) :
      q.answer input = ({ q with trace := [] } : OrderedInterface).answer input :=
    answer_under q.trace { q with trace := [] } input
  rw [bare o, h.1, ← bare p]

theorem Level.calls (h : Level o p) (input : Input) : o.calls input = p.calls input := by
  have bare (q : OrderedInterface) :
      q.calls input = ({ q with trace := [] } : OrderedInterface).calls input := rfl
  rw [bare o, h.1, ← bare p]

theorem Level.queue (h : Level o p) (queue : List QueuedEvent) :
    Level { o with queue_ := queue } { p with queue_ := queue } :=
  h.map (f := fun o => { o with queue_ := queue }) fun _ _ => rfl

theorem Level.queue_eq (h : Level o p) : o.queue_ = p.queue_ := congrArg (·.queue_) h.1

end Level

/-! ## Packed events -/

/-- Association events carry association metadata and a failure only. -/
def Plain (event : NativeStation.Event) : Prop :=
  event.kind = .kAssociated →
    event.link =
      { connectionId := event.link.connectionId, phase := event.link.phase
        ssid := event.link.ssid, bssid := event.link.bssid, stationMac := event.link.stationMac
        security := event.link.security, rssiDbm := event.link.rssiDbm
        channel := event.link.channel, hasRadioInfo := event.link.hasRadioInfo
        hasStationMac := event.link.hasStationMac, failure := event.link.failure }

instance (event : NativeStation.Event) : Decidable (Plain event) :=
  inferInstanceAs (Decidable (_ → _))

/-- Events that every adapter processes alike. -/
def SameEffect (e e' : NativeStation.Event) : Prop :=
  ∀ (o : OrderedInterface) (native : Answers),
    Level (o.process native e) (o.process native e') ∧ o.processCalls e = o.processCalls e'

theorem SameEffect.refl (e : NativeStation.Event) : SameEffect e e := fun _ _ => ⟨.refl _, rfl⟩

/-- A disconnect is recorded whole, but only these parts of it are read. -/
theorem level_processDisconnected {o : OrderedInterface} {e e' : NativeStation.Event}
    (ssid : e.link.ssid = e'.link.ssid) (code : e.nativeCode = e'.nativeCode)
    (failure : e.link.failure = e'.link.failure)
    (link : disconnectedLink o.link_ e = disconnectedLink o.link_ e') :
    Level (o.processDisconnected e) (o.processDisconnected e') := by
  unfold processDisconnected
  rw [ssid, code, failure, link]
  unfold OrderedInterface.finishStation linkChanged record
  dsimp only
  split_ifs <;> exact ⟨rfl, rfl⟩

/-- Packing keeps what processing reads. -/
theorem sameEffect_packed {event : NativeStation.Event} (plain : Plain event) :
    SameEffect (QueuedEvent.of event).expand event := by
  obtain ⟨kind, link, status, nativeCode⟩ := event
  intro o native
  refine ⟨?_, ?_⟩
  swap
  · cases kind <;> rfl
  unfold process
  split
  · exact .refl o
  cases kind with
  | kEnabled | kDisabled | kPrepared | kScanDone | kAddressReady | kAddressLost => exact .refl _
  | kAssociated =>
    rw [show link = _ from plain rfl]
    exact .refl _
  | kDisconnected =>
    exact level_processDisconnected rfl rfl rfl rfl

/-! ## Commands over another queue -/

/-- What a command that began on an empty queue leaves over another one: what
it posted is posted there. -/
def repost (queue : List QueuedEvent) (link : LinkState) (p : OrderedInterface) :
    OrderedInterface :=
  let after := { p with queue_ := queue }
  if p.queue_ = [] then after else after.post { kind := .kDisconnected, link }

section Commands

variable {o p : OrderedInterface} {queue : List QueuedEvent} {link : LinkState}
  {native : Answers} {id : OperationId}

theorem repost_kept (h : p.queue_ = []) : repost queue link p = { p with queue_ := queue } :=
  if_pos h

theorem repost_posted (h : p.queue_ ≠ []) : repost queue link p =
    { p with queue_ := queue }.post { kind := .kDisconnected, link } :=
  if_neg h

theorem post_empty (h : o.queue_ = []) (event : NativeStation.Event) :
    o.post event = { o with queue_ := [.of event], scheduled_ := true } := by
  unfold post
  rw [h]
  rfl

theorem repost_post (h : p.queue_ = []) :
    repost queue link (p.post { kind := .kDisconnected, link }) =
      { p with queue_ := queue }.post { kind := .kDisconnected, link } := by
  rw [post_empty h, repost_posted (List.cons_ne_nil _ _)]
  unfold post
  dsimp only
  split_ifs <;> rfl

theorem post_record (o : OrderedInterface) (event : NativeStation.Event) (h : Happening) :
    (o.post event).record h = (o.record h).post event := by
  unfold post record
  dsimp only
  split_ifs <;> rfl

theorem post_cancelled (o : OrderedInterface) (event : NativeStation.Event) :
    { o.post event with waitingDisconnect_ := true, cancelling_ := true, scheduled_ := true } =
      { o with waitingDisconnect_ := true, cancelling_ := true }.post event := by
  unfold post
  dsimp only
  split_ifs <;> rfl

theorem begin_queue : begin { o with queue_ := queue } native =
    ((o.begin native).1,
      { (o.begin native).2 with queue_ := if o.attached_ then queue else [] }) := by
  unfold begin
  dsimp only
  split_ifs <;> rfl

theorem begin_empty (empty : o.queue_ = []) : (o.begin native).2.queue_ = [] := by
  unfold begin
  split_ifs
  · exact empty
  · rfl
  · rfl

/-- What a command returns, over another queue. -/
def answerOver (queue : List QueuedEvent) (link : LinkState) (r : Status × OrderedInterface) :
    Status × OrderedInterface := (r.1, repost queue link r.2)

theorem setEnabled_queue (empty : o.queue_ = []) (enabled : Bool) :
    setEnabled { o with queue_ := queue } native id enabled =
      ((o.setEnabled native id enabled).1,
        repost queue o.link_ (o.setEnabled native id enabled).2) := by
  change _ = answerOver queue o.link_ (o.setEnabled native id enabled)
  simp only [setEnabled, apply_ite (answerOver queue o.link_)]
  simp only [answerOver, repost_kept, empty]
  rfl

theorem startScan_queue (empty : o.queue_ = []) :
    startScan { o with queue_ := queue } native id =
      ((o.startScan native id).1, repost queue o.link_ (o.startScan native id).2) := by
  change _ = answerOver queue o.link_ (o.startScan native id)
  simp only [startScan, apply_ite (answerOver queue o.link_)]
  simp only [answerOver, repost_kept, empty]
  rfl

theorem connect_queue (empty : o.queue_ = []) (config : ConnectionConfig) (secret : Credentials) :
    connect { o with queue_ := queue } native id config secret =
      ((o.connect native id config secret).1,
        repost queue o.link_ (o.connect native id config secret).2) := by
  change _ = answerOver queue o.link_ (o.connect native id config secret)
  simp only [connect, apply_ite (answerOver queue o.link_), post_record]
  simp only [answerOver, repost_post, repost_kept, record, empty]
  rfl

theorem disconnect_queue (empty : o.queue_ = []) :
    disconnect { o with queue_ := queue } native id =
      ((o.disconnect native id).1, repost queue o.link_ (o.disconnect native id).2) := by
  change _ = answerOver queue o.link_ (o.disconnect native id)
  simp only [disconnect, apply_ite (answerOver queue o.link_)]
  simp only [answerOver, repost_post, repost_kept, empty]
  rfl

theorem cancelScan_queue (empty : o.queue_ = []) : cancelScan { o with queue_ := queue } native =
    ((o.cancelScan native).1, repost queue o.link_ (o.cancelScan native).2) := by
  change _ = answerOver queue o.link_ (o.cancelScan native)
  simp only [cancelScan, apply_ite (answerOver queue o.link_)]
  simp only [answerOver, repost_kept, empty]

theorem cancelConnect_queue (empty : o.queue_ = []) :
    cancelConnect { o with queue_ := queue } native =
      ((o.cancelConnect native).1, repost queue o.link_ (o.cancelConnect native).2) := by
  change _ = answerOver queue o.link_ (o.cancelConnect native)
  simp only [cancelConnect, apply_ite (answerOver queue o.link_), post_cancelled]
  simp only [answerOver, repost_post, repost_kept, empty]

theorem drain_queue (empty : o.queue_ = []) :
    drain { o with queue_ := queue } = repost queue o.link_ o.drain := by
  unfold drain
  dsimp only
  split_ifs <;> exact (if_pos empty).symm

/-- What a command leaves of the queue. -/
def keeps (o : OrderedInterface) (queue : List QueuedEvent) :
    OrderedInterface.Event → List QueuedEvent
  | .begin => if o.attached_ then queue else []
  | .shutdown => []
  | _ => queue

/-- **Commands over any queue are those over an empty one**, but for what they post. -/
theorem command_queue (empty : o.queue_ = []) (queue : List QueuedEvent) {input : Input}
    (unpumped : input.event ≠ .pump) (unposted : ∀ e, input.event ≠ .post e)
    (idle : o.draining = false) : step { o with queue_ := queue } input =
      repost (o.keeps queue input.event) o.link_ (o.step input) := by
  obtain ⟨event, native⟩ := input
  have command {r f f' : OrderedInterface}
      (hf : f = repost (o.keeps queue event) o.link_ f') :
      (if o.draining then r else f) =
        repost (o.keeps queue event) o.link_ (if o.draining then o else f') := by
    rw [idle]
    exact hf
  have returned {r : OrderedInterface} {r' : Status × OrderedInterface}
      {f : Status × OrderedInterface}
      (hf : f = (r'.1, repost (o.keeps queue event) o.link_ r'.2)) :
      (if o.draining then r else f.2) =
        repost (o.keeps queue event) o.link_ (if o.draining then o else r'.2) :=
    command (congrArg Prod.snd hf)
  cases event with
  | post e => exact absurd rfl (unposted e)
  | pump => exact absurd rfl unpumped
  | setEnabled id enabled => exact returned (setEnabled_queue empty enabled)
  | startScan id => exact returned (startScan_queue empty)
  | connect id config secret => exact returned (connect_queue empty config secret)
  | disconnect id => exact returned (disconnect_queue empty)
  | cancelScan => exact returned (cancelScan_queue empty)
  | cancelConnect => exact returned (cancelConnect_queue empty)
  | drain => exact command (drain_queue empty)
  | begin =>
    refine returned (begin_queue.trans ?_)
    rw [repost_kept (begin_empty empty)]
    rfl
  | shutdown => exact command (repost_kept (p := o.shutdown) rfl).symm

/-- The drain, `begin` and `shutdown` post nothing. -/
theorem posting {input : Input} (empty : o.queue_ = []) (posted : (o.step input).queue_ ≠ []) :
    input.event ≠ .pump ∧ input.event ≠ .begin ∧ input.event ≠ .shutdown := by
  obtain ⟨event, native⟩ := input
  refine ⟨?_, ?_, ?_⟩ <;> rintro rfl
  · refine posted ?_
    change (o.pump native).queue_ = []
    unfold pump
    split
    · exact empty
    split
    · rw [finishScan_queue, finishStation_queue]
      rfl
    split
    · exact (drained_queue (o := { o with draining := false })).trans empty
    · rename_i waiting
      exact absurd (empty.symm.trans waiting).symm (List.cons_ne_nil _ _)
  · refine posted ?_
    change (if o.draining then o else (o.begin native).2).queue_ = []
    split
    · exact empty
    · exact begin_empty empty
  · refine posted ?_
    change (if o.draining then o else o.shutdown).queue_ = []
    split
    · exact empty
    · rfl

/-- During a drain only the station posts. -/
theorem posting_idle {input : Input} (empty : o.queue_ = [])
    (posted : (o.step input).queue_ ≠ []) (unposted : ∀ e, input.event ≠ .post e) :
    o.draining = false := by
  have unpumped := (posting empty posted).1
  by_contra draining
  have stays (f : OrderedInterface) : (if o.draining then o else f).queue_ = [] := by
    rw [if_pos (by simpa using draining)]
    exact empty
  obtain ⟨event, native⟩ := input
  cases event with
  | post e => exact unposted e rfl
  | pump => exact unpumped rfl
  | _ => exact posted (stays _)

end Commands

/-! ## Buffers in step with the list -/

/-- A buffer of admitted events, whose contents the list of packed events mirrors. -/
structure Represents {κ : Type} (b : Buffer κ) (Holds : κ → List QueuedEvent → Prop)
    (Admits : NativeStation.Event → Prop) : Prop where
  push : ∀ k l e, Admits e → Holds k l → b.full k = false → Holds (b.push k e) (l ++ [.of e])
  own : ∀ link, Admits { kind := .kDisconnected, link }
  nil : ∀ k, Holds k [] → b.pop k = none
  cons : ∀ k q l, Holds k (q :: l) →
    ∃ e k', b.pop k = some (e, k') ∧ Holds k' l ∧ SameEffect q.expand e
  reset : ∀ k, Holds (b.reset k) []
  clear : ∀ k, Holds (b.clear k) []

theorem slots_represents : Represents slots (fun r l => r.toList = l) fun _ => True where
  own _ := trivial
  push r l e _ h room := by
    subst h
    exact r.toList_push room _
  nil r h := by
    change r.pop.map _ = none
    rw [r.pop_nil h]
    rfl
  cons r q l h := by
    obtain ⟨r', pop, rest⟩ := r.pop_cons h
    refine ⟨q.expand, r', ?_, rest, .refl _⟩
    change r.pop.map _ = _
    rw [pop]
    rfl
  reset _ := rfl
  clear _ := rfl

theorem fifo_represents : Represents fifo
    (fun l packed => packed = l.map QueuedEvent.of ∧ ∀ e ∈ l, Plain e) Plain where
  own _ associated := EventKind.noConfusion associated
  push l packed e plain h _ := by
    obtain ⟨rfl, all⟩ := h
    refine ⟨?_, ?_⟩
    · change _ = (l ++ [e]).map _
      rw [List.map_append]
      rfl
    intro e' member
    obtain old | new := List.mem_append.mp member
    · exact all e' old
    · rwa [List.mem_singleton.mp new]
  nil l h := by
    rw [List.map_eq_nil_iff.mp h.1.symm]
    rfl
  cons l q packed h := by
    obtain ⟨packed_eq, all⟩ := h
    cases l with
    | nil => exact absurd packed_eq (List.cons_ne_nil _ _)
    | cons e l =>
      obtain ⟨rfl, rest⟩ := List.cons.inj packed_eq
      refine ⟨e, l, rfl, ⟨rest, ?_⟩, sameEffect_packed (all e List.mem_cons_self)⟩
      exact fun e' member => all e' (List.mem_cons_of_mem e member)
  reset _ := ⟨rfl, fun _ member => absurd member List.not_mem_nil⟩
  clear _ := ⟨rfl, fun _ member => absurd member List.not_mem_nil⟩

/-- The list mirrors the buffer, and all else is level. -/
structure Mirrors {κ : Type} (Holds : κ → List QueuedEvent → Prop) (o : OrderedInterface)
    (s : Buffered κ) : Prop where
  empty : s.adapter.queue_ = []
  events : Holds s.events o.queue_
  level : Level o { s.adapter with queue_ := o.queue_ }

/-- Whether a step posts an event: whether it leaves one in an empty queue. -/
def Posts (o : OrderedInterface) (input : Input) : Prop :=
  ({ o with queue_ := [] }.step input).queue_ ≠ []

section Mirrors

variable {κ : Type} {b : Buffer κ} {Holds : κ → List QueuedEvent → Prop}
  {Admits : NativeStation.Event → Prop} {o p q : OrderedInterface} {s : Buffered κ} {input : Input}
  {native : Answers}

theorem Mirrors.of_level (h : Mirrors Holds o s) (hq : Level q o) : Mirrors Holds q s where
  empty := h.empty
  events := by
    rw [hq.queue_eq]
    exact h.events
  level := by
    rw [hq.queue_eq]
    exact hq.trans h.level

theorem Mirrors.post (rep : Represents b Holds Admits) (h : Mirrors Holds o s) {e : NativeStation.Event}
    (admitted : Admits e) (room : b.full s.events = true ↔ o.queue_.length = capacity) :
    Mirrors Holds (o.post e) (s.post b e) := by
  have posted := h.level.map (f := fun o => o.post e) fun t o => post_under t o e
  unfold OrderedInterface.post Buffered.post at *
  by_cases full : b.full s.events = true
  · have length := room.mp full
    simp only [full, length, if_true] at posted ⊢
    exact ⟨h.empty, h.events, posted⟩
  · have length : ¬ o.queue_.length = capacity := fun length => full (room.mpr length)
    simp only [full, length, if_false, Bool.false_eq_true] at posted ⊢
    exact ⟨h.empty, rep.push _ _ _ admitted h.events (by simpa using full), posted⟩

/-- A command, over the buffer it leaves. -/
theorem Mirrors.reposted (rep : Represents b Holds Admits) {queue : List QueuedEvent} {events : κ}
    (hq : Level q (repost queue s.adapter.link_ p)) (he : Holds events queue)
    (room : p.queue_ ≠ [] → (b.full events = true ↔ queue.length = capacity)) :
    Mirrors Holds q (s.reposted b p events) := by
  have after : Mirrors Holds { p with queue_ := queue }
      { adapter := { p with queue_ := [] }, events } :=
    ⟨rfl, he, .refl _⟩
  unfold Buffered.reposted
  by_cases kept : p.queue_ = []
  · rw [if_pos kept]
    rw [repost_kept kept] at hq
    exact after.of_level hq
  · rw [if_neg kept]
    rw [repost_posted kept] at hq
    exact (after.post rep (rep.own _) (room kept)).of_level hq

theorem Mirrors.pump (rep : Represents b Holds Admits) (h : Mirrors Holds o s) :
    Mirrors Holds (o.pump native) (s.pump b native) := by
  obtain ⟨a, events⟩ := s
  obtain ⟨empty, held, level⟩ := h
  have pumped := level.map (f := fun o => o.pump native) fun t o => pump_under t o native
  refine Mirrors.of_level ?_ pumped
  generalize o.queue_ = queue at held
  unfold Buffered.pump
  dsimp only
  by_cases draining : a.draining = true
  swap
  · have stopped : a.draining = false := by simpa using draining
    have idle : pump { a with queue_ := queue } native = { a with queue_ := queue } :=
      pump_stopped stopped
    rw [idle, if_pos (by simp [stopped])]
    exact ⟨empty, held, .refl _⟩
  rw [if_neg (by simp [draining])]
  by_cases overflow : a.overflow_ = true
  · have lost : pump { a with queue_ := queue } native = a.pump native :=
      (pump_overflow (o := { a with queue_ := queue }) draining overflow).trans
        (pump_overflow draining overflow).symm
    have emptied : (a.pump native).queue_ = [] := by
      rw [pump_overflow draining overflow, finishScan_queue, finishStation_queue]
      rfl
    rw [lost, if_pos overflow]
    refine ⟨emptied, ?_, ?_⟩
    · rw [emptied]
      exact rep.clear events
    · exact .refl _
  have fits : a.overflow_ = false := by simpa using overflow
  rw [if_neg overflow]
  cases queue with
  | nil =>
    have own : ({ a with queue_ := [] } : OrderedInterface) = a := by
      rw [← empty]
    have ended : (a.pump native).queue_ = [] := by
      rw [pump_ended draining fits empty, drained_queue]
      exact empty
    rw [own, rep.nil events held]
    refine ⟨ended, ?_, ?_⟩
    · rw [ended]
      exact held
    · exact .refl _
  | cons q queue =>
    have handled : pump { a with queue_ := q :: queue } native =
        process { a with queue_ := queue } native q.expand :=
      pump_processed (o := { a with queue_ := q :: queue }) draining fits rfl
    obtain ⟨e, rest, pop, held, same⟩ := rep.cons _ _ _ held
    rw [handled, pop]
    refine ⟨process_queue.trans empty, ?_, ?_⟩
    · rw [process_queue]
      exact held
    · rw [process_queue, process_over]
      exact (same a native).1.queue queue

/-- But for what is queued the adapters are level. -/
theorem Mirrors.adapter (h : Mirrors Holds o s) : Level { o with queue_ := [] } s.adapter := by
  have own : ({ s.adapter with queue_ := [] } : OrderedInterface) = s.adapter := by
    rw [← h.empty]
  rw [← own]
  exact h.level.queue []

/-- What the adapter over the buffer posts, the adapter over the list posts too. -/
theorem Mirrors.posts (h : Mirrors Holds o s) (posted : (s.adapter.step input).queue_ ≠ []) :
    Posts o input := by
  rw [Posts, (h.adapter.step input).queue_eq]
  exact posted

theorem Mirrors.kept (rep : Represents b Holds Admits) (h : Mirrors Holds o s)
    (command : OrderedInterface.Event) :
    Holds (s.kept b command) (s.adapter.keeps o.queue_ command) := by
  unfold Buffered.kept keeps
  cases command with
  | begin =>
    dsimp only
    split
    · exact h.events
    · exact rep.reset s.events
  | shutdown => exact rep.clear s.events
  | _ => exact h.events

/-- Where a command posts, it has kept what was queued. -/
theorem Mirrors.room (h : Mirrors Holds o s)
    (room : Posts o input → (b.full s.events = true ↔ o.queue_.length = capacity))
    (posted : (s.adapter.step input).queue_ ≠ []) :
    b.full (s.kept b input.event) = true ↔
      (s.adapter.keeps o.queue_ input.event).length = capacity := by
  obtain ⟨-, begun, down⟩ := posting h.empty posted
  have same := room (h.posts posted)
  obtain ⟨event, native⟩ := input
  cases event with
  | begin => exact absurd rfl begun
  | shutdown => exact absurd rfl down
  | _ => exact same

theorem Mirrors.step (rep : Represents b Holds Admits) (h : Mirrors Holds o s)
    (admitted : ∀ e, input.event = .post e → Admits e)
    (room : Posts o input → (b.full s.events = true ↔ o.queue_.length = capacity)) :
    Mirrors Holds (o.step input) (s.step b input) := by
  have command (unpumped : input.event ≠ .pump) (unposted : ∀ e, input.event ≠ .post e)
      (busy : s.adapter.draining = true → Level (o.step input) o) :
      Mirrors Holds (o.step input) (if s.adapter.draining then s
        else s.reposted b (s.adapter.step input) (s.kept b input.event)) := by
    by_cases draining : s.adapter.draining = true
    · rw [if_pos draining]
      exact h.of_level (busy draining)
    · have idle : s.adapter.draining = false := by simpa using draining
      have level := h.level.step input
      rw [command_queue h.empty o.queue_ unpumped unposted idle] at level
      rw [if_neg draining]
      exact .reposted rep level (h.kept rep input.event) (h.room room)
  have draining_eq : o.draining = s.adapter.draining := congrArg (·.draining) h.level.1
  have busy {f : OrderedInterface} (draining : s.adapter.draining = true) :
      Level (if o.draining then o else f) o := by
    rw [draining_eq, if_pos draining]
    exact .refl o
  obtain ⟨event, native⟩ := input
  cases event with
  | post e =>
    have attached : o.attached_ = s.adapter.attached_ := congrArg (·.attached_) h.level.1
    change Mirrors Holds (if o.attached_ then o.post e else o)
      (if s.adapter.attached_ then s.post b e else s)
    rw [attached]
    split
    · rename_i live
      refine h.post rep (admitted e rfl) (room (h.posts ?_))
      change (if s.adapter.attached_ then s.adapter.post e else s.adapter).queue_ ≠ []
      rw [if_pos live, post_empty h.empty]
      exact List.cons_ne_nil _ _
    · exact h
  | pump => exact h.pump rep
  | _ => exact command Event.noConfusion (fun _ => Event.noConfusion) busy

theorem answer_queue (empty : o.queue_ = []) (queue : List QueuedEvent) :
    answer { o with queue_ := queue } input = o.answer input := by
  obtain ⟨event, native⟩ := input
  have returned {r r' : Status × OrderedInterface} {p : OrderedInterface} (hr : r = (r'.1, p)) :
      (if o.draining then none else some r.1) = if o.draining then none else some r'.1 := by
    rw [hr]
  cases event with
  | begin => exact returned begin_queue
  | setEnabled id enabled => exact returned (setEnabled_queue empty enabled)
  | startScan id => exact returned (startScan_queue empty)
  | connect id config secret => exact returned (connect_queue empty config secret)
  | disconnect id => exact returned (disconnect_queue empty)
  | cancelScan => exact returned (cancelScan_queue empty)
  | cancelConnect => exact returned (cancelConnect_queue empty)
  | shutdown | post | drain | pump => rfl

theorem Mirrors.calls (rep : Represents b Holds Admits) (h : Mirrors Holds o s) :
    o.calls input = s.calls b input := by
  rw [h.level.calls]
  obtain ⟨event, native⟩ := input
  cases event with
  | pump =>
    have held := h.events
    change pumpCalls { s.adapter with queue_ := o.queue_ } = s.pumpCalls b
    unfold OrderedInterface.pumpCalls Buffered.pumpCalls
    dsimp only
    generalize o.queue_ = queue at held
    cases queue with
    | nil =>
      rw [rep.nil s.events held]
      rfl
    | cons q queue =>
      obtain ⟨e, rest, pop, -, same⟩ := rep.cons _ _ _ held
      rw [pop]
      dsimp only
      rw [← (same s.adapter native).2]
      rfl
  | _ => rfl

theorem Mirrors.observe (rep : Represents b Holds Admits) (h : Mirrors Holds o s)
    (admitted : ∀ e, input.event = .post e → Admits e)
    (room : Posts o input → (b.full s.events = true ↔ o.queue_.length = capacity)) :
    o.observe input = s.observe b input := by
  have fresh : Mirrors Holds { o with trace := [] }
      { s with adapter := { s.adapter with trace := [] } } :=
    ⟨h.empty, h.events, h.level.1, rfl⟩
  have queues : (({ o with queue_ := [] } : OrderedInterface).step input).queue_ =
      (({ o with queue_ := [], trace := [] } : OrderedInterface).step input).queue_ :=
    congrArg (·.queue_) (step_under o.trace { o with queue_ := [], trace := [] } input)
  have posts : Posts { o with trace := [] } input → Posts o input := by
    intro posted
    rw [Posts, queues]
    exact posted
  have stepped := Mirrors.step rep fresh admitted fun posted => room (posts posted)
  have answered : o.answer input = s.adapter.answer input :=
    (h.level.answer input).trans (answer_queue h.empty o.queue_)
  rw [OrderedInterface.observe, Buffered.observe, answered, h.calls rep]
  exact congrArg (Observation.mk _ _) stepped.level.2

end Mirrors

end OrderedInterface

end RooWifi
