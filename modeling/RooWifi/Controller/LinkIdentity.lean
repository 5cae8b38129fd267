import RooWifi.Controller.Atoms

/-! # Late link events are inert

A connection id is the id of a connect command, and ids only grow. A report
for an id that is neither observed nor being connected finds no effect, and no
older id can be one of these. -/
namespace RooWifi.Controller

/-- The ids of the connect commands issued so far. -/
def connectIds : List Action → List Nat
  | [] => []
  | .connect id .. :: t => id :: connectIds t
  | _ :: t => connectIds t

/-- The observed link belongs to a connect command of the controller, and to
none later than the one that is running. -/
structure Linked (c : Core) : Prop where
  known : c.linkId = 0 ∨ c.linkId ∈ connectIds c.trace
  older : c.linkId < c.nextId
  connecting : c.transition = .kConnect →
    c.stationId ∈ connectIds c.trace ∧ c.linkId ≤ c.stationId ∧ c.stationId < c.nextId

namespace Linked

variable {c x : Core} {t : Transition}

theorem mem_cons {n : Nat} {l : List Action} (h : n ∈ connectIds l) (a : Action) :
    n ∈ connectIds (a :: l) := by
  cases a with
  | connect => exact List.mem_cons_of_mem _ h
  | _ => exact h

theorem noted (hi : Linked c) (a : Action) : Linked (c.note a) where
  known := hi.known.imp_right fun h => mem_cons h a
  older := hi.older
  connecting ht := (hi.connecting ht).imp_left fun h => mem_cons h a

/-- Without a connect running, only the observed id counts. -/
theorem freed (hi : Linked c) (free : x.transition ≠ .kConnect) (link : x.linkId = c.linkId)
    (id : c.nextId ≤ x.nextId) (trace : ∀ n ∈ connectIds c.trace, n ∈ connectIds x.trace) :
    Linked x where
  known := by
    rw [link]
    exact hi.known.imp_right (trace _)
  older := by
    rw [link]
    exact hi.older.trans_le id
  connecting h := absurd h free

theorem issued (hi : Linked c) (he : Exclusive c) (h : c.Due t) (status : Status) :
    Linked (c.issued t status) := by
  obtain ⟨-, -, -, hnext, -⟩ := he.ready h.toAdmits h.free (.inl h.noScan)
  exact {
    known := hi.known.imp_right fun hm => mem_cons hm _
    older := by
      have := hi.older
      simp only [Core.issued, hnext]
      omega
    connecting := by
      intro ht
      obtain rfl : t = .kConnect := ht
      simp only [Core.issued, hnext]
      exact ⟨List.mem_cons_self, hi.older.le, Nat.lt_succ_self _⟩ }

/-- An accepted report is about the observed link or about the connect that is
running, which is no older. -/
theorem heard (hi : Linked c) {link : LinkState} (h : c.Hears link) : Linked (c.heard link) := by
  obtain hid | ⟨ht, hid⟩ := h.current
  · exact {
      known := by simpa only [Core.heard, hid] using hi.known
      older := by simpa only [Core.heard, hid] using hi.older
      connecting := by simpa only [Core.heard, hid] using hi.connecting }
  · obtain ⟨hm, -, hlt⟩ := hi.connecting ht
    exact {
      known := by
        simp only [Core.heard, hid]
        exact .inr hm
      older := by simpa only [Core.heard, hid] using hlt
      connecting := by
        intro _
        simp only [Core.heard, hid]
        exact ⟨hm, le_refl _, hlt⟩ }

theorem heard_mono (hi : Linked c) {link : LinkState} (h : c.Hears link) :
    c.linkId ≤ link.connectionId := by
  obtain hid | ⟨ht, hid⟩ := h.current
  · exact hid.ge
  · exact hid ▸ (hi.connecting ht).2.1

end Linked

variable {A : Assumptions} {a b : Core}

theorem Move.linked (h : Move A a b) (he : Exclusive a) (hi : Linked a) : Linked b := by
  cases h with
  | noted act h => exact hi.noted act
  | begun | setEnabled | withdrawn | accepted | repeated | scanQueued | scanCancelled | scanKept
  | superseded | expired | restored | restoredSame | scanFinished | retryIdle | retryDenied
  | retryGranted | addressExpired => exact { hi with }
  | relaxed | scanDropped | dispatched | rested | aimed | settled | unrestored | stable
  | enabledReported => exact { hi with }
  | shutdown opened =>
    exact {
      known := .inl rfl
      older := he.idPos
      connecting := fun h => by cases h }
  | faulted status running sound notOk =>
    exact hi.freed (by simp [Core.fault]) rfl (le_refl _) fun _ hm => hm
  | stuck timedOut answer status running sound connecting fresh refused notOk =>
    exact hi.freed (by simp [Core.fault]) rfl (le_refl _) fun _ hm => hm
  | issued t h allowed => exact hi.issued he h .kOk
  | refused t status h notOk quiet allowed =>
    have hn := hi.issued he h status
    exact hn.freed (by simp [Core.retired]) rfl (le_refl _) fun _ hm => hm
  | connectRefused status r level h failure =>
    have hn := hi.issued he h status
    exact hn.freed (by simp [Core.failed, Core.note, Core.retired]) rfl (le_refl _) fun _ hm => hm
  | scanStarted size h free queued =>
    obtain ⟨-, -, -, hnext, -⟩ := he.ready h free (.inr queued)
    exact hi.freed (by simp [Core.note, free]) rfl ((Nat.le_succ _).trans_eq hnext.symm)
      fun _ hm => hm
  | scanRefused size status h free queued notOk =>
    obtain ⟨-, -, -, hnext, -⟩ := he.ready h free (.inr queued)
    exact hi.freed (by simp [Core.note, free]) rfl ((Nat.le_succ _).trans_eq hnext.symm)
      fun _ hm => hm
  | enableFinished r written h allowed enabling ok =>
    split <;> exact hi.freed (by simp [Core.concluded, Core.retired]) rfl (le_refl _) fun _ hm => hm
  | staleFinished r h allowed other stale =>
    exact hi.freed (by simp [Core.retired]) rfl (le_refl _) fun _ hm => hm
  | stationFinished r h allowed current other failed =>
    exact hi.freed (by simp [Core.concluded, Core.retired]) rfl (le_refl _) fun _ hm => hm
  | connectFinished r status h allowed current connecting source quiet =>
    exact hi.freed (by simp [Core.retired]) rfl (le_refl _) fun _ hm => hm
  | connectFailed r status retry level saved h allowed current connecting failure persisted =>
    refine hi.freed (by simp [Core.failed, Core.retired]) rfl (le_refl _) fun _ hm => ?_
    obtain rfl | ⟨profile, rfl⟩ := persisted <;> exact hm
  | linkReady link h | linkRecovered link h => exact { hi.heard h with }
  | linkPartial link deadline h | linkIdle link h => exact { hi.heard h with }
  | linkLost link status r level h => exact { hi.heard h with }

/-- The observed id only grows until the shutdown, which is final. -/
theorem Move.linkId_mono (h : Move A a b) (hi : Linked a) (opened : b.closed = false) :
    a.closed = false ∧ a.linkId ≤ b.linkId := by
  cases h with
  | shutdown => cases opened
  | enableFinished => split at opened <;> split <;> exact ⟨opened, le_refl _⟩
  | linkReady link h | linkRecovered link h => exact ⟨opened, hi.heard_mono h⟩
  | linkPartial link deadline h | linkIdle link h => exact ⟨opened, hi.heard_mono h⟩
  | linkLost link status r level h => exact ⟨opened, hi.heard_mono h⟩
  | _ => exact ⟨opened, le_refl _⟩

theorem linked_init (options : Options) (seed : UInt32) : Linked (core false (init options seed)) where
  known := .inl rfl
  older := Nat.one_pos
  connecting h := by cases h

/-! ## Runs -/

theorem run_linked (options : Options) (seed : UInt32) (as : List Atom) :
    Exclusive (core false (Machine.run atom (init options seed) as)) ∧
      Linked (core false (Machine.run atom (init options seed) as)) :=
  atoms_invariant (fun _ _ hm he hi => hm.linked he hi) options seed (linked_init options seed) as

/-- A report for another id than the observed one and that of the running
connect changes nothing. -/
theorem onLinkChanged_foreign {c : Controller} {link : LinkState} (env : Env)
    (other : link.connectionId ≠ c.state_.link.connectionId)
    (idle : ¬ (c.transition_ = .kConnect ∧ link.connectionId = c.stationId_)) :
    c.onLinkChanged env link = c := by
  unfold onLinkChanged
  split
  · rfl
  · rw [if_pos ⟨other, by simpa [not_and_or, imp_iff_not_or] using idle⟩]

/-- **Late link events are inert.** -/
theorem late_links_inert (options : Options) (seed : UInt32) (as bs : List Atom) :
    let c := Machine.run atom (init options seed) as
    let d := Machine.run atom c bs
    (c.state_.link.connectionId = 0 ∨ c.state_.link.connectionId ∈ connectIds c.trace) ∧
      (d.closed_ = false → c.state_.link.connectionId ≤ d.state_.link.connectionId) ∧
      (∀ env link, link.connectionId < c.state_.link.connectionId →
        c.onLinkChanged env link = c) ∧
      (∀ env link, link.connectionId ≠ c.state_.link.connectionId →
        ¬ (c.transition_ = .kConnect ∧ link.connectionId = c.stationId_) →
        c.onLinkChanged env link = c) := by
  intro c d
  obtain ⟨he, hi⟩ := run_linked options seed as
  refine ⟨hi.known, ?_, ?_, fun env link => onLinkChanged_foreign env⟩
  · let J (x : Core) : Prop := Exclusive x ∧ Linked x ∧
      (x.closed = false → c.state_.link.connectionId ≤ x.linkId)
    have hmono : J (core false d) := Machine.run_invariant_of_path (P := fun _ _ => True)
      (f := core false) (M := Move .none) (J := J) (s := c)
      (fun _ a _ hx => atom_path a hx.1.nextId_ne)
      (fun _ _ hm hx => ⟨hm.exclusive hx.1, hm.linked hx.1 hx.2.1, fun ho => by
        obtain ⟨ha, hle⟩ := hm.linkId_mono hx.2.1 ho
        exact (hx.2.2 ha).trans hle⟩)
      ⟨he, hi, fun _ => le_refl _⟩ (Machine.along_of_forall (fun _ _ => trivial) _ bs)
    exact hmono.2.2
  · intro env link hlt
    refine onLinkChanged_foreign env hlt.ne fun h => ?_
    have hle : c.state_.link.connectionId ≤ c.stationId_ := (hi.connecting h.1).2.1
    exact hlt.not_ge (hle.trans_eq h.2.symm)

end RooWifi.Controller
