import RooWifi.Store.Inverse
import RooWifi.Store.Load

/-! # Enumerating profiles

Field keys are the only index of the saved profiles. A key of the canonical
form is visited through the record stored under it, which must hash back to
the key; every other key is passed over. -/
namespace RooWifi

open Storage FieldStore

/-! ## The code -/

/-- `ProfileKey`: recognizes only canonical keys, whose last digit carries four
bits of the hash. -/
def ProfileKey (key : FieldKey) : Bool :=
  key.length = 13 && key.getD 0 0 = 112 && key.getD 1 0 = 45 &&
    (List.range' 2 11).all fun i =>
      match kBase64UrlAlphabet.idxOf? (key.getD i 0) with
      | none => false
      | some digit => !decide (i = 12 ∧ digit % 4 ≠ 0)

/-- A visitor, which may depend on the SSIDs it was called with before, the
latest first. -/
abbrev ProfileVisitor := List Ssid → Ssid → Bool

namespace FieldStore

/-- `FieldStore::visitProfile`, recording what is visited. -/
def visitProfile (key : FieldKey) (visitor : ProfileVisitor) (visited : List Ssid) :
    FieldProg (Status × List Ssid) :=
  if !ProfileKey key then .ret (.kOk, visited)
  else do
    match ← readField key kMaxProfileSize with
    | .error e => .ret (e, visited)
    | .ok data =>
      match DecodeProfile data with
      | .error status => .ret (status, visited)
      | .ok settings =>
        let ssid := settings.connection.ssid
        if Key 'p' ssid ≠ key then .ret (.kCorrupt, visited)
        else .ret (if visitor visited ssid then .kOk else .kStopped, ssid :: visited)

/-- `enumerateFields` over a backend that iterates over `keys`: it stops when
the field visitor, which works on `state`, returns false. -/
def enumerateFields {σ : Type} (visitor : FieldKey → σ → FieldProg (Bool × σ)) :
    List FieldKey → σ → FieldProg (Status × σ)
  | [], state => .ret (.kOk, state)
  | key :: keys, state => do
    let (more, state) ← visitor key state
    if more then enumerateFields visitor keys state else .ret (.kStopped, state)

/-- The field visitor of `enumerateProfiles`: its context holds the status of
the last visit, and here also the SSIDs visited. -/
def fieldVisitor (visitor : ProfileVisitor) (key : FieldKey) (state : Status × List Ssid) :
    FieldProg (Bool × Status × List Ssid) := do
  let (status, visited) ← visitProfile key visitor state.2
  .ret (status = .kOk, status, visited)

/-- `FieldStore::enumerateProfiles`. The null visitor, which `forEachProfile`
never passes, is left out. -/
def enumerateProfiles (visitor : ProfileVisitor) (keys : List FieldKey) :
    FieldProg (Status × List Ssid) := do
  let (result, status, visited) ← enumerateFields (fieldVisitor visitor) keys (.kOk, [])
  .ret (if status = .kOk then result else status, visited)

/-! ## Keys and records -/

theorem idxOf?_base64UrlDigit {i : Nat} (h : i < 64) :
    kBase64UrlAlphabet.idxOf? (base64UrlDigit i) = some i := by
  have digits : ∀ i : Fin 64, kBase64UrlAlphabet.idxOf? (base64UrlDigit i) = some i.val := by
    decide +kernel
  exact digits ⟨i, h⟩

theorem ProfileKey_base64Url (hash : UInt64) : ProfileKey (112 :: 45 :: base64Url hash) = true := by
  have digit (n : Nat) : kBase64UrlAlphabet.idxOf? (base64UrlDigit (n % 64)) = some (n % 64) :=
    idxOf?_base64UrlDigit (Nat.mod_lt _ (by decide))
  have last (n : Nat) : kBase64UrlAlphabet.idxOf? (base64UrlDigit (n % 16 * 4)) =
      some (n % 16 * 4) := idxOf?_base64UrlDigit (by omega)
  simp [ProfileKey, base64Url, List.range_succ, List.range'_succ, digit, last]

theorem ProfileKey_Key (s : Ssid) : ProfileKey (Key 'p' s) = true :=
  ProfileKey_base64Url (fnv1a s)

theorem DecodeProfile_valid {data : List UInt8} {p : ProfileSettings}
    (h : DecodeProfile data = .ok p) : p.connection.ssid.Valid := by
  replace h := DecodeProfileInto_of_ok h
  unfold DecodeProfileInto at h
  dsimp only at h
  split at h
  · cases h
  split at h
  · cases h
  rename_i sized
  split at h
  · cases h
  obtain ⟨nonempty, few⟩ := not_or.mp sized
  cases h
  refine ⟨Nat.pos_of_ne_zero fun zero => nonempty (UInt8.toNat_inj.mp zero), ?_⟩
  exact Nat.le_of_not_lt few

theorem length_of_DecodeProfile {data : List UInt8} {p : ProfileSettings}
    (h : DecodeProfile data = .ok p) : data.length ≤ kMaxProfileSize := by
  rw [← EncodeProfile_DecodeProfileInto (DecodeProfileInto_of_ok h)]
  exact length_EncodeProfile (DecodeProfile_valid h)

/-- The record under `key` decodes to settings `p`, and they hash back to it. -/
def RecordOf (f : FieldMap) (key : FieldKey) (p : ProfileSettings) : Prop :=
  ∃ d, f key = some d ∧ DecodeProfile d = .ok p ∧ Key 'p' p.connection.ssid = key

/-- Every record under a canonical key is one of a profile. -/
def Wellkept (f : FieldMap) : Prop :=
  ∀ key d, f key = some d → ProfileKey key = true →
    ∃ p, DecodeProfile d = .ok p ∧ Key 'p' p.connection.ssid = key

/-! ## One visit -/

section Visits

variable {e : BackendErrors} {f : FieldMap} {visitor : ProfileVisitor} {key : FieldKey}
  {keys : List FieldKey} {visited : List Ssid} {p : ProfileSettings}

theorem readOnly_visitProfile (key : FieldKey) (visitor : ProfileVisitor) (visited : List Ssid) :
    ReadOnly (visitProfile key visitor visited) := by
  unfold visitProfile
  split
  · trivial
  refine within_bind (readOnly_readField _ _) fun r => ?_
  split
  · trivial
  split
  · trivial
  dsimp only
  split <;> trivial

/-- What a visit returns, with the SSIDs visited after it. -/
def visit (e : BackendErrors) (f : FieldMap) (visitor : ProfileVisitor) (key : FieldKey)
    (visited : List Ssid) : Status × List Ssid :=
  (run e.1 (visitProfile key visitor visited) f).1

theorem visit_other (h : ProfileKey key = false) :
    visit e f visitor key visited = (.kOk, visited) := by
  simp only [visit, visitProfile, h, Bool.not_false, if_true, run]

theorem visit_record (canonical : ProfileKey key = true) (h : RecordOf f key p) :
    visit e f visitor key visited =
      (if visitor visited p.connection.ssid then .kOk else .kStopped,
        p.connection.ssid :: visited) := by
  obtain ⟨d, hd, hp, hk⟩ := h
  simp only [visit, visitProfile, canonical, Bool.not_true, Bool.false_eq_true, if_false,
    readField, Prog.bind_eq, Prog.bind, run, answer_ok e.1 hd (length_of_DecodeProfile hp), hp, hk,
    ne_eq, not_true_eq_false]

variable (visitor visited) in
theorem visit_corrupt {d : List UInt8} (canonical : ProfileKey key = true) (hd : f key = some d)
    (h : ∀ p, ¬ RecordOf f key p) :
    ∃ status, visit e f visitor key visited = (status, visited) ∧ status ≠ .kOk ∧
      (d.length ≤ kMaxProfileSize → status = .kCorrupt) := by
  by_cases fits : d.length ≤ kMaxProfileSize
  · refine ⟨.kCorrupt, ?_, Status.noConfusion, fun _ => rfl⟩
    simp only [visit, visitProfile, canonical, Bool.not_true, Bool.false_eq_true, if_false,
      readField, Prog.bind_eq, Prog.bind, run, answer_ok e.1 hd fits]
    cases hp : DecodeProfile d with
    | error status =>
      rw [DecodeProfile_error hp]
      rfl
    | ok p =>
      have foreign : Key 'p' p.connection.ssid ≠ key := fun hk => h p ⟨d, hd, hp, hk⟩
      simp only [foreign, ne_eq, not_false_eq_true, if_true, run]
  · refine ⟨e.1.tooLong, ?_, e.1.tooLong.2, fun fits' => absurd fits' fits⟩
    have long : answer e.1 f key kMaxProfileSize = .error e.1.tooLong := by
      simp only [answer, hd, fits, if_false]
    simp only [visit, visitProfile, canonical, Bool.not_true, Bool.false_eq_true, if_false,
      readField, Prog.bind_eq, Prog.bind, run, long]

variable (visitor visited) in
/-- What a visit of a stored key can do. -/
theorem visit_cases (stored : f key ≠ none) :
    (ProfileKey key = false ∧ visit e f visitor key visited = (.kOk, visited)) ∨
    (∃ p, ProfileKey key = true ∧ RecordOf f key p ∧
      visit e f visitor key visited =
        (if visitor visited p.connection.ssid then .kOk else .kStopped,
          p.connection.ssid :: visited)) ∨
    ∃ d status, ProfileKey key = true ∧ f key = some d ∧ (∀ p, ¬ RecordOf f key p) ∧
      visit e f visitor key visited = (status, visited) ∧ status ≠ .kOk ∧
        (d.length ≤ kMaxProfileSize → status = .kCorrupt) := by
  cases canonical : ProfileKey key with
  | false => exact .inl ⟨rfl, visit_other canonical⟩
  | true =>
    by_cases record : ∃ p, RecordOf f key p
    · obtain ⟨p, record⟩ := record
      exact .inr (.inl ⟨p, rfl, record, visit_record canonical record⟩)
    · obtain ⟨d, hd⟩ := Option.ne_none_iff_exists'.mp stored
      have foreign : ∀ p, ¬ RecordOf f key p := not_exists.mp record
      obtain ⟨status, returned, failed, corrupt⟩ := visit_corrupt (e := e) visitor visited canonical hd foreign
      exact .inr (.inr ⟨d, status, rfl, hd, foreign, returned, failed, corrupt⟩)

/-! ## The whole iteration -/

/-- Visits up to the first one that does not return `kOk`. -/
def tour (e : BackendErrors) (f : FieldMap) (visitor : ProfileVisitor) :
    List FieldKey → List Ssid → Status × List Ssid
  | [], visited => (.kOk, visited)
  | key :: keys, visited =>
    let outcome := visit e f visitor key visited
    if outcome.1 = .kOk then tour e f visitor keys outcome.2 else outcome

theorem tour_cons_ok {visited' : List Ssid} (h : visit e f visitor key visited = (.kOk, visited')) :
    tour e f visitor (key :: keys) visited = tour e f visitor keys visited' := by
  simp only [tour, h, if_true]

theorem tour_cons_failed {status : Status} {visited' : List Ssid} (failed : status ≠ .kOk)
    (h : visit e f visitor key visited = (status, visited')) :
    tour e f visitor (key :: keys) visited = (status, visited') := by
  simp only [tour, h, failed, if_false]

theorem readOnly_fieldVisitor (visitor : ProfileVisitor) (key : FieldKey)
    (state : Status × List Ssid) : ReadOnly (fieldVisitor visitor key state) :=
  within_bind (readOnly_visitProfile _ _ _) fun _ => trivial

theorem readOnly_enumerateFields (visitor : ProfileVisitor) (keys : List FieldKey)
    (state : Status × List Ssid) :
    ReadOnly (enumerateFields (fieldVisitor visitor) keys state) := by
  induction keys generalizing state with
  | nil => trivial
  | cons key keys ih =>
    refine within_bind (readOnly_fieldVisitor visitor key state) fun r => ?_
    obtain ⟨more, state⟩ := r
    dsimp only
    split
    · exact ih state
    · trivial

theorem readOnly_enumerateProfiles (visitor : ProfileVisitor) (keys : List FieldKey) :
    ReadOnly (enumerateProfiles visitor keys) :=
  within_bind (readOnly_enumerateFields visitor keys _) fun _ => trivial

theorem run_fieldVisitor (state : Status × List Ssid) :
    (run e.1 (fieldVisitor visitor key state) f).1 =
      (decide ((visit e f visitor key state.2).1 = .kOk), visit e f visitor key state.2) := by
  rw [fieldVisitor, Prog.bind_eq, run_bind_readOnly e.1 (readOnly_visitProfile _ _ _)]
  rfl

theorem run_enumerateFields (keys : List FieldKey) (visited : List Ssid) :
    let r := (run e.1 (enumerateFields (fieldVisitor visitor) keys (.kOk, visited)) f).1
    (if r.2.1 = .kOk then r.1 else r.2.1, r.2.2) = tour e f visitor keys visited := by
  induction keys generalizing visited with
  | nil => rfl
  | cons key keys ih =>
    rw [enumerateFields, Prog.bind_eq, run_bind_readOnly e.1 (readOnly_fieldVisitor _ _ _),
      run_fieldVisitor]
    rcases returned : visit e f visitor key visited with ⟨status, visited'⟩
    by_cases ok : status = .kOk
    · subst ok
      rw [tour_cons_ok returned]
      exact ih visited'
    · rw [tour_cons_failed ok returned]
      simp only [ok, decide_false, Bool.false_eq_true, if_false, run]

theorem run_enumerateProfiles (keys : List FieldKey) :
    (run e.1 (enumerateProfiles visitor keys) f).1 = tour e f visitor keys [] := by
  rw [enumerateProfiles, Prog.bind_eq, run_bind]
  exact run_enumerateFields keys []

/-- An SSID visited by an iteration over `keys`. -/
def VisitedFrom (f : FieldMap) (keys : List FieldKey) (s : Ssid) : Prop :=
  ∃ key ∈ keys, ∃ p, ProfileKey key = true ∧ RecordOf f key p ∧ s = p.connection.ssid

theorem VisitedFrom.key_mem {s : Ssid} (h : VisitedFrom f keys s) : Key 'p' s ∈ keys := by
  obtain ⟨key, mem, p, -, ⟨_, _, _, hk⟩, rfl⟩ := h
  rwa [hk]

theorem VisitedFrom.cons {s : Ssid} (h : VisitedFrom f keys s) : VisitedFrom f (key :: keys) s := by
  obtain ⟨k, mem, h⟩ := h
  exact ⟨k, List.mem_cons_of_mem key mem, h⟩

variable (visitor visited) in
/-- **Only profiles are visited,** and no two under one key. -/
theorem tour_sound (stored : ∀ key ∈ keys, f key ≠ none) :
    ∃ new, (tour e f visitor keys visited).2 = new ++ visited ∧
      (∀ s ∈ new, VisitedFrom f keys s) ∧
      (keys.Nodup → new.Pairwise fun a b => Key 'p' a ≠ Key 'p' b) := by
  induction keys generalizing visited with
  | nil => exact ⟨[], rfl, nofun, fun _ => .nil⟩
  | cons key keys ih =>
    have rest := fun v => ih v fun k mem => stored k (List.mem_cons_of_mem _ mem)
    rcases visit_cases (e := e) visitor visited
        (stored key List.mem_cons_self) with
      ⟨-, returned⟩ | ⟨p, canonical, record, returned⟩ | ⟨d, status, -, -, -, returned, failed, -⟩
    · obtain ⟨new, same, from_, apart⟩ := rest visited
      refine ⟨new, ?_, fun s mem => (from_ s mem).cons, fun once => apart once.of_cons⟩
      rw [tour_cons_ok returned, same]
    · have here : VisitedFrom f (key :: keys) p.connection.ssid :=
        ⟨key, List.mem_cons_self, p, canonical, record, rfl⟩
      obtain ⟨_, _, _, hk⟩ := record
      by_cases more : visitor visited p.connection.ssid = true
      · rw [if_pos more] at returned
        obtain ⟨new, same, from_, apart⟩ := rest (p.connection.ssid :: visited)
        refine ⟨new ++ [p.connection.ssid], ?_, ?_, ?_⟩
        · rw [tour_cons_ok returned, same, List.append_assoc, List.singleton_append]
        · intro s mem
          rcases List.mem_append.mp mem with mem | mem
          · exact (from_ s mem).cons
          · rwa [List.mem_singleton.mp mem]
        · intro once
          obtain ⟨fresh, once⟩ := List.nodup_cons.mp once
          refine List.pairwise_append.mpr ⟨apart once, List.pairwise_singleton _ _, ?_⟩
          intro a mem b here same
          -- the keys visited later are not this one
          rw [List.mem_singleton.mp here, hk] at same
          exact fresh (same ▸ (from_ a mem).key_mem)
      · rw [if_neg more] at returned
        refine ⟨[p.connection.ssid], ?_, ?_, fun _ => List.pairwise_singleton _ _⟩
        · rw [tour_cons_failed Status.noConfusion returned]
          rfl
        · intro s mem
          rwa [List.mem_singleton.mp mem]
    · refine ⟨[], ?_, nofun, fun _ => .nil⟩
      rw [tour_cons_failed failed returned]
      rfl

variable (visitor visited) in
theorem tour_suffix (stored : ∀ key ∈ keys, f key ≠ none) :
    visited <:+ (tour e f visitor keys visited).2 := by
  obtain ⟨new, same, -⟩ := tour_sound (e := e) visitor visited stored
  exact ⟨new, same.symm⟩

/-- **A visitor that returns false is not called again.** -/
theorem tour_stops (stored : ∀ key ∈ keys, f key ≠ none) {s : Ssid} {earlier : List Ssid}
    (since : visited.length ≤ earlier.length)
    (called : s :: earlier <:+ (tour e f visitor keys visited).2)
    (stop : visitor earlier s = false) :
    tour e f visitor keys visited = (.kStopped, s :: earlier) := by
  have late {l : List Ssid} (called : s :: earlier <:+ l) : earlier.length < l.length :=
    called.length_le
  induction keys generalizing visited with
  | nil => exact absurd (late called) (Nat.not_lt.mpr since)
  | cons key keys ih =>
    have stored' : ∀ k ∈ keys, f k ≠ none := fun k mem => stored k (List.mem_cons_of_mem _ mem)
    rcases visit_cases (e := e) visitor visited
        (stored key List.mem_cons_self) with
      ⟨-, returned⟩ | ⟨p, -, -, returned⟩ | ⟨d, status, -, -, -, returned, failed, -⟩
    · rw [tour_cons_ok returned] at called ⊢
      exact ih stored' since called
    · by_cases more : visitor visited p.connection.ssid = true
      · rw [if_pos more] at returned
        rw [tour_cons_ok returned] at called ⊢
        by_cases later : visited.length < earlier.length
        · exact ih stored' later called
        · -- the call asked about is this one, which returned true
          have this_ : p.connection.ssid :: visited <:+ _ := tour_suffix (e := e) visitor _
            stored'
          have same := (List.suffix_of_suffix_length_le called this_ (by simp; omega)).eq_of_length
            (by simp; omega)
          cases same
          exact absurd more (by simp [stop])
      · rw [if_neg more] at returned
        rw [tour_cons_failed Status.noConfusion returned] at called ⊢
        have short := late called
        rw [List.length_cons] at short
        rw [called.eq_of_length (by simp only [List.length_cons]; omega)]
    · rw [tour_cons_failed failed returned] at called
      exact absurd (late called) (Nat.not_lt.mpr since)

/-! ## A visitor that always continues -/

/-- The visitor that returns true. -/
def always : ProfileVisitor := fun _ _ => true

theorem tour_complete (stored : ∀ key ∈ keys, f key ≠ none)
    (ok : (tour e f always keys visited).1 = .kOk) :
    ∀ key ∈ keys, ProfileKey key = true →
      ∃ p, RecordOf f key p ∧ p.connection.ssid ∈ (tour e f always keys visited).2 := by
  induction keys generalizing visited with
  | nil => exact nofun
  | cons key keys ih =>
    have stored' : ∀ k ∈ keys, f k ≠ none := fun k mem => stored k (List.mem_cons_of_mem _ mem)
    rcases visit_cases (e := e) always visited
        (stored key List.mem_cons_self) with
      ⟨other, returned⟩ | ⟨p, -, record, returned⟩ | ⟨d, status, -, -, -, returned, failed, -⟩
    · rw [tour_cons_ok returned] at ok ⊢
      intro k mem canonical
      rcases List.mem_cons.mp mem with rfl | mem
      · exact absurd canonical (by simp [other])
      · exact ih stored' ok k mem canonical
    · rw [tour_cons_ok returned] at ok ⊢
      intro k mem canonical
      rcases List.mem_cons.mp mem with rfl | mem
      · exact ⟨p, record, (tour_suffix _ _ stored').subset List.mem_cons_self⟩
      · exact ih stored' ok k mem canonical
    · rw [tour_cons_failed failed returned] at ok
      exact absurd ok failed

theorem tour_failed (stored : ∀ key ∈ keys, f key ≠ none)
    (failed : (tour e f always keys visited).1 ≠ .kOk) :
    ∃ key ∈ keys, ∃ d, ProfileKey key = true ∧ f key = some d ∧ (∀ p, ¬ RecordOf f key p) ∧
      (d.length ≤ kMaxProfileSize → (tour e f always keys visited).1 = .kCorrupt) := by
  induction keys generalizing visited with
  | nil => exact absurd rfl failed
  | cons key keys ih =>
    have stored' : ∀ k ∈ keys, f k ≠ none := fun k mem => stored k (List.mem_cons_of_mem _ mem)
    have later {visited' : List Ssid} (returned : visit e f always key visited = (.kOk, visited')) :
        ∃ k ∈ key :: keys, ∃ d, ProfileKey k = true ∧ f k = some d ∧ (∀ p, ¬ RecordOf f k p) ∧
          (d.length ≤ kMaxProfileSize →
            (tour e f always (key :: keys) visited).1 = .kCorrupt) := by
      rw [tour_cons_ok returned] at failed ⊢
      obtain ⟨k, mem, rest⟩ := ih stored' failed
      exact ⟨k, List.mem_cons_of_mem key mem, rest⟩
    rcases visit_cases (e := e) always visited
        (stored key List.mem_cons_self) with
      ⟨-, returned⟩ | ⟨p, -, -, returned⟩ | ⟨d, status, canonical, hd, foreign, returned, bad, fits⟩
    · exact later returned
    · exact later returned
    · rw [tour_cons_failed bad returned]
      exact ⟨key, List.mem_cons_self, d, canonical, hd, foreign, fits⟩

theorem tour_ok_iff (each : ∀ key, key ∈ keys ↔ f key ≠ none) :
    (tour e f always keys visited).1 = .kOk ↔ Wellkept f := by
  have stored : ∀ key ∈ keys, f key ≠ none := fun key => (each key).mp
  constructor
  · intro ok key d hd canonical
    have mem : key ∈ keys := (each key).mpr (by simp [hd])
    obtain ⟨p, ⟨d', hd', hp, hk⟩, -⟩ := tour_complete stored ok key mem canonical
    cases hd.symm.trans hd'
    exact ⟨p, hp, hk⟩
  · intro kept
    by_contra failed
    obtain ⟨key, -, d, canonical, hd, foreign, -⟩ := tour_failed stored failed
    obtain ⟨p, hp, hk⟩ := kept key d hd canonical
    exact foreign p ⟨d, hd, hp, hk⟩

/-- **Every profile is visited, and nothing else.** -/
theorem tour_visits (each : ∀ key, key ∈ keys ↔ f key ≠ none)
    (ok : (tour e f always keys []).1 = .kOk) (s : Ssid) :
    (∃ v ∈ (tour e f always keys []).2, v.eq s = true) ↔
      ∃ d p, f (Key 'p' s) = some d ∧ DecodeProfile d = .ok p ∧ p.connection.ssid.eq s = true := by
  have stored : ∀ key ∈ keys, f key ≠ none := fun key => (each key).mp
  obtain ⟨new, visits, from_, -⟩ := tour_sound (e := e) always [] stored
  rw [List.append_nil] at visits
  constructor
  · rintro ⟨v, mem, same⟩
    obtain ⟨key, -, p, -, ⟨d, hd, hp, hk⟩, rfl⟩ := from_ v (visits ▸ mem)
    refine ⟨d, p, ?_, hp, same⟩
    rw [← Key_congr (Ssid.view_of_eq same), hk, hd]
  · rintro ⟨d, p, hd, hp, same⟩
    have mem : Key 'p' s ∈ keys := (each _).mpr (by simp [hd])
    obtain ⟨q, ⟨d', hd', hq, -⟩, visited⟩ := tour_complete stored ok _ mem (ProfileKey_Key s)
    cases hd.symm.trans hd'
    cases hp.symm.trans hq
    exact ⟨p.connection.ssid, visited, same⟩

theorem validated_found (st : ProfileSettings) (c : Credentials) :
    validated st c ≠ .error .kNotFound := by
  unfold validated
  split
  · exact fun h => Status.noConfusion (Except.error.inj h)
  · exact nofun

/-- The load of a visited SSID may fail, but finds its record. -/
theorem loadProfile_of_record (h : RecordOf f key p) :
    (run e.1 (loadProfile p.connection.ssid) f).1 ≠ .error .kNotFound := by
  obtain ⟨d, hd, hp, rfl⟩ := h
  have valid := DecodeProfile_valid hp
  have found : (run e.1 (read p.connection.ssid) f).1 ≠ .error .kNotFound := by
    simp only [read, valid, not_true_eq_false, if_false, readField, Prog.bind_eq, Prog.bind, run,
      answer_ok e.1 hd (length_of_DecodeProfile hp), hp, valid.eq_self, Bool.not_true,
      Bool.false_eq_true]
    split
    · exact validated_found _ _
    simp only [run]
    split
    · rename_i err _
      -- an absent secret is reported as corruption
      simp only [run]
      split
      · exact fun h => Status.noConfusion (Except.error.inj h)
      · rename_i other
        exact fun h => other (Except.error.inj h)
    split
    · rename_i status hs
      rw [DecodeSecret_error hs]
      exact fun h => Status.noConfusion (Except.error.inj h)
    split
    · exact fun h => Status.noConfusion (Except.error.inj h)
    · exact validated_found _ _
  rw [loadProfile, Prog.bind_eq, run_bind_readOnly e.1 (readOnly_read _)]
  split
  · rename_i status hr
    exact fun h => found (hr.trans (congrArg Except.error (Except.error.inj h)))
  · intro loaded
    cases loaded

end Visits

/-! ## Enumeration -/

/-- **Enumeration is sound and complete.** -/
theorem enumeration_exact {e : BackendErrors} {f : FieldMap} {keys : List FieldKey}
    (once : keys.Nodup) (each : ∀ key, key ∈ keys ↔ f key ≠ none) :
    (∀ status visited,
      (run e.1 (enumerateProfiles (fun _ _ => true) keys) f).1 = (status, visited) →
      (status = .kOk ↔ ∀ key d, f key = some d → ProfileKey key = true →
        ∃ p, DecodeProfile d = .ok p ∧ Key 'p' p.connection.ssid = key) ∧
      (status = .kOk →
        (∀ s : Ssid, (∃ v ∈ visited, v.eq s = true) ↔ ∃ d p, f (Key 'p' s) = some d ∧
          DecodeProfile d = .ok p ∧ p.connection.ssid.eq s = true) ∧
        visited.Pairwise fun a b => a.eq b = false) ∧
      (status ≠ .kOk →
        (∀ key d, f key = some d → ProfileKey key = true → d.length ≤ kMaxProfileSize) →
        status = .kCorrupt)) ∧
    ∀ (visitor : ProfileVisitor) status visited,
      (run e.1 (enumerateProfiles visitor keys) f).1 = (status, visited) →
      (∀ s ∈ visited, s.Valid ∧ (run e.1 (loadProfile s) f).1 ≠ .error .kNotFound) ∧
      ∀ s earlier, s :: earlier <:+ visited → visitor earlier s = false →
        status = .kStopped ∧ visited = s :: earlier := by
  have stored : ∀ key ∈ keys, f key ≠ none := fun key => (each key).mp
  refine ⟨?_, ?_⟩
  · intro status visited returned
    rw [run_enumerateProfiles] at returned
    have ran : tour e f always keys [] = (status, visited) := returned
    refine ⟨?_, ?_, ?_⟩
    · have kept : (tour e f always keys []).1 = .kOk ↔ Wellkept f := tour_ok_iff each
      rw [ran] at kept
      exact kept
    · intro ok
      have all := tour_visits (e := e) each (by rw [ran]; exact ok)
      obtain ⟨new, visits, -, apart⟩ := tour_sound (e := e) always []
        stored
      rw [ran] at all visits
      rw [List.append_nil] at visits
      refine ⟨all, ?_⟩
      rw [show visited = new from visits]
      refine (apart once).imp fun {a b} differ => ?_
      exact Bool.eq_false_iff.mpr fun same => differ (Key_congr (Ssid.view_of_eq same) 'p')
    · intro failed fit
      have bad : (tour e f always keys []).1 ≠ .kOk := by rwa [ran]
      obtain ⟨key, -, d, canonical, hd, -, corrupt⟩ := tour_failed stored bad
      rw [ran] at corrupt
      exact corrupt (fit key d hd canonical)
  · intro visitor status visited returned
    rw [run_enumerateProfiles] at returned
    refine ⟨?_, ?_⟩
    · obtain ⟨new, visits, from_, -⟩ := tour_sound (e := e) visitor []
        stored
      rw [returned, List.append_nil] at visits
      intro s mem
      obtain ⟨key, -, p, -, record, rfl⟩ := from_ s ((show visited = new from visits) ▸ mem)
      obtain ⟨d, -, hp, -⟩ := id record
      exact ⟨DecodeProfile_valid hp, loadProfile_of_record record⟩
    · intro s earlier called stop
      have called : s :: earlier <:+ (tour e f visitor keys []).2 := by rwa [returned]
      have stopped := tour_stops stored (Nat.zero_le _) called stop
      rw [returned] at stopped
      exact Prod.mk.inj stopped

/-- The keys `s-orphan` and `p-00000002`, which name no profile. -/
def TestStrayKeys : List FieldKey :=
  [[115, 45, 111, 114, 112, 104, 97, 110], [112, 45, 48, 48, 48, 48, 48, 48, 48, 50]]

/-- A saved profile beside two stray fields. -/
def TestSavedFields : FieldMap := fun key =>
  if key = Key 'p' TestConfig.ssid then some (EncodeProfile { connection := TestConfig })
  else if key ∈ TestStrayKeys then some [16]
  else none

theorem enumeration_exact_test :
    (run MemoryStore.1 (enumerateProfiles (fun _ _ => true)
      (Key 'p' TestConfig.ssid :: TestStrayKeys)) TestSavedFields).1 =
        (.kOk, [TestConfig.ssid]) ∧
    ∀ s : Ssid, (∃ v ∈ [TestConfig.ssid], v.eq s = true) ↔
      ∃ d p, TestSavedFields (Key 'p' s) = some d ∧ DecodeProfile d = .ok p ∧
        p.connection.ssid.eq s = true := by
  have once : (Key 'p' TestConfig.ssid :: TestStrayKeys).Nodup := by decide +kernel
  have each : ∀ key, key ∈ Key 'p' TestConfig.ssid :: TestStrayKeys ↔
      TestSavedFields key ≠ none := by
    intro key
    rw [List.mem_cons, TestSavedFields]
    split_ifs <;> simp [*]
  have returned : (run MemoryStore.1 (enumerateProfiles (fun _ _ => true)
      (Key 'p' TestConfig.ssid :: TestStrayKeys)) TestSavedFields).1 =
        (.kOk, [TestConfig.ssid]) := by
    decide +kernel
  exact ⟨returned, (((enumeration_exact once each).1 _ _ returned).2.1 rfl).1⟩

end FieldStore

end RooWifi
