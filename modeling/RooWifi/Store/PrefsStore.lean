import RooWifi.Lib.Driver
import RooWifi.Store.Recovery

/-! # `PrefsStore` (hal/prefs/prefs_store.h, hal/prefs/prefs_store.cpp)

The preferences package is not part of the repository and enters as a
parameter: a collection of typed entries in a state of its own, whose calls may
fail as `Lawful` permits. `PrefsStore` serves the fields of `FieldStore` and
the radio's enabled flag from one such collection. -/
namespace RooWifi

open Storage FieldStore

/-! ## The preferences package -/

namespace Prefs

/-- Results that the adapter does not name are `kOther`. -/
inductive ReadResult where
  | kOk | kNotFound | kWrongType | kOther
deriving DecidableEq

inductive WriteResult where
  | kOk | kOther
deriving DecidableEq

inductive ClearResult where
  | kOk | kOther
deriving DecidableEq

inductive EnumerateResult where
  | kOk | kStopped | kUnsupported | kOther
deriving DecidableEq

inductive Mode where
  | kReadWrite | kReadOnly

inductive Value where
  | bool (value : Bool)
  | bytes (data : List UInt8)
deriving DecidableEq

abbrev Entries := FieldKey → Option Value

/-- The calls on one collection. `transaction` is whether the transaction is
active; `keys` are the keys that `forEachKey` passes to its visitor, and
`iterated` what it returns after the last one. -/
structure Collection (σ : Type) where
  transaction : Mode → σ → Bool × σ
  readBool : FieldKey → σ → ReadResult × Bool × σ
  writeBool : FieldKey → Bool → σ → WriteResult × σ
  readBytes : FieldKey → Nat → σ → ReadResult × List UInt8 × σ
  writeBytes : FieldKey → List UInt8 → σ → WriteResult × σ
  isKey : FieldKey → σ → Bool × σ
  clear : FieldKey → σ → ClearResult × σ
  keys : σ → List FieldKey
  iterated : σ → EnumerateResult

/-- An update that reports success is made; one that does not may be made. -/
def Updated (before after : Entries) (key : FieldKey) (value : Option Value) (ok : Bool) : Prop :=
  after = Function.update before key value ∨ ok = false ∧ after = before

/-- Nothing happens where the transaction is not active. -/
theorem Updated.unmade (before : Entries) (key : FieldKey) (value : Option Value) :
    Updated before before key value false :=
  .inr ⟨rfl, rfl⟩

theorem Updated.frame {before after : Entries} {key k : FieldKey} {value : Option Value} {ok : Bool}
    (h : Updated before after key value ok) (other : k ≠ key) : after k = before k := by
  rcases h with rfl | ⟨-, rfl⟩
  · exact Function.update_of_ne other value before
  · rfl

/-- The package as documented: a transaction and a read change nothing, what is
read is what is stored, and mutations report success only when made. -/
structure Collection.Lawful {σ : Type} (c : Collection σ) (entries : σ → Entries) : Prop where
  transaction : ∀ mode s, entries (c.transaction mode s).2 = entries s
  readBool_same : ∀ key s, entries (c.readBool key s).2.2 = entries s
  readBool : ∀ key s, (c.readBool key s).1 = .kOk →
    entries s key = some (.bool (c.readBool key s).2.1)
  readBool_none : ∀ key s, (c.readBool key s).1 = .kNotFound → entries s key = none
  readBool_other : ∀ key s, (c.readBool key s).1 = .kWrongType →
    ∃ data, entries s key = some (.bytes data)
  writeBool : ∀ key value s, Updated (entries s) (entries (c.writeBool key value s).2) key
    (some (.bool value)) ((c.writeBool key value s).1 = .kOk)
  readBytes_same : ∀ key size s, entries (c.readBytes key size s).2.2 = entries s
  readBytes : ∀ key size s, (c.readBytes key size s).1 = .kOk →
    entries s key = some (.bytes (c.readBytes key size s).2.1) ∧
      (c.readBytes key size s).2.1.length ≤ size
  readBytes_none : ∀ key size s, (c.readBytes key size s).1 = .kNotFound → entries s key = none
  writeBytes : ∀ key data s, Updated (entries s) (entries (c.writeBytes key data s).2) key
    (some (.bytes data)) ((c.writeBytes key data s).1 = .kOk)
  isKey_same : ∀ key s, entries (c.isKey key s).2 = entries s
  isKey : ∀ key s, (c.isKey key s).1 = false → entries s key = none
  clear : ∀ key s, Updated (entries s) (entries (c.clear key s).2) key none
    ((c.clear key s).1 = .kOk)

end Prefs

open Prefs

/-! ## The adapter -/

namespace PrefsStore

/-- `enabled` -/
def kEnabled : FieldKey := [101, 110, 97, 98, 108, 101, 100]

def Read : ReadResult → Status
  | .kOk => .kOk
  | .kNotFound => .kNotFound
  | .kWrongType => .kCorrupt
  | .kOther => .kStorageFailure

def Enumerate : EnumerateResult → Status
  | .kOk => .kOk
  | .kStopped => .kStopped
  | .kUnsupported => .kUnsupported
  | .kOther => .kStorageFailure

variable {σ : Type} (c : Collection σ)

def begin (s : σ) : Status × σ :=
  let (active, s) := c.transaction .kReadWrite s
  (if active then .kOk else .kStorageFailure, s)

def readEnabled (s : σ) : Except Status Bool × σ :=
  let (active, s) := c.transaction .kReadOnly s
  if !active then (.error .kStorageFailure, s)
  else
    let (result, value, s) := c.readBool kEnabled s
    (if Read result = .kOk then .ok value else .error (Read result), s)

def writeEnabled (enabled : Bool) (s : σ) : Status × σ :=
  let (active, s) := c.transaction .kReadWrite s
  if !active then (.kStorageFailure, s)
  else
    let (result, s) := c.writeBool kEnabled enabled s
    (if result = .kOk then .kOk else .kStorageFailure, s)

def readField (key : FieldKey) (size : Nat) (s : σ) : Except ReadError (List UInt8) × σ :=
  let (active, s) := c.transaction .kReadOnly s
  if !active then (.error ⟨.kStorageFailure, Status.noConfusion⟩, s)
  else
    let (result, data, s) := c.readBytes key size s
    (if failed : Read result ≠ .kOk then .error ⟨Read result, failed⟩ else .ok data, s)

def writeField (key : FieldKey) (data : List UInt8) (s : σ) : Status × σ :=
  let (active, s) := c.transaction .kReadWrite s
  if !active then (.kStorageFailure, s)
  else
    let (result, s) := c.writeBytes key data s
    (if result = .kOk then .kOk else .kStorageFailure, s)

/-- An absent field is not cleared. -/
def eraseField (key : FieldKey) (s : σ) : Status × σ :=
  let (active, s) := c.transaction .kReadWrite s
  if !active then (.kStorageFailure, s)
  else
    let (present, s) := c.isKey key s
    if !present then (.kOk, s)
    else
      let (result, s) := c.clear key s
      (if result = .kOk then .kOk else .kStorageFailure, s)

/-- The fields `FieldStore` works on. -/
def driver : Driver FieldKey UInt8 ReadError σ where
  read := readField c
  write key data s := ((writeField c key data s).1 = .kOk, (writeField c key data s).2)
  erase key s := ((eraseField c key s).1 = .kOk, (eraseField c key s).2)

/-- `forEachProfile`, over the keys of the collection; the visitor is not null. -/
def enumerateProfiles (visitor : ProfileVisitor) (s : σ) : (Status × List Ssid) × σ :=
  let ((status, visited), s') :=
    (FieldStore.enumerateProfiles visitor (c.keys s)).drive (driver c) s
  ((if status = .kOk then Enumerate (c.iterated s) else status, visited), s')

/-- A call made on the store, with what it is given. -/
inductive Op where
  | begin
  | readEnabled
  | writeEnabled (enabled : Bool)
  | call (call : StoreCall)
  | writeLastProfile (ssid : Ssid)
  | loadProfile (ssid : Ssid)
  | loadCredentials (ssid : Ssid)
  | readLastProfile
  | enumerateProfiles (visitor : ProfileVisitor)

/-- A write of the enabled flag and what it returned. -/
abbrev Written := Bool × Status

/-- One call; the second component records the writes of the enabled flag, the
last one first. -/
def step (x : σ × List Written) (op : Op) : σ × List Written :=
  let (s, writes) := x
  match op with
  | .begin => ((begin c s).2, writes)
  | .readEnabled => ((readEnabled c s).2, writes)
  | .writeEnabled enabled =>
    ((writeEnabled c enabled s).2, (enabled, (writeEnabled c enabled s).1) :: writes)
  | .call call => ((call.prog.drive (driver c) s).2, writes)
  | .writeLastProfile ssid => (((FieldStore.writeLastProfile ssid).drive (driver c) s).2, writes)
  | .loadProfile ssid => (((FieldStore.loadProfile ssid).drive (driver c) s).2, writes)
  | .loadCredentials ssid => (((FieldStore.loadCredentials ssid).drive (driver c) s).2, writes)
  | .readLastProfile => ((FieldStore.readLastProfile.drive (driver c) s).2, writes)
  | .enumerateProfiles visitor => ((enumerateProfiles c visitor s).2, writes)

/-! ## The fields it keeps -/

/-- The field that an entry holds. -/
def fieldOf : Option Value → Option (List UInt8)
  | some (.bytes data) => some data
  | _ => none

def fields (entries : Entries) : FieldMap := fun key => fieldOf (entries key)

/-- What a read of this adapter reports when nothing fails; a value longer than
the buffer is one of the other results. -/
def errors : BackendErrors :=
  ⟨{ missing := ⟨.kNotFound, Status.noConfusion⟩
     tooLong := ⟨.kStorageFailure, Status.noConfusion⟩
     ne := fun h => Status.noConfusion (congrArg Subtype.val h) }, rfl⟩

/-- A failing read never passes for an absent field. -/
def Fails (err : ReadError) : Prop := err.val ≠ .kNotFound

variable {c} {entries : σ → Entries}

theorem fields_bytes {e : Entries} {key : FieldKey} {data : List UInt8}
    (h : e key = some (.bytes data)) : fields e key = some data := by
  simp only [fields, h, fieldOf]

theorem fields_none {e : Entries} {key : FieldKey} (h : e key = none) : fields e key = none := by
  simp only [fields, h, fieldOf]

theorem fields_update (e : Entries) (key : FieldKey) (value : Option Value) :
    fields (Function.update e key value) = commit (fields e) key (fieldOf value) := by
  funext k
  by_cases same : k = key
  · subst same
    rw [commit_same]
    simp only [fields, Function.update_self]
  · rw [commit_of_ne same]
    simp only [fields, Function.update_of_ne same]

/-- An update of entries is a mutation of fields. -/
theorem outcome_of_updated {before after : Entries} {key : FieldKey} {value : Option Value}
    {ok : Bool} (h : Updated before after key value ok) :
    MutationOutcome (fields before) (commit (fields before) key (fieldOf value)) ok
      (fields after) := by
  rcases h with rfl | ⟨failed, rfl⟩
  · exact .inl (fields_update before key value)
  · exact .inr ⟨failed, rfl⟩

/-! ## Each call -/

theorem readField_same (law : c.Lawful entries) (key : FieldKey) (size : Nat) (s : σ) :
    entries (readField c key size s).2 = entries s := by
  unfold readField
  dsimp only
  split
  · exact law.transaction _ s
  · exact (law.readBytes_same _ _ _).trans (law.transaction _ s)

theorem outcome_of_failed {f : FieldMap} {key : FieldKey} {size : Nat} {status : Status}
    (failed : status ≠ .kOk) (present : status ≠ .kNotFound) :
    ReadOutcome errors.1 Fails f key size (.error ⟨status, failed⟩) :=
  .inr ⟨⟨status, failed⟩, present, rfl⟩

theorem readField_outcome (law : c.Lawful entries) (key : FieldKey) (size : Nat) (s : σ) :
    ReadOutcome errors.1 Fails (fields (entries s)) key size (readField c key size s).1 := by
  have opened := law.transaction .kReadOnly s
  unfold readField
  dsimp only
  split
  · exact outcome_of_failed _ (by decide)
  generalize (c.transaction .kReadOnly s).2 = t at opened
  rw [← opened]
  dsimp only
  cases result : (c.readBytes key size t).1 with
  | kOk =>
    obtain ⟨stored, fits⟩ := law.readBytes key size t result
    exact .inl (answer_ok errors.1 (fields_bytes stored) fits).symm
  | kNotFound =>
    have absent := law.readBytes_none key size t result
    exact .inl (answer_missing errors.1 (fields_none absent)).symm
  | kWrongType =>
    exact outcome_of_failed _ (by decide)
  | kOther =>
    exact outcome_of_failed _ (by decide)

theorem writeField_updated (law : c.Lawful entries) (key : FieldKey) (data : List UInt8) (s : σ) :
    Updated (entries s) (entries (writeField c key data s).2) key (some (.bytes data))
      ((writeField c key data s).1 = .kOk) := by
  have opened := law.transaction .kReadWrite s
  unfold writeField
  dsimp only
  split
  · rw [opened]
    exact .unmade _ _ _
  · rw [← opened]
    have made := law.writeBytes key data (c.transaction .kReadWrite s).2
    rcases result : (c.writeBytes key data (c.transaction .kReadWrite s).2).1 <;>
      rwa [result] at made

theorem writeEnabled_updated (law : c.Lawful entries) (enabled : Bool) (s : σ) :
    Updated (entries s) (entries (writeEnabled c enabled s).2) kEnabled (some (.bool enabled))
      ((writeEnabled c enabled s).1 = .kOk) := by
  have opened := law.transaction .kReadWrite s
  unfold writeEnabled
  dsimp only
  split
  · rw [opened]
    exact .unmade _ _ _
  · rw [← opened]
    have made := law.writeBool kEnabled enabled (c.transaction .kReadWrite s).2
    rcases result : (c.writeBool kEnabled enabled (c.transaction .kReadWrite s).2).1 <;>
      rwa [result] at made

theorem eraseField_updated (law : c.Lawful entries) (key : FieldKey) (s : σ) :
    Updated (entries s) (entries (eraseField c key s).2) key none
      ((eraseField c key s).1 = .kOk) := by
  have opened := law.transaction .kReadWrite s
  unfold eraseField
  dsimp only
  split
  · rw [opened]
    exact .unmade _ _ _
  generalize (c.transaction .kReadWrite s).2 = t at opened
  rw [← opened]
  have same := law.isKey_same key t
  split
  · -- erasing an absent field is the update that changes nothing
    rename_i missing
    have absent := law.isKey key t (by simpa using missing)
    rw [same]
    refine .inl ?_
    rw [← absent, Function.update_eq_self]
  · rw [← same]
    have made := law.clear key (c.isKey key t).2
    rcases result : (c.clear key (c.isKey key t).2).1 <;> rwa [result] at made

theorem readEnabled_same (law : c.Lawful entries) (s : σ) :
    entries (readEnabled c s).2 = entries s := by
  unfold readEnabled
  dsimp only
  split
  · exact law.transaction _ s
  · exact (law.readBool_same _ _).trans (law.transaction _ s)

/-- **The fields are served as a backend's.** -/
theorem driver_sound (law : c.Lawful entries) :
    (driver c).Sound errors.1 Fails fun s => fields (entries s) where
  answers := readField_outcome law
  reads key size s := congrArg fields (readField_same law key size s)
  writes key data s := outcome_of_updated (writeField_updated law key data s)
  erases key s := outcome_of_updated (eraseField_updated law key s)

theorem drive_exec (law : c.Lawful entries) {α : Type} (p : FieldProg α) (s : σ) :
    Exec errors.1 Fails p (fields (entries s)) (p.drive (driver c) s).1
      (fields (entries (p.drive (driver c) s).2)) :=
  (driver_sound law).exec p s

/-! ## Programs and the enabled flag -/

/-- The updates that leave the enabled flag alone. -/
def Apart : Set (FieldKey × Option (List UInt8)) := { m | m.1 ≠ kEnabled }

theorem Key_ne_enabled (kind : Char) (s : Ssid) : Key kind s ≠ kEnabled := fun h =>
  absurd (List.cons.inj (List.cons.inj h).2).1 (by decide)

theorem within_saveProfile (st : ProfileSettings) (u : CredentialUpdate) :
    Within Apart (saveProfile st u) := by
  have settings : Within Apart (saveSettings st u.intent) := by
    have own : Within (saveFootprint st u) (saveSettings st u.intent) := within_saveSettings
    refine within_mono ?_ own
    rintro m (rfl | ⟨-, rfl⟩ | ⟨-, rfl⟩) <;> exact Key_ne_enabled _ _
  refine within_bind (readOnly_admitSave st u).within fun r => ?_
  rcases r with status | secret
  · trivial
  dsimp only
  unfold saveRecords
  split
  · refine within_bind (within_writeVerified (Key_ne_enabled _ _)) fun status => ?_
    split
    · trivial
    · exact settings
  · exact settings

theorem within_writeLastProfile (s : Ssid) : Within Apart (writeLastProfile s) := by
  have apart : kLastSsid ≠ kEnabled := by decide
  unfold writeLastProfile
  split
  · trivial
  split
  · exact ⟨apart, fun _ => trivial⟩
  · exact within_writeVerified apart

theorem within_removeProfile (s : Ssid) : Within Apart (removeProfile s) := by
  have records : Within Apart (removeRecords s) := by
    refine within_mono ?_ (within_removeRecords s)
    rintro m (rfl | rfl) <;> exact Key_ne_enabled _ _
  refine within_bind records fun status => ?_
  split
  · trivial
  refine within_bind readOnly_readLastProfile.within fun r => ?_
  rcases r with status | last
  · trivial
  dsimp only
  split
  · trivial
  · exact within_writeLastProfile {}

theorem within_call (call : StoreCall) : Within Apart call.prog := by
  cases call with
  | save st u => exact within_saveProfile st u
  | remove s => exact within_removeProfile s

theorem drive_flag (law : c.Lawful entries) {α : Type} {p : FieldProg α} (within : Within Apart p)
    (s : σ) : entries (p.drive (driver c) s).2 kEnabled = entries s kEnabled := by
  refine drive_invariant (I := fun t => entries t kEnabled = entries s kEnabled) ?_ ?_ ?_ within rfl
  · intro key size t same
    exact (congrFun (readField_same law key size t) _).trans same
  · intro key data t apart same
    exact ((writeField_updated law key data t).frame fun h => apart h.symm).trans same
  · intro key t apart same
    exact ((eraseField_updated law key t).frame fun h => apart h.symm).trans same

theorem drive_readOnly (law : c.Lawful entries) {α : Type} {p : FieldProg α} (within : ReadOnly p)
    (s : σ) : fields (entries (p.drive (driver c) s).2) = fields (entries s) :=
  exec_readOnly errors.1 Fails within (drive_exec law p s)

/-! ## Histories -/

/-- The enabled flag is as the last write that was made left it; one that
reported a failure may have been. -/
def Holds (writes : List Written) : Option Value → Prop
  | none => ∀ w ∈ writes, w.2 ≠ .kOk
  | some (.bool enabled) => ∃ later status earlier,
      writes = later ++ (enabled, status) :: earlier ∧ ∀ w ∈ later, w.2 ≠ .kOk
  | some (.bytes _) => False

theorem Holds.fieldOf {writes : List Written} {held : Option Value} (holds : Holds writes held) :
    PrefsStore.fieldOf held = none := by
  rcases held with _ | enabled | data
  · rfl
  · rfl
  · exact holds.elim

theorem Holds.write {writes : List Written} {before after : Entries} {enabled : Bool}
    {status : Status} (holds : Holds writes (before kEnabled))
    (made : Updated before after kEnabled (some (.bool enabled)) (status = .kOk)) :
    Holds ((enabled, status) :: writes) (after kEnabled) := by
  rcases made with rfl | ⟨failed, rfl⟩
  · rw [Function.update_self]
    exact ⟨[], status, writes, rfl, nofun⟩
  have failed : status ≠ .kOk := of_decide_eq_false failed
  rcases held : after kEnabled with _ | enabled' | data
  · rw [held] at holds
    exact List.forall_mem_cons.mpr ⟨failed, holds⟩
  · rw [held] at holds
    obtain ⟨later, status', earlier, rfl, failures⟩ := holds
    exact ⟨(enabled, status) :: later, status', earlier, rfl,
      List.forall_mem_cons.mpr ⟨failed, failures⟩⟩
  · rw [held] at holds
    exact holds

/-- What any calls leave. -/
structure Kept (entries : σ → Entries) (x : σ × List Written) : Prop where
  worn : Worn errors (fields (entries x.1))
  holds : Holds x.2 (entries x.1 kEnabled)

theorem Kept.same {s t : σ} {writes : List Written} (kept : Kept entries (s, writes))
    (same : entries t = entries s) : Kept entries (t, writes) := by
  obtain ⟨worn, holds⟩ := kept
  exact ⟨by rwa [same], by rwa [same]⟩

theorem Kept.reads (law : c.Lawful entries) {s : σ} {writes : List Written}
    (kept : Kept entries (s, writes)) {α : Type} {p : FieldProg α} (within : ReadOnly p) :
    Kept entries ((p.drive (driver c) s).2, writes) := by
  obtain ⟨worn, holds⟩ := kept
  refine ⟨?_, ?_⟩
  · rw [drive_readOnly law within]
    exact worn
  · rw [drive_flag law within.within]
    exact holds

theorem Kept.step (law : c.Lawful entries) {x : σ × List Written} (kept : Kept entries x)
    (op : Op) : Kept entries (step c x op) := by
  obtain ⟨s, writes⟩ := x
  have stopped {α : Type} (p : FieldProg α) : Reach errors.1 (fun _ => True) p
      (fields (entries s)) (fields (entries (p.drive (driver c) s).2)) :=
    exec_reach _ _ (((driver_sound law).mono fun _ _ => trivial).exec p s)
  cases op with
  | begin => exact kept.same (law.transaction _ s)
  | readEnabled => exact kept.same (readEnabled_same law s)
  | writeEnabled enabled =>
    have made := writeEnabled_updated law enabled s
    refine ⟨?_, kept.holds.write made⟩
    have same : fields (entries (writeEnabled c enabled s).2) = fields (entries s) := by
      rcases outcome_of_updated made with made | ⟨-, made⟩
      · have bare : fields (entries s) kEnabled = none := kept.holds.fieldOf
        have flag : fieldOf (some (.bool enabled)) = none := rfl
        rw [made, flag, ← bare, commit, Function.update_eq_self]
      · exact made
    exact same ▸ kept.worn
  | call call =>
    exact ⟨.call call kept.worn (stopped _), drive_flag law (within_call call) s ▸ kept.holds⟩
  | writeLastProfile ssid =>
    exact ⟨.select ssid kept.worn (stopped _),
      drive_flag law (within_writeLastProfile ssid) s ▸ kept.holds⟩
  | loadProfile ssid => exact kept.reads law (readOnly_loadProfile ssid)
  | loadCredentials ssid => exact kept.reads law (readOnly_loadCredentials ssid)
  | readLastProfile => exact kept.reads law readOnly_readLastProfile
  | enumerateProfiles visitor => exact kept.reads law (readOnly_enumerateProfiles visitor _)

theorem kept_run (law : c.Lawful entries) {s : σ} (fresh : entries s = fun _ => none)
    (ops : List Op) : Kept entries (Machine.run (step c) (s, []) ops) := by
  refine Machine.run_invariant_all (fun _ op kept => kept.step law op) ⟨?_, ?_⟩ ops
  · have empty : fields (entries s) = fun _ => none := funext fun key => by rw [fields, fresh]; rfl
    rw [empty]
    exact .new
  · rw [fresh]
    exact nofun

/-- What reading the flag returns is what the last write left. -/
theorem readEnabled_holds (law : c.Lawful entries) {s : σ} {writes : List Written}
    (holds : Holds writes (entries s kEnabled)) :
    (∀ enabled, (readEnabled c s).1 = .ok enabled → Holds writes (some (.bool enabled))) ∧
    ((readEnabled c s).1 = .error .kNotFound → Holds writes none) ∧
    (readEnabled c s).1 ≠ .error .kCorrupt := by
  have opened := law.transaction .kReadOnly s
  unfold readEnabled
  dsimp only
  split
  · exact ⟨nofun, nofun, nofun⟩
  generalize (c.transaction .kReadOnly s).2 = t at opened
  rw [← opened] at holds
  cases result : (c.readBool kEnabled t).1 with
  | kOk =>
    rw [law.readBool kEnabled t result] at holds
    refine ⟨fun enabled read => ?_, nofun, nofun⟩
    cases read
    exact holds
  | kNotFound =>
    rw [law.readBool_none kEnabled t result] at holds
    exact ⟨nofun, fun _ => holds, nofun⟩
  | kWrongType =>
    obtain ⟨data, stored⟩ := law.readBool_other kEnabled t result
    rw [stored] at holds
    exact holds.elim
  | kOther => exact ⟨nofun, nofun, nofun⟩

/-- **`PrefsStore` is a backend of `FieldStore`.** Over any collection that
keeps its documentation, from an empty one and after any calls: the fields are
ones that a history of `FieldStore` leaves, so that it recovers from them;
every `FieldStore` program runs as one of its executions; and the enabled flag
reads as its last write left it, whatever happened to the profiles. -/
theorem prefsStore_refines {σ : Type} (c : Collection σ) (entries : σ → Entries)
    (law : c.Lawful entries) (s : σ) (fresh : entries s = fun _ => none) (ops : List Op)
    (t : σ) (writes : List Written) (ran : Machine.run (step c) (s, []) ops = (t, writes)) :
    Worn errors (fields (entries t)) ∧
    (∀ (α : Type) (p : FieldProg α), Exec errors.1 Fails p (fields (entries t))
      (p.drive (driver c) t).1 (fields (entries (p.drive (driver c) t).2))) ∧
    (∀ enabled, (readEnabled c t).1 = .ok enabled → ∃ later status earlier,
      writes = later ++ (enabled, status) :: earlier ∧ ∀ w ∈ later, w.2 ≠ .kOk) ∧
    ((readEnabled c t).1 = .error .kNotFound → ∀ w ∈ writes, w.2 ≠ .kOk) ∧
    (readEnabled c t).1 ≠ .error .kCorrupt := by
  have kept : Kept entries (t, writes) := ran ▸ kept_run law fresh ops
  exact ⟨kept.worn, fun _ p => drive_exec law p t, readEnabled_holds law kept.holds⟩

/-! ## A collection -/

/-- The test collection: a log of updates, the last one first. -/
def TestCollection : Collection (List (FieldKey × Option Value)) where
  transaction _ s := (true, s)
  readBool key s :=
    match (s.lookup key).join with
    | none => (.kNotFound, false, s)
    | some (.bool value) => (.kOk, value, s)
    | some (.bytes _) => (.kWrongType, false, s)
  writeBool key value s := (.kOk, (key, some (.bool value)) :: s)
  readBytes key size s :=
    match (s.lookup key).join with
    | none => (.kNotFound, [], s)
    | some (.bytes data) => if data.length ≤ size then (.kOk, data, s) else (.kOther, [], s)
    | some (.bool _) => (.kWrongType, [], s)
  writeBytes key data s := (.kOk, (key, some (.bytes data)) :: s)
  isKey key s := ((s.lookup key).join.isSome, s)
  clear key s := (.kOk, (key, none) :: s)
  keys s := (s.map Prod.fst).dedup.filter fun key => (s.lookup key).join.isSome
  iterated _ := .kOk

def TestEntries (s : List (FieldKey × Option Value)) : Entries := fun key => (s.lookup key).join

theorem TestEntries_cons (key : FieldKey) (value : Option Value)
    (s : List (FieldKey × Option Value)) :
    TestEntries ((key, value) :: s) = Function.update (TestEntries s) key value := by
  funext k
  by_cases same : k = key
  · subst same
    rw [Function.update_self, TestEntries, List.lookup_cons_self, Option.join_some]
  · have differ : (k == key) = false := beq_eq_false_iff_ne.mpr same
    rw [Function.update_of_ne same, TestEntries, List.lookup_cons, differ]
    rfl

theorem TestCollection_lawful : TestCollection.Lawful TestEntries where
  transaction _ _ := rfl
  readBool_same key s := by
    unfold TestCollection
    dsimp only
    split <;> rfl
  readBool key s ok := by
    unfold TestCollection at ok ⊢
    dsimp only at ok ⊢
    split at ok <;> simp_all [TestEntries]
  readBool_none key s ok := by
    unfold TestCollection at ok
    dsimp only at ok
    split at ok <;> simp_all [TestEntries]
  readBool_other key s ok := by
    unfold TestCollection at ok
    dsimp only at ok
    split at ok <;> simp_all [TestEntries]
  writeBool key value s := .inl (TestEntries_cons key _ s)
  readBytes_same key size s := by
    unfold TestCollection
    dsimp only
    split
    · rfl
    · split <;> rfl
    · rfl
  readBytes key size s ok := by
    unfold TestCollection at ok ⊢
    dsimp only at ok ⊢
    split at ok
    · cases ok
    · split at ok <;> simp_all [TestEntries]
    · cases ok
  readBytes_none key size s ok := by
    unfold TestCollection at ok
    dsimp only at ok
    split at ok
    · assumption
    · split at ok <;> cases ok
    · cases ok
  writeBytes key data s := .inl (TestEntries_cons key _ s)
  isKey_same _ _ := rfl
  isKey key s missing := Option.isSome_eq_false_iff.mp missing |> Option.isNone_iff_eq_none.mp
  clear key s := .inl (TestEntries_cons key _ s)

/-- The enabled flag is written, and the test network saved and removed. -/
def TestOps : List Op :=
  [.writeEnabled true, .call (.save { connection := TestConfig } { intent := .kClear }),
    .call (.remove TestConfig.ssid)]

theorem prefsStore_refines_test :
    ∃ t, Machine.run (step TestCollection) ([], []) TestOps = (t, [(true, .kOk)]) ∧
      (readEnabled TestCollection t).1 = .ok true ∧
      Worn errors (fields (TestEntries t)) := by
  refine ⟨_, rfl, by decide +kernel, ?_⟩
  exact (prefsStore_refines TestCollection TestEntries TestCollection_lawful [] rfl TestOps _ _
    rfl).1

end PrefsStore

end RooWifi
