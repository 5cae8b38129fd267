import RooWifi.Lib.Storage
import RooWifi.Store.Format

/-! # `FieldStore` (hal/field_store.cpp)

Each operation is a program over the field backend. A failing read reports
any status but `kOk`; a mutation reports whether it succeeded, which is all
the source looks at. -/
namespace RooWifi

open Storage

/-- What a failing field read may report. -/
abbrev ReadError := { s : Status // s ≠ .kOk }

/-- The statuses of a working backend: an absent field is `kNotFound`, a value
longer than the buffer is reported as some other status. -/
abbrev BackendErrors := { e : Errors ReadError // e.missing.val = .kNotFound }

abbrev FieldKey := List UInt8

abbrev FieldProg (α : Type) := Prog FieldKey UInt8 ReadError α

def readField (key : FieldKey) (capacity : Nat) : FieldProg (Except ReadError (List UInt8)) :=
  .read key capacity .ret

def writeField (key : FieldKey) (data : List UInt8) : FieldProg Bool := .write key data .ret

def eraseField (key : FieldKey) : FieldProg Bool := .erase key .ret

namespace FieldStore

/-- The validation `read` ends with. -/
def validated (settings : ProfileSettings) (secret : Credentials) :
    Except Status (ProfileSettings × Credentials) :=
  if Validate settings.connection secret ≠ .kOk then .error .kCorrupt else .ok (settings, secret)

/-- `FieldStore::read`: the settings and the secret that goes with them. -/
def read (ssid : Ssid) : FieldProg (Except Status (ProfileSettings × Credentials)) :=
  if ¬ ssid.Valid then .ret (.error .kInvalidArgument)
  else do
    match ← readField (Key 'p' ssid) kMaxProfileSize with
    | .error e => .ret (.error e)
    | .ok profileData =>
      match DecodeProfile profileData with
      | .error status => .ret (.error status)
      | .ok settings =>
        if !settings.connection.ssid.eq ssid then .ret (.error .kHashCollision)
        else if settings.connection.security = .kOpen then .ret (validated settings {})
        else
          match ← readField (Key 's' ssid) kMaxSecretSize with
          | .error e => .ret (.error (if e.val = .kNotFound then .kCorrupt else e))
          | .ok secretData =>
            match DecodeSecret secretData with
            | .error status => .ret (.error status)
            | .ok (secretSsid, secret) =>
              if !secretSsid.eq ssid then .ret (.error .kHashCollision)
              else .ret (validated settings secret)

def loadProfile (ssid : Ssid) : FieldProg (Except Status Profile) := do
  match ← read ssid with
  | .error status => .ret (.error status)
  | .ok (settings, secret) => .ret (.ok { settings, hasCredentials := secret.size ≠ 0 })

def loadCredentials (ssid : Ssid) : FieldProg (Except Status Credentials) := do
  match ← read ssid with
  | .error status => .ret (.error status)
  | .ok (_, secret) => .ret (.ok secret)

/-- The second half of `checkIdentity`: the owner of the secret. -/
def checkSecretIdentity (ssid : Ssid) : FieldProg Status := do
  match ← readField (Key 's' ssid) kMaxSecretSize with
  | .error e => .ret (if e.val = .kNotFound then .kOk else e)
  | .ok data =>
    match DecodeSecret data with
    | .error status => .ret status
    | .ok (stored, _) => .ret (if stored.eq ssid then .kOk else .kHashCollision)

/-- `FieldStore::checkIdentity`: both blobs before mutation, orphaned secrets
included. Both are read with the capacity of the larger one. -/
def checkIdentity (ssid : Ssid) : FieldProg Status :=
  if ¬ ssid.Valid then .ret .kInvalidArgument
  else do
    match ← readField (Key 'p' ssid) kMaxSecretSize with
    | .error e => if e.val = .kNotFound then checkSecretIdentity ssid else .ret e
    | .ok data =>
      match DecodeProfile data with
      | .error status => .ret status
      | .ok settings =>
        if !settings.connection.ssid.eq ssid then .ret .kHashCollision
        else checkSecretIdentity ssid

/-- The reread after a failed write, which resolves the commit outcome. -/
def resolveWrite (key : FieldKey) (expected : List UInt8) (capacity : Nat) : FieldProg Status := do
  match ← readField key capacity with
  | .ok actual => .ret (if actual = expected then .kOk else .kStorageFailure)
  | .error e => .ret (if e.val = .kNotFound then .kStorageFailure else .kCommitUnknown)

/-- `FieldStore::writeVerified`: writes changed bytes only. -/
def writeVerified (key : FieldKey) (expected : List UInt8) (capacity : Nat) :
    FieldProg Status := do
  let current ← readField key capacity
  if current = .ok expected then .ret .kOk
  else if ← writeField key expected then .ret .kOk
  else resolveWrite key expected capacity

/-- The `switch` of `saveProfile`: the credentials to validate. -/
def updatedCredentials (ssid : Ssid) (update : CredentialUpdate) :
    FieldProg (Except Status Credentials) :=
  if update.intent = .kKeep then loadCredentials ssid
  else if update.intent = .kReplace then .ret (.ok update.replacement)
  else if update.intent = .kClear then
    .ret (if update.replacement.size ≠ 0 then .error .kInvalidArgument else .ok {})
  else .ret (.error .kInvalidArgument)

/-- The end of `saveProfile`: a cleared profile loses its secret. -/
def clearSecret (ssid : Ssid) : FieldProg Status := do
  match ← readField (Key 's' ssid) kMaxSecretSize with
  | .error e =>
    if e.val = .kNotFound then .ret .kOk
    else .ret (if ← eraseField (Key 's' ssid) then .kOk else .kStorageFailure)
  | .ok _ => .ret (if ← eraseField (Key 's' ssid) then .kOk else .kStorageFailure)

/-- `saveProfile` from the settings write on. -/
def saveSettings (settings : ProfileSettings) (intent : CredentialIntent) : FieldProg Status := do
  let ssid := settings.connection.ssid
  let status ← writeVerified (Key 'p' ssid) (EncodeProfile settings) kMaxProfileSize
  if status ≠ .kOk then .ret status
  else if intent = .kClear then clearSecret ssid
  else .ret .kOk

/-- `saveProfile` after validation: a replaced secret first, then the settings. -/
def saveRecords (settings : ProfileSettings) (intent : CredentialIntent) (secret : Credentials) :
    FieldProg Status := do
  let ssid := settings.connection.ssid
  if intent = .kReplace then
    let status ← writeVerified (Key 's' ssid) (EncodeSecret ssid secret) kMaxSecretSize
    if status ≠ .kOk then .ret status else saveSettings settings intent
  else saveSettings settings intent

/-- Open settings are saved only with an empty `kClear` update. -/
def mismatched (settings : ProfileSettings) (update : CredentialUpdate) : Bool :=
  settings.connection.security = .kOpen ∧
    (update.intent ≠ .kClear ∨ update.replacement.size ≠ 0)

/-- The checks of `saveProfile`, all made before its first mutation, and the
credentials they settle on. -/
def admitSave (settings : ProfileSettings) (update : CredentialUpdate) :
    FieldProg (Except Status Credentials) := do
  let identity ← checkIdentity settings.connection.ssid
  if identity ≠ .kOk then .ret (.error identity)
  else if mismatched settings update then .ret (.error .kInvalidArgument)
  else
    match ← updatedCredentials settings.connection.ssid update with
    | .error status => .ret (.error status)
    | .ok secret =>
      let status := Validate settings.connection secret
      .ret (if status ≠ .kOk then .error status else .ok secret)

def saveProfile (settings : ProfileSettings) (update : CredentialUpdate) : FieldProg Status := do
  match ← admitSave settings update with
  | .error status => .ret status
  | .ok secret => saveRecords settings update.intent secret

/-- What `readLastProfile` accepts: a length byte and exactly that many more. -/
def decodeLast (data : List UInt8) : Except Status Ssid :=
  match data with
  | size :: bytes =>
    if data.length < 2 ∨ size > 32 ∨ data.length ≠ size.toNat + 1 then .error .kCorrupt
    else .ok { bytes := .load 32 bytes, size }
  | [] => .error .kCorrupt

def readLastProfile : FieldProg (Except Status Ssid) := do
  match ← readField kLastSsid 33 with
  | .error e => .ret (.error e)
  | .ok data => .ret (decodeLast data)

/-- `FieldStore::writeLastProfile`; the empty SSID clears the selection. -/
def writeLastProfile (ssid : Ssid) : FieldProg Status :=
  if ssid.size > 32 then .ret .kInvalidArgument
  else if ssid.size = 0 then do
    .ret (if ← eraseField kLastSsid then .kOk else .kStorageFailure)
  else writeVerified kLastSsid (ssid.size :: ssid.view) 33

/-- The end of `removeProfile`: a removed profile is no longer the last one. -/
def forgetLast (ssid : Ssid) : FieldProg Status := do
  match ← readLastProfile with
  | .error status => .ret (if status = .kNotFound then .kOk else status)
  | .ok last => if !last.eq ssid then .ret .kOk else writeLastProfile {}

/-- `removeProfile` up to the last selection: settings first, then the secret. -/
def removeRecords (ssid : Ssid) : FieldProg Status := do
  let identity ← checkIdentity ssid
  if identity ≠ .kOk then .ret identity
  else if !(← eraseField (Key 'p' ssid)) then .ret .kStorageFailure
  else .ret (if ← eraseField (Key 's' ssid) then .kOk else .kStorageFailure)

def removeProfile (ssid : Ssid) : FieldProg Status := do
  let status ← removeRecords ssid
  if status ≠ .kOk then .ret status else forgetLast ssid

end FieldStore

/-- A mutating call of the store. -/
inductive StoreCall where
  | save (settings : ProfileSettings) (update : CredentialUpdate)
  | remove (ssid : Ssid)

def StoreCall.prog : StoreCall → FieldProg Status
  | save settings update => FieldStore.saveProfile settings update
  | remove ssid => FieldStore.removeProfile ssid

/-- The network a call is about. -/
def StoreCall.ssid : StoreCall → Ssid
  | save settings _ => settings.connection.ssid
  | remove ssid => ssid

/-! ## The test fixtures (test/backend_fakes.h) -/

/-- `MemoryStore::readField`: `kNotFound`, or `kCorrupt` for a value that does not fit. -/
def MemoryStore : BackendErrors :=
  ⟨{ missing := ⟨.kNotFound, by decide⟩, tooLong := ⟨.kCorrupt, by decide⟩, ne := by decide }, rfl⟩

/-- `TestConfig`: the open network named `network`. -/
def TestConfig : ConnectionConfig :=
  { ssid := { bytes := .load 32 [110, 101, 116, 119, 111, 114, 107], size := 7 }
    security := .kOpen }

namespace FieldStore

/-- The test network secured by a WPA2 passphrase, and by a WEP key. -/
def TestWpa2 : ProfileSettings := { connection := { TestConfig with security := .kWpa2Personal } }
def TestWep : ProfileSettings := { connection := { TestConfig with security := .kWep } }

def TestPassphrase : Credentials := { bytes := .load 64 (List.replicate 8 97), size := 8 }

def TestWepUpdate : CredentialUpdate :=
  { intent := .kReplace
    replacement := { encoding := .kWepKey, bytes := .load 64 [1, 2, 3, 4, 5], size := 5 } }

end FieldStore

end RooWifi
