import Mathlib.Data.List.Nodup
import RooWifi.Configuration

/-! # The persistent format of profiles and secrets (hal/field_store.cpp)

Field keys are Base64url renderings of a 64-bit hash of the SSID, so two
networks may share them; the records carry the whole SSID. -/
namespace RooWifi

/-! ## Bounded writer and reader -/

/-- `Writer`: a buffer of `capacity` bytes and what has been put into it. -/
structure Writer where
  capacity : Nat
  data : List UInt8 := []
  ok : Bool := true

namespace Writer

def u8 (w : Writer) (value : UInt8) : Writer :=
  if w.data.length = w.capacity then { w with ok := false }
  else { w with data := w.data ++ [value] }

def be32 (w : Writer) (value : UInt32) : Writer :=
  (((w.u8 (value >>> 24).toUInt8).u8 (value >>> 16).toUInt8).u8 (value >>> 8).toUInt8).u8
    value.toUInt8

/-- Appends bytes only when the complete range fits. -/
def bytes (w : Writer) (data : List UInt8) : Writer :=
  if data.length > w.capacity - w.data.length then { w with ok := false }
  else { w with data := w.data ++ data }

/-- The bytes to store: a size of zero stands for an overflow. -/
def finish (w : Writer) : List UInt8 := if w.ok then w.data else []

end Writer

/-- `Reader`: the encoded bytes left. -/
structure Reader where
  rest : List UInt8
  ok : Bool := true

namespace Reader

def u8 (r : Reader) : UInt8 × Reader :=
  match r.rest with
  | [] => (0, { r with ok := false })
  | b :: rest => (b, { r with rest })

def be32 (r : Reader) : UInt32 × Reader :=
  let (a, r) := r.u8
  let (b, r) := r.u8
  let (c, r) := r.u8
  let (d, r) := r.u8
  ((a.toUInt32 <<< 24) ||| (b.toUInt32 <<< 16) ||| (c.toUInt32 <<< 8) ||| d.toUInt32, r)

/-- Copies bytes only when the complete encoded range is available. -/
def bytes (r : Reader) (size : Nat) : List UInt8 × Reader :=
  if size > r.rest.length then ([], { r with ok := false })
  else (r.rest.take size, { r with rest := r.rest.drop size })

/-- Successful decoding with no trailing bytes. -/
def complete (r : Reader) : Bool := r.ok && r.rest.isEmpty

end Reader

/-! ## Keys -/

def kProfileMagic : UInt32 := 0x52575050
def kSecretMagic : UInt32 := 0x52575053
def kFormatVersion : UInt8 := 2
def kMaxProfileSize : Nat := 61
def kMaxSecretSize : Nat := 104

/-- `A`-`Z`, `a`-`z`, `0`-`9`, `-` and `_`. -/
def kBase64UrlAlphabet : List UInt8 :=
  (List.range' 65 26 ++ List.range' 97 26 ++ List.range' 48 10 ++ [45, 95]).map Nat.toUInt8

/-- 64-bit FNV-1a of the exact SSID bytes. -/
def fnv1a (ssid : Ssid) : UInt64 :=
  ssid.view.foldl (fun hash b => (hash ^^^ b.toUInt64) * 1099511628211) 14695981039346656037

def base64UrlDigit (i : Nat) : UInt8 := kBase64UrlAlphabet.getD i 0

/-- Ten digits of six bits and a last one of four, shifted left. -/
def base64Url (hash : UInt64) : List UInt8 :=
  (List.range 10).map (fun i => base64UrlDigit (hash.toNat / 2 ^ (58 - 6 * i) % 64)) ++
    [base64UrlDigit (hash.toNat % 16 * 4)]

/-- `Key`: the 13-byte field key of a record of this kind. -/
def Key (kind : Char) (ssid : Ssid) : List UInt8 :=
  kind.toUInt8 :: 45 :: base64Url (fnv1a ssid)

/-- The field `"last-ssid"`. -/
def kLastSsid : List UInt8 := [108, 97, 115, 116, 45, 115, 115, 105, 100]

/-! ## Records -/

/-- `EncodeProfile` -/
def EncodeProfile (settings : ProfileSettings) : List UInt8 :=
  let config := settings.connection
  let ip := config.staticIpv4
  let out := ({ capacity := kMaxProfileSize } : Writer).be32 kProfileMagic
  let out := (out.u8 kFormatVersion).u8 config.ssid.size
  let out := out.bytes config.ssid.view
  let out := ((out.u8 config.security.raw).u8 config.hidden.toUInt8).u8 config.ipMode.raw
  let out := ((out.bytes ip.address.toList).bytes ip.gateway.toList).bytes ip.dns1.toList
  let out := ((out.bytes ip.dns2.toList).u8 ip.prefixLength).u8 ip.hasDns2.toUInt8
  let out := (out.u8 config.macPolicy.raw).u8 settings.autoConnect.toUInt8
  out.finish

/-- `DecodeProfile`: rejects malformed lengths, versions and flags. `settings`
is assigned last. -/
def DecodeProfileInto (data : List UInt8) (settings : ProfileSettings) :
    Status × ProfileSettings :=
  let (magic, r) := ({ rest := data } : Reader).be32
  let (version, r) := r.u8
  if magic ≠ kProfileMagic ∨ version ≠ kFormatVersion then (.kCorrupt, settings)
  else
    let (ssidSize, r) := r.u8
    if ssidSize = 0 ∨ ssidSize > 32 then (.kCorrupt, settings)
    else
      let (ssid, r) := r.bytes ssidSize.toNat
      let (security, r) := r.u8
      let (hidden, r) := r.u8
      let (ipMode, r) := r.u8
      let (address, r) := r.bytes 4
      let (gateway, r) := r.bytes 4
      let (dns1, r) := r.bytes 4
      let (dns2, r) := r.bytes 4
      let (prefixLength, r) := r.u8
      let (hasDns2, r) := r.u8
      let (macPolicy, r) := r.u8
      let (autoConnect, r) := r.u8
      if hidden > 1 ∨ hasDns2 > 1 ∨ autoConnect > 1 ∨ !r.complete then (.kCorrupt, settings)
      else
        (.kOk,
          { connection :=
              { ssid := { bytes := .load 32 ssid, size := ssidSize }
                security := ⟨security⟩
                hidden := hidden ≠ 0
                ipMode := ⟨ipMode⟩
                staticIpv4 :=
                  { address := .load 4 address, gateway := .load 4 gateway
                    dns1 := .load 4 dns1, dns2 := .load 4 dns2
                    prefixLength, hasDns2 := hasDns2 ≠ 0 }
                macPolicy := ⟨macPolicy⟩ }
            autoConnect := autoConnect ≠ 0 })

/-- `DecodeProfile` as its callers use it: into a new record, which they read only
when the decoding succeeds. -/
def DecodeProfile (data : List UInt8) : Except Status ProfileSettings :=
  match DecodeProfileInto data {} with
  | (.kOk, settings) => .ok settings
  | (status, _) => .error status

/-- `EncodeSecret`: credentials together with the SSID that owns them. -/
def EncodeSecret (ssid : Ssid) (secret : Credentials) : List UInt8 :=
  let out := ({ capacity := kMaxSecretSize } : Writer).be32 kSecretMagic
  let out := (out.u8 kFormatVersion).u8 ssid.size
  let out := out.bytes ssid.view
  let out := (out.u8 secret.encoding.raw).u8 secret.size
  (out.bytes secret.view).finish

/-- `DecodeSecret`: the owner of a credential record and its credentials. Both
are assigned last. -/
def DecodeSecretInto (data : List UInt8) (ssid : Ssid) (secret : Credentials) :
    Status × Ssid × Credentials :=
  let (magic, r) := ({ rest := data } : Reader).be32
  let (version, r) := r.u8
  if magic ≠ kSecretMagic ∨ version ≠ kFormatVersion then (.kCorrupt, ssid, secret)
  else
    let (ssidSize, r) := r.u8
    if ssidSize = 0 ∨ ssidSize > 32 then (.kCorrupt, ssid, secret)
    else
      let (name, r) := r.bytes ssidSize.toNat
      let (encoding, r) := r.u8
      let (secretSize, r) := r.u8
      if secretSize > 64 then (.kCorrupt, ssid, secret)
      else
        let (bytes, r) := r.bytes secretSize.toNat
        if !r.complete then (.kCorrupt, ssid, secret)
        else
          (.kOk, { bytes := .load 32 name, size := ssidSize },
            { encoding := ⟨encoding⟩, bytes := .load 64 bytes, size := secretSize })

/-- `DecodeSecret` as its callers use it. -/
def DecodeSecret (data : List UInt8) : Except Status (Ssid × Credentials) :=
  match DecodeSecretInto data {} {} with
  | (.kOk, decoded) => .ok decoded
  | (status, _) => .error status

/-! ## What a record keeps -/

/-- The SSID with its meaningless bytes cleared, as decoding gives it back. -/
def Ssid.trim (s : Ssid) : Ssid := { bytes := .load 32 s.view, size := s.size }

def Credentials.trim (c : Credentials) : Credentials := { c with bytes := .load 64 c.view }

def ProfileSettings.trim (p : ProfileSettings) : ProfileSettings :=
  { p with connection := { p.connection with ssid := p.connection.ssid.trim } }

end RooWifi
