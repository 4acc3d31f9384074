import Aethernet.Golang.Int
import Aethernet.Event.Basic

open golang

namespace aethernet

namespace jcs

/-- The escape of one character in `str`. -/
def strChar (c : Char) : String :=
  if c = '"' then "\\\""
  else if c = '\\' then "\\\\"
  else if c.val = 8 then "\\b"
  else if c.val = 12 then "\\f"
  else if c = '\n' then "\\n"
  else if c = '\r' then "\\r"
  else if c = '\t' then "\\t"
  else if c.val < 32 then
    "\\u00" ++ String.ofList [Nat.digitChar (c.toNat / 16), Nat.digitChar (c.toNat % 16)]
  else c.toString

variable (s : String)

def str : String :=
  "\"" ++ String.join (s.toList.map strChar) ++ "\""

/-- Put a rendered member into the sorted members of an object; a repeated key replaces the earlier
    one, as decoding into a map does. -/
def insertMember (member : String × String) : List (String × String) → List (String × String)
  | [] => [member]
  | m :: rest =>
    if member.1 < m.1 then member :: m :: rest
    else if member.1 = m.1 then member :: rest
    else m :: insertMember member rest

def object (members : List (String × String)) : String :=
  "\x7b" ++ String.intercalate "," (members.map fun m => str m.1 ++ ":" ++ m.2) ++ "\x7d"

variable (number : String → Except Error String)

mutual

/-- `write`. `number` gives the text of a number literal's `float64`, or the error of decoding it. -/
def write : Json → Except Error String
  | .null => .ok "null"
  | .bool b => .ok (if b then "true" else "false")
  | .num literal => number literal
  | .str s => .ok (str s)
  | .arr elems => do
    let texts ← writeElems elems
    return "[" ++ String.intercalate "," texts ++ "]"
  | .obj members => do
    let texts ← writeMembers members []
    return object texts

def writeElems : List Json → Except Error (List String)
  | [] => .ok []
  | j :: rest => do
    let text ← write j
    let texts ← writeElems rest
    return text :: texts

def writeMembers : List (String × Json) → List (String × String) → Except Error (List (String × String))
  | [], done => .ok done
  | (k, j) :: rest, done => do
    let text ← write j
    writeMembers rest (insertMember (k, text) done)

end

/-- `Canonicalize` on the bytes of a document. -/
def canonicalize (j : Json) : Except Error String :=
  match write number j with
  | .ok text => .ok text
  | .error err => .error (.wrap "jcs: unmarshal: " err "")

theorem exists_of_canonicalize_obj {number : String → Except Error String} {members : List (String × Json)}
    {text : String}
    (hcanonical : canonicalize number (.obj members) = .ok text) : ∃ rest, text = "\x7b" ++ rest := by
  rw [canonicalize, write] at hcanonical
  cases hwrite : writeMembers number members [] with
  | error err =>
    rw [hwrite] at hcanonical
    cases hcanonical
  | ok texts =>
    rw [hwrite] at hcanonical
    cases hcanonical
    exact ⟨_, String.append_assoc ..⟩

end jcs

/-- What the hashing and signing of events rests on and this development leaves open: SHA-256 and
    Ed25519 on texts, and how a JSON number literal is rewritten by way of `float64`. -/
structure Crypto where
  sha256 : String → List UInt8
  ed25519Verify : (publicKey : List UInt8) → (message : String) → (signature : List UInt8) → Bool
  number : String → Except Error String

namespace event

/-- `json.Marshal` of a `json.RawMessage`. -/
def marshalRaw : RawMessage → Except Error Json
  | .absent => .ok .null
  | .malformed syntaxError =>
    .error (.new ("json: error calling MarshalJSON for type json.RawMessage: " ++ syntaxError))
  | .document value => .ok value

/-- `json.Marshal` of an event's `eventCanonical` projection, and of the equal `signable`. -/
def marshalCanonical (e : Event) : Except Error Json := do
  let payload ← marshalRaw e.payload
  return .obj
    [("type", .str e.type.text),
      ("causal_refs", match e.causalRefs with
        | none => .null
        | some refs => .arr (refs.map Json.str)),
      ("payload", payload),
      ("agent_id", .str e.agentID),
      ("causal_timestamp", .num (toString e.causalTimestamp)),
      ("stake_amount", .num (toString e.stakeAmount))]

def canonicalBytes (c : Crypto) (e : Event) : Except Error String :=
  match marshalCanonical e with
  | .error err => .error (.wrap "event: marshal canonical: " err "")
  | .ok data => jcs.canonicalize c.number data

def computeID (c : Crypto) (e : Event) : Except Error EventID :=
  match canonicalBytes c e with
  | .error err => .error (.wrap "event: failed to canonicalize: " err "")
  | .ok canonical => .ok (hexEncode (c.sha256 canonical))

end event

namespace crypto

open event

/-- `CanonicalBytes` of the crypto package, over the same projection as the event package's. -/
def canonicalBytes (c : Crypto) (e : Event) : Except Error String :=
  match marshalCanonical e with
  | .error err => .error (.wrap "crypto: failed to serialise event for signing: " err "")
  | .ok data => match jcs.canonicalize c.number data with
    | .error err => .error (.wrap "crypto: failed to canonicalize for signing: " err "")
    | .ok canonical => .ok canonical

def verify (c : Crypto) (publicKey : List UInt8) (data : String) (signature : List UInt8) : Bool :=
  publicKey.length = 32 && signature.length = 64 && c.ed25519Verify publicKey data signature

def verifyEvent (c : Crypto) (e : Event) : Bool :=
  if e.signature.length = 0 then false
  else match hexDecode e.agentID with
    | none => false
    | some publicKey => match canonicalBytes c e with
      | .error _ => false
      | .ok data => verify c publicKey data e.signature

end crypto

section Sample

def sampleCrypto : Crypto where
  sha256 _ := []
  ed25519Verify _ _ _ := true
  number text := .ok text

def event.Event.signed (e : event.Event) : event.Event :=
  { e with agentID := String.ofList (List.replicate 64 '0'), signature := List.replicate 64 0 }

end Sample

end aethernet
