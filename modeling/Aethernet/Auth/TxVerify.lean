import Aethernet.Event.Canonical
import Aethernet.Transition.Retention

open golang transition

namespace golang

/-- The digits of `strconv.ParseUint` in base ten: the value, or which of its two errors comes first. -/
def parseDigits (n : ℕ) : List Char → Except String ℕ
  | [] => .ok n
  | c :: rest =>
    if c.isDigit then
      let next := 10 * n + (c.toNat - '0'.toNat)
      if 2 ^ 64 ≤ next then .error "value out of range" else parseDigits next rest
    else .error "invalid syntax"

/-- `strconv.ParseInt(s, 10, 64)`. -/
def parseInt (s : String) : Except Error Int64 :=
  let (negative, digits) := match s.toList with
    | '-' :: rest => (true, rest)
    | '+' :: rest => (false, rest)
    | chars => (false, chars)
  let parsed : Except String Int64 :=
    if digits = [] then .error "invalid syntax"
    else match parseDigits 0 digits with
      | .error reason => .error reason
      | .ok n =>
        if negative then
          if 2 ^ 63 < n then .error "value out of range" else .ok (Int64.ofInt (-n))
        else if 2 ^ 63 ≤ n then .error "value out of range" else .ok (Int64.ofInt n)
  match parsed with
  | .ok n => .ok n
  | .error reason => .error (.new ("strconv.ParseInt: parsing " ++ quote s ++ ": " ++ reason))

end golang

namespace aethernet.auth

def TxVersion : String := "AETHERNET-TX-V1"

def TxMaxLifetimeSecs : Int64 := 120

def TxClockSkewSecs : Int64 := 60

/-- `txidTTL`, in seconds. -/
def txidTTL : ℤ := 600

/-- `nonceTTL`, in seconds. -/
def nonceTTL : ℤ := 600

structure Transaction where
  version : String
  chainID : String
  actor : String
  method : String
  path : String
  bodySHA256 : String
  createdAt : Int64
  expiresAt : Int64
  nonce : String
  deriving DecidableEq, Repr

variable (c : Crypto)

namespace Transaction

/-- `json.Marshal` of the transaction. -/
def marshal (tx : Transaction) : Json :=
  .obj
    [("version", .str tx.version), ("chain_id", .str tx.chainID), ("actor", .str tx.actor),
      ("method", .str tx.method), ("path", .str tx.path), ("body_sha256", .str tx.bodySHA256),
      ("created_at", .num (toString tx.createdAt)), ("expires_at", .num (toString tx.expiresAt)),
      ("nonce", .str tx.nonce)]

/-- `SignBytes`. `CanonicalizeJSON` of the auth package is the canonicalization events go through. -/
def signBytes (tx : Transaction) : Except Error String := jcs.canonicalize c.number tx.marshal

def txID (tx : Transaction) : Except Error String := do
  let sb ← tx.signBytes c
  return hexEncode (c.sha256 sb)

/-- `Verify`. Its only caller replaces whatever error it gives, so the text of the hex error is left out. -/
def verify (publicKey : List UInt8) (signatureHex : String) (tx : Transaction) : Except Error Unit :=
  match hexDecode signatureHex with
  | none => .error (.new "tx: decode signature")
  | some sig =>
    if sig.length ≠ 64 then .error (.new ("tx: invalid signature length: " ++ toString sig.length))
    else match tx.signBytes c with
      | .error err => .error err
      | .ok sb =>
        if c.ed25519Verify publicKey sb sig then .ok () else .error (.new "tx: signature verification failed")

end Transaction

def ErrTxMissingHeader : Error := .new "tx: missing required header"
def ErrTxChainMismatch : Error := .new "tx: chain_id mismatch"
def ErrTxExpired : Error := .new "tx: transaction expired"
def ErrTxFuture : Error := .new "tx: created_at is in the future"
def ErrTxLifetimeExceed : Error := .new "tx: lifetime exceeds maximum"
def ErrTxBadSignature : Error := .new "tx: signature verification failed"
def ErrTxBadNonce : Error := .new "tx: invalid nonce format"

/-- A request as `VerifyTransaction` reads it: the body's bytes stand beside the JSON document they are,
    or the error of decoding them. -/
structure Request where
  method : String
  path : String
  header : String → String
  body : String
  document : Except Error Json

structure VerifiedTx where
  txID : String
  actor : String
  tx : Transaction
  signature : String
  deriving DecidableEq, Repr

variable (r : Request)

/-- `CanonicalizeJSON` of the request's body. -/
def Request.canonicalBody : Except Error String :=
  match r.document with
  | .error err => .error (.wrap "jcs: unmarshal: " err "")
  | .ok doc => jcs.canonicalize c.number doc

def Request.bodyHash : String :=
  hexEncode (c.sha256 (match r.canonicalBody c with
    | .ok canonBody => canonBody
    | .error _ => r.body))

def requiredHeaders : List String :=
  ["X-AetherNet-Version", "X-AetherNet-Actor", "X-AetherNet-Created", "X-AetherNet-Expires", "X-AetherNet-Nonce",
    "X-AetherNet-Signature"]

def Request.checkHeaders : Except Error Unit :=
  match requiredHeaders.find? fun name => r.header name = "" with
  | some name => .error (.wrap "" ErrTxMissingHeader (": " ++ name))
  | none => .ok ()

/-- The time checks, on the clock `now`. -/
def checkTimes (createdAt expiresAt now : Int64) : Except Error Unit :=
  if expiresAt - createdAt > TxMaxLifetimeSecs then
    .error (.wrap "" ErrTxLifetimeExceed
      (": " ++ toString (expiresAt - createdAt) ++ "s > " ++ toString TxMaxLifetimeSecs ++ "s"))
  else if now > expiresAt + TxClockSkewSecs then
    .error (.wrap "" ErrTxExpired (": expired " ++ toString (now - expiresAt) ++ "s ago"))
  else if createdAt > now + TxClockSkewSecs then
    .error (.wrap "" ErrTxFuture (": " ++ toString (createdAt - now) ++ "s in the future"))
  else .ok ()

def checkNonce (nonce : String) : Except Error Unit :=
  if nonce.utf8ByteSize ≠ 32 then
    .error (.wrap "" ErrTxBadNonce (": expected 32 hex chars, got " ++ toString nonce.utf8ByteSize))
  else match hexDecode nonce with
    | none => .error (.wrap "" ErrTxBadNonce ": not valid hex")
    | some _ => .ok ()

/-- What the verification of transactions is configured with. -/
structure Verifier where
  crypto : Crypto
  chainID : String
  lookupPubKey : String → Except Error (List UInt8)

def wrapError {A : Type} (before : String) : Except Error A → Except Error A
  | .ok a => .ok a
  | .error err => .error (.wrap before err "")

variable (v : Verifier)

/-- The part of `VerifyTransaction` before the clock is read: the chain and the two times. -/
def Verifier.readTimes (r : Request) : Except Error (Int64 × Int64) := do
  r.checkHeaders
  if r.header "X-AetherNet-Chain-ID" ≠ v.chainID then
    .error (.wrap "" ErrTxChainMismatch
      (": got " ++ quote (r.header "X-AetherNet-Chain-ID") ++ ", want " ++ quote v.chainID))
  else
    let createdAt ← wrapError "tx: invalid created_at: " (parseInt (r.header "X-AetherNet-Created"))
    let expiresAt ← wrapError "tx: invalid expires_at: " (parseInt (r.header "X-AetherNet-Expires"))
    return (createdAt, expiresAt)

/-- The transaction a request with these times is an envelope for. -/
def Request.transaction (createdAt expiresAt : Int64) : Transaction where
  version := r.header "X-AetherNet-Version"
  chainID := r.header "X-AetherNet-Chain-ID"
  actor := r.header "X-AetherNet-Actor"
  method := r.method
  path := r.path
  bodySHA256 := r.bodyHash c
  createdAt := createdAt
  expiresAt := expiresAt
  nonce := r.header "X-AetherNet-Nonce"

/-- The part of `VerifyTransaction` after the time checks. -/
def Verifier.verifyEnvelope (r : Request) (createdAt expiresAt : Int64) : Except Error VerifiedTx := do
  checkNonce (r.header "X-AetherNet-Nonce")
  let tx := r.transaction v.crypto createdAt expiresAt
  match v.lookupPubKey tx.actor with
  | .error err => .error (.wrap ("tx: unknown actor " ++ quote tx.actor ++ ": ") err "")
  | .ok pubKey => match tx.verify v.crypto pubKey (r.header "X-AetherNet-Signature") with
    | .error _ => .error ErrTxBadSignature
    | .ok _ =>
      let txID ← wrapError "tx: compute txid: " (tx.txID v.crypto)
      return { txID, actor := tx.actor, tx, signature := r.header "X-AetherNet-Signature" }

def Verifier.verifyTransaction (r : Request) (now : Int64) : Except Error VerifiedTx := do
  let (createdAt, expiresAt) ← v.readTimes r
  checkTimes createdAt expiresAt now
  v.verifyEnvelope r createdAt expiresAt

/-- The in-memory map of `BadgerNonceStore` and of `TxIDStore`: when each key was stored. -/
abbrev Store := Seen String Int64

/-- `cleanup`, with entries older than `ttl` seconds deleted. -/
def Store.cleanup (ttl : ℤ) (now : Int64) (s : Store) : Store := s.purge fun ts => ts.toInt < now.toInt - ttl

/-- `CheckAndStore` of the nonce store: whether the nonce was already used. -/
def checkAndStore (agentID nonce : String) (now : Int64) (s : Store) : Bool × Store :=
  s.mark ("nonce:" ++ agentID ++ ":" ++ nonce) now

variable (txID : String)

/-- `MarkSeen` of the store of transaction IDs: whether the ID was already seen. -/
def markSeen (now : Int64) (s : Store) : Bool × Store := s.mark ("txid:" ++ txID) now

def isSeen (s : Store) : Bool := "txid:" ++ txID ∈ s

/-- `checkTxIDSeen` of the API server on a verified transaction: whether the request was already processed.
    `inDag` is whether the DAG has an event under the ID. -/
def checkTxIDSeen (inDag : Bool) (now : Int64) (s : Store) : Bool × Store :=
  if isSeen txID s then (true, s)
  else if inDag then (true, (markSeen txID now s).2)
  else (false, (markSeen txID now s).2)

/-- How the API server answers a request. -/
inductive Answer where
  | otherScheme
  | unauthorized (err : Error)
  | rateLimited
  | alreadyProcessed (txID : String)
  | accepted (vtx : VerifiedTx)

/-- The branch of `ServeHTTP` for signed transactions up to the replay check of the handler. `allowed` is the
    answer of the rate limiter. -/
def Verifier.serve (r : Request) (allowed inDag : Bool) (now : Int64) (s : Store) : Answer × Store :=
  if r.header "X-AetherNet-Version" ≠ TxVersion then (.otherScheme, s)
  else match v.verifyTransaction r now with
    | .error err => (.unauthorized err, s)
    | .ok vtx =>
      if allowed = false then (.rateLimited, s)
      else match checkTxIDSeen vtx.txID inDag now s with
        | (true, s') => (.alreadyProcessed vtx.txID, s')
        | (false, s') => (.accepted vtx, s')

end aethernet.auth
