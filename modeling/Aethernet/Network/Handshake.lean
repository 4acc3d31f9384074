import Aethernet.Event.Canonical
import Aethernet.Golang.Method

open golang aethernet.event

namespace aethernet

def utf8 (s : String) : List UInt8 := s.toUTF8.data.toList

namespace crypto

/-- Ed25519 on byte strings. -/
structure Ed25519 where
  sign : (privateKey message : List UInt8) → List UInt8
  verify : (publicKey message signature : List UInt8) → Bool

end crypto

variable (c : Crypto)

/-- The verification of events by this Ed25519. -/
def Crypto.withEd25519 (ed : crypto.Ed25519) : Crypto :=
  { c with ed25519Verify := fun publicKey message signature => ed.verify publicKey (utf8 message) signature }

variable (ed : Ed25519)

namespace crypto

structure KeyPair where
  privateKey : List UInt8
  publicKey : List UInt8

namespace KeyPair

def agentID (kp : KeyPair) : String := hexEncode kp.publicKey

def sign (data : List UInt8) (kp : KeyPair) : Except Error (List UInt8) :=
  if kp.privateKey.length = 0 then .error (.new "crypto: keypair has no private key")
  else .ok (ed.sign kp.privateKey data)

end KeyPair

/-- `Verify`. -/
def verifyBytes (publicKey data signature : List UInt8) : Bool :=
  publicKey.length = 32 && signature.length = 64 && ed.verify publicKey data signature

end crypto

variable (eventID : EventID) (challenge : List UInt8)

namespace network

open crypto

def errMaxPeers : Error := .new "network: max peers reached"
def errSelfConnection : Error := .new "network: refusing self-connection"

def voteBytes (voterID : String) (verdict : Bool) (timestamp : Int64) : List UInt8 :=
  utf8 eventID ++ utf8 voterID ++ [if verdict then 1 else 0] ++ putUint64 timestamp.toUInt64

structure HandshakePayload where
  agentID : String := ""
  version : String := ""
  tipCount : ℕ := 0
  challenge : List UInt8 := []
  challengeResponse : List UInt8 := []
  publicKey : List UInt8 := []
  manifestDigest : String := ""

/-- A message as it is read from a connection, with what its payload decodes to as a handshake. -/
structure WireMessage where
  isHandshake : Bool
  handshake : Except Error HandshakePayload

/-- `NodeConfig`, as far as handshakes read it. -/
structure NodeConfig where
  agentID : String
  version : String
  keyPair : Option KeyPair
  manifestDigest : String
  maxPeers : ℤ

/-- A `Node` as its key pair is used: the peers by ID, the handshake messages sent, the challenges signed, and the bytes
    of the events and votes signed. -/
structure Endpoint where
  config : NodeConfig
  tipCount : ℕ := 0
  peers : Finset String := ∅
  sent : List HandshakePayload := []
  signed : List (List UInt8) := []
  issued : List (List UInt8) := []

/-- Read and decode a handshake message, with the texts of the three errors. -/
def readHandshake (readText typeText decodeText : String) (message : Except Error WireMessage) :
    Except Error HandshakePayload :=
  match message with
  | .error err => .error (.wrap readText err "")
  | .ok message =>
    if !message.isHandshake then .error (.new typeText)
    else match message.handshake with
      | .error err => .error (.wrap decodeText err "")
      | .ok payload => .ok payload

variable (theirs : HandshakePayload) (config : NodeConfig) (myChallenge : List UInt8)

namespace NodeConfig

def errUnauthenticated : Error :=
  .new "network: unauthenticated peer rejected; local node requires keypair authentication"

def errChallengeResponse : Error := .new "network: peer failed challenge-response verification"

/-- The connector's check of the acceptor's answer to its challenge. -/
def authenticate : Except Error Unit :=
  if config.keyPair.isNone then .ok ()
  else if theirs.publicKey.length = 0 then .error errUnauthenticated
  else if !verifyBytes ed theirs.publicKey challenge theirs.challengeResponse then .error errChallengeResponse
  else .ok ()

/-- The manifest check, which an empty digest on either side passes. -/
def checkManifest : Except Error Unit :=
  if config.manifestDigest ≠ "" ∧ theirs.manifestDigest ≠ "" ∧ config.manifestDigest ≠ theirs.manifestDigest then
    .error (.new ("network: validator manifest mismatch — local=" ++ config.manifestDigest ++ " remote="
      ++ theirs.manifestDigest))
  else .ok ()

end NodeConfig

namespace Endpoint

def send (payload : HandshakePayload) (n : Endpoint) : Endpoint := { n with sent := n.sent ++ [payload] }

/-- Sign a peer's challenge, if there is a key pair and a challenge: the signature and the public key. -/
def signChallenge : Method Endpoint (Option (List UInt8 × List UInt8)) :=
  fun n => match n.config.keyPair with
    | none => (.ok none, n)
    | some kp =>
      if challenge.length = 0 then (.ok none, n)
      else match kp.sign ed challenge with
        | .error err => (.error (.wrap "network: sign challenge: " err ""), n)
        | .ok sig => (.ok (some (sig, kp.publicKey)), { n with signed := n.signed ++ [challenge] })

/-- Enter the peer, unless the node has enough. -/
def register (agentID : String) : Method Endpoint Unit := fun n =>
  if n.config.maxPeers ≤ n.peers.card then (.error errMaxPeers, n)
  else (.ok (), { n with peers := insert agentID n.peers })

/-- What `Connect` meets: whether the address is the node's own, the errors of its calls, the random challenge and the
    acceptor's message. -/
structure ConnectEnv where
  address : String := ""
  isSelfAddr : Bool := false
  dialErr : Option Error := none
  deadlineErr : Option Error := none
  challenge : Except Error (List UInt8)
  sendErr : Option Error := none
  reply : Except Error WireMessage
  sendResponseErr : Option Error := none

/-- The connector's follow-up message. -/
def sendResponse (sendErr : Option Error) (response : Option (List UInt8 × List UInt8)) : Method Endpoint Unit :=
  fun n => match response with
    | none => (.ok (), n)
    | some (challengeResponse, publicKey) => match sendErr with
      | some err => (.error (.wrap "network: send challenge response: " err ""), n)
      | none => (.ok (), n.send { agentID := n.config.agentID, challengeResponse, publicKey })

/-- The first part of `Connect`: dial and send the handshake, with the challenge that is sent. -/
def sendHello (env : ConnectEnv) : Method Endpoint (List UInt8) := fun n =>
  if env.isSelfAddr then (.error errSelfConnection, n)
  else match env.dialErr, env.deadlineErr, env.challenge, env.sendErr with
    | some err, _, _, _ => (.error (.wrap ("network: dial " ++ env.address ++ ": ") err ""), n)
    | none, some err, _, _ => (.error (.wrap "network: set handshake deadline: " err ""), n)
    | none, none, .error err, _ => (.error (.wrap "network: generate challenge: " err ""), n)
    | none, none, .ok _, some err => (.error (.wrap "network: send handshake: " err ""), n)
    | none, none, .ok myChallenge, none => (.ok myChallenge, n.send
        { agentID := n.config.agentID
          version := n.config.version
          tipCount := n.tipCount
          challenge := myChallenge
          publicKey := (n.config.keyPair.map (·.publicKey)).getD []
          manifestDigest := n.config.manifestDigest })

/-- The connector's part from the acceptor's message to its own answer. -/
def answerAcceptor (sendErr : Option Error) : Method Endpoint Unit := fun n =>
  if theirs.agentID = n.config.agentID then (.error errSelfConnection, n)
  else match n.config.authenticate ed myChallenge theirs with
    | .error err => (.error err, n)
    | .ok () => match n.config.checkManifest theirs with
      | .error err => (.error err, n)
      | .ok () => (do
          let response ← signChallenge ed theirs.challenge
          sendResponse sendErr response) n

/-- The second part of `Connect`: read the acceptor's message and answer it. -/
def receiveReply (sendErr : Option Error) (reply : Except Error WireMessage) : Method Endpoint HandshakePayload :=
  match readHandshake "network: receive handshake: " "network: expected handshake response"
      "network: decode handshake response: " reply with
  | .error err => .fail err
  | .ok theirs => do
    answerAcceptor ed theirs myChallenge sendErr
    pure theirs

def connect (env : ConnectEnv) : Method Endpoint Unit := do
  let myChallenge ← sendHello env
  let theirs ← receiveReply ed myChallenge env.sendResponseErr env.reply
  register theirs.agentID

/-- What `handleIncomingConn` meets. -/
structure AcceptEnv where
  deadlineErr : Option Error := none
  hello : Except Error WireMessage
  challenge : Except Error (List UInt8)
  sendErr : Option Error := none
  response : Except Error WireMessage

variable (env : AcceptEnv)

/-- The acceptor's answer, after it has signed the connector's challenge. -/
def sendAnswer (response : Option (List UInt8 × List UInt8)) : Method Endpoint Unit := fun n =>
  match n.config.checkManifest theirs with
  | .error err => (.error err, n)
  | .ok () => match env.sendErr with
    | some err => (.error (.wrap "network: send handshake: " err ""), n)
    | none => (.ok (), n.send
        { agentID := n.config.agentID
          version := n.config.version
          tipCount := n.tipCount
          challenge := myChallenge
          challengeResponse := (response.map (·.1)).getD []
          publicKey := (response.map (·.2)).getD []
          manifestDigest := n.config.manifestDigest })

/-- The first part of `handleIncomingConn`: read the connector's message and answer it, with the challenge that is
    sent. -/
def receiveHello : Method Endpoint (List UInt8 × HandshakePayload) := fun n =>
  match env.deadlineErr with
  | some err => (.error (.wrap "network: set handshake deadline: " err ""), n)
  | none => match readHandshake "network: read handshake: " "network: expected handshake from connecting peer"
      "network: decode handshake: " env.hello with
    | .error err => (.error err, n)
    | .ok theirs =>
      if n.config.keyPair.isSome ∧ theirs.publicKey.length = 0 then (.error NodeConfig.errUnauthenticated, n)
      else if n.config.maxPeers ≤ n.peers.card then (.error errMaxPeers, n)
      else match env.challenge with
        | .error err => (.error (.wrap "network: generate challenge: " err ""), n)
        | .ok myChallenge => (do
            let response ← signChallenge ed theirs.challenge
            sendAnswer theirs myChallenge env response
            pure (myChallenge, theirs)) n

/-- The second part of `handleIncomingConn`: read the connector's answer and check it. -/
def receiveResponse (response : Except Error WireMessage) : Method Endpoint (List UInt8) := fun n =>
  if n.config.keyPair.isNone ∨ myChallenge.length = 0 then (.ok [], n)
  else match readHandshake "network: read challenge response: " "network: expected challenge response"
      "network: decode challenge response: " response with
    | .error err => (.error err, n)
    | .ok crHS =>
      if !verifyBytes ed theirs.publicKey myChallenge crHS.challengeResponse then
        (.error NodeConfig.errChallengeResponse, n)
      else (.ok crHS.challengeResponse, n)

def handleIncomingConn : Method Endpoint Unit := do
  let (myChallenge, theirs) ← receiveHello ed env
  let _ ← receiveResponse ed theirs myChallenge env.response
  register theirs.agentID

end Endpoint

structure VotePayload where
  eventID : EventID
  voterID : String
  verdict : Bool
  timestamp : Int64
  publicKey : List UInt8 := []
  signature : List UInt8 := []

namespace Endpoint

/-- The vote that `BroadcastVote` sends at the time `ts`. -/
def broadcastVote (verdict : Bool) (ts : Int64) : Method Endpoint VotePayload :=
  fun n =>
    let vp : VotePayload := { eventID, voterID := n.config.agentID, verdict, timestamp := ts }
    match n.config.keyPair with
    | none => (.ok vp, n)
    | some kp =>
      let data := voteBytes eventID n.config.agentID verdict ts
      match kp.sign ed data with
      | .error _ => (.ok { vp with publicKey := kp.publicKey }, n)
      | .ok sig => (.ok { vp with publicKey := kp.publicKey, signature := sig },
          { n with issued := n.issued ++ [data] })

/-- `SignEvent` with the node's key pair. -/
def signEvent (e : Event) : Method Endpoint Event := fun n =>
  match n.config.keyPair with
  | none => (.ok e, n)
  | some kp =>
    if e.agentID ≠ kp.agentID then
      (.error (.new ("crypto: event AgentID " ++ quote e.agentID ++ " does not match keypair AgentID "
        ++ quote kp.agentID ++ " — create the event with string(kp.AgentID()) as the agentID argument")), n)
    else match crypto.canonicalBytes c e with
      | .error err => (.error err, n)
      | .ok data => match kp.sign ed (utf8 data) with
        | .error err => (.error err, n)
        | .ok sig => (.ok { e with signature := sig }, { n with issued := n.issued ++ [utf8 data] })

end Endpoint

/-- What the `MsgVote` case of `handleMessage` reads of its node. -/
structure VoteReceiver where
  voteAdmission : Option (String → List UInt8 → Option Error) := none
  identityLookup : Option (String → List UInt8) := none
  voteMaxAge : Int64 := 60
  now : Int64
  /-- The signatures seen that have not expired. -/
  seenVotes : Finset (List UInt8) := ∅

namespace VoteReceiver

variable (r : VoteReceiver) (vp : VotePayload)

/-- The eligibility check: by the admission gate, or else by the identity registry. -/
def admits : Bool :=
  match r.voteAdmission with
  | some admission => (admission vp.voterID vp.publicKey).isNone
  | none => match r.identityLookup with
    | some lookup => 0 < (lookup vp.voterID).length ∧ lookup vp.voterID = vp.publicKey
    | none => true

/-- The `MsgVote` case hands the vote on. -/
def accepts : Bool :=
  !(vp.publicKey.length = 0 ∨ vp.signature.length = 0) &&
    verifyBytes ed vp.publicKey (voteBytes vp.eventID vp.voterID vp.verdict vp.timestamp) vp.signature &&
    r.admits vp &&
    !(r.voteMaxAge < r.now - vp.timestamp ∨ r.now - vp.timestamp < -5) &&
    vp.signature ∉ r.seenVotes

end VoteReceiver

end network

end aethernet
