import Aethernet.Network.Handshake
import Aethernet.Transition.Invariant

open golang aethernet event crypto transition

namespace aethernet

namespace network

/-- The bytes of an event of the agent `own`, or of a vote of it. -/
def Issuable (c : Crypto) (own : String) (bytes : List UInt8) : Prop :=
  (∃ e text, e.agentID = own ∧ crypto.canonicalBytes c e = .ok text ∧ utf8 text = bytes) ∨
    ∃ eventID verdict timestamp, bytes = voteBytes eventID own verdict timestamp

theorem head_of_canonicalBytes {c : Crypto} {e : Event} {text : String}
    (hcanonical : crypto.canonicalBytes c e = .ok text) : (utf8 text).head? = some 123 := by
  unfold crypto.canonicalBytes marshalCanonical at hcanonical
  cases hpayload : marshalRaw e.payload with
  | error err =>
    rw [hpayload] at hcanonical
    cases hcanonical
  | ok payload =>
    rw [hpayload] at hcanonical
    simp only [bind, Except.bind, pure, Except.pure] at hcanonical
    split at hcanonical
    · cases hcanonical
    · next htext =>
      cases hcanonical
      obtain ⟨rest, rfl⟩ := jcs.exists_of_canonicalize_obj htext
      rfl

def NodeConfig.Signs (config : NodeConfig) (challenge : List UInt8) : Prop :=
  challenge ≠ [] ∧ ∃ kp, config.keyPair = some kp ∧ kp.privateKey ≠ []

namespace Endpoint

variable {ed : Ed25519} {n : Endpoint} {challenge : List UInt8}

theorem signChallenge_of_signs (h : n.config.Signs challenge) :
    (signChallenge ed challenge n).2 = { n with signed := n.signed ++ [challenge] } := by
  obtain ⟨hchallenge, kp, hkp, hkey⟩ := h
  simp [signChallenge, hkp, hchallenge, KeyPair.sign, hkey]

theorem signChallenge_of_not_signs (h : ¬ n.config.Signs challenge) : (signChallenge ed challenge n).2 = n := by
  unfold signChallenge
  cases hkp : n.config.keyPair with
  | none => rfl
  | some kp =>
    split_ifs with hchallenge
    · rfl
    · have hkey : kp.privateKey = [] := by
        by_contra hkey
        exact h ⟨fun hnil => hchallenge (by rw [hnil]; rfl), kp, hkp, hkey⟩
      simp [KeyPair.sign, hkey]

def SameUse (n n' : Endpoint) : Prop := n'.config = n.config ∧ n'.signed = n.signed

variable (n₀ : Endpoint)

theorem sendResponse_sameUse (sendErr : Option Error) (response : Option (List UInt8 × List UInt8)) :
    Method.Keeps (SameUse n₀) (sendResponse sendErr response) := by
  intro n hn
  rcases response with _ | ⟨sig, key⟩ <;> rcases sendErr with _ | err <;> exact hn

theorem register_sameUse (agentID : String) : Method.Keeps (SameUse n₀) (register agentID) := by
  intro n hn
  unfold register
  split_ifs
  · exact hn
  · exact hn

variable (env : AcceptEnv)

theorem sendAnswer_sameUse (theirs : HandshakePayload) (myChallenge : List UInt8)
    (response : Option (List UInt8 × List UInt8)) :
    Method.Keeps (SameUse n₀) (sendAnswer theirs myChallenge env response) := by
  intro n hn
  unfold sendAnswer
  split
  · exact hn
  · split
    · exact hn
    · exact hn

theorem receiveResponse_sameUse (ed : Ed25519) (theirs : HandshakePayload) (myChallenge : List UInt8)
    (response : Except Error WireMessage) :
    Method.Keeps (SameUse n₀) (receiveResponse ed theirs myChallenge response) := by
  intro n hn
  unfold receiveResponse
  split_ifs
  · exact hn
  · split
    · exact hn
    · split_ifs
      · exact hn
      · exact hn

def Adds (n n' : Endpoint) (added : List UInt8 → Prop) : Prop :=
  n'.config = n.config ∧ ∀ m, m ∈ n'.signed ↔ m ∈ n.signed ∨ added m

theorem Adds.none {n n' : Endpoint} {added : List UInt8 → Prop} (hsame : SameUse n n') (hnone : ∀ m, ¬ added m) :
    Adds n n' added :=
  ⟨hsame.1, fun m => by rw [hsame.2]; exact (or_iff_left (hnone m)).symm⟩

theorem Adds.refused {n n' : Endpoint} {A : Type} {accepted : A → Prop} {added : A → List UInt8 → Prop}
    (hsame : SameUse n n') (hrefused : ∀ theirs, ¬ accepted theirs) :
    Adds n n' fun m => ∃ theirs, accepted theirs ∧ added theirs m :=
  .none hsame fun _ h => h.elim fun theirs ha => hrefused theirs ha.1

theorem Adds.bind {A B : Type} {n : Endpoint} {x : Method Endpoint A} {f : A → Method Endpoint B}
    {added : List UInt8 → Prop} (h : Adds n (x n).2 added)
    (hf : ∀ n₀ a, Method.Keeps (SameUse n₀) (f a)) : Adds n ((x >>= f) n).2 added := by
  obtain ⟨hconfig, hsigned⟩ := Method.Keeps.after (x := x) (s := n) (P := SameUse (x n).2) (hf _) ⟨rfl, rfl⟩
  exact ⟨hconfig.trans h.1, fun m => by rw [hsigned]; exact h.2 m⟩

theorem signChallenge_adds (ed : Ed25519) (n : Endpoint) (challenge : List UInt8) :
    Adds n (signChallenge ed challenge n).2 fun m => n.config.Signs challenge ∧ m = challenge := by
  unfold Adds
  by_cases hsigns : n.config.Signs challenge
  · rw [signChallenge_of_signs hsigns]
    exact ⟨rfl, fun m => by simp [hsigns]⟩
  · rw [signChallenge_of_not_signs hsigns]
    exact ⟨rfl, fun m => by simp [hsigns]⟩

/-- `Connect` gets to answer this acceptor. -/
structure AnswersAcceptor (ed : Ed25519) (env : ConnectEnv) (n : Endpoint) (theirs : HandshakePayload) : Prop where
  address : env.isSelfAddr = false
  dialed : env.dialErr = none
  deadline : env.deadlineErr = none
  sent : env.sendErr = none
  reply : readHandshake "network: receive handshake: " "network: expected handshake response"
    "network: decode handshake response: " env.reply = .ok theirs
  other : theirs.agentID ≠ n.config.agentID
  authentic : ∃ myChallenge, env.challenge = .ok myChallenge ∧ n.config.authenticate ed myChallenge theirs = .ok ()
  manifest : n.config.checkManifest theirs = .ok ()

/-- `handleIncomingConn` gets to answer this connector. -/
structure AnswersConnector (env : AcceptEnv) (n : Endpoint) (theirs : HandshakePayload) : Prop where
  deadline : env.deadlineErr = none
  hello : readHandshake "network: read handshake: " "network: expected handshake from connecting peer"
    "network: decode handshake: " env.hello = .ok theirs
  keyed : n.config.keyPair.isSome → theirs.publicKey ≠ []
  room : n.peers.card < n.config.maxPeers
  random : ∃ myChallenge, env.challenge = .ok myChallenge

theorem answerAcceptor_adds (ed : Ed25519) (n : Endpoint) (theirs : HandshakePayload) (myChallenge : List UInt8)
    (sendErr : Option Error) :
    Adds n (answerAcceptor ed theirs myChallenge sendErr n).2 fun m =>
      (theirs.agentID ≠ n.config.agentID ∧ n.config.authenticate ed myChallenge theirs = .ok () ∧
        n.config.checkManifest theirs = .ok ()) ∧ n.config.Signs theirs.challenge ∧ m = theirs.challenge := by
  unfold answerAcceptor
  split_ifs with hself
  · exact Adds.none ⟨rfl, rfl⟩ fun m h => h.1.1 hself
  · split
    · next herr => exact Adds.none ⟨rfl, rfl⟩ fun m h => by simp [herr] at h
    · next hauth =>
      split
      · next herr => exact Adds.none ⟨rfl, rfl⟩ fun m h => by simp [herr] at h
      · next hmanifest =>
        simp only [hauth, hmanifest, ne_eq, hself, not_false_eq_true, true_and]
        exact (signChallenge_adds ed n _).bind fun n₀ response => sendResponse_sameUse n₀ _ _

theorem connect_adds (env : ConnectEnv) :
    Adds n (connect ed env n).2 fun m =>
      ∃ theirs, AnswersAcceptor ed env n theirs ∧ n.config.Signs theirs.challenge ∧ m = theirs.challenge := by
  rw [connect, ← bind_assoc]
  refine Adds.bind ?_ fun n₀ theirs => register_sameUse n₀ theirs.agentID
  simp only [bind, sendHello]
  by_cases hself : env.isSelfAddr
  · rw [if_pos hself]
    exact Adds.refused ⟨rfl, rfl⟩ fun _ h => by simp [h.address] at hself
  rw [if_neg hself]
  cases hdial : env.dialErr with
  | some err => exact Adds.refused ⟨rfl, rfl⟩ fun _ h => by simp [h.dialed] at hdial
  | none => cases hdeadline : env.deadlineErr with
    | some err => exact Adds.refused ⟨rfl, rfl⟩ fun _ h => by simp [h.deadline] at hdeadline
    | none => cases hchallenge : env.challenge with
      | error err =>
        refine Adds.refused ⟨rfl, rfl⟩ fun _ h => ?_
        obtain ⟨_, hok, -⟩ := h.authentic
        cases hchallenge.symm.trans hok
      | ok myChallenge => cases hsend : env.sendErr with
        | some err => exact Adds.refused ⟨rfl, rfl⟩ fun _ h => by simp [h.sent] at hsend
        | none =>
          dsimp only
          unfold receiveReply
          cases hreply : readHandshake "network: receive handshake: " "network: expected handshake response"
              "network: decode handshake response: " env.reply with
          | error err => exact Adds.refused ⟨rfl, rfl⟩ fun _ h => by cases hreply.symm.trans h.reply
          | ok theirs =>
            obtain ⟨hconfig, hsigned⟩ := (answerAcceptor_adds ed (n.send _) theirs myChallenge env.sendResponseErr).bind
              (f := fun _ => pure theirs) fun _ _ _ hn => hn
            refine ⟨hconfig, fun m => (hsigned m).trans (or_congr Iff.rfl ⟨fun h => ?_, fun h => ?_⟩)⟩
            · obtain ⟨⟨hother, hauth, hmanifest⟩, hsigns⟩ := h
              exact ⟨theirs, ⟨by simpa using hself, hdial, hdeadline, hsend, hreply, hother, ⟨_, hchallenge, hauth⟩,
                hmanifest⟩, hsigns⟩
            · obtain ⟨theirs', h, hsigns⟩ := h
              cases hreply.symm.trans h.reply
              obtain ⟨myChallenge', hchallenge', hauth⟩ := h.authentic
              cases hchallenge.symm.trans hchallenge'
              exact ⟨⟨h.other, hauth, h.manifest⟩, hsigns⟩

theorem handleIncomingConn_adds : Adds n (handleIncomingConn ed env n).2 fun m =>
      ∃ theirs, AnswersConnector env n theirs ∧ n.config.Signs theirs.challenge ∧ m = theirs.challenge := by
  unfold handleIncomingConn
  refine Adds.bind ?_ fun n₀ answered => .bind (receiveResponse_sameUse n₀ ed _ _ _) fun _ => register_sameUse n₀ _
  unfold receiveHello
  split
  · next herr => exact Adds.refused ⟨rfl, rfl⟩ fun _ h => by simp [h.deadline] at herr
  · next hdeadline =>
    split
    · next herr => exact Adds.refused ⟨rfl, rfl⟩ fun _ h => by cases herr.symm.trans h.hello
    · next theirs hhello =>
      split_ifs with hkeyless hfull
      · refine Adds.refused ⟨rfl, rfl⟩ fun _ h => ?_
        cases hhello.symm.trans h.hello
        exact h.keyed hkeyless.1 (List.length_eq_zero_iff.mp hkeyless.2)
      · exact Adds.refused ⟨rfl, rfl⟩ fun _ h => absurd h.room (not_lt.mpr hfull)
      · split
        · next herr =>
          refine Adds.refused ⟨rfl, rfl⟩ fun _ h => ?_
          obtain ⟨_, hok⟩ := h.random
          cases herr.symm.trans hok
        · next myChallenge hchallenge =>
          obtain ⟨hconfig, hsigned⟩ := (signChallenge_adds ed n theirs.challenge).bind
            fun n₀ response => .bind (sendAnswer_sameUse n₀ env theirs myChallenge response)
              fun _ => (.pure (myChallenge, theirs) : Method.Keeps (SameUse n₀) _)
          refine ⟨hconfig, fun m => (hsigned m).trans (or_congr Iff.rfl ⟨fun h => ?_, fun h => ?_⟩)⟩
          · exact ⟨theirs, ⟨hdeadline, hhello, fun hkey hnil => hkeyless ⟨hkey, by rw [hnil]; rfl⟩, not_le.mp hfull,
              _, hchallenge⟩, h⟩
          · obtain ⟨theirs', h, hsigns⟩ := h
            cases hhello.symm.trans h.hello
            exact hsigns

theorem broadcastVote_adds (eventID : EventID) (verdict : Bool) (ts : Int64) :
    Adds n (broadcastVote ed eventID verdict ts n).2 fun _ => False := by
  refine Adds.none ?_ fun _ h => h
  unfold broadcastVote
  dsimp only
  split
  · exact ⟨rfl, rfl⟩
  · split
    · exact ⟨rfl, rfl⟩
    · exact ⟨rfl, rfl⟩

variable (c : Crypto)

theorem signEvent_adds (e : Event) : Adds n (signEvent c ed e n).2 fun _ => False := by
  refine Adds.none ?_ fun _ h => h
  unfold signEvent
  split
  · exact ⟨rfl, rfl⟩
  · split_ifs
    · exact ⟨rfl, rfl⟩
    · split
      · exact ⟨rfl, rfl⟩
      · split
        · exact ⟨rfl, rfl⟩
        · exact ⟨rfl, rfl⟩

/-- What a node does with its key pair. -/
inductive Activity
  | connect (env : ConnectEnv)
  | accept (env : AcceptEnv)
  | signEvent (e : Event)
  | broadcastVote (eventID : EventID) (verdict : Bool) (ts : Int64)

def step (ed : Ed25519) (n : Endpoint) : Activity → Endpoint
  | .connect env => (connect ed env n).2
  | .accept env => (handleIncomingConn ed env n).2
  | .signEvent e => (signEvent c ed e n).2
  | .broadcastVote eventID verdict ts => (broadcastVote ed eventID verdict ts n).2

/-- In a handshake the node gets to sign this challenge of the peer. -/
def Answers (ed : Ed25519) (n : Endpoint) (activity : Activity) (challenge : List UInt8) : Prop :=
  match activity with
  | .connect env =>
    ∃ theirs, AnswersAcceptor ed env n theirs ∧ n.config.Signs theirs.challenge ∧ challenge = theirs.challenge
  | .accept env =>
    ∃ theirs, AnswersConnector env n theirs ∧ n.config.Signs theirs.challenge ∧ challenge = theirs.challenge
  | .signEvent _ | .broadcastVote _ _ _ => False

theorem step_adds (ed : Ed25519) (n : Endpoint) (activity : Activity) :
    Adds n (n.step c ed activity) (n.Answers ed activity) := by
  cases activity with
  | connect env => exact connect_adds env
  | accept env => exact handleIncomingConn_adds env
  | signEvent e => exact signEvent_adds c e
  | broadcastVote eventID verdict ts => exact broadcastVote_adds eventID verdict ts

theorem config_run (ed : Ed25519) (n : Endpoint) (activities : List Activity) :
    (activities.foldl (step c ed) n).config = n.config := by
  induction activities generalizing n with
  | nil => rfl
  | cons activity activities ih => exact (ih _).trans (step_adds c ed n activity).1

theorem forall_signed_run_iff {c : Crypto} {refused : List UInt8 → Prop} {activities : List Activity} :
    (∀ m ∈ (activities.foldl (step c ed) n).signed, ¬ refused m) ↔
      (∀ m ∈ n.signed, ¬ refused m) ∧
        MeetsAlong (step c ed) (fun n activity => ∀ m, n.Answers ed activity m → ¬ refused m) n activities := by
  induction activities generalizing n with
  | nil => exact (and_iff_left trivial).symm
  | cons activity activities ih =>
    rw [List.foldl_cons, ih, MeetsAlong, ← and_assoc]
    refine and_congr_left' ?_
    simp [(step_adds c ed n activity).2, or_imp, forall_and]

/-- A node that starts with this key pair. -/
structure Starts (kp : KeyPair) (n : Endpoint) : Prop where
  keyPair : n.config.keyPair = some kp
  agentID : n.config.agentID = kp.agentID
  signed : n.signed = []
  issued : n.issued = []

/-- Ed25519 as an ideal signature: only what was signed with the key verifies. -/
def Ideal (ed : Ed25519) (kp : KeyPair) (n : Endpoint) : Prop :=
  ∀ m signature, ed.verify kp.publicKey m signature = true → m ∈ n.signed ∨ m ∈ n.issued

/-- The challenges signed are no bytes of events or votes of the node, and no event or vote is accepted as the node's
    that it did not issue. -/
structure Separated (c : Crypto) (ed : Ed25519) (kp : KeyPair) (n : Endpoint) : Prop where
  challenges : ∀ m ∈ n.signed, ¬ Issuable c n.config.agentID m
  events : ∀ e : Event, e.agentID = n.config.agentID → verifyEvent (c.withEd25519 ed) e = true →
    ∃ text, crypto.canonicalBytes c e = .ok text ∧ utf8 text ∈ n.issued
  votes : ∀ (r : VoteReceiver) (vp : VotePayload), vp.voterID = n.config.agentID → vp.publicKey = kp.publicKey →
    r.accepts ed vp = true → voteBytes vp.eventID vp.voterID vp.verdict vp.timestamp ∈ n.issued

theorem separated_of_challenges {c : Crypto} {kp : KeyPair} (hown : n.config.agentID = kp.agentID)
    (hideal : Ideal ed kp n) (hchallenges : ∀ m ∈ n.signed, ¬ Issuable c n.config.agentID m) :
    Separated c ed kp n where
  challenges := hchallenges
  events e hagent hverify := by
    have hcanonical : crypto.canonicalBytes (c.withEd25519 ed) e = crypto.canonicalBytes c e := rfl
    rw [verifyEvent, hagent, hown, KeyPair.agentID, hexDecode_hexEncode, hcanonical] at hverify
    cases htext : crypto.canonicalBytes c e with
    | error err => simp [htext] at hverify
    | ok text =>
      simp only [htext, crypto.verify, Crypto.withEd25519, Bool.and_eq_true, Bool.if_false_left] at hverify
      refine ⟨text, rfl, (hideal _ _ hverify.2.2).resolve_left fun hsigned => ?_⟩
      exact hchallenges _ hsigned (.inl ⟨e, text, hagent, htext, rfl⟩)
  votes r vp hvoter hkey haccepts := by
    simp only [VoteReceiver.accepts, verifyBytes, Bool.and_eq_true, hkey] at haccepts
    refine (hideal _ _ haccepts.1.1.1.2.2).resolve_left fun hsigned => ?_
    exact hchallenges _ hsigned (.inr ⟨vp.eventID, vp.verdict, vp.timestamp, by rw [hvoter]⟩)

variable (challenge signature : List UInt8)

section Sample

def sampleKeys : KeyPair := ⟨[1], List.replicate 32 0⟩

def sampleEd (known : List (List UInt8)) : Ed25519 where
  sign _ message := (message ++ List.replicate 64 0).take 64
  verify publicKey message signature :=
    publicKey = sampleKeys.publicKey → message ∈ known ∧ signature = (message ++ List.replicate 64 0).take 64

def sampleEndpoint : Endpoint where
  config :=
    { agentID := sampleKeys.agentID, version := "1", keyPair := some sampleKeys, manifestDigest := "", maxPeers := 50 }

theorem sampleEndpoint_starts : sampleEndpoint.Starts sampleKeys := ⟨rfl, rfl, rfl, rfl⟩

theorem ideal_sampleEd {known : List (List UInt8)} (h : ∀ m ∈ known, m ∈ n.signed ∨ m ∈ n.issued) :
    Ideal (sampleEd known) sampleKeys n := by
  intro m signature hverify
  simp only [sampleEd, forall_const, decide_eq_true_eq] at hverify
  exact h m hverify.1

def sampleAccept : AcceptEnv where
  hello := .ok ⟨true, .ok { agentID := "peer", challenge, publicKey := List.replicate 32 1 }⟩
  challenge := .ok (List.replicate 32 7)
  response := .ok ⟨true, .ok { agentID := "peer", challengeResponse := List.replicate 64 1 }⟩

def sampleConnect : ConnectEnv where
  challenge := .ok (List.replicate 32 7)
  reply := .ok ⟨true, .ok
    { agentID := "peer", challenge, challengeResponse := List.replicate 64 1, publicKey := List.replicate 32 1 }⟩

/-- An event that a peer makes up. -/
def forgedEvent : Event where
  id := ""
  type := .transfer
  causalRefs := none
  payload := .document .null
  agentID := sampleKeys.agentID
  signature := signature
  stakeAmount := 1000

def forgedEventBytes : List UInt8 := (crypto.canonicalBytes sampleCrypto (forgedEvent [])).toOption.elim [] utf8

/-- A vote that a peer makes up. -/
def forgedVote : VotePayload where
  eventID := "ev"
  voterID := sampleKeys.agentID
  verdict := true
  timestamp := 100
  publicKey := sampleKeys.publicKey
  signature := signature

def forgedVoteBytes : List UInt8 := voteBytes "ev" sampleKeys.agentID true 100

def sampleReceiver : VoteReceiver where
  voteAdmission := some fun voterID publicKey =>
    if voterID = hexEncode publicKey then none else some (.new "key mismatch")
  now := 110

end Sample

end Endpoint

end network

end aethernet
