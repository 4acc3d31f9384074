import Aethernet.Network.Sessions

open golang aethernet event crypto transition

namespace aethernet.network

variable {ι : Type}

/-- One of the nodes moves. -/
def move [DecidableEq ι] (c : Crypto) (ed : Ed25519) (w : ι → Host) (m : ι × Move) : ι → Host :=
  Function.update w m.1 ((w m.1).step c ed m.2)

/-- What the network can hand a node, and what a node can draw: an answer verifies under the key of one of the nodes
    only if that node has signed the challenge, and a challenge has 32 bytes that are in use on no connection. -/
structure Admissible (ed : Ed25519) (keys : ι → KeyPair) (w : ι → Host) (m : ι × Move) : Prop where
  unforged : ∀ signature, m.2.answer = some signature → ∀ j challenge,
    ed.verify (keys j).publicKey challenge signature = true → (w j).endpoint.Signed challenge
  random : ∀ challenge, m.2.drawn = some challenge → challenge.length = 32 ∧
    ∀ i s phase, (w i).sessions.lookup s = some phase → phase.challenge ≠ some challenge

/-- The nodes start with these key pairs and without connections. -/
structure Starts (keys : ι → KeyPair) (w : ι → Host) : Prop where
  keyed : ∀ i, (w i).endpoint.config.keyPair = some (keys i)
  sessions : ∀ i, (w i).sessions = ∅
  entries : ∀ i, (w i).entries = ∅

/-- This key has answered this challenge, and no other connection has the challenge. -/
structure Answered (ed : Ed25519) (keys : ι → KeyPair) (w : ι → Host) (i : ι) (s : ℕ) (challenge : List UInt8)
    (theirs : HandshakePayload) (response : List UInt8) : Prop where
  verify : verifyBytes ed theirs.publicKey challenge response = true
  signed : ∀ j, theirs.publicKey = (keys j).publicKey → (w j).endpoint.Signed challenge
  unique : ∀ i' s' phase, (w i').sessions.lookup s' = some phase → phase.challenge = some challenge → i' = i ∧ s' = s

/-- What the key that answered is to a connection that was entered under an ID. -/
structure Authenticated (ed : Ed25519) (keys : ι → KeyPair) (w : ι → Host) : Prop where
  /-- The key that answered the challenge of the connection is the one that the ID encodes. -/
  encodes : ∀ i s challenge theirs response,
    (w i).sessions.lookup s = some (.registered challenge theirs response) →
    Answered ed keys w i s challenge theirs response ∧ theirs.agentID = hexEncode theirs.publicKey
  /-- A connection in the peers map was entered under the ID it is there for. -/
  entries : ∀ i a s, (w i).entries.lookup a = some s → ∃ challenge theirs response,
    (w i).sessions.lookup s = some (.registered challenge theirs response) ∧ theirs.agentID = a
  /-- Nobody but the node itself answers for a connection that is in the peers map under its ID. -/
  own : ∀ i j s, (w i).entries.lookup (keys j).agentID = some s → ∃ challenge theirs response,
    (w i).sessions.lookup s = some (.registered challenge theirs response) ∧
      theirs.publicKey = (keys j).publicKey ∧ (w j).endpoint.Signed challenge

/-- A connection about to be entered gave the ID that its key encodes. -/
def GivesOwnID (w : ι → Host) (m : ι × Move) : Prop :=
  ∀ s challenge theirs response, m.2 = .enter s → (w m.1).HasRoom →
    (w m.1).sessions.lookup s = some (.verified challenge theirs response) →
    theirs.agentID = hexEncode theirs.publicKey

def Phase.givesOwnID : Option Phase → Bool
  | some (.verified _ theirs _) => theirs.agentID = hexEncode theirs.publicKey
  | _ => true

instance (w : ι → Host) (m : ι × Move) : Decidable (GivesOwnID w m) :=
  match hm : m.2 with
  | .enter s => decidable_of_iff ((w m.1).HasRoom → Phase.givesOwnID ((w m.1).sessions.lookup s) = true) <| by
    constructor
    · rintro h s' challenge theirs response henter hroom hphase
      cases hm.symm.trans henter
      have hgives := h hroom
      rw [hphase] at hgives
      exact of_decide_eq_true hgives
    · intro h hroom
      unfold Phase.givesOwnID
      split
      · next hphase => exact decide_eq_true (h s _ _ _ hm hroom hphase)
      · rfl
  | .dial _ _ | .reply _ _ _ | .incoming _ | .hello _ _ | .response _ _ | .disconnect _ | .signEvent _
  | .broadcastVote _ _ _ => isTrue fun s _ _ _ henter => by cases hm.symm.trans henter

/-- The message and the answer of a connection whose handshake is complete. -/
def Phase.outcome : Phase → Option (List UInt8 × HandshakePayload × List UInt8)
  | .verified challenge theirs response | .registered challenge theirs response => some (challenge, theirs, response)
  | _ => none

theorem Phase.challenge_of_outcome {phase : Phase} {challenge response : List UInt8} {theirs : HandshakePayload}
    (h : phase.outcome = some (challenge, theirs, response)) : phase.challenge = some challenge := by
  cases phase <;> simp_all [Phase.outcome, Phase.challenge]

/-- What the handshakes keep. -/
structure Sound (ed : Ed25519) (keys : ι → KeyPair) (w : ι → Host) : Prop where
  keyed : ∀ i, (w i).endpoint.config.keyPair = some (keys i)
  challenges : ∀ i s phase challenge, (w i).sessions.lookup s = some phase → phase.challenge = some challenge →
    challenge ≠ []
  distinct : ∀ i s phase i' s' phase' challenge, (w i).sessions.lookup s = some phase →
    (w i').sessions.lookup s' = some phase' → phase.challenge = some challenge → phase'.challenge = some challenge →
    i' = i ∧ s' = s
  verify : ∀ i s phase challenge theirs response, (w i).sessions.lookup s = some phase →
    phase.outcome = some (challenge, theirs, response) → verifyBytes ed theirs.publicKey challenge response = true
  signed : ∀ i s phase challenge theirs response, (w i).sessions.lookup s = some phase →
    phase.outcome = some (challenge, theirs, response) → ∀ j, theirs.publicKey = (keys j).publicKey →
    (w j).endpoint.Signed challenge
  entries : ∀ i a s, (w i).entries.lookup a = some s → ∃ challenge theirs response,
    (w i).sessions.lookup s = some (.registered challenge theirs response) ∧ theirs.agentID = a

variable {c : Crypto} {ed : Ed25519} {keys : ι → KeyPair} {w : ι → Host} {m : ι × Move}

theorem Starts.sound (h : Starts keys w) : Sound ed keys w where
  keyed := h.keyed
  challenges i s phase challenge hphase := by simp [h.sessions] at hphase
  distinct i s phase i' s' phase' challenge hphase := by simp [h.sessions] at hphase
  verify i s phase challenge theirs response hphase := by simp [h.sessions] at hphase
  signed i s phase challenge theirs response hphase := by simp [h.sessions] at hphase
  entries i a s hentry := by simp [h.entries] at hentry

def GaveOwnIDs (w : ι → Host) : Prop := ∀ i s challenge theirs response,
  (w i).sessions.lookup s = some (.registered challenge theirs response) → theirs.agentID = hexEncode theirs.publicKey

namespace Sound

section Move

variable [DecidableEq ι]

variable (h : Sound ed keys w)

include h

theorem effect : Host.Effect ed m.2 (w m.1) (move c ed w m m.1) := by
  rw [move, Function.update_self]
  exact Host.step_effect (by rw [h.keyed]; rfl) (h.challenges m.1)

theorem grows (j : ι) : Endpoint.Grows (w j).endpoint (move c ed w m j).endpoint := by
  by_cases hj : j = m.1
  · subst hj
    exact h.effect.grows
  · rw [move, Function.update_of_ne hj]
    exact .refl _

variable {i : ι} {s : ℕ} {phase : Phase}

section

variable (hphase : (move c ed w m i).sessions.lookup s = some phase)

include hphase

theorem lookup_move :
    (w i).sessions.lookup s = some phase ∨ i = m.1 ∧ m.2.session = some s ∧ Host.Reaches ed (w i) m.2 s phase := by
  by_cases hi : i = m.1
  · subst hi
    exact (h.effect.sessions s phase hphase).imp id fun hreached => ⟨rfl, hreached⟩
  · rw [move, Function.update_of_ne hi] at hphase
    exact .inl hphase

variable {challenge : List UInt8}

theorem challenge_move (hchallenge : phase.challenge = some challenge) :
    (∃ before, (w i).sessions.lookup s = some before ∧ before.challenge = some challenge) ∨
      i = m.1 ∧ m.2.session = some s ∧ m.2.drawn = some challenge := by
  obtain hbefore | ⟨hi, hs, hreached⟩ := h.lookup_move hphase
  · exact .inl ⟨phase, hbefore, hchallenge⟩
  · cases hreached with
    | silent hnone => cases hnone.symm.trans hchallenge
    | dialed hdrawn | answered hdrawn =>
      cases hchallenge
      exact .inr ⟨hi, hs, hdrawn⟩
    | verified hbefore hbeforeChallenge =>
      cases hchallenge
      exact .inl ⟨_, hbefore, hbeforeChallenge⟩
    | registered hbefore =>
      cases hchallenge
      exact .inl ⟨_, hbefore, rfl⟩

variable {response : List UInt8} {theirs : HandshakePayload}

theorem outcome_move (houtcome : phase.outcome = some (challenge, theirs, response)) :
    (∃ before, (w i).sessions.lookup s = some before ∧ before.outcome = some (challenge, theirs, response)) ∨
      m.2.answer = some response ∧ verifyBytes ed theirs.publicKey challenge response = true := by
  obtain hbefore | ⟨hi, hs, hreached⟩ := h.lookup_move hphase
  · exact .inl ⟨phase, hbefore, houtcome⟩
  · cases hreached with
    | silent hnone => cases hnone.symm.trans (Phase.challenge_of_outcome houtcome)
    | dialed hdrawn => cases houtcome
    | answered hdrawn => cases houtcome
    | verified hbefore hbeforeChallenge hanswer hverify =>
      cases houtcome
      exact .inr ⟨hanswer, hverify⟩
    | registered hbefore => exact .inl ⟨_, hbefore, houtcome⟩

end

theorem move (hadmissible : Admissible ed keys w m) : Sound ed keys (move c ed w m) where
  keyed j := by rw [(h.grows j).config, h.keyed]
  challenges i s phase challenge hphase hchallenge := by
    obtain ⟨before, hbefore, hsame⟩ | ⟨-, -, hdrawn⟩ := h.challenge_move hphase hchallenge
    · exact h.challenges i s before challenge hbefore hsame
    · rintro rfl
      exact absurd (hadmissible.random _ hdrawn).1 (by decide)
  distinct i s phase i' s' phase' challenge hphase hphase' hchallenge hchallenge' := by
    obtain ⟨before, hbefore, hsame⟩ | ⟨hi, hs, hdrawn⟩ := h.challenge_move hphase hchallenge
    · obtain ⟨before', hbefore', hsame'⟩ | ⟨-, -, hdrawn'⟩ := h.challenge_move hphase' hchallenge'
      · exact h.distinct i s before i' s' before' challenge hbefore hbefore' hsame hsame'
      · exact absurd hsame ((hadmissible.random _ hdrawn').2 i s before hbefore)
    · obtain ⟨before', hbefore', hsame'⟩ | ⟨hi', hs', -⟩ := h.challenge_move hphase' hchallenge'
      · exact absurd hsame' ((hadmissible.random _ hdrawn).2 i' s' before' hbefore')
      · exact ⟨hi'.trans hi.symm, Option.some.inj (hs'.symm.trans hs)⟩
  verify i s phase challenge theirs response hphase houtcome := by
    obtain ⟨before, hbefore, hsame⟩ | ⟨-, hverify⟩ := h.outcome_move hphase houtcome
    · exact h.verify i s before challenge theirs response hbefore hsame
    · exact hverify
  signed i s phase challenge theirs response hphase houtcome j hkey := by
    refine (h.grows j).of_signed ?_
    obtain ⟨before, hbefore, hsame⟩ | ⟨hanswer, hverify⟩ := h.outcome_move hphase houtcome
    · exact h.signed i s before challenge theirs response hbefore hsame j hkey
    · rw [verifyBytes, hkey, Bool.and_eq_true] at hverify
      exact hadmissible.unforged response hanswer j challenge hverify.2
  entries i a s hentry := by
    by_cases hi : i = m.1
    · subst hi
      obtain hbefore | hentered := h.effect.entries a s hentry
      · obtain ⟨challenge, theirs, response, hphase, hagent⟩ := h.entries m.1 a s hbefore
        exact ⟨challenge, theirs, response, h.effect.kept s _ _ _ hphase, hagent⟩
      · exact hentered
    · rw [network.move, Function.update_of_ne hi] at hentry ⊢
      exact h.entries i a s hentry

theorem registered_move_iff :
    (network.move c ed w m i).sessions.lookup s = some (.registered challenge theirs response) ↔
      (w i).sessions.lookup s = some (.registered challenge theirs response) ∨
        (i = m.1 ∧ m.2 = .enter s ∧ (w i).HasRoom ∧
          (w i).sessions.lookup s = some (.verified challenge theirs response)) := by
  by_cases hi : i = m.1
  · subst hi
    constructor
    · intro hphase
      obtain hbefore | ⟨-, hreached⟩ := h.effect.sessions s _ hphase
      · exact .inl hbefore
      · cases hreached with
        | silent hnone => cases hnone
        | registered hbefore =>
          obtain ⟨henter, hroom⟩ := (h.effect.registers s _ _ _ hbefore).mp hphase
          exact .inr ⟨rfl, henter, hroom, hbefore⟩
    · rintro (hbefore | ⟨-, henter, hroom, hbefore⟩)
      · exact h.effect.kept s _ _ _ hbefore
      · exact (h.effect.registers s _ _ _ hbefore).mpr ⟨henter, hroom⟩
  · rw [network.move, Function.update_of_ne hi]
    exact (or_iff_left fun hmoved => hi hmoved.1).symm

theorem gaveOwnIDs_move_iff : GaveOwnIDs (network.move c ed w m) ↔ GaveOwnIDs w ∧ GivesOwnID w m := by
  constructor
  · intro hall
    refine ⟨fun i s challenge theirs response hphase => ?_, fun s challenge theirs response henter hroom hphase => ?_⟩
    · exact hall i s _ _ _ (h.registered_move_iff.mpr (.inl hphase))
    · exact hall m.1 s _ _ _ (h.registered_move_iff.mpr (.inr ⟨rfl, henter, hroom, hphase⟩))
  · rintro ⟨hall, hgives⟩ i s challenge theirs response hphase
    obtain hbefore | ⟨rfl, henter, hroom, hbefore⟩ := h.registered_move_iff.mp hphase
    · exact hall i s _ _ _ hbefore
    · exact hgives s _ _ _ henter hroom hbefore

theorem gaveOwnIDs_run_iff {moves : List (ι × Move)}
    (hadmissible : MeetsAlong (network.move c ed) (Admissible ed keys) w moves) :
    GaveOwnIDs (moves.foldl (network.move c ed) w) ↔
      GaveOwnIDs w ∧ MeetsAlong (network.move c ed) GivesOwnID w moves := by
  induction moves generalizing w with
  | nil => exact (and_iff_left trivial).symm
  | cons m moves ih =>
    rw [List.foldl_cons, ih (h.move hadmissible.1) hadmissible.2, h.gaveOwnIDs_move_iff, MeetsAlong, and_assoc]

end Move

theorem authenticated_iff (h : Sound ed keys w) :
    Authenticated ed keys w ↔ GaveOwnIDs w := by
  refine ⟨fun hauth i s challenge theirs response hphase => (hauth.encodes i s _ _ _ hphase).2, fun hencodes => ?_⟩
  refine ⟨fun i s challenge theirs response hphase => ⟨⟨?_, ?_, ?_⟩, hencodes i s _ _ _ hphase⟩, h.entries, ?_⟩
  · exact h.verify i s _ challenge theirs response hphase rfl
  · exact h.signed i s _ challenge theirs response hphase rfl
  · exact fun i' s' phase hphase' hchallenge => h.distinct i s _ i' s' phase challenge hphase hphase' rfl hchallenge
  · intro i j s hentry
    obtain ⟨challenge, theirs, response, hphase, hagent⟩ := h.entries i _ s hentry
    have hkey : theirs.publicKey = (keys j).publicKey := by
      have hhex : hexEncode theirs.publicKey = hexEncode (keys j).publicKey :=
        (hencodes i s _ _ _ hphase).symm.trans hagent
      have hdecode := congrArg hexDecode hhex
      rw [hexDecode_hexEncode, hexDecode_hexEncode] at hdecode
      exact Option.some.inj hdecode
    exact ⟨challenge, theirs, response, hphase, hkey, h.signed i s _ challenge theirs response hphase rfl j hkey⟩

end Sound

section Sample

/-- Signatures that are the key and the message. -/
def plainEd : Ed25519 where
  sign key message := (key ++ message ++ List.replicate 64 0).take 64
  verify key message signature := key.length = 32 ∧ signature = key ++ message

def plainKeys (byte : UInt8) : KeyPair := ⟨List.replicate 32 byte, List.replicate 32 byte⟩

/-- Two nodes. -/
def pairKeys : Bool → KeyPair
  | false => plainKeys 1
  | true => plainKeys 2

def pairHosts (i : Bool) : Host where
  endpoint := { config :=
    { agentID := (pairKeys i).agentID, version := "1", keyPair := some (pairKeys i), manifestDigest := "",
      maxPeers := 50 } }

theorem pairHosts_starts : Starts pairKeys pairHosts := ⟨fun _ => rfl, fun _ => rfl, fun _ => rfl⟩

def draw (byte : UInt8) : List UInt8 := List.replicate 32 byte

/-- What `Admissible` asks of two nodes with these signatures. -/
def PlainAdmissible (w : Bool → Host) (m : Bool × Move) : Prop :=
  (∀ signature ∈ m.2.answer, ∀ j, signature.take 32 = (pairKeys j).publicKey →
    (w j).endpoint.Signed (signature.drop 32)) ∧
  ∀ challenge ∈ m.2.drawn, challenge.length = 32 ∧
    ∀ i, ∀ s ∈ (w i).sessions.keys, ((w i).sessions.lookup s).bind Phase.challenge ≠ some challenge

instance (w : Bool → Host) (m : Bool × Move) : Decidable (PlainAdmissible w m) :=
  inferInstanceAs (Decidable (_ ∧ _))

theorem PlainAdmissible.admissible {w : Bool → Host} {m : Bool × Move} (h : PlainAdmissible w m) :
    Admissible plainEd pairKeys w m where
  unforged signature hanswer j challenge hverify := by
    obtain ⟨hlength, rfl⟩ := of_decide_eq_true hverify
    have hsigned := h.1 _ hanswer j
    rw [List.take_left' hlength, List.drop_left' hlength] at hsigned
    exact hsigned rfl
  random challenge hdrawn := by
    obtain ⟨hlength, hfresh⟩ := h.2 challenge hdrawn
    refine ⟨hlength, fun i s phase hphase hchallenge => hfresh i s ?_ ?_⟩
    · exact Finmap.mem_keys.mpr (Finmap.mem_of_lookup_eq_some hphase)
    · rw [hphase]
      exact hchallenge

def sampleMessage (agentID : String) (key : KeyPair) (challenge response : List UInt8) : Except Error WireMessage :=
  .ok ⟨true, .ok { agentID, challenge, challengeResponse := response, publicKey := key.publicKey }⟩

/-- The second node connects to the first. -/
def honestMoves : List (Bool × Move) :=
  [(true, .dial 0 { challenge := .ok (draw 7), reply := .error (.new "") }),
    (false, .incoming 0),
    (false, .hello 0
      { hello := sampleMessage (pairKeys true).agentID (pairKeys true) (draw 7) [], challenge := .ok (draw 8)
        response := .error (.new "") }),
    (true, .reply 0
      (sampleMessage (pairKeys false).agentID (pairKeys false) (draw 8) (plainEd.sign (draw 1) (draw 7))) none),
    (false, .response 0 (sampleMessage (pairKeys true).agentID (pairKeys true) [] (plainEd.sign (draw 2) (draw 8)))),
    (false, .enter 0),
    (true, .enter 0)]

/-- Someone else then connects with a key of its own and gives the second node's ID. -/
def takeoverMoves : List (Bool × Move) :=
  [(false, .incoming 1),
    (false, .hello 1
      { hello := sampleMessage (pairKeys true).agentID (plainKeys 3) (draw 6) [], challenge := .ok (draw 9)
        response := .error (.new "") }),
    (false, .response 1 (sampleMessage (pairKeys true).agentID (plainKeys 3) [] (plainEd.sign (draw 3) (draw 9)))),
    (false, .enter 1)]

end Sample

end aethernet.network
