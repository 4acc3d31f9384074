import Aethernet.Network.SignatureDomains

open golang aethernet event crypto transition network.Endpoint Finmap

namespace aethernet.network

namespace Endpoint

variable (ed : Ed25519)

/-- What the node has signed with its key. -/
def Signed (n : Endpoint) (m : List UInt8) : Prop := m ∈ n.signed ∨ m ∈ n.issued

instance (n : Endpoint) (m : List UInt8) : Decidable (n.Signed m) :=
  inferInstanceAs (Decidable (_ ∨ _))

/-- The configuration stays, and what was signed stays signed. -/
structure Grows (n n' : Endpoint) : Prop where
  config : n'.config = n.config
  signed : n.signed ⊆ n'.signed
  issued : n.issued ⊆ n'.issued

theorem Grows.refl (n : Endpoint) : Grows n n := ⟨rfl, List.Subset.refl _, List.Subset.refl _⟩

theorem Grows.of_signed {n n' : Endpoint} (h : Grows n n') {m : List UInt8} (hm : n.Signed m) : n'.Signed m :=
  hm.imp (@h.signed m) (@h.issued m)

section Grows

variable (n₀ : Endpoint) (ed : Ed25519)

theorem signChallenge_grows (challenge : List UInt8) : Method.Keeps (Grows n₀) (signChallenge ed challenge) := by
  intro n hn
  unfold signChallenge
  split
  · exact hn
  · split_ifs
    · exact hn
    · split
      · exact hn
      · exact ⟨hn.config, List.Subset.trans hn.signed (List.subset_append_left _ _), hn.issued⟩

theorem sendResponse_grows (sendErr : Option Error) (response : Option (List UInt8 × List UInt8)) :
    Method.Keeps (Grows n₀) (sendResponse sendErr response) := by
  intro n hn
  rcases response with _ | ⟨sig, key⟩ <;> rcases sendErr with _ | err <;> exact ⟨hn.config, hn.signed, hn.issued⟩

theorem sendAnswer_grows (env : AcceptEnv) (myChallenge : List UInt8) (theirs : HandshakePayload)
    (response : Option (List UInt8 × List UInt8)) :
    Method.Keeps (Grows n₀) (sendAnswer theirs myChallenge env response) := by
  intro n hn
  unfold sendAnswer
  split
  · exact hn
  · split
    · exact hn
    · exact ⟨hn.config, hn.signed, hn.issued⟩

theorem register_grows (agentID : String) : Method.Keeps (Grows n₀) (register agentID) := by
  intro n hn
  unfold register
  split_ifs
  · exact hn
  · exact ⟨hn.config, hn.signed, hn.issued⟩

theorem broadcastVote_grows (eventID : EventID) (verdict : Bool) (ts : Int64) :
    Method.Keeps (Grows n₀) (broadcastVote ed eventID verdict ts) := by
  intro n hn
  unfold broadcastVote
  dsimp only
  split
  · exact hn
  · split
    · exact hn
    · exact ⟨hn.config, hn.signed, List.Subset.trans hn.issued (List.subset_append_left _ _)⟩

theorem signEvent_grows (c : Crypto) (e : Event) : Method.Keeps (Grows n₀) (signEvent c ed e) := by
  intro n hn
  unfold signEvent
  split
  · exact hn
  · split_ifs
    · exact hn
    · split
      · exact hn
      · split
        · exact hn
        · exact ⟨hn.config, hn.signed, List.Subset.trans hn.issued (List.subset_append_left _ _)⟩

end Grows

theorem sendHello_meets (env : ConnectEnv) (n₀ : Endpoint) :
    Method.Meets (Grows n₀) (sendHello env) (fun c n => Grows n₀ n ∧ env.challenge = .ok c) (Grows n₀) := by
  intro n hn
  unfold sendHello
  by_cases hself : env.isSelfAddr
  · simpa only [hself, if_true] using hn
  · rw [if_neg hself]
    cases env.dialErr with
    | some err => exact hn
    | none => cases env.deadlineErr with
      | some err => exact hn
      | none => cases hc : env.challenge with
        | error err => exact hn
        | ok myChallenge => cases env.sendErr with
          | some err => exact hn
          | none => exact ⟨⟨hn.config, hn.signed, hn.issued⟩, rfl⟩

theorem verifyBytes_of_authenticate {ed : Ed25519} {myChallenge : List UInt8} {theirs : HandshakePayload}
    {config : NodeConfig} (hkeyed : config.keyPair.isSome)
    (h : config.authenticate ed myChallenge theirs = .ok ()) :
    verifyBytes ed theirs.publicKey myChallenge theirs.challengeResponse = true := by
  have hsome : ¬ config.keyPair.isNone := by simpa [Option.isSome_iff_ne_none] using hkeyed
  rw [NodeConfig.authenticate, if_neg hsome] at h
  by_cases hkeyless : theirs.publicKey.length = 0
  · rw [if_pos hkeyless] at h
    cases h
  · rw [if_neg hkeyless] at h
    by_contra hverify
    rw [if_pos (by simpa using hverify)] at h
    cases h

theorem handshake_of_readHandshake {readText typeText decodeText : String} {message : Except Error WireMessage}
    {payload : HandshakePayload} (h : readHandshake readText typeText decodeText message = .ok payload) :
    ∃ wire, message = .ok wire ∧ wire.handshake = .ok payload := by
  unfold readHandshake at h
  split at h
  · cases h
  · next wire =>
    split_ifs at h
    split at h
    · cases h
    · next hpayload =>
      cases h
      exact ⟨wire, rfl, hpayload⟩

theorem receiveReply_meets (sendErr : Option Error) (myChallenge : List UInt8)
    (reply : Except Error WireMessage) (n₀ : Endpoint) (hkeyed : n₀.config.keyPair.isSome) :
    Method.Meets (Grows n₀) (receiveReply ed myChallenge sendErr reply)
      (fun theirs n => Grows n₀ n ∧ (∃ message, reply = .ok message ∧ message.handshake = .ok theirs) ∧
        verifyBytes ed theirs.publicKey myChallenge theirs.challengeResponse = true) (Grows n₀) := by
  unfold receiveReply
  cases hread : readHandshake "network: receive handshake: " "network: expected handshake response"
      "network: decode handshake response: " reply with
  | error err => exact .fail fun _ hn => hn
  | ok theirs =>
    have hanswer : Method.Meets (Grows n₀) (answerAcceptor ed theirs myChallenge sendErr) (fun _ n => Grows n₀ n ∧
        verifyBytes ed theirs.publicKey myChallenge theirs.challengeResponse = true) (Grows n₀) := by
      intro n hn
      unfold answerAcceptor
      by_cases hself : theirs.agentID = n.config.agentID
      · rw [if_pos hself]
        exact hn
      · rw [if_neg hself]
        cases hauth : n.config.authenticate ed myChallenge theirs with
        | error err => exact hn
        | ok _ =>
          have hverified := verifyBytes_of_authenticate (by rw [hn.config]; exact hkeyed) hauth
          cases n.config.checkManifest theirs with
          | error err => exact hn
          | ok _ =>
            have hsend := (Method.Keeps.bind (signChallenge_grows n₀ ed theirs.challenge)
              fun response => sendResponse_grows n₀ sendErr response).meets
            exact (hsend.imp (fun _ _ h => ⟨h, hverified⟩) fun _ h => h) n hn
    exact .bind hanswer fun _ => .pure fun n hn => ⟨hn.1, handshake_of_readHandshake hread, hn.2⟩

theorem receiveHello_meets (env : AcceptEnv) (n₀ : Endpoint) :
    Method.Meets (Grows n₀) (receiveHello ed env) (fun r n => Grows n₀ n ∧ env.challenge = .ok r.1) (Grows n₀) := by
  intro n hn
  unfold receiveHello
  cases env.deadlineErr with
  | some err => exact hn
  | none =>
    cases readHandshake "network: read handshake: " "network: expected handshake from connecting peer"
      "network: decode handshake: " env.hello with
    | error err => exact hn
    | ok theirs =>
      dsimp only
      by_cases hkeyless : n.config.keyPair.isSome ∧ theirs.publicKey.length = 0
      · rw [if_pos hkeyless]
        exact hn
      · rw [if_neg hkeyless]
        by_cases hfull : n.config.maxPeers ≤ n.peers.card
        · rw [if_pos hfull]
          exact hn
        · rw [if_neg hfull]
          cases hc : env.challenge with
          | error err => exact hn
          | ok myChallenge =>
            have hsend := (Method.Keeps.bind (signChallenge_grows n₀ ed theirs.challenge)
              fun response => sendAnswer_grows n₀ env myChallenge theirs response).meets
            have hanswer := Method.Meets.bind hsend fun _ => Method.Meets.pure (a := (myChallenge, theirs))
              (Q := fun r n => Grows n₀ n ∧ (.ok myChallenge : Except Error _) = .ok r.1) (E := Grows n₀)
              fun n hn => ⟨hn, rfl⟩
            simp only [bind_assoc] at hanswer
            exact hanswer n hn

theorem receiveResponse_meets (myChallenge : List UInt8) (theirs : HandshakePayload)
    (response : Except Error WireMessage) (n₀ : Endpoint) (hkeyed : n₀.config.keyPair.isSome)
    (hchallenge : myChallenge ≠ []) :
    Method.Meets (Grows n₀) (receiveResponse ed theirs myChallenge response)
      (fun signature n => Grows n₀ n ∧
        (∃ wire crHS, response = .ok wire ∧ wire.handshake = .ok crHS ∧ crHS.challengeResponse = signature) ∧
        verifyBytes ed theirs.publicKey myChallenge signature = true) (Grows n₀) := by
  intro n hn
  have hchecks : ¬ (n.config.keyPair.isNone ∨ myChallenge.length = 0) := by
    rw [hn.config, not_or]
    exact ⟨by simpa [Option.isSome_iff_ne_none] using hkeyed, by simpa using hchallenge⟩
  unfold receiveResponse
  rw [if_neg hchecks]
  cases hread : readHandshake "network: read challenge response: " "network: expected challenge response"
      "network: decode challenge response: " response with
  | error err => exact hn
  | ok crHS =>
    obtain ⟨wire, hwire, hpayload⟩ := handshake_of_readHandshake hread
    dsimp only
    by_cases hverify : verifyBytes ed theirs.publicKey myChallenge crHS.challengeResponse = true
    · rw [if_neg (by simpa using hverify)]
      exact ⟨hn, ⟨wire, crHS, hwire, hpayload, rfl⟩, hverify⟩
    · rw [if_pos (by simpa using hverify)]
      exact hn

end Endpoint

/-- How far the handshake on a connection has come. -/
inductive Phase
  | awaitReply (challenge : List UInt8)
  | awaitHello
  | awaitResponse (challenge : List UInt8) (theirs : HandshakePayload)
  | verified (challenge : List UInt8) (theirs : HandshakePayload) (response : List UInt8)
  | registered (challenge : List UInt8) (theirs : HandshakePayload) (response : List UInt8)
  | closed

/-- The challenge that the node sent on the connection. -/
def Phase.challenge : Phase → Option (List UInt8)
  | .awaitReply challenge | .awaitResponse challenge _ | .verified challenge _ _ | .registered challenge _ _ =>
    some challenge
  | .awaitHello | .closed => none

/-- A node with its connections by number, and the connection under each ID of the peers map. -/
structure Host where
  endpoint : Endpoint
  sessions : Map ℕ Phase := ∅
  entries : Map String ℕ := ∅

/-- What a node does next: a part of a handshake on the connection `s`, with what the network hands it there, the end of
    the connection, or another use of the key pair. -/
inductive Move
  | dial (s : ℕ) (env : ConnectEnv)
  | reply (s : ℕ) (message : Except Error WireMessage) (sendErr : Option Error)
  | incoming (s : ℕ)
  | hello (s : ℕ) (env : AcceptEnv)
  | response (s : ℕ) (message : Except Error WireMessage)
  | enter (s : ℕ)
  | disconnect (s : ℕ)
  | signEvent (e : Event)
  | broadcastVote (eventID : EventID) (verdict : Bool) (ts : Int64)

namespace Move

def session : Move → Option ℕ
  | .dial s _ | .reply s _ _ | .incoming s | .hello s _ | .response s _ | .enter s | .disconnect s => some s
  | .signEvent _ | .broadcastVote _ _ _ => none

def drawn : Move → Option (List UInt8)
  | .dial _ env => env.challenge.toOption
  | .hello _ env => env.challenge.toOption
  | _ => none

def answer : Move → Option (List UInt8)
  | .reply _ (.ok wire) _ | .response _ (.ok wire) => wire.handshake.toOption.map (·.challengeResponse)
  | _ => none

end Move

namespace Host

/-- Run a part of the handshake on the connection, which is closed if that fails. -/
def advance {A : Type} (s : ℕ) (part : Method Endpoint A) (phase : A → Phase) (h : Host) : Host :=
  match part h.endpoint with
  | (.ok a, endpoint) => { h with endpoint, sessions := h.sessions.insert s (phase a) }
  | (.error _, endpoint) => { h with endpoint, sessions := h.sessions.insert s .closed }

/-- Enter the peer of the connection under the ID it gave. -/
def enter (s : ℕ) (challenge : List UInt8) (theirs : HandshakePayload) (response : List UInt8) (h : Host) : Host :=
  match register theirs.agentID h.endpoint with
  | (.ok (), endpoint) =>
    { endpoint, sessions := h.sessions.insert s (.registered challenge theirs response),
      entries := h.entries.insert theirs.agentID s }
  | (.error _, endpoint) => { h with endpoint, sessions := h.sessions.insert s .closed }

def step (c : Crypto) (ed : Ed25519) (h : Host) : Move → Host
  | .dial s env => match h.sessions.lookup s with
    | none => h.advance s (sendHello env) .awaitReply
    | some _ => h
  | .reply s message sendErr => match h.sessions.lookup s with
    | some (.awaitReply challenge) =>
      h.advance s (receiveReply ed challenge sendErr message)
        fun theirs => .verified challenge theirs theirs.challengeResponse
    | _ => h
  | .incoming s => match h.sessions.lookup s with
    | none => { h with sessions := h.sessions.insert s .awaitHello }
    | some _ => h
  | .hello s env => match h.sessions.lookup s with
    | some .awaitHello => h.advance s (receiveHello ed env) fun answered => .awaitResponse answered.1 answered.2
    | _ => h
  | .response s message => match h.sessions.lookup s with
    | some (.awaitResponse challenge theirs) =>
      h.advance s (receiveResponse ed theirs challenge message) (.verified challenge theirs)
    | _ => h
  | .enter s => match h.sessions.lookup s with
    | some (.verified challenge theirs response) => h.enter s challenge theirs response
    | _ => h
  -- the read loop of the connection ends, and the entry goes with it, whichever connection it is for
  | .disconnect s => match h.sessions.lookup s with
    | some (.registered _ theirs _) =>
      { h with endpoint := { h.endpoint with peers := h.endpoint.peers.erase theirs.agentID },
               entries := h.entries.erase theirs.agentID }
    | _ => h
  | .signEvent e => { h with endpoint := (signEvent c ed e h.endpoint).2 }
  | .broadcastVote eventID verdict ts =>
    { h with endpoint := (broadcastVote ed eventID verdict ts h.endpoint).2 }

/-- What may become of a connection in a move on it. -/
inductive Reaches (ed : Ed25519) (h : Host) (move : Move) (s : ℕ) : Phase → Prop
  | silent {phase : Phase} (hnone : phase.challenge = none) : Reaches ed h move s phase
  | dialed {challenge : List UInt8} (hdrawn : move.drawn = some challenge) : Reaches ed h move s (.awaitReply challenge)
  | answered {challenge : List UInt8} {theirs : HandshakePayload} (hdrawn : move.drawn = some challenge) :
    Reaches ed h move s (.awaitResponse challenge theirs)
  | verified {challenge response : List UInt8} {theirs : HandshakePayload} {phase : Phase}
    (hphase : h.sessions.lookup s = some phase) (hchallenge : phase.challenge = some challenge)
    (hanswer : move.answer = some response) (hverify : verifyBytes ed theirs.publicKey challenge response = true) :
    Reaches ed h move s (.verified challenge theirs response)
  | registered {challenge response : List UInt8} {theirs : HandshakePayload}
    (hphase : h.sessions.lookup s = some (.verified challenge theirs response)) :
    Reaches ed h move s (.registered challenge theirs response)

def HasRoom (h : Host) : Prop := h.endpoint.peers.card < h.endpoint.config.maxPeers

instance (h : Host) : Decidable h.HasRoom := inferInstanceAs (Decidable (_ < _))

/-- All that a move does to a node. -/
structure Effect (ed : Ed25519) (move : Move) (h h' : Host) : Prop where
  grows : Grows h.endpoint h'.endpoint
  sessions : ∀ s phase, h'.sessions.lookup s = some phase →
    h.sessions.lookup s = some phase ∨ move.session = some s ∧ Reaches ed h move s phase
  entries : ∀ a s, h'.entries.lookup a = some s →
    h.entries.lookup a = some s ∨ ∃ challenge theirs response,
      h'.sessions.lookup s = some (.registered challenge theirs response) ∧ theirs.agentID = a
  kept : ∀ s challenge theirs response, h.sessions.lookup s = some (.registered challenge theirs response) →
    h'.sessions.lookup s = some (.registered challenge theirs response)
  registers : ∀ s challenge theirs response, h.sessions.lookup s = some (.verified challenge theirs response) →
    (h'.sessions.lookup s = some (.registered challenge theirs response) ↔ move = .enter s ∧ h.HasRoom)

section Effect

variable {c : Crypto} {ed : Ed25519} {move : Move} {h h' : Host} {s : ℕ}

theorem Effect.of_sessions_eq (hgrows : Grows h.endpoint h'.endpoint) (hsessions : h'.sessions = h.sessions)
    (hentries : ∀ a s, h'.entries.lookup a = some s → h.entries.lookup a = some s)
    (hmove : ∀ s challenge theirs response, h.sessions.lookup s = some (.verified challenge theirs response) →
      move ≠ .enter s) : Effect ed move h h' where
  grows := hgrows
  sessions s phase hphase := .inl (hsessions ▸ hphase)
  entries a s hentry := .inl (hentries a s hentry)
  kept s challenge theirs response hphase := hsessions ▸ hphase
  registers s challenge theirs response hphase := by
    rw [hsessions, hphase]
    exact ⟨fun heq => (by cases heq), fun henter => absurd henter.1 (hmove s _ _ _ hphase)⟩

theorem Effect.of_insert {phase : Phase} (hgrows : Grows h.endpoint h'.endpoint)
    (hsessions : h'.sessions = h.sessions.insert s phase) (hentries : h'.entries = h.entries)
    (hsession : move.session = some s) (hmove : ∀ s, move ≠ .enter s) (hreaches : Reaches ed h move s phase)
    (hopen : ∀ challenge theirs response, h.sessions.lookup s ≠ some (.verified challenge theirs response) ∧
      h.sessions.lookup s ≠ some (.registered challenge theirs response)) : Effect ed move h h' where
  grows := hgrows
  sessions s' phase' hphase := by
    rw [hsessions] at hphase
    obtain ⟨rfl, rfl⟩ | ⟨-, hbefore⟩ := lookup_insert_cases hphase
    · exact .inr ⟨hsession, hreaches⟩
    · exact .inl hbefore
  entries a s' hentry := .inl (hentries ▸ hentry)
  kept s' challenge theirs response hphase := by
    have hne : s' ≠ s := fun heq => (hopen challenge theirs response).2 (heq ▸ hphase)
    rw [hsessions, lookup_insert_of_ne _ hne]
    exact hphase
  registers s' challenge theirs response hphase := by
    have hne : s' ≠ s := fun heq => (hopen challenge theirs response).1 (heq ▸ hphase)
    rw [hsessions, lookup_insert_of_ne _ hne, hphase]
    exact ⟨fun heq => (by cases heq), fun henter => absurd henter.1 (hmove s')⟩

theorem advance_effect {A : Type} {part : Method Endpoint A} {phase : A → Phase}
    (hpart : Method.Meets (Grows h.endpoint) part
      (fun a n => Grows h.endpoint n ∧ Reaches ed h move s (phase a)) (Grows h.endpoint))
    (hsession : move.session = some s) (hmove : ∀ s, move ≠ .enter s)
    (hopen : ∀ challenge theirs response, h.sessions.lookup s ≠ some (.verified challenge theirs response) ∧
      h.sessions.lookup s ≠ some (.registered challenge theirs response)) :
    Effect ed move h (h.advance s part phase) := by
  have hcall := hpart h.endpoint (.refl _)
  unfold advance
  split at hcall
  · next a endpoint heq =>
    rw [heq]
    exact .of_insert hcall.1 rfl rfl hsession hmove hcall.2 hopen
  · next err endpoint heq =>
    rw [heq]
    exact .of_insert hcall rfl rfl hsession hmove (.silent rfl) hopen

theorem enter_effect {challenge response : List UInt8} {theirs : HandshakePayload}
    (hphase : h.sessions.lookup s = some (.verified challenge theirs response)) :
    Effect ed (.enter s) h (h.enter s challenge theirs response) := by
  have hgrows := register_grows h.endpoint theirs.agentID h.endpoint (.refl _)
  by_cases hroom : h.HasRoom
  · have hregister : register theirs.agentID h.endpoint =
        (.ok (), { h.endpoint with peers := insert theirs.agentID h.endpoint.peers }) :=
      if_neg (not_le.mpr hroom)
    rw [hregister] at hgrows
    simp only [enter, hregister]
    refine ⟨hgrows, fun s' phase' hlookup => ?_, fun a s' hentry => ?_, fun s' c' t' r' hbefore => ?_,
      fun s' c' t' r' hbefore => ?_⟩
    · obtain ⟨rfl, rfl⟩ | ⟨-, hlookup⟩ := lookup_insert_cases hlookup
      · exact .inr ⟨rfl, .registered hphase⟩
      · exact .inl hlookup
    · obtain ⟨rfl, rfl⟩ | ⟨-, hentry⟩ := lookup_insert_cases hentry
      · exact .inr ⟨challenge, theirs, response, lookup_insert _, rfl⟩
      · exact .inl hentry
    · have hne : s' ≠ s := by
        rintro rfl
        cases hphase.symm.trans hbefore
      rw [lookup_insert_of_ne _ hne]
      exact hbefore
    · by_cases hsame : s' = s
      · subst hsame
        cases hphase.symm.trans hbefore
        rw [lookup_insert]
        exact ⟨fun _ => ⟨rfl, hroom⟩, fun _ => rfl⟩
      · rw [lookup_insert_of_ne _ hsame, hbefore]
        exact ⟨fun heq => (by cases heq), fun henter => absurd (Move.enter.inj henter.1).symm hsame⟩
  · have hregister : register theirs.agentID h.endpoint = (.error errMaxPeers, h.endpoint) :=
      if_pos (not_lt.mp hroom)
    simp only [enter, hregister]
    refine ⟨.refl _, fun s' phase' hlookup => ?_, fun a s' hentry => .inl hentry, fun s' c' t' r' hbefore => ?_,
      fun s' c' t' r' hbefore => ?_⟩
    · obtain ⟨rfl, rfl⟩ | ⟨-, hlookup⟩ := lookup_insert_cases hlookup
      · exact .inr ⟨rfl, .silent rfl⟩
      · exact .inl hlookup
    · have hne : s' ≠ s := by
        rintro rfl
        cases hphase.symm.trans hbefore
      rw [lookup_insert_of_ne _ hne]
      exact hbefore
    · refine ⟨fun heq => ?_, fun henter => absurd henter.2 hroom⟩
      obtain ⟨-, heq⟩ | ⟨-, heq⟩ := lookup_insert_cases heq
      · cases heq
      · cases hbefore.symm.trans heq

theorem step_effect (hkeyed : h.endpoint.config.keyPair.isSome)
    (hchallenges : ∀ s phase challenge, h.sessions.lookup s = some phase → phase.challenge = some challenge →
      challenge ≠ []) : Effect ed move h (h.step c ed move) := by
  have hstay : (∀ s challenge theirs response, h.sessions.lookup s = some (.verified challenge theirs response) →
      move ≠ .enter s) → Effect ed move h h := fun hmove => .of_sessions_eq (.refl _) rfl (fun _ _ h => h) hmove
  cases move with
  | dial s env =>
    simp only [step]
    split
    · next hnone =>
      refine advance_effect ((sendHello_meets env h.endpoint).imp ?_ fun _ hn => hn) rfl nofun ?_
      · exact fun challenge n hn => ⟨hn.1, .dialed (by rw [Move.drawn, hn.2]; rfl)⟩
      · intro _ _ _
        rw [hnone]
        exact ⟨nofun, nofun⟩
    · exact hstay nofun
  | reply s message sendErr =>
    simp only [step]
    split
    · next challenge hphase =>
      refine advance_effect ((receiveReply_meets ed sendErr challenge message h.endpoint hkeyed).imp ?_
        fun _ hn => hn) rfl nofun ?_
      · rintro theirs n ⟨hgrows, ⟨wire, rfl, hpayload⟩, hverify⟩
        exact ⟨hgrows, .verified hphase rfl (by rw [Move.answer, hpayload]; rfl) hverify⟩
      · intro _ _ _
        rw [hphase]
        exact ⟨nofun, nofun⟩
    · exact hstay nofun
  | incoming s =>
    simp only [step]
    split
    · next hnone =>
      refine .of_insert (.refl _) rfl rfl rfl nofun (.silent rfl) ?_
      intro _ _ _
      rw [hnone]
      exact ⟨nofun, nofun⟩
    · exact hstay nofun
  | hello s env =>
    simp only [step]
    split
    · next hphase =>
      refine advance_effect ((receiveHello_meets ed env h.endpoint).imp ?_ fun _ hn => hn) rfl nofun ?_
      · exact fun answered n hn => ⟨hn.1, .answered (by rw [Move.drawn, hn.2]; rfl)⟩
      · intro _ _ _
        rw [hphase]
        exact ⟨nofun, nofun⟩
    · exact hstay nofun
  | response s message =>
    simp only [step]
    split
    · next challenge theirs hphase =>
      refine advance_effect ((receiveResponse_meets ed challenge theirs message h.endpoint hkeyed
        (hchallenges s _ _ hphase rfl)).imp ?_ fun _ hn => hn) rfl nofun ?_
      · rintro signature n ⟨hgrows, ⟨wire, crHS, rfl, hpayload, rfl⟩, hverify⟩
        exact ⟨hgrows, .verified hphase rfl (by rw [Move.answer, hpayload]; rfl) hverify⟩
      · intro _ _ _
        rw [hphase]
        exact ⟨nofun, nofun⟩
    · exact hstay nofun
  | enter s =>
    simp only [step]
    split
    · next hphase => exact enter_effect hphase
    · next hother =>
      refine hstay fun s' challenge theirs response hphase heq => ?_
      cases heq
      exact hother challenge theirs response hphase
  | disconnect s =>
    simp only [step]
    split
    · refine .of_sessions_eq ⟨rfl, List.Subset.refl _, List.Subset.refl _⟩ rfl (fun a s' hentry => ?_) nofun
      rw [lookup_erase_eq] at hentry
      split_ifs at hentry
      exact hentry
    · exact hstay nofun
  | signEvent e =>
    exact .of_sessions_eq (signEvent_grows _ ed c e _ (.refl _)) rfl (fun _ _ h => h) nofun
  | broadcastVote eventID verdict ts =>
    exact .of_sessions_eq (broadcastVote_grows _ ed eventID verdict ts _ (.refl _)) rfl (fun _ _ h => h) nofun

end Effect

end Host

end aethernet.network
