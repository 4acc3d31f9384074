import Aethernet.Golang.Int
import Aethernet.Golang.Sort
import Aethernet.Event.Basic

open golang aethernet.event

namespace aethernet.consensus

/-- A hex-encoded public key; the crypto package's `AgentID`. -/
abbrev AgentID := String

def errEventNotFound : Error := .new "consensus: event not found in voting records"
def errDuplicateVote : Error := .new "consensus: duplicate vote from same voter"
def errAlreadyFinalized : Error := .new "consensus: event already finalized"
def errRoundExhausted : Error := .new "consensus: event exceeded max rounds without supermajority"
def errVoterNotInSnapshot : Error := .new "consensus: voter not in validator set snapshot"
def errVoterNotInCommittee : Error := .new "consensus: voter not in committee for this round"

/-- `PersistedVote`: what survives a restart, which the verified value does not. -/
structure PersistedVote where
  eventID : EventID
  voterID : AgentID
  verdict : Bool

/-- The `ValidatorSetSource` interface; a key without an eligible seat has no weight. -/
structure ValidatorSetSource where
  voteWeightByKey : AgentID → Option UInt64
  setVersion : UInt64
  activeWeight : UInt64

/-- The fields of an identity fingerprint that a weight is computed from. -/
structure Fingerprint where
  reputationScore : UInt64
  stakedAmount : UInt64

/-- `VoteRecord`, without its creation time. -/
structure VoteRecord where
  eventID : EventID
  validatorSetVersion : UInt64 := 0
  boundSnapshot : Option ValidatorSetSource := none
  totalActiveWeight : UInt64 := 0
  round : UInt64 := 1
  votes : Map AgentID Bool := ∅
  verifiedValues : Map AgentID UInt64 := ∅
  totalWeight : UInt64 := 0
  yesWeight : UInt64 := 0
  noWeight : UInt64 := 0
  finalized : Bool := false
  finalVerdict : Bool := false
  finalVerifiedValue : UInt64 := 0
  finalOrder : UInt64 := 0
  callbackFired : Bool := false

/-- The two comparisons of a weight ratio the code makes with `SupermajorityThreshold`. -/
structure Threshold where
  /-- `weight / denominator >= threshold` -/
  reached : (weight denominator : UInt64) → Bool
  /-- `weight / denominator > 1 - threshold` -/
  blocked : (weight denominator : UInt64) → Bool

/-- A rational threshold with ratios compared exactly, where the code rounds to `float64`. -/
def Threshold.exact (θ : ℚ) : Threshold where
  reached weight denominator := θ ≤ (weight.toNat : ℚ) / denominator.toNat
  blocked weight denominator := 1 - θ < (weight.toNat : ℚ) / denominator.toNat

/-- `ConsensusConfig`. The round timeout is for other packages. -/
structure ConsensusConfig where
  supermajorityThreshold : Threshold
  maxRounds : UInt64
  minParticipants : ℤ

/-- `VotingRound`. An attached vote store is the verdicts by event and voter; its errors are dropped by
    every caller. -/
structure VotingRound where
  config : ConsensusConfig
  registry : Map AgentID Fingerprint := ∅
  validatorSet : Option ValidatorSetSource := none
  committeeSource : Option (EventID → Option (Map AgentID Bool)) := none
  persistence : Option (Map EventID (Map AgentID Bool)) := none
  records : Map EventID VoteRecord := ∅
  orderSeq : UInt64 := 0

variable (vr : VotingRound) (agentID : AgentID) (record : VoteRecord) (voterID : AgentID) (eventID : EventID)
  (advanceRound : Bool)

namespace VotingRound

def computeWeightFromRegistry : Except Error UInt64 :=
  match vr.registry.lookup agentID with
  | none => .error (.wrap s!"consensus: agent {agentID} not in registry: "
      (.wrap "identity: " (.new "agent not found") s!": {agentID}") "")
  | some fp =>
    if fp.reputationScore = 0 ∨ fp.stakedAmount = 0 then .ok 0
    else
      let result := fp.reputationScore.toNat * fp.stakedAmount.toNat / 10000
      .ok (if result < 2 ^ 64 then UInt64.ofNat result else UInt64.ofNat (2 ^ 64 - 1))

/-- The weight a snapshot gives a voter. -/
def weightFromSnapshot (vs : ValidatorSetSource) (agentID : AgentID) : Except Error UInt64 :=
  match vs.voteWeightByKey agentID with
  | none => .error (.wrap "" errVoterNotInSnapshot s!": {agentID}")
  | some w => .ok w

def computeWeight : Except Error UInt64 :=
  match vr.validatorSet with
  | some vs => weightFromSnapshot vs agentID
  | none => vr.computeWeightFromRegistry agentID

def computeWeightForRecord : Except Error UInt64 :=
  match record.boundSnapshot with
  | some vs => weightFromSnapshot vs voterID
  | none => vr.computeWeight voterID

def weightedValue : UInt64 ×ₗ UInt64 :=
  let w := (record.boundSnapshot.bind fun vs => vs.voteWeightByKey voterID).getD 0
  toLex (record.verifiedValues.getD voterID 0, if w = 0 then 1 else w)

/-- The last loop of `computeWeightedMedian`: the first value whose cumulated weight exceeds the
    threshold, or else the last value. -/
def pickMedian (threshold : UInt64) : (cumW last : UInt64) → List (UInt64 ×ₗ UInt64) → UInt64
  | _, last, [] => last
  | cumW, _, e :: rest =>
    let cumW := cumW + (ofLex e).2
    if threshold < cumW then (ofLex e).1 else pickMedian threshold cumW (ofLex e).1 rest

def computeWeightedMedian : UInt64 :=
  let entries := sortSlice (record.votes.collect fun voterID approved =>
    if approved then some (weightedValue record voterID) else none)
  let totalW := (entries.map fun e => (ofLex e).2).sum
  pickMedian (totalW / 2) 0 0 entries

/-- The weights a tally adds up. -/
structure Tally where
  totalWeight : UInt64
  yesWeight : UInt64
  noWeight : UInt64

/-- The loop of `tallyVotesLocked`; a voter without weight is skipped. -/
def tally : Tally :=
  let weight voterID := ((vr.computeWeightForRecord record voterID).toOption).getD 0
  { totalWeight := record.votes.sumOver fun voterID _ => weight voterID
    yesWeight := record.votes.sumOver fun voterID yesVote => if yesVote then weight voterID else 0
    noWeight := record.votes.sumOver fun voterID yesVote => if yesVote then 0 else weight voterID }

/-- What a tally decides: approval, rejection, or nothing yet. -/
def decide (config : ConsensusConfig) (totalActiveWeight : UInt64) (numVoters : ℕ) (t : Tally) :
    Option Bool :=
  let denominator := if totalActiveWeight = 0 then t.totalWeight else totalActiveWeight
  if config.minParticipants ≤ numVoters ∧ 0 < denominator then
    if config.supermajorityThreshold.reached t.yesWeight denominator then some true
    else if 0 < totalActiveWeight ∧ config.supermajorityThreshold.blocked t.noWeight denominator then
      some false
    else none
  else none

/-- `persistence.DeleteVotes`. -/
def deleteVotes (vr : VotingRound) : VotingRound :=
  { vr with persistence := vr.persistence.map fun p => p.erase eventID }

/-- `persistence.PutVote`. -/
def putVote (voterID : AgentID) (vote : Bool) (vr : VotingRound) : VotingRound :=
  { vr with persistence := vr.persistence.map fun p =>
      p.insert eventID ((p.getD eventID ∅).insert voterID vote) }

/-- `tallyVotesLocked`: the record afterwards, and the round with the next sequence number. -/
def tallyVotesLocked (record : VoteRecord) (vr : VotingRound) : VoteRecord × VotingRound :=
  if record.finalized then (record, vr)
  else if vr.config.maxRounds < record.round then (record, vr)
  else
    let t := vr.tally record
    let record := { record with
      totalWeight := t.totalWeight, yesWeight := t.yesWeight, noWeight := t.noWeight }
    match decide vr.config record.totalActiveWeight record.votes.len t with
    | some verdict =>
      let record := { record with
        finalized := true
        finalVerdict := verdict
        finalVerifiedValue := if verdict then computeWeightedMedian record else 0
        finalOrder := vr.orderSeq + 1 }
      (record, deleteVotes record.eventID { vr with orderSeq := vr.orderSeq + 1 })
    | none =>
      ({ record with round := if advanceRound then record.round + 1 else record.round }, vr)

/-- `tallyVotesLocked` on the record the round holds for an event. -/
def tallyRecord (eventID : EventID) (record : VoteRecord) (vr : VotingRound) : VotingRound :=
  let (record, vr) := tallyVotesLocked advanceRound record vr
  { vr with records := vr.records.insert eventID record }

/-- The record a first vote opens: it is bound to the snapshot of the time. -/
def newRecord : VoteRecord where
  eventID := eventID
  boundSnapshot := vr.validatorSet
  validatorSetVersion := (vr.validatorSet.map (·.setVersion)).getD 0
  totalActiveWeight := (vr.validatorSet.map (·.activeWeight)).getD 0

/-- The committee check of `RegisterVote`. -/
def inCommittee (voterID : AgentID) : Bool :=
  match vr.committeeSource.bind fun selectForRound => selectForRound eventID with
  | none => true
  | some committee => committee.getD voterID false

/-- The record of an event: the stored one, or the one a first vote opens. -/
def recordOf : VoteRecord :=
  (vr.records.lookup eventID).getD (vr.newRecord eventID)

def withVote (vote : Bool) (verifiedValue : UInt64) : VoteRecord :=
  { record with
    votes := record.votes.insert voterID vote
    verifiedValues := record.verifiedValues.insert voterID verifiedValue }

def registerVote (voterID : AgentID) (vote : Bool) (verifiedValue : UInt64) (vr : VotingRound) :
    Except Error Unit × VotingRound :=
  match vr.computeWeight voterID with
  | .error err => (.error (.wrap s!"consensus: voter {voterID} not eligible: " err ""), vr)
  | .ok _ =>
    if !vr.inCommittee eventID voterID then
      (.error (.wrap "" errVoterNotInCommittee s!": voter {voterID} for event {eventID}"), vr)
    else
      let record := vr.recordOf eventID
      let opened := { vr with records := vr.records.insert eventID record }
      if record.finalized then (.error (.wrap "" errAlreadyFinalized s!": {eventID}"), opened)
      else if vr.config.maxRounds < record.round then
        (.error (.wrap "" errRoundExhausted
          s!": {eventID} (round {record.round} > max {vr.config.maxRounds})"), opened)
      else if voterID ∈ record.votes then
        (.error (.wrap "" errDuplicateVote s!": voter {voterID} already voted for {eventID}"), opened)
      else
        let record := withVote record voterID vote verifiedValue
        (.ok (), tallyRecord false eventID record (opened.putVote eventID voterID vote))

def tallyVotes (vr : VotingRound) : Except Error Unit × VotingRound :=
  match vr.records.lookup eventID with
  | none => (.error (.wrap "" errEventNotFound s!": {eventID}"), vr)
  | some record => (.ok (), tallyRecord true eventID record vr)

/-- `LoadPersistedVotes`, with the answers of `AllVoteEventIDs` and `GetVotes`. What the votes of one
    event do to the store does not change the answers for another. -/
def loadPersistedVotes (allVoteEventIDs : Except Error (List EventID))
    (getVotes : EventID → Except Error (List PersistedVote)) (vr : VotingRound) :
    Except Error Unit × VotingRound :=
  match allVoteEventIDs with
  | .error err => (.error (.wrap "consensus: load persisted votes: " err ""), vr)
  | .ok eventIDs => eventIDs.foldl (fun (result, vr) eid => match result with
      | .error err => (.error err, vr)
      | .ok () => match getVotes eid with
        | .error err => (.error (.wrap s!"consensus: load votes for {eid}: " err ""), vr)
        | .ok votes =>
          (.ok (), votes.foldl (fun vr v => (vr.registerVote eid v.voterID v.verdict 0).2) vr)) (.ok (), vr)

def getRecord : Except Error VoteRecord :=
  match vr.records.lookup eventID with
  | none => .error (.wrap "" errEventNotFound s!": {eventID}")
  | some record => .ok record

def markCallbackFired (vr : VotingRound) : Bool × VotingRound :=
  match vr.records.lookup eventID with
  | none => (false, vr)
  | some record =>
    if !record.finalized ∨ record.callbackFired then (false, vr)
    else (true, { vr with records := vr.records.insert eventID { record with callbackFired := true } })

end VotingRound

end aethernet.consensus
