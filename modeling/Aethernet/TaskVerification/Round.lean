import Aethernet.Golang.Int
import Aethernet.Golang.Sort
import Aethernet.Event.Basic

open golang aethernet.event

namespace aethernet.taskverification

/-- A hex-encoded public key; the crypto package's `AgentID`. -/
abbrev AgentID := String

abbrev RoundID := String

def errInvalidStateTransition : Error := .new "taskverification: invalid state transition"
def errInvalidRoundID : Error := .new "taskverification: invalid round ID"
def errInvalidDeadline : Error := .new "taskverification: invalid deadline"
def errRoundNotOpen : Error := .new "taskverification: round is not open"
def errEquivocation : Error := .new "taskverification: equivocation detected"

def defaultParticipationFloor : ℤ := 3

variable (sha256 : String → List UInt8)

def newRoundID (submissionEventID : EventID) : RoundID :=
  hexEncode (sha256 ("tvr:" ++ submissionEventID))

/-- `RoundState`. A round starts open and only `Transition` writes its state. -/
inductive RoundState where
  | opened
  | finalizedAccept
  | finalizedReject
  | disputed
  | expired
  deriving DecidableEq, Repr

def RoundState.text : RoundState → String
  | opened => "open"
  | finalizedAccept => "finalized_accept"
  | finalizedReject => "finalized_reject"
  | disputed => "disputed"
  | expired => "expired"

/-- `Verdict`, with the integers no constant has. -/
inductive Verdict where
  | pass
  | fail
  | abstain
  | undeclared (value : ℤ) (hnew : value ∉ [0, 1, 2])
  deriving DecidableEq

def Verdict.text : Verdict → String
  | pass => "pass"
  | fail => "fail"
  | abstain => "abstain"
  | undeclared value _ => s!"Verdict({value})"

/-- `TaskVerificationVoteRecord`, with its unsigned numbers and what aggregation, finalizer and settlement read. -/
structure TaskVerificationVoteRecord where
  validatorID : AgentID
  verdict : Verdict
  scoreBP : UInt64
  analyzerFamily : String
  stake : UInt64
  scoreBreakdown : Map String UInt64 := ∅
  deriving DecidableEq

structure TaskVerificationRound where
  roundID : RoundID
  taskID : String
  submissionEventID : EventID
  workerID : AgentID
  posterID : AgentID
  category : String
  validatorSetVersion : UInt64
  committee : Option (List AgentID)
  analyzerPolicyID : String
  diversityFloor : ℤ
  acceptanceThresholdBP : UInt64
  openedAtUnix : Int64
  deadlineUnix : Int64
  extendedUntilUnix : Int64 := 0
  state : RoundState
  passWeight : UInt64 := 0
  failWeight : UInt64 := 0
  abstainWeight : UInt64 := 0
  participatingFamilies : Map String UInt64 := ∅
  allParticipatingFamilies : Finset String := ∅
  votes : List TaskVerificationVoteRecord := []
  finalVerdict : Verdict := .pass
  finalScoreBP : UInt64 := 0
  finalizationTime : Int64 := 0
  calibrationApplied : Bool := false

structure OpenRoundParams where
  taskID : String
  submissionEventID : EventID
  workerID : AgentID
  posterID : AgentID
  category : String
  validatorSetVersion : UInt64
  committee : Option (List AgentID)
  analyzerPolicyID : String
  diversityFloor : ℤ
  acceptanceThresholdBP : UInt64
  deadlineSeconds : Int64
  now : Int64

def openRound (p : OpenRoundParams) : Except Error TaskVerificationRound :=
  if p.taskID = "" then .error (.wrap "" errInvalidRoundID ": TaskID is required")
  else if p.submissionEventID = "" then
    .error (.wrap "" errInvalidRoundID ": SubmissionEventID is required")
  else if p.workerID = "" then .error (.wrap "" errInvalidRoundID ": WorkerID is required")
  else if p.posterID = "" then .error (.wrap "" errInvalidRoundID ": PosterID is required")
  else if p.category = "" then .error (.wrap "" errInvalidRoundID ": Category is required")
  else if p.deadlineSeconds ≤ 0 then
    .error (.wrap "" errInvalidDeadline ": DeadlineSeconds must be > 0")
  else if p.diversityFloor < 1 then .error (.wrap "" errInvalidDeadline ": DiversityFloor must be >= 1")
  else if 10000 < p.acceptanceThresholdBP then
    .error (.wrap "" errInvalidDeadline ": AcceptanceThresholdBP must be in [0, 10000]")
  else .ok
    { roundID := newRoundID sha256 p.submissionEventID
      taskID := p.taskID
      submissionEventID := p.submissionEventID
      workerID := p.workerID
      posterID := p.posterID
      category := p.category
      validatorSetVersion := p.validatorSetVersion
      committee := p.committee
      analyzerPolicyID := p.analyzerPolicyID
      diversityFloor := p.diversityFloor
      acceptanceThresholdBP := p.acceptanceThresholdBP
      openedAtUnix := p.now
      deadlineUnix := p.now + p.deadlineSeconds
      state := .opened }

def RoundState.validTransitions : RoundState → List RoundState
  | opened => [finalizedAccept, finalizedReject, disputed, expired]
  | _ => []

/-- `VerdictToState`. -/
def Verdict.toState : Verdict → RoundState
  | pass => .finalizedAccept
  | fail => .finalizedReject
  | _ => .disputed

variable (next : RoundState) (r : TaskVerificationRound)

namespace TaskVerificationRound

def canTransitionTo : Bool := next ∈ r.state.validTransitions

def transition (now : Int64) (r : TaskVerificationRound) : Except Error Unit × TaskVerificationRound :=
  if !r.canTransitionTo next then
    (.error (.wrap "" errInvalidStateTransition s!": {r.state.text} → {next.text}"), r)
  else
    let finalizationTime := if next ≠ .opened then now else r.finalizationTime
    (.ok (), { r with state := next, finalizationTime := finalizationTime })

def isTerminal : Bool := r.state ≠ .opened

def deadlineForCurrentPhase : Int64 :=
  if 0 < r.extendedUntilUnix then r.extendedUntilUnix else r.deadlineUnix

def distinctPassFamilies : ℤ :=
  r.participatingFamilies.sumBy fun w => if 0 < w then 1 else 0

def distinctParticipatingFamilies : ℤ :=
  ((r.votes.map (·.analyzerFamily)).filter (· ≠ "")).toFinset.card

end TaskVerificationRound

structure AggregationResult where
  applied : Bool := false
  duplicateVote : Bool := false
  equivocationDetected : Bool := false
  newPassWeight : UInt64 := 0
  newFailWeight : UInt64 := 0
  newAbstainWeight : UInt64 := 0

variable (vote : TaskVerificationVoteRecord)

namespace TaskVerificationRound

/-- The round with a vote added to its records and weights. -/
def recordVote (r : TaskVerificationRound) : TaskVerificationRound :=
  let r := { r with
    votes := r.votes ++ [vote]
    allParticipatingFamilies :=
      if vote.analyzerFamily ≠ "" then insert vote.analyzerFamily r.allParticipatingFamilies
      else r.allParticipatingFamilies }
  match vote.verdict with
  | .pass =>
    let participatingFamilies :=
      if vote.analyzerFamily ≠ "" then r.participatingFamilies.addAt vote.analyzerFamily vote.stake
      else r.participatingFamilies
    { r with passWeight := r.passWeight + vote.stake, participatingFamilies := participatingFamilies }
  | .fail => { r with failWeight := r.failWeight + vote.stake }
  | .abstain => { r with abstainWeight := r.abstainWeight + vote.stake }
  | .undeclared _ _ => r

theorem roundID_recordVote (r : TaskVerificationRound) : (r.recordVote vote).roundID = r.roundID := by
  unfold recordVote
  cases vote.verdict <;> rfl

theorem state_recordVote (r : TaskVerificationRound) : (r.recordVote vote).state = r.state := by
  unfold recordVote
  cases vote.verdict <;> rfl

end TaskVerificationRound

variable (round : TaskVerificationRound)

def applyVoteToRound : (AggregationResult × Option Error) × TaskVerificationRound :=
  if round.state ≠ .opened then (({}, some errRoundNotOpen), round)
  else match round.votes.find? fun existing =>
      existing.validatorID = vote.validatorID ∧ existing.analyzerFamily = vote.analyzerFamily with
    | some existing =>
      if existing.verdict = vote.verdict ∧ existing.scoreBP = vote.scoreBP then
        (({ duplicateVote := true }, none), round)
      else
        (({ equivocationDetected := true }, some (.wrap "" errEquivocation
          (s!": validator {vote.validatorID} family {vote.analyzerFamily} voted "
            ++ s!"{existing.verdict.text}/{existing.scoreBP} then {vote.verdict.text}/{vote.scoreBP} "
            ++ s!"for round {round.roundID}"))), round)
    | none =>
      let round := round.recordVote vote
      (({ applied := true
          newPassWeight := round.passWeight
          newFailWeight := round.failWeight
          newAbstainWeight := round.abstainWeight }, none), round)

def recordPostFinalizationVote : TaskVerificationRound :=
  { round with votes := round.votes ++ [vote] }

end aethernet.taskverification
