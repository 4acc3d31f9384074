import Aethernet.Dispatch.TVConsensusConsumer
import Aethernet.Recognition.TaskVerificationVote

open golang aethernet event taskverification dispatch

namespace aethernet.taskverification

def defaultAcceptanceThresholdBP : UInt64 := 6000
def defaultRoundDeadlineSeconds : Int64 := 180
def defaultDiversityFloor : ℤ := 2

/-- `LoadRoundBySubmissionEvent` finds a round. -/
def Rounds.hasSubmission (submissionEventID : EventID) (s : Rounds) : Bool :=
  s.stored.any fun _ round => round.submissionEventID = submissionEventID

end aethernet.taskverification

namespace aethernet.recognition

/-- The fields of a submission that open a round. -/
structure SubmissionPayload where
  taskID : String := ""
  claimerID : String := ""

def SubmissionPayload.decoder : json.Decoder SubmissionPayload :=
  json.struct ""
  "struct \x7b TaskID string \"json:\\\"task_id\\\"\"; ClaimerID string \"json:\\\"claimer_id\\\"\" \x7d" {}
    [json.field "task_id" json.string (·.taskID) fun p x => { p with taskID := x },
      json.field "claimer_id" json.string (·.claimerID) fun p x => { p with claimerID := x }]

/-- What the opening of a round finds around it: the errors of its reads and writes, the task's poster and category, the
    version of the validator set, and the time. -/
structure OpenEnv where
  lookupErr : Option Error := none
  saveErr : Option Error := none
  taskMeta : String → Except Error (String × String)
  validatorVer : UInt64
  now : Int64

variable (sha256 : String → List UInt8)

variable (env : OpenEnv) (ev : Event)

namespace TaskVerificationRoundConsumer

/-- The parameters of the round of a submission. -/
def openParams (payload : SubmissionPayload) (posterID category : String) : OpenRoundParams where
  taskID := payload.taskID
  submissionEventID := ev.id
  workerID := payload.claimerID
  posterID := posterID
  category := category
  validatorSetVersion := env.validatorVer
  committee := none
  analyzerPolicyID := "bootstrap_v1"
  diversityFloor := defaultDiversityFloor
  acceptanceThresholdBP := defaultAcceptanceThresholdBP
  deadlineSeconds := defaultRoundDeadlineSeconds
  now := env.now

/-- The round that `Consume` opens, or its error. -/
def openFor (payload : SubmissionPayload) : Except Error TaskVerificationRound :=
  match env.taskMeta payload.taskID with
  | .error err => .error (.wrap "task_verification_round: task metadata lookup: " err "")
  | .ok (posterID, category) => match openRound sha256 (openParams env ev payload posterID category) with
    | .error err => .error (.wrap "task_verification_round: open round: " err "")
    | .ok round => .ok round

def consume : Method Rounds Unit := fun s =>
  match json.unmarshal SubmissionPayload.decoder ev.payload with
  | .error err => (.error (.wrap "task_verification_round: unmarshal payload: " err ""), s)
  | .ok payload =>
    if payload.taskID = "" ∨ payload.claimerID = "" then
      (.error (.new "task_verification_round: missing task_id or claimer_id in payload"), s)
    else match env.lookupErr with
      | some err => (.error (.wrap "task_verification_round: check existing: " err ""), s)
      | none =>
        if s.hasSubmission ev.id then (.ok (), s)
        else match openFor sha256 env ev payload with
          | .error err => (.error err, s)
          | .ok round =>
            (Rounds.saveRound env.saveErr round).wrapError "task_verification_round: save round: " s

theorem consume_cases (s : Rounds) :
    (consume sha256 env ev s).2 = s ∨ ∃ p round, p.submissionEventID = ev.id ∧ openRound sha256 p = .ok round ∧
      (consume sha256 env ev s).2 = (Rounds.saveRound env.saveErr round s).2 := by
  unfold consume
  split
  · exact .inl rfl
  next payload _ =>
    split
    · exact .inl rfl
    cases env.lookupErr with
    | some err => exact .inl rfl
    | none =>
      dsimp only
      split
      · exact .inl rfl
      unfold openFor
      cases env.taskMeta payload.taskID with
      | error err => exact .inl rfl
      | ok posting =>
        dsimp only
        cases hround : openRound sha256 (openParams env ev payload posting.1 posting.2) with
        | error err => exact .inl rfl
        | ok round => exact .inr ⟨_, round, rfl, hround, Method.wrapError_snd _ _ _⟩

end TaskVerificationRoundConsumer

/-- What the consumption of a consensus event finds around it; `calibrates` if the counters of the round's families are
    wired and could be incremented. -/
structure ConsensusEnv where
  loadErr : Option Error := none
  saveErr : Option Error := none
  calibrates : Bool := false
  saveCalibrationErr : Option Error := none

namespace TaskVerificationConsensusConsumer

def parseConsensusVerdict (s : String) : Verdict :=
  if s = "pass" then .pass else if s = "fail" then .fail else .abstain

def consensusVerdictToState : Verdict → RoundState
  | .pass => .finalizedAccept
  | .fail => .finalizedReject
  | _ => .disputed

/-- The round as an event closes it, if it is open. -/
def closed (payload : ConsensusPayload) (round : TaskVerificationRound) : Option TaskVerificationRound :=
  if round.isTerminal then none
  else
    let verdict := parseConsensusVerdict payload.finalVerdict
    match round.transition (consensusVerdictToState verdict) payload.finalizationTimeUnix with
    | (.error _, _) => none
    | (.ok (), round) => some { round with finalVerdict := verdict, finalScoreBP := payload.finalScoreBP }

/-- The end of `Consume`: mark the round as calibrated. The error of the write is only logged. -/
def calibrate (env : ConsensusEnv) (round : TaskVerificationRound) (s : Rounds) : Rounds :=
  if env.calibrates ∧ !round.calibrationApplied then
    (Rounds.saveRound env.saveCalibrationErr { round with calibrationApplied := true } s).2
  else s

/-- `Consume`, as far as it concerns the rounds. The admission to the dispatcher, which comes before the calibration,
    leaves them alone. -/
def consume (env : ConsensusEnv) (ev : Event) : Method Rounds Unit := fun s =>
  match json.unmarshal ConsensusPayload.decoder ev.payload with
  | .error err => (.error (.wrap "task_verification_consensus: unmarshal: " err ""), s)
  | .ok payload => match s.loadRound env.loadErr payload.roundID with
    | .error err =>
      if err.is errRoundNotFound then (.ok (), s)
      else (.error (.wrap "task_verification_consensus: load round: " err ""), s)
    | .ok round => match closed payload round with
      | none => (.ok (), calibrate env round s)
      | some round => match Rounds.saveRound env.saveErr round s with
        | (.error err, s) => (.error (.wrap "task_verification_consensus: save: " err ""), s)
        | (.ok (), s) => (.ok (), calibrate env round s)

end TaskVerificationConsensusConsumer

end aethernet.recognition
