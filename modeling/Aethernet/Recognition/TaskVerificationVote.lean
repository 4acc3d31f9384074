import Aethernet.Golang.Method
import Aethernet.TaskVerification.Finalizer

open golang aethernet event taskverification

namespace aethernet.event

structure TaskVerificationVotePayload where
  version : UInt8 := 0
  roundID : String := ""
  taskID : String := ""
  submissionEventID : String := ""
  validatorID : String := ""
  verdict : String := ""
  scoreBP : UInt64 := 0
  scoreBreakdown : Map String UInt64 := ∅
  analyzerFamily : String := ""
  analyzerVersion : String := ""
  policyVersion : String := ""
  analysisArtifactHash : String := ""
  timestampUnix : Int64 := 0

def TaskVerificationVotePayload.decoder : json.Decoder TaskVerificationVotePayload :=
  json.struct "TaskVerificationVotePayload" "event.TaskVerificationVotePayload" {}
    [json.field "v" json.uint8 (·.version) fun p x => { p with version := x },
      json.field "round_id" json.string (·.roundID) fun p x => { p with roundID := x },
      json.field "task_id" json.string (·.taskID) fun p x => { p with taskID := x },
      json.field "submission_event_id" json.string (·.submissionEventID)
        fun p x => { p with submissionEventID := x },
      json.field "validator_id" json.string (·.validatorID) fun p x => { p with validatorID := x },
      json.field "verdict" json.string (·.verdict) fun p x => { p with verdict := x },
      json.field "score_bp" json.uint64 (·.scoreBP) fun p x => { p with scoreBP := x },
      json.field "score_breakdown" (json.mapOf "uint64" json.uint64) (·.scoreBreakdown)
        fun p x => { p with scoreBreakdown := x },
      json.field "analyzer_family" json.string (·.analyzerFamily) fun p x => { p with analyzerFamily := x },
      json.field "analyzer_version" json.string (·.analyzerVersion) fun p x => { p with analyzerVersion := x },
      json.field "policy_version" json.string (·.policyVersion) fun p x => { p with policyVersion := x },
      json.field "analysis_artifact_hash" json.string (·.analysisArtifactHash)
        fun p x => { p with analysisArtifactHash := x },
      json.field "timestamp_unix" json.int64 (·.timestampUnix) fun p x => { p with timestampUnix := x }]

end aethernet.event

namespace aethernet.taskverification

def errRoundNotFound : Error := .new "taskverification: round not found"

/-- A node's store of rounds, and the finalized rounds it has called `EmitConsensusEvent` with. -/
structure Rounds where
  stored : Map RoundID TaskVerificationRound := ∅
  emitted : List TaskVerificationRound := []

namespace Rounds

/-- `LoadRound`; `loadErr` is what a failing read answers. -/
def loadRound (loadErr : Option Error) (id : RoundID) (s : Rounds) : Except Error TaskVerificationRound :=
  match loadErr with
  | some err => .error err
  | none => match s.stored.lookup id with
    | none => .error errRoundNotFound
    | some round => .ok round

/-- `SaveRound`; `saveErr` is what a failing write answers. -/
def saveRound (saveErr : Option Error) (round : TaskVerificationRound) : Method Rounds Unit := fun s =>
  match saveErr with
  | some err => (.error err, s)
  | none => (.ok (), { s with stored := s.stored.insert round.roundID round })

end Rounds

end aethernet.taskverification

namespace aethernet.recognition

/-- What a call gets to hear from around it: the errors of its reads and writes, the weights the validator set answers,
    its active weight, and the time. A sync handler without a reducer gives every validator weight zero. -/
structure VoteEnv where
  loadErr : Option Error := none
  saveErr : Option Error := none
  saveFinalErr : Option Error := none
  voteWeight : AgentID → Option UInt64
  activeWeight : UInt64
  now : Int64

def parseVerdict (s : String) : Except Error Verdict :=
  if s = "pass" then .ok .pass
  else if s = "fail" then .ok .fail
  else if s = "abstain" then .ok .abstain
  else .error (.new ("unknown verdict: " ++ quote s))

/-- The record of a vote. -/
def voteRecord (payload : TaskVerificationVotePayload) (verdict : Verdict) (stake : UInt64) :
    TaskVerificationVoteRecord where
  validatorID := payload.validatorID
  verdict := verdict
  scoreBP := payload.scoreBP
  analyzerFamily := payload.analyzerFamily
  stake := stake
  scoreBreakdown := payload.scoreBreakdown

def applyTaskVerificationVoteSync (env : VoteEnv) (vp : TaskVerificationVotePayload) (s : Rounds) : Rounds :=
  match s.loadRound env.loadErr vp.roundID with
  | .error _ => s
  | .ok round => match env.voteWeight vp.validatorID with
    | none => s
    | some stake => match parseVerdict vp.verdict with
      | .error _ => s
      | .ok verdict =>
        let record := voteRecord vp verdict stake
        if round.isTerminal then (Rounds.saveRound env.saveErr (recordPostFinalizationVote record round) s).2
        else match applyVoteToRound record round with
          | ((_, some _), _) => s
          | ((result, none), round) =>
            if result.duplicateVote then s else (Rounds.saveRound env.saveErr round s).2

/-- The sync handler on a vote event. -/
def syncVote (env : VoteEnv) (ev : Event) (s : Rounds) : Rounds :=
  match getPayload "event.TaskVerificationVotePayload" TaskVerificationVotePayload.decoder ev with
  | .error _ => s
  | .ok vp => applyTaskVerificationVoteSync env vp s

/-- `TaskVerificationVoteConsumer`: no finalizer runs without a source for the active weight. -/
structure TaskVerificationVoteConsumer where
  finalizer : Option FinalizerConfig

namespace TaskVerificationVoteConsumer

/-- The end of `Consume`: finalize the round if the vote tips it. -/
def finalizeRound (c : TaskVerificationVoteConsumer) (env : VoteEnv) (round : TaskVerificationRound) (s : Rounds) :
    Rounds :=
  match c.finalizer with
  | none => s
  | some config =>
    let decision := config.evaluate round env.activeWeight env.now
    if !decision.shouldFinalize then s
    else match round.transition decision.verdict.toState env.now with
      | (.error _, _) => s
      | (.ok (), round) =>
        let round := { round with finalVerdict := decision.verdict, finalScoreBP := decision.finalScoreBP }
        match Rounds.saveRound env.saveFinalErr round s with
        | (.error _, s) => s
        | (.ok (), s) => { s with emitted := s.emitted ++ [round] }

def consume (c : TaskVerificationVoteConsumer) (env : VoteEnv) (ev : Event) : Method Rounds Unit := fun s =>
  match json.unmarshal TaskVerificationVotePayload.decoder ev.payload with
  | .error err => (.error (.wrap "task_verification_vote: unmarshal: " err ""), s)
  | .ok payload => match s.loadRound env.loadErr payload.roundID with
    | .error err =>
      if err.is errRoundNotFound then (.ok (), s)
      else (.error (.wrap "task_verification_vote: load round: " err ""), s)
    | .ok round => match env.voteWeight payload.validatorID with
      | none => (.ok (), s)
      | some stake => match parseVerdict payload.verdict with
        | .error _ => (.ok (), s)
        | .ok verdict =>
          let record := voteRecord payload verdict stake
          if round.isTerminal then
            (Rounds.saveRound env.saveErr (recordPostFinalizationVote record round)).wrapError
              "task_verification_vote: save post-finalization: " s
          else match applyVoteToRound record round with
            | ((_, some err), _) =>
              if err.is errEquivocation then (.ok (), s)
              else (.error (.wrap "task_verification_vote: apply: " err ""), s)
            | ((result, none), round) =>
              if result.duplicateVote then (.ok (), s)
              else match Rounds.saveRound env.saveErr round s with
                | (.error err, s) => (.error (.wrap "task_verification_vote: save: " err ""), s)
                | (.ok (), s) => (.ok (), c.finalizeRound env round s)

end TaskVerificationVoteConsumer

end aethernet.recognition
