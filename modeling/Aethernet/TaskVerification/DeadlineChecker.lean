import Aethernet.Recognition.TaskVerificationVote

open golang

namespace aethernet.roundprogress

inductive ProgressPhase where
  | acknowledged
  | fetchingBlob
  | analyzing
  | scorePending
  | voteEmitted
  | abstained
  | failed
  | undeclared (value : UInt8)
  deriving DecidableEq, Repr

def ProgressPhase.isTerminal (p : ProgressPhase) : Bool := p ∈ [voteEmitted, abstained, failed]

/-- `RoundProgressSnapshot`, with the fields the checker reads. -/
structure RoundProgressSnapshot where
  validatorID : String
  currentPhase : ProgressPhase
  leaseExpiryUnix : Int64

end aethernet.roundprogress

namespace aethernet.roundpolicy

inductive WaitDecision where
  | finalizeNow
  | waitForActive
  | waitForBackstop
  | expired
  deriving DecidableEq, Repr

/-- `RoundState`, with the fields the evaluator reads. -/
structure RoundState where
  totalValidators : ℤ
  terminalCount : ℤ
  activeLeaseCount : ℤ
  maxLeaseExpiryUnix : Int64
  outcomeSecured : Bool
  backstopUnix : Int64

/-- `RoundPolicyEvaluator.Evaluate`. -/
def evaluate (state : RoundState) (nowUnix : Int64) : WaitDecision :=
  if 0 < state.totalValidators ∧ state.totalValidators ≤ state.terminalCount then .finalizeNow
  else if state.outcomeSecured then .finalizeNow
  else if 0 < state.backstopUnix ∧ state.backstopUnix ≤ nowUnix then .expired
  else if 0 < state.activeLeaseCount ∧ nowUnix < state.maxLeaseExpiryUnix then .waitForActive
  else if nowUnix < state.backstopUnix then .waitForBackstop
  else .expired

end aethernet.roundpolicy

namespace aethernet.taskverification

open roundprogress

def defaultRoundExtensionSeconds : Int64 := 60

/-- `DeadlineChecker`. `SetProgressAware` sets the backstop, to 300 for a value that is not positive. -/
structure DeadlineChecker where
  finalizer : FinalizerConfig
  extensionSeconds : Int64 := defaultRoundExtensionSeconds
  backstopSeconds : Option Int64 := none

/-- What a check finds around it. `clock` is a second reading of the clock, and `activeCount` what `activeCountFn`
    answers if it is set. -/
structure CheckEnv where
  totalWeight : UInt64
  now : Int64
  clock : Int64
  activeCount : Option ℤ := none
  snapshots : List RoundProgressSnapshot := []
  saveErr : Option Error := none

/-- What a check does with an open round. -/
inductive CheckAction where
  | wait
  | extend
  | finalize (decision : FinalizationDecision)
  deriving DecidableEq

variable (d : DeadlineChecker) (env : CheckEnv) (round : TaskVerificationRound) (activeLeaseCount : ℕ)

namespace DeadlineChecker

/-- The loop of `checkLegacy` on one round. -/
def checkLegacy : CheckAction :=
  if env.now ≤ round.deadlineForCurrentPhase then .wait
  else
    let decision := d.finalizer.evaluate round env.totalWeight env.now
    if decision.shouldFinalize then .finalize decision
    else if round.extendedUntilUnix = 0 then .extend
    else .wait

/-- The weight that the validators with a lease could add to the other side. -/
def worstCaseWeight : UInt64 :=
  match env.activeCount with
  | none => 0
  | some totalValidators =>
    if 0 < totalValidators then
      env.totalWeight / UInt64.ofNat totalValidators.toNat * UInt64.ofNat activeLeaseCount
    else 0

def isOutcomeSecured : Bool :=
  let decision := d.finalizer.evaluate round env.totalWeight env.clock
  let threshold := ceilMulDiv env.totalWeight d.finalizer.bftThresholdBP 10000
  if !decision.shouldFinalize ∨ decision.reason = .deadlineExpiredDispute then false
  else if activeLeaseCount = 0 then true
  else match decision.verdict with
    | .pass => !(threshold ≤ round.failWeight + worstCaseWeight env activeLeaseCount)
    | .fail => !(threshold ≤ round.passWeight + worstCaseWeight env activeLeaseCount)
    | _ => false

def unvoted : List RoundProgressSnapshot :=
  env.snapshots.filter fun snap => snap.validatorID ∉ round.votes.map (·.validatorID)

def buildRoundState (backstopSeconds : Int64) (env : CheckEnv) (round : TaskVerificationRound) :
    roundpolicy.RoundState :=
  let active := (unvoted env round).filter fun snap =>
    !snap.currentPhase.isTerminal && env.now < snap.leaseExpiryUnix
  { totalValidators := if env.activeCount.getD 0 = 0 then 5 else env.activeCount.getD 0
    terminalCount := (round.votes.map (·.validatorID)).toFinset.card
      + (unvoted env round).countP fun snap => snap.currentPhase.isTerminal
    activeLeaseCount := active.length
    maxLeaseExpiryUnix := active.foldl (fun latest snap =>
      if latest < snap.leaseExpiryUnix then snap.leaseExpiryUnix else latest) 0
    outcomeSecured := d.isOutcomeSecured env round active.length
    backstopUnix := round.openedAtUnix + backstopSeconds }

def decisionOrDispute : FinalizationDecision :=
  let decision := d.finalizer.evaluate round env.totalWeight env.now
  if decision.shouldFinalize then decision else .dispute

/-- The loop of `checkProgressAware` on one round. -/
def checkProgressAware (backstopSeconds : Int64) (env : CheckEnv) (round : TaskVerificationRound) : CheckAction :=
  match roundpolicy.evaluate (d.buildRoundState backstopSeconds env round) env.now with
  | .finalizeNow | .expired => .finalize (d.decisionOrDispute env round)
  | .waitForActive | .waitForBackstop => .wait

/-- `check`, on one round. -/
def action : CheckAction :=
  match d.backstopSeconds with
  | none => d.checkLegacy env round
  | some backstopSeconds => d.checkProgressAware backstopSeconds env round

/-- The round that a check saves, and whether it is final. -/
def checked : Option (TaskVerificationRound × Bool) :=
  match d.action env round with
  | .wait => none
  | .extend => some ({ round with extendedUntilUnix := round.deadlineUnix + d.extensionSeconds }, false)
  -- `applyFinalization`
  | .finalize decision => match round.transition decision.verdict.toState env.now with
    | (.error _, _) => none
    | (.ok (), round) =>
      some ({ round with finalVerdict := decision.verdict, finalScoreBP := decision.finalScoreBP }, true)

/-- The check of a listed round: save what became of it, and emit the consensus event of a final one. -/
def checkRound (s : Rounds) : Rounds :=
  match d.checked env round with
  | none => s
  | some (round, final) => match Rounds.saveRound env.saveErr round s with
    | (.error _, s) => s
    | (.ok (), s) => if final then { s with emitted := s.emitted ++ [round] } else s

end DeadlineChecker

end aethernet.taskverification
