import Aethernet.Golang.Json
import Aethernet.Golang.Method

open golang

namespace aethernet.tasks

def errTaskNotFound : Error := .new "tasks: task not found"

/-- `TaskStatus`. Only the task manager writes a task's status, so there are no other texts. -/
inductive TaskStatus where
  | opened
  | claimed
  | submitted
  | completed
  | disputed
  | cancelled
  | rejected
  | disputedResolved
  deriving DecidableEq, Repr

/-- The statuses the verification consensus leaves alone. -/
def TaskStatus.isTerminal (s : TaskStatus) : Bool := s ∈ [completed, rejected, disputedResolved, cancelled]

def TaskStatus.text : TaskStatus → String
  | opened => "open"
  | claimed => "claimed"
  | submitted => "submitted"
  | completed => "completed"
  | disputed => "disputed"
  | cancelled => "cancelled"
  | rejected => "rejected"
  | disputedResolved => "disputed_resolved"

structure AcceptanceContract where
  specHash : String := ""
  successCriteria : List String := []
  requiredChecks : List String := []
  policyVersion : String := ""
  challengeWindowSecs : Int64 := 0
  generationEligible : Bool := false
  maxDeliveryTimeSecs : Int64 := 0
  assuranceLane : String := ""

/-- `Task`. Times are Unix nanoseconds, and evidence is the document that spells it. -/
structure Task where
  posterID : String
  budget : UInt64
  status : TaskStatus
  completedAt : ℤ := 0
  id : String := ""
  title : String := ""
  description : String := ""
  category : String := ""
  claimerID : String := ""
  postEventID : String := ""
  claimEventID : String := ""
  submitEventID : String := ""
  resultHash : String := ""
  resultNote : String := ""
  resultURI : String := ""
  postedAt : ℤ := 0
  claimedAt : ℤ := 0
  claimDeadline : ℤ := 0
  submittedAt : ℤ := 0
  disputedAt : ℤ := 0
  parentTaskID : String := ""
  subtaskIDs : List String := []
  isSubtask : Bool := false
  submittedEvidence : Option Json := none
  deliveryMethod : String := ""
  resultContent : String := ""
  resultEncrypted : Bool := false
  contract : AcceptanceContract := {}
  rejectionCount : ℕ := 0
  evidenceBodyHash : String := ""
  evidenceReady : Bool := false
  assuranceFee : UInt64 := 0
  workerNetPayout : UInt64 := 0

structure TaskManager where
  byID : Map String Task := ∅

namespace TaskManager

/-- `Get`. -/
def getTask (taskID : String) (m : TaskManager) : Except Error Task :=
  match m.byID.lookup taskID with
  | none => .error (.wrap "" errTaskNotFound s!": {taskID}")
  | some task => .ok task

def setTask (taskID : String) (task : Task) (m : TaskManager) : TaskManager :=
  { m with byID := m.byID.insert taskID task }

/-- `ApplyVerificationConsensusResolution`, without the score and round, which it does not read. -/
def applyVerificationConsensusResolution (now : ℤ) (taskID verdict : String) : Method TaskManager Unit :=
  fun m => match m.byID.lookup taskID with
    | none => (.error (.wrap "" errTaskNotFound s!": {taskID}"), m)
    | some task =>
      if task.status.isTerminal then (.ok (), m)
      else if verdict = "pass" then
        (.ok (), m.setTask taskID { task with status := .completed, completedAt := now })
      else if verdict = "fail" then (.ok (), m.setTask taskID { task with status := .rejected })
      else if verdict = "abstain" then (.ok (), m.setTask taskID { task with status := .disputedResolved })
      else
        (.error (.new ("tasks: unknown verification consensus verdict: " ++ quote verdict)), m)

end TaskManager

end aethernet.tasks
