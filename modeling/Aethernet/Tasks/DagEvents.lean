import Aethernet.Event.Canonical
import Aethernet.Tasks.Operations

open golang golang.json aethernet.tasks.Task

namespace aethernet.event

structure TaskPostedPayload where
  version : UInt8 := 0
  taskID : String := ""
  posterID : String := ""
  title : String := ""
  description : String := ""
  category : String := ""
  budget : UInt64 := 0
  deliveryMethod : String := ""
  successCriteria : List String := []
  assuranceLane : String := ""
  maxDeliveryTime : Int64 := 0

def TaskPostedPayload.decoder : Decoder TaskPostedPayload :=
  struct "TaskPostedPayload" "event.TaskPostedPayload" {}
    [field "v" uint8 (·.version) fun p x => { p with version := x },
      field "task_id" string (·.taskID) fun p x => { p with taskID := x },
      field "poster_id" string (·.posterID) fun p x => { p with posterID := x },
      field "title" string (·.title) fun p x => { p with title := x },
      field "description" string (·.description) fun p x => { p with description := x },
      field "category" string (·.category) fun p x => { p with category := x },
      field "budget" uint64 (·.budget) fun p x => { p with budget := x },
      field "delivery_method" string (·.deliveryMethod) fun p x => { p with deliveryMethod := x },
      field "success_criteria" (slice "string" string) (·.successCriteria) fun p x => { p with successCriteria := x },
      field "assurance_lane" string (·.assuranceLane) fun p x => { p with assuranceLane := x },
      field "max_delivery_time_secs" int64 (·.maxDeliveryTime) fun p x => { p with maxDeliveryTime := x }]

structure TaskClaimedPayload where
  version : UInt8 := 0
  taskID : String := ""
  claimerID : String := ""

def TaskClaimedPayload.decoder : Decoder TaskClaimedPayload :=
  struct "TaskClaimedPayload" "event.TaskClaimedPayload" {}
    [field "v" uint8 (·.version) fun p x => { p with version := x },
      field "task_id" string (·.taskID) fun p x => { p with taskID := x },
      field "claimer_id" string (·.claimerID) fun p x => { p with claimerID := x }]

structure TaskSubmittedPayload where
  version : UInt8 := 0
  taskID : String := ""
  claimerID : String := ""
  resultHash : String := ""
  resultNote : String := ""
  resultURI : String := ""
  evidenceBodyHash : String := ""

def TaskSubmittedPayload.decoder : Decoder TaskSubmittedPayload :=
  struct "TaskSubmittedPayload" "event.TaskSubmittedPayload" {}
    [field "v" uint8 (·.version) fun p x => { p with version := x },
      field "task_id" string (·.taskID) fun p x => { p with taskID := x },
      field "claimer_id" string (·.claimerID) fun p x => { p with claimerID := x },
      field "result_hash" string (·.resultHash) fun p x => { p with resultHash := x },
      field "result_note" string (·.resultNote) fun p x => { p with resultNote := x },
      field "result_uri" string (·.resultURI) fun p x => { p with resultURI := x },
      field "evidence_body_hash" string (·.evidenceBodyHash) fun p x => { p with evidenceBodyHash := x }]

structure TaskApprovedPayload where
  version : UInt8 := 0
  taskID : String := ""
  approverID : String := ""

def TaskApprovedPayload.decoder : Decoder TaskApprovedPayload :=
  struct "TaskApprovedPayload" "event.TaskApprovedPayload" {}
    [field "v" uint8 (·.version) fun p x => { p with version := x },
      field "task_id" string (·.taskID) fun p x => { p with taskID := x },
      field "approver_id" string (·.approverID) fun p x => { p with approverID := x }]

structure TaskDisputedPayload where
  version : UInt8 := 0
  taskID : String := ""
  posterID : String := ""

def TaskDisputedPayload.decoder : Decoder TaskDisputedPayload :=
  struct "TaskDisputedPayload" "event.TaskDisputedPayload" {}
    [field "v" uint8 (·.version) fun p x => { p with version := x },
      field "task_id" string (·.taskID) fun p x => { p with taskID := x },
      field "poster_id" string (·.posterID) fun p x => { p with posterID := x }]

/-- A task event, decoded. -/
inductive TaskEvent where
  | posted (tp : TaskPostedPayload)
  | claimed (tp : TaskClaimedPayload)
  | submitted (tp : TaskSubmittedPayload)
  | approved (tp : TaskApprovedPayload)
  | disputed (tp : TaskDisputedPayload)

def TaskEvent.taskID : TaskEvent → String
  | posted tp => tp.taskID
  | claimed tp => tp.taskID
  | submitted tp => tp.taskID
  | approved tp => tp.taskID
  | disputed tp => tp.taskID

/-- The agent that the payload names as the one who acts. -/
def TaskEvent.actor : TaskEvent → String
  | posted tp => tp.posterID
  | claimed tp => tp.claimerID
  | submitted tp => tp.claimerID
  | approved tp => tp.approverID
  | disputed tp => tp.posterID

/-- The task event that an event carries. Events of other types and payloads that do not decode are left out. -/
def Event.taskEvent (ev : Event) : Option TaskEvent :=
  match ev.type with
  | .taskPosted => (getPayload "event.TaskPostedPayload" TaskPostedPayload.decoder ev).toOption.map .posted
  | .taskClaimed => (getPayload "event.TaskClaimedPayload" TaskClaimedPayload.decoder ev).toOption.map .claimed
  | .taskSubmitted => (getPayload "event.TaskSubmittedPayload" TaskSubmittedPayload.decoder ev).toOption.map .submitted
  | .taskApproved => (getPayload "event.TaskApprovedPayload" TaskApprovedPayload.decoder ev).toOption.map .approved
  | .taskDisputed => (getPayload "event.TaskDisputedPayload" TaskDisputedPayload.decoder ev).toOption.map .disputed
  | _ => none

end aethernet.event

namespace aethernet.tasks

open event

/-- The options of a posted task. -/
def postOpts (tp : TaskPostedPayload) : PostTaskOpts where
  taskID := tp.taskID
  deliveryMethod := tp.deliveryMethod
  successCriteria := tp.successCriteria
  assuranceLane := tp.assuranceLane
  maxDeliveryTimeSecs := tp.maxDeliveryTime

/-- The task that a posted task becomes, or the error of `PostTask`. -/
def newReplica (env : TaskEnv) (tp : TaskPostedPayload) : Except Error Task :=
  newTask env tp.posterID tp.title tp.description tp.category tp.budget (postOpts tp)

def Task.yieldsTo (task : Task) (eventID : EventID) : Bool :=
  match task.status with
  | .opened => true
  | .claimed => !(eventID = "" || task.claimEventID = "" || task.claimEventID ≤ eventID)
  | _ => false

/-- The task as a claim event leaves it. -/
def Task.claimedBy (env : TaskEnv) (tp : TaskClaimedPayload) (eventID : EventID) (task : Task) : Task :=
  { task with
    claimerID := tp.claimerID
    claimEventID := eventID
    status := .claimed
    claimedAt := env.now
    claimDeadline := env.now + env.claimDeadline }

/-- The task as a submission event leaves it. -/
def Task.submittedBy (env : TaskEnv) (tp : TaskSubmittedPayload) (eventID : EventID) (task : Task) : Task :=
  { task with
    resultHash := tp.resultHash
    resultNote := tp.resultNote
    resultURI := tp.resultURI
    submitEventID := eventID
    status := .submitted
    submittedAt := env.now
    evidenceBodyHash := tp.evidenceBodyHash
    evidenceReady := decide (tp.evidenceBodyHash = "") || task.evidenceReady }

def Task.approvedBy (env : TaskEnv) (task : Task) : Task := { task with status := .completed, completedAt := env.now }

def Task.disputedBy (env : TaskEnv) (task : Task) : Task := { task with status := .disputed, disputedAt := env.now }

/-- One of the writes that `fetchEvidenceBlob` makes, each under a lock of its own. -/
inductive EvidenceWrite where
  | evidence (ev : Json)
  | content (text : String) (encrypted : Bool)
  | ready

def EvidenceBlob.writes (blob : EvidenceBlob) : List EvidenceWrite :=
  blob.evidence.toList.map .evidence ++
    (if blob.resultContent = "" then [] else [.content blob.resultContent blob.encrypted]) ++ [.ready]

def TaskEnv.fetch (env : TaskEnv) (hash : String) : Option EvidenceBlob := do
  let fetcher ← env.evidenceBlobFetcher
  fetcher hash

namespace TaskManager

/-- `PostTask` for a posted task, with the ID of the event. -/
def postReplica (env : TaskEnv) (tp : TaskPostedPayload) (eventID : EventID) (m : TaskManager) : TaskManager :=
  match postTask env tp.posterID tp.title tp.description tp.category tp.budget (postOpts tp) m with
  | (.error _, m) => m
  | (.ok task, m) => if eventID = "" then m else m.setTask task.id { task with postEventID := eventID }

def applyTaskPosted (env : TaskEnv) (tp : TaskPostedPayload) (eventID : EventID) (m : TaskManager) : TaskManager :=
  if (m.byID.lookup tp.taskID).isSome then m else m.postReplica env tp eventID

def applyTaskClaimed (env : TaskEnv) (tp : TaskClaimedPayload) (eventID : EventID) : TaskManager → TaskManager :=
  updateTask tp.taskID fun task => if task.yieldsTo eventID then some (task.claimedBy env tp eventID) else none

/-- The part of `applyTaskSubmitted` that holds the lock. -/
def recordSubmission (env : TaskEnv) (tp : TaskSubmittedPayload) (eventID : EventID) : TaskManager → TaskManager :=
  updateTask tp.taskID fun task => if task.status ≠ .claimed then none else some (task.submittedBy env tp eventID)

/-- The submission is recorded, and its evidence has to be fetched. -/
def needsBlob (env : TaskEnv) (tp : TaskSubmittedPayload) (m : TaskManager) : Bool :=
  match m.byID.lookup tp.taskID with
  | none => false
  | some task =>
    task.status = .claimed && tp.evidenceBodyHash ≠ "" && env.evidenceBlobFetcher.isSome &&
      task.submittedEvidence.isNone

/-- A write of `fetchEvidenceBlob`. -/
def writeEvidence (taskID : String) (m : TaskManager) : EvidenceWrite → TaskManager
  | .evidence ev => m.setSubmittedEvidence taskID ev
  | .content text encrypted => (setResultContent taskID text encrypted m).2
  | .ready => m.markEvidenceReady taskID

def fetchEvidenceBlob (env : TaskEnv) (taskID hash : String) (m : TaskManager) : TaskManager :=
  match env.fetch hash with
  | none => m
  | some blob => blob.writes.foldl (writeEvidence taskID) m

def applyTaskSubmitted (env : TaskEnv) (tp : TaskSubmittedPayload) (eventID : EventID) (m : TaskManager) :
    TaskManager :=
  let recorded := m.recordSubmission env tp eventID
  if m.needsBlob env tp then recorded.fetchEvidenceBlob env tp.taskID tp.evidenceBodyHash else recorded

def applyTaskApproved (env : TaskEnv) (tp : TaskApprovedPayload) : TaskManager → TaskManager :=
  updateTask tp.taskID fun task => if task.status ≠ .submitted then none else some (task.approvedBy env)

def applyTaskDisputed (env : TaskEnv) (tp : TaskDisputedPayload) : TaskManager → TaskManager :=
  updateTask tp.taskID fun task => if task.status ≠ .submitted then none else some (task.disputedBy env)

def applyDAGEvent (env : TaskEnv) (ev : Event) (m : TaskManager) : TaskManager :=
  match ev.taskEvent with
  | none => m
  | some (.posted tp) => m.applyTaskPosted env tp ev.id
  | some (.claimed tp) => m.applyTaskClaimed env tp ev.id
  | some (.submitted tp) => m.applyTaskSubmitted env tp ev.id
  | some (.approved tp) => m.applyTaskApproved env tp
  | some (.disputed tp) => m.applyTaskDisputed env tp

end TaskManager

/-- A write of `fetchEvidenceBlob` on the task itself. -/
def Task.write (task : Task) : EvidenceWrite → Task
  | .evidence ev => { task with submittedEvidence := some ev }
  | .content text encrypted => { task with resultContent := text, resultEncrypted := encrypted }
  | .ready => { task with evidenceReady := true }

/-- The task with the evidence that its submission refers to. -/
def Task.withEvidence (env : TaskEnv) (hash : String) (task : Task) : Task :=
  if hash ≠ "" ∧ task.submittedEvidence = none then
    match env.fetch hash with
    | none => task
    | some blob => blob.writes.foldl write task
  else task

theorem Task.foldl_write_eq (ws : List EvidenceWrite) (task : Task) :
    ∃ submittedEvidence resultContent resultEncrypted evidenceReady, ws.foldl write task =
      { task with submittedEvidence, resultContent, resultEncrypted, evidenceReady } := by
  induction ws generalizing task with
  | nil => exact ⟨_, _, _, _, rfl⟩
  | cons w ws ih =>
    obtain ⟨_, _, _, _, hfold⟩ := ih (task.write w)
    rw [List.foldl_cons, hfold]
    cases w <;> exact ⟨_, _, _, _, rfl⟩

theorem Task.withEvidence_eq (env : TaskEnv) (hash : String) (task : Task) :
    ∃ submittedEvidence resultContent resultEncrypted evidenceReady, task.withEvidence env hash =
      { task with submittedEvidence, resultContent, resultEncrypted, evidenceReady } := by
  unfold withEvidence
  split_ifs
  · cases env.fetch hash with
    | none => exact ⟨_, _, _, _, rfl⟩
    | some blob => exact foldl_write_eq blob.writes task
  · exact ⟨_, _, _, _, rfl⟩

/-- What an event makes of the task it is about. -/
def Task.react (env : TaskEnv) (eventID : EventID) (task : Task) : TaskEvent → Task
  | .posted _ => task
  | .claimed tp => if task.yieldsTo eventID then task.claimedBy env tp eventID else task
  | .submitted tp =>
    if task.status ≠ .claimed then task else (task.submittedBy env tp eventID).withEvidence env tp.evidenceBodyHash
  | .approved _ => if task.status ≠ .submitted then task else task.approvedBy env
  | .disputed _ => if task.status ≠ .submitted then task else task.disputedBy env

namespace TaskManager

def introduce (env : TaskEnv) (eventID : EventID) (m : TaskManager) : TaskEvent → TaskManager
  | .posted tp => m.postReplica env tp eventID
  | _ => m

variable {m : TaskManager} {env : TaskEnv} {taskID : String}

variable {tp : TaskPostedPayload} {task : Task} (eventID : EventID)

theorem postReplica_of_ok (hnew : newReplica env tp = .ok task) :
    m.postReplica env tp eventID = m.setTask task.id { task with postEventID := eventID } := by
  obtain ⟨-, -, -, fees, -, rfl⟩ := newTask_eq_ok_iff.mp hnew
  unfold newReplica at hnew
  unfold postReplica postTask
  rw [hnew]
  split_ifs with heventID
  · subst heventID
    rfl
  · exact setTask_setTask _ _

theorem postReplica_of_error {err : Error} (hnew : newReplica env tp = .error err) :
    m.postReplica env tp eventID = m := by
  unfold newReplica at hnew
  unfold postReplica postTask
  rw [hnew]

theorem lookup_writeEvidence (w : EvidenceWrite) (k : String) :
    (m.writeEvidence taskID w).byID.lookup k =
      if k = taskID then (m.byID.lookup k).map (·.write w) else m.byID.lookup k := by
  cases w with
  | evidence ev => exact lookup_updateTask _ k
  | content text encrypted => exact (congrArg (fun m' => m'.byID.lookup k) (onTask_snd _)).trans (lookup_updateTask _ k)
  | ready =>
    refine (lookup_updateTask _ k).trans ?_
    congr 2
    funext task
    unfold write
    cases hready : task.evidenceReady with
    | true =>
      rw [if_pos rfl, Option.getD_none, ← hready]
    | false => rfl

theorem lookup_foldl_writeEvidence (ws : List EvidenceWrite) (k : String) :
    (ws.foldl (writeEvidence taskID) m).byID.lookup k =
      if k = taskID then (m.byID.lookup k).map (ws.foldl write) else m.byID.lookup k := by
  induction ws generalizing m with
  | nil => simp
  | cons w ws ih =>
    rw [List.foldl_cons, ih, lookup_writeEvidence]
    split_ifs
    · rw [Option.map_map]
      rfl
    · rfl

variable (f : Task → Option Task)

theorem updateTask_of_unknown (hunknown : m.byID.lookup taskID = none) : m.updateTask taskID f = m := by
  unfold updateTask
  rw [hunknown]

theorem lookup_updateTask_of_known (hknown : m.byID.lookup taskID = some task) (k : String) :
    (m.updateTask taskID f).byID.lookup k = if k = taskID then some ((f task).getD task) else m.byID.lookup k := by
  rw [lookup_updateTask]
  split_ifs with hk
  · subst hk
    rw [hknown, Option.map_some]
  · rfl

theorem lookup_fetchEvidenceBlob (hash : String) (k : String) :
    (m.fetchEvidenceBlob env taskID hash).byID.lookup k =
      if k = taskID then (m.byID.lookup k).map (fun task => match env.fetch hash with
        | none => task
        | some blob => blob.writes.foldl write task) else m.byID.lookup k := by
  unfold fetchEvidenceBlob
  cases env.fetch hash with
  | none => simp
  | some blob => exact lookup_foldl_writeEvidence blob.writes k

theorem lookup_applyTaskSubmitted {tp : TaskSubmittedPayload} (hknown : m.byID.lookup tp.taskID = some task)
    (k : String) : (m.applyTaskSubmitted env tp eventID).byID.lookup k =
      if k = tp.taskID then some (task.react env eventID (.submitted tp)) else m.byID.lookup k := by
  have hrecorded : (m.recordSubmission env tp eventID).byID.lookup k = _ := lookup_updateTask_of_known _ hknown k
  by_cases hclaimed : task.status = .claimed
  · rw [if_neg (not_not.mpr hclaimed), Option.getD_some] at hrecorded
    simp only [react, if_neg (not_not.mpr hclaimed), withEvidence]
    unfold applyTaskSubmitted
    cases hneeds : m.needsBlob env tp with
    | true =>
      have hwanted : tp.evidenceBodyHash ≠ "" ∧ (task.submittedBy env tp eventID).submittedEvidence = none := by
        simp only [needsBlob, hknown, Bool.and_eq_true, decide_eq_true_eq, Option.isNone_iff_eq_none] at hneeds
        exact ⟨hneeds.1.1.2, hneeds.2⟩
      simp only [if_true, lookup_fetchEvidenceBlob, hrecorded, if_pos hwanted]
      split_ifs <;> rfl
    | false =>
      simp only [Bool.false_eq_true, if_false, hrecorded]
      congr 2
      split_ifs with hwanted
      · -- a submission that refers to evidence it lacks is left as it is only if there is no fetcher
        have hfetcher : env.evidenceBlobFetcher = none := by
          simpa [needsBlob, hknown, hclaimed, hwanted.1, show task.submittedEvidence = none from hwanted.2] using hneeds
        rw [show env.fetch tp.evidenceBodyHash = none by simp [TaskEnv.fetch, hfetcher]]
      · rfl
  · rw [if_pos hclaimed, Option.getD_none] at hrecorded
    have hneeds : m.needsBlob env tp = false := by simp [needsBlob, hknown, hclaimed]
    simp only [react, if_pos hclaimed, applyTaskSubmitted, hneeds, Bool.false_eq_true, if_false]
    exact hrecorded

variable {ev : Event} {e : TaskEvent}

theorem lookup_applyDAGEvent (hev : ev.taskEvent = some e) (hknown : m.byID.lookup e.taskID = some task) (k : String) :
    (m.applyDAGEvent env ev).byID.lookup k =
      if k = e.taskID then some (task.react env ev.id e) else m.byID.lookup k := by
  unfold applyDAGEvent
  rw [hev]
  cases e with
  | posted tp =>
    have hexists : (m.byID.lookup tp.taskID).isSome := Option.isSome_of_eq_some hknown
    simp only [applyTaskPosted, hexists, if_true]
    split_ifs with hk
    · exact hk ▸ hknown
    · rfl
  | claimed tp | approved tp | disputed tp =>
    refine (lookup_updateTask_of_known _ hknown k).trans ?_
    simp [react, apply_ite (Option.getD · task)]
  | submitted tp => exact lookup_applyTaskSubmitted ev.id hknown k

theorem applyDAGEvent_of_unknown (hev : ev.taskEvent = some e) (hunknown : m.byID.lookup e.taskID = none) :
    m.applyDAGEvent env ev = m.introduce env ev.id e := by
  unfold applyDAGEvent
  rw [hev]
  cases e with
  | posted tp =>
    have habsent : m.byID.lookup tp.taskID = none := hunknown
    simp [applyTaskPosted, habsent, introduce]
  | claimed tp | approved tp | disputed tp => exact updateTask_of_unknown _ hunknown
  | submitted tp =>
    change m.applyTaskSubmitted env tp ev.id = m
    have hrecorded : m.recordSubmission env tp ev.id = m := updateTask_of_unknown _ hunknown
    unfold applyTaskSubmitted needsBlob
    rw [hrecorded, show m.byID.lookup tp.taskID = none from hunknown]
    rfl

end TaskManager

section Sample

def sampleTaskEvent (type : EventType) (id : EventID) (refs : List EventID) (members : List (String × Json)) : Event :=
  event.Event.signed
    { id, type, causalRefs := some refs, agentID := ""
      payload := .document (.obj (("task_id", .str "T") :: members)) }

def samplePost : Event :=
  sampleTaskEvent .taskPosted "p" [] [("poster_id", .str "poster"), ("title", .str "title"), ("budget", .num "5")]

def sampleClaim (id : EventID) (claimerID : String) : Event :=
  sampleTaskEvent .taskClaimed id ["p"] [("claimer_id", .str claimerID)]

def sampleSubmission (claimerID : String) (claim : EventID) : Event :=
  sampleTaskEvent .taskSubmitted "s" [claim] [("claimer_id", .str claimerID), ("evidence_body_hash", .str "b")]

def sampleApproval (approverID : String) : Event := sampleTaskEvent .taskApproved "a" ["s"]
    [("approver_id", .str approverID)]

def sampleDispute (posterID : String) : Event := sampleTaskEvent .taskDisputed "d" ["s"] [("poster_id", .str posterID)]

def sampleEnv : TaskEnv where
  sha256 _ := []
  evidenceBlobFetcher := some fun _ => some { resultContent := "late" }
  now := 1

end Sample

end aethernet.tasks
