import Aethernet.Tasks.DagEvents
import Aethernet.Transition.Invariant

open golang aethernet event transition tasks.TaskManager

namespace aethernet.tasks

/-- The status, claimer, budget and result of a task. -/
structure TaskRecord where
  status : TaskStatus
  claimerID : String
  budget : UInt64
  resultHash : String
  resultNote : String
  resultURI : String
  resultContent : String
  resultEncrypted : Bool
  deriving DecidableEq

def Task.record (task : Task) : TaskRecord where
  status := task.status
  claimerID := task.claimerID
  budget := task.budget
  resultHash := task.resultHash
  resultNote := task.resultNote
  resultURI := task.resultURI
  resultContent := task.resultContent
  resultEncrypted := task.resultEncrypted

namespace TaskManager

/-- The record under an ID, if the task is terminal. -/
def closed (taskID : String) (m : TaskManager) : Option TaskRecord :=
  (m.byID.lookup taskID).bind fun task => if task.status.isTerminal then some task.record else none

/-- Every terminal task of the first manager has the same record in the second. -/
def KeepsClosed (m m' : TaskManager) : Prop := ∀ taskID record, m.closed taskID = some record →
    m'.closed taskID = some record

theorem KeepsClosed.refl (m : TaskManager) : m.KeepsClosed m := fun _ _ h => h

theorem KeepsClosed.trans {m₁ m₂ m₃ : TaskManager} (h₁ : m₁.KeepsClosed m₂) (h₂ : m₂.KeepsClosed m₃) :
    m₁.KeepsClosed m₃ :=
  fun taskID record h => h₂ taskID record (h₁ taskID record h)

theorem keepsClosed_congr {m₁ m₂ m' : TaskManager} (hsame : ∀ taskID, m₁.closed taskID = m₂.closed taskID) :
    m₁.KeepsClosed m' ↔ m₂.KeepsClosed m' := by
  simp [KeepsClosed, hsame]

variable {m m' : TaskManager} {taskID : String} {task : Task}

theorem closed_eq_some_iff {record : TaskRecord} :
    m.closed taskID = some record ↔
      ∃ task, m.byID.lookup taskID = some task ∧ task.status.isTerminal ∧ task.record = record := by
  unfold closed
  simp [Option.bind_eq_some_iff]

theorem closed_eq_none_iff : m.closed taskID = none ↔ ∀ task, m.byID.lookup taskID = some task →
    ¬task.status.isTerminal := by
  unfold closed
  simp [Option.bind_eq_none_iff]

theorem keepsClosed_of_lookup_eq (hothers : ∀ k, k ≠ taskID → m'.byID.lookup k = m.byID.lookup k) :
    m.KeepsClosed m' ↔ ∀ record, m.closed taskID = some record → m'.closed taskID = some record := by
  refine ⟨fun h => h taskID, fun h k record hclosed => ?_⟩
  by_cases hk : k = taskID
  · subst hk
    exact h record hclosed
  · unfold closed at hclosed ⊢
    rw [hothers k hk]
    exact hclosed

theorem keepsClosed_updateTask_iff (f : Task → Option Task) :
    m.KeepsClosed (m.updateTask taskID f) ↔
      ∀ task, m.byID.lookup taskID = some task → task.status.isTerminal → ((f task).getD task).record =
      task.record := by
  rw [keepsClosed_of_lookup_eq fun k hk => (lookup_updateTask f k).trans (if_neg hk)]
  constructor
  · intro h task hlookup hterminal
    obtain ⟨task', hlookup', -, hrecord⟩ := closed_eq_some_iff.mp
      (h _ (closed_eq_some_iff.mpr ⟨task, hlookup, hterminal, rfl⟩))
    rw [lookup_updateTask, if_pos rfl, hlookup] at hlookup'
    rw [← hrecord, ← Option.some.inj hlookup']
  · intro h record hclosed
    obtain ⟨task, hlookup, hterminal, rfl⟩ := closed_eq_some_iff.mp hclosed
    have hrecord := h task hlookup hterminal
    refine closed_eq_some_iff.mpr ⟨(f task).getD task, ?_, ?_, hrecord⟩
    · rw [lookup_updateTask, if_pos rfl, hlookup, Option.map_some]
    · have hstatus : ((f task).getD task).status = task.status := congrArg TaskRecord.status hrecord
      rw [hstatus]
      exact hterminal

theorem keepsClosed_updateTask (f : Task → Option Task) (hrefuses : ∀ task, task.status.isTerminal → f task = none) :
    m.KeepsClosed (m.updateTask taskID f) := by
  rw [keepsClosed_updateTask_iff]
  intro task _ hterminal
  rw [hrefuses task hterminal, Option.getD_none]

theorem keepsClosed_onTask {A : Type} (f : Task → Except Error (A × Task))
    (hrefuses : ∀ task, task.status.isTerminal → ∃ err, f task = .error err) : m.KeepsClosed (onTask taskID f m).2 := by
  rw [onTask_snd]
  refine keepsClosed_updateTask _ fun task hterminal => ?_
  obtain ⟨err, herr⟩ := hrefuses task hterminal
  rw [herr]
  rfl

theorem keepsClosed_of_guard {A : Type} {required : TaskStatus} (err : Task → Error)
    (f : Task → Except Error (A × Task)) (hrequired : ¬required.isTerminal) :
    m.KeepsClosed (onTask taskID (fun task => if task.status ≠ required then .error (err task) else f task) m).2 := by
  refine keepsClosed_onTask _ fun task hterminal => ⟨err task, if_pos ?_⟩
  rintro rfl
  exact hrequired hterminal

theorem keepsClosed_setTask (hclosed : m.closed taskID = none) : m.KeepsClosed (m.setTask taskID task) := by
  rw [keepsClosed_of_lookup_eq fun k hk => (lookup_setTask k task).trans (if_neg hk), hclosed]
  exact fun _ h => nomatch h

theorem keepsClosed_setTask_iff (hstatus : ¬task.status.isTerminal) :
    m.KeepsClosed (m.setTask taskID task) ↔ m.closed taskID = none := by
  refine ⟨fun h => ?_, keepsClosed_setTask⟩
  have hopen : (m.setTask taskID task).closed taskID = none := by
    rw [closed_eq_none_iff]
    intro task' hlookup
    rw [lookup_setTask, if_pos rfl] at hlookup
    rwa [← Option.some.inj hlookup]
  cases hclosed : m.closed taskID with
  | none => rfl
  | some record => exact (h taskID record hclosed).symm.trans hopen

theorem closed_setTask_of_open {old : Task} (hlookup : m.byID.lookup taskID = some old) (hold : ¬old.status.isTerminal)
    (hnew : ¬task.status.isTerminal) (k : String) : (m.setTask taskID task).closed k = m.closed k := by
  unfold closed
  rw [lookup_setTask]
  split_ifs with hk
  · subst hk
    rw [hlookup, Option.bind_some, Option.bind_some, if_neg hold, if_neg hnew]
  · rfl

theorem lookup_of_subtaskParent {parentTaskID claimerID title : String} {budget : UInt64} {parent : Task}
    (h : m.subtaskParent parentTaskID claimerID title budget = .ok parent) :
    m.byID.lookup parentTaskID = some parent ∧ parent.status = .claimed := by
  unfold subtaskParent at h
  cases hlookup : m.byID.lookup parentTaskID with
  | none => grind
  | some task => grind

end TaskManager

namespace Operation

open TaskManager

/-- No terminal task has the ID of a task that the operation creates. -/
def Spares (env : TaskEnv) (m : TaskManager) : Operation → Prop
  | postTask posterID title description category budget o =>
    ∀ task, newTask env posterID title description category budget o = .ok task → m.closed task.id = none
  | createSubtask parentTaskID claimerID title _ _ budget =>
    ∀ parent, m.subtaskParent parentTaskID claimerID title budget = .ok parent →
      m.closed (m.generateID env parentTaskID) = none
  | _ => True

variable {m : TaskManager} {env : TaskEnv} {budget : UInt64}

theorem keepsClosed_postTask_iff {posterID title description category : String} {o : PostTaskOpts} :
    m.KeepsClosed (TaskManager.postTask env posterID title description category budget o m).2 ↔
      ∀ task, newTask env posterID title description category budget o = .ok task → m.closed task.id = none := by
  unfold TaskManager.postTask
  cases hnew : newTask env posterID title description category budget o with
  | error err => simp [KeepsClosed.refl]
  | ok task =>
    obtain ⟨-, -, -, fees, -, rfl⟩ := newTask_eq_ok_iff.mp hnew
    simp only [Except.ok.injEq, forall_eq']
    exact keepsClosed_setTask_iff Bool.false_ne_true

theorem keepsClosed_createSubtask_iff {parentTaskID claimerID title description category : String} :
    m.KeepsClosed (TaskManager.createSubtask env parentTaskID claimerID title description category budget m).2 ↔
      ∀ parent, m.subtaskParent parentTaskID claimerID title budget = .ok parent →
        m.closed (m.generateID env parentTaskID) = none := by
  unfold TaskManager.createSubtask
  cases hparent : m.subtaskParent parentTaskID claimerID title budget with
  | error err => simp [KeepsClosed.refl]
  | ok parent =>
    obtain ⟨hlookup, hclaimed⟩ := lookup_of_subtaskParent hparent
    have hopen : ¬parent.status.isTerminal := by
      rw [hclaimed]
      decide
    simp only [Except.ok.injEq, forall_eq']
    -- the parent is claimed before and after, so only the new task matters
    have hsame : ∀ k, (m.setTask parentTaskID { parent with
        budget := parent.budget - budget
        subtaskIDs := parent.subtaskIDs ++ [m.generateID env parentTaskID] }).closed k = m.closed k :=
      closed_setTask_of_open hlookup hopen hopen
    refine (keepsClosed_congr fun k => (hsame k).symm).trans ?_
    refine Iff.trans (keepsClosed_setTask_iff ?_) ?_
    · exact Bool.false_ne_true
    · rw [hsame]

theorem keepsClosed_applyVerificationConsensusResolution (taskID verdict : String) :
    m.KeepsClosed (TaskManager.applyVerificationConsensusResolution env.now taskID verdict m).2 := by
  unfold TaskManager.applyVerificationConsensusResolution
  cases hlookup : m.byID.lookup taskID with
  | none => exact KeepsClosed.refl m
  | some task =>
    dsimp only
    split_ifs with hterminal
    · exact KeepsClosed.refl m
    all_goals
      have hclosed : m.closed taskID = none := by
        rw [closed_eq_none_iff, hlookup]
        rintro _ ⟨⟩
        exact hterminal
      first
        | exact keepsClosed_setTask hclosed
        | exact KeepsClosed.refl m

theorem keepsClosed_perform_iff (op : Operation) : m.KeepsClosed (op.perform env m) ↔ op.Spares env m := by
  cases op with
  | postTask posterID title description category budget o => exact keepsClosed_postTask_iff
  | createSubtask parentTaskID claimerID title description category budget => exact keepsClosed_createSubtask_iff
  | claimTask taskID claimerID =>
    refine iff_of_true (keepsClosed_onTask _ fun task hterminal => ?_) trivial
    cases hstatus : task.status with
    | opened => simp [hstatus, TaskStatus.isTerminal] at hterminal
    | _ => exact ⟨_, rfl⟩
  | submitResult taskID claimerID resultHash resultNote resultURI ev =>
    exact iff_of_true (keepsClosed_of_guard _ _ (by decide)) trivial
  | approveTask taskID | disputeTask taskID posterID | resolveDispute taskID approve | cancelTask taskID posterID
  | releaseTask taskID | rejectSubmission taskID => exact iff_of_true (keepsClosed_of_guard _ _ (by decide)) trivial
  | applyVerificationConsensusResolution taskID verdict =>
    exact iff_of_true (keepsClosed_applyVerificationConsensusResolution taskID verdict) trivial

end Operation

/-- What a call of `ApplyDAGEvent` still has to do after it has given up the lock. -/
inductive Pending where
  | post (tp : TaskPostedPayload) (eventID : EventID)
  | fetch (taskID hash : String)
  | store (taskID : String) (ws : List EvidenceWrite)

namespace Pending

/-- What the call does the next time it has the lock. -/
def resume (env : TaskEnv) (m : TaskManager) : Pending → TaskManager × Option Pending
  | post tp eventID => (m.postReplica env tp eventID, none)
  | fetch taskID hash => (m, (env.fetch hash).map fun blob => store taskID blob.writes)
  | store _ [] => (m, none)
  | store taskID (w :: ws) => (m.writeEvidence taskID w, some (store taskID ws))

/-- All that the call still does, if nothing comes in between. -/
def finish (env : TaskEnv) (m : TaskManager) : Pending → TaskManager
  | post tp eventID => m.postReplica env tp eventID
  | fetch taskID hash => m.fetchEvidenceBlob env taskID hash
  | store taskID ws => ws.foldl (writeEvidence taskID) m

/-- No terminal task has the ID under which the call creates its task, or has another result than the one it stores. -/
def Spares (env : TaskEnv) (m : TaskManager) : Pending → Prop
  | post tp _ => ∀ task, newReplica env tp = .ok task → m.closed task.id = none
  | store taskID (.content text encrypted :: _) =>
    ∀ record, m.closed taskID = some record → record.resultContent = text ∧ record.resultEncrypted = encrypted
  | _ => True

end Pending

/-- A call of `ApplyDAGEvent` up to the point where it gives up the lock. -/
def TaskManager.beginEvent (env : TaskEnv) (ev : Event) (m : TaskManager) : TaskManager × Option Pending :=
  match ev.taskEvent with
  | none => (m, none)
  | some (.posted tp) => (m, if (m.byID.lookup tp.taskID).isSome then none else some (.post tp ev.id))
  | some (.claimed tp) => (m.applyTaskClaimed env tp ev.id, none)
  | some (.submitted tp) =>
    (m.recordSubmission env tp ev.id, if m.needsBlob env tp then some (.fetch tp.taskID tp.evidenceBodyHash) else none)
  | some (.approved tp) => (m.applyTaskApproved env tp, none)
  | some (.disputed tp) => (m.applyTaskDisputed env tp, none)

variable (env : TaskEnv)

theorem TaskManager.applyDAGEvent_eq_finish (ev : Event) (m : TaskManager) :
    m.applyDAGEvent env ev = (m.beginEvent env ev).2.elim (m.beginEvent env ev).1
    (·.finish env (m.beginEvent env ev).1) := by
  unfold applyDAGEvent beginEvent
  cases ev.taskEvent with
  | none => rfl
  | some e => cases e with
    | posted tp =>
      dsimp only [applyTaskPosted]
      split_ifs <;> rfl
    | submitted tp =>
      dsimp only [applyTaskSubmitted]
      split_ifs <;> rfl
    | claimed tp => rfl
    | approved tp => rfl
    | disputed tp => rfl

/-- The manager, and the calls of `ApplyDAGEvent` that are under way. -/
structure Shared where
  manager : TaskManager
  calls : ℕ → Option Pending

/-- What can happen next: an operation, an event, or the rest of a call. Each comes with the manager's set-up and the
    time. -/
inductive Occurrence where
  | operation (env : TaskEnv) (op : Operation)
  | deliver (env : TaskEnv) (i : ℕ) (ev : Event)
  | resume (env : TaskEnv) (i : ℕ)

variable {s : Shared} {i : ℕ} {call : Pending}

namespace Shared

def step (s : Shared) : Occurrence → Shared
  | .operation env op => { s with manager := op.perform env s.manager }
  | .deliver env i ev => match s.calls i with
    | some _ => s
    | none =>
      let r := s.manager.beginEvent env ev
      { manager := r.1, calls := Function.update s.calls i r.2 }
  | .resume env i => match s.calls i with
    | none => s
    | some call =>
      let r := call.resume env s.manager
      { manager := r.1, calls := Function.update s.calls i r.2 }

def Spares (s : Shared) : Occurrence → Prop
  | .operation env op => op.Spares env s.manager
  | .deliver _ _ _ => True
  | .resume env i => match s.calls i with
    | none => True
    | some call => call.Spares env s.manager

theorem step_deliver (ev : Event) (hfree : s.calls i = none) : s.step (.deliver env i ev) =
      { manager := (s.manager.beginEvent env ev).1
        calls := Function.update s.calls i (s.manager.beginEvent env ev).2 } := by
  simp [step, hfree]

theorem step_resume (hcall : s.calls i = some call) : s.step (.resume env i) =
    { manager := (call.resume env s.manager).1
      calls := Function.update s.calls i (call.resume env s.manager).2 } := by
  simp [step, hcall]

theorem exists_foldl_store {taskID : String} {ws : List EvidenceWrite}
    (hcall : s.calls i = some (.store taskID ws)) : ∃ n, (List.replicate n (.resume env i)).foldl step s =
      { manager := ws.foldl (writeEvidence taskID) s.manager, calls := Function.update s.calls i none } := by
  induction ws generalizing s with
  | nil => exact ⟨1, step_resume env hcall⟩
  | cons w ws ih =>
    obtain ⟨n, hn⟩ := ih (s := s.step (.resume env i)) (by rw [step_resume env hcall]; exact Function.update_self i _ _)
    refine ⟨n + 1, ?_⟩
    rw [List.replicate_succ, List.foldl_cons, hn, step_resume env hcall]
    exact congrArg (Shared.mk _) (Function.update_idem _ _ _)

theorem exists_foldl_resume (hcall : s.calls i = some call) : ∃ n, (List.replicate n (.resume env i)).foldl step s =
      { manager := call.finish env s.manager, calls := Function.update s.calls i none } := by
  cases call with
  | post tp eventID => exact ⟨1, step_resume env hcall⟩
  | store taskID ws => exact exists_foldl_store env hcall
  | fetch taskID hash =>
    have hstep := step_resume env hcall
    simp only [Pending.finish, fetchEvidenceBlob]
    cases hfetch : env.fetch hash with
    | none =>
      simp only [Pending.resume, hfetch, Option.map_none] at hstep
      exact ⟨1, hstep⟩
    | some blob =>
      simp only [Pending.resume, hfetch, Option.map_some] at hstep
      obtain ⟨n, hn⟩ := exists_foldl_store (s := s.step (.resume env i)) env
        (by rw [hstep]; exact Function.update_self i _ _)
      refine ⟨n + 1, ?_⟩
      rw [List.replicate_succ, List.foldl_cons, hn, hstep]
      exact congrArg (Shared.mk _) (Function.update_idem _ _ _)

/-- A call that nothing interrupts is `ApplyDAGEvent`. -/
theorem exists_foldl_deliver (ev : Event) (hfree : s.calls i = none) :
    ∃ n, (.deliver env i ev :: List.replicate n (.resume env i)).foldl step s =
      { s with manager := s.manager.applyDAGEvent env ev } := by
  have hstep := step_deliver env ev hfree
  have hcalls : Function.update s.calls i none = s.calls := by
    rw [← hfree]
    exact Function.update_eq_self i s.calls
  rw [applyDAGEvent_eq_finish]
  cases hcall : (s.manager.beginEvent env ev).2 with
  | none =>
    rw [hcall, hcalls] at hstep
    exact ⟨0, hstep⟩
  | some call =>
    rw [hcall] at hstep
    obtain ⟨n, hn⟩ := exists_foldl_resume (s := s.step (.deliver env i ev)) env
      (by rw [hstep]; exact Function.update_self i _ _)
    refine ⟨n, ?_⟩
    rw [List.foldl_cons, hn, hstep]
    exact congrArg (Shared.mk _) ((Function.update_idem _ _ _).trans hcalls)

end Shared

namespace TaskManager

variable {m : TaskManager} {env : TaskEnv}

theorem keepsClosed_beginEvent (ev : Event) : m.KeepsClosed (m.beginEvent env ev).1 := by
  unfold beginEvent
  cases ev.taskEvent with
  | none => exact KeepsClosed.refl m
  | some e => cases e with
    | posted tp => exact KeepsClosed.refl m
    | claimed tp =>
      refine keepsClosed_updateTask _ fun task hterminal => if_neg ?_
      unfold Task.yieldsTo
      cases hstatus : task.status <;> simp_all [TaskStatus.isTerminal]
    | submitted tp | approved tp | disputed tp =>
      refine keepsClosed_updateTask _ fun task hterminal => if_pos ?_
      rintro hstatus
      simp [hstatus, TaskStatus.isTerminal] at hterminal

theorem keepsClosed_postReplica_iff (tp : TaskPostedPayload) (eventID : EventID) :
    m.KeepsClosed (m.postReplica env tp eventID) ↔
      ∀ task, newReplica env tp = .ok task → m.closed task.id = none := by
  cases hnew : newReplica env tp with
  | error err =>
    rw [postReplica_of_error eventID hnew]
    simp [KeepsClosed.refl]
  | ok task =>
    rw [postReplica_of_ok eventID hnew]
    obtain ⟨-, -, -, fees, -, rfl⟩ := newTask_eq_ok_iff.mp hnew
    simp only [Except.ok.injEq, forall_eq']
    exact keepsClosed_setTask_iff Bool.false_ne_true

theorem keepsClosed_setResultContent_iff (taskID text : String) (encrypted : Bool) :
    m.KeepsClosed (setResultContent taskID text encrypted m).2 ↔
      ∀ record, m.closed taskID = some record → record.resultContent = text ∧ record.resultEncrypted = encrypted := by
  unfold setResultContent
  rw [onTask_snd, keepsClosed_updateTask_iff]
  constructor
  · rintro h record hclosed
    obtain ⟨task, hlookup, hterminal, rfl⟩ := closed_eq_some_iff.mp hclosed
    have hrecord := h task hlookup hterminal
    exact ⟨(congrArg TaskRecord.resultContent hrecord).symm, (congrArg TaskRecord.resultEncrypted hrecord).symm⟩
  · intro h task hlookup hterminal
    obtain ⟨rfl, rfl⟩ := h _ (closed_eq_some_iff.mpr ⟨task, hlookup, hterminal, rfl⟩)
    rfl

theorem keepsClosed_resume_iff (call : Pending) : m.KeepsClosed (call.resume env m).1 ↔ call.Spares env m := by
  cases call with
  | post tp eventID => exact keepsClosed_postReplica_iff tp eventID
  | fetch taskID hash => exact iff_of_true (KeepsClosed.refl m) trivial
  | store taskID ws => cases ws with
    | nil => exact iff_of_true (KeepsClosed.refl m) trivial
    | cons w ws => cases w with
      | evidence ev => exact iff_of_true ((keepsClosed_updateTask_iff _).mpr fun task _ _ => rfl) trivial
      | content text encrypted => exact keepsClosed_setResultContent_iff taskID text encrypted
      | ready =>
        refine iff_of_true ((keepsClosed_updateTask_iff _).mpr fun task _ _ => ?_) trivial
        split_ifs <;> rfl

end TaskManager

namespace Shared

theorem keepsClosed_step_iff (s : Shared) (o : Occurrence) :
    s.manager.KeepsClosed (s.step o).manager ↔ s.Spares o := by
  cases o with
  | operation env op => exact Operation.keepsClosed_perform_iff op
  | deliver env i ev =>
    refine iff_of_true ?_ trivial
    cases hcall : s.calls i with
    | some call =>
      simp only [step, hcall]
      exact KeepsClosed.refl s.manager
    | none =>
      rw [step_deliver env ev hcall]
      exact keepsClosed_beginEvent ev
  | resume env i =>
    cases hcall : s.calls i with
    | none =>
      simp only [step, Spares, hcall, iff_true]
      exact KeepsClosed.refl s.manager
    | some call =>
      rw [step_resume env hcall]
      simp only [Spares, hcall]
      exact keepsClosed_resume_iff call

/-- A terminal task keeps its status, claimer, budget and result from any moment of a run to any later one exactly if no
    write of the run creates a task under the ID of a terminal one or gives one another result. -/
theorem terminal_along_iff (s : Shared) (run : List Occurrence) :
    (∀ before between after, run = before ++ between ++ after →
        (before.foldl step s).manager.KeepsClosed ((before ++ between).foldl step s).manager) ↔
      MeetsAlong step Spares s run := by
  refine Iff.trans (forall_moments_iff (R := fun s s' : Shared => s.manager.KeepsClosed s'.manager) ?_ ?_) ?_
  · exact fun s => KeepsClosed.refl s.manager
  · exact fun _ _ _ => KeepsClosed.trans
  · exact meetsAlong_congr fun s o _ => keepsClosed_step_iff s o

section Sample

/-- A manager without tasks, and no call under way. -/
def idle : Shared where
  manager := { byID := ∅ }
  calls _ := none

def postedAs (posterID : String) : Occurrence :=
  .operation sampleEnv (.postTask posterID "title" "" "" 5 { taskID := "T" })

def claimedRun : List Occurrence := [postedAs "poster", .operation sampleEnv (.claimTask "T" "worker")]

/-- The submission for a claimed task, while another call is under way: its evidence is fetched and stored. -/
theorem exists_foldl_deliver_claimed :
    let claimed :=
      { claimedRun.foldl step idle with calls := Function.update (fun _ => none) 1 (some (.fetch "U" "b")) }
    let applied := claimed.manager.applyDAGEvent sampleEnv (sampleSubmission "worker" "c")
    (∃ n, (.deliver sampleEnv 0 (sampleSubmission "worker" "c") :: List.replicate n (.resume sampleEnv 0)).foldl step
        claimed = { claimed with manager := applied }) ∧
      (claimed.manager.byID.lookup "T").map (fun task => (task.status, task.resultContent)) = some (.claimed, "") ∧
      (applied.byID.lookup "T").map (fun task => (task.status, task.resultContent)) = some (.submitted, "late") :=
  ⟨exists_foldl_deliver sampleEnv _ rfl, by decide +kernel, by decide +kernel⟩

/-- A task is posted, claimed, submitted and approved. -/
def completedRun : List Occurrence :=
  claimedRun ++
    [.operation sampleEnv (.submitResult "T" "worker" "hash" "" "" none), .operation sampleEnv (.approveTask "T")]

/-- The submission arrives as an event, and is approved before the call has fetched the evidence. -/
def overtakenRun : List Occurrence :=
  claimedRun ++ [.deliver sampleEnv 0 (sampleSubmission "worker" "c"), .operation sampleEnv (.approveTask "T")]

end Sample

/-- A completed task is open again after a post under its ID, and the result of a completed task changes when the call
    that recorded the submission gets to store the evidence. -/
theorem task_reopened_and_result_replaced :
    let completed := completedRun.foldl step idle
    let reopened := completed.step (postedAs "other")
    let overtaken := overtakenRun.foldl step idle
    let stored := (List.replicate 2 (Occurrence.resume sampleEnv 0)).foldl step overtaken
    ((completed.manager.closed "T").map (·.status) = some .completed ∧
        (reopened.manager.byID.lookup "T").map (·.status) = some .opened ∧
        ¬ completed.manager.KeepsClosed reopened.manager) ∧
      (crypto.verifyEvent sampleCrypto (sampleSubmission "worker" "c") = true ∧
        (overtaken.manager.closed "T").map (·.resultContent) = some "" ∧
        (stored.manager.closed "T").map (·.resultContent) = some "late" ∧
        ¬ overtaken.manager.KeepsClosed stored.manager) := by
  refine ⟨⟨by decide +kernel, by decide +kernel, fun hkept =>
    ?_⟩, by decide +kernel, by decide +kernel, by decide +kernel,
    fun hkept => ?_⟩
  · have hclosed := hkept "T" _ (Option.some_get (by decide +kernel)).symm
    exact absurd hclosed (by decide +kernel)
  · have hclosed := hkept "T" _ (Option.some_get (by decide +kernel)).symm
    exact absurd hclosed (by decide +kernel)

end Shared

end aethernet.tasks
