import Aethernet.Tasks.DagEvents
import Aethernet.Transition.Invariant

open golang aethernet.event transition

namespace aethernet.tasks

/-- If the event takes effect on the task, then the agent is the one the rules ask for. -/
def Task.Permits (agent : String) (eventID : EventID) (task : Task) : TaskEvent → Prop
  | .posted _ => True
  | .claimed tp => task.yieldsTo eventID → tp.claimerID ≠ task.posterID
  | .submitted _ => task.status = .claimed → agent = task.claimerID
  | .approved _ => task.status = .submitted → agent = task.posterID
  | .disputed _ => task.status = .submitted → agent = task.posterID

instance (agent : String) (eventID : EventID) (task : Task) : (e : TaskEvent) → Decidable (task.Permits agent eventID e)
  | .posted _ => inferInstanceAs (Decidable True)
  | .claimed tp => inferInstanceAs (Decidable (task.yieldsTo eventID → tp.claimerID ≠ task.posterID))
  | .submitted _ => inferInstanceAs (Decidable (task.status = .claimed → agent = task.claimerID))
  | .approved _ => inferInstanceAs (Decidable (task.status = .submitted → agent = task.posterID))
  | .disputed _ => inferInstanceAs (Decidable (task.status = .submitted → agent = task.posterID))

namespace TaskManager

/-- No task is claimed by its poster. -/
def ClaimersDiffer (m : TaskManager) : Prop :=
  ∀ taskID task, m.byID.lookup taskID = some task → task.claimerID ≠ task.posterID

/-- The manager after an event that arrives at a node with this set-up, at this time. -/
def deliver (m : TaskManager) (d : TaskEnv × Event) : TaskManager := m.applyDAGEvent d.1 d.2

/-- What the API allows to change from one manager to the next by an event: the claimer is not the poster, a submission
    is the claimer's, and an approval or dispute is the poster's. -/
structure ObeysRules (issuer : Event → String) (ev : Event) (m m' : TaskManager) : Prop where
  claimersDiffer : m'.ClaimersDiffer
  submission : ∀ taskID task task', m.byID.lookup taskID = some task → m'.byID.lookup taskID = some task' →
    task.status = .claimed → task'.status = .submitted → issuer ev = task.claimerID
  decision : ∀ taskID task task', m.byID.lookup taskID = some task → m'.byID.lookup taskID = some task' →
    task.status = .submitted → task'.status = .completed ∨ task'.status = .disputed → issuer ev = task.posterID

/-- The agent behind the event is the one the rules ask for in this state. -/
def Permits (issuer : Event → String) (m : TaskManager) (ev : Event) : Prop :=
  ∀ e task, ev.taskEvent = some e → m.byID.lookup e.taskID = some task → task.Permits (issuer ev) ev.id e

instance (issuer : Event → String) (m : TaskManager) (ev : Event) : Decidable (m.Permits issuer ev) :=
  decidable_of_iff (∀ e ∈ ev.taskEvent, ∀ task ∈ m.byID.lookup e.taskID, task.Permits (issuer ev) ev.id e)
    ⟨fun h e task he hlookup => h e he task hlookup, fun h e he task hlookup => h e task he hlookup⟩

end TaskManager

/-- The task without what only replication records, and without the evidence that nodes fetch on their own. -/
def Task.shown (task : Task) : Task :=
  { task with
    postEventID := ""
    claimEventID := ""
    submitEventID := ""
    evidenceBodyHash := ""
    evidenceReady := false
    submittedEvidence := none
    resultContent := ""
    resultEncrypted := false }

theorem Task.shown_withEvidence (env : TaskEnv) (hash : String) (task : Task) :
    (task.withEvidence env hash).shown = task.shown := by
  obtain ⟨_, _, _, _, heq⟩ := task.withEvidence_eq env hash
  rw [heq]
  rfl

theorem Task.eq_of_shown_eq {task task' : Task} (h : task.shown = task'.shown) :
    task.status = task'.status ∧ task.claimerID = task'.claimerID ∧ task.posterID = task'.posterID := by
  have hstatus := congrArg Task.status h
  have hclaimer := congrArg Task.claimerID h
  have hposter := congrArg Task.posterID h
  exact ⟨hstatus, hclaimer, hposter⟩

namespace TaskManager

variable {m m' : TaskManager} {issuer : Event → String} {ev : Event} {env : TaskEnv}

theorem ObeysRules.of_eq (h : m.ClaimersDiffer) : ObeysRules issuer ev m m where
  claimersDiffer := h
  submission taskID task task' hlookup hlookup' hclaimed hsubmitted := by
    rw [← Option.some.inj (hlookup.symm.trans hlookup'), hclaimed] at hsubmitted
    cases hsubmitted
  decision taskID task task' hlookup hlookup' hsubmitted hdecided := by
    rw [← Option.some.inj (hlookup.symm.trans hlookup'), hsubmitted] at hdecided
    rcases hdecided with h | h <;> cases h

theorem obeysRules_iff_of_update {taskID : String} {task task' : Task} (h : m.ClaimersDiffer)
    (hknown : m.byID.lookup taskID = some task)
    (hupdate : ∀ k, m'.byID.lookup k = if k = taskID then some task' else m.byID.lookup k) :
    ObeysRules issuer ev m m' ↔
      task'.claimerID ≠ task'.posterID ∧
      (task.status = .claimed → task'.status = .submitted → issuer ev = task.claimerID) ∧
      (task.status = .submitted → task'.status = .completed ∨ task'.status = .disputed →
        issuer ev = task.posterID) := by
  have hself : m'.byID.lookup taskID = some task' := (hupdate taskID).trans (if_pos rfl)
  have hothers : ∀ k, k ≠ taskID → m'.byID.lookup k = m.byID.lookup k := fun k hk => (hupdate k).trans (if_neg hk)
  have hsame : ObeysRules issuer ev m m := ObeysRules.of_eq h
  constructor
  · intro hrules
    exact ⟨hrules.claimersDiffer taskID task' hself, hrules.submission taskID task task' hknown hself,
      hrules.decision taskID task task' hknown hself⟩
  · rintro ⟨hclaimer, hsubmission, hdecision⟩
    refine ⟨fun k t' hlookup' => ?_, fun k t t' hlookup hlookup' => ?_, fun k t t' hlookup hlookup' => ?_⟩
    all_goals by_cases hk : k = taskID
    · subst hk
      obtain rfl := Option.some.inj (hself.symm.trans hlookup')
      exact hclaimer
    · exact h k t' ((hothers k hk).symm.trans hlookup')
    · subst hk
      obtain rfl := Option.some.inj (hknown.symm.trans hlookup)
      obtain rfl := Option.some.inj (hself.symm.trans hlookup')
      exact hsubmission
    · exact hsame.submission k t t' hlookup ((hothers k hk).symm.trans hlookup')
    · subst hk
      obtain rfl := Option.some.inj (hknown.symm.trans hlookup)
      obtain rfl := Option.some.inj (hself.symm.trans hlookup')
      exact hdecision
    · exact hsame.decision k t t' hlookup ((hothers k hk).symm.trans hlookup')

theorem obeysRules_setTask {taskID : String} {task : Task} (h : m.ClaimersDiffer)
    (hclaimer : task.claimerID ≠ task.posterID)
    (hopen : task.status = .opened) : ObeysRules issuer ev m (m.setTask taskID task) := by
  have hupdate : ∀ k, (m.setTask taskID task).byID.lookup k = if k = taskID then some task else m.byID.lookup k :=
    fun k => lookup_setTask k task
  cases hknown : m.byID.lookup taskID with
  | some old =>
    rw [obeysRules_iff_of_update h hknown hupdate, hopen]
    exact ⟨hclaimer, fun _ => nofun, fun _ h => by rcases h with h | h <;> cases h⟩
  | none =>
    have hsame : ObeysRules issuer ev m m := ObeysRules.of_eq h
    have hother : ∀ {k t t'}, m.byID.lookup k = some t → (m.setTask taskID task).byID.lookup k = some t' →
        m.byID.lookup k = some t' := by
      intro k t t' hlookup hlookup'
      rw [hupdate] at hlookup'
      split_ifs at hlookup' with hk
      · rw [hk, hknown] at hlookup
        cases hlookup
      · exact hlookup'
    refine ⟨fun k t' hlookup' => ?_, fun k t t' hlookup hlookup' => ?_, fun k t t' hlookup hlookup' => ?_⟩
    · rw [hupdate] at hlookup'
      split_ifs at hlookup' with hk
      · obtain rfl := Option.some.inj hlookup'
        exact hclaimer
      · exact h k t' hlookup'
    · exact hsame.submission k t t' hlookup (hother hlookup hlookup')
    · exact hsame.decision k t t' hlookup (hother hlookup hlookup')

theorem obeysRules_introduce (e : TaskEvent) (h : m.ClaimersDiffer) :
    ObeysRules issuer ev m (m.introduce env ev.id e) := by
  cases e with
  | posted tp =>
    simp only [introduce]
    cases hnew : newReplica env tp with
    | error err =>
      rw [postReplica_of_error ev.id hnew]
      exact ObeysRules.of_eq h
    | ok task =>
      rw [postReplica_of_ok ev.id hnew]
      obtain ⟨-, -, hposter, fees, -, rfl⟩ := newTask_eq_ok_iff.mp hnew
      exact obeysRules_setTask h (Ne.symm hposter) rfl
  | claimed tp | submitted tp | approved tp | disputed tp => exact ObeysRules.of_eq h

theorem rules_react_iff {task : Task} (agent : String) (eventID : EventID) (e : TaskEvent)
    (hdiffer : task.claimerID ≠ task.posterID) :
    ((task.react env eventID e).claimerID ≠ (task.react env eventID e).posterID ∧
      (task.status = .claimed → (task.react env eventID e).status = .submitted → agent = task.claimerID) ∧
      (task.status = .submitted → (task.react env eventID e).status = .completed ∨
        (task.react env eventID e).status = .disputed →
        agent = task.posterID)) ↔ task.Permits agent eventID e := by
  cases e with
  | posted tp => simp_all [Task.react, Task.Permits]
  | claimed tp =>
    simp only [Task.react, Task.Permits]
    cases hyields : task.yieldsTo eventID with
    | false => simp_all
    | true => simp [Task.claimedBy]
  | submitted tp =>
    simp only [Task.react, Task.Permits]
    by_cases hclaimed : task.status = .claimed
    · obtain ⟨hstatus, hclaimer, hposter⟩ :=
        Task.eq_of_shown_eq (Task.shown_withEvidence env tp.evidenceBodyHash (task.submittedBy env tp eventID))
      simp only [hclaimed, ne_eq, not_true_eq_false, if_false, hstatus, hclaimer, hposter]
      simpa [Task.submittedBy] using fun _ => hdiffer
    · simp_all
  | approved tp =>
    simp only [Task.react, Task.Permits]
    by_cases hsubmitted : task.status = .submitted
    · simp_all [Task.approvedBy]
    · simp_all
  | disputed tp =>
    simp only [Task.react, Task.Permits]
    by_cases hsubmitted : task.status = .submitted
    · simp_all [Task.disputedBy]
    · simp_all

theorem obeysRules_applyDAGEvent_iff (h : m.ClaimersDiffer) :
    ObeysRules issuer ev m (m.applyDAGEvent env ev) ↔ m.Permits issuer ev := by
  unfold Permits
  cases hev : ev.taskEvent with
  | none =>
    rw [show m.applyDAGEvent env ev = m by simp only [applyDAGEvent, hev]]
    exact iff_of_true (ObeysRules.of_eq h) (by simp)
  | some e =>
    cases hknown : m.byID.lookup e.taskID with
    | none =>
      rw [applyDAGEvent_of_unknown hev hknown]
      refine iff_of_true (obeysRules_introduce e h) ?_
      rintro _ task ⟨⟩ hlookup
      rw [hknown] at hlookup
      cases hlookup
    | some task =>
      rw [obeysRules_iff_of_update h hknown (lookup_applyDAGEvent hev hknown),
        rules_react_iff (issuer ev) ev.id e (h e.taskID task hknown)]
      constructor
      · rintro hpermits _ task' ⟨⟩ hlookup
        obtain rfl := Option.some.inj (hknown.symm.trans hlookup)
        exact hpermits
      · intro hpermits
        exact hpermits e task rfl hknown

end TaskManager

/-- The calls of the API that an event on the task amounts to, made by this agent. A claim that takes a task over
    releases it first. -/
def Task.calls (agent : String) (eventID : EventID) (task : Task) : TaskEvent → List Operation
  | .posted _ => []
  | .claimed tp =>
    if task.yieldsTo eventID then
      if task.status = .claimed then [.releaseTask tp.taskID, .claimTask tp.taskID tp.claimerID]
      else [.claimTask tp.taskID tp.claimerID]
    else []
  | .submitted tp =>
    if task.status = .claimed then [.submitResult tp.taskID agent tp.resultHash tp.resultNote tp.resultURI none] else []
  | .approved tp => if task.status = .submitted then [.approveTask tp.taskID] else []
  | .disputed tp => if task.status = .submitted then [.disputeTask tp.taskID agent] else []

namespace TaskManager

/-- The calls that an event amounts to in this state. -/
def calls (issuer : Event → String) (m : TaskManager) (d : TaskEnv × Event) : List (TaskEnv × Operation) :=
  match d.2.taskEvent with
  | none => []
  | some e => match m.byID.lookup e.taskID with
    | some task => (task.calls (issuer d.2) d.2.id e).map (d.1, ·)
    | none => match e with
      | .posted tp => match newReplica d.1 tp with
        | .ok _ => [(d.1, .postTask tp.posterID tp.title tp.description tp.category tp.budget (postOpts tp))]
        | .error _ => []
      | _ => []

/-- The manager after a call of the API. -/
def request (m : TaskManager) (r : TaskEnv × Operation) : TaskManager := r.2.perform r.1 m

/-- The call succeeds. -/
def Accepts (m : TaskManager) (r : TaskEnv × Operation) : Prop := (r.2.call r.1 m).1 = .ok ()

/-- The two managers show the same tasks. -/
def Agree (m m' : TaskManager) : Prop :=
  ∀ taskID, (m.byID.lookup taskID).map Task.shown = (m'.byID.lookup taskID).map Task.shown

variable {m m' n : TaskManager} {issuer : Event → String} {ev : Event} {env : TaskEnv} {taskID : String}
  {task task' t : Task}
  {claimerID : String}

theorem Agree.refl (m : TaskManager) : m.Agree m := fun _ => rfl

theorem Agree.exists_lookup (h : m.Agree n) (hknown : m.byID.lookup taskID = some task) :
    ∃ t, n.byID.lookup taskID = some t ∧ t.shown = task.shown := by
  have hshown := h taskID
  rw [hknown, Option.map_some, eq_comm, Option.map_eq_some_iff] at hshown
  exact hshown

theorem Agree.setTask (h : m.Agree n)
    (hupdate : ∀ k, m'.byID.lookup k = if k = taskID then some task' else m.byID.lookup k)
    (hshown : t.shown = task'.shown) : m'.Agree (n.setTask taskID t) := by
  intro k
  rw [hupdate, lookup_setTask]
  split_ifs with hk
  · rw [Option.map_some, Option.map_some, hshown]
  · exact h k

theorem onTask_of_ok {A : Type} {f : Task → Except Error (A × Task)} {a : A} (hknown : m.byID.lookup taskID = some task)
    (hf : f task = .ok (a, task')) : onTask taskID f m = (.ok a, m.setTask taskID task') := by
  simp [onTask, hknown, hf]

section Accepted

variable (hlookup : n.byID.lookup taskID = some t)
include hlookup

theorem claimTask_of_open {claimerID : String} (hopen : t.status = .opened) (hposter : t.posterID ≠ claimerID) :
    claimTask env taskID claimerID n = (.ok (), n.setTask taskID
      { t with claimerID, status := .claimed, claimedAt := env.now, claimDeadline := env.now + env.claimDeadline }) :=
  onTask_of_ok hlookup (by simp only [hopen, if_neg hposter])

theorem releaseTask_of_claimed (hclaimed : t.status = .claimed) :
    releaseTask taskID n = (.ok t.claimerID, n.setTask taskID
      { t with status := .opened, claimerID := "", claimedAt := 0, claimDeadline := 0 }) :=
  onTask_of_ok hlookup (if_neg (not_not.mpr hclaimed))

theorem submitResult_of_claimed {claimerID resultHash resultNote resultURI : String} (hclaimed : t.status = .claimed)
    (hclaimer : t.claimerID = claimerID) :
    submitResult env taskID claimerID resultHash resultNote resultURI none n = (.ok (), n.setTask taskID
      { t with resultHash, resultNote, resultURI, status := .submitted, submittedAt := env.now }) :=
  onTask_of_ok hlookup ((if_neg (not_not.mpr hclaimed)).trans (if_neg (not_not.mpr hclaimer)))

theorem approveTask_of_submitted (hsubmitted : t.status = .submitted) :
    approveTask env taskID n = (.ok (), n.setTask taskID { t with status := .completed, completedAt := env.now }) :=
  onTask_of_ok hlookup (if_neg (not_not.mpr hsubmitted))

theorem disputeTask_of_submitted {posterID : String} (hsubmitted : t.status = .submitted)
    (hposter : t.posterID = posterID) :
    disputeTask env taskID posterID n = (.ok (), n.setTask taskID
    { t with status := .disputed, disputedAt := env.now }) :=
  onTask_of_ok hlookup ((if_neg (not_not.mpr hsubmitted)).trans (if_neg (not_not.mpr hposter)))

end Accepted

theorem request_of_call {op : Operation} (h : m.Agree n)
    (hupdate : ∀ k, m'.byID.lookup k = if k = taskID then some task' else m.byID.lookup k)
    (hcall : op.call env n = (.ok (), n.setTask taskID t)) (hshown : t.shown = task'.shown) :
    MeetsAlong request Accepts n [(env, op)] ∧ m'.Agree ([(env, op)].foldl request n) := by
  have haccepts : n.Accepts (env, op) := congrArg Prod.fst hcall
  have hrequest : n.request (env, op) = n.setTask taskID t := congrArg Prod.snd hcall
  refine ⟨⟨haccepts, trivial⟩, ?_⟩
  rw [List.foldl_cons, List.foldl_nil, hrequest]
  exact h.setTask hupdate hshown

theorem request_nil (h : m.Agree n) (hknown : m.byID.lookup taskID = some task)
    (hupdate : ∀ k, m'.byID.lookup k = if k = taskID then some task else m.byID.lookup k) :
    MeetsAlong request Accepts n [] ∧ m'.Agree (([] : List (TaskEnv × Operation)).foldl request n) := by
  refine ⟨trivial, fun k => ?_⟩
  rw [hupdate]
  split_ifs with hk
  · rw [hk, ← hknown]
    exact h taskID
  · exact h k

theorem request_takeover (h : m.Agree n) (hlookup : n.byID.lookup taskID = some t)
    (hclaimed : t.status = .claimed) (hposter : t.posterID ≠ claimerID)
    (hupdate : ∀ k, m'.byID.lookup k = if k = taskID then some task' else m.byID.lookup k)
    (hshown : ({ t with
        claimerID, status := .claimed, claimedAt := env.now, claimDeadline := env.now + env.claimDeadline } :
      Task).shown = task'.shown) :
    MeetsAlong request Accepts n [(env, .releaseTask taskID), (env, .claimTask taskID claimerID)] ∧
      m'.Agree ([(env, .releaseTask taskID), (env, .claimTask taskID claimerID)].foldl request n) := by
  have hrelease : (Operation.releaseTask taskID).call env n = _ :=
    Method.discard_of_ok (releaseTask_of_claimed hlookup hclaimed)
  have hreleased : n.request (env, .releaseTask taskID) = n.setTask taskID
      { t with status := .opened, claimerID := "", claimedAt := 0, claimDeadline := 0 } := congrArg Prod.snd hrelease
  have hclaim : (Operation.claimTask taskID claimerID).call env (n.request (env, .releaseTask taskID)) =
      (.ok (), n.setTask taskID
        { t with
          claimerID, status := .claimed, claimedAt := env.now, claimDeadline := env.now + env.claimDeadline }) := by
    have hself : (n.request (env, .releaseTask taskID)).byID.lookup taskID =
        some { t with status := .opened, claimerID := "", claimedAt := 0, claimDeadline := 0 } := by
      rw [hreleased, lookup_setTask, if_pos rfl]
    refine (claimTask_of_open hself rfl hposter).trans ?_
    rw [hreleased, setTask_setTask]
  have hrequests : (n.request (env, .releaseTask taskID)).request (env, .claimTask taskID claimerID) = _ :=
    congrArg Prod.snd hclaim
  refine ⟨⟨congrArg Prod.fst hrelease, congrArg Prod.fst hclaim, trivial⟩, ?_⟩
  rw [List.foldl_cons, List.foldl_cons, List.foldl_nil, hrequests]
  exact h.setTask hupdate hshown

theorem request_known {e : TaskEvent} (agent : String) (eventID : EventID) (h : m.Agree n)
    (hknown : m.byID.lookup e.taskID = some task) (hpermits : task.Permits agent eventID e)
    (hupdate : ∀ k, m'.byID.lookup k = if k = e.taskID then some (task.react env eventID e) else m.byID.lookup k) :
    MeetsAlong request Accepts n ((task.calls agent eventID e).map (env, ·)) ∧
      m'.Agree (((task.calls agent eventID e).map (env, ·)).foldl request n) := by
  obtain ⟨t, hlookup, hshown⟩ := h.exists_lookup hknown
  obtain ⟨hstatus, hclaimer, hposter⟩ := Task.eq_of_shown_eq hshown
  cases e with
  | posted tp => exact request_nil h hknown hupdate
  | claimed tp =>
    simp only [Task.calls, Task.react, Task.Permits] at hpermits hupdate ⊢
    cases hyields : task.yieldsTo eventID with
    | false =>
      simp only [hyields, Bool.false_eq_true, if_false] at hupdate ⊢
      exact request_nil h hknown hupdate
    | true =>
      have hother : t.posterID ≠ tp.claimerID := hposter ▸ (hpermits hyields).symm
      have hclaim := congrArg (fun u : Task => { u with
        claimerID := tp.claimerID
        status := .claimed
        claimedAt := env.now
        claimDeadline := env.now + env.claimDeadline }) hshown
      simp only [hyields, if_true] at hupdate ⊢
      by_cases hclaimed : task.status = .claimed
      · rw [if_pos hclaimed]
        exact request_takeover h hlookup (hstatus.trans hclaimed) hother hupdate hclaim
      · have hopen : task.status = .opened := by
          unfold Task.yieldsTo at hyields
          cases hcase : task.status <;> simp_all
        rw [if_neg hclaimed]
        exact request_of_call h hupdate (claimTask_of_open hlookup (hstatus.trans hopen) hother) hclaim
  | submitted tp =>
    simp only [Task.calls, Task.react, Task.Permits] at hpermits hupdate ⊢
    by_cases hclaimed : task.status = .claimed
    · rw [if_neg (not_not.mpr hclaimed)] at hupdate
      rw [if_pos hclaimed]
      refine request_of_call h hupdate
        (submitResult_of_claimed hlookup (hstatus.trans hclaimed) (hclaimer.trans (hpermits hclaimed).symm)) ?_
      rw [Task.shown_withEvidence]
      exact congrArg (fun u : Task => { u with
        resultHash := tp.resultHash
        resultNote := tp.resultNote
        resultURI := tp.resultURI
        status := .submitted
        submittedAt := env.now }) hshown
    · rw [if_pos hclaimed] at hupdate
      rw [if_neg hclaimed]
      exact request_nil h hknown hupdate
  | approved tp =>
    simp only [Task.calls, Task.react, Task.Permits] at hpermits hupdate ⊢
    by_cases hsubmitted : task.status = .submitted
    · rw [if_neg (not_not.mpr hsubmitted)] at hupdate
      rw [if_pos hsubmitted]
      exact request_of_call h hupdate (approveTask_of_submitted hlookup (hstatus.trans hsubmitted))
        (congrArg (fun u : Task => { u with status := .completed, completedAt := env.now }) hshown)
    · rw [if_pos hsubmitted] at hupdate
      rw [if_neg hsubmitted]
      exact request_nil h hknown hupdate
  | disputed tp =>
    simp only [Task.calls, Task.react, Task.Permits] at hpermits hupdate ⊢
    by_cases hsubmitted : task.status = .submitted
    · rw [if_neg (not_not.mpr hsubmitted)] at hupdate
      rw [if_pos hsubmitted]
      exact request_of_call h hupdate
        (disputeTask_of_submitted hlookup (hstatus.trans hsubmitted) (hposter.trans (hpermits hsubmitted).symm))
        (congrArg (fun u : Task => { u with status := .disputed, disputedAt := env.now }) hshown)
    · rw [if_pos hsubmitted] at hupdate
      rw [if_neg hsubmitted]
      exact request_nil h hknown hupdate

theorem request_unknown {e : TaskEvent} (h : m.Agree n) (hev : ev.taskEvent = some e)
    (hunknown : m.byID.lookup e.taskID = none) :
    MeetsAlong request Accepts n (m.calls issuer (env, ev)) ∧
      (m.introduce env ev.id e).Agree ((m.calls issuer (env, ev)).foldl request n) := by
  simp only [calls, hev, hunknown]
  cases e with
  | posted tp =>
    simp only [introduce]
    cases hnew : newReplica env tp with
    | error err =>
      rw [postReplica_of_error ev.id hnew]
      exact ⟨trivial, h⟩
    | ok task =>
      rw [postReplica_of_ok ev.id hnew]
      have hcall : (Operation.postTask tp.posterID tp.title tp.description tp.category tp.budget
        (postOpts tp)).call env n =
          (.ok (), n.setTask task.id task) := by
        refine Method.discard_of_ok (a := task) ?_
        unfold newReplica at hnew
        simp [postTask, hnew]
      exact request_of_call h (fun k => lookup_setTask k _) hcall rfl
  | claimed tp | submitted tp | approved tp | disputed tp => exact ⟨trivial, h⟩

theorem request_deliver (d : TaskEnv × Event) (h : m.Agree n) (hpermits : m.Permits issuer d.2) :
    MeetsAlong request Accepts n (m.calls issuer d) ∧ (m.deliver d).Agree ((m.calls issuer d).foldl request n) := by
  obtain ⟨env, ev⟩ := d
  unfold deliver
  cases hev : ev.taskEvent with
  | none =>
    simp only [calls, applyDAGEvent, hev]
    exact ⟨trivial, h⟩
  | some e =>
    cases hknown : m.byID.lookup e.taskID with
    | none =>
      rw [applyDAGEvent_of_unknown hev hknown]
      exact request_unknown h hev hknown
    | some task =>
      simp only [calls, hev, hknown]
      exact request_known (issuer ev) ev.id h hknown (hpermits e task hev hknown) (lookup_applyDAGEvent hev hknown)

/-- A run of task events obeys the rules of the API at every event exactly if the agent behind every event is the one
    they ask for. Then the API accepts the calls that the events amount to, and the tasks are shown as after these
    calls. -/
theorem rules_along_iff_and_simulation (issuer : Event → String) (m : TaskManager) (run : List (TaskEnv × Event))
    (h : m.ClaimersDiffer) :
    (MeetsAlong deliver (fun m d => ObeysRules issuer d.2 m (m.deliver d)) m run ↔
      MeetsAlong deliver (fun m d => m.Permits issuer d.2) m run) ∧
    (MeetsAlong deliver (fun m d => m.Permits issuer d.2) m run →
      MeetsAlong request Accepts m (translation deliver (calls issuer) m run) ∧
      (run.foldl deliver m).Agree ((translation deliver (calls issuer) m run).foldl request m)) := by
  constructor
  · refine meetsAlong_iff_of_kept h ?_ ?_
    · exact fun m d _ hrules => hrules.claimersDiffer
    · exact fun m d hm => obeysRules_applyDAGEvent_iff hm
  · exact simulation (Agree.refl m) fun m n d hagree hpermits => request_deliver d hagree hpermits

section Sample

/-- The agent that the payload names. -/
def actor (ev : Event) : String := (ev.taskEvent.map TaskEvent.actor).getD ""

/-- A task is posted and claimed by another agent, who submits; the poster approves. -/
def honestRun : List (TaskEnv × Event) :=
  [samplePost, sampleClaim "c" "worker", sampleSubmission "worker" "c", sampleApproval "poster"].map (sampleEnv, ·)

end Sample

theorem rules_along_honestRun :
    MeetsAlong deliver (fun m d => m.Permits actor d.2) { byID := ∅ } honestRun ∧
    MeetsAlong deliver (fun m d => ObeysRules actor d.2 m (m.deliver d)) { byID := ∅ } honestRun ∧
    MeetsAlong request Accepts { byID := ∅ } (translation deliver (calls actor) { byID := ∅ } honestRun) := by
  have hpermits : MeetsAlong deliver (fun m d => m.Permits actor d.2) { byID := ∅ } honestRun := by decide +kernel
  obtain ⟨hiff, hsimulation⟩ := rules_along_iff_and_simulation actor { byID := ∅ } honestRun fun taskID
    task hlookup => by
    cases hlookup
  exact ⟨hpermits, hiff.mpr hpermits, (hsimulation hpermits).1⟩

theorem not_obeysRules_of_submission (taskID : String)
    (hclaimed : (m.byID.lookup taskID).map (fun task => (task.claimerID, task.status)) = some (claimerID, .claimed))
    (hsubmitted : (m'.byID.lookup taskID).map Task.status = some .submitted) (hother : issuer ev ≠ claimerID) :
    ¬ObeysRules issuer ev m m' := by
  intro hrules
  obtain ⟨task, hlookup, htask⟩ := Option.map_eq_some_iff.mp hclaimed
  obtain ⟨task', hlookup', hstatus⟩ := Option.map_eq_some_iff.mp hsubmitted
  obtain ⟨rfl, hstatus'⟩ := Prod.mk.inj htask
  exact hother (hrules.submission taskID task task' hlookup hlookup' hstatus' hstatus)

theorem not_obeysRules_of_decision (taskID : String) {posterID : String}
    (hsubmitted : (m.byID.lookup taskID).map (fun task => (task.posterID, task.status)) = some (posterID, .submitted))
    (hdecided : (m'.byID.lookup taskID).map Task.status = some .completed ∨
      (m'.byID.lookup taskID).map Task.status = some .disputed) (hother : issuer ev ≠ posterID) :
    ¬ObeysRules issuer ev m m' := by
  intro hrules
  obtain ⟨task, hlookup, htask⟩ := Option.map_eq_some_iff.mp hsubmitted
  obtain ⟨rfl, hstatus⟩ := Prod.mk.inj htask
  simp only [Option.map_eq_some_iff] at hdecided
  obtain ⟨task', hlookup', hstatus'⟩ | ⟨task', hlookup', hstatus'⟩ := hdecided
  · exact hother (hrules.decision taskID task task' hlookup hlookup' hstatus (.inl hstatus'))
  · exact hother (hrules.decision taskID task task' hlookup hlookup' hstatus (.inr hstatus'))

/-- The poster claims the own task, and a stranger submits, approves and disputes for others: whether the agent behind
    an event is the signer or the one that its payload names, each of the four breaks a rule. -/
theorem events_of_strangers_take_effect :
    let posted := deliver { byID := ∅ } (sampleEnv, samplePost)
    let selfClaimed := posted.deliver (sampleEnv, sampleClaim "c" "poster")
    let claimed := posted.deliver (sampleEnv, sampleClaim "c" "worker")
    let submitted := claimed.deliver (sampleEnv, sampleSubmission "stranger" "c")
    let approved := submitted.deliver (sampleEnv, sampleApproval "stranger")
    let disputed := submitted.deliver (sampleEnv, sampleDispute "stranger")
    (∀ ev ∈ [samplePost, sampleClaim "c" "poster", sampleClaim "c" "worker", sampleSubmission "stranger" "c",
        sampleApproval "stranger", sampleDispute "stranger"], crypto.verifyEvent sampleCrypto ev = true) ∧
    (selfClaimed.byID.lookup "T").map (fun task => (task.posterID, task.claimerID)) = some ("poster", "poster") ∧
    (approved.byID.lookup "T").map (fun task => (task.posterID, task.claimerID, task.status)) =
      some ("poster", "worker", .completed) ∧
    ∀ issuer ∈ [Event.agentID, actor],
      ¬ObeysRules issuer (sampleClaim "c" "poster") posted selfClaimed ∧
      ¬ObeysRules issuer (sampleSubmission "stranger" "c") claimed submitted ∧
      ¬ObeysRules issuer (sampleApproval "stranger") submitted approved ∧
      ¬ObeysRules issuer (sampleDispute "stranger") submitted disputed := by
  refine ⟨by decide +kernel, by decide +kernel, by decide +kernel, fun issuer hissuer => ?_⟩
  have hstranger : issuer (sampleSubmission "stranger" "c") ≠ "worker" ∧ issuer (sampleApproval "stranger") ≠ "poster" ∧
      issuer (sampleDispute "stranger") ≠ "poster" := by
    simp only [List.mem_cons, List.not_mem_nil, or_false] at hissuer
    rcases hissuer with rfl | rfl <;> decide +kernel
  refine ⟨fun hrules => ?_, ?_, ?_, ?_⟩
  · exact absurd (hrules.claimersDiffer "T" _ (Option.some_get (by decide +kernel)).symm) (by decide +kernel)
  · exact not_obeysRules_of_submission "T" (by decide +kernel) (by decide +kernel) hstranger.1
  · exact not_obeysRules_of_decision "T" (by decide +kernel) (.inl (by decide +kernel)) hstranger.2.1
  · exact not_obeysRules_of_decision "T" (by decide +kernel) (.inr (by decide +kernel)) hstranger.2.2

end TaskManager

end aethernet.tasks
