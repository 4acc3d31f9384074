import Aethernet.Tasks.DagEvents
import Aethernet.Transition.Causal

open golang aethernet event transition tasks.TaskManager

namespace aethernet.tasks

structure Outcome where
  claimerID : String
  claimEventID : EventID
  status : TaskStatus
  submitEventID : EventID
  deriving DecidableEq

def Task.outcome (task : Task) : Outcome where
  claimerID := task.claimerID
  claimEventID := task.claimEventID
  status := task.status
  submitEventID := task.submitEventID

def TaskManager.outcome (taskID : String) (m : TaskManager) : Option Outcome := (m.byID.lookup taskID).map Task.outcome

variable (eventID : EventID)

namespace Outcome

/-- `Task.yieldsTo`, which only looks at the outcome. -/
def yieldsTo (o : Outcome) (eventID : EventID) : Bool :=
  match o.status with
  | .opened => true
  | .claimed => !(eventID = "" || o.claimEventID = "" || o.claimEventID ≤ eventID)
  | _ => false

def claimedBy (o : Outcome) (tp : TaskClaimedPayload) (eventID : EventID) : Outcome :=
  { o with claimerID := tp.claimerID, claimEventID := eventID, status := .claimed }

def submittedBy (o : Outcome) (eventID : EventID) : Outcome := { o with status := .submitted, submitEventID := eventID }

/-- What an event makes of the outcome. -/
def react (o : Outcome) : TaskEvent → Outcome
  | .posted _ => o
  | .claimed tp => if o.yieldsTo eventID then o.claimedBy tp eventID else o
  | .submitted _ => if o.status ≠ .claimed then o else o.submittedBy eventID
  | .approved _ => if o.status ≠ .submitted then o else { o with status := .completed }
  | .disputed _ => if o.status ≠ .submitted then o else { o with status := .disputed }

def fresh : Outcome where
  claimerID := ""
  claimEventID := ""
  status := .opened
  submitEventID := ""

def Overrides (claimEventID : EventID) : Prop := eventID ≠ "" ∧ claimEventID ≠ "" ∧ eventID < claimEventID

instance (eventID claimEventID : EventID) : Decidable (Overrides eventID claimEventID) :=
  inferInstanceAs (Decidable (_ ∧ _ ∧ _))

/-- Which of the two events is first makes a difference to this outcome. -/
def Clash (o : Outcome) (i i' : EventID) : TaskEvent → TaskEvent → Prop
  | .claimed tp, .claimed tp' =>
    -- both would take the task, and the IDs do not decide
    (o.status = .opened ∧ (i = "" ∨ i' = "") ∨ o.yieldsTo i ∧ i = i') ∧ (tp.claimerID ≠ tp'.claimerID ∨ i ≠ i')
  | .claimed _, .submitted _ => o.yieldsTo i
  | .submitted _, .submitted _ => o.status = .claimed ∧ i ≠ i'
  | .submitted _, .approved _ => o.status = .claimed
  | .submitted _, .disputed _ => o.status = .claimed
  | .approved _, .disputed _ => o.status = .submitted
  | _, _ => False

section React

variable {o : Outcome} {i i' : EventID}

theorem yieldsTo_iff : o.yieldsTo i ↔ o.status = .opened ∨ o.status = .claimed ∧ Overrides i o.claimEventID := by
  unfold yieldsTo Overrides
  cases o.status <;> simp [and_assoc]

theorem overrides_asymm (h : Overrides i i') : ¬Overrides i' i := fun h' => lt_asymm h.2.2 h'.2.2

theorem overrides_or (hne : i ≠ i') (hi : i ≠ "") (hi' : i' ≠ "") : Overrides i i' ∨ Overrides i' i := by
  rcases lt_or_gt_of_ne hne with h | h
  · exact .inl ⟨hi, hi', h⟩
  · exact .inr ⟨hi', hi, h⟩

theorem react_of_opened (hstatus : o.status = .opened) (e : TaskEvent) : o.react i e = match e with
    | .claimed tp => o.claimedBy tp i
    | _ => o := by
  have hyields : o.yieldsTo i := yieldsTo_iff.mpr (.inl hstatus)
  cases e <;> simp [react, hstatus, hyields]

theorem react_of_claimed (hstatus : o.status = .claimed) (e : TaskEvent) : o.react i e = match e with
    | .claimed tp => if Overrides i o.claimEventID then o.claimedBy tp i else o
    | .submitted _ => o.submittedBy i
    | _ => o := by
  have hyields : o.yieldsTo i ↔ Overrides i o.claimEventID := by simp [yieldsTo_iff, hstatus]
  cases e <;> simp [react, hstatus, hyields]

theorem react_of_submitted (hstatus : o.status = .submitted) (e : TaskEvent) : o.react i e = match e with
    | .approved _ => { o with status := .completed }
    | .disputed _ => { o with status := .disputed }
    | _ => o := by
  have hyields : ¬o.yieldsTo i := by simp [yieldsTo_iff, hstatus]
  cases e <;> simp [react, hstatus, hyields]

theorem react_of_done (hstatus : o.status ≠ .opened ∧ o.status ≠ .claimed ∧ o.status ≠ .submitted) (e : TaskEvent) :
    o.react i e = o := by
  have hyields : ¬o.yieldsTo i := by simp [yieldsTo_iff, hstatus]
  cases e <;> simp [react, hstatus, hyields]

theorem react_claimedBy (tp : TaskClaimedPayload) (e : TaskEvent) : (o.claimedBy tp i).react i' e = match e with
    | .claimed tp' => if Overrides i' i then o.claimedBy tp' i' else o.claimedBy tp i
    | .submitted _ => (o.claimedBy tp i).submittedBy i'
    | _ => o.claimedBy tp i :=
  react_of_claimed rfl e

theorem react_submittedBy (e : TaskEvent) : (o.submittedBy i).react i' e = match e with
    | .approved _ => { o.submittedBy i with status := .completed }
    | .disputed _ => { o.submittedBy i with status := .disputed }
    | _ => o.submittedBy i :=
  react_of_submitted rfl e

end React

variable {o : Outcome}

theorem react_comm_iff_of_opened (hstatus : o.status = .opened) (i i' : EventID) (e e' : TaskEvent) :
    (o.react i e).react i' e' = (o.react i' e').react i e ↔ ¬o.Clash i i' e e' ∧ ¬o.Clash i' i e' e := by
  cases e <;> cases e' <;> grind [react_of_opened hstatus, react_claimedBy, Clash, yieldsTo_iff, claimedBy, submittedBy,
    overrides_asymm, overrides_or, Overrides]

theorem react_comm_iff_of_claimed (hstatus : o.status = .claimed) (i i' : EventID) (e e' : TaskEvent) :
    (o.react i e).react i' e' = (o.react i' e').react i e ↔ ¬o.Clash i i' e e' ∧ ¬o.Clash i' i e' e := by
  cases e <;> cases e' <;> grind [react_of_claimed, react_claimedBy, react_submittedBy, Clash, yieldsTo_iff, claimedBy,
    submittedBy, overrides_asymm, overrides_or, Overrides]

theorem react_comm_iff_of_submitted (hstatus : o.status = .submitted) (i i' : EventID) (e e' : TaskEvent) :
    (o.react i e).react i' e' = (o.react i' e').react i e ↔ ¬o.Clash i i' e e' ∧ ¬o.Clash i' i e' e := by
  cases e <;> cases e' <;> grind [react_of_submitted, react_of_done, Clash, yieldsTo_iff]

theorem react_comm_iff (o : Outcome) (i i' : EventID) (e e' : TaskEvent) :
    (o.react i e).react i' e' = (o.react i' e').react i e ↔ ¬o.Clash i i' e e' ∧ ¬o.Clash i' i e' e := by
  by_cases hopened : o.status = .opened
  · exact react_comm_iff_of_opened hopened i i' e e'
  by_cases hclaimed : o.status = .claimed
  · exact react_comm_iff_of_claimed hclaimed i i' e e'
  by_cases hsubmitted : o.status = .submitted
  · exact react_comm_iff_of_submitted hsubmitted i i' e e'
  · have hdone : o.status ≠ .opened ∧ o.status ≠ .claimed ∧ o.status ≠ .submitted := ⟨hopened, hclaimed, hsubmitted⟩
    cases e <;> cases e' <;> simp [react_of_done hdone, Clash, hdone, yieldsTo_iff]

end Outcome

/-- `PostTask` accepts the posted task. -/
def posts (env : TaskEnv) (tp : TaskPostedPayload) : Bool := (newReplica env tp).toBool

/-- What an event makes of the outcome of its task, if the task is known. -/
def observeTask (env : TaskEnv) (eventID : EventID) : Option Outcome → TaskEvent → Option Outcome
  | some o, e => some (o.react eventID e)
  | none, .posted tp => if posts env tp then some .fresh else none
  | none, _ => none

def observe (env : TaskEnv) (o : Option Outcome) (ev : Event) : Option Outcome :=
  match ev.taskEvent with
  | none => o
  | some e => observeTask env ev.id o e

def ClashOn (env : TaskEnv) (i i' : EventID) : Option Outcome → TaskEvent → TaskEvent → Prop
  | some o, e, e' => o.Clash i i' e e'
  | none, .posted tp, .claimed _ => posts env tp
  | none, _, _ => False

/-- Which of the two events is first makes a difference. -/
def Clash (env : TaskEnv) (o : Option Outcome) (ev ev' : Event) : Prop :=
  match ev.taskEvent, ev'.taskEvent with
  | some e, some e' => ClashOn env ev.id ev'.id o e e'
  | _, _ => False

variable {env : TaskEnv} {m : TaskManager} {taskID : String} {ev ev' : Event}

theorem observeTask_comm_iff (i i' : EventID) (o : Option Outcome) (e e' : TaskEvent) :
    observeTask env i' (observeTask env i o e) e' = observeTask env i (observeTask env i' o e') e ↔
      ¬ClashOn env i i' o e e' ∧ ¬ClashOn env i' i o e' e := by
  cases o with
  | some o =>
    simp only [observeTask, ClashOn, Option.some.injEq]
    exact o.react_comm_iff i i' e e'
  | none =>
    have hfresh : Outcome.fresh.status = .opened := rfl
    cases e <;> cases e' <;> simp only [observeTask, ClashOn] <;>
      grind [observeTask, Outcome.react_of_opened, Outcome.claimedBy, Outcome.fresh]

theorem observe_comm_iff (o : Option Outcome) :
    observe env (observe env o ev) ev' = observe env (observe env o ev') ev ↔
      ¬Clash env o ev ev' ∧ ¬Clash env o ev' ev := by
  unfold observe Clash
  cases ev.taskEvent with
  | none => cases ev'.taskEvent <;> simp
  | some e => cases ev'.taskEvent with
    | none => simp
    | some e' => exact observeTask_comm_iff ev.id ev'.id o e e'

/-- A task event about this task. -/
def About (taskID : String) (ev : Event) : Prop := ∃ e, ev.taskEvent = some e ∧ e.taskID = taskID

/-- The event that has the ID is among the causal references. -/
def refersTo (b ev : Event) : Prop := b.id ∈ ev.refs

/-- The manager after an event that arrives at this time. -/
def deliverAt (env : TaskEnv) (m : TaskManager) (d : ℤ × Event) :
    TaskManager := m.applyDAGEvent { env with now := d.1 } d.2

theorem Task.outcome_react (task : Task) (e : TaskEvent) :
    (task.react env eventID e).outcome = task.outcome.react eventID e := by
  cases e with
  | posted tp => rfl
  | claimed tp =>
    simp only [Task.react, Outcome.react]
    rw [show task.outcome.yieldsTo eventID = task.yieldsTo eventID from rfl]
    split_ifs <;> rfl
  | submitted tp =>
    obtain ⟨_, _, _, _, heq⟩ := (task.submittedBy env tp eventID).withEvidence_eq env tp.evidenceBodyHash
    simp only [Task.react, Outcome.react, heq]
    rw [show task.outcome.status = task.status from rfl]
    split_ifs <;> rfl
  | approved tp | disputed tp =>
    simp only [Task.react, Outcome.react]
    rw [show task.outcome.status = task.status from rfl]
    split_ifs <;> rfl

variable {tp : TaskPostedPayload}

theorem posts_of_ok {task : Task} (hnew : newReplica env tp = .ok task) : posts env tp = true := by
  rw [posts, hnew]
  rfl

theorem posts_of_error {err : Error} (hnew : newReplica env tp = .error err) : posts env tp = false := by
  rw [posts, hnew]
  rfl

theorem posts_iff : posts env tp ↔
    tp.title ≠ "" ∧ tp.budget ≠ 0 ∧ tp.posterID ≠ "" ∧
      ∃ fees, assuranceOf env tp.category tp.budget tp.assuranceLane = .ok fees := by
  have hok : posts env tp ↔ ∃ task, newReplica env tp = .ok task := by
    cases hnew : newReplica env tp with
    | error err => simp [posts_of_error hnew]
    | ok task => simp [posts_of_ok hnew]
  rw [hok]
  unfold newReplica
  simp only [newTask_eq_ok_iff, exists_and_left, postOpts]
  grind

theorem observe_at (now : ℤ) (o : Option Outcome) (ev : Event) : observe { env with now } o ev = observe env o ev := by
  have hposts : ∀ tp, posts { env with now } tp = posts env tp := by
    intro tp
    rw [Bool.eq_iff_iff, posts_iff, posts_iff]
    exact Iff.rfl
  unfold observe
  cases ev.taskEvent with
  | none => rfl
  | some e =>
    cases o with
    | some o => rfl
    | none => cases e with
      | posted tp => simp only [observeTask, hposts]
      | _ => rfl

theorem outcome_introduce (hID : taskID ≠ "") {e : TaskEvent} (he : e.taskID = taskID) (eventID : EventID)
    (hunknown : m.byID.lookup taskID = none) :
    (m.introduce env eventID e).outcome taskID = observeTask env eventID none e := by
  have hnone : m.outcome taskID = none := by rw [outcome, hunknown, Option.map_none]
  cases e with
  | posted tp =>
    simp only [introduce, observeTask]
    cases hnew : newReplica env tp with
    | error err =>
      rw [postReplica_of_error eventID hnew, posts_of_error hnew]
      exact hnone
    | ok task =>
      rw [postReplica_of_ok eventID hnew, posts_of_ok hnew]
      obtain ⟨-, -, -, fees, -, rfl⟩ := newTask_eq_ok_iff.mp hnew
      have hself : (freshTask env tp.posterID tp.title tp.description tp.category tp.budget (postOpts tp)
        fees).id = taskID :=
        (if_neg fun hempty => hID (Eq.trans he.symm hempty)).trans he
      rw [hself, outcome, lookup_setTask, if_pos rfl]
      rfl
  | claimed tp | submitted tp | approved tp | disputed tp => exact hnone

theorem outcome_applyDAGEvent (hID : taskID ≠ "") (hev : About taskID ev) :
    (m.applyDAGEvent env ev).outcome taskID = observe env (m.outcome taskID) ev := by
  obtain ⟨e, hev, rfl⟩ := hev
  unfold observe
  rw [hev]
  cases hknown : m.byID.lookup e.taskID with
  | none =>
    rw [applyDAGEvent_of_unknown hev hknown, outcome_introduce hID rfl ev.id hknown]
    simp [outcome, hknown]
  | some task =>
    unfold outcome
    rw [lookup_applyDAGEvent hev hknown, if_pos rfl, hknown, Option.map_some, Option.map_some,
      Task.outcome_react]
    rfl

theorem outcome_foldl_deliverAt (hID : taskID ≠ "") (ds : List (ℤ × Event)) (hds : ∀ d ∈ ds, About taskID d.2) :
    (ds.foldl (deliverAt env) m).outcome taskID = (ds.map Prod.snd).foldl (observe env) (m.outcome taskID) := by
  induction ds generalizing m with
  | nil => rfl
  | cons d ds ih =>
    obtain ⟨hd, hds⟩ := List.forall_mem_cons.mp hds
    rw [List.foldl_cons, ih hds, List.map_cons, List.foldl_cons]
    congr 1
    exact (outcome_applyDAGEvent hID hd).trans (observe_at d.1 _ d.2)

/-- On any set of events about one task, all orders of delivery of the set and of every causally closed part of it, at
    whatever times the events arrive, end with the same claimer, claim, status and submission exactly if no two events
    that can be delivered next clash. -/
theorem outcome_converges_iff (env : TaskEnv) (m : TaskManager) {taskID : String} (hID : taskID ≠ "") (E : Set Event)
    (hE : ∀ ev ∈ E, About taskID ev) :
    (∀ D, CausallyClosed refersTo E D → ∀ ds ds' : List (ℤ × Event),
        IsOrder refersTo D (ds.map Prod.snd) → IsOrder refersTo D (ds'.map Prod.snd) →
        (ds.foldl (deliverAt env) m).outcome taskID = (ds'.foldl (deliverAt env) m).outcome taskID) ↔
      ∀ l ev ev', DeliveryFrom refersTo E [] l → Deliverable refersTo E l ev → Deliverable refersTo E l ev' →
        ¬Clash env (l.foldl (observe env) (m.outcome taskID)) ev ev' := by
  have habout : ∀ {D : Set Event}, CausallyClosed refersTo E D → ∀ {ds : List (ℤ × Event)},
      IsOrder refersTo D (ds.map Prod.snd) → ∀ d ∈ ds, About taskID d.2 := by
    intro D hD ds hds d hd
    exact hE d.2 (hD.subset (hds.mem_iff.mp (List.mem_map_of_mem hd)))
  have huntimed : ∀ π : List Event, (π.map fun ev => ((0 : ℤ), ev)).map Prod.snd = π := by simp [Function.comp_def]
  calc
    _ ↔ ∀ D, CausallyClosed refersTo E D → ∀ π π', IsOrder refersTo D π → IsOrder refersTo D π' →
        π.foldl (observe env) (m.outcome taskID) = π'.foldl (observe env) (m.outcome taskID) := by
      refine forall_congr' fun D => forall_congr' fun hD => ⟨fun h π π' hπ hπ' => ?_, fun h ds ds' hds hds' => ?_⟩
      · rw [← huntimed π] at hπ ⊢
        rw [← huntimed π'] at hπ' ⊢
        have hsame := h _ _ hπ hπ'
        rwa [outcome_foldl_deliverAt hID _ (habout hD hπ), outcome_foldl_deliverAt hID _ (habout hD hπ')] at hsame
      · rw [outcome_foldl_deliverAt hID _ (habout hD hds), outcome_foldl_deliverAt hID _ (habout hD hds')]
        exact h _ _ hds hds'
    _ ↔ CommuteNext refersTo E (observe env) (m.outcome taskID) := forall_closed_foldl_eq_iff
    _ ↔ _ := by
      refine ⟨fun h l ev ev' hl he he' => ?_, fun h l ev ev' hl he he' => ?_⟩
      · exact ((observe_comm_iff _).mp (h l ev ev' hl he he')).1
      · exact (observe_comm_iff _).mpr ⟨h l ev ev' hl he he', h l ev' ev hl he' he⟩

section Sample

theorem isOrder_of_ids {events π : List Event} (hperm : π.Perm events) (hids : (π.map Event.id).Nodup)
    (hirrefl : ∀ ev ∈ π, ev.id ∉ ev.refs) (hpairwise : π.Pairwise fun ev ev' => ev'.id ∉ ev.refs) :
    IsOrder refersTo {ev | ev ∈ events} π :=
  isOrder_iff.mpr ⟨fun _ => hperm.mem_iff, hids.of_map, hirrefl, hpairwise⟩

theorem not_clash_self (o : Option Outcome) : ¬Clash env o ev ev := ((observe_comm_iff o).mp rfl).1

theorem about_of_taskID (h : ev.taskEvent.map TaskEvent.taskID = some taskID) : About taskID ev :=
  Option.map_eq_some_iff.mp h

theorem not_clash_claims (o : Option Outcome) {i i' : EventID} {a a' : String} (hi : i ≠ "") (hi' : i' ≠ "")
    (hne : i ≠ i') :
    ¬Clash env o (sampleClaim i a) (sampleClaim i' a') := by
  have hevent : ∀ j b e, (sampleClaim j b).taskEvent = some e → ∃ tp, e = .claimed tp := fun j b e he =>
    (Option.map_eq_some_iff.mp he).imp fun _ h => h.2.symm
  rw [Clash]
  split
  · rename_i htp htp'
    obtain ⟨tp, rfl⟩ := hevent _ _ _ htp
    obtain ⟨tp', rfl⟩ := hevent _ _ _ htp'
    cases o with
    | none => exact not_false
    | some o => exact fun hclash => hclash.1.elim (fun h => h.2.elim hi hi') fun h => hne h.2
  · exact not_false

end Sample

/-- A post and two concurrent claims on its task, which end the same way in both orders. -/
theorem concurrent_claims_converge :
    let events : Set Event := {samplePost, sampleClaim "c1" "second", sampleClaim "c2" "first"}
    (∀ ev ∈ events, About "T" ev) ∧ ∀ D, CausallyClosed refersTo events D → ∀ ds ds' : List (ℤ × Event),
      IsOrder refersTo D (ds.map Prod.snd) → IsOrder refersTo D (ds'.map Prod.snd) →
      (ds.foldl (deliverAt sampleEnv) { byID := ∅ }).outcome "T" =
        (ds'.foldl (deliverAt sampleEnv) { byID := ∅ }).outcome "T" := by
  intro events
  have habout : ∀ ev ∈ events, About "T" ev := by
    rintro ev (rfl | rfl | rfl) <;> exact about_of_taskID (by decide +kernel)
  refine ⟨habout, (outcome_converges_iff sampleEnv { byID := ∅ } (by decide) _ habout).mpr ?_⟩
  rintro l ev ev' - he he'
  -- a claim can only be delivered when the post has been
  have hpost : ∀ {i a}, Deliverable refersTo events l (sampleClaim i a) → samplePost ∈ l := fun h =>
    h.causes samplePost (Set.mem_insert _ _) (List.mem_singleton.mpr rfl)
  rcases he.mem with rfl | rfl | rfl <;> rcases he'.mem with rfl | rfl | rfl
  · exact not_clash_self _
  · exact absurd (hpost he') he.fresh
  · exact absurd (hpost he') he.fresh
  · exact absurd (hpost he) he'.fresh
  · exact not_clash_self _
  · exact not_clash_claims _ (by decide) (by decide) (by decide)
  · exact absurd (hpost he) he'.fresh
  · exact not_clash_claims _ (by decide) (by decide) (by decide)
  · exact not_clash_self _

/-- A submission under the higher of two claims, delivered before or after the lower one, and an approval and a dispute
    of one submission: two orders of the same signed events end with another claimer, or with another status. -/
theorem orders_diverge :
    let low := sampleClaim "c1" "second"
    let high := sampleClaim "c2" "first"
    let submission := sampleSubmission "first" "c2"
    let claims := [samplePost, high, submission, low]
    let claims' := [samplePost, high, low, submission]
    let decisions := [samplePost, high, submission, sampleApproval "poster", sampleDispute "poster"]
    let decisions' := [samplePost, high, submission, sampleDispute "poster", sampleApproval "poster"]
    let run := fun π : List Event => ((π.map ((1 : ℤ), ·)).foldl (deliverAt sampleEnv) { byID := ∅ }).outcome "T"
    (∀ ev ∈ claims ++ decisions, crypto.verifyEvent sampleCrypto ev = true ∧ About "T" ev) ∧
    (IsOrder refersTo {ev | ev ∈ claims} claims ∧ IsOrder refersTo {ev | ev ∈ claims} claims' ∧
      run claims = some ⟨"first", "c2", .submitted, "s"⟩ ∧ run claims' = some ⟨"second", "c1", .submitted, "s"⟩) ∧
    (IsOrder refersTo {ev | ev ∈ decisions} decisions ∧ IsOrder refersTo {ev | ev ∈ decisions} decisions' ∧
      run decisions = some ⟨"first", "c2", .completed, "s"⟩ ∧
      run decisions' = some ⟨"first", "c2", .disputed, "s"⟩) := by
  intro low high submission claims claims' decisions decisions' run
  have hevents : ∀ ev ∈ claims ++ decisions,
      crypto.verifyEvent sampleCrypto ev = true ∧ ev.taskEvent.map TaskEvent.taskID = some "T" := by decide +kernel
  refine ⟨fun ev hev => ⟨(hevents ev hev).1, about_of_taskID (hevents ev hev).2⟩,
    ⟨?_, ?_, by decide +kernel, by decide +kernel⟩, ?_, ?_, by decide +kernel, by decide +kernel⟩
  · exact isOrder_of_ids (.refl _) (by decide +kernel) (by decide +kernel) (by decide +kernel)
  · exact isOrder_of_ids (((List.Perm.swap _ _ _).cons _).cons _) (by decide +kernel) (by decide +kernel)
      (by decide +kernel)
  · exact isOrder_of_ids (.refl _) (by decide +kernel) (by decide +kernel) (by decide +kernel)
  · exact isOrder_of_ids ((((List.Perm.swap _ _ _).cons _).cons _).cons _) (by decide +kernel) (by decide +kernel)
      (by decide +kernel)

end aethernet.tasks
