import Aethernet.Event.Basic
import Aethernet.Golang.Int
import Aethernet.Tasks.Manager

open golang

namespace aethernet.assurance

/-- The fee of a lane: the rate's share of a budget, as `math.Round` leaves it, and the floor. -/
structure LaneFee where
  share : UInt64 → UInt64
  floor : UInt64

/-- The part of `AssuranceConfig` that fees are computed from. -/
structure AssuranceConfig where
  standard : LaneFee
  highAssurance : LaneFee
  enterprise : LaneFee
  minTaskBudgetAssured : UInt64

/-- The fee and the net payout of an assured task. -/
def LaneFee.split (f : LaneFee) (budget : UInt64) : UInt64 × UInt64 :=
  let fee := f.share budget
  let fee := if fee < f.floor then f.floor else fee
  let fee := if budget < fee then budget else fee
  (fee, budget - fee)

def computeAssuranceFee (budget : UInt64) (lane : String) (cfg : AssuranceConfig) : Except Error (UInt64 × UInt64) :=
  if lane = "" then .ok (0, 0)
  else if budget < cfg.minTaskBudgetAssured then
    .error (.new (s!"assurance: budget {budget} µAET is below the minimum {cfg.minTaskBudgetAssured} µAET required "
      ++ "for assured tasks"))
  else if lane = "standard" then .ok (cfg.standard.split budget)
  else if lane = "high_assurance" then .ok (cfg.highAssurance.split budget)
  else if lane = "enterprise" then .ok (cfg.enterprise.split budget)
  else .error (.new ("assurance: unknown lane " ++ quote lane ++
    "; valid values: standard, high_assurance, enterprise"))

end aethernet.assurance

namespace aethernet.tasks

open assurance

def errTaskAlreadyClaimed : Error := .new "tasks: task already claimed"
def errTaskNotClaimed : Error := .new "tasks: task not claimed"
def errTaskNotSubmitted : Error := .new "tasks: task not submitted"
def errTaskNotOpen : Error := .new "tasks: task is not open"
def errWrongClaimer : Error := .new "tasks: not the claimer"
def errWrongPoster : Error := .new "tasks: not the poster"
def errNotClaimer : Error := .new "tasks: caller is not the task claimer"
def errSelfClaim : Error := .new "tasks: poster cannot claim their own task"

/-- `DefaultClaimDeadline`, in nanoseconds. -/
def defaultClaimDeadline : ℤ := 600000000000

def maxRejections : ℕ := 3

structure PostTaskOpts where
  taskID : String := ""
  deliveryMethod : String := ""
  successCriteria : List String := []
  requiredChecks : List String := []
  policyVersion : String := ""
  challengeWindowSecs : Int64 := 0
  generationEligible : Option Bool := none
  maxDeliveryTimeSecs : Int64 := 0
  assuranceLane : String := ""

/-- An evidence blob that could be fetched and decoded. -/
structure EvidenceBlob where
  evidence : Option Json := none
  resultContent : String := ""
  encrypted : Bool := false

/-- How the manager is set up, and the time of the call. The security floor answers with the lane it offers. -/
structure TaskEnv where
  sha256 : String → List UInt8
  claimDeadline : ℤ := defaultClaimDeadline
  securityFloor : Option (String → String → String) := none
  assuranceCfg : Option AssuranceConfig := none
  evidenceBlobFetcher : Option (String → Option EvidenceBlob) := none
  now : ℤ

/-- The text of a `SecurityFloorError`. -/
def securityFloorError (requested offered : String) : Error :=
  if offered = "" then
    .new ("tasks: insufficient category security for lane " ++ quote requested ++ "; no lane available")
  else
    .new ("tasks: insufficient category security for lane " ++ quote requested ++ "; best available is " ++
    quote offered)

def computeSpecHash (sha256 : String → List UInt8) (title description category : String)
    (successCriteria requiredChecks : List String) : String :=
  "sha256:" ++ hexEncode (sha256 (title ++ description ++ category ++ ",".intercalate successCriteria ++
    ",".intercalate requiredChecks))

variable (env : TaskEnv) (posterID title : String)

def generateTaskID : String :=
  hexEncode ((env.sha256 (posterID ++ ":" ++ title ++ ":" ++ toString env.now)).take 16)

/-- What an assurance lane costs. -/
def assuranceOf (category : String) (budget : UInt64) (lane : String) : Except Error (UInt64 × UInt64) :=
  let fee : Except Error (UInt64 × UInt64) := match env.assuranceCfg with
    | none => .ok (0, 0)
    | some cfg => match computeAssuranceFee budget lane cfg with
      | .error err => .error (.wrap "tasks: assurance fee: " err "")
      | .ok fee => .ok fee
  if lane = "" then .ok (0, 0)
  else match env.securityFloor with
    | none => fee
    | some checkLane =>
      let offered := checkLane category lane
      if offered ≠ lane then .error (securityFloorError lane offered) else fee

variable (description : String)

/-- The contract of a new task, with the defaults applied. -/
def contractOf (category : String) (o : PostTaskOpts) : AcceptanceContract where
  specHash := computeSpecHash env.sha256 title description category o.successCriteria o.requiredChecks
  successCriteria := o.successCriteria
  requiredChecks := o.requiredChecks
  policyVersion := if o.policyVersion = "" then "v1" else o.policyVersion
  challengeWindowSecs := if o.challengeWindowSecs = 0 then 300 else o.challengeWindowSecs
  generationEligible := o.generationEligible.getD !(decide (o.assuranceLane = "") && env.assuranceCfg.isSome)
  maxDeliveryTimeSecs := if o.maxDeliveryTimeSecs = 0 then 600 else o.maxDeliveryTimeSecs
  assuranceLane := o.assuranceLane

/-- A task as `PostTask` creates it, with its fee and the worker's net payout. -/
def freshTask (category : String) (budget : UInt64) (o : PostTaskOpts) (fees : UInt64 × UInt64) : Task where
  id := if o.taskID = "" then generateTaskID env posterID title else o.taskID
  title := title
  description := description
  category := category
  posterID := posterID
  budget := budget
  status := .opened
  postedAt := env.now
  deliveryMethod := if o.deliveryMethod = "" then "public" else o.deliveryMethod
  contract := contractOf env title description category o
  assuranceFee := fees.1
  workerNetPayout := fees.2

/-- The task that `PostTask` creates, or its error. -/
def newTask (category : String) (budget : UInt64) (o : PostTaskOpts) : Except Error Task :=
  if title = "" then .error (.new "tasks: title required")
  else if budget = 0 then .error (.new "tasks: budget must be > 0")
  else if posterID = "" then .error (.new "tasks: poster_id required")
  else match assuranceOf env category budget o.assuranceLane with
    | .error err => .error err
    | .ok fees => .ok (freshTask env posterID title description category budget o fees)

theorem newTask_eq_ok_iff {env : TaskEnv} {posterID title description category : String} {budget : UInt64}
    {o : PostTaskOpts} {task : Task} :
    newTask env posterID title description category budget o = .ok task ↔
      title ≠ "" ∧ budget ≠ 0 ∧ posterID ≠ "" ∧ ∃ fees, assuranceOf env category budget o.assuranceLane = .ok fees ∧
        freshTask env posterID title description category budget o fees = task := by
  unfold newTask
  split_ifs with htitle hbudget hposter
  · simp [htitle]
  · simp [hbudget]
  · simp [hposter]
  · cases assuranceOf env category budget o.assuranceLane with
    | error err => simp
    | ok fees => simp [htitle, hbudget, hposter]

/-- What a specification hash is to commit to. -/
structure TaskSpec where
  title : String
  description : String
  category : String
  successCriteria : List String
  requiredChecks : List String

namespace TaskSpec

def specHash (sha256 : String → List UInt8) (s : TaskSpec) : String :=
  computeSpecHash sha256 s.title s.description s.category s.successCriteria s.requiredChecks

def text (s : TaskSpec) : String :=
  s.title ++ s.description ++ s.category ++ ",".intercalate s.successCriteria ++ ",".intercalate s.requiredChecks

/-- Lists with the same comma-separated text: a comma within an item may as well stand between two, and no item is an
    empty item. -/
inductive Recuts : List String → List String → Prop where
  | comma (before : List String) (a b : String) (after : List String) :
      Recuts (before ++ (a ++ "," ++ b) :: after) (before ++ a :: b :: after)
  | empty : Recuts [] [""]

/-- What nothing in the text shows: where a field ends, and how a list is cut into items. -/
inductive Rearranges : TaskSpec → TaskSpec → Prop where
  | title (a b d c : String) (criteria checks : List String) :
      Rearranges ⟨a ++ b, d, c, criteria, checks⟩ ⟨a, b ++ d, c, criteria, checks⟩
  | description (t a b c : String) (criteria checks : List String) :
      Rearranges ⟨t, a ++ b, c, criteria, checks⟩ ⟨t, a, b ++ c, criteria, checks⟩
  | category (t d a b x : String) (criteria checks : List String) :
      Rearranges ⟨t, d, a ++ b, x :: criteria, checks⟩ ⟨t, d, a, (b ++ x) :: criteria, checks⟩
  | criterion (t d c a b x : String) (criteria checks : List String) :
      Rearranges ⟨t, d, c, criteria ++ [a ++ b], x :: checks⟩ ⟨t, d, c, criteria ++ [a], (b ++ x) :: checks⟩
  | successCriteria (t d c : String) (checks : List String) {l l' : List String} (h : Relation.EqvGen Recuts l l') :
      Rearranges ⟨t, d, c, l, checks⟩ ⟨t, d, c, l', checks⟩
  | requiredChecks (t d c : String) (criteria : List String) {l l' : List String} (h : Relation.EqvGen Recuts l l') :
      Rearranges ⟨t, d, c, criteria, l⟩ ⟨t, d, c, criteria, l'⟩

theorem Recuts.intercalate_eq {l l' : List String} (h : Recuts l l') : ",".intercalate l = ",".intercalate l' := by
  cases h with
  | empty => rfl
  | comma before a b after =>
    have hcut : ",".intercalate ((a ++ "," ++ b) :: after) = ",".intercalate (a :: b :: after) := by
      rw [String.intercalate_cons_append, String.intercalate_cons_cons]
    by_cases hbefore : before = []
    · rw [hbefore]
      exact hcut
    · rw [String.intercalate_append_of_ne_nil hbefore (by simp), hcut,
        String.intercalate_append_of_ne_nil hbefore (by simp)]

theorem intercalate_append_last (l : List String) (a b : String) :
    ",".intercalate (l ++ [a ++ b]) = ",".intercalate (l ++ [a]) ++ b := by
  by_cases hl : l = []
  · simp [hl]
  · simp [String.intercalate_append_of_ne_nil hl, String.append_assoc]

theorem recut_join : ∀ l : List String, Relation.EqvGen Recuts l [",".intercalate l]
  | [] => .rel _ _ .empty
  | [x] => by
    rw [String.intercalate_singleton]
    exact .refl _
  | x :: y :: l => by
    have hcut : Recuts ((x ++ "," ++ y) :: l) (x :: y :: l) := .comma [] x y l
    rw [← hcut.intercalate_eq]
    exact .trans _ _ _ (.symm _ _ (.rel _ _ hcut)) (recut_join ((x ++ "," ++ y) :: l))
termination_by l => l.length

theorem intercalate_eq_of_recut {l l' : List String} (h : Relation.EqvGen Recuts l l') :
    ",".intercalate l = ",".intercalate l' :=
  congrArg (Quot.lift ",".intercalate fun _ _ => Recuts.intercalate_eq) (Quot.eqvGen_sound h)

theorem Rearranges.text_eq {s t : TaskSpec} (h : Rearranges s t) : s.text = t.text := by
  cases h with
  | criterion => simp [text, intercalate_append_last, String.append_assoc]
  | successCriteria t d c checks h => simp [text, intercalate_eq_of_recut h]
  | requiredChecks t d c criteria h => simp [text, intercalate_eq_of_recut h]
  | _ => simp [text, String.append_assoc]

theorem rearranged_title (s : TaskSpec) : Relation.EqvGen Rearranges s ⟨s.text, "", "", [""], [""]⟩ := by
  obtain ⟨t, d, c, criteria, checks⟩ := s
  have hcriteria := Rearranges.successCriteria t d c checks (recut_join criteria)
  have hchecks := Rearranges.requiredChecks t d c [",".intercalate criteria] (recut_join checks)
  have hcriterion := Rearranges.criterion t d c (",".intercalate criteria) (",".intercalate checks) "" [] []
  have hcategory := Rearranges.category t d c (",".intercalate criteria ++ ",".intercalate checks) "" [] [""]
  have hdescription := Rearranges.description t d (c ++ (",".intercalate criteria ++ ",".intercalate checks)) "" [""]
    [""]
  have htitle := Rearranges.title t (d ++ (c ++ (",".intercalate criteria ++ ",".intercalate checks))) "" "" [""] [""]
  simp only [String.append_empty, List.nil_append] at hcriterion hcategory hdescription htitle
  have htext : text ⟨t, d, c, criteria, checks⟩
      = t ++ (d ++ (c ++ (",".intercalate criteria ++ ",".intercalate checks))) := by
    simp [text, String.append_assoc]
  rw [htext]
  exact .trans _ _ _ (.rel _ _ hcriteria) (.trans _ _ _ (.rel _ _ hchecks) (.symm _ _ (.trans _ _ _ (.rel _ _ htitle)
    (.trans _ _ _ (.rel _ _ hdescription) (.trans _ _ _ (.rel _ _ hcategory) (.rel _ _ hcriterion))))))

theorem rearranged_iff (s t : TaskSpec) : Relation.EqvGen Rearranges s t ↔ s.text = t.text := by
  constructor
  · intro h
    exact congrArg (Quot.lift text fun _ _ => Rearranges.text_eq) (Quot.eqvGen_sound h)
  · intro h
    have ht := rearranged_title t
    rw [← h] at ht
    exact .trans _ _ _ (rearranged_title s) (.symm _ _ ht)

/-- Where the fields and the items of the lists end. -/
def layout (s : TaskSpec) : (ℕ × ℕ × ℕ) × List ℕ × List ℕ :=
  ((s.title.length, s.description.length, s.category.length),
    s.successCriteria.map String.length, s.requiredChecks.map String.length)

theorem append_eq_append_of_length {a b c d : String} (h : a ++ b = c ++ d) (hlength : a.length = c.length) :
    a = c ∧ b = d := by
  have hlist := congrArg String.toList h
  rw [String.toList_append, String.toList_append] at hlist
  obtain ⟨hfirst, hsecond⟩ := List.append_inj hlist (by rwa [String.length_toList, String.length_toList])
  exact ⟨String.toList_inj.mp hfirst, String.toList_inj.mp hsecond⟩

theorem eq_of_intercalate_append : ∀ {l l' : List String} {a b : String}, l.map String.length = l'.map String.length →
    ",".intercalate l ++ a = ",".intercalate l' ++ b → l = l' ∧ a = b
  | [], [], a, b, _, h => ⟨rfl, by simpa using h⟩
  | [x], [x'], a, b, hlength, h => by
    obtain ⟨rfl, rfl⟩ := append_eq_append_of_length (by simpa using h) (by simpa using hlength)
    exact ⟨rfl, rfl⟩
  | [x], x' :: y' :: l', a, b, hlength, h => by simp at hlength
  | x :: y :: l, [x'], a, b, hlength, h => by simp at hlength
  | x :: y :: l, x' :: y' :: l', a, b, hlength, h => by
    simp only [String.intercalate_cons_cons, String.append_assoc] at h
    obtain ⟨hx, htail⟩ := List.cons.inj hlength
    obtain ⟨rfl, hcomma⟩ := append_eq_append_of_length h hx
    obtain ⟨htail, rfl⟩ := eq_of_intercalate_append htail ((String.append_right_inj ",").mp hcomma)
    exact ⟨congrArg (x :: ·) htail, rfl⟩

theorem eq_of_text_eq {s t : TaskSpec} (htext : s.text = t.text) (hlayout : s.layout = t.layout) : s = t := by
  obtain ⟨title, description, category, criteria, checks⟩ := s
  obtain ⟨title', description', category', criteria', checks'⟩ := t
  simp only [layout, Prod.mk.injEq] at hlayout
  obtain ⟨⟨ht, hd, hc⟩, hcriteria, hchecks⟩ := hlayout
  simp only [text, String.append_assoc] at htext
  obtain ⟨rfl, hafterTitle⟩ := append_eq_append_of_length htext ht
  obtain ⟨rfl, hafterDescription⟩ := append_eq_append_of_length hafterTitle hd
  obtain ⟨rfl, hlists⟩ := append_eq_append_of_length hafterDescription hc
  obtain ⟨rfl, hjoined⟩ := eq_of_intercalate_append hcriteria hlists
  obtain ⟨rfl, -⟩ := eq_of_intercalate_append hchecks (congrArg (· ++ "") hjoined)
  rfl

/-- The hash tells two specifications apart exactly if every rearrangement that leads from one to the other keeps the
    fields and items where they are. -/
theorem specHash_binds_iff {sha256 : String → List UInt8} (hinj : Function.Injective sha256) (s t : TaskSpec) :
    (s.specHash sha256 = t.specHash sha256 → s = t) ↔
      (Relation.EqvGen Rearranges s t → s.layout = t.layout) := by
  have hhash : s.specHash sha256 = t.specHash sha256 ↔ s.text = t.text := by
    constructor
    · intro h
      have hhex := congrArg hexDecode ((String.append_right_inj "sha256:").mp h)
      rw [hexDecode_hexEncode, hexDecode_hexEncode] at hhex
      exact hinj (Option.some.inj hhex)
    · intro h
      exact congrArg (fun text => "sha256:" ++ hexEncode (sha256 text)) h
  rw [hhash, rearranged_iff]
  constructor
  · intro heq htext
    rw [heq htext]
  · intro hlayout htext
    exact eq_of_text_eq htext (hlayout htext)

/-- A text as its own digest. -/
def bytes (s : String) : List UInt8 := s.toByteArray.data.toList

theorem bytes_injective : Function.Injective bytes := by
  intro s t h
  exact String.toByteArray_inj.mp (ByteArray.ext (Array.toList_inj.mp h))

/-- Two specifications with fields of equal length, and two of which one is longer than the other. -/
theorem specHash_binds_samples :
    ((mk "Audit" "the report" "ops" ["a,b", ""] ["lint"]).specHash bytes
        = (mk "Audit" "the ledger" "ops" ["a,b", ""] ["test"]).specHash bytes →
      mk "Audit" "the report" "ops" ["a,b", ""] ["lint"] = mk "Audit" "the ledger" "ops" ["a,b", ""] ["test"]) ∧
    ((mk "Audit" "the report" "ops" ["a", "b"] []).specHash bytes
        = (mk "Audit" "the report" "ops" ["a,b"] ["lint"]).specHash bytes →
      mk "Audit" "the report" "ops" ["a", "b"] [] = mk "Audit" "the report" "ops" ["a,b"] ["lint"]) := by
  constructor
  · exact (specHash_binds_iff bytes_injective _ _).mpr fun _ => by decide
  · refine (specHash_binds_iff bytes_injective _ _).mpr fun h => ?_
    exact absurd ((rearranged_iff _ _).mp h) (by decide)

/-- The last letter of the title may as well be the description, two criteria one with a comma, and no check an empty
    one. -/
theorem specHash_of_moved_letter :
    (∃ task task', newTask { sha256 := bytes, now := 0 } "poster" "ab" "" "" 1 {} = .ok task ∧
      newTask { sha256 := bytes, now := 0 } "poster" "a" "b" "" 1 {} = .ok task' ∧
      task.contract.specHash = task'.contract.specHash ∧ task.title ≠ task'.title) ∧
    (mk "t" "" "" ["a", "b"] []).specHash bytes = (mk "t" "" "" ["a,b"] [""]).specHash bytes :=
  ⟨⟨_, _, rfl, rfl, by decide +kernel, by decide +kernel⟩, by decide +kernel⟩

end TaskSpec

variable (err : Error)

namespace TaskManager

def notFound (taskID : String) : Error := .wrap "" errTaskNotFound (": " ++ taskID)

def errorOn (taskID : String) : Error := .wrap "" err (": " ++ taskID)

def statusError (taskID : String) (status : TaskStatus) : Error :=
  .wrap "" err (": " ++ taskID ++ " (status: " ++ status.text ++ ")")

/-- Change a task, unless it is unknown or the change does not apply to it. -/
def updateTask (taskID : String) (f : Task → Option Task) (m : TaskManager) : TaskManager :=
  match m.byID.lookup taskID with
  | none => m
  | some task => match f task with
    | none => m
    | some task => m.setTask taskID task

/-- The operations on one task: look it up, check it and change it, or fail and leave it. -/
def onTask {A : Type} (taskID : String) (f : Task → Except Error (A × Task)) : Method TaskManager A := fun m =>
  match m.byID.lookup taskID with
  | none => (.error (notFound taskID), m)
  | some task => match f task with
    | .error err => (.error err, m)
    | .ok (a, task) => (.ok a, m.setTask taskID task)

/-- `PostTask`. What was stored under the ID is not looked at. -/
def postTask (category : String) (budget : UInt64) (o : PostTaskOpts) : Method TaskManager Task := fun m =>
  match newTask env posterID title description category budget o with
  | .error err => (.error err, m)
  | .ok task => (.ok task, m.setTask task.id task)

def claimTask (taskID claimerID : String) : Method TaskManager Unit :=
  onTask taskID fun task => match task.status with
    | .opened =>
      if task.posterID = claimerID then .error (errorOn errSelfClaim taskID)
      else .ok ((), { task with
        claimerID
        status := .claimed
        claimedAt := env.now
        claimDeadline := env.now + env.claimDeadline })
    | .claimed => .error (errorOn errTaskAlreadyClaimed taskID)
    | status => .error (statusError errTaskNotOpen taskID status)

def submitResult (taskID claimerID resultHash resultNote resultURI : String) (ev : Option Json) :
    Method TaskManager Unit :=
  onTask taskID fun task =>
    if task.status ≠ .claimed then .error (statusError errTaskNotClaimed taskID task.status)
    else if task.claimerID ≠ claimerID then .error (errorOn errWrongClaimer taskID)
    else .ok ((), { task with
      resultHash, resultNote, resultURI
      submittedEvidence := ev <|> task.submittedEvidence
      status := .submitted
      submittedAt := env.now })

/-- `ApproveTask`. The approver is not checked. -/
def approveTask (taskID : String) : Method TaskManager Unit :=
  onTask taskID fun task =>
    if task.status ≠ .submitted then .error (statusError errTaskNotSubmitted taskID task.status)
    else .ok ((), { task with status := .completed, completedAt := env.now })

/-- `ResolveDispute`. The resolver is not checked. -/
def resolveDispute (taskID : String) (approve : Bool) : Method TaskManager Unit :=
  onTask taskID fun task =>
    if task.status ≠ .disputed then
      .error (.new ("tasks: task " ++ taskID ++ " is not in disputed state (status: " ++ task.status.text ++ ")"))
    else if approve then .ok ((), { task with status := .completed, completedAt := env.now })
    else .ok ((), { task with status := .cancelled })

def disputeTask (taskID posterID : String) : Method TaskManager Unit :=
  onTask taskID fun task =>
    if task.status ≠ .submitted then .error (statusError errTaskNotSubmitted taskID task.status)
    else if task.posterID ≠ posterID then .error (errorOn errWrongPoster taskID)
    else .ok ((), { task with status := .disputed, disputedAt := env.now })

def cancelTask (taskID posterID : String) : Method TaskManager Unit :=
  onTask taskID fun task =>
    if task.status ≠ .opened then .error (statusError errTaskNotOpen taskID task.status)
    else if task.posterID ≠ posterID then .error (errorOn errWrongPoster taskID)
    else .ok ((), { task with status := .cancelled })

/-- `ReleaseTask`, with the former claimer. -/
def releaseTask (taskID : String) : Method TaskManager String :=
  onTask taskID fun task =>
    if task.status ≠ .claimed then
      .error (.new ("tasks: task " ++ taskID ++ " is not claimed (status: " ++ task.status.text ++ ")"))
    else .ok (task.claimerID, { task with status := .opened, claimerID := "", claimedAt := 0, claimDeadline := 0 })

/-- `RejectSubmission`, with the former claimer and whether the task is closed. -/
def rejectSubmission (taskID : String) : Method TaskManager (String × Bool) :=
  onTask taskID fun task =>
    if task.status ≠ .submitted then .error (statusError errTaskNotSubmitted taskID task.status)
    else
      let rejected := { task with rejectionCount := task.rejectionCount + 1 }
      if maxRejections ≤ rejected.rejectionCount then
        .ok ((task.claimerID, true), { rejected with status := .cancelled, completedAt := env.now })
      else
        .ok ((task.claimerID, false), { rejected with
          status := .opened
          claimerID := ""
          claimedAt := 0
          claimDeadline := 0
          submittedAt := 0
          resultHash := ""
          resultNote := ""
          resultContent := ""
          resultURI := ""
          submittedEvidence := none })

def generateID (parent : String) (m : TaskManager) : String :=
  hexEncode ((env.sha256 (parent ++ ":" ++ toString env.now ++ ":" ++ toString m.byID.len)).take 16)

/-- The checks of `CreateSubtask`, with the parent they pass. -/
def subtaskParent (parentTaskID claimerID title : String) (budget : UInt64) (m : TaskManager) : Except Error Task :=
  if title = "" then .error (.new "tasks: title required")
  else if budget = 0 then .error (.new "tasks: budget must be > 0")
  else match m.byID.lookup parentTaskID with
    | none => .error (notFound parentTaskID)
    | some parent =>
      if parent.status ≠ .claimed then .error (statusError errTaskNotClaimed parentTaskID parent.status)
      else if parent.claimerID ≠ claimerID then .error (errorOn errNotClaimer parentTaskID)
      else if parent.budget < budget then
        .error (.new s!"tasks: subtask budget {budget} exceeds parent remaining budget {parent.budget}")
      else .ok parent

/-- `CreateSubtask`. What was stored under the generated ID is not looked at. -/
def createSubtask (parentTaskID claimerID title description category : String) (budget : UInt64) :
    Method TaskManager Task := fun m =>
  match m.subtaskParent parentTaskID claimerID title budget with
  | .error err => (.error err, m)
  | .ok parent =>
    let subtask : Task :=
      { id := m.generateID env parentTaskID
        title, description, category, budget
        posterID := claimerID
        status := .opened
        postedAt := env.now
        parentTaskID
        isSubtask := true }
    let parent := { parent with
      budget := parent.budget - budget
      subtaskIDs := parent.subtaskIDs ++ [subtask.id] }
    -- the parent is changed in place, then the new task is put into the map
    (.ok subtask, (m.setTask parentTaskID parent).setTask subtask.id subtask)

def setSubmittedEvidence (taskID : String) (ev : Json) : TaskManager → TaskManager :=
  updateTask taskID fun task => some { task with submittedEvidence := some ev }

/-- `SetResultContent`, whose only error is that of an unknown task. -/
def setResultContent (taskID content : String) (encrypted : Bool) : Method TaskManager Unit :=
  onTask taskID fun task => .ok ((), { task with resultContent := content, resultEncrypted := encrypted })

def markEvidenceReady (taskID : String) : TaskManager → TaskManager :=
  updateTask taskID fun task => if task.evidenceReady then none else some { task with evidenceReady := true }

section Lookup

variable {m : TaskManager} {taskID : String}

theorem lookup_setTask (k : String) (task : Task) :
    (m.setTask taskID task).byID.lookup k = if k = taskID then some task else m.byID.lookup k :=
  Finmap.lookup_insert_eq m.byID taskID k task

theorem setTask_setTask (task task' : Task) : (m.setTask taskID task).setTask taskID task' = m.setTask taskID task' :=
  congrArg TaskManager.mk (Finmap.insert_insert m.byID)

theorem lookup_updateTask (f : Task → Option Task) (k : String) :
    (m.updateTask taskID f).byID.lookup k =
      if k = taskID then (m.byID.lookup k).map fun task => (f task).getD task else m.byID.lookup k := by
  unfold updateTask
  split_ifs with hk
  · subst hk
    cases hlookup : m.byID.lookup k with
    | none => exact hlookup
    | some task => cases hf : f task with
      | none => simp only [hf, hlookup, Option.map_some, Option.getD_none]
      | some task' =>
        simp only [hf, Option.map_some, Option.getD_some]
        rw [lookup_setTask, if_pos rfl]
  · cases m.byID.lookup taskID with
    | none => rfl
    | some task => cases hf : f task with
      | none => simp only [hf]
      | some task' =>
        simp only [hf]
        rw [lookup_setTask, if_neg hk]

theorem onTask_snd {A : Type} (f : Task → Except Error (A × Task)) :
    (onTask taskID f m).2 = m.updateTask taskID fun task => (f task).toOption.map Prod.snd := by
  unfold onTask updateTask
  cases m.byID.lookup taskID with
  | none => rfl
  | some task =>
    dsimp only
    cases f task with
    | error err => rfl
    | ok result => rfl

end Lookup

end TaskManager

/-- The operations of the manager, apart from `ApplyDAGEvent`. -/
inductive Operation where
  | postTask (posterID title description category : String) (budget : UInt64) (o : PostTaskOpts)
  | claimTask (taskID claimerID : String)
  | submitResult (taskID claimerID resultHash resultNote resultURI : String) (ev : Option Json)
  | approveTask (taskID : String)
  | disputeTask (taskID posterID : String)
  | resolveDispute (taskID : String) (approve : Bool)
  | applyVerificationConsensusResolution (taskID verdict : String)
  | cancelTask (taskID posterID : String)
  | releaseTask (taskID : String)
  | rejectSubmission (taskID : String)
  | createSubtask (parentTaskID claimerID title description category : String) (budget : UInt64)

namespace Operation

def call : Operation → Method TaskManager Unit
  | postTask posterID title description category budget o =>
    (TaskManager.postTask env posterID title description category budget o).discard
  | claimTask taskID claimerID => TaskManager.claimTask env taskID claimerID
  | submitResult taskID claimerID resultHash resultNote resultURI ev =>
    TaskManager.submitResult env taskID claimerID resultHash resultNote resultURI ev
  | approveTask taskID => TaskManager.approveTask env taskID
  | disputeTask taskID posterID => TaskManager.disputeTask env taskID posterID
  | resolveDispute taskID approve => TaskManager.resolveDispute env taskID approve
  | applyVerificationConsensusResolution taskID verdict =>
    TaskManager.applyVerificationConsensusResolution env.now taskID verdict
  | cancelTask taskID posterID => TaskManager.cancelTask taskID posterID
  | releaseTask taskID => (TaskManager.releaseTask taskID).discard
  | rejectSubmission taskID => (TaskManager.rejectSubmission env taskID).discard
  | createSubtask parentTaskID claimerID title description category budget =>
    (TaskManager.createSubtask env parentTaskID claimerID title description category budget).discard

/-- The manager after a call of the operation, accepted or not. -/
def perform (m : TaskManager) (op : Operation) : TaskManager := (op.call env m).2

end Operation

end aethernet.tasks
