import Aethernet.Recognition.DeliveryPaths
import Aethernet.Transition.Invariant

open golang aethernet event taskverification transition

namespace aethernet.taskverification

inductive SlashingType where
  | soft
  | hard
  deriving DecidableEq, Repr

structure SlashingAction where
  validatorID : AgentID
  type : SlashingType
  reason : String
  stakePenaltyBP : UInt64 := 0
  reputationPenalty : ℤ := 0
  deriving DecidableEq

/-- `SlashingPolicy`, without the challenge window and the limits that only the reputation is compared with. -/
structure SlashingPolicy where
  softSlashingEnabled : Bool := true
  hardSlashingEnabled : Bool := true
  equivocationAutoSlash : Bool := true
  equivocationStakePenaltyBP : UInt64 := 3000
  systematicDivergenceStakePenaltyBP : UInt64 := 1000

/-- `SlashingEvaluator`. `isCalibrated` is what the calibration store answers for a category and a family; `diverges` is
    whether the reputation store has enough votes of the validator with an agreement rate below the threshold. -/
structure SlashingEvaluator where
  policy : SlashingPolicy := {}
  isCalibrated : Option (String → String → Except Error Bool) := none
  diverges : Option (AgentID → String → String → Bool) := none

/-- What `detectEquivocators` keeps: the first vote under each key, and the validators it found. -/
structure Detection where
  first : Map (AgentID × String) (Verdict × UInt64) := ∅
  equivocators : List AgentID := []

/-- One round of the loop of `detectEquivocators`. -/
def Detection.visit (d : Detection) (v : TaskVerificationVoteRecord) : Detection :=
  match d.first.lookup (v.validatorID, v.analyzerFamily) with
  | some prev =>
    if (prev.1 ≠ v.verdict ∨ prev.2 ≠ v.scoreBP) ∧ v.validatorID ∉ d.equivocators then
      { d with equivocators := d.equivocators ++ [v.validatorID] }
    else d
  | none => { d with first := d.first.insert (v.validatorID, v.analyzerFamily) (v.verdict, v.scoreBP) }

def detectEquivocators (round : TaskVerificationRound) : List AgentID :=
  (round.votes.foldl Detection.visit {}).equivocators

namespace SlashingEvaluator

variable (e : SlashingEvaluator) (round : TaskVerificationRound)

def calibrated (family : String) : Bool :=
  match e.isCalibrated with
  | none => true
  | some isCalibrated => match isCalibrated round.category family with
    | .error _ => false
    | .ok calibrated => calibrated

/-- The actions for one vote of the round. -/
def voteActions (vote : TaskVerificationVoteRecord) : List SlashingAction :=
  if !e.calibrated round vote.analyzerFamily then []
  else
    (if e.policy.softSlashingEnabled ∧ vote.verdict ≠ round.finalVerdict ∧ vote.verdict ≠ .abstain then
      [{ validatorID := vote.validatorID, type := .soft, reason := "deviation from consensus", reputationPenalty := 1 }]
    else []) ++
    (if e.policy.hardSlashingEnabled ∧ vote.verdict ≠ round.finalVerdict ∧
        e.diverges.any (· vote.validatorID vote.analyzerFamily round.category) then
      [{ validatorID := vote.validatorID, type := .hard
         reason := "systematic divergence: agreement rate below threshold"
         stakePenaltyBP := e.policy.systematicDivergenceStakePenaltyBP }]
    else [])

def equivocation (vid : AgentID) : SlashingAction where
  validatorID := vid
  type := .hard
  reason := "equivocation: conflicting votes for same family"
  stakePenaltyBP := e.policy.equivocationStakePenaltyBP

def evaluateRound : List SlashingAction :=
  if !round.isTerminal then []
  else
    round.votes.flatMap (e.voteActions round) ++
      if e.policy.hardSlashingEnabled ∧ e.policy.equivocationAutoSlash then
        (detectEquivocators round).map e.equivocation
      else []

/-- The evaluator returns an equivocation action for the validator. -/
def Reports (v : AgentID) : Prop := e.equivocation v ∈ e.evaluateRound round

instance (v : AgentID) : Decidable (e.Reports round v) := inferInstanceAs (Decidable (_ ∈ _))

end SlashingEvaluator

/-- Two of the votes are by the validator and for one family, and differ in verdict or score. -/
def Equivocated (v : AgentID) (votes : List TaskVerificationVoteRecord) : Prop :=
  ∃ a ∈ votes, ∃ b ∈ votes, a.validatorID = v ∧ b.validatorID = v ∧ a.analyzerFamily = b.analyzerFamily ∧
    (a.verdict ≠ b.verdict ∨ a.scoreBP ≠ b.scoreBP)

instance (v : AgentID) (votes : List TaskVerificationVoteRecord) : Decidable (Equivocated v votes) :=
  inferInstanceAs (Decidable (∃ a ∈ votes, ∃ b ∈ votes, _))

def TaskVerificationRound.Once (round : TaskVerificationRound) : Prop :=
  (round.votes.map fun v => (v.validatorID, v.analyzerFamily)).Nodup

section Detection

variable {e : SlashingEvaluator} {round : TaskVerificationRound} {v : AgentID}

theorem equivocators_foldl {votes : List TaskVerificationVoteRecord} {d : Detection}
    (honce : (votes.map fun v => (v.validatorID, v.analyzerFamily)).Nodup)
    (hunseen : ∀ v ∈ votes, d.first.lookup (v.validatorID, v.analyzerFamily) = none) :
    (votes.foldl Detection.visit d).equivocators = d.equivocators := by
  induction votes generalizing d with
  | nil => rfl
  | cons vote votes ih =>
    obtain ⟨hnew, hrest⟩ := List.nodup_cons.mp honce
    rw [List.foldl_cons, Detection.visit, hunseen vote (List.mem_cons_self ..)]
    refine ih hrest fun v hv => ?_
    have hne : (v.validatorID, v.analyzerFamily) ≠ (vote.validatorID, vote.analyzerFamily) := fun heq =>
      hnew (List.mem_map.mpr ⟨v, hv, heq⟩)
    rw [Finmap.lookup_insert_of_ne _ hne, hunseen v (List.mem_cons_of_mem _ hv)]

theorem equivocation_notMem_voteActions (vote : TaskVerificationVoteRecord) :
    e.equivocation v ∉ e.voteActions round vote := by
  have hsoft : "equivocation: conflicting votes for same family" ≠ "deviation from consensus" := by decide
  have hhard : "equivocation: conflicting votes for same family" ≠
    "systematic divergence: agreement rate below threshold" := by decide
  intro hmem
  have hreason : ∀ a ∈ e.voteActions round vote, a.reason = "deviation from consensus" ∨
      a.reason = "systematic divergence: agreement rate below threshold" := by
    unfold SlashingEvaluator.voteActions
    intro a ha
    split_ifs at ha <;> simp at ha <;> aesop
  exact (hreason _ hmem).elim hsoft hhard

theorem detected_of_reports (h : e.Reports round v) : v ∈ detectEquivocators round := by
  have hvotes : e.equivocation v ∉ round.votes.flatMap (e.voteActions round) := by
    simp [equivocation_notMem_voteActions]
  unfold SlashingEvaluator.Reports SlashingEvaluator.evaluateRound at h
  split_ifs at h with hterminal henabled
  · cases h
  · obtain hvote | hfound := List.mem_append.mp h
    · exact absurd hvote hvotes
    · obtain ⟨found, hmem, heq⟩ := List.mem_map.mp hfound
      cases congrArg SlashingAction.validatorID heq
      exact hmem
  · exact absurd (by simpa using h) hvotes

theorem not_reports_of_once (honce : round.Once) : ¬ e.Reports round v := by
  intro hreports
  have hdetected := detected_of_reports hreports
  rw [detectEquivocators, equivocators_foldl honce fun v _ => Finmap.lookup_empty _] at hdetected
  cases hdetected

theorem once_recordVote {vote : TaskVerificationVoteRecord} (honce : round.Once) (hnew : round.NewTo vote) :
    (round.recordVote vote).Once := by
  rw [TaskVerificationRound.Once, votes_recordVote, List.map_append, List.nodup_append]
  refine ⟨honce, List.nodup_singleton _, ?_⟩
  rintro _ hmem _ hvote rfl
  obtain ⟨v, hv, heq⟩ := List.mem_map.mp hmem
  cases List.mem_singleton.mp hvote
  exact hnew v hv ⟨congrArg Prod.fst heq, congrArg Prod.snd heq⟩

end Detection

end aethernet.taskverification

namespace aethernet.recognition

/-- The vote that an event sends to a round, if its validator is eligible and its verdict is one. -/
def Delivery.sent (id : RoundID) (d : Delivery) : Option TaskVerificationVoteRecord :=
  match json.unmarshal TaskVerificationVotePayload.decoder d.ev.payload with
  | .error _ => none
  | .ok payload => if payload.roundID = id then eligibleVote d.env payload else none

/-- The round is stored and open. -/
def IsOpen (id : RoundID) (s : Rounds) : Prop := (s.stored.lookup id).map (·.state) = some .opened

instance (id : RoundID) (s : Rounds) : Decidable (IsOpen id s) := inferInstanceAs (Decidable (_ = _))

section Runs

variable {c : TaskVerificationVoteConsumer} {s : Rounds} {id : RoundID} {round : TaskVerificationRound}

theorem once_update (d : Delivery) (vote : TaskVerificationVoteRecord) (hopen : round.state = .opened)
    (honce : round.Once) : (d.update c vote round).Once := by
  have hterminal := isTerminal_eq_false.mpr hopen
  unfold Delivery.update syncRound TaskVerificationVoteConsumer.consumeRound
  simp only [hterminal, Bool.false_eq_true, if_false]
  split
  · obtain ⟨hnew, result, -, happly⟩ | ⟨-, ⟨result, -, happly⟩ | ⟨result, err, -, happly⟩⟩ :=
      applyVoteToRound_of_open vote hopen
    · rw [happly]
      exact once_recordVote honce hnew
    · rwa [happly]
    · rwa [happly]
  · split_ifs with hnew
    · have hvotes : (c.finalizedRound d.env (round.recordVote vote)).votes = (round.recordVote vote).votes := by
        unfold TaskVerificationVoteConsumer.finalizedRound
        split <;> rfl
      rw [TaskVerificationRound.Once, hvotes]
      exact once_recordVote honce hnew
    · exact honce

/-- The rounds are filed, and the one of this ID keeps to one vote each. -/
def Kept (id : RoundID) (s : Rounds) : Prop := s.Filed ∧ ∀ round, s.stored.lookup id = some round → round.Once

theorem Kept.deliver (h : Kept id s) (d : Delivery) (hopen : IsOpen id s) : Kept id (c.deliver s d) := by
  refine ⟨Filed.deliver h.1 d, fun after hafter => ?_⟩
  rw [lookup_deliver h.1] at hafter
  obtain ⟨round, hround, rfl⟩ := Option.map_eq_some_iff.mp hafter
  have hstate : round.state = .opened := by simpa [IsOpen, hround] using hopen
  cases d.cast id with
  | none => exact h.2 round hround
  | some vote => exact once_update d vote hstate (h.2 round hround)

end Runs

/-- When equivocation is reported. Vote events reach an open round that nobody has voted on, all before it is closed,
    and it is closed with the votes it has then. The evaluator reports exactly the validators that equivocated if and
    only if there are none, whatever the policy. -/
theorem reports_equivocated_iff (e : SlashingEvaluator) (c : TaskVerificationVoteConsumer) {s : Rounds} {id : RoundID}
    {round₀ round closed : TaskVerificationRound} (hfiled : s.Filed) (hlookup : s.stored.lookup id = some round₀)
    (hfresh : round₀.votes = []) {deliveries : List Delivery}
    (hopen : MeetsAlong c.deliver (fun s _ => IsOpen id s) s deliveries)
    (hround : (deliveries.foldl c.deliver s).stored.lookup id = some round) (hclosed : closed.votes = round.votes) :
    (∀ v, e.Reports closed v ↔ Equivocated v (deliveries.filterMap (Delivery.sent id))) ↔
      ∀ v, ¬ Equivocated v (deliveries.filterMap (Delivery.sent id)) := by
  have hkept : Kept id s := by
    refine ⟨hfiled, fun found hfound => ?_⟩
    cases hlookup.symm.trans hfound
    simp [TaskVerificationRound.Once, hfresh]
  have hafter : Kept id (deliveries.foldl c.deliver s) :=
    invariant_of_meetsAlong hkept (fun s d h hopen => h.deliver d hopen) hopen
  have honce : closed.Once := by
    rw [TaskVerificationRound.Once, hclosed]
    exact hafter.2 round hround
  refine forall_congr' fun v => ?_
  simp [not_reports_of_once honce]

section Sample

/-- A vote of the first validator that contradicts its pass vote. -/
def contradiction : Delivery where
  path := .consumer
  env := sampleEnv
  ev := { passVote "ka" "llm_semantic" with
    id := "second vote of ka"
    payload := .document (.obj
      [("round_id", .str sampleRound.roundID), ("validator_id", .str "ka"), ("verdict", .str "fail"),
        ("score_bp", .num "1000"), ("analyzer_family", .str "llm_semantic")]) }

/-- The sample round after two votes. -/
def votedTwice : TaskVerificationRound :=
  collected sampleRound.roundID sampleRound [voteOfA .consumer, voteOfB .consumer]

theorem reports_equivocated_iff_twoVotes :
    (∀ v, ({} : SlashingEvaluator).Reports { votedTwice with state := .disputed } v ↔
      Equivocated v ([voteOfA .consumer, voteOfB .consumer].filterMap (Delivery.sent sampleRound.roundID))) ↔
    ∀ v, ¬ Equivocated v ([voteOfA .consumer, voteOfB .consumer].filterMap (Delivery.sent sampleRound.roundID)) := by
  have hvotes : (([voteOfA .consumer, voteOfB .consumer].foldl sampleConsumer.deliver sampleRounds).stored.lookup
      sampleRound.roundID).map (·.votes) = some votedTwice.votes := by
    decide +kernel
  obtain ⟨round, hround, heq⟩ := Option.map_eq_some_iff.mp hvotes
  exact reports_equivocated_iff _ sampleConsumer sampleRounds_filed (Finmap.lookup_insert _) rfl (by decide +kernel)
    hround heq.symm

/-- The first validator passes and fails the work, and the round is accepted with the votes of the other two. The stored
    round has only the first of its votes, and nobody is reported. -/
theorem equivocation_unreported :
    let deliveries := [voteOfA .consumer, contradiction, voteOfB .consumer, voteOfC .consumer]
    Equivocated "ka" (deliveries.filterMap (Delivery.sent sampleRound.roundID)) ∧
    ((deliveries.foldl sampleConsumer.deliver sampleRounds).stored.lookup sampleRound.roundID).map
      (fun round => (round.isTerminal, round.votes.length, decide (({} : SlashingEvaluator).Reports round "ka"))) =
        some (true, 3, false) := by
  decide +kernel

end Sample

end aethernet.recognition
