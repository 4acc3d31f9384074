import Aethernet.TaskVerification.Finalizer
import Aethernet.ValidatorLifecycle.Snapshot
import Aethernet.Quorum.Weighted

open golang aethernet validatorlifecycle taskverification.TaskVerificationRound

namespace aethernet.taskverification

/-- The vote carries a weight the snapshot answers for its validator. -/
def TaskVerificationVoteRecord.Weighs (vs : ValidatorSnapshot) (vote : TaskVerificationVoteRecord) : Prop :=
  ∃ order, vs.seats.Visits order ∧ vs.voteWeightByKey order vote.validatorID = some vote.stake

/-- The weight of the votes with a verdict; the sum wraps. -/
def weightOf (verdict : Verdict) (votes : List TaskVerificationVoteRecord) : UInt64 :=
  (votes.map fun v => if v.verdict = verdict then v.stake else 0).sum

namespace TaskVerificationRound

/-- The analyzer families of these votes, the empty one included. -/
def familiesOf (votes : List TaskVerificationVoteRecord) : Finset String :=
  (votes.map (·.analyzerFamily)).toFinset

/-- The totals are those of the recorded votes, of which a validator has at most one in each family. -/
structure Tallied (r : TaskVerificationRound) : Prop where
  once : (r.votes.map fun v => (v.validatorID, v.analyzerFamily)).Nodup
  passWeight : r.passWeight = weightOf .pass r.votes
  failWeight : r.failWeight = weightOf .fail r.votes
  abstainWeight : r.abstainWeight = weightOf .abstain r.votes

end TaskVerificationRound

/-- What these validators count with by these votes: each with the weight of its seats, once for every family it votes
    in. -/
def countedWeight (vs : ValidatorSnapshot) (votes : List TaskVerificationVoteRecord) (keys : Finset AgentID) : ℕ :=
  ∑ k ∈ keys, (familiesOf (votes.filter fun v => v.validatorID = k)).card * vs.heldWeight {k}

/-- A sequence of `ApplyVoteToRound` calls; errors leave the round to the next vote. -/
def applyVotes (votes : List TaskVerificationVoteRecord) (round : TaskVerificationRound) :
    TaskVerificationRound :=
  votes.foldl (fun round vote => (applyVoteToRound vote round).2) round

section Tally

variable {round : TaskVerificationRound}

theorem weightOf_append (verdict : Verdict) (votes : List TaskVerificationVoteRecord)
    (vote : TaskVerificationVoteRecord) :
    weightOf verdict (votes ++ [vote]) =
      weightOf verdict votes + if vote.verdict = verdict then vote.stake else 0 := by
  simp [weightOf]

variable (vote : TaskVerificationVoteRecord)

theorem applyVoteToRound_cases (round : TaskVerificationRound) : (applyVoteToRound vote round).2 = round ∨
      (round.state = .opened ∧ (∀ v ∈ round.votes,
          ¬ (v.validatorID = vote.validatorID ∧ v.analyzerFamily = vote.analyzerFamily)) ∧
        (applyVoteToRound vote round).2 = round.recordVote vote) := by
  unfold applyVoteToRound
  by_cases hstate : round.state ≠ .opened
  · rw [if_pos hstate]
    exact .inl rfl
  · rw [if_neg hstate]
    cases hfind : round.votes.find? fun existing =>
        existing.validatorID = vote.validatorID ∧ existing.analyzerFamily = vote.analyzerFamily with
    | some existing =>
      dsimp only
      split_ifs <;> exact .inl rfl
    | none =>
      refine .inr ⟨not_not.mp hstate, fun v hv => ?_, rfl⟩
      simpa using List.find?_eq_none.mp hfind v hv

theorem votes_recordVote (round : TaskVerificationRound) : (round.recordVote vote).votes = round.votes ++ [vote] := by
  unfold recordVote
  cases vote.verdict <;> rfl

theorem weights_recordVote (round : TaskVerificationRound) :
    (round.recordVote vote).passWeight = round.passWeight + (if vote.verdict = .pass then vote.stake else 0) ∧
    (round.recordVote vote).failWeight = round.failWeight + (if vote.verdict = .fail then vote.stake else 0) ∧
    (round.recordVote vote).abstainWeight =
      round.abstainWeight + (if vote.verdict = .abstain then vote.stake else 0) := by
  unfold recordVote
  cases vote.verdict <;> simp

theorem Tallied.applyVoteToRound (h : round.Tallied) (vote : TaskVerificationVoteRecord) :
    (applyVoteToRound vote round).2.Tallied := by
  obtain hsame | ⟨-, hfresh, hrecord⟩ := applyVoteToRound_cases vote round
  · rw [hsame]
    exact h
  · rw [hrecord]
    obtain ⟨hpass, hfail, habstain⟩ := weights_recordVote vote round
    refine ⟨?_, ?_, ?_, ?_⟩
    · rw [votes_recordVote, List.map_append, List.map_singleton, List.nodup_append_comm]
      refine List.nodup_cons.mpr ⟨fun hmem => ?_, h.once⟩
      obtain ⟨v, hv, heq⟩ := List.mem_map.mp hmem
      rw [Prod.mk.injEq] at heq
      exact hfresh v hv heq
    · rw [hpass, votes_recordVote, weightOf_append, h.passWeight]
    · rw [hfail, votes_recordVote, weightOf_append, h.failWeight]
    · rw [habstain, votes_recordVote, weightOf_append, h.abstainWeight]

variable {sha256 : String → List UInt8} {p : OpenRoundParams}

theorem eq_of_openRound (h : openRound sha256 p = .ok round) : round =
      { roundID := newRoundID sha256 p.submissionEventID
        taskID := p.taskID
        submissionEventID := p.submissionEventID
        workerID := p.workerID
        posterID := p.posterID
        category := p.category
        validatorSetVersion := p.validatorSetVersion
        committee := p.committee
        analyzerPolicyID := p.analyzerPolicyID
        diversityFloor := p.diversityFloor
        acceptanceThresholdBP := p.acceptanceThresholdBP
        openedAtUnix := p.now
        deadlineUnix := p.now + p.deadlineSeconds
        state := .opened } := by
  unfold openRound at h
  split_ifs at h
  exact (Except.ok.inj h).symm

theorem state_openRound (h : openRound sha256 p = .ok round) : round.state = .opened := by
  rw [eq_of_openRound h]

theorem tallied_openRound (h : openRound sha256 p = .ok round) : round.Tallied ∧ round.votes = [] := by
  rw [eq_of_openRound h]
  exact ⟨⟨List.nodup_nil, rfl, rfl, rfl⟩, rfl⟩

theorem tallied_applyVotes (h : round.Tallied) (votes : List TaskVerificationVoteRecord) :
    (applyVotes votes round).Tallied ∧ ∀ v ∈ (applyVotes votes round).votes, v ∈ round.votes ∨ v ∈ votes := by
  induction votes generalizing round with
  | nil => exact ⟨h, fun v hv => .inl hv⟩
  | cons vote votes ih =>
    obtain ⟨htallied, hmem⟩ := ih (Tallied.applyVoteToRound h vote)
    refine ⟨htallied, fun v hv => ?_⟩
    rcases hmem v hv with hbefore | hlater
    · obtain hsame | ⟨-, -, hrecord⟩ := applyVoteToRound_cases vote round
      · rw [hsame] at hbefore
        exact .inl hbefore
      · rw [hrecord, votes_recordVote] at hbefore
        rcases List.mem_append.mp hbefore with hold | hnew
        · exact .inl hold
        · exact .inr (List.mem_cons.mpr (.inl (List.mem_singleton.mp hnew)))
    · exact .inr (List.mem_cons_of_mem vote hlater)

end Tally

section Weights

variable {vs : ValidatorSnapshot} {votes : List TaskVerificationVoteRecord}

theorem heldWeight_singleton {seats : List ValidatorSeat} (hseats : vs.seats.Visits seats) (k : AgentID) :
    vs.heldWeight {k} = quorum.heldUnder ValidatorSeat.operatorKey vs.voteWeight seats k := by
  simp only [ValidatorSnapshot.heldWeight, Finset.mem_singleton]
  exact (hseats.sum_map _).symm

theorem stake_le_heldWeight {vote : TaskVerificationVoteRecord} (h : vote.Weighs vs) :
    vote.stake.toNat ≤ vs.heldWeight {vote.validatorID} := by
  obtain ⟨order, horder, hweight⟩ := h
  have hkeyed : vote.stake.toNat =
      quorum.keyedWeight ValidatorSeat.operatorKey vs.voteWeight order vote.validatorID := by
    obtain ⟨seat, hfind, hseat⟩ := Option.bind_eq_some_iff.mp hweight
    rw [quorum.keyedWeight, hfind, Option.map_some, Option.getD_some, ValidatorSnapshot.voteWeight, hseat,
      Option.getD_some]
  rw [hkeyed, heldWeight_singleton horder]
  exact quorum.keyedWeight_le_heldUnder _ _ order _

theorem sum_stake_le (honce : (votes.map fun v => (v.validatorID, v.analyzerFamily)).Nodup)
    (hweighs : ∀ v ∈ votes, v.Weighs vs) {keys : Finset AgentID} (hkeys : ∀ v ∈ votes, v.validatorID ∈ keys) :
    (votes.map fun v => v.stake.toNat).sum ≤ countedWeight vs votes keys :=
  quorum.sum_stake_le_sum_card_mul honce (fun v hv => stake_le_heldWeight (hweighs v hv)) hkeys

theorem countedWeight_le (hactive : vs.totalActiveWeight.toNat = vs.seats.sumBy vs.voteWeight)
    (hone : ∀ k, (familiesOf (votes.filter fun v => v.validatorID = k)).card ≤ 1) (keys : Finset AgentID) :
    countedWeight vs votes keys ≤ vs.totalActiveWeight.toNat := by
  obtain ⟨seats, hseats⟩ := vs.seats.exists_visits
  calc countedWeight vs votes keys
      ≤ ∑ k ∈ keys, quorum.heldUnder ValidatorSeat.operatorKey vs.voteWeight seats k := by
        refine Finset.sum_le_sum fun k _ => ?_
        rw [← heldWeight_singleton hseats]
        exact (Nat.mul_le_mul_right _ (hone k)).trans (one_mul _).le
    _ = (seats.map fun seat => if seat.operatorKey ∈ keys then vs.voteWeight seat else 0).sum :=
        quorum.sum_heldUnder _ _ seats keys
    _ ≤ (seats.map vs.voteWeight).sum := quorum.sum_map_ite_le _ seats _
    _ = vs.totalActiveWeight.toNat := by rw [hseats.sum_map, hactive]

theorem toNat_weightOf_le (verdict : Verdict) (votes : List TaskVerificationVoteRecord) :
    (weightOf verdict votes).toNat ≤
      (votes.map fun v => if v.verdict = verdict then v.stake.toNat else 0).sum := by
  refine (toNat_sum_map_le votes _).trans (List.sum_le_sum fun v _ => ?_)
  split_ifs <;> simp

theorem weightOf_add_le (votes : List TaskVerificationVoteRecord) :
    (weightOf .pass votes).toNat + (weightOf .fail votes).toNat + (weightOf .abstain votes).toNat ≤
      (votes.map fun v => v.stake.toNat).sum :=
  calc (weightOf .pass votes).toNat + (weightOf .fail votes).toNat + (weightOf .abstain votes).toNat
      ≤ (votes.map fun v => if v.verdict = .pass then v.stake.toNat else 0).sum
        + (votes.map fun v => if v.verdict = .fail then v.stake.toNat else 0).sum
        + (votes.map fun v => if v.verdict = .abstain then v.stake.toNat else 0).sum := by
        have hpass := toNat_weightOf_le .pass votes
        have hfail := toNat_weightOf_le .fail votes
        have habstain := toNat_weightOf_le .abstain votes
        omega
    _ = (votes.map fun v => (if v.verdict = .pass then v.stake.toNat else 0)
          + (if v.verdict = .fail then v.stake.toNat else 0)
          + if v.verdict = .abstain then v.stake.toNat else 0).sum := by
        rw [← List.sum_map_add, ← List.sum_map_add]
    _ ≤ (votes.map fun v => v.stake.toNat).sum := by
        refine List.sum_le_sum fun v _ => ?_
        cases v.verdict <;> simp

theorem toNat_weightOf_le_counted (honce : (votes.map fun v => (v.validatorID, v.analyzerFamily)).Nodup)
    (hweighs : ∀ v ∈ votes, v.Weighs vs) {verdict : Verdict} {keys : Finset AgentID}
    (hkeys : ∀ v ∈ votes, v.verdict = verdict → v.validatorID ∈ keys) :
    (weightOf verdict votes).toNat ≤ countedWeight vs (votes.filter (·.verdict = verdict)) keys := by
  have hmem : ∀ v ∈ votes.filter (·.verdict = verdict), v ∈ votes ∧ v.verdict = verdict :=
    fun v hv => by simpa using List.mem_filter.mp hv
  refine (toNat_weightOf_le verdict votes).trans ?_
  rw [quorum.sum_map_ite_eq_sum_filter]
  exact sum_stake_le ((List.filter_sublist.map _).nodup honce) (fun v hv => hweighs v (hmem v hv).1)
    fun v hv => hkeys v (hmem v hv).1 (hmem v hv).2

end Weights

/-- The weights of a round opened by `OpenRound` after any votes that carry the snapshot's vote weights, where the
    active weight of the snapshot is the sum of its seats' vote weights. A validator counts at most once in each family
    it votes in: all totals together are at most the weight the voters count with, which is at most the active weight if
    none of them votes in two families. Validators that count with less than the threshold by their pass (fail) votes
    bring no acceptance (rejection) when nobody else votes pass (fail). -/
theorem weights_sound {vs : ValidatorSnapshot}
    (hactive : vs.totalActiveWeight.toNat = vs.seats.sumBy vs.voteWeight) {sha256 : String → List UInt8}
    {p : OpenRoundParams} {opened : TaskVerificationRound} (hopen : openRound sha256 p = .ok opened)
    {votes : List TaskVerificationVoteRecord} (hweighs : ∀ vote ∈ votes, vote.Weighs vs) :
    let round := applyVotes votes opened
    let total := round.passWeight.toNat + round.failWeight.toNat + round.abstainWeight.toNat
    round.Tallied ∧
    total ≤ countedWeight vs round.votes (round.votes.map (·.validatorID)).toFinset ∧
    ((∀ k, (familiesOf (round.votes.filter fun v => v.validatorID = k)).card ≤ 1) →
      total ≤ vs.totalActiveWeight.toNat) ∧
    ∀ (config : FinalizerConfig) (now : Int64) (keys : Finset AgentID), ∀ verdict ∈ [Verdict.pass, Verdict.fail],
      (∀ v ∈ round.votes, v.verdict = verdict → v.validatorID ∈ keys) →
      countedWeight vs (round.votes.filter (·.verdict = verdict)) keys <
        (ceilMulDiv vs.totalActiveWeight config.bftThresholdBP 10000).toNat →
      ¬ ((config.evaluate round vs.totalActiveWeight now).shouldFinalize = true ∧
        (config.evaluate round vs.totalActiveWeight now).verdict = verdict) := by
  obtain ⟨htallied₀, hempty⟩ := tallied_openRound hopen
  intro round total
  obtain ⟨htallied, hvotes⟩ := tallied_applyVotes htallied₀ votes
  have hall : ∀ v ∈ round.votes, v.Weighs vs := by
    intro v hv
    rcases hvotes v hv with hold | hnew
    · rw [hempty] at hold
      cases hold
    · exact hweighs v hnew
  have htotal : total ≤ countedWeight vs round.votes (round.votes.map (·.validatorID)).toFinset := by
    have hsum := sum_stake_le htallied.once hall
      (fun v hv => List.mem_toFinset.mpr (List.mem_map_of_mem (f := (·.validatorID)) hv))
    have hadd := weightOf_add_le round.votes
    rw [← htallied.passWeight, ← htallied.failWeight, ← htallied.abstainWeight] at hadd
    exact hadd.trans hsum
  refine ⟨htallied, htotal, fun hone => htotal.trans (countedWeight_le hactive hone _), ?_⟩
  rintro config now keys verdict hverdict hkeys hbelow ⟨hfinalize, hdecided⟩
  have hweight := toNat_weightOf_le_counted htallied.once hall hkeys
  have hthreshold : (ceilMulDiv vs.totalActiveWeight config.bftThresholdBP 10000).toNat ≤
      (weightOf verdict round.votes).toNat := by
    rcases List.mem_pair.mp hverdict with rfl | rfl
    · rw [← htallied.passWeight]
      exact UInt64.le_iff_toNat_le.mp (threshold_le_of_accept hfinalize hdecided)
    · rw [← htallied.failWeight]
      exact UInt64.le_iff_toNat_le.mp (threshold_le_of_reject hdecided)
  exact absurd (hthreshold.trans hweight) (not_le.mpr hbelow)

def sampleSeat (id : ValidatorID) (operatorKey : PublicKey) (weight : UInt64) : ValidatorSeat where
  id := id
  status := .active
  operatorKey := operatorKey
  keyHistory := []
  stakeAmount := weight
  joinEventID := ""
  joinCausalTS := 0
  isGenesis := true
  weight := weight
  effectiveFromVersion := 1

def sampleSnapshot : ValidatorSnapshot :=
  Reducer.snapshot
    { seats := ((∅ : Map ValidatorID ValidatorSeat).insert "a" (sampleSeat "a" "ka" 10)).insert "b"
        (sampleSeat "b" "kb" 20)
      version := 1 }

theorem sampleSnapshot_visits :
    sampleSnapshot.seats.Visits [sampleSeat "b" "kb" 20, sampleSeat "a" "ka" 10] :=
  (Finmap.Visits.empty.insert (sampleSeat "a" "ka" 10) (k := "a") Finmap.notMem_empty).insert
    (sampleSeat "b" "kb" 20) (k := "b") (by decide)

def sampleParams : OpenRoundParams where
  taskID := "task"
  submissionEventID := "submitted"
  workerID := "worker"
  posterID := "poster"
  category := "research"
  validatorSetVersion := 1
  committee := none
  analyzerPolicyID := ""
  diversityFloor := 2
  acceptanceThresholdBP := 6000
  deadlineSeconds := 180
  now := 1000

def sampleRound : TaskVerificationRound where
  roundID := "a5"
  taskID := "task"
  submissionEventID := "submitted"
  workerID := "worker"
  posterID := "poster"
  category := "research"
  validatorSetVersion := 1
  committee := none
  analyzerPolicyID := ""
  diversityFloor := 2
  acceptanceThresholdBP := 6000
  openedAtUnix := 1000
  deadlineUnix := 1180
  state := .opened

def sampleVotes : List TaskVerificationVoteRecord :=
  [⟨"ka", .pass, 7500, "llm_semantic", 10, ∅⟩, ⟨"ka", .pass, 6500, "deterministic_heuristic", 10, ∅⟩,
    ⟨"ka", .pass, 7000, "statistical_structural", 10, ∅⟩, ⟨"ka", .fail, 3000, "embedding_similarity", 10, ∅⟩]

theorem sampleVotes_weigh : ∀ vote ∈ sampleVotes, vote.Weighs sampleSnapshot := by
  intro vote hvote
  refine ⟨_, sampleSnapshot_visits, ?_⟩
  simp only [sampleVotes, List.mem_cons, List.not_mem_nil, or_false] at hvote
  rcases hvote with rfl | rfl | rfl | rfl <;> rfl

/-- One vote of each validator: the smaller one passes the work, the other one fails it. -/
def splitVotes : List TaskVerificationVoteRecord :=
  [⟨"ka", .pass, 7500, "llm_semantic", 10, ∅⟩, ⟨"kb", .fail, 3000, "deterministic_heuristic", 20, ∅⟩]

/-- Four votes of one validator with 10 of 30 weigh at most 40. A vote of each validator weighs at most 30 in all, and
    the 10 that pass or the 20 that fail do not reach the threshold of 21. -/
theorem weights_sound_sampleVotes :
    (applyVotes sampleVotes sampleRound).passWeight.toNat + (applyVotes sampleVotes sampleRound).failWeight.toNat
      + (applyVotes sampleVotes sampleRound).abstainWeight.toNat ≤ 40 ∧
    (applyVotes splitVotes sampleRound).passWeight.toNat + (applyVotes splitVotes sampleRound).failWeight.toNat
      + (applyVotes splitVotes sampleRound).abstainWeight.toNat ≤ 30 ∧
    ∀ verdict ∈ [Verdict.pass, Verdict.fail],
      ¬ ((defaultFinalizerConfig.evaluate (applyVotes splitVotes sampleRound) 30 1001).shouldFinalize = true ∧
        (defaultFinalizerConfig.evaluate (applyVotes splitVotes sampleRound) 30 1001).verdict = verdict) := by
  have hopen : openRound (fun _ => [0xa5]) sampleParams = .ok sampleRound := rfl
  have hsplit : ∀ vote ∈ splitVotes, vote.Weighs sampleSnapshot := by
    intro vote hvote
    refine ⟨_, sampleSnapshot_visits, ?_⟩
    simp only [splitVotes, List.mem_cons, List.not_mem_nil, or_false] at hvote
    rcases hvote with rfl | rfl <;> rfl
  obtain ⟨-, -, hone, hdecided⟩ := weights_sound rfl hopen hsplit
  refine ⟨(weights_sound rfl hopen sampleVotes_weigh).2.1.trans (by decide +kernel), hone fun k => ?_, ?_⟩
  · refine (List.toFinset_card_le _).trans ?_
    rw [List.length_map]
    by_cases hk : k = "ka"
    · subst hk
      decide +kernel
    · by_cases hk' : k = "kb"
      · subst hk'
        decide +kernel
      · have hnone : (applyVotes splitVotes sampleRound).votes.filter (fun v => v.validatorID = k) = [] :=
          List.filter_eq_nil_iff.mpr fun v hv => by
            have hvotes : (applyVotes splitVotes sampleRound).votes = splitVotes := by decide +kernel
            rw [hvotes] at hv
            simp only [splitVotes, List.mem_cons, List.not_mem_nil, or_false] at hv
            rcases hv with rfl | rfl
            · simpa using Ne.symm hk
            · simpa using Ne.symm hk'
        rw [hnone]
        exact Nat.zero_le 1
  · intro verdict hverdict
    refine hdecided defaultFinalizerConfig 1001 {"ka", "kb"} verdict hverdict (fun v hv _ => ?_) ?_
    · have hvoters : ∀ v ∈ (applyVotes splitVotes sampleRound).votes, v.validatorID ∈ ["ka", "kb"] := by decide +kernel
      simpa using hvoters v hv
    · rcases List.mem_pair.mp hverdict with rfl | rfl <;> decide +kernel

/-- A validator with 10 of 30 votes pass in three families and fail in a fourth: its weight counts four times,
    more than the active weight, and the round is accepted on its votes alone although the threshold
    is 21. -/
theorem accepted_by_minority :
    let round := applyVotes sampleVotes sampleRound
    let decision := defaultFinalizerConfig.evaluate round sampleSnapshot.totalActiveWeight 1001
    openRound (fun _ => [0xa5]) sampleParams = .ok sampleRound ∧
    (∀ vote ∈ sampleVotes, vote.Weighs sampleSnapshot ∧ vote.validatorID = "ka") ∧
    sampleSnapshot.totalActiveWeight = 30 ∧
    sampleSnapshot.totalActiveWeight.toNat = sampleSnapshot.seats.sumBy sampleSnapshot.voteWeight ∧
    sampleSnapshot.heldWeight {"ka"} = 10 ∧
    ceilMulDiv sampleSnapshot.totalActiveWeight defaultFinalizerConfig.bftThresholdBP 10000 = 21 ∧
    round.passWeight = 30 ∧ round.failWeight = 10 ∧
    decision.shouldFinalize = true ∧ decision.verdict = .pass := by
  refine ⟨rfl, fun vote hvote => ⟨sampleVotes_weigh vote hvote, ?_⟩, rfl, rfl, rfl, rfl, rfl, rfl, ?_, ?_⟩
  · simp only [sampleVotes, List.mem_cons, List.not_mem_nil, or_false] at hvote
    rcases hvote with rfl | rfl | rfl | rfl <;> rfl
  · decide +kernel
  · decide +kernel

end aethernet.taskverification
