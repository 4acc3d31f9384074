import Aethernet.TaskVerification.WeightSoundness
import Aethernet.Transition.FirstDecision

open golang transition aethernet.taskverification.TaskVerificationRound Finmap

namespace Finmap

variable {K V : Type} [DecidableEq K]

theorem sumBy_indicator (p : V → Prop) [DecidablePred p] (m : Map K V) {S : Finset K}
    (hmem : ∀ k, k ∈ S ↔ ∃ v, m.lookup k = some v ∧ p v) :
    (m.sumBy fun v => if p v then (1 : ℤ) else 0) = S.card := by
  induction m using insert_induction generalizing S with
  | hempty =>
    have hnone : S = ∅ := Finset.eq_empty_of_forall_notMem fun k hk => by simpa using (hmem k).mp hk
    rw [hnone]
    rfl
  | hinsert m k v hfresh ih =>
    have hlookup : m.lookup k = none := lookup_eq_none.mpr hfresh
    have hrest : ∀ k', k' ∈ S.erase k ↔ ∃ v, m.lookup k' = some v ∧ p v := by
      intro k'
      rw [Finset.mem_erase, hmem, lookup_insert_eq]
      by_cases hkey : k' = k
      · subst hkey
        simp [hlookup]
      · simp [hkey]
    rw [sumBy_insert_of_notMem _ v hfresh, ih hrest]
    have hself : k ∈ S ↔ p v := by
      rw [hmem, lookup_insert]
      simp
    by_cases hp : p v
    · rw [if_pos hp, ← Finset.card_erase_add_one (hself.mpr hp)]
      push_cast
      ring
    · rw [if_neg hp, Finset.erase_eq_of_notMem (mt hself.mp hp), zero_add]

theorem ext_getD {m m' : Map K V} (zero : V) (hmem : ∀ k, k ∈ m ↔ k ∈ m')
    (hget : ∀ k ∈ m, m.getD k zero = m'.getD k zero) : m = m' := by
  refine ext_lookup fun k => ?_
  by_cases hk : k ∈ m
  · obtain ⟨v, hv⟩ := mem_iff.mp hk
    obtain ⟨v', hv'⟩ := mem_iff.mp ((hmem k).mp hk)
    have hsame := hget k hk
    rw [getD, getD, hv, hv', Option.getD_some, Option.getD_some] at hsame
    rw [hv, hv', hsame]
  · rw [lookup_eq_none.mpr hk, lookup_eq_none.mpr (mt (hmem k).mpr hk)]

end Finmap

namespace aethernet.taskverification

/-- `ApplyVoteToRound` and then `Evaluate` for vote after vote, each with the time of its evaluation, up to the first
    decision that finalizes. -/
def aggregate (config : FinalizerConfig) (totalActiveWeight : UInt64) :
    List (TaskVerificationVoteRecord × Int64) → TaskVerificationRound →
      TaskVerificationRound × Option FinalizationDecision
  | [], round => (round, none)
  | (vote, now) :: rest, round =>
    let round := (applyVoteToRound vote round).2
    let decision := config.evaluate round totalActiveWeight now
    if decision.shouldFinalize then (round, some decision) else aggregate config totalActiveWeight rest round

def familyWeight (family : String) (votes : List TaskVerificationVoteRecord) : UInt64 :=
  (votes.map fun v => if v.verdict = .pass ∧ v.analyzerFamily = family then v.stake else 0).sum

def HasPass (family : String) (votes : List TaskVerificationVoteRecord) : Prop :=
  family ≠ "" ∧ ∃ v ∈ votes, v.verdict = .pass ∧ v.analyzerFamily = family

def namedFamilies (votes : List TaskVerificationVoteRecord) : Finset String :=
  ((votes.map (·.analyzerFamily)).filter (· ≠ "")).toFinset

/-- The open round has counted these votes, each of them once. -/
structure Counts (votes : List TaskVerificationVoteRecord) (round : TaskVerificationRound) : Prop where
  opened : round.state = .opened
  recorded : round.votes = votes
  passWeight : round.passWeight = weightOf .pass votes
  failWeight : round.failWeight = weightOf .fail votes
  abstainWeight : round.abstainWeight = weightOf .abstain votes
  mem_families : ∀ family, family ∈ round.participatingFamilies ↔ HasPass family votes
  getD_families : ∀ family, family ≠ "" → round.participatingFamilies.getD family 0 = familyWeight family votes
  allFamilies : round.allParticipatingFamilies = namedFamilies votes

section Counts

variable {votes votes' : List TaskVerificationVoteRecord} {vote : TaskVerificationVoteRecord}
  {round round' : TaskVerificationRound} {sha256 : String → List UInt8}

theorem familyWeight_append (family : String) (votes : List TaskVerificationVoteRecord)
    (vote : TaskVerificationVoteRecord) :
    familyWeight family (votes ++ [vote]) =
      familyWeight family votes + if vote.verdict = .pass ∧ vote.analyzerFamily = family then vote.stake else 0 := by
  simp [familyWeight]

theorem hasPass_append (family : String) (votes : List TaskVerificationVoteRecord)
    (vote : TaskVerificationVoteRecord) :
    HasPass family (votes ++ [vote]) ↔
      HasPass family votes ∨ (family ≠ "" ∧ vote.verdict = .pass ∧ vote.analyzerFamily = family) := by
  simp [HasPass, or_and_right, exists_or, and_or_left]

theorem namedFamilies_append (votes : List TaskVerificationVoteRecord) (vote : TaskVerificationVoteRecord) :
    namedFamilies (votes ++ [vote]) =
      if vote.analyzerFamily ≠ "" then insert vote.analyzerFamily (namedFamilies votes) else namedFamilies votes := by
  unfold namedFamilies
  by_cases hnamed : vote.analyzerFamily ≠ ""
  · ext family
    simp [hnamed]
  · simp [not_not.mp hnamed]

theorem families_recordVote (vote : TaskVerificationVoteRecord) (round : TaskVerificationRound) :
    (round.recordVote vote).participatingFamilies =
      if vote.verdict = .pass ∧ vote.analyzerFamily ≠ "" then
        round.participatingFamilies.addAt vote.analyzerFamily vote.stake
      else round.participatingFamilies := by
  unfold recordVote
  cases vote.verdict <;> simp

theorem allFamilies_recordVote (vote : TaskVerificationVoteRecord) (round : TaskVerificationRound) :
    (round.recordVote vote).allParticipatingFamilies =
      if vote.analyzerFamily ≠ "" then insert vote.analyzerFamily round.allParticipatingFamilies
      else round.allParticipatingFamilies := by
  unfold recordVote
  cases vote.verdict <;> rfl

theorem Counts.recordVote (h : Counts votes round) (vote : TaskVerificationVoteRecord) :
    Counts (votes ++ [vote]) (round.recordVote vote) := by
  obtain ⟨hpass, hfail, habstain⟩ := weights_recordVote vote round
  refine ⟨?_, ?_, ?_, ?_, ?_, fun family => ?_, fun family hnamed => ?_, ?_⟩
  · rw [state_recordVote, h.opened]
  · rw [votes_recordVote, h.recorded]
  · rw [hpass, weightOf_append, h.passWeight]
  · rw [hfail, weightOf_append, h.failWeight]
  · rw [habstain, weightOf_append, h.abstainWeight]
  · rw [families_recordVote, hasPass_append, ← h.mem_families]
    split_ifs with hadded
    · rw [addAt, mem_insert]
      constructor
      · rintro (rfl | hold)
        · exact .inr ⟨hadded.2, hadded.1, rfl⟩
        · exact .inl hold
      · rintro (hold | ⟨-, -, rfl⟩)
        · exact .inr hold
        · exact .inl rfl
    · constructor
      · exact .inl
      · rintro (hold | ⟨hnamed, hverdict, rfl⟩)
        · exact hold
        · exact absurd ⟨hverdict, hnamed⟩ hadded
  · rw [families_recordVote, familyWeight_append, ← h.getD_families family hnamed]
    by_cases hpasses : vote.verdict = .pass ∧ vote.analyzerFamily = family
    · obtain ⟨hverdict, rfl⟩ := hpasses
      rw [if_pos ⟨hverdict, hnamed⟩, getD_addAt]
      simp [hverdict]
    · rw [if_neg hpasses, add_zero]
      split_ifs with hadded
      · rw [getD_addAt]
        have hother : family ≠ vote.analyzerFamily := fun heq => hpasses ⟨hadded.1, heq.symm⟩
        simp [hother]
      · rfl
  · rw [allFamilies_recordVote, namedFamilies_append, h.allFamilies]

theorem counts_openRound {p : OpenRoundParams} (h : openRound sha256 p = .ok round) : Counts [] round := by
  rw [eq_of_openRound h]
  exact ⟨rfl, rfl, rfl, rfl, rfl, fun family => by simp [HasPass, notMem_empty], fun family _ => rfl, rfl⟩

theorem Counts.applyVoteToRound (h : Counts votes round) (hnew : vote.validatorID ∉ votes.map (·.validatorID)) :
    Counts (votes ++ [vote]) (applyVoteToRound vote round).2 := by
  have hrecord : (taskverification.applyVoteToRound vote round).2 = round.recordVote vote := by
    unfold taskverification.applyVoteToRound
    have hfind : (round.votes.find? fun existing =>
        existing.validatorID = vote.validatorID ∧ existing.analyzerFamily = vote.analyzerFamily) = none := by
      rw [h.recorded, List.find?_eq_none]
      intro v hv hsame
      have heq : v.validatorID = vote.validatorID := (of_decide_eq_true hsame).1
      exact hnew (heq ▸ List.mem_map_of_mem hv)
    rw [if_neg (not_not.mpr h.opened), hfind]
  rw [hrecord]
  exact h.recordVote vote

theorem counts_applyVotes {p : OpenRoundParams} (hopen : openRound sha256 p = .ok round)
    (hseats : (votes.map (·.validatorID)).Nodup) : Counts votes (applyVotes votes round) := by
  induction votes using List.reverseRecOn with
  | nil => exact counts_openRound hopen
  | append_singleton votes vote ih =>
    rw [List.map_append, List.nodup_append] at hseats
    rw [applyVotes, List.foldl_append]
    refine (ih hseats.1).applyVoteToRound fun hmem => ?_
    exact hseats.2.2 _ hmem _ (List.mem_singleton_self _) rfl

theorem Counts.congr (h : Counts votes round) (h' : Counts votes' round') (hperm : votes.Perm votes') :
    (round.passWeight, round.failWeight, round.abstainWeight) =
        (round'.passWeight, round'.failWeight, round'.abstainWeight) ∧
      round.allParticipatingFamilies = round'.allParticipatingFamilies ∧
      round.distinctParticipatingFamilies = round'.distinctParticipatingFamilies ∧
      round.participatingFamilies = round'.participatingFamilies ∧
      round.distinctPassFamilies = round'.distinctPassFamilies := by
  have hweight : ∀ verdict, weightOf verdict votes = weightOf verdict votes' := fun verdict => (hperm.map _).sum_eq
  have hnamed : namedFamilies votes = namedFamilies votes' :=
    List.toFinset_eq_of_perm _ _ ((hperm.map _).filter _)
  have hfamilies : round.participatingFamilies = round'.participatingFamilies := by
    refine ext_getD 0 (fun family => ?_) fun family hmem => ?_
    · rw [h.mem_families, h'.mem_families, HasPass, HasPass]
      simp [hperm.mem_iff]
    · have hname : family ≠ "" := ((h.mem_families family).mp hmem).1
      rw [h.getD_families family hname, h'.getD_families family hname]
      exact (hperm.map _).sum_eq
  refine ⟨?_, ?_, ?_, hfamilies, ?_⟩
  · rw [h.passWeight, h.failWeight, h.abstainWeight, h'.passWeight, h'.failWeight, h'.abstainWeight, hweight, hweight,
      hweight]
  · rw [h.allFamilies, h'.allFamilies, hnamed]
  · rw [distinctParticipatingFamilies, distinctParticipatingFamilies,
      h.recorded, h'.recorded]
    exact congrArg (fun families : Finset String => (families.card : ℤ)) hnamed
  · rw [distinctPassFamilies, distinctPassFamilies, hfamilies]

end Counts

def exactWeight (verdict : Verdict) (votes : List TaskVerificationVoteRecord) : ℕ :=
  (votes.map fun v => if v.verdict = verdict then v.stake.toNat else 0).sum

def passFamilies (votes : List TaskVerificationVoteRecord) : Finset String :=
  ((votes.filter fun v => v.verdict = .pass ∧ 0 < v.stake).map (·.analyzerFamily)).toFinset.erase ""

namespace FinalizerConfig

def exactThreshold (config : FinalizerConfig) (totalActiveWeight : UInt64) : ℕ :=
  (totalActiveWeight.toNat * config.bftThresholdBP.toNat + 9999) / 10000

/-- These votes accept a round. -/
def Accepts (config : FinalizerConfig) (totalActiveWeight : UInt64) (votes : List TaskVerificationVoteRecord) : Prop :=
  config.exactThreshold totalActiveWeight ≤ exactWeight .pass votes ∧
    config.diversityFloor ≤ (passFamilies votes).card ∧
    (if config.participationFloor = 0 then defaultParticipationFloor else config.participationFloor) ≤
      (namedFamilies votes).card

def Rejects (config : FinalizerConfig) (totalActiveWeight : UInt64) (votes : List TaskVerificationVoteRecord) : Prop :=
  config.exactThreshold totalActiveWeight ≤ exactWeight .fail votes

end FinalizerConfig

def FinalizationDecision.final? (d : FinalizationDecision) : Option Verdict :=
  if d.shouldFinalize then some d.verdict else none

section Decisions

variable {votes votes' l : List TaskVerificationVoteRecord} {round : TaskVerificationRound} {config : FinalizerConfig}
  {totalActiveWeight : UInt64} {now : Int64}

theorem toNat_sum_stake_ite (p : TaskVerificationVoteRecord → Prop) [DecidablePred p]
    (hbound : (votes.map fun v => v.stake.toNat).sum < 2 ^ 64) :
    (votes.map fun v => if p v then v.stake else 0).sum.toNat =
    (votes.map fun v => if p v then v.stake.toNat else 0).sum := by
  have hstake : (fun v => (if p v then v.stake else 0).toNat) = fun v => if p v then v.stake.toNat else 0 := by
    funext v
    split_ifs <;> rfl
  rw [toNat_sum_map_of_lt votes _ (lt_of_le_of_lt ?_ hbound), hstake]
  refine List.sum_le_sum fun v _ => ?_
  split_ifs
  · exact le_rfl
  · exact Nat.zero_le _

theorem toNat_weightOf (verdict : Verdict) (hbound : (votes.map fun v => v.stake.toNat).sum < 2 ^ 64) :
    (weightOf verdict votes).toNat = exactWeight verdict votes := by
  rw [weightOf, toNat_sum_stake_ite _ hbound, exactWeight]

theorem toNat_ceilMulDiv (hroom : totalActiveWeight.toNat * config.bftThresholdBP.toNat + 9999 < 2 ^ 64) :
    (ceilMulDiv totalActiveWeight config.bftThresholdBP 10000).toNat = config.exactThreshold totalActiveWeight := by
  rw [toNat_threshold, Nat.mod_eq_of_lt hroom]
  rfl

theorem familyWeight_pos_iff {family : String} (hbound : (votes.map fun v => v.stake.toNat).sum < 2 ^ 64) :
    0 < familyWeight family votes ↔ ∃ v ∈ votes, (v.verdict = .pass ∧ v.analyzerFamily = family) ∧ 0 < v.stake := by
  rw [UInt64.lt_iff_toNat_lt, familyWeight, toNat_sum_stake_ite _ hbound, UInt64.toNat_zero, Nat.pos_iff_ne_zero, Ne,
    List.sum_eq_zero_iff]
  simp only [List.mem_map, forall_exists_index, and_imp, forall_apply_eq_imp_iff₂, not_forall, ite_eq_right_iff,
    UInt64.lt_iff_toNat_lt, UInt64.toNat_zero, Nat.pos_iff_ne_zero]
  simp only [exists_prop, and_assoc]

theorem Counts.distinctPassFamilies (h : Counts votes round)
    (hbound : (votes.map fun v => v.stake.toNat).sum < 2 ^ 64) :
    round.distinctPassFamilies = (passFamilies votes).card := by
  refine sumBy_indicator (fun w : UInt64 => 0 < w) round.participatingFamilies fun family => ?_
  have hmem : family ∈ passFamilies votes ↔
      family ≠ "" ∧ ∃ v ∈ votes, (v.verdict = .pass ∧ v.analyzerFamily = family) ∧ 0 < v.stake := by
    simp only [passFamilies, Finset.mem_erase, List.mem_toFinset, List.mem_map, List.mem_filter, decide_eq_true_eq]
    refine and_congr_right fun _ => exists_congr fun v => ?_
    tauto
  rw [hmem, ← familyWeight_pos_iff hbound]
  constructor
  · rintro ⟨hname, hpos⟩
    obtain ⟨v, hv, hpass, -⟩ := (familyWeight_pos_iff hbound).mp hpos
    obtain ⟨w, hw⟩ := mem_iff.mp ((h.mem_families family).mpr ⟨hname, v, hv, hpass⟩)
    have hget := h.getD_families family hname
    rw [getD, hw, Option.getD_some] at hget
    exact ⟨w, hw, hget ▸ hpos⟩
  · rintro ⟨w, hw, hpos⟩
    have hname := ((h.mem_families family).mp (mem_of_lookup_eq_some hw)).1
    have hget := h.getD_families family hname
    rw [getD, hw, Option.getD_some] at hget
    exact ⟨hname, hget ▸ hpos⟩

open Classical in
theorem Counts.final?_evaluate (h : Counts votes round) (hbound : (votes.map fun v => v.stake.toNat).sum < 2 ^ 64)
    (hroom : totalActiveWeight.toNat * config.bftThresholdBP.toNat + 9999 < 2 ^ 64)
    (hnow : now ≤ round.deadlineForCurrentPhase) :
    (config.evaluate round totalActiveWeight now).final? =
      if config.Accepts totalActiveWeight votes then some .pass
      else if config.Rejects totalActiveWeight votes then some .fail
      else none := by
  have haccept : (ceilMulDiv totalActiveWeight config.bftThresholdBP 10000 ≤ round.passWeight ∧
      config.meetsFloors round = true) ↔ config.Accepts totalActiveWeight votes := by
    rw [UInt64.le_iff_toNat_le, toNat_ceilMulDiv hroom, h.passWeight, toNat_weightOf .pass hbound,
      FinalizerConfig.meetsFloors, h.distinctPassFamilies hbound, distinctParticipatingFamilies,
      h.recorded]
    simp [FinalizerConfig.Accepts, namedFamilies]
  have hreject : ceilMulDiv totalActiveWeight config.bftThresholdBP 10000 ≤ round.failWeight ↔
      config.Rejects totalActiveWeight votes := by
    rw [UInt64.le_iff_toNat_le, toNat_ceilMulDiv hroom, h.failWeight, toNat_weightOf .fail hbound]
    rfl
  have hdeadline : evaluateDeadline round totalActiveWeight now = {} := by
    rw [evaluateDeadline, if_neg (Int64.not_lt.mpr hnow)]
  unfold FinalizerConfig.evaluate
  rw [if_neg (not_not.mpr h.opened), hdeadline]
  simp only [haccept, hreject]
  split_ifs <;> rfl

theorem accepts_of_subperm (hsub : votes.Subperm votes') (h : config.Accepts totalActiveWeight votes) :
    config.Accepts totalActiveWeight votes' := by
  obtain ⟨hweight, hdiversity, hparticipation⟩ := h
  have hpass : passFamilies votes ⊆ passFamilies votes' := by
    refine Finset.erase_subset_erase _ fun family hfamily => ?_
    simp only [List.mem_toFinset, List.mem_map, List.mem_filter] at hfamily ⊢
    obtain ⟨v, ⟨hv, hpositive⟩, rfl⟩ := hfamily
    exact ⟨v, ⟨hsub.subset hv, hpositive⟩, rfl⟩
  have hnamed : namedFamilies votes ⊆ namedFamilies votes' := by
    intro family hfamily
    simp only [namedFamilies, List.mem_toFinset, List.mem_filter, List.mem_map] at hfamily ⊢
    obtain ⟨⟨v, hv, rfl⟩, hname⟩ := hfamily
    exact ⟨⟨v, hsub.subset hv, rfl⟩, hname⟩
  refine ⟨hweight.trans (quorum.sum_map_le_of_subperm hsub _), hdiversity.trans ?_, hparticipation.trans ?_⟩
  · exact_mod_cast Finset.card_le_card hpass
  · exact_mod_cast Finset.card_le_card hnamed

theorem rejects_of_subperm (hsub : votes.Subperm votes') (h : config.Rejects totalActiveWeight votes) :
    config.Rejects totalActiveWeight votes' :=
  h.trans (quorum.sum_map_le_of_subperm hsub _)

theorem not_accepts_and_rejects (hsum : (l.map fun v => v.stake.toNat).sum ≤ totalActiveWeight.toNat)
    (hpos : 0 < totalActiveWeight) (hmajority : 5000 < config.bftThresholdBP) (hp : votes.Subperm l)
    (hq : votes'.Subperm l) (haccept : config.Accepts totalActiveWeight votes)
    (hreject : config.Rejects totalActiveWeight votes') : False := by
  have hpass : config.exactThreshold totalActiveWeight ≤ exactWeight .pass l :=
    haccept.1.trans (quorum.sum_map_le_of_subperm hp _)
  have hfail : config.exactThreshold totalActiveWeight ≤ exactWeight .fail l := rejects_of_subperm hq hreject
  have hboth : exactWeight .pass l + exactWeight .fail l ≤ (l.map fun v => v.stake.toNat).sum := by
    rw [exactWeight, exactWeight, ← List.sum_map_add]
    refine List.sum_le_sum fun v _ => ?_
    cases v.verdict <;> simp
  -- twice the rounded-up threshold is more than the whole
  have htwice : totalActiveWeight.toNat < 2 * config.exactThreshold totalActiveWeight := by
    have htotal : 0 < totalActiveWeight.toNat := UInt64.lt_iff_toNat_lt.mp hpos
    have hbft : 5001 ≤ config.bftThresholdBP.toNat := UInt64.lt_iff_toNat_lt.mp hmajority
    have hproduct : totalActiveWeight.toNat * 5001 ≤ totalActiveWeight.toNat * config.bftThresholdBP.toNat :=
      Nat.mul_le_mul_left _ hbft
    unfold FinalizerConfig.exactThreshold
    omega
  omega

end Decisions

section Orders

variable {config : FinalizerConfig} {totalActiveWeight : UInt64} {round : TaskVerificationRound}
  {sha256 : String → List UInt8} {p : OpenRoundParams} {l l' : List TaskVerificationVoteRecord}

theorem deadline_applyVoteToRound (vote : TaskVerificationVoteRecord) (round : TaskVerificationRound) :
    (applyVoteToRound vote round).2.deadlineForCurrentPhase = round.deadlineForCurrentPhase := by
  obtain hsame | ⟨-, -, hrecord⟩ := applyVoteToRound_cases vote round
  · rw [hsame]
  · rw [hrecord]
    unfold recordVote
    cases vote.verdict <;> rfl

theorem deadline_applyVotes (votes : List TaskVerificationVoteRecord) (round : TaskVerificationRound) :
    (applyVotes votes round).deadlineForCurrentPhase = round.deadlineForCurrentPhase := by
  induction votes generalizing round with
  | nil => rfl
  | cons vote votes ih => exact (ih _).trans (deadline_applyVoteToRound vote round)

/-- What the finalizer decides on these votes before the deadline. -/
def finalOf (config : FinalizerConfig) (totalActiveWeight : UInt64) (round : TaskVerificationRound)
    (votes : List TaskVerificationVoteRecord) : Option Verdict :=
  (config.evaluate (applyVotes votes round) totalActiveWeight round.deadlineForCurrentPhase).final?

/-- The hypotheses on the votes of a round: at most one of each validator, no more than the active weight, and a
    threshold above one half that is computed without an overflow. -/
structure Fair (config : FinalizerConfig) (totalActiveWeight : UInt64) (votes : List TaskVerificationVoteRecord) :
    Prop where
  seats : (votes.map (·.validatorID)).Nodup
  sum : (votes.map fun v => v.stake.toNat).sum ≤ totalActiveWeight.toNat
  pos : 0 < totalActiveWeight
  room : totalActiveWeight.toNat * config.bftThresholdBP.toNat + 9999 < 2 ^ 64
  majority : 5000 < config.bftThresholdBP

variable (h : Fair config totalActiveWeight l)

include h

theorem Fair.subperm (hsub : l'.Subperm l) : Fair config totalActiveWeight l' :=
  ⟨quorum.nodup_map_of_subperm hsub h.seats, (quorum.sum_map_le_of_subperm hsub _).trans h.sum, h.pos,
  h.room, h.majority⟩

theorem Fair.bound : (l.map fun v => v.stake.toNat).sum < 2 ^ 64 :=
  h.sum.trans_lt totalActiveWeight.toNat_lt

open Classical in
theorem Fair.final?_evaluate (hopen : openRound sha256 p = .ok round) {now : Int64}
    (hnow : now ≤ round.deadlineForCurrentPhase) :
    (config.evaluate (applyVotes l round) totalActiveWeight now).final? =
      if config.Accepts totalActiveWeight l then some .pass
      else if config.Rejects totalActiveWeight l then some .fail
      else none :=
  (counts_applyVotes hopen h.seats).final?_evaluate h.bound h.room (deadline_applyVotes l round ▸ hnow)

theorem Fair.finalOf_ne_none_of_subperm (hopen : openRound sha256 p = .ok round)
    (hsub : l'.Subperm l) (hdecides : finalOf config totalActiveWeight round l' ≠ none) :
    finalOf config totalActiveWeight round l ≠ none := by
  rw [finalOf, (h.subperm hsub).final?_evaluate hopen (Int64.le_refl _)] at hdecides
  rw [finalOf, h.final?_evaluate hopen (Int64.le_refl _)]
  split_ifs at hdecides with haccept hreject
  · rw [if_pos (accepts_of_subperm hsub haccept)]
    exact Option.some_ne_none _
  · rw [if_pos (rejects_of_subperm hsub hreject)]
    split_ifs <;> exact Option.some_ne_none _
  · exact absurd rfl hdecides

theorem Fair.finalOf_eq_of_subperm (hopen : openRound sha256 p = .ok round)
    {votes votes' : List TaskVerificationVoteRecord} (hp : votes.Subperm l) (hq : votes'.Subperm l) {d d' : Verdict}
    (hd : finalOf config totalActiveWeight round votes = some d)
    (hd' : finalOf config totalActiveWeight round votes' = some d') : d = d' := by
  rw [finalOf, (h.subperm hp).final?_evaluate hopen (Int64.le_refl _)] at hd
  rw [finalOf, (h.subperm hq).final?_evaluate hopen (Int64.le_refl _)] at hd'
  split_ifs at hd hd' with haccept haccept' hreject' hreject haccept' hreject'
  · exact (Option.some.inj hd).symm.trans (Option.some.inj hd')
  · exact (not_accepts_and_rejects h.sum h.pos h.majority hp hq haccept hreject').elim
  · exact (not_accepts_and_rejects h.sum h.pos h.majority hq hp haccept' hreject).elim
  · exact (Option.some.inj hd).symm.trans (Option.some.inj hd')

/-- Vote by vote, the aggregation keeps the first decision, and has applied all votes while there is none. -/
theorem outcome_aggregate (hopen : openRound sha256 p = .ok round)
    (before : List TaskVerificationVoteRecord) (rest : List (TaskVerificationVoteRecord × Int64))
    (hl : before ++ rest.map Prod.fst = l) (htimes : ∀ e ∈ rest, e.2 ≤ round.deadlineForCurrentPhase)
    (hbefore : Undecided (finalOf config totalActiveWeight round) before) :
    Outcome (finalOf config totalActiveWeight round) l
        ((aggregate config totalActiveWeight rest (applyVotes before round)).2.map (·.verdict)) ∧
      ((aggregate config totalActiveWeight rest (applyVotes before round)).2 = none →
        (aggregate config totalActiveWeight rest (applyVotes before round)).1 = applyVotes l round) := by
  induction rest generalizing before with
  | nil =>
    rw [List.map_nil, List.append_nil] at hl
    subst hl
    exact ⟨.inl ⟨rfl, hbefore⟩, fun _ => rfl⟩
  | cons e rest ih =>
    obtain ⟨vote, now⟩ := e
    have happlied : (applyVoteToRound vote (applyVotes before round)).2 = applyVotes (before ++ [vote]) round := by
      rw [applyVotes, applyVotes, List.foldl_append]
      rfl
    have hprefix : before ++ [vote] <+: l := by
      rw [← hl, List.map_cons]
      exact ⟨rest.map Prod.fst, by simp⟩
    have hfair := h.subperm hprefix.sublist.subperm
    have hfinal : finalOf config totalActiveWeight round (before ++ [vote]) =
        (config.evaluate (applyVotes (before ++ [vote]) round) totalActiveWeight now).final? := by
      rw [finalOf, hfair.final?_evaluate hopen (Int64.le_refl _),
        hfair.final?_evaluate hopen (htimes _ List.mem_cons_self)]
    simp only [aggregate, happlied]
    generalize config.evaluate (applyVotes (before ++ [vote]) round) totalActiveWeight now = decision at hfinal
    cases hdecision : decision.shouldFinalize with
    | true =>
      rw [FinalizationDecision.final?, hdecision, if_pos rfl] at hfinal
      exact ⟨.inr ⟨_, _, rfl, hprefix, before, vote, rfl, hbefore, hfinal⟩, fun hnone => (by cases hnone)⟩
    | false =>
      rw [FinalizationDecision.final?, hdecision, if_neg Bool.false_ne_true] at hfinal
      refine ih (before ++ [vote]) (by rw [← hl]; simp) (fun e he => htimes e (List.mem_cons_of_mem _ he))
        (hbefore.append hfinal)

end Orders

/-- Two orders of the same votes, each vote applied and the round evaluated at some time up to its deadline until a
    decision finalizes it. Either neither order finalizes or both do with the same verdict; and if they do not, the
    weights, the participating families and the pass families are the same. -/
theorem aggregate_agree {sha256 : String → List UInt8} {p : OpenRoundParams} {round : TaskVerificationRound}
    (hopen : openRound sha256 p = .ok round) {config : FinalizerConfig} {totalActiveWeight : UInt64}
    {l l' : List (TaskVerificationVoteRecord × Int64)} (hfair : Fair config totalActiveWeight (l.map Prod.fst))
    (hperm : (l.map Prod.fst).Perm (l'.map Prod.fst))
    (htimes : ∀ e ∈ l, e.2 ≤ round.deadlineForCurrentPhase) (htimes' : ∀ e ∈ l', e.2 ≤ round.deadlineForCurrentPhase) :
    let first := aggregate config totalActiveWeight l round
    let second := aggregate config totalActiveWeight l' round
    first.2.map (·.verdict) = second.2.map (·.verdict) ∧
      (first.2 = none →
        (first.1.passWeight, first.1.failWeight, first.1.abstainWeight) =
            (second.1.passWeight, second.1.failWeight, second.1.abstainWeight) ∧
          first.1.allParticipatingFamilies = second.1.allParticipatingFamilies ∧
          first.1.distinctParticipatingFamilies = second.1.distinctParticipatingFamilies ∧
          first.1.participatingFamilies = second.1.participatingFamilies ∧
          first.1.distinctPassFamilies = second.1.distinctPassFamilies) := by
  intro first second
  have hfair' := hfair.subperm hperm.symm.subperm
  obtain ⟨houtcome, hround⟩ := outcome_aggregate hfair hopen [] l rfl htimes Undecided.nil
  obtain ⟨houtcome', hround'⟩ := outcome_aggregate hfair' hopen [] l' rfl htimes' Undecided.nil
  have hverdict : first.2.map (·.verdict) = second.2.map (·.verdict) := by
    refine houtcome.agree hperm houtcome' (fun votes votes' hsub hpart hdecides => ?_)
      fun votes votes' d d' hp hq hd hd' => hfair.finalOf_eq_of_subperm hopen hp hq hd hd'
    exact (hfair.subperm hpart).finalOf_ne_none_of_subperm hopen hsub hdecides
  refine ⟨hverdict, fun hnone => ?_⟩
  have hnone' : second.2 = none := by
    rw [hnone, Option.map_none] at hverdict
    exact Option.map_eq_none_iff.mp hverdict.symm
  have hfirst : first.1 = applyVotes (l.map Prod.fst) round := hround hnone
  have hsecond : second.1 = applyVotes (l'.map Prod.fst) round := hround' hnone'
  rw [hfirst, hsecond]
  exact (counts_applyVotes hopen hfair.seats).congr (counts_applyVotes hopen hfair'.seats) hperm

/-- Three validators pass the work and one fails it. -/
def fourVotes : List (TaskVerificationVoteRecord × Int64) :=
  [(⟨"ka", .pass, 7500, "f1", 10, ∅⟩, 1001), (⟨"kb", .fail, 3000, "f2", 10, ∅⟩, 1002),
  (⟨"kc", .pass, 7000, "f3", 20, ∅⟩, 1003),
    (⟨"kd", .pass, 7000, "f1", 10, ∅⟩, 1004)]

theorem fair_fourVotes : Fair defaultFinalizerConfig 50 (fourVotes.map Prod.fst) :=
  ⟨by decide, by decide, by decide, by decide, by decide⟩

/-- The votes in one order and in the reverse order. -/
theorem aggregate_agree_fourVotes :
    ((aggregate defaultFinalizerConfig 50 fourVotes sampleRound).2.map (·.verdict)) = some .pass ∧
      (aggregate defaultFinalizerConfig 50 fourVotes sampleRound).2.map (·.verdict) =
        (aggregate defaultFinalizerConfig 50 fourVotes.reverse sampleRound).2.map (·.verdict) := by
  have hopen : openRound (fun _ => [0xa5]) sampleParams = .ok sampleRound := rfl
  refine ⟨by decide +kernel, (aggregate_agree hopen fair_fourVotes ?_ ?_ ?_).1⟩
  · exact (List.reverse_perm _).symm
  · decide
  · decide

end aethernet.taskverification
