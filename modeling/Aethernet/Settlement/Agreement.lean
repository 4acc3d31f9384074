import Aethernet.Accounting.Quota
import Aethernet.Settlement.Conservation

open golang aethernet event ledger TransferLedger escrow tasks
open aethernet.taskverification accounting

namespace aethernet.settlement

/-- The validators with a vote of this verdict. -/
def agreeing (votes : List TaskVerificationVoteRecord) (verdict : Verdict) : Finset ledger.AgentID :=
  ((votes.filter fun v => v.verdict = verdict).map TaskVerificationVoteRecord.validatorID).toFinset

/-- A node's copy of a round that was finalized on these votes: they arrived in some order, and more votes were
    recorded afterwards. -/
def CopyOf (votes : List TaskVerificationVoteRecord) (category : String) (round : TaskVerificationRound) : Prop :=
  ∃ (finalized : TaskVerificationRound) (late : List TaskVerificationVoteRecord),
    finalized.votes.Perm votes ∧ finalized.category = category ∧
      round = late.foldl (fun r vote => recordPostFinalizationVote vote r) finalized

section Votes

variable {votes votes' : List TaskVerificationVoteRecord} {verdict : Verdict} {round : TaskVerificationRound}
  {category : String}

theorem foldl_recordPostFinalizationVote (late : List TaskVerificationVoteRecord) (round : TaskVerificationRound) :
    late.foldl (fun r vote => recordPostFinalizationVote vote r) round =
      { round with votes := round.votes ++ late } := by
  induction late generalizing round with
  | nil => rw [List.foldl_nil, List.append_nil]
  | cons vote late ih =>
    rw [List.foldl_cons, ih, recordPostFinalizationVote, List.append_assoc, List.singleton_append]

theorem CopyOf.category_eq (h : CopyOf votes category round) : round.category = category := by
  obtain ⟨finalized, late, -, hcategory, rfl⟩ := h
  rw [foldl_recordPostFinalizationVote, hcategory]

theorem mem_agreeing {v : ledger.AgentID} :
    v ∈ agreeing votes verdict ↔ ∃ vote ∈ votes, vote.verdict = verdict ∧ vote.validatorID = v := by
  simp [agreeing, and_assoc]

theorem CopyOf.agreeing_subset (h : CopyOf votes category round) :
    agreeing votes verdict ⊆ agreeing round.votes verdict := by
  obtain ⟨finalized, late, hperm, -, rfl⟩ := h
  rw [foldl_recordPostFinalizationVote]
  intro v hv
  obtain ⟨vote, hvote, hverdict⟩ := mem_agreeing.mp hv
  exact mem_agreeing.mpr ⟨vote, List.mem_append_left _ (hperm.symm.subset hvote), hverdict⟩

theorem collectAgreeingValidators_append (votes : List TaskVerificationVoteRecord)
    (vote : TaskVerificationVoteRecord) (verdict : Verdict) :
    collectAgreeingValidators { round with votes := votes ++ [vote] } verdict =
      let result := collectAgreeingValidators { round with votes := votes } verdict
      if vote.verdict = verdict ∧ vote.validatorID ∉ result then result ++ [vote.validatorID] else result :=
  List.foldl_concat _ _ _ _

theorem mem_collectAgreeingValidators (round : TaskVerificationRound) {v : ledger.AgentID} :
    v ∈ collectAgreeingValidators { round with votes := votes } verdict ↔ v ∈ agreeing votes verdict := by
  induction votes using List.reverseRecOn with
  | nil => simp [collectAgreeingValidators, agreeing]
  | append_singleton votes vote ih =>
    have hlast : v ∈ agreeing (votes ++ [vote]) verdict ↔
        v ∈ agreeing votes verdict ∨ vote.verdict = verdict ∧ vote.validatorID = v := by
      simp [mem_agreeing, or_and_right, exists_or]
    rw [collectAgreeingValidators_append, hlast, ← ih]
    dsimp only
    split_ifs with hnew
    · rw [List.mem_append, List.mem_singleton, eq_comm (a := v)]
      simp [hnew.1]
    · refine ⟨.inl, ?_⟩
      rintro (hmem | ⟨hverdict, rfl⟩)
      · exact hmem
      · exact not_not.mp fun hnot => hnew ⟨hverdict, hnot⟩

theorem toFinset_collectAgreeingValidators (round : TaskVerificationRound) (verdict : Verdict) :
    (collectAgreeingValidators round verdict).toFinset = agreeing round.votes verdict := by
  ext v
  exact List.mem_toFinset.trans (mem_collectAgreeingValidators round)

end Votes

namespace VerificationConsensusSettler

/-- The verdict the validators of a settlement are paid for. -/
def paidVerdict (payload : TaskVerificationConsensusPayload) : Option Verdict :=
  if payload.finalVerdict = "pass" then some .pass
  else if payload.finalVerdict = "fail" then some .fail
  else none

/-- The part of a budget that goes to validators. -/
def validatorPool (budget : UInt64) : UInt64 := budget * validatorShareBP / 10000

/-- What the bucket of a task has paid this agent as a validator. -/
def validatorPaid (taskID : String) (v : ledger.AgentID) (s : VerificationConsensusSettler) : ℕ :=
  s.escrowMgr.ledger.posted (bucketID taskID) fun q =>
    if q.toAgent = v ∧ q.memo = (Disbursement.validator v).memo then q.amount.toNat else 0

/-- What a settlement has for this agent as a validator. -/
def validatorPayout (s : VerificationConsensusSettler) (budget : UInt64) (payload : TaskVerificationConsensusPayload)
    (round : TaskVerificationRound) (v : ledger.AgentID) : UInt64 :=
  (s.payouts budget payload round).validators.getD v 0

section Payouts

variable {s s' s₁ s₂ : VerificationConsensusSettler} {env : SettleEnv} {payload : TaskVerificationConsensusPayload}
  {round round' : TaskVerificationRound} {budget : UInt64} {verdict : Verdict} {category : String}
  {score : ledger.AgentID → ℚ}

theorem validatorPayout_of_none (hverdict : paidVerdict payload = none) (v : ledger.AgentID) :
    s.validatorPayout budget payload round v = 0 := by
  unfold paidVerdict at hverdict
  split_ifs at hverdict with hpass hfail
  rw [validatorPayout, payouts, if_neg hpass, if_neg hfail]
  exact Finmap.getD_empty v 0

theorem getD_computeValidatorPayouts (s : VerificationConsensusSettler) (category : String)
    {recipients : List ledger.AgentID} (hnodup : recipients.Nodup) (pool : UInt64) (v : ledger.AgentID) :
    (s.computeValidatorPayouts recipients pool category).getD v 0 =
      allotment pool (s.scoreOf category) recipients.toFinset recipients.getLast? v := by
  unfold computeValidatorPayouts
  split_ifs with hnone
  · rw [Finmap.getD_empty]
    rcases hnone with rfl | rfl
    · rfl
    · rw [allotment_of_pool_eq_zero]
  · have hshare : (fun v => if (recipients.map (s.scoreOf category)).sum = 0 then equalShare pool recipients.length
        else proportional pool (s.scoreOf category) (recipients.map (s.scoreOf category)).sum v) =
        quota pool (s.scoreOf category) recipients.toFinset := by
      funext v
      rw [quota, List.sum_toFinset _ hnodup, List.toFinset_card_of_nodup hnodup]
    dsimp only
    rw [hshare, getD_ofInserts_assignRemainder _ hnodup]
    simp [allotment, leftover, List.sum_toFinset _ hnodup]

theorem validatorPayout_eq (hverdict : paidVerdict payload = some verdict) (v : ledger.AgentID) :
    s.validatorPayout budget payload round v =
      allotment (validatorPool budget) (s.scoreOf round.category) (agreeing round.votes verdict)
        (collectAgreeingValidators round verdict).getLast? v := by
  have hpart : s.validatorPayout budget payload round v =
      (s.validatorPart round verdict (validatorPool budget)).1.getD v 0 := by
    unfold paidVerdict at hverdict
    split_ifs at hverdict with hpass hfail
    · cases hverdict
      rw [validatorPayout, payouts, if_pos hpass]
      rfl
    · cases hverdict
      rw [validatorPayout, payouts, if_neg hpass, if_pos hfail]
      rfl
  have hpayouts := getD_computeValidatorPayouts s round.category
    (nodup_collectAgreeingValidators round verdict) (validatorPool budget) v
  rw [toFinset_collectAgreeingValidators] at hpayouts
  rw [hpart, ← hpayouts, validatorPart]
  cases collectAgreeingValidators round verdict <;> rfl

theorem validatorPaid_of_settle {r : SettleResult} (hfunded : s.Funded payload.taskID budget)
    (hattempts : Attempts payload round s s₁) (hsettle : s₁.settle env payload round = ((r, none), s₂))
    (happlied : r.applied) (v : ledger.AgentID) :
    s₂.validatorPaid payload.taskID v =
      s.validatorPaid payload.taskID v + (s.validatorPayout budget payload round v).toNat := by
  obtain ⟨-, paid, hpays, -, hsum⟩ := released_of_settle hfunded hattempts hsettle happlied
  rw [validatorPaid, hpays.posted_eq, hsum _ fun q hq => by rw [hq, UInt64.toNat_zero, ite_self], validatorPaid]
  congr 1
  rw [validatorPayout, ← env.order.sum_visit_key _ UInt64.toNat UInt64.toNat_zero]
  -- only the payments to validators have their memo
  simp [payments, Escrow.settlementPayments, Payment.posting, Disbursement.memo, Function.comp_def]

theorem validatorPayout_eq_iff (hnonneg : ∀ v, 0 ≤ score v)
    (hscore : s.scoreOf round.category = score) (hscore' : s'.scoreOf round'.category = score)
    (hverdict : paidVerdict payload = some verdict)
    (hagreeing : agreeing round.votes verdict = agreeing round'.votes verdict) :
    (∀ v, s.validatorPayout budget payload round v = s'.validatorPayout budget payload round' v) ↔
      (collectAgreeingValidators round verdict).getLast? = (collectAgreeingValidators round' verdict).getLast? ∨
        ExactSplit (validatorPool budget) score (agreeing round.votes verdict) := by
  simp only [validatorPayout_eq hverdict, hscore, hscore', ← hagreeing]
  have hmem : ∀ v, v ∈ (collectAgreeingValidators round verdict).getLast? → v ∈ agreeing round.votes verdict := by
    intro v hv
    rw [← toFinset_collectAgreeingValidators, List.mem_toFinset]
    exact List.mem_of_getLast? hv
  have hnone : (collectAgreeingValidators round verdict).getLast? = none ↔
      (collectAgreeingValidators round' verdict).getLast? = none := by
    rw [List.getLast?_eq_none_iff, List.getLast?_eq_none_iff, ← List.toFinset_eq_empty_iff,
      ← List.toFinset_eq_empty_iff, toFinset_collectAgreeingValidators, toFinset_collectAgreeingValidators, hagreeing]
  cases hlast : (collectAgreeingValidators round verdict).getLast? with
  | none => simp [hnone.mp hlast]
  | some a =>
    cases hlast' : (collectAgreeingValidators round' verdict).getLast? with
    | none => exact absurd (hlast.symm.trans (hnone.mpr hlast')) (by simp)
    | some b => rw [allotment_eq_iff hnonneg (hmem a hlast), Option.some.injEq]

/-- A round as it was finalized on these votes. -/
def finalizedRound (votes : List TaskVerificationVoteRecord) (category : String) : TaskVerificationRound :=
  { sampleRound with votes, category }

def lateVote (w : ledger.AgentID) (verdict : Verdict) : TaskVerificationVoteRecord := ⟨w, verdict, 0, "", 0, ∅⟩

theorem agreeing_lateVote {votes : List TaskVerificationVoteRecord} {w : ledger.AgentID}
    (hw : w ∉ agreeing votes verdict) (category : String) :
    let round := recordPostFinalizationVote (lateVote w verdict) (finalizedRound votes category)
    agreeing round.votes verdict = insert w (agreeing votes verdict) ∧
      (collectAgreeingValidators round verdict).getLast? = some w := by
  intro round
  have hnew : w ∉ collectAgreeingValidators (finalizedRound votes category) verdict :=
    fun hmem => hw ((mem_collectAgreeingValidators sampleRound).mp hmem)
  constructor
  · ext v
    simp only [mem_agreeing, Finset.mem_insert]
    change (∃ vote ∈ votes ++ [lateVote w verdict], _) ↔ _
    rw [or_comm, eq_comm (a := v)]
    simp [lateVote]
  · have hcollect : collectAgreeingValidators round verdict =
        collectAgreeingValidators (finalizedRound votes category) verdict ++ [w] :=
      (collectAgreeingValidators_append votes (lateVote w verdict) verdict).trans (if_pos ⟨rfl, hnew⟩)
    rw [hcollect, List.getLast?_concat]

def scoringSettler (score : ledger.AgentID → ℚ) : VerificationConsensusSettler where
  taskMgr := { byID := ∅ }
  escrowMgr := { ledger := {} }
  treasuryID := ""
  qScoreFn := some fun v _ _ => score v

/-- Two copies of a round pay alike whatever else was recorded exactly when nobody is paid, or the shares of those
    who agreed at finalization are not rounded and nobody else has a score. -/
theorem validatorPayout_eq_forall_iff (hnonneg : ∀ v, 0 ≤ score v) (votes : List TaskVerificationVoteRecord) :
    (∀ (s s' : VerificationConsensusSettler) (round round' : TaskVerificationRound), s.scoreOf category = score →
      s'.scoreOf category = score → CopyOf votes category round → CopyOf votes category round' →
      ∀ v, s.validatorPayout budget payload round v = s'.validatorPayout budget payload round' v) ↔
    ∀ verdict, paidVerdict payload = some verdict → validatorPool budget ≠ 0 →
      ∑ v ∈ agreeing votes verdict, score v ≠ 0 ∧
        ExactSplit (validatorPool budget) score (agreeing votes verdict) ∧
        ∀ w, w ∉ agreeing votes verdict → score w = 0 := by
  constructor
  · intro h verdict hverdict hpool
    -- a validator who did not agree before gets nothing in the copy without its vote, so nothing with it
    have hnewcomer : ∀ w, w ∉ agreeing votes verdict → score w = 0 ∧ ∑ v ∈ agreeing votes verdict, score v ≠ 0 ∧
        ExactSplit (validatorPool budget) score (agreeing votes verdict) := by
      intro w hw
      have hsame := h (scoringSettler score) (scoringSettler score) (finalizedRound votes category)
        (recordPostFinalizationVote (lateVote w verdict) (finalizedRound votes category)) rfl rfl
        ⟨_, [], .refl _, rfl, rfl⟩ ⟨finalizedRound votes category, [lateVote w verdict], .refl _, rfl, rfl⟩ w
      obtain ⟨hagreeing, hlast⟩ := agreeing_lateVote hw category
      have hout : w ∉ agreeing (finalizedRound votes category).votes verdict := hw
      rw [validatorPayout_eq hverdict, validatorPayout_eq hverdict, hagreeing, hlast, allotment, if_neg hout] at hsame
      exact (allotment_newcomer_eq_zero_iff hnonneg hpool hw).mp hsame.symm
    obtain ⟨w, hw⟩ := Infinite.exists_notMem_finset (agreeing votes verdict)
    exact ⟨(hnewcomer w hw).2.1, (hnewcomer w hw).2.2, fun w hw => (hnewcomer w hw).1⟩
  · intro hcondition s s' round round' hscore hscore' hcopy hcopy' v
    cases hverdict : paidVerdict payload with
    | none => rw [validatorPayout_of_none hverdict, validatorPayout_of_none hverdict]
    | some verdict =>
      rw [validatorPayout_eq hverdict, validatorPayout_eq hverdict, hcopy.category_eq, hcopy'.category_eq, hscore,
        hscore']
      by_cases hpool : validatorPool budget = 0
      · rw [hpool, allotment_of_pool_eq_zero, allotment_of_pool_eq_zero]
      · obtain ⟨htotal, hexact, hzero⟩ := hcondition verdict hverdict hpool
        rw [allotment_of_exactSplit hnonneg hcopy.agreeing_subset (fun w _ => hzero w) htotal hexact,
          allotment_of_exactSplit hnonneg hcopy'.agreeing_subset (fun w _ => hzero w) htotal hexact]

/-- A settlement that is applied pays each validator its payout. Two copies of a round in which the same validators
    agree have the same payouts exactly when the same validator is the last of them or no share is rounded. All
    copies of a round have the same payouts, whatever else was recorded after it was finalized, exactly when no
    validator is paid, or no share of those who agreed is rounded and nobody else has a score. -/
theorem settle_agrees_iff (payload : TaskVerificationConsensusPayload) (budget : UInt64) (category : String)
    (score : ledger.AgentID → ℚ) (hnonneg : ∀ v, 0 ≤ score v) (votes : List TaskVerificationVoteRecord) :
    (∀ (s s₁ s₂ : VerificationConsensusSettler) (env : SettleEnv) (round : TaskVerificationRound) (r : SettleResult),
      s.Funded payload.taskID budget → Attempts payload round s s₁ → s₁.settle env payload round = ((r, none), s₂) →
      r.applied → ∀ v, s₂.validatorPaid payload.taskID v =
        s.validatorPaid payload.taskID v + (s.validatorPayout budget payload round v).toNat) ∧
    (∀ (s s' : VerificationConsensusSettler) (round round' : TaskVerificationRound) (verdict : Verdict),
      s.scoreOf category = score → s'.scoreOf category = score → CopyOf votes category round →
      CopyOf votes category round' → paidVerdict payload = some verdict →
      agreeing round.votes verdict = agreeing round'.votes verdict →
      ((∀ v, s.validatorPayout budget payload round v = s'.validatorPayout budget payload round' v) ↔
        (collectAgreeingValidators round verdict).getLast? = (collectAgreeingValidators round' verdict).getLast? ∨
          ExactSplit (validatorPool budget) score (agreeing round.votes verdict))) ∧
    ((∀ (s s' : VerificationConsensusSettler) (round round' : TaskVerificationRound), s.scoreOf category = score →
        s'.scoreOf category = score → CopyOf votes category round → CopyOf votes category round' →
        ∀ v, s.validatorPayout budget payload round v = s'.validatorPayout budget payload round' v) ↔
      ∀ verdict, paidVerdict payload = some verdict → validatorPool budget ≠ 0 →
        ∑ v ∈ agreeing votes verdict, score v ≠ 0 ∧
          ExactSplit (validatorPool budget) score (agreeing votes verdict) ∧
          ∀ w, w ∉ agreeing votes verdict → score w = 0) := by
  refine ⟨?_, ?_, validatorPayout_eq_forall_iff hnonneg votes⟩
  · intro s s₁ s₂ env round r hfunded hattempts hsettle happlied v
    exact validatorPaid_of_settle hfunded hattempts hsettle happlied v
  · intro s s' round round' verdict hscore hscore' hcopy hcopy' hverdict hagreeing
    rw [← hcopy.category_eq] at hscore
    rw [← hcopy'.category_eq] at hscore'
    exact validatorPayout_eq_iff hnonneg hscore hscore' hverdict hagreeing

end Payouts

section Sample

def passVote (v : ledger.AgentID) : TaskVerificationVoteRecord := ⟨v, .pass, 9000, "f", 10, ∅⟩

def samplePaid (round : TaskVerificationRound) (v : ledger.AgentID) : ℕ :=
  ((sampleSettler "alice" "bob").settle sampleEnv samplePayload round).2.validatorPaid "t" v

/-- Two validators share 2300, and either order pays them alike. -/
theorem settle_agrees_of_two_validators :
    samplePaid (finalizedRound [passVote "v1", passVote "v2"] "code") =
      samplePaid (finalizedRound [passVote "v2", passVote "v1"] "code") := by
  funext v
  obtain ⟨hpaid, hagree, -⟩ := settle_agrees_iff samplePayload 10000 "code" (fun _ => 1) (fun _ => zero_le_one)
    [passVote "v1", passVote "v2"]
  have hpays : ∀ round, ((sampleSettler "alice" "bob").settle sampleEnv samplePayload round).1.1.applied →
      ((sampleSettler "alice" "bob").settle sampleEnv samplePayload round).1.2 = none →
      samplePaid round v = validatorPaid "t" v (sampleSettler "alice" "bob") +
        ((sampleSettler "alice" "bob").validatorPayout 10000 samplePayload round v).toNat := by
    intro round happlied hnone
    refine hpaid _ _ _ sampleEnv round _ (sampleSettler_funded "alice" "bob") .none ?_ happlied v
    rw [← hnone]
  have hswap : [passVote "v2", passVote "v1"].Perm [passVote "v1", passVote "v2"] := .swap _ _ _
  have hexact : ExactSplit (validatorPool 10000) (fun _ => 1)
      (agreeing (finalizedRound [passVote "v1", passVote "v2"] "code").votes .pass) := by
    have hpool : (validatorPool 10000).toNat = 2300 := by decide
    have hcard : (agreeing (finalizedRound [passVote "v1", passVote "v2"] "code").votes .pass).card = 2 := by decide
    simp only [ExactSplit, Finset.sum_const, hcard, hpool, nsmul_eq_mul, mul_one]
    exact fun _ _ => ⟨1150, by norm_num⟩
  have hsame := (hagree (sampleSettler "alice" "bob") (sampleSettler "alice" "bob")
    (finalizedRound [passVote "v1", passVote "v2"] "code") (finalizedRound [passVote "v2", passVote "v1"] "code")
    .pass rfl rfl ⟨_, [], .refl _, rfl, rfl⟩ ⟨_, [], hswap, rfl, rfl⟩ rfl (by decide)).mpr (.inr hexact) v
  rw [hpays _ (by decide +kernel) (by decide +kernel), hpays _ (by decide +kernel) (by decide +kernel), hsame]

/-- Three validators share 2300. Whoever votes last gets two more than the others, and a vote that one node records
    after finalization takes a share there. -/
theorem settle_disagrees_of_three_validators :
    let first := finalizedRound [passVote "v1", passVote "v2", passVote "v3"] "code"
    let second := finalizedRound [passVote "v3", passVote "v2", passVote "v1"] "code"
    let third := recordPostFinalizationVote (passVote "v4") first
    CopyOf first.votes "code" first ∧ CopyOf first.votes "code" second ∧ CopyOf first.votes "code" third ∧
      (∀ round ∈ [first, second, third],
        ((sampleSettler "alice" "bob").settle sampleEnv samplePayload round).1.1.applied) ∧
      [first, second, third].map (samplePaid · "v1") = [766, 768, 575] :=
  ⟨⟨_, [], .refl _, rfl, rfl⟩, ⟨_, [], by decide +kernel, rfl, rfl⟩, ⟨_, [passVote "v4"], .refl _, rfl, rfl⟩,
    by decide +kernel, by decide +kernel⟩

end Sample

end VerificationConsensusSettler

end aethernet.settlement
