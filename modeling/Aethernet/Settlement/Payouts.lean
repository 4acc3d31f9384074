import Aethernet.Settlement.VerificationConsensusSettler

open golang aethernet event ledger escrow tasks taskverification settlement.GenerationLedgerDistribution
open accounting

namespace aethernet.settlement

theorem sum_filter_pos {A : Type} (f : A → UInt64) (l : List A) :
    ((l.filter fun a => 0 < f a).map fun a => (f a).toNat).sum = (l.map fun a => (f a).toNat).sum := by
  induction l with
  | nil => rfl
  | cons a rest ih =>
    by_cases hpos : 0 < f a
    · rw [List.filter_cons, if_pos (decide_eq_true hpos), List.map_cons, List.map_cons, List.sum_cons,
        List.sum_cons, ih]
    · have hzero : (f a).toNat = 0 := by
        have := UInt64.le_iff_toNat_le.mp (UInt64.not_lt.mp hpos)
        rw [UInt64.toNat_zero] at this
        omega
      rw [List.filter_cons, if_neg (by simpa using hpos), List.map_cons, List.sum_cons, ih, hzero, zero_add]

section GenerationLedger

theorem Traversal.ancestors_enqueue (refs : List EventID) (t : Traversal) :
    (t.enqueue refs).ancestors = t.ancestors := by
  induction refs generalizing t with
  | nil => rfl
  | cons ref refs ih =>
    rw [Traversal.enqueue, List.foldl_cons]
    refine (ih _).trans ?_
    split <;> rfl

variable {g : GenerationLedgerCalculator} {get : EventID → Option Event}

def Traversal.Nonneg (t : Traversal) : Prop := ∀ a ∈ t.ancestors, 0 ≤ a.weight

theorem Traversal.Nonneg.visitAncestor {t : Traversal} (h : t.Nonneg) (hquality : ∀ id, 0 ≤ g.qualityFn id)
    (depth : ℕ) (id : EventID) : (g.visitAncestor get depth t id).Nonneg := by
  rw [GenerationLedgerCalculator.visitAncestor]
  cases get id with
  | none => exact h
  | some ev =>
    have hfound : ∀ a ∈ t.ancestors ++ [⟨id, ev.agentID, depth, 1 / ((depth * depth : ℕ) : ℚ) * g.qualityFn id⟩],
        0 ≤ a.weight := by
      intro a ha
      rcases List.mem_append.mp ha with ha | ha
      · exact h a ha
      · rw [List.mem_singleton.mp ha]
        exact mul_nonneg (div_nonneg zero_le_one (Nat.cast_nonneg _)) (hquality id)
    dsimp only
    split
    · rw [Traversal.Nonneg, Traversal.ancestors_enqueue]
      exact hfound
    · exact hfound

theorem Traversal.Nonneg.visitDepth {t : Traversal} (h : t.Nonneg) (hquality : ∀ id, 0 ≤ g.qualityFn id)
    (depth : ℕ) : (g.visitDepth get t depth).Nonneg := by
  have hqueue : ∀ (queue : List EventID) (t : Traversal), t.Nonneg →
      (queue.foldl (g.visitAncestor get depth) t).Nonneg := by
    intro queue
    induction queue with
    | nil => exact fun _ h => h
    | cons id queue ih => exact fun t h => ih _ (h.visitAncestor hquality depth id)
  exact hqueue t.queue { t with queue := [] } h

theorem ancestors_weight_nonneg (hquality : ∀ id, 0 ≤ g.qualityFn id) (id : EventID) (ev : Event) :
    ∀ a ∈ g.ancestors get id ev, 0 ≤ a.weight := by
  have hstart : (Traversal.enqueue ev.refs { visited := {id}, queue := [] }).Nonneg := by
    intro a ha
    rw [Traversal.ancestors_enqueue] at ha
    exact absurd ha List.not_mem_nil
  exact ((hstart.visitDepth hquality 1).visitDepth hquality 2).visitDepth hquality 3

variable (dist : GenerationLedgerDistribution)

/-- What a distribution gives to recipients and the treasury. -/
def GenerationLedgerDistribution.sum : ℕ :=
  (dist.recipients.map fun r => r.amount.toNat).sum + dist.treasury.toNat

theorem sum_calculate (hquality : ∀ id, 0 ≤ g.qualityFn id) (id : EventID) (pool : UInt64) :
    (g.calculate id pool).sum = pool.toNat := by
  have htreasury : sum { treasury := pool, total := pool } = pool.toNat := by
    simp [sum]
  rw [GenerationLedgerCalculator.calculate]
  cases g.dag with
  | none => exact htreasury
  | some get =>
    by_cases hpool : pool = 0
    · simp only [if_pos hpool]
      exact htreasury
    simp only [if_neg hpool]
    cases get id with
    | none => exact htreasury
    | some ev =>
      have hweights : ∀ a ∈ g.ancestors get id ev, 0 ≤ a.weight := ancestors_weight_nonneg hquality id ev
      have hle := sum_proportional_le pool Ancestor.weight hweights
      dsimp only
      generalize g.ancestors get id ev = ancestors at hle ⊢
      by_cases hnone : ancestors = [] ∨ (ancestors.map Ancestor.weight).sum = 0
      · simp only [if_pos hnone]
        exact htreasury
      simp only [if_neg hnone]
      generalize proportional pool Ancestor.weight (ancestors.map Ancestor.weight).sum = share at hle ⊢
      have hshares := sum_assignRemainder_zero pool share (not_or.mp hnone).1 hle
      -- the last ancestor takes what is left, so nothing remains for the treasury
      have hallocated : ((assignRemainder pool share 0 ancestors).map Prod.snd).sum = pool := by
        refine UInt64.toNat_inj.mp ?_
        rw [toNat_sum_map_of_lt _ _ (by rw [hshares]; exact pool.toNat_lt), hshares]
      simp only [sum, List.map_map, hallocated]
      simpa [Function.comp_def] using hshares

/-- The agents with a positive royalty each have one only. -/
def GenerationLedgerDistribution.DistinctAgents : Prop :=
  ((dist.recipients.filter fun r => 0 < r.amount).map RoyaltyRecipient.agentID).Nodup

instance (dist : GenerationLedgerDistribution) : Decidable dist.DistinctAgents :=
  inferInstanceAs (Decidable (List.Nodup _))

open VerificationConsensusSettler in
theorem sum_genRecipientsOf :
    (genRecipientsOf dist).sumBy UInt64.toNat ≤ (dist.recipients.map fun r => r.amount.toNat).sum ∧
    ((genRecipientsOf dist).sumBy UInt64.toNat = (dist.recipients.map fun r => r.amount.toNat).sum ↔
      dist.DistinctAgents) := by
  have hpos : ∀ p ∈ (dist.recipients.filter fun r => 0 < r.amount).map fun r => (r.agentID, r.amount),
      0 < p.2.toNat := by
    intro p hp
    obtain ⟨r, hr, rfl⟩ := List.mem_map.mp hp
    simpa using UInt64.lt_iff_toNat_lt.mp (of_decide_eq_true (List.mem_filter.mp hr).2)
  have hle := Finmap.sumBy_ofInserts_le UInt64.toNat
    ((dist.recipients.filter fun r => 0 < r.amount).map fun r => (r.agentID, r.amount))
  have hiff := Finmap.sumBy_ofInserts_eq_iff UInt64.toNat hpos
  rw [List.map_map] at hle hiff
  rw [← sum_filter_pos RoyaltyRecipient.amount]
  refine ⟨hle, hiff.trans ?_⟩
  rw [List.map_map]
  rfl

end GenerationLedger

section Validators

theorem nodup_collectAgreeingValidators (round : TaskVerificationRound) (verdict : Verdict) :
    (collectAgreeingValidators round verdict).Nodup := by
  refine List.foldlRecOn (motive := List.Nodup) round.votes _ List.nodup_nil fun result hresult v _ => ?_
  split_ifs with h
  · exact List.nodup_append_comm.mp (List.nodup_cons.mpr ⟨h.2, hresult⟩)
  · exact hresult

namespace VerificationConsensusSettler

variable {s : VerificationConsensusSettler}

/-- The float factors of the settlement are not negative. -/
structure NonnegFactors (s : VerificationConsensusSettler) : Prop where
  scores : ∀ category v, 0 ≤ s.scoreOf category v
  qualities : ∀ g, s.genLedger = some g → ∀ id, 0 ≤ g.qualityFn id

theorem sum_computeValidatorPayouts (hfactors : s.NonnegFactors) {recipients : List ledger.AgentID}
    (hne : recipients ≠ []) (hnodup : recipients.Nodup) (pool : UInt64) (category : String) :
    (s.computeValidatorPayouts recipients pool category).sumBy UInt64.toNat = pool.toNat := by
  rw [computeValidatorPayouts]
  by_cases hpool : pool = 0
  · rw [if_pos (.inr hpool), hpool]
    rfl
  rw [if_neg (not_or.mpr ⟨hne, hpool⟩)]
  dsimp only
  generalize hshare : (fun v => if (recipients.map (s.scoreOf category)).sum = 0
    then equalShare pool recipients.length
    else proportional pool (s.scoreOf category) (recipients.map (s.scoreOf category)).sum v) = share
  have hle : (recipients.map fun v => (share v).toNat).sum ≤ pool.toNat := by
    rw [← hshare]
    by_cases hzero : (recipients.map (s.scoreOf category)).sum = 0
    · simp only [if_pos hzero]
      exact sum_equalShare_le pool recipients
    · simp only [if_neg hzero]
      exact sum_proportional_le pool _ fun v _ => hfactors.scores category v
  have hpos : ∀ p ∈ (assignRemainder pool share 0 recipients).filter (fun p => 0 < p.2), 0 < p.2.toNat := by
    intro p hp
    simpa using UInt64.lt_iff_toNat_lt.mp (of_decide_eq_true (List.mem_filter.mp hp).2)
  have hkeys : (((assignRemainder pool share 0 recipients).filter fun p => 0 < p.2).map Prod.fst).Nodup := by
    refine List.Nodup.sublist (List.filter_sublist.map Prod.fst) ?_
    rwa [map_fst_assignRemainder]
  rw [(Finmap.sumBy_ofInserts_eq_iff UInt64.toNat hpos).mpr hkeys]
  exact (sum_filter_pos Prod.snd _).trans (sum_assignRemainder_zero pool share hne hle)

theorem sum_validatorPart (hfactors : s.NonnegFactors) (round : TaskVerificationRound) (verdict : Verdict)
    (pool : UInt64) :
    (s.validatorPart round verdict pool).1.sumBy UInt64.toNat +
      (s.validatorPart round verdict pool).2.toNat = pool.toNat := by
  have hnodup := nodup_collectAgreeingValidators round verdict
  rw [validatorPart]
  cases hagreeing : collectAgreeingValidators round verdict with
  | nil => exact zero_add _
  | cons v rest =>
    rw [hagreeing] at hnodup
    rw [sum_computeValidatorPayouts hfactors (List.cons_ne_nil v rest) hnodup]
    rfl

theorem sum_generationPart (hfactors : s.NonnegFactors) (submissionEventID : EventID) (pool : UInt64) :
    (s.generationPart submissionEventID pool).sum = pool.toNat := by
  rw [generationPart]
  cases hgen : s.genLedger with
  | none => simp [sum]
  | some g => exact sum_calculate (hfactors.qualities g hgen) submissionEventID pool

/-- What the payouts come to. -/
def Payouts.sum (p : Payouts) : ℕ :=
  p.workerAmount.toNat + p.posterRefundAmount.toNat + p.validators.sumBy UInt64.toNat
    + p.genRecipients.sumBy UInt64.toNat + p.treasuryAmount.toNat

/-- The payouts of the three verdicts. -/
def payouts (s : VerificationConsensusSettler) (budget : UInt64) (payload : TaskVerificationConsensusPayload)
    (round : TaskVerificationRound) : Payouts :=
  if payload.finalVerdict = "pass" then s.acceptPayouts budget payload round
  else if payload.finalVerdict = "fail" then s.rejectPayouts budget round
  else disputePayouts budget payload

/-- The generation ledger's part of the budget of an accepted task. -/
def royalties (s : VerificationConsensusSettler) (budget : UInt64) (payload : TaskVerificationConsensusPayload) :
    GenerationLedgerDistribution :=
  s.generationPart payload.submissionEventID (budget * generationShareBP / 10000)

section Budget

variable {budget : UInt64} (hbudget : budget.toNat ≤ 10 ^ 15)
include hbudget

theorem toNat_share {bp : UInt64} (hbp : bp.toNat ≤ 10000) :
    (budget * bp / 10000).toNat = budget.toNat * bp.toNat / 10000 := by
  have hprod : budget.toNat * bp.toNat < 2 ^ 64 :=
    lt_of_le_of_lt (Nat.mul_le_mul hbudget hbp) (by norm_num)
  rw [UInt64.toNat_div, UInt64.toNat_mul, Nat.mod_eq_of_lt hprod]
  rfl

theorem toNat_workerShare : (budget * workerShareBP / 10000).toNat = budget.toNat * 7300 / 10000 :=
  toNat_share hbudget (by decide)

theorem toNat_validatorShare : (budget * validatorShareBP / 10000).toNat = budget.toNat * 2300 / 10000 :=
  toNat_share hbudget (by decide)

theorem toNat_generationShare : (budget * generationShareBP / 10000).toNat = budget.toNat * 200 / 10000 :=
  toNat_share hbudget (by decide)

theorem sum_acceptPayouts (hfactors : s.NonnegFactors) (payload : TaskVerificationConsensusPayload)
    (round : TaskVerificationRound) :
    (s.acceptPayouts budget payload round).sum = budget.toNat ↔ (s.royalties budget payload).DistinctAgents := by
  have hworker := toNat_workerShare hbudget
  have hvalidator := toNat_validatorShare hbudget
  have hgeneration := toNat_generationShare hbudget
  have hvalidators := sum_validatorPart hfactors round .pass (budget * validatorShareBP / 10000)
  have hroyalties := sum_generationPart hfactors payload.submissionEventID (budget * generationShareBP / 10000)
  obtain ⟨hle, hiff⟩ := sum_genRecipientsOf (s.royalties budget payload)
  rw [← hiff]
  rw [sum] at hroyalties
  simp only [Payouts.sum, acceptPayouts, royalties, UInt64.toNat_add, UInt64.toNat_sub, UInt64.toNat_zero] at *
  omega

theorem sum_rejectPayouts (hfactors : s.NonnegFactors) (round : TaskVerificationRound) :
    (s.rejectPayouts budget round).sum = budget.toNat := by
  have hworker := toNat_workerShare hbudget
  have hvalidator := toNat_validatorShare hbudget
  have hvalidators := sum_validatorPart hfactors round .fail (budget * validatorShareBP / 10000)
  have hnone : (∅ : Map ledger.AgentID UInt64).sumBy UInt64.toNat = 0 := rfl
  simp only [Payouts.sum, rejectPayouts, UInt64.toNat_add, UInt64.toNat_sub, UInt64.toNat_zero, hnone] at *
  omega

theorem sum_disputePayouts (payload : TaskVerificationConsensusPayload) :
    (disputePayouts budget payload).sum = budget.toNat := by
  have hworker := toNat_workerShare hbudget
  have hhalf : (budget * workerShareBP / 10000 / 2).toNat = budget.toNat * 7300 / 10000 / 2 := by
    rw [UInt64.toNat_div, hworker]
    rfl
  have hnone : (∅ : Map ledger.AgentID UInt64).sumBy UInt64.toNat = 0 := rfl
  have hle : budget * workerShareBP / 10000 / 2 ≤ budget * workerShareBP / 10000 :=
    UInt64.le_iff_toNat_le.mpr (by omega)
  have hle' : budget * workerShareBP / 10000 ≤ budget := UInt64.le_iff_toNat_le.mpr (by omega)
  simp only [Payouts.sum, disputePayouts, UInt64.toNat_sub_of_le _ _ hle, UInt64.toNat_sub_of_le _ _ hle', hnone,
    hhalf, hworker]
  omega

theorem sum_payouts_eq_iff (hfactors : s.NonnegFactors) (payload : TaskVerificationConsensusPayload)
    (round : TaskVerificationRound) :
    (s.payouts budget payload round).sum = budget.toNat ↔
      (payload.finalVerdict = "pass" → (s.royalties budget payload).DistinctAgents) := by
  rw [payouts]
  by_cases hpass : payload.finalVerdict = "pass"
  · rw [if_pos hpass, sum_acceptPayouts hbudget hfactors]
    exact ⟨fun h _ => h, fun h => h hpass⟩
  · refine iff_of_true ?_ fun h => absurd h hpass
    split_ifs
    · exact sum_rejectPayouts hbudget hfactors round
    · exact sum_disputePayouts hbudget payload

end Budget

end VerificationConsensusSettler

end Validators

end aethernet.settlement
