import Aethernet.TaskVerification.Round

open golang

namespace aethernet.taskverification

/-- `FinalizationReason`; the empty text is that of a decision not to finalize. -/
inductive FinalizationReason where
  | none
  | acceptSupermajority
  | rejectSupermajority
  | deadlineExpiredDispute
  deriving DecidableEq, Repr

structure FinalizationDecision where
  shouldFinalize : Bool := false
  verdict : Verdict := .pass
  finalScoreBP : UInt64 := 0
  reason : FinalizationReason := .none
  deriving DecidableEq

/-- `FinalizerConfig`, without the acceptance score and the fail diversity flag, which `Evaluate` does not
    read. -/
structure FinalizerConfig where
  bftThresholdBP : UInt64
  diversityFloor : ℤ
  participationFloor : ℤ

def defaultFinalizerConfig : FinalizerConfig where
  bftThresholdBP := 6667
  diversityFloor := 2
  participationFloor := defaultParticipationFloor

/-- `ceilMulDiv`; the product wraps. -/
def ceilMulDiv (a b c : UInt64) : UInt64 := if c = 0 then 0 else (a * b + c - 1) / c

def medianScore (votes : List TaskVerificationVoteRecord) (filterVerdict : Verdict) : UInt64 :=
  let scores := sortSlice (((votes.filter fun v => v.verdict = filterVerdict).map (·.scoreBP) :
    List UInt64) : Multiset UInt64)
  let n := scores.length
  if n = 0 then 0
  else if n % 2 = 1 then scores.getD (n / 2) 0
  else (scores.getD (n / 2 - 1) 0 + scores.getD (n / 2) 0) / 2

def FinalizationDecision.dispute : FinalizationDecision where
  shouldFinalize := true
  verdict := .abstain
  reason := .deadlineExpiredDispute

/-- The two floors a supermajority of pass votes has to meet as well. -/
def FinalizerConfig.meetsFloors (config : FinalizerConfig) (round : TaskVerificationRound) : Bool :=
  let participationFloor :=
    if config.participationFloor = 0 then defaultParticipationFloor else config.participationFloor
  config.diversityFloor ≤ round.distinctPassFamilies &&
    participationFloor ≤ round.distinctParticipatingFamilies

/-- The deadline checks of `Evaluate`. -/
def evaluateDeadline (round : TaskVerificationRound) (totalActiveWeight : UInt64) (now : Int64) :
    FinalizationDecision :=
  if round.deadlineForCurrentPhase < now then
    if 0 < round.extendedUntilUnix then .dispute
    else if totalActiveWeight / 2 ≤ round.passWeight ∨ totalActiveWeight / 2 ≤ round.failWeight then {}
    else .dispute
  else {}

/-- `Finalizer.Evaluate`. -/
def FinalizerConfig.evaluate (config : FinalizerConfig) (round : TaskVerificationRound)
    (totalActiveWeight : UInt64) (now : Int64) : FinalizationDecision :=
  if round.state ≠ .opened then {}
  else if ceilMulDiv totalActiveWeight config.bftThresholdBP 10000 ≤ round.passWeight ∧
      config.meetsFloors round then
    { shouldFinalize := true
      verdict := .pass
      finalScoreBP := medianScore round.votes .pass
      reason := .acceptSupermajority }
  else if ceilMulDiv totalActiveWeight config.bftThresholdBP 10000 ≤ round.failWeight then
    { shouldFinalize := true
      verdict := .fail
      reason := .rejectSupermajority }
  else evaluateDeadline round totalActiveWeight now

section Decision

variable {config : FinalizerConfig} {round : TaskVerificationRound} {totalActiveWeight : UInt64} {now : Int64}

theorem evaluateDeadline_cases (round : TaskVerificationRound) (totalActiveWeight : UInt64) (now : Int64) :
    evaluateDeadline round totalActiveWeight now = {} ∨
      evaluateDeadline round totalActiveWeight now = .dispute := by
  unfold evaluateDeadline
  split_ifs
  · exact .inr rfl
  · exact .inl rfl
  · exact .inr rfl
  · exact .inl rfl

theorem threshold_le_of_accept (h : (config.evaluate round totalActiveWeight now).shouldFinalize = true)
    (hpass : (config.evaluate round totalActiveWeight now).verdict = .pass) :
    ceilMulDiv totalActiveWeight config.bftThresholdBP 10000 ≤ round.passWeight := by
  unfold FinalizerConfig.evaluate at h hpass
  split_ifs at h hpass with hstate haccept hreject
  · exact haccept.1
  · rcases evaluateDeadline_cases round totalActiveWeight now with hnone | hdispute
    · rw [hnone] at h
      cases h
    · rw [hdispute] at hpass
      cases hpass

theorem threshold_le_of_reject (hfail : (config.evaluate round totalActiveWeight now).verdict = .fail) :
    ceilMulDiv totalActiveWeight config.bftThresholdBP 10000 ≤ round.failWeight := by
  unfold FinalizerConfig.evaluate at hfail
  split_ifs at hfail with hstate haccept hreject
  · exact hreject
  · rcases evaluateDeadline_cases round totalActiveWeight now with hnone | hdispute
    · rw [hnone] at hfail
      cases hfail
    · rw [hdispute] at hfail
      cases hfail

end Decision

section Thresholds

variable {config : FinalizerConfig} {round : TaskVerificationRound} {bp totalActiveWeight weight : UInt64} {now : Int64}

theorem toNat_threshold (totalActiveWeight bp : UInt64) :
    (ceilMulDiv totalActiveWeight bp 10000).toNat = (totalActiveWeight.toNat * bp.toNat + 9999) % 2 ^ 64 / 10000 := by
  have hsum : totalActiveWeight * bp + 10000 - 1 = totalActiveWeight * bp + 9999 := by
    rw [UInt64.sub_eq_add_neg, UInt64.add_assoc]
    rfl
  rw [ceilMulDiv, if_neg (by decide), UInt64.toNat_div, hsum, UInt64.toNat_add, UInt64.toNat_mul, Nat.mod_add_mod]
  rfl

def Carries (bp totalActiveWeight weight : UInt64) : Prop :=
  0 < weight ∧ totalActiveWeight.toNat * bp.toNat ≤ weight.toNat * 10000

instance : Decidable (Carries bp totalActiveWeight weight) := inferInstanceAs (Decidable (_ ∧ _))

/-- The weight behind an accepting or rejecting decision carries it. -/
def FinalizerConfig.SoundOn (config : FinalizerConfig) (round : TaskVerificationRound) (totalActiveWeight : UInt64)
    (now : Int64) : Prop :=
  let decision := config.evaluate round totalActiveWeight now
  (decision.shouldFinalize ∧ decision.verdict = .pass → Carries config.bftThresholdBP totalActiveWeight
    round.passWeight) ∧
    (decision.shouldFinalize ∧ decision.verdict = .fail → Carries config.bftThresholdBP totalActiveWeight
      round.failWeight)

instance : Decidable (config.SoundOn round totalActiveWeight now) := inferInstanceAs (Decidable (_ ∧ _))

/-- There is a total weight, and its product with the threshold leaves room to round up. -/
def ThresholdFits (bp totalActiveWeight : UInt64) : Prop :=
  0 < totalActiveWeight ∧ totalActiveWeight.toNat * bp.toNat + 9999 < 2 ^ 64

theorem carries_threshold_iff (hbp : 1 ≤ bp) :
    Carries bp totalActiveWeight (ceilMulDiv totalActiveWeight bp 10000) ↔ ThresholdFits bp totalActiveWeight := by
  have hone : 1 ≤ bp.toNat := by simpa [UInt64.le_iff_toNat_le] using hbp
  have hpos : 0 < totalActiveWeight.toNat * bp.toNat ↔ 0 < totalActiveWeight.toNat := by
    rw [Nat.mul_pos_iff_of_pos_right hone]
  simp only [Carries, ThresholdFits, UInt64.lt_iff_toNat_lt, toNat_threshold, UInt64.toNat_zero]
  omega

theorem Carries.mono {weight' : UInt64} (h : Carries bp totalActiveWeight weight) (hle : weight ≤ weight') :
    Carries bp totalActiveWeight weight' := by
  unfold Carries at h ⊢
  simp only [UInt64.lt_iff_toNat_lt, UInt64.le_iff_toNat_le] at h hle ⊢
  omega

/-- A round that nobody has voted on. -/
def freshRound : TaskVerificationRound where
  roundID := "round"
  taskID := "task"
  submissionEventID := "work"
  workerID := "worker"
  posterID := "poster"
  category := "code"
  validatorSetVersion := 1
  committee := none
  analyzerPolicyID := ""
  diversityFloor := 2
  acceptanceThresholdBP := 7000
  openedAtUnix := 0
  deadlineUnix := 300
  state := .opened

/-- That round with one vote against the work. -/
def rejectedBy (stake : UInt64) : TaskVerificationRound :=
  freshRound.recordVote
    { validatorID := "validator", verdict := .fail, scoreBP := 0, analyzerFamily := "family", stake := stake }

theorem not_soundOn_rejectedBy (now : Int64)
    (h : ¬ Carries config.bftThresholdBP totalActiveWeight (ceilMulDiv totalActiveWeight config.bftThresholdBP 10000)) :
    ¬ config.SoundOn (rejectedBy (ceilMulDiv totalActiveWeight config.bftThresholdBP 10000)) totalActiveWeight now := by
  generalize hthreshold : ceilMulDiv totalActiveWeight config.bftThresholdBP 10000 = threshold at h ⊢
  have hpass : (rejectedBy threshold).passWeight = 0 := rfl
  have hfail : (rejectedBy threshold).failWeight = threshold := by simp [rejectedBy, freshRound,
    TaskVerificationRound.recordVote]
  have hopen : (rejectedBy threshold).state = .opened := rfl
  intro hsound
  unfold FinalizerConfig.SoundOn FinalizerConfig.evaluate at hsound
  rw [hthreshold, hpass, hfail, if_neg (not_not.mpr hopen)] at hsound
  by_cases haccept : threshold ≤ 0 ∧ config.meetsFloors (rejectedBy threshold)
  · rw [if_pos haccept] at hsound
    exact (hsound.1 ⟨rfl, rfl⟩).1.ne' rfl
  · rw [if_neg haccept, if_pos le_rfl] at hsound
    exact h (hsound.2 ⟨rfl, rfl⟩)

/-- Every open round is decided soundly exactly if the threshold fits. -/
theorem soundOn_iff_fits (hbp : 1 ≤ config.bftThresholdBP) :
    (∀ round : TaskVerificationRound, round.state = .opened → ∀ now, config.SoundOn round totalActiveWeight now) ↔
      ThresholdFits config.bftThresholdBP totalActiveWeight := by
  rw [← carries_threshold_iff hbp]
  constructor
  · intro hsound
    by_contra hnot
    exact not_soundOn_rejectedBy 0 hnot (hsound _ rfl 0)
  · intro hcarries round _ now
    exact ⟨fun h => hcarries.mono (threshold_le_of_accept h.1 h.2), fun h => hcarries.mono (threshold_le_of_reject h.2)⟩

theorem soundOn_iff_fits_default :
    1 ≤ defaultFinalizerConfig.bftThresholdBP ∧
      ((∀ round : TaskVerificationRound, round.state = .opened → ∀ now, defaultFinalizerConfig.SoundOn round
        3000000 now) ↔
        ThresholdFits 6667 3000000) :=
  ⟨by decide, soundOn_iff_fits (by decide)⟩

/-- Without a validator set the total is zero and a round nobody voted on is rejected; and a total whose product wraps
    lets a weight of one reject a round. -/
theorem not_soundOn_zero_or_wrapped :
    ¬ defaultFinalizerConfig.SoundOn freshRound 0 0 ∧
      ¬ defaultFinalizerConfig.SoundOn (rejectedBy 1) 2766873267393064 0 := by
  decide +kernel

end Thresholds

end aethernet.taskverification
