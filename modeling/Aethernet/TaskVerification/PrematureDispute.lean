import Aethernet.Recognition.DeliveryPaths
import Aethernet.TaskVerification.DeadlineChecker

open golang aethernet.recognition

namespace aethernet.taskverification

open roundprogress

namespace DeadlineChecker

variable (d : DeadlineChecker) (env : CheckEnv) (round : TaskVerificationRound)

/-- The check moves the round to disputed. -/
def Disputes : Prop := ∃ disputed, d.checked env round = some (disputed, true) ∧ disputed.state = .disputed

/-- The votes are enough for the finalizer to accept or reject. -/
def Decides : Prop :=
  ceilMulDiv env.totalWeight d.finalizer.bftThresholdBP 10000 ≤ round.passWeight ∧ d.finalizer.meetsFloors round ∨
    ceilMulDiv env.totalWeight d.finalizer.bftThresholdBP 10000 ≤ round.failWeight

/-- The validators of the terminal snapshots, without those who voted. -/
def finished : List String :=
  ((unvoted env round).filter (·.currentPhase.isTerminal)).map (·.validatorID)

/-- The validators with a vote or a terminal snapshot. -/
def done : Finset String :=
  (round.votes.map (·.validatorID)).toFinset ∪
    ((env.snapshots.filter (·.currentPhase.isTerminal)).map (·.validatorID)).toFinset

variable {d env round} {backstopSeconds : Int64}

theorem evaluate_cases (d : DeadlineChecker) (env : CheckEnv) (hopen : round.state = .opened) (now : Int64) :
    let decision := d.finalizer.evaluate round env.totalWeight now
    d.Decides env round ∧ decision.shouldFinalize ∧ decision.verdict.toState ≠ .disputed ∨
      ¬ d.Decides env round ∧ (decision = {} ∨ decision = .dispute) := by
  unfold FinalizerConfig.evaluate Decides
  rw [if_neg (not_not.mpr hopen)]
  split_ifs with haccept hreject
  · exact .inl ⟨.inl haccept, rfl, by simp [Verdict.toState]⟩
  · exact .inl ⟨.inr hreject, rfl, by simp [Verdict.toState]⟩
  · exact .inr ⟨by tauto, evaluateDeadline_cases round env.totalWeight now⟩

section

variable (hopen : round.state = .opened)

include hopen

theorem not_secured (hundecided : ¬ d.Decides env round) (activeLeaseCount : ℕ) :
    d.isOutcomeSecured env round activeLeaseCount = false := by
  unfold isOutcomeSecured
  obtain ⟨hdecides, -⟩ | ⟨-, hnone | hdispute⟩ := evaluate_cases d env hopen env.clock
  · exact absurd hdecides hundecided
  · simp [hnone]
  · simp [hdispute, FinalizationDecision.dispute]

theorem disputed_decisionOrDispute_iff :
    (d.decisionOrDispute env round).verdict.toState = .disputed ↔ ¬ d.Decides env round := by
  unfold decisionOrDispute
  obtain ⟨hdecides, hfinal, hstate⟩ | ⟨hundecided, hnone | hdispute⟩ :=
    evaluate_cases d env hopen env.now
  · simp [hfinal, hstate, hdecides]
  · simp [hnone, hundecided, FinalizationDecision.dispute, Verdict.toState]
  · simp [hdispute, hundecided, FinalizationDecision.dispute, Verdict.toState]

theorem disputes_iff :
    d.Disputes env round ↔
      ∃ decision, d.action env round = .finalize decision ∧ decision.verdict.toState = .disputed := by
  unfold Disputes checked
  cases d.action env round with
  | wait => simp
  | extend => simp
  | finalize decision => simp [transition_of_open hopen]

theorem policy_of_undecided
    (hbefore : env.now < round.openedAtUnix + backstopSeconds) (hundecided : ¬ d.Decides env round) :
    let decision := roundpolicy.evaluate (d.buildRoundState backstopSeconds env round) env.now
    (decision = .finalizeNow ∨ decision = .expired) ↔
      let state := d.buildRoundState backstopSeconds env round
      0 < state.totalValidators ∧ state.totalValidators ≤ state.terminalCount := by
  have hlater : ¬ round.openedAtUnix + backstopSeconds ≤ env.now := by
    rw [Int64.not_le]
    exact hbefore
  unfold roundpolicy.evaluate
  have hsecured : (d.buildRoundState backstopSeconds env round).outcomeSecured = false :=
    not_secured hopen hundecided _
  have hbackstop : (d.buildRoundState backstopSeconds env round).backstopUnix =
      round.openedAtUnix + backstopSeconds := rfl
  simp only [hsecured, hbackstop, hlater, hbefore, and_false, if_false, Bool.false_eq_true, if_true]
  split_ifs with hterminal <;> simp [hterminal]

end

theorem terminalCount_eq (backstopSeconds : Int64) : (d.buildRoundState backstopSeconds env round).terminalCount =
    (round.votes.map (·.validatorID)).toFinset.card + (finished env round).length := by
  simp [buildRoundState, finished, List.countP_eq_length_filter]

theorem card_done : (done env round).card =
    (round.votes.map (·.validatorID)).toFinset.card + (finished env round).toFinset.card := by
  have hdone : done env round = (round.votes.map (·.validatorID)).toFinset ∪ (finished env round).toFinset := by
    ext id
    simp only [done, finished, unvoted, Finset.mem_union, List.mem_toFinset, List.mem_map, List.mem_filter]
    constructor
    · rintro (hvoted | ⟨snap, ⟨hsnap, hterminal⟩, rfl⟩)
      · exact .inl hvoted
      · by_cases hvoted : ∃ v ∈ round.votes, v.validatorID = snap.validatorID
        · exact .inl hvoted
        · exact .inr ⟨snap, ⟨⟨hsnap, by simpa using hvoted⟩, hterminal⟩, rfl⟩
    · rintro (hvoted | ⟨snap, ⟨⟨hsnap, -⟩, hterminal⟩, rfl⟩)
      · exact .inl hvoted
      · exact .inr ⟨snap, ⟨hsnap, hterminal⟩, rfl⟩
  rw [hdone, Finset.card_union_of_disjoint]
  rw [Finset.disjoint_right]
  intro id hfinished hvoted
  simp [finished, unvoted] at hfinished hvoted
  grind

theorem disputes_iff_of_before (env : CheckEnv) (hbackstop : d.backstopSeconds = some backstopSeconds)
    (hopen : round.state = .opened) (hbefore : env.now < round.openedAtUnix + backstopSeconds) {n : ℤ}
    (hcount : env.activeCount = some n) (hpos : 0 < n) :
    d.Disputes env round ↔ ¬ d.Decides env round ∧
      n ≤ (round.votes.map (·.validatorID)).toFinset.card + (finished env round).length := by
  have htotal : (d.buildRoundState backstopSeconds env round).totalValidators = n := by
    simp [buildRoundState, hcount, hpos.ne']
  have haction : d.Disputes env round ↔
      (roundpolicy.evaluate (d.buildRoundState backstopSeconds env round) env.now = .finalizeNow ∨
        roundpolicy.evaluate (d.buildRoundState backstopSeconds env round) env.now = .expired) ∧
        ¬ d.Decides env round := by
    rw [← disputed_decisionOrDispute_iff hopen, disputes_iff hopen, action, hbackstop]
    dsimp only [checkProgressAware]
    cases roundpolicy.evaluate (d.buildRoundState backstopSeconds env round) env.now <;> simp
  rw [haction, and_comm]
  refine and_congr_right fun hundecided => ?_
  refine (policy_of_undecided hopen hbefore hundecided).trans ?_
  simp [htotal, terminalCount_eq, hpos]

/-- No premature dispute. Before the backstop of an open round, whatever the number of active validators, a check
    disputes it only if that many are done, if and only if the votes decide the round or no validator without a vote has
    two terminal snapshots. -/
theorem disputes_only_done_iff {backstopSeconds : Int64} (hbackstop : d.backstopSeconds = some backstopSeconds)
    (hopen : round.state = .opened) (hbefore : env.now < round.openedAtUnix + backstopSeconds) :
    (∀ n : ℤ, 0 < n → d.Disputes { env with activeCount := some n } round → n ≤ (done env round).card) ↔
      d.Decides env round ∨ (finished env round).Nodup := by
  have hiff : ∀ n : ℤ, 0 < n → (d.Disputes { env with activeCount := some n } round ↔ ¬ d.Decides env round ∧
      n ≤ (round.votes.map (·.validatorID)).toFinset.card + (finished env round).length) := fun n hpos =>
    disputes_iff_of_before { env with activeCount := some n } hbackstop hopen hbefore rfl hpos
  have hle := List.toFinset_card_le (finished env round)
  have hnodup : (finished env round).Nodup ↔ (finished env round).toFinset.card = (finished env round).length :=
    (Multiset.toFinset_card_eq_card_iff_nodup (m := (finished env round : Multiset String))).symm
  rw [hnodup, card_done]
  constructor
  · intro honly
    by_contra hnot
    obtain ⟨hundecided, hne⟩ := not_or.mp hnot
    have hpos : 0 < (((round.votes.map (·.validatorID)).toFinset.card + (finished env round).length : ℕ) : ℤ) := by
      omega
    have := honly _ hpos ((hiff _ hpos).mpr ⟨hundecided, by push_cast; exact le_rfl⟩)
    omega
  · rintro hcase n hpos hdisputes
    obtain ⟨hundecided, hn⟩ := (hiff n hpos).mp hdisputes
    obtain hdecides | heq := hcase
    · exact absurd hdecides hundecided
    · rw [heq]
      exact_mod_cast hn

section Sample

def sampleChecker : DeadlineChecker where
  finalizer := defaultFinalizerConfig
  backstopSeconds := some 300

/-- One of two validators has given up in two families, a minute after the round was opened. -/
def oneOfTwo : CheckEnv where
  totalWeight := 20
  now := 60
  clock := 60
  activeCount := some 2
  snapshots := [⟨"validator", .failed, 0⟩, ⟨"validator", .abstained, 0⟩]

theorem disputes_only_done_iff_oneOfTwo :
    (∀ n : ℤ, 0 < n → sampleChecker.Disputes { oneOfTwo with activeCount := some n } freshRound →
      n ≤ (done oneOfTwo freshRound).card) ↔
    sampleChecker.Decides oneOfTwo freshRound ∨ (finished oneOfTwo freshRound).Nodup :=
  disputes_only_done_iff rfl rfl (by decide)

/-- The round is disputed, although the other validator may still vote. -/
theorem disputed_with_one_done :
    (sampleChecker.checked oneOfTwo freshRound).map (fun r => (r.1.state, r.2)) = some (.disputed, true) ∧
      oneOfTwo.now < freshRound.openedAtUnix + 300 ∧ (done oneOfTwo freshRound).card = 1 := by
  decide +kernel

end Sample

end DeadlineChecker

end aethernet.taskverification
