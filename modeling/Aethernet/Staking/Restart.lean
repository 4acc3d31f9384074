import Aethernet.Golang.Sort
import Aethernet.Staking.Collateral
import Aethernet.Transition.Invariant

open golang aethernet.ledger transition Finmap

namespace aethernet.staking

/-- A call on a manager. `Stake` and `Unstake` find the transfer ledger in some state, if one is set. -/
inductive StakeOp where
  | stake (now : Int64) (amb : Ambient) (transfer : Option TransferLedger) (agentID : AgentID) (amount : UInt64)
  | unstake (amb : Ambient) (transfer : Option TransferLedger) (agentID : AgentID) (amount : UInt64)
  | recordCanonicalStake (now : Int64) (agentID : AgentID) (amount : UInt64)
  | recordCanonicalUnstake (agentID : AgentID) (amount : UInt64)
  | recordActivity (now : Int64) (agentID : AgentID)
  | slash (agentID : AgentID) (percentage : UInt64)
  | slashDefault (agentID : AgentID)

namespace StakeManager

def perform (sm : StakeManager) : StakeOp → StakeManager
  | .stake now _ none agentID amount => sm.recordCanonicalStake now agentID amount
  | .stake now amb (some l) agentID amount => (WiredStakes.stake now amb agentID amount ⟨sm, l⟩).2.manager
  | .unstake _ none agentID amount =>
    if sm.stakedAmount agentID < amount then sm
    else (sm.setStake agentID (sm.stakedAmount agentID - amount)).putMeta agentID
  | .unstake amb (some l) agentID amount => (WiredStakes.unstake amb agentID amount ⟨sm, l⟩).2.manager
  | .recordCanonicalStake now agentID amount => sm.recordCanonicalStake now agentID amount
  | .recordCanonicalUnstake agentID amount => sm.recordCanonicalUnstake agentID amount
  | .recordActivity now agentID => sm.recordActivity now agentID
  | .slash agentID percentage => (sm.slash agentID percentage).2
  | .slashDefault agentID => (sm.slashDefault agentID).2

/-- A fresh manager that loads the store has the same of every agent. -/
def Reloads (sm : StakeManager) : Prop :=
  ∃ stored, sm.store = some stored ∧ ∀ order agentID, (loadFromStore order stored).held agentID = sm.held agentID

/-- A refused stake is not the first of its agent, and a slash takes nothing. -/
def Persists (sm : StakeManager) : StakeOp → Prop
  | .stake now amb (some l) agentID amount => agentID ∈ sm.stakedSince ∨ now = 0 ∨ amount = 0 ∨
    (l.transferFromBucketLabeled amb agentID stakingPool amount "staking:lock" false).1 = .ok ()
  | .slash agentID percentage => sm.stakedAmount agentID * (if 100 < percentage then 100 else percentage) < 100
  | _ => True

section Restart

variable {sm sm' : StakeManager} {agentID : AgentID}

theorem reloads_iff : sm.Reloads ↔ sm.Stored id := by
  refine exists_congr fun stored => and_congr_right fun _ => ?_
  have hloaded : ∀ order agentID,
      (loadFromStore order stored).held agentID = ((stored.lookup agentID).map id).getD ⟨0, 0, 0⟩ := by
    intro order agentID
    simp only [held, stakedAmount, loadFromStore, getD_loadNonzero]
    cases stored.lookup agentID <;> rfl
  simp only [hloaded]
  exact ⟨fun h => h .byKey, fun h _ => h⟩

variable (h : sm.Stored id)

include h

theorem stored_iff_held_eq (hothers : ∀ agent, agent ≠ agentID → sm'.held agent = sm.held agent)
    (hstore : sm'.store = sm.store) : sm'.Stored id ↔ sm'.held agentID = sm.held agentID := by
  obtain ⟨stored, hstored, hbefore⟩ := h
  simp only [Stored, hstore, hstored, Option.some.injEq, exists_eq_left', hbefore]
  refine ⟨fun hafter => (hafter agentID).symm, fun hsame agent => ?_⟩
  by_cases hagent : agent = agentID
  · rw [hagent, hsame]
  · rw [hothers agent hagent]

theorem stored_noteSince_iff (now : Int64) :
    (sm.noteSince now agentID).Stored id ↔ agentID ∈ sm.stakedSince ∨ now = 0 := by
  by_cases hmem : agentID ∈ sm.stakedSince
  · simp [noteSince, hmem, h]
  · have hzero : sm.stakedSince.getD agentID 0 = 0 := by
      rw [getD, lookup_eq_none.mpr hmem, Option.getD_none]
    have hothers : ∀ agent, agent ≠ agentID → (sm.noteSince now agentID).held agent = sm.held agent := by
      intro agent hagent
      simp [held, noteSince, hmem, getD_insert_of_ne _ _ _ hagent, stakedAmount]
    refine (stored_iff_held_eq h hothers rfl).trans ?_
    simp [noteSince, held, hmem, hzero, getD_insert, stakedAmount]

theorem stored_slash_iff (percentage : UInt64) : (sm.slash agentID percentage).2.Stored id ↔
    sm.stakedAmount agentID * (if 100 < percentage then 100 else percentage) < 100 := by
  unfold slash
  generalize (if 100 < percentage then 100 else percentage) = percentage
  by_cases hnone : sm.stakedAmount agentID = 0
  · rw [if_pos hnone, hnone, UInt64.zero_mul]
    exact iff_of_true h (by decide)
  have hheld : ∀ left agent, (sm.setStake agentID left).held agent =
      { sm.held agent with stakedAmount := if agent = agentID then left else sm.stakedAmount agent } := by
    intro left agent
    simp only [held, stakedAmount_setStake]
    rfl
  have hslashed : sm.stakedAmount agentID * percentage / 100 = 0 ↔ sm.stakedAmount agentID * percentage < 100 := by
    rw [← UInt64.toNat_inj, UInt64.toNat_div, UInt64.lt_iff_toNat_lt]
    exact Nat.div_eq_zero_iff_lt (by decide)
  have hothers : ∀ left agent, agent ≠ agentID → (sm.setStake agentID left).held agent = sm.held agent := by
    intro left agent hagent
    rw [hheld, if_neg hagent]
    rfl
  rw [if_neg hnone, ← hslashed]
  refine (stored_iff_held_eq h (hothers _) rfl).trans ?_
  rw [hheld, if_pos rfl]
  simp [held]

theorem stored_stake_iff (now : Int64) (amb : Ambient) (l : TransferLedger) (amount : UInt64) :
    (WiredStakes.stake now amb agentID amount ⟨sm, l⟩).2.manager.Stored id ↔
      sm.Persists (.stake now amb (some l) agentID amount) := by
  unfold WiredStakes.stake Persists
  by_cases hpos : 0 < amount
  · have hne : amount ≠ 0 := UInt64.pos_iff_ne_zero.mp hpos
    rw [if_pos hpos]
    dsimp only
    rcases l.transferFromBucketLabeled amb agentID stakingPool amount "staking:lock" false with ⟨err | _, l'⟩
    · simp [stored_noteSince_iff h, hne]
    · exact iff_of_true (h.recordCanonicalStake now amount) (.inr (.inr (.inr rfl)))
  · rw [if_neg hpos]
    have hzero : amount = 0 := by simpa [UInt64.pos_iff_ne_zero] using hpos
    exact iff_of_true (h.recordCanonicalStake now amount) (.inr (.inr (.inl hzero)))

theorem stored_unstake (amb : Ambient) (l : TransferLedger) (amount : UInt64) :
    (WiredStakes.unstake amb agentID amount ⟨sm, l⟩).2.manager.Stored id := by
  unfold WiredStakes.unstake
  dsimp only
  split_ifs
  · exact h
  · rcases l.transferFromBucketLabeled amb stakingPool agentID amount "staking:unlock" false with ⟨err | _, l'⟩
    · exact h
    · exact h.setStake _
  · exact h.setStake _

theorem stored_perform_iff (op : StakeOp) : (sm.perform op).Stored id ↔ sm.Persists op := by
  cases op with
  | stake now amb transfer agentID amount =>
    cases transfer with
    | none => exact iff_of_true (h.recordCanonicalStake now amount) trivial
    | some l => exact stored_stake_iff h now amb l amount
  | unstake amb transfer agentID amount =>
    refine iff_of_true ?_ trivial
    cases transfer with
    | none =>
      simp only [perform]
      split_ifs
      · exact h
      · exact h.setStake _
    | some l => exact stored_unstake h amb l amount
  | recordCanonicalStake now agentID amount => exact iff_of_true (h.recordCanonicalStake now amount) trivial
  | recordCanonicalUnstake agentID amount => exact iff_of_true (h.setStake _) trivial
  | recordActivity now agentID => exact iff_of_true (h.recordActivity now) trivial
  | slash agentID percentage => exact stored_slash_iff h percentage
  | slashDefault agentID =>
    refine iff_of_true (h.putMeta rfl fun agent hagent => ?_) trivial
    simp [held, stakedAmount, getD, lookup_erase_ne hagent]

end Restart

/-- Every restart along a run finds what the manager had, exactly if no slash took anything and no first stake of an
    agent was refused. -/
theorem reloads_along_iff (ops : List StakeOp) :
    MeetsAlong perform (fun sm op => (sm.perform op).Reloads) { store := some ∅ } ops ↔
      MeetsAlong perform Persists { store := some ∅ } ops := by
  simp only [reloads_iff]
  exact meetsAlong_iff_of_kept (P := Stored id) ⟨∅, rfl, fun _ => rfl⟩ (fun _ _ _ h => h) fun _ op h =>
    stored_perform_iff h op

/-- The slashed half of a stake is back after a restart, and the time noted by a refused stake is not. -/
theorem slash_not_reloads :
    (¬ MeetsAlong perform (fun sm op => (sm.perform op).Reloads) { store := some ∅ }
      [.recordCanonicalStake 5 "alice" 1000, .slash "alice" 50]) ∧
    ¬ MeetsAlong perform (fun sm op => (sm.perform op).Reloads) { store := some ∅ }
      [.recordActivity 4 "alice", .stake 5 { now := 0 } (some {}) "alice" 1000] := by
  simp only [reloads_iff]
  constructor
  · rintro ⟨hstaked, hslashed, -⟩
    exact absurd ((stored_slash_iff hstaked 50).mp hslashed) (by decide +kernel)
  · rintro ⟨hactive, hrefused, -⟩
    have hpersists := (stored_stake_iff hactive 5 _ _ 1000).mp hrefused
    simp only [Persists] at hpersists
    exact absurd hpersists (by decide +kernel)

end StakeManager

end aethernet.staking
