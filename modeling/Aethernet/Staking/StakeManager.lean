import Aethernet.Golang.Int

open golang Finmap

namespace aethernet.staking

abbrev AgentID := String

/-- What `PutStakeMeta` stores of an agent. -/
structure StakeMeta where
  stakedSince : Int64
  lastActivity : Int64
  stakedAmount : UInt64
  deriving DecidableEq

/-- `StakeManager`, without the transfer ledger that `Stake` and `Unstake` move funds in. A failed write to
    the store is only logged; here the writes succeed. -/
structure StakeManager where
  stakes : Map AgentID UInt64 := ∅
  stakedSince : Map AgentID Int64 := ∅
  lastActivity : Map AgentID Int64 := ∅
  store : Option (Map AgentID StakeMeta) := none

namespace StakeManager

/-- `PutStakeMeta` of what the manager has for an agent. -/
def putMeta (agentID : AgentID) (sm : StakeManager) : StakeManager :=
  let stored := StakeMeta.mk (sm.stakedSince.getD agentID 0) (sm.lastActivity.getD agentID 0)
    (sm.stakes.getD agentID 0)
  { sm with store := sm.store.map fun m => m.insert agentID stored }

def recordCanonicalStake (now : Int64) (agentID : AgentID) (amount : UInt64) (sm : StakeManager) :
    StakeManager :=
  let since := if agentID ∈ sm.stakedSince then sm.stakedSince else sm.stakedSince.insert agentID now
  ({ sm with stakedSince := since, stakes := sm.stakes.addAt agentID amount }).putMeta agentID

def stakedAmount (sm : StakeManager) (agentID : AgentID) : UInt64 := sm.stakes.getD agentID 0

def setStake (agentID : AgentID) (left : UInt64) (sm : StakeManager) : StakeManager :=
  { sm with stakes := if left = 0 then sm.stakes.erase agentID else sm.stakes.insert agentID left }

def leftAfter (amount current : UInt64) : UInt64 := current - (if current < amount then current else amount)

def recordCanonicalUnstake (agentID : AgentID) (amount : UInt64) (sm : StakeManager) : StakeManager :=
  (sm.setStake agentID (leftAfter amount (sm.stakedAmount agentID))).putMeta agentID

def recordActivity (now : Int64) (agentID : AgentID) (sm : StakeManager) : StakeManager :=
  ({ sm with lastActivity := sm.lastActivity.insert agentID now }).putMeta agentID

/-- One map of `LoadFromStore`, which leaves out the agents with a zero. -/
def loadNonzero {V : Type} [DecidableEq V] [Zero V] (order : RangeOrder AgentID StakeMeta) (field : StakeMeta → V)
    (stored : Map AgentID StakeMeta) : Map AgentID V :=
  ofInserts (((order.visit stored).filter fun p => field p.2 ≠ 0).map fun p => (p.1, field p.2))

/-- `LoadFromStore` of a new manager, with the store attached. -/
def loadFromStore (order : RangeOrder AgentID StakeMeta) (stored : Map AgentID StakeMeta) : StakeManager where
  stakes := loadNonzero order (·.stakedAmount) stored
  stakedSince := loadNonzero order (·.stakedSince) stored
  lastActivity := loadNonzero order (·.lastActivity) stored
  store := some stored

theorem getD_loadNonzero {V : Type} [DecidableEq V] [Zero V] (order : RangeOrder AgentID StakeMeta)
    (field : StakeMeta → V) (stored : Map AgentID StakeMeta) (agentID : AgentID) :
    (loadNonzero order field stored).getD agentID 0 = ((stored.lookup agentID).map field).getD 0 := by
  have hnodup : ((((order.visit stored).filter fun p => field p.2 ≠ 0).map fun p => (p.1, field p.2)).map
      Prod.fst).Nodup := by
    rw [List.map_map]
    exact (order.nodup_keys stored).sublist (List.filter_sublist.map Prod.fst)
  refine getD_ofInserts_eq hnodup fun v => ?_
  have hstored : (agentID, v) ∈ ((order.visit stored).filter fun p => field p.2 ≠ 0).map (fun p => (p.1, field p.2)) ↔
      ∃ entry, stored.lookup agentID = some entry ∧ field entry ≠ 0 ∧ field entry = v := by
    simp [order.mem_visit_iff, and_assoc]
  rw [hstored]
  cases stored.lookup agentID with
  | none => simp
  | some entry =>
    simp only [Option.some.injEq, exists_eq_left', Option.map_some, Option.getD_some]
    exact ⟨fun h => ⟨h.2.symm, h.2 ▸ h.1⟩, fun h => ⟨h.1 ▸ h.2, h.1.symm⟩⟩

/-- `StakedSince`, `LastActivity` and `StakedAmount` of an agent. -/
def held (sm : StakeManager) (agentID : AgentID) : StakeMeta :=
  ⟨sm.stakedSince.getD agentID 0, sm.lastActivity.getD agentID 0, sm.stakedAmount agentID⟩

/-- The store has this part of what the manager has of each agent. -/
def Stored {V : Type} (part : StakeMeta → V) (sm : StakeManager) : Prop :=
  ∃ stored, sm.store = some stored ∧
    ∀ agentID, ((stored.lookup agentID).map part).getD (part ⟨0, 0, 0⟩) = part (sm.held agentID)

variable {sm sm' : StakeManager} (agentID : AgentID)

theorem Stored.stakedAmount_loadFromStore (h : sm.Stored (·.stakedAmount)) (order : RangeOrder AgentID StakeMeta)
    (agent : AgentID) :
    (loadFromStore order (sm.store.getD ∅)).stakedAmount agent = sm.stakedAmount agent := by
  obtain ⟨stored, hstore, hamounts⟩ := h
  rw [hstore, Option.getD_some]
  exact (getD_loadNonzero order (·.stakedAmount) stored agent).trans (hamounts agent)

theorem stakedAmount_recordCanonicalStake (now : Int64) (amount : UInt64) (agent : AgentID) :
    (sm.recordCanonicalStake now agentID amount).stakedAmount agent =
      sm.stakedAmount agent + if agent = agentID then amount else 0 :=
  getD_addAt ..

theorem stakedAmount_setStake (left : UInt64) (agent : AgentID) :
    (sm.setStake agentID left).stakedAmount agent = if agent = agentID then left else sm.stakedAmount agent := by
  unfold setStake stakedAmount
  by_cases hzero : left = 0
  · rw [if_pos hzero, hzero, Finmap.getD, Finmap.lookup_erase_eq]
    split_ifs <;> rfl
  · rw [if_neg hzero, Finmap.getD, Finmap.lookup_insert_eq]
    split_ifs <;> rfl

theorem stakedAmount_recordCanonicalUnstake (amount : UInt64) (agent : AgentID) :
    (sm.recordCanonicalUnstake agentID amount).stakedAmount agent =
      if agent = agentID then leftAfter amount (sm.stakedAmount agentID) else sm.stakedAmount agent :=
  stakedAmount_setStake agentID (leftAfter amount (sm.stakedAmount agentID)) agent

namespace Stored

variable {V : Type} {part : StakeMeta → V} {agentID : AgentID} (h : sm.Stored part)

include h

theorem putMeta (hstore : sm'.store = sm.store)
    (hothers : ∀ agent, agent ≠ agentID → sm'.held agent = sm.held agent) : (sm'.putMeta agentID).Stored part := by
  obtain ⟨stored, hstored, hparts⟩ := h
  refine ⟨_, by rw [StakeManager.putMeta, hstore, hstored]; rfl, fun agent => ?_⟩
  rw [lookup_insert_eq]
  by_cases hagent : agent = agentID
  · rw [if_pos hagent, hagent]
    rfl
  · rw [if_neg hagent, hparts, ← hothers agent hagent]
    rfl

theorem setStake (left : UInt64) : ((sm.setStake agentID left).putMeta agentID).Stored part := by
  refine h.putMeta rfl fun agent hagent => ?_
  simp only [held, stakedAmount_setStake, if_neg hagent]
  rfl

theorem recordCanonicalStake (now : Int64) (amount : UInt64) :
    (sm.recordCanonicalStake now agentID amount).Stored part := by
  refine h.putMeta rfl fun agent hagent => ?_
  simp only [held, stakedAmount, getD_addAt, if_neg hagent, add_zero]
  split_ifs
  · rfl
  · rw [getD_insert_of_ne _ _ _ hagent]

theorem recordActivity (now : Int64) : (sm.recordActivity now agentID).Stored part := by
  refine h.putMeta rfl fun agent hagent => ?_
  simp only [held, getD_insert_of_ne _ _ _ hagent]
  rfl

end Stored

end StakeManager

end aethernet.staking
