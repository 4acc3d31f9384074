import Aethernet.Golang.Method
import Aethernet.Ledger.Step
import Aethernet.Staking.StakeManager

open golang aethernet.ledger Finmap

namespace golang.Finmap

variable {K V : Type} [DecidableEq K]

theorem sumBy_insert_add (f : V → ℕ) (m : Map K V) (k : K) (v : V) {zero : V} (hzero : f zero = 0) :
    (m.insert k v).sumBy f + f (m.getD k zero) = m.sumBy f + f v := by
  cases hlookup : m.lookup k with
  | none =>
    rw [sumBy_insert_of_notMem f v (lookup_eq_none.mp hlookup)]
    simp [getD, hlookup, hzero, add_comm]
  | some old =>
    have hreplace := sumBy_replace f v hlookup
    simp only [getD, hlookup, Option.getD_some]
    omega

theorem sumBy_erase_add (f : V → ℕ) (m : Map K V) (k : K) {zero : V} (hzero : f zero = 0) :
    (m.erase k).sumBy f + f (m.getD k zero) = m.sumBy f := by
  cases hlookup : m.lookup k with
  | none =>
    have hsame : m.erase k = m := ext_lookup fun k' => by
      rw [lookup_erase_eq]
      split
      case isTrue heq => rw [heq, hlookup]
      case isFalse => rfl
    simp [getD, hlookup, hzero, hsame]
  | some old =>
    have herase := add_sumBy_erase f hlookup
    simp only [getD, hlookup, Option.getD_some]
    omega

end golang.Finmap

namespace aethernet.ledger.TransferLedger

variable {l l' : TransferLedger} {e : TransferEntry}

theorem SameBooks.settledNet_eq (h : SameBooks l l') (a : AgentID) : l'.settledNet a = l.settledNet a := by
  rw [settledNet, settledNet, archivedNet, archivedNet, h.entries, h.archived]

theorem Adds.settledNet_eq (h : Adds l l' e) (a : AgentID) :
    l'.settledNet a = l.settledNet a + settledCredit a e - settledDebit a e := by
  rw [settledNet, settledNet, archivedNet, archivedNet, h.archived, h.entries,
    sumBy_insert_of_notMem _ e h.fresh, sumBy_insert_of_notMem _ e h.fresh]
  ring

end aethernet.ledger.TransferLedger

namespace aethernet.staking

def stakingPool : ledger.AgentID := "staking-pool"

variable (now : Int64)

namespace StakeManager

/-- What `Stake` and `RecordCanonicalStake` do first. -/
def noteSince (agentID : AgentID) (sm : StakeManager) : StakeManager :=
  { sm with stakedSince := if agentID ∈ sm.stakedSince then sm.stakedSince else sm.stakedSince.insert agentID now }

/-- `Slash`. The store is not written. -/
def slash (agentID : AgentID) (percentage : UInt64) (sm : StakeManager) : UInt64 × StakeManager :=
  let percentage := if 100 < percentage then 100 else percentage
  let current := sm.stakedAmount agentID
  if current = 0 then (0, sm)
  else
    let slashed := current * percentage / 100
    (slashed, sm.setStake agentID (current - slashed))

def slashDefault (agentID : AgentID) (sm : StakeManager) : UInt64 × StakeManager :=
  (sm.stakedAmount agentID,
    ({ sm with
      stakes := sm.stakes.erase agentID
      stakedSince := sm.stakedSince.erase agentID
      lastActivity := sm.lastActivity.erase agentID }).putMeta agentID)

/-- The sum of the recorded stakes. -/
def total (sm : StakeManager) : ℕ := sm.stakes.sumBy UInt64.toNat

end StakeManager

/-- A `StakeManager` with the transfer ledger of `SetTransferLedger`. -/
structure WiredStakes where
  manager : StakeManager
  ledger : TransferLedger

variable (amb : Ambient)

namespace WiredStakes

/-- `Stake`. The time of the first stake is noted even if the debit fails. -/
def stake (agentID : AgentID) (amount : UInt64) : Method WiredStakes Unit := fun w =>
  if 0 < amount then
    match w.ledger.transferFromBucketLabeled amb agentID stakingPool amount "staking:lock" false with
    | (.error err, l) =>
      (.error (.wrap "staking: insufficient balance: " err ""), ⟨w.manager.noteSince now agentID, l⟩)
    | (.ok (), l) => (.ok (), ⟨w.manager.recordCanonicalStake now agentID amount, l⟩)
  else (.ok (), ⟨w.manager.recordCanonicalStake now agentID amount, w.ledger⟩)

def unstake (agentID : AgentID) (amount : UInt64) (w : WiredStakes) : Bool × WiredStakes :=
  let current := w.manager.stakedAmount agentID
  if current < amount then (false, w)
  else
    let manager := (w.manager.setStake agentID (current - amount)).putMeta agentID
    if 0 < amount then
      match w.ledger.transferFromBucketLabeled amb stakingPool agentID amount "staking:unlock" false with
      | (.error _, l) => (false, { w with ledger := l })
      | (.ok (), l) => (true, ⟨manager, l⟩)
    else (true, { w with manager := manager })

def surplus (w : WiredStakes) : ℤ := w.ledger.settledNet stakingPool - w.manager.total

end WiredStakes

namespace StakeManager

variable (sm : StakeManager) (agentID : AgentID) {amount : UInt64} (now : Int64)

@[simp]
theorem total_putMeta : (sm.putMeta agentID).total = sm.total := rfl

@[simp]
theorem total_noteSince : (sm.noteSince now agentID).total = sm.total := rfl

theorem total_setStake (left : UInt64) :
    (sm.setStake agentID left).total + (sm.stakedAmount agentID).toNat = sm.total + left.toNat := by
  unfold setStake total stakedAmount
  by_cases hleft : left = 0
  · simp only [if_pos hleft]
    rw [Finmap.sumBy_erase_add UInt64.toNat sm.stakes agentID rfl, hleft]
    rfl
  · simp only [if_neg hleft]
    exact Finmap.sumBy_insert_add UInt64.toNat sm.stakes agentID left rfl

theorem total_setStake_sub (hle : amount ≤ sm.stakedAmount agentID) :
    (sm.setStake agentID (sm.stakedAmount agentID - amount)).total + amount.toNat = sm.total := by
  have hset := sm.total_setStake agentID (sm.stakedAmount agentID - amount)
  have hsub := UInt64.toNat_sub_of_le _ _ hle
  have := UInt64.le_iff_toNat_le.mp hle
  omega

theorem total_recordCanonicalStake_le (amount : UInt64) :
    (sm.recordCanonicalStake now agentID amount).total ≤ sm.total + amount.toNat := by
  have hadd := Finmap.sumBy_insert_add UInt64.toNat sm.stakes agentID (sm.stakes.getD agentID 0 + amount)
    UInt64.toNat_zero
  have hwrap : (sm.stakes.getD agentID 0 + amount).toNat ≤ (sm.stakes.getD agentID 0).toNat + amount.toNat := by
    exact Nat.mod_le _ _
  show (sm.stakes.addAt agentID amount).sumBy UInt64.toNat ≤ _
  unfold total Finmap.addAt
  omega

theorem total_recordCanonicalUnstake (hle : amount ≤ sm.stakedAmount agentID) :
    (sm.recordCanonicalUnstake agentID amount).total + amount.toNat = sm.total := by
  have hset := sm.total_setStake_sub agentID hle
  rwa [recordCanonicalUnstake, total_putMeta, leftAfter, if_neg (UInt64.not_lt.mpr hle)]

theorem total_recordCanonicalUnstake_le (amount : UInt64) :
    (sm.recordCanonicalUnstake agentID amount).total ≤ sm.total := by
  by_cases hlt : sm.stakedAmount agentID < amount
  · have hset := sm.total_setStake_sub agentID (UInt64.le_refl _)
    rw [recordCanonicalUnstake, total_putMeta, leftAfter, if_pos hlt]
    exact Nat.le_of_add_right_le hset.le
  · have hset := sm.total_recordCanonicalUnstake agentID (UInt64.not_lt.mp hlt)
    omega

theorem slashed_le (current : UInt64) {percentage : UInt64} (hle : percentage ≤ 100) :
    current * percentage / 100 ≤ current := by
  have hwrap : (current * percentage).toNat ≤ current.toNat * percentage.toNat := by
    exact Nat.mod_le _ _
  have hpercentage : percentage.toNat ≤ 100 := UInt64.le_iff_toNat_le.mp hle
  have hproduct : current.toNat * percentage.toNat ≤ current.toNat * 100 := Nat.mul_le_mul_left _ hpercentage
  exact Nat.div_le_of_le_mul (by rw [Nat.mul_comm]; exact hwrap.trans hproduct)

theorem total_slash_le (percentage : UInt64) : (sm.slash agentID percentage).2.total ≤ sm.total := by
  unfold slash
  by_cases hnone : sm.stakedAmount agentID = 0
  · rw [if_pos hnone]
  · have hpercentage : (if 100 < percentage then 100 else percentage) ≤ 100 := by
      split
      · exact UInt64.le_refl _
      · next hle => exact UInt64.not_lt.mp hle
    have hset := sm.total_setStake_sub agentID (slashed_le (sm.stakedAmount agentID) hpercentage)
    simp only [if_neg hnone]
    omega

theorem total_slashDefault_le : (sm.slashDefault agentID).2.total ≤ sm.total := by
  have herase := Finmap.sumBy_erase_add UInt64.toNat sm.stakes agentID UInt64.toNat_zero
  show (sm.stakes.erase agentID).sumBy UInt64.toNat ≤ sm.stakes.sumBy UInt64.toNat
  omega

end StakeManager

variable (fromID toID : ledger.AgentID) (amount : UInt64)

theorem settledNet_transferFromBucketLabeled (memo : String) (isGenesis : Bool) (l : TransferLedger)
    (a : ledger.AgentID) :
    (∃ err l', l.transferFromBucketLabeled amb fromID toID amount memo isGenesis = (.error err, l') ∧
      l'.settledNet a = l.settledNet a) ∨
    ∃ l', l.transferFromBucketLabeled amb fromID toID amount memo isGenesis = (.ok (), l') ∧
      l'.settledNet a = l.settledNet a + (if toID = a then (amount.toNat : ℤ) else 0) -
        if fromID = a then (amount.toNat : ℤ) else 0 := by
  obtain ⟨⟨err, herr⟩, hsame⟩ | ⟨eid, hok, hadds, -⟩ :=
    TransferLedger.transferFromBucketLabeled_cases amb fromID toID amount memo isGenesis l
  · exact .inl ⟨err, _, Prod.ext herr rfl, hsame.settledNet_eq a⟩
  · refine .inr ⟨_, Prod.ext hok rfl, ?_⟩
    rw [hadds.settledNet_eq a]
    simp [TransferLedger.settledCredit, TransferLedger.settledDebit, TransferLedger.bucketEntry]

theorem settledNet_le_transferFromBucketLabeled (memo : String) (isGenesis : Bool)
    (l : TransferLedger) (a : ledger.AgentID) :
    l.settledNet a ≤ (l.transferFromBucketLabeled amb fromID toID amount memo isGenesis).2.settledNet a +
      if fromID = a then (amount.toNat : ℤ) else 0 := by
  obtain ⟨err, l', hcall, hnet⟩ | ⟨l', hcall, hnet⟩ :=
    settledNet_transferFromBucketLabeled amb fromID toID amount memo isGenesis l a
  · rw [hcall, hnet]
    split <;> omega
  · rw [hcall, hnet]
    split <;> split <;> omega

namespace WiredStakes

variable {w : WiredStakes}

theorem surplus_le_stake (now : Int64) (amb : Ambient) {agentID : AgentID} {amount : UInt64}
    (hagent : agentID ≠ stakingPool ∨ amount = 0) : w.surplus ≤ (w.stake now amb agentID amount).2.surplus := by
  have hrecord := w.manager.total_recordCanonicalStake_le agentID now amount
  unfold stake surplus
  by_cases hpos : 0 < amount
  · have hother : agentID ≠ stakingPool := hagent.resolve_right (UInt64.pos_iff_ne_zero.mp hpos)
    rw [if_pos hpos]
    obtain ⟨err, l, hcall, hnet⟩ | ⟨l, hcall, hnet⟩ := settledNet_transferFromBucketLabeled amb agentID
      stakingPool amount
      "staking:lock" false w.ledger stakingPool
    · simp only [hcall, hnet, StakeManager.total_noteSince]
      exact le_refl _
    · rw [if_pos rfl, if_neg hother] at hnet
      simp only [hcall, hnet]
      omega
  · obtain rfl : amount = 0 := by simpa [UInt64.pos_iff_ne_zero] using hpos
    simp only [UInt64.toNat_zero, Nat.add_zero] at hrecord
    show _ ≤ w.ledger.settledNet stakingPool - ((w.manager.recordCanonicalStake now agentID 0).total : ℤ)
    omega

theorem surplus_le_unstake (amb : Ambient) (agentID : AgentID) (amount : UInt64) :
    w.surplus ≤ (w.unstake amb agentID amount).2.surplus := by
  unfold unstake surplus
  by_cases hshort : w.manager.stakedAmount agentID < amount
  · rw [if_pos hshort]
  · have hset := w.manager.total_setStake_sub agentID (UInt64.not_lt.mp hshort)
    rw [if_neg hshort]
    by_cases hpos : 0 < amount
    · rw [if_pos hpos]
      obtain ⟨err, l, hcall, hnet⟩ | ⟨l, hcall, hnet⟩ := settledNet_transferFromBucketLabeled amb stakingPool
        agentID amount
        "staking:unlock" false w.ledger stakingPool
      · simp only [hcall, hnet]
        exact le_refl _
      · simp only [hcall, hnet, StakeManager.total_putMeta]
        split <;> omega
    · rw [if_neg hpos]
      simp only [StakeManager.total_putMeta]
      omega

end WiredStakes

end aethernet.staking
