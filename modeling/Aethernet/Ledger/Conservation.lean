import Aethernet.Accounting.DoubleEntry
import Aethernet.Transition.Invariant
import Aethernet.Ledger.Step

open golang aethernet.event Finmap

namespace aethernet.ledger

variable (sha256 : String → List UInt8) {l : TransferLedger} {recorded : ℕ} (store : Option TransferStore)
  (mintCap bucketCounter : UInt64) {l' : TransferLedger} {recorded' : ℕ} {e : TransferEntry} {id : EventID}
  (a : AgentID) {S : Finset AgentID}

namespace TransferLedger

def recordedBy (l : TransferLedger) (op : Op) : ℕ :=
  (l.step sha256 op).total - l.total

/-- The sum of all amounts recorded along a run. -/
def recordedAlong (sha256 : String → List UInt8) (l : TransferLedger) : List Op → ℕ
  | [] => 0
  | op :: ops => l.recordedBy sha256 op + (l.step sha256 op).recordedAlong sha256 ops

/-- The invariant behind conservation. No archived net is further from zero than the amounts that
    left the memory, so none has wrapped, and the archived nets cancel. -/
structure Conserving (l : TransferLedger) (recorded : ℕ) : Prop where
  bound : ∀ a, |l.archivedNet a| + l.total ≤ recorded
  zeroSum : ∀ S, l.archivedNetSettled.keys ⊆ S → ∑ a ∈ S, l.archivedNet a = 0

theorem Conserving.initial : (initial store mintCap bucketCounter).Conserving 0 where
  bound a := by simp [TransferLedger.initial, archivedNet, total, getD_empty]
  zeroSum S _ := by simp [TransferLedger.initial, archivedNet, getD_empty]

theorem Conserving.of_archived_eq (h : l.Conserving recorded)
    (harchived : l'.archivedNetSettled = l.archivedNetSettled) (htotal : l'.total + recorded ≤ l.total + recorded') :
    l'.Conserving recorded' where
  bound a := by
    have hbound := h.bound a
    simp only [archivedNet, harchived] at hbound ⊢
    omega
  zeroSum S hS := by
    simp only [archivedNet, harchived] at hS ⊢
    exact h.zeroSum S hS

theorem Adds.total_eq (h : Adds l l' e) : l'.total = e.amount.toNat + l.total := by
  rw [total, total, h.entries, sumBy_insert_of_notMem _ e h.fresh]

theorem Restates.total_eq {state : SettlementState} (h : Restates l l' id e state) : l'.total = l.total := by
  have hsum := sumBy_replace (fun e => e.amount.toNat) { e with settlement := state } h.lookup
  rw [total, total, h.entries]
  exact Nat.add_left_cancel hsum

theorem Withdraws.total_eq (h : Withdraws l l' id e) : e.amount.toNat + l'.total = l.total := by
  rw [total, total, h.entries, add_sumBy_erase (fun e => e.amount.toNat) h.lookup]

theorem Archives.total_eq (h : Archives l l' id e) : e.amount.toNat + l'.total = l.total := by
  rw [total, total, h.entries, add_sumBy_erase (fun e => e.amount.toNat) h.lookup]

theorem toNat_creditOf (e : TransferEntry) : ((creditOf a e).toNat : ℤ) = settledCredit a e := by
  unfold creditOf settledCredit
  split <;> simp

theorem toNat_reservedOf (hfinal : e.settlement ≠ .optimistic) (a : AgentID) :
    ((reservedOf a e).toNat : ℤ) = settledDebit a e := by
  unfold reservedOf settledDebit
  by_cases hfrom : e.fromAgent = a <;> by_cases hsettled : e.settlement = .settled <;>
    simp [hfrom, hsettled, hfinal]

theorem abs_settledCredit_sub_settledDebit_le (e : TransferEntry) :
    |settledCredit a e - settledDebit a e| ≤ e.amount.toNat := by
  unfold settledCredit settledDebit
  split_ifs <;> simp

theorem Archives.archivedNet_eq (h : Archives l l' id e) {a : AgentID}
    (hroom : |l.archivedNet a| + e.amount.toNat < 2 ^ 63) :
    l'.archivedNet a = l.archivedNet a + settledCredit a e - settledDebit a e := by
  have hmove := abs_settledCredit_sub_settledDebit_le a e
  rw [archivedNet, h.archived, getD_archiveEntry h.final, toInt_add_sub, toNat_creditOf,
    toNat_reservedOf h.final]
  change (l.archivedNet a + _ - _).bmod (2 ^ 64) = _
  rw [abs_le] at hmove
  have hnet := abs_le.mp (le_refl |l.archivedNet a|)
  exact bmod_eq_self (by omega) (by omega)

theorem mem_archiveEntry {archived : Map AgentID Int64} {a : AgentID} : a ∈ archiveEntry e archived ↔
      a ∈ archived ∨ e.settlement = .settled ∧ (a = e.toAgent ∨ a = e.fromAgent) := by
  unfold archiveEntry
  split_ifs with hsettled
  · simp only [addAt, mem_insert, hsettled, true_and]
    tauto
  · simp [hsettled]

theorem sum_settledCredit_sub_settledDebit (hS : e.settlement = .settled → e.toAgent ∈ S ∧ e.fromAgent ∈ S) :
    ∑ a ∈ S, (settledCredit a e - settledDebit a e) = 0 := by
  by_cases hsettled : e.settlement = .settled
  · simp only [settledCredit, settledDebit, hsettled, and_true]
    rw [Finset.sum_sub_distrib, Finset.sum_ite_eq, Finset.sum_ite_eq, if_pos (hS hsettled).1,
      if_pos (hS hsettled).2, sub_self]
  · simp [settledCredit, settledDebit, hsettled]

section

variable (h : l.Conserving recorded)

include h

theorem Conserving.archives (hlt : recorded < 2 ^ 63) (harchives : Archives l l' id e) : l'.Conserving recorded := by
  have htotal := harchives.total_eq
  have hnet : ∀ a, l'.archivedNet a = l.archivedNet a + (settledCredit a e - settledDebit a e) := by
    intro a
    have hbound := h.bound a
    rw [harchives.archivedNet_eq (by omega), add_sub_assoc]
  constructor
  · intro a
    have hbound := h.bound a
    have hmove := abs_settledCredit_sub_settledDebit_le a e
    have htriangle := abs_add_le (l.archivedNet a) (settledCredit a e - settledDebit a e)
    rw [hnet]
    omega
  · intro S hS
    rw [harchives.archived] at hS
    have hkeys : l.archivedNetSettled.keys ⊆ S := fun a ha =>
      hS (mem_keys.mpr (mem_archiveEntry.mpr (.inl (mem_keys.mp ha))))
    have hsides : e.settlement = .settled → e.toAgent ∈ S ∧ e.fromAgent ∈ S := fun hsettled =>
      ⟨hS (mem_keys.mpr (mem_archiveEntry.mpr (.inr ⟨hsettled, .inl rfl⟩))),
        hS (mem_keys.mpr (mem_archiveEntry.mpr (.inr ⟨hsettled, .inr rfl⟩)))⟩
    rw [Finset.sum_congr rfl fun a _ => hnet a, Finset.sum_add_distrib, h.zeroSum S hkeys,
      sum_settledCredit_sub_settledDebit hsides, add_zero]

theorem Conserving.mono (hle : recorded ≤ recorded') : l.Conserving recorded' :=
  h.of_archived_eq rfl (by omega)

theorem Conserving.step {sha256 : String → List UInt8} {op : Op} (hlt : recorded + l.recordedBy sha256 op < 2 ^ 63) :
    (l.step sha256 op).Conserving (recorded + l.recordedBy sha256 op) := by
  have hgrow : recorded ≤ recorded + l.recordedBy sha256 op := Nat.le_add_right _ _
  obtain hsame | ⟨e, hadds⟩ | ⟨id, e, state, hrestates⟩ | hwithdraws | harchives := step_cases sha256 l op
  · exact (h.of_archived_eq hsame.archived (by rw [total, total, hsame.entries])).mono hgrow
  · exact h.of_archived_eq hadds.archived (by have := hadds.total_eq; rw [recordedBy]; omega)
  · exact (h.of_archived_eq hrestates.archived (by rw [hrestates.total_eq])).mono hgrow
  · refine Conserving.mono (transition.invariant_of_step (P := fun l => l.Conserving recorded)
      hwithdraws h ?_) hgrow
    rintro l₁ l₂ ⟨id, e, hstep⟩ h₁
    exact h₁.of_archived_eq hstep.archived (by have := hstep.total_eq; omega)
  · refine Conserving.mono (transition.invariant_of_step (P := fun l => l.Conserving recorded)
      harchives h ?_) hgrow
    rintro l₁ l₂ ⟨id, e, hstep⟩ h₁
    exact h₁.archives (by omega) hstep

theorem Conserving.run {sha256 : String → List UInt8} {ops : List Op}
    (hlt : recorded + l.recordedAlong sha256 ops < 2 ^ 63) :
    (l.run sha256 ops).Conserving (recorded + l.recordedAlong sha256 ops) := by
  induction ops generalizing l recorded with
  | nil => exact h
  | cons op ops ih =>
    rw [recordedAlong, ← add_assoc] at hlt ⊢
    exact ih (h.step (by omega)) hlt

end

theorem covers_agents (hS : l.agents ⊆ S) :
    accounting.Covers S TransferEntry.fromAgent TransferEntry.toAgent l.entries := by
  intro id e hlookup
  have hmem := mem_lookup_iff.mp hlookup
  constructor <;> apply hS <;> simp only [agents, Finset.mem_union, Multiset.mem_toFinset, Multiset.mem_map]
  · exact .inl (.inr ⟨_, hmem, rfl⟩)
  · exact .inr ⟨_, hmem, rfl⟩

theorem Conserving.sum_settledNet (h : l.Conserving recorded) (hS : l.agents ⊆ S) : ∑ a ∈ S, l.settledNet a = 0 := by
  have hkeys : l.archivedNetSettled.keys ⊆ S := fun a ha =>
    hS (by simp only [agents, Finset.mem_union]; exact .inl (.inl ha))
  have hbook := accounting.sum_credits_sub_debits
    (fun e => if e.settlement = .settled then (e.amount.toNat : ℤ) else 0) (covers_agents hS)
  simp only [accounting.credits, accounting.debits, ← ite_and] at hbook
  calc ∑ a ∈ S, l.settledNet a
      = ∑ a ∈ S, l.archivedNet a
        + ∑ a ∈ S, (l.entries.sumBy (settledCredit a) - l.entries.sumBy (settledDebit a)) := by
        rw [← Finset.sum_add_distrib]
        exact Finset.sum_congr rfl fun a _ => add_sub_assoc _ _ _
    _ = 0 := by rw [h.zeroSum S hkeys, zero_add]; exact hbook

/-- After any sequence of operations on an empty ledger whose recorded amounts sum to less than
    `2 ^ 63`, the settled nets of all agents, the genesis source included, sum to zero over any
    finite set of agents that includes those the ledger mentions. In that ledger `EvictBefore`
    changes no agent's balance. -/
theorem settledNet_conserved (ops : List Op)
    (hrecorded : (initial store mintCap bucketCounter).recordedAlong sha256 ops < 2 ^ 63) :
    (∀ S : Finset AgentID, ((initial store mintCap bucketCounter).run sha256 ops).agents ⊆ S →
      ∑ a ∈ S, ((initial store mintCap bucketCounter).run sha256 ops).settledNet a = 0) ∧
    ∀ cutoff a,
      (((initial store mintCap bucketCounter).run sha256 ops).evictBefore cutoff).2.balanceLocked a
        = ((initial store mintCap bucketCounter).run sha256 ops).balanceLocked a := by
  have hrun := Conserving.run (Conserving.initial store mintCap bucketCounter)
    (by rw [zero_add]; exact hrecorded)
  exact ⟨fun S hS => hrun.sum_settledNet hS, fun cutoff a => balanceLocked_evictBefore cutoff _ a⟩

/-- Fund an agent, pay half of it on, and evict the credit but not the payment. -/
def fundPayEvict : List Op :=
  [.fundAgent { now := 0 } "alice" 100,
    .transferFromBucketLabeled { now := 1 } "alice" "bob" 50 "payout" false, .evictBefore 1]

theorem settledNet_conserved_fundPayEvict :
    (initial none 0 0).recordedAlong (fun _ => []) fundPayEvict = 150 ∧
    ∑ a ∈ {"system", "alice", "bob"},
      ((initial none 0 0).run (fun _ => []) fundPayEvict).settledNet a = 0 :=
  ⟨by decide, (settledNet_conserved (fun _ => []) none 0 0 fundPayEvict (by decide)).1 _ (by decide)⟩

end TransferLedger

end aethernet.ledger
