import Aethernet.Ledger.Conservation
import Aethernet.Ledger.Payments

open golang aethernet.event Finmap

namespace aethernet.ledger

namespace TransferLedger

/-- What an entry reserves of an agent's funds. -/
def reservedDebit (a : AgentID) (e : TransferEntry) : ℤ :=
  if e.fromAgent = a ∧ (e.settlement = .settled ∨ e.settlement = .optimistic) then e.amount.toNat else 0

def effect (a : AgentID) (e : TransferEntry) : ℤ := settledCredit a e - reservedDebit a e

def spendable (l : TransferLedger) (a : AgentID) : ℤ := l.archivedNet a + l.entries.sumBy (effect a)

section Spendable

variable {l l' : TransferLedger} {e : TransferEntry} {a : AgentID} (a : AgentID)

theorem settledCredit_nonneg (e : TransferEntry) : 0 ≤ settledCredit a e := by
  unfold settledCredit
  split <;> simp

theorem reservedDebit_nonneg (e : TransferEntry) : 0 ≤ reservedDebit a e := by
  unfold reservedDebit
  split <;> simp

theorem neg_effect_le (e : TransferEntry) : -effect a e ≤ if e.fromAgent = a then (e.amount.toNat : ℤ) else 0 := by
  have hcredit := settledCredit_nonneg a e
  have hdebit : reservedDebit a e ≤ if e.fromAgent = a then (e.amount.toNat : ℤ) else 0 := by
    rw [reservedDebit]
    split_ifs <;> simp_all
  rw [effect]
  omega

theorem effect_le (e : TransferEntry) : effect a e ≤ if e.toAgent = a then (e.amount.toNat : ℤ) else 0 := by
  have hdebit := reservedDebit_nonneg a e
  have hcredit : settledCredit a e ≤ if e.toAgent = a then (e.amount.toNat : ℤ) else 0 := by
    rw [settledCredit]
    split_ifs <;> simp_all
  rw [effect]
  omega

theorem effect_eq_zero (hsettled : e.settlement ≠ .settled) (hpending : e.settlement ≠ .optimistic)
    (a : AgentID) : effect a e = 0 := by
  simp [effect, settledCredit, reservedDebit, hsettled, hpending]

theorem effect_le_of_pending (hpending : e.settlement = .optimistic) {state : SettlementState}
    (hstate : state = .settled ∨ state = .adjusted) (a : AgentID) :
    effect a e ≤ effect a { e with settlement := state } := by
  rcases hstate with rfl | rfl
  · have hcredit := settledCredit_nonneg a { e with settlement := .settled }
    simp only [effect, settledCredit, reservedDebit, hpending, reduceCtorEq, and_false, if_false, false_or,
      true_or, and_true] at hcredit ⊢
    omega
  · have hdebit := reservedDebit_nonneg a e
    simp only [effect, settledCredit, reservedDebit, hpending, reduceCtorEq, and_false, if_false, false_or,
      and_true] at hdebit ⊢
    omega

theorem spendable_eq (l : TransferLedger) (a : AgentID) : l.spendable a =
    l.archivedNet a + l.entries.sumBy (settledCredit a) - l.entries.sumBy (reservedDebit a) := by
  have hadd := sumBy_add (effect a) (reservedDebit a) l.entries
  have hcredit : (fun e => effect a e + reservedDebit a e) = settledCredit a := by
    funext e
    rw [effect, sub_add_cancel]
  rw [hcredit] at hadd
  rw [spendable, hadd, ← add_assoc, add_sub_cancel_right]

theorem toInt_net (l : TransferLedger) (a : AgentID) : (l.net a).toInt = (l.spendable a).bmod (2 ^ 64) := by
  have hcast : ∀ f : TransferEntry → UInt64, (((l.entries.sumBy f).toNat : ℕ) : ℤ) =
      (l.entries.sumBy fun e => ((f e).toNat : ℤ)) % (2 ^ 64 : ℕ) := by
    intro f
    rw [toNat_sumBy, Int.natCast_mod]
    congr 1
    exact map_sumBy (Nat.castAddMonoidHom ℤ) (fun e => (f e).toNat) l.entries
  have hcredit : (fun e => ((creditOf a e).toNat : ℤ)) = settledCredit a := funext fun e => toNat_creditOf a e
  have hreserved : (fun e => ((reservedOf a e).toNat : ℤ)) = reservedDebit a := by
    funext e
    unfold reservedOf reservedDebit
    split <;> simp
  rw [net, toInt_add_sub, hcast, hcast, hcredit, hreserved, spendable_eq, archivedNet]
  -- each sum wraps for itself, which the wrap of the whole absorbs
  rw [← Int.emod_bmod, ((Int.mod_modEq _ _).add_left _).sub (Int.mod_modEq _ _), Int.emod_bmod]

theorem SameBooks.spendable_eq (h : SameBooks l l') (a : AgentID) : l'.spendable a = l.spendable a := by
  rw [spendable, spendable, archivedNet, archivedNet, h.entries, h.archived]

theorem Adds.spendable_eq (h : Adds l l' e) (a : AgentID) : l'.spendable a = effect a e + l.spendable a := by
  rw [spendable, spendable, archivedNet, archivedNet, h.entries, h.archived,
    sumBy_insert_of_notMem _ e h.fresh, add_left_comm]

theorem Restates.spendable_eq {id : EventID} {state : SettlementState} (h : Restates l l' id e state)
    (a : AgentID) :
    effect a e + l'.spendable a = effect a { e with settlement := state } + l.spendable a := by
  have hsum := sumBy_replace (effect a) { e with settlement := state } h.lookup
  rw [spendable, spendable, archivedNet, archivedNet, h.entries, h.archived, add_left_comm, hsum, add_left_comm]

theorem optimistic_of_settles {state : SettlementState} {allowed : List SettlementState}
    (hallowed : validTransitions state = some allowed) (hmem : .settled ∈ allowed) : state = .optimistic := by
  cases state <;> cases hallowed <;> simp at hmem ⊢

theorem Adds.settle {l₁ : TransferLedger} (hadds : Adds l l₁ e) (amb : Ambient) (state : SettlementState) :
    (∃ allowed, validTransitions e.settlement = some allowed ∧ state ∈ allowed) ∧
        Adds l (l₁.settle amb e.eventID state).2 { e with settlement := state } ∨
      (¬ ∃ allowed, validTransitions e.settlement = some allowed ∧ state ∈ allowed) ∧
        Adds l (l₁.settle amb e.eventID state).2 e := by
  have hlookup : l₁.entries.lookup e.eventID = some e := by
    rw [hadds.entries, lookup_insert]
  obtain ⟨err, herr⟩ | ⟨e', -, hrestates⟩ := settle_cases amb e.eventID state l₁
  · refine .inr ⟨?_, by rw [herr]; exact hadds⟩
    rintro ⟨allowed, hallowed, hmem⟩
    have hok := settle_of_allowed amb hlookup hallowed hmem
    rw [herr] at hok
    cases hok
  · obtain rfl : e = e' := Option.some.inj (hlookup.symm.trans hrestates.lookup)
    refine .inl ⟨hrestates.allowed, hadds.fresh, ?_, by rw [hrestates.archived, hadds.archived]⟩
    rw [hrestates.entries, hadds.entries, insert_insert]

end Spendable

/-- Nobody but the genesis source has spent more than it had, and the genesis source no more than was
    minted. -/
structure Solvent (l : TransferLedger) : Prop where
  archived : l.archivedNetSettled = ∅
  minted : l.totalMinted.toNat < 2 ^ 63
  genesis : 0 ≤ l.spendable "system" + l.totalMinted.toNat
  covered : ∀ a, a ≠ "system" → 0 ≤ l.spendable a

namespace Solvent

variable {l l' : TransferLedger} {e : TransferEntry} {a : AgentID}

theorem initial (store : Option TransferStore) (mintCap bucketCounter : UInt64) :
    (TransferLedger.initial store mintCap bucketCounter).Solvent where
  archived := rfl
  minted := by simp [TransferLedger.initial]
  genesis := by simp [spendable, archivedNet, TransferLedger.initial, getD_empty]
  covered a _ := by simp [spendable, archivedNet, TransferLedger.initial, getD_empty]

variable (h : l.Solvent)

include h

theorem sum_spendable_le {S : Finset AgentID} (hS : l.agents ⊆ S) : ∑ a ∈ S, l.spendable a ≤ 0 := by
  have hconserving : l.Conserving l.total := by
    constructor
    · intro a
      simp [archivedNet, h.archived, getD_empty]
    · intro S _
      simp [archivedNet, h.archived, getD_empty]
  rw [← hconserving.sum_settledNet hS]
  refine Finset.sum_le_sum fun a _ => ?_
  have hdebit : l.entries.sumBy (settledDebit a) ≤ l.entries.sumBy (reservedDebit a) := by
    refine Multiset.sum_map_le_sum_map _ _ fun entry _ => ?_
    unfold settledDebit reservedDebit
    split_ifs <;> simp_all
  rw [spendable_eq, settledNet]
  exact sub_le_sub_left hdebit _

theorem sum_max_spendable_le (S : Finset AgentID) : ∑ a ∈ S, max 0 (l.spendable a) ≤ l.totalMinted.toNat := by
  let T := insert "system" (S ∪ l.agents)
  have hsystem : "system" ∈ T := Finset.mem_insert_self _ _
  have hgenesis := h.genesis
  calc ∑ a ∈ S, max 0 (l.spendable a)
      ≤ ∑ a ∈ T, max 0 (l.spendable a) :=
        Finset.sum_le_sum_of_subset_of_nonneg
          (Finset.subset_union_left.trans (Finset.subset_insert _ _)) fun _ _ _ => le_max_left _ _
    _ = ∑ a ∈ T.erase "system", l.spendable a + max 0 (l.spendable "system") := by
        rw [← Finset.sum_erase_add T _ hsystem]
        congr 1
        refine Finset.sum_congr rfl fun a ha => ?_
        exact max_eq_right (h.covered a (Finset.ne_of_mem_erase ha))
    _ ≤ l.totalMinted.toNat := by
        have hsum := h.sum_spendable_le (S := T) (Finset.subset_union_right.trans (Finset.subset_insert _ _))
        rw [← Finset.sum_erase_add T _ hsystem] at hsum
        omega

theorem balanceLocked_eq (a : AgentID) : ((l.balanceLocked a).toNat : ℤ) = max 0 (l.spendable a) := by
  have hle := h.sum_max_spendable_le {a}
  have hminted := h.minted
  have hlow : -2 ^ 63 ≤ l.spendable a := by
    by_cases ha : a = "system"
    · have hgenesis := h.genesis
      rw [ha]
      omega
    · have hcovered := h.covered a ha
      omega
  rw [Finset.sum_singleton] at hle
  have hnet : (l.net a).toInt = l.spendable a := by
    rw [toInt_net, bmod_eq_self hlow (by omega)]
  by_cases hpos : 0 ≤ l.spendable a
  · have hnat : (l.net a).toInt = ((l.spendable a).toNat : ℤ) := by
      rw [hnet, Int.toNat_of_nonneg hpos]
    rw [balanceLocked_eq_of_toInt hnat]
    omega
  · have hneg : l.net a ≤ 0 := Int64.le_iff_toInt_le.mpr (by rw [hnet, Int64.toInt_zero]; omega)
    rw [TransferLedger.balanceLocked_eq, if_pos hneg, UInt64.toNat_zero]
    omega

theorem sum_balanceLocked_le (S : Finset AgentID) : ∑ a ∈ S, (l.balanceLocked a).toNat ≤ l.totalMinted.toNat := by
  have hsum := h.sum_max_spendable_le S
  rw [← Finset.sum_congr rfl fun a _ => h.balanceLocked_eq a, ← Nat.cast_sum] at hsum
  exact Nat.cast_le.mp hsum

theorem of_spend (payer : AgentID) (amount : UInt64) (hholds : amount ≤ l.balanceLocked payer)
    (harchived : l'.archivedNetSettled = l.archivedNetSettled) (hminted : l'.totalMinted = l.totalMinted)
    (hspend : ∀ a, l.spendable a ≤ l'.spendable a + if payer = a then (amount.toNat : ℤ) else 0) : l'.Solvent := by
  have hle : (amount.toNat : ℤ) ≤ max 0 (l.spendable payer) := by
    rw [← h.balanceLocked_eq payer]
    exact Int.ofNat_le.mpr (UInt64.le_iff_toNat_le.mp hholds)
  have hkeep : ∀ a, 0 ≤ l'.spendable a ∨ l.spendable a ≤ l'.spendable a := by
    intro a
    have hstep := hspend a
    by_cases ha : payer = a
    · subst ha
      omega
    · rw [if_neg ha] at hstep
      omega
  constructor
  · rw [harchived, h.archived]
  · rw [hminted]
    exact h.minted
  · have hgenesis := h.genesis
    rw [hminted]
    rcases hkeep "system" with hge | hge <;> omega
  · intro a ha
    have hcovered := h.covered a ha
    rcases hkeep a with hge | hge <;> omega

theorem of_sameBooks (hbooks : SameBooks l l') (hminted : l'.totalMinted = l.totalMinted) : l'.Solvent :=
  h.of_spend "" 0 UInt64.zero_le hbooks.archived hminted fun a => by
    rw [hbooks.spendable_eq]
    split <;> simp

theorem adds (hadds : Adds l l' e) (hminted : l'.totalMinted = l.totalMinted)
    (hholds : e.settlement = .settled ∨ e.settlement = .optimistic → e.amount ≤ l.balanceLocked e.fromAgent) :
    l'.Solvent := by
  by_cases hreserves : e.settlement = .settled ∨ e.settlement = .optimistic
  · refine h.of_spend e.fromAgent e.amount (hholds hreserves) hadds.archived hminted fun a => ?_
    have htakes := neg_effect_le a e
    rw [hadds.spendable_eq]
    omega
  · rw [not_or] at hreserves
    refine h.of_spend "" 0 UInt64.zero_le hadds.archived hminted fun a => ?_
    rw [hadds.spendable_eq, effect_eq_zero hreserves.1 hreserves.2]
    simp

theorem restates {id : EventID} {state : SettlementState} (hrestates : Restates l l' id e state)
    (hminted : l'.totalMinted = l.totalMinted)
    (hholds : e.settlement = .settled → e.amount ≤ l.balanceLocked e.toAgent) : l'.Solvent := by
  obtain ⟨allowed, hallowed, hmem⟩ := hrestates.allowed
  cases hstate : e.settlement with
  | settled =>
    rw [hstate] at hallowed
    cases hallowed
    obtain rfl := List.mem_singleton.mp hmem
    refine h.of_spend e.toAgent e.amount (hholds hstate) hrestates.archived hminted fun a => ?_
    have hsum := hrestates.spendable_eq a
    have hgives := effect_le a e
    rw [effect_eq_zero (e := { e with settlement := .adjusted }) (by simp) (by simp)] at hsum
    omega
  | optimistic =>
    rw [hstate] at hallowed
    cases hallowed
    refine h.of_spend "" 0 UInt64.zero_le hrestates.archived hminted fun a => ?_
    have hsum := hrestates.spendable_eq a
    have hgives := effect_le_of_pending hstate (by simpa using hmem) a
    omega
  | adjusted =>
    rw [hstate] at hallowed
    cases hallowed
    cases hmem
  | undeclared _ _ =>
    rw [hstate] at hallowed
    cases hallowed

theorem mints (hadds : Adds l l' e) (hfrom : e.fromAgent = "system")
    (hsettled : e.settlement = .settled) (hminted : l'.totalMinted = l.totalMinted + e.amount)
    (hlt : l.totalMinted.toNat + e.amount.toNat < 2 ^ 63) : l'.Solvent := by
  have htotal : l'.totalMinted.toNat = l.totalMinted.toNat + e.amount.toNat := by
    rw [hminted, UInt64.toNat_add, Nat.mod_eq_of_lt (by omega)]
  constructor
  · rw [hadds.archived, h.archived]
  · omega
  · have hgenesis := h.genesis
    have hcredit := settledCredit_nonneg "system" e
    have hdebit : reservedDebit "system" e = e.amount.toNat := if_pos ⟨hfrom, .inl hsettled⟩
    rw [hadds.spendable_eq, effect, hdebit]
    omega
  · intro a ha
    have hcovered := h.covered a ha
    have hcredit := settledCredit_nonneg a e
    have hdebit : reservedDebit a e = 0 := if_neg fun hsystem => ha (hsystem.1.symm.trans hfrom)
    rw [hadds.spendable_eq, effect, hdebit]
    omega

theorem transferFromBucketLabeled (amb : Ambient) (fromID toID : AgentID) (amount : UInt64)
    (memo : String) (isGenesis : Bool) :
    (l.transferFromBucketLabeled amb fromID toID amount memo isGenesis).2.Solvent := by
  have hminted := transferFromBucketLabeled_totalMinted amb fromID toID amount memo isGenesis l
  obtain ⟨-, hbooks⟩ | ⟨eid, -, hadds, hholds⟩ :=
    transferFromBucketLabeled_cases amb fromID toID amount memo isGenesis l
  · exact h.of_sameBooks hbooks hminted
  · exact h.adds hadds hminted fun _ => hholds

theorem fundAgent (sha256 : String → List UInt8) (amb : Ambient) (agentID : AgentID)
    (amount : UInt64) (hlt : l.totalMinted.toNat + amount.toNat < 2 ^ 63) :
    (l.fundAgent sha256 amb agentID amount).2.Solvent := by
  obtain ⟨err, herr⟩ | ⟨eid, -, hadds, hminted⟩ := fundAgent_cases sha256 amb agentID amount l
  · rw [herr]
    exact h
  · exact h.mints hadds rfl rfl hminted hlt

/-- Recording a transfer and settling it right away, if its sender can pay for it or, for one that was settled
    before and is taken back, its recipient. -/
theorem recordFromSync_settle (amb amb' : Ambient) (ev : Event) {state : SettlementState}
    (hstate : state = .settled ∨ state = .adjusted)
    (hsender : ∀ p, ev.transferPayload = .ok p → ev.id ∉ l.entries → state = .settled →
      ev.settlementState = .settled ∨ ev.settlementState = .optimistic → p.amount ≤ l.balanceLocked p.fromAgent)
    (hrecipient : ∀ entry, l.entries.lookup ev.id = some entry → state = .adjusted → entry.settlement = .settled →
      entry.amount ≤ l.balanceLocked entry.toAgent) :
    ((l.recordFromSync amb ev).2.settle amb' ev.id state).2.Solvent := by
  have hminted : ((l.recordFromSync amb ev).2.settle amb' ev.id state).2.totalMinted = l.totalMinted := by
    rw [settle_totalMinted, recordFromSync_totalMinted]
  obtain hsame | ⟨p, hp, -, hadds⟩ := recordFromSync_cases amb ev l
  · rw [hsame] at hminted ⊢
    obtain ⟨err, herr⟩ | ⟨entry, -, hrestates⟩ := settle_cases amb' ev.id state l
    · rw [herr]
      exact h
    · refine h.restates hrestates hminted fun hsettled => ?_
      obtain ⟨allowed, hallowed, hmem⟩ := hrestates.allowed
      rw [hsettled] at hallowed
      cases hallowed
      exact hrecipient entry hrestates.lookup (List.mem_singleton.mp hmem) hsettled
  · have hsettle := hadds.settle amb' state
    rcases hstate with rfl | rfl
    · have hholds := hsender p hp hadds.fresh rfl
      obtain ⟨⟨allowed, hallowed, hmem⟩, hsettled⟩ | ⟨-, hrefused⟩ := hsettle
      · refine h.adds hsettled hminted fun _ => hholds (.inr ?_)
        exact optimistic_of_settles hallowed hmem
      · exact h.adds hrefused hminted hholds
    · obtain ⟨-, hadjusted⟩ | ⟨hstuck, hrefused⟩ := hsettle
      · exact h.adds hadjusted hminted fun hreserves => by simp at hreserves
      · refine h.adds hrefused hminted fun hreserves => ?_
        -- a reserving entry can always be adjusted
        rcases hreserves with hstate | hstate
        · exact absurd ⟨_, by rw [hstate]; rfl, List.mem_singleton_self _⟩ hstuck
        · exact absurd ⟨_, by rw [hstate]; rfl, List.mem_cons_of_mem _ (List.mem_singleton_self _)⟩ hstuck

end Solvent

end TransferLedger

end aethernet.ledger
