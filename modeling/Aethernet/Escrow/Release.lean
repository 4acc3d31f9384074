import Aethernet.Escrow.Escrow
import Aethernet.Ledger.Payments

open golang aethernet event ledger TransferLedger

namespace aethernet.escrow

/-- A payment of a settlement: its paid flag, its recipient and its amount. -/
structure Payment where
  flag : Disbursement
  toID : AgentID
  amount : UInt64

/-- The transfer that makes the payment. -/
def Payment.posting (p : Payment) : Posting := ⟨p.toID, p.amount, p.flag.memo⟩

def EscrowEntry.marked (entry : EscrowEntry) (payments : List Payment) : List Payment :=
  payments.filter fun p => entry.isPaid p.flag

def EscrowEntry.Done (entry : EscrowEntry) (p : Payment) : Prop := p.amount = 0 ∨ entry.isPaid p.flag

section Marked

variable {entry : EscrowEntry} {payments : List Payment} {p : Payment}

theorem EscrowEntry.marked_subperm (entry : EscrowEntry) (payments : List Payment) :
    ((entry.marked payments).map Payment.posting).Subperm (payments.map Payment.posting) :=
  (List.filter_sublist.map Payment.posting).subperm

theorem EscrowEntry.Done.markPaid {d : Disbursement} (h : entry.Done p) : (entry.markPaid d).Done p :=
  h.imp_right fun hpaid => (entry.isPaid_markPaid_iff d p.flag).mpr (.inr hpaid)

theorem EscrowEntry.marked_markPaid_perm (hnodup : (payments.map Payment.flag).Nodup) (hp : p ∈ payments)
    (hunpaid : ¬ entry.isPaid p.flag) :
    ((entry.markPaid p.flag).marked payments).Perm (p :: entry.marked payments) := by
  obtain ⟨before, after, rfl⟩ := List.append_of_mem hp
  have hother : ∀ q ∈ before ++ after, (entry.markPaid p.flag).isPaid q.flag = entry.isPaid q.flag := by
    intro q hq
    have hne : q.flag ≠ p.flag := by
      intro heq
      have hperm : (before ++ p :: after).Perm (p :: (before ++ after)) := List.perm_middle
      have hcons := (hperm.map Payment.flag).nodup_iff.mp hnodup
      exact (List.nodup_cons.mp hcons).1 (heq ▸ List.mem_map_of_mem hq)
    have hiff := entry.isPaid_markPaid_iff p.flag q.flag
    simp only [hne, false_or] at hiff
    exact Bool.eq_iff_iff.mpr hiff
  have hself : (entry.markPaid p.flag).isPaid p.flag := (entry.isPaid_markPaid_iff _ _).mpr (.inl rfl)
  have hrest : (before ++ after).filter (fun q => (entry.markPaid p.flag).isPaid q.flag) =
      (before ++ after).filter fun q => entry.isPaid q.flag := List.filter_congr hother
  simp only [List.filter_append] at hrest
  simp only [EscrowEntry.marked, List.filter_append, List.filter_cons, hself, hunpaid, if_true, if_false,
    Bool.false_eq_true]
  rw [← hrest]
  exact List.perm_middle

theorem EscrowEntry.sum_marked_of_done (f : Posting → ℕ) (hzero : ∀ q, q.amount = 0 → f q = 0)
    (hdone : ∀ p ∈ payments, entry.Done p) :
    ((entry.marked payments).map fun p => f p.posting).sum = (payments.map fun p => f p.posting).sum := by
  induction payments with
  | nil => rfl
  | cons p rest ih =>
    have hrest := ih fun q hq => hdone q (List.mem_cons_of_mem p hq)
    rw [EscrowEntry.marked] at hrest ⊢
    by_cases hpaid : entry.isPaid p.flag
    · rw [List.filter_cons, if_pos hpaid, List.map_cons, List.map_cons, List.sum_cons, List.sum_cons, hrest]
    · have hnone : p.amount = 0 := (hdone p List.mem_cons_self).resolve_right hpaid
      have hterm : f p.posting = 0 := hzero p.posting hnone
      rw [List.filter_cons, if_neg hpaid, List.map_cons, List.sum_cons, hrest, hterm, zero_add]

end Marked

namespace Escrow

/-- The payments of `ReleaseSettlement`, in the order it makes them. -/
def settlementPayments (order genOrder : RangeOrder AgentID UInt64) (worker : AgentID) (workerAmount : UInt64)
    (posterRefund : AgentID) (posterRefundAmount : UInt64) (validators genRecipients : Map AgentID UInt64)
    (treasury : AgentID) (treasuryAmount : UInt64) : List Payment :=
  [⟨.worker, worker, workerAmount⟩, ⟨.posterRefund, posterRefund, posterRefundAmount⟩]
    ++ (order.visit validators).map (fun (vid, amount) => ⟨.validator vid, vid, amount⟩)
    ++ (genOrder.visit genRecipients).map (fun (rid, amount) => ⟨.genLedger rid, rid, amount⟩)
    ++ [⟨.treasury, treasury, treasuryAmount⟩]

section Payments

variable (order genOrder : RangeOrder AgentID UInt64) (worker : AgentID) (workerAmount : UInt64)
  (posterRefund : AgentID) (posterRefundAmount : UInt64) (validators genRecipients : Map AgentID UInt64)
  (treasury : AgentID) (treasuryAmount : UInt64)

theorem nodup_settlementPayments :
    ((settlementPayments order genOrder worker workerAmount posterRefund posterRefundAmount validators
      genRecipients treasury treasuryAmount).map Payment.flag).Nodup := by
  have hvalidators := (order.nodup_keys validators).map fun _ _ h => Disbursement.validator.inj h
  have hgen := (genOrder.nodup_keys genRecipients).map fun _ _ h => Disbursement.genLedger.inj h
  rw [List.map_map] at hvalidators hgen
  simp only [settlementPayments, List.map_append, List.map_map, List.map_cons, List.map_nil]
  refine List.Nodup.append (List.Nodup.append (List.Nodup.append (by simp) hvalidators ?_) hgen ?_)
    (List.nodup_singleton _) ?_
  · simp [List.disjoint_left]
  · intro d hd hd'
    obtain ⟨_, _, rfl⟩ := List.mem_map.mp hd'
    simp at hd
  · simp

theorem sum_settlementPayments :
    ((settlementPayments order genOrder worker workerAmount posterRefund posterRefundAmount validators
      genRecipients treasury treasuryAmount).map fun p => p.amount.toNat).sum =
      workerAmount.toNat + posterRefundAmount.toNat + validators.sumBy UInt64.toNat
        + genRecipients.sumBy UInt64.toNat + treasuryAmount.toNat := by
  rw [← order.sum_visit validators, ← genOrder.sum_visit genRecipients]
  simp [settlementPayments, Function.comp_def, add_assoc]

theorem exists_mem_settlementPayments_iff (a : AgentID) :
    (∃ p ∈ settlementPayments order genOrder worker workerAmount posterRefund posterRefundAmount validators
        genRecipients treasury treasuryAmount, p.toID = a ∧ p.amount ≠ 0) ↔
      worker = a ∧ workerAmount ≠ 0 ∨ posterRefund = a ∧ posterRefundAmount ≠ 0 ∨ validators.getD a 0 ≠ 0 ∨
        genRecipients.getD a 0 ≠ 0 ∨ treasury = a ∧ treasuryAmount ≠ 0 := by
  rw [← order.exists_visit_ne_iff validators, ← genOrder.exists_visit_ne_iff genRecipients]
  simp [settlementPayments, or_and_right, exists_or]

end Payments

/-- The entry of the task marks as paid just those of the payments that left the bucket since `l`. -/
structure Progress (taskID : String) (payments : List Payment) (budget : UInt64) (l : TransferLedger)
    (e : Escrow) (entry : EscrowEntry) : Prop where
  lookup : e.entries.lookup taskID = some entry
  amount : entry.amount = budget
  pays : ∃ paid, Pays (bucketID taskID) l paid e.ledger ∧
    paid.Perm ((entry.marked payments).map Payment.posting)

/-- The settlement is under way, and nothing is left to do for the payments visited so far. -/
def InProgress (taskID : String) (payments : List Payment) (budget : UInt64) (l : TransferLedger)
    (visited : List Payment) (e : Escrow) : Prop :=
  ∃ entry, Progress taskID payments budget l e entry ∧ ∀ p ∈ visited, entry.Done p

/-- All payments left the bucket since `l`, in some order and those of nothing left out, and the entry is gone. -/
def Released (taskID : String) (payments : List Payment) (l : TransferLedger) (e : Escrow) : Prop :=
  taskID ∉ e.entries ∧ ∃ paid, Pays (bucketID taskID) l paid e.ledger ∧ paid.Subperm (payments.map Payment.posting) ∧
    ∀ f : Posting → ℕ, (∀ q, q.amount = 0 → f q = 0) →
      (paid.map f).sum = (payments.map fun p => f p.posting).sum

theorem registerEscrow_cases {e : Escrow} (taskID : String) (poster : AgentID) (amount : UInt64) (ref : EventID)
    (hfresh : taskID ∉ e.entries) :
    (∃ err, e.registerEscrow taskID poster amount ref = (.error err, e)) ∨
    ∃ entry, entry = { taskID, posterID := poster, amount, fundingTransferRef := ref : EscrowEntry } ∧
      e.registerEscrow taskID poster amount ref =
        (.ok (), ({ e with entries := e.entries.insert taskID entry }).persist entry) := by
  unfold Escrow.registerEscrow
  rw [if_neg hfresh]
  cases e.dagReader with
  | none => exact .inl ⟨_, rfl⟩
  | some reader =>
    cases hread : reader ref with
    | error err => exact .inl ⟨_, by simp only [hread]; rfl⟩
    | ok evt =>
      simp only [hread]
      split_ifs with htype
      · exact .inl ⟨_, rfl⟩
      cases evt.transferPayload with
      | error err => exact .inl ⟨_, rfl⟩
      | ok tp =>
        dsimp only
        cases checkFunding taskID poster amount tp with
        | some err => exact .inl ⟨_, rfl⟩
        | none => exact .inr ⟨_, rfl, rfl⟩

section Release

variable {taskID : String} {payments : List Payment} {budget : UInt64} {l : TransferLedger} {e : Escrow}
  {entry : EscrowEntry} {p : Payment} {payments' : List Payment}

theorem progress_of_unpaid (hlookup : e.entries.lookup taskID = some entry)
    (hunpaid : ∀ d, ¬ entry.isPaid d) : Progress taskID payments entry.amount e.ledger e entry where
  lookup := hlookup
  amount := rfl
  pays := by
    have hnone : entry.marked payments = [] := List.filter_eq_nil_iff.mpr fun p _ => hunpaid p.flag
    refine ⟨[], .nil, ?_⟩
    rw [hnone, List.map_nil]

theorem Progress.pay (h : Progress taskID payments budget l e entry) (amb : UInt64 → Ambient)
    (hnodup : (payments.map Payment.flag).Nodup) (hp : p ∈ payments) (hunpaid : ¬ entry.isPaid p.flag)
    (context : String) :
    (∃ err e', e.pay amb taskID p.toID p.amount p.flag.memo context = (.error err, e') ∧
      Progress taskID payments budget l e' entry) ∨
    ∃ e', e.pay amb taskID p.toID p.amount p.flag.memo context = (.ok (), e') ∧
      Progress taskID payments budget l (e'.markPaid taskID p.flag) (entry.markPaid p.flag) := by
  obtain ⟨paid, hpays, hperm⟩ := h.pays
  obtain ⟨err, l', hcall, hpays'⟩ | ⟨l', hcall, hpays'⟩ :=
    hpays.transferFromBucketLabeled (amb e.ledger.bucketCounter) p.toID p.amount p.flag.memo false
  · refine .inl ⟨.wrap context err "", { e with ledger := l' }, ?_, h.lookup, h.amount, paid, hpays', hperm⟩
    simp [Escrow.pay, hcall]
  · refine .inr ⟨{ e with ledger := l' }, ?_, ?_⟩
    · simp [Escrow.pay, hcall]
    · have hmark : markPaid taskID p.flag { e with ledger := l' } =
          ({ e with ledger := l', entries := e.entries.insert taskID (entry.markPaid p.flag) }).persist
            (entry.markPaid p.flag) := by
        simp [markPaid, updateEntry, h.lookup]
      rw [hmark]
      refine ⟨Finmap.lookup_insert _, (entry.amount_markPaid _).trans h.amount, _, hpays', ?_⟩
      have hmarked := (entry.marked_markPaid_perm hnodup hp hunpaid).map Payment.posting
      exact (hperm.cons p.posting).trans hmarked.symm

theorem disburse_rule {P Q E : Escrow → Prop} {amb : UInt64 → Ambient} {d : Disbursement} {toID : AgentID}
    {amount : UInt64} (hentry : ∀ e, P e → ∃ entry, e.entries.lookup taskID = some entry)
    (hskip : ∀ e entry, P e → e.entries.lookup taskID = some entry → amount = 0 ∨ entry.isPaid d → Q e)
    (hpay : ∀ e entry, P e → e.entries.lookup taskID = some entry → amount ≠ 0 → ¬ entry.isPaid d →
      Method.Meets (· = e) (pay amb taskID toID amount d.memo (d.context taskID))
        (fun _ e' => Q (e'.markPaid taskID d)) E) :
    Method.Meets P (disburse amb taskID d toID amount) (fun _ => Q) E := by
  refine .bind (R := fun alreadyPaid e => P e ∧ ∃ entry, e.entries.lookup taskID = some entry ∧
    alreadyPaid = entry.isPaid d) (.read fun e he => ?_) fun alreadyPaid => ?_
  · obtain ⟨entry, hlookup⟩ := hentry e he
    refine ⟨he, entry, hlookup, ?_⟩
    rw [hlookup, Option.map_some, Option.getD_some]
  by_cases hdone : amount = 0 ∨ alreadyPaid
  · rw [if_pos hdone]
    refine .pure ?_
    rintro e ⟨he, entry, hlookup, rfl⟩
    exact hskip e entry he hlookup hdone
  · rw [if_neg hdone]
    refine .bind (R := fun _ e => Q (e.markPaid taskID d)) ?_ fun _ => .write fun _ h => h
    rintro e ⟨he, entry, hlookup, rfl⟩
    exact hpay e entry he hlookup (fun h => hdone (.inl h)) (fun h => hdone (.inr h)) e rfl

theorem Progress.done_append {visited : List Payment} (hvisited : ∀ q ∈ visited, entry.Done q) (hp : entry.Done p) :
    ∀ q ∈ visited ++ [p], entry.Done q := by
  intro q hq
  rcases List.mem_append.mp hq with hq | hq
  · exact hvisited q hq
  · exact List.mem_singleton.mp hq ▸ hp

theorem disburse_meets (amb : UInt64 → Ambient) (hnodup : (payments.map Payment.flag).Nodup) (hp : p ∈ payments)
    (visited : List Payment) :
    Method.Meets (InProgress taskID payments budget l visited) (disburse amb taskID p.flag p.toID p.amount)
      (fun _ => InProgress taskID payments budget l (visited ++ [p])) (InProgress taskID payments budget l []) := by
  refine disburse_rule ?_ ?_ ?_
  · rintro e ⟨entry, hprogress, -⟩
    exact ⟨entry, hprogress.lookup⟩
  · rintro e entry ⟨entry', hprogress, hvisited⟩ hlookup hdone
    obtain rfl : entry = entry' := Option.some.inj (hlookup.symm.trans hprogress.lookup)
    exact ⟨entry, hprogress, Progress.done_append hvisited hdone⟩
  · rintro e entry ⟨entry', hprogress, hvisited⟩ hlookup - hunpaid _ rfl
    obtain rfl : entry = entry' := Option.some.inj (hlookup.symm.trans hprogress.lookup)
    obtain ⟨err, e', hcall, hprogress'⟩ | ⟨e', hcall, hprogress'⟩ :=
      hprogress.pay amb hnodup hp hunpaid (p.flag.context taskID)
    · rw [hcall]
      exact ⟨entry, hprogress', fun q hq => absurd hq List.not_mem_nil⟩
    · rw [hcall]
      have hmarked : (entry.markPaid p.flag).Done p := .inr ((entry.isPaid_markPaid_iff _ _).mpr (.inl rfl))
      exact ⟨_, hprogress', Progress.done_append (fun q hq => (hvisited q hq).markPaid) hmarked⟩

theorem InProgress.released (hperm : payments'.Perm payments)
    (h : InProgress taskID payments budget l payments' e) :
    Released taskID payments l (e.deleteEntry taskID) := by
  obtain ⟨entry, hprogress, hdone⟩ := h
  obtain ⟨paid, hpays, hpaid⟩ := hprogress.pays
  refine ⟨Finmap.notMem_erase_self, paid, hpays, hpaid.subperm.trans (entry.marked_subperm payments), fun f hzero => ?_⟩
  have hall : ∀ p ∈ payments, entry.Done p := fun p hp => hdone p (hperm.symm.subset hp)
  rw [(hpaid.map f).sum_eq, List.map_map]
  exact EscrowEntry.sum_marked_of_done f hzero hall

variable (amb : UInt64 → Ambient) (order genOrder : RangeOrder AgentID UInt64) (worker : AgentID)
  (workerAmount : UInt64) (posterRefund : AgentID) (posterRefundAmount : UInt64)
  (validators genRecipients : Map AgentID UInt64) (treasury : AgentID) (treasuryAmount : UInt64)

theorem releaseSettlement_eq :
    releaseSettlement amb order genOrder taskID worker workerAmount posterRefund posterRefundAmount validators
        genRecipients treasury treasuryAmount =
      (do
        let locked ← Method.read (isLocked taskID)
        if !locked then Method.fail (.wrap "" errEscrowNotFound s!": task {taskID}")
        else
          forM (settlementPayments order genOrder worker workerAmount posterRefund posterRefundAmount validators
            genRecipients treasury treasuryAmount) fun p => disburse amb taskID p.flag p.toID p.amount
          Method.write (deleteEntry taskID)) := by
  simp [releaseSettlement, settlementPayments, bind_assoc]

theorem releaseSettlement_meets
    (hperm : (settlementPayments order genOrder worker workerAmount posterRefund posterRefundAmount validators
      genRecipients treasury treasuryAmount).Perm payments)
    (hnodup : (payments.map Payment.flag).Nodup) :
    Method.Meets (InProgress taskID payments budget l [])
      (releaseSettlement amb order genOrder taskID worker workerAmount posterRefund posterRefundAmount validators
        genRecipients treasury treasuryAmount)
      (fun _ => Released taskID payments l) (InProgress taskID payments budget l []) := by
  rw [releaseSettlement_eq]
  refine .bind (R := fun _ => InProgress taskID payments budget l []) (.read fun _ h => h) fun locked => ?_
  cases locked with
  | false => exact .fail fun _ h => h
  | true =>
    refine .bind (.loop fun visited p hp => disburse_meets amb hnodup (hperm.subset hp) visited) fun _ => ?_
    exact .write fun e h => h.released hperm

theorem Released.moved (h : Released taskID payments l e) :
    e.ledger.outflow (bucketID taskID) =
        l.outflow (bucketID taskID) + (payments.map fun p => p.amount.toNat).sum ∧
      (e.ledger.balanceLocked (bucketID taskID)).toNat +
          (payments.map fun p => if p.toID = bucketID taskID then 0 else p.amount.toNat).sum =
        (l.balanceLocked (bucketID taskID)).toNat := by
  obtain ⟨-, paid, hpays, -, hsum⟩ := h
  have hamounts := hsum (fun q => q.amount.toNat) fun q hq => by rw [hq, UInt64.toNat_zero]
  have houtflow := hpays.posted_eq fun q => q.amount.toNat
  have houtside := hsum (fun q => if q.toAgent = bucketID taskID then 0 else q.amount.toNat) fun q hq => by
    rw [hq, UInt64.toNat_zero, ite_self]
  refine ⟨?_, ?_⟩
  · rw [hamounts] at houtflow
    exact houtflow
  · rw [← hpays.balance_eq, houtside]
    rfl

end Release

theorem sum_outside_le_and_eq_iff (payments : List Payment) (a : AgentID) :
    (payments.map fun p => if p.toID = a then 0 else p.amount.toNat).sum ≤
        (payments.map fun p => p.amount.toNat).sum ∧
      ((payments.map fun p => if p.toID = a then 0 else p.amount.toNat).sum =
        (payments.map fun p => p.amount.toNat).sum ↔ ¬ ∃ p ∈ payments, p.toID = a ∧ p.amount ≠ 0) := by
  induction payments with
  | nil => simp
  | cons p rest ih =>
    obtain ⟨hle, hiff⟩ := ih
    have hne : p.amount ≠ 0 ↔ p.amount.toNat ≠ 0 := (UInt64.toNat_inj (b := 0)).not.symm
    rw [List.map_cons, List.map_cons, List.sum_cons, List.sum_cons, List.exists_mem_cons_iff, not_or, ← hiff, hne]
    by_cases hto : p.toID = a
    · simp only [hto, if_true, true_and]
      omega
    · simp only [hto, if_false, false_and, not_false_eq_true, true_and]
      omega

end Escrow

end aethernet.escrow
