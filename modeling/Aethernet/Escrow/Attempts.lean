import Aethernet.Escrow.Release
import Aethernet.Golang.Sort
import Aethernet.Ledger.Buckets

open golang aethernet event ledger TransferLedger escrow.Escrow Finmap

namespace aethernet.escrow

/-- What a settlement asks `ReleaseSettlement` to pay. -/
structure SettlementArgs where
  worker : AgentID
  workerAmount : UInt64
  posterRefund : AgentID
  posterRefundAmount : UInt64
  validators : Map AgentID UInt64
  genRecipients : Map AgentID UInt64
  treasury : AgentID
  treasuryAmount : UInt64

/-- What differs from one call of `ReleaseSettlement` to the next: what its transfers find around them, and the
    orders in which it visits the two maps. -/
structure Attempt where
  amb : UInt64 → Ambient
  order : RangeOrder AgentID UInt64
  genOrder : RangeOrder AgentID UInt64

namespace SettlementArgs

def recipient (args : SettlementArgs) : Disbursement → AgentID
  | .worker => args.worker
  | .posterRefund => args.posterRefund
  | .validator vid => vid
  | .genLedger rid => rid
  | .treasury => args.treasury

def amount (args : SettlementArgs) : Disbursement → UInt64
  | .worker => args.workerAmount
  | .posterRefund => args.posterRefundAmount
  | .validator vid => args.validators.getD vid 0
  | .genLedger rid => args.genRecipients.getD rid 0
  | .treasury => args.treasuryAmount

/-- The transfer that makes a disbursement. -/
def posting (args : SettlementArgs) (d : Disbursement) : Posting := ⟨args.recipient d, args.amount d, d.memo⟩

/-- The sum of the requested amounts. -/
def total (args : SettlementArgs) : ℕ :=
  args.workerAmount.toNat + args.posterRefundAmount.toNat + args.validators.sumBy UInt64.toNat
    + args.genRecipients.sumBy UInt64.toNat + args.treasuryAmount.toNat

/-- A call of `ReleaseSettlement` with these arguments. -/
def release (args : SettlementArgs) (taskID : String) (t : Attempt) : Method Escrow Unit :=
  releaseSettlement t.amb t.order t.genOrder taskID args.worker args.workerAmount args.posterRefund
    args.posterRefundAmount args.validators args.genRecipients args.treasury args.treasuryAmount

/-- The escrow after these calls, whatever they return. -/
def releases (args : SettlementArgs) (taskID : String) (attempts : List Attempt) (e : Escrow) : Escrow :=
  attempts.foldl (fun e t => (args.release taskID t e).2) e

/-- The payments a call makes, in its order. -/
def payments (args : SettlementArgs) (t : Attempt) : List Payment :=
  settlementPayments t.order t.genOrder args.worker args.workerAmount args.posterRefund
    args.posterRefundAmount args.validators args.genRecipients args.treasury args.treasuryAmount

section Payments

variable (args : SettlementArgs) (t : Attempt)

theorem payments_perm (t t' : Attempt) : (args.payments t).Perm (args.payments t') := by
  have hvalidators := t.order.visit_perm_visit args.validators t'.order
  have hgen := t.genOrder.visit_perm_visit args.genRecipients t'.genOrder
  exact (((List.Perm.refl _).append (hvalidators.map _)).append (hgen.map _)).append (List.Perm.refl _)

theorem nodup_flag_payments : ((args.payments t).map Payment.flag).Nodup :=
  nodup_settlementPayments _ _ _ _ _ _ _ _ _ _

theorem posting_of_mem_payments {t : Attempt} {p : Payment} (hp : p ∈ args.payments t) :
    p.posting = args.posting p.flag := by
  simp only [payments, settlementPayments, List.mem_append, List.mem_cons, List.mem_map, List.not_mem_nil,
    or_false, Prod.exists] at hp
  obtain (((rfl | rfl) | ⟨vid, amount, hvisit, rfl⟩) | ⟨rid, amount, hvisit, rfl⟩) | rfl := hp
  · rfl
  · rfl
  · rw [Payment.posting, posting, SettlementArgs.amount, getD, (t.order.mem_visit_iff _).mp hvisit]
    rfl
  · rw [Payment.posting, posting, SettlementArgs.amount, getD, (t.genOrder.mem_visit_iff _).mp hvisit]
    rfl
  · rfl

theorem exists_mem_payments {d : Disbursement} (hd : args.amount d ≠ 0) : ∃ p ∈ args.payments t, p.flag = d := by
  simp only [payments, settlementPayments, List.mem_append, List.mem_cons, List.mem_map, List.not_mem_nil,
    or_false, Prod.exists]
  cases d with
  | worker => exact ⟨_, .inl (.inl (.inl (.inl rfl))), rfl⟩
  | posterRefund => exact ⟨_, .inl (.inl (.inl (.inr rfl))), rfl⟩
  | validator vid =>
    obtain ⟨⟨_, amount⟩, hvisit, rfl, -⟩ := (t.order.exists_visit_ne_iff args.validators).mpr hd
    exact ⟨_, .inl (.inl (.inr ⟨_, amount, hvisit, rfl⟩)), rfl⟩
  | genLedger rid =>
    obtain ⟨⟨_, amount⟩, hvisit, rfl, -⟩ := (t.genOrder.exists_visit_ne_iff args.genRecipients).mpr hd
    exact ⟨_, .inl (.inr ⟨_, amount, hvisit, rfl⟩), rfl⟩
  | treasury => exact ⟨_, .inr rfl, rfl⟩

theorem posting_injective : Function.Injective args.posting := by
  intro d d' h
  have hmemo : d.memo = d'.memo := congrArg Posting.memo h
  have hto : args.recipient d = args.recipient d' := congrArg Posting.toAgent h
  cases d <;> cases d' <;> simp_all [Disbursement.memo, recipient]

theorem nodup_posting_payments : ((args.payments t).map Payment.posting).Nodup := by
  have hflags := (args.nodup_flag_payments t).map args.posting_injective
  rw [List.map_map] at hflags
  rwa [List.map_congr_left fun p hp => args.posting_of_mem_payments hp]

theorem sum_payments : ((args.payments t).map fun p => p.amount.toNat).sum = args.total :=
  sum_settlementPayments _ _ _ _ _ _ _ _ _ _

end Payments

/-- The settlement is under way, or it is complete. -/
def Settling (args : SettlementArgs) (taskID : String) (t : Attempt) (budget : UInt64) (l : TransferLedger)
    (e : Escrow) : Prop :=
  InProgress taskID (args.payments t) budget l [] e ∨ Released taskID (args.payments t) l e

section Settling

variable {args : SettlementArgs} {taskID : String} {t t' : Attempt} {budget : UInt64} {l : TransferLedger}
  {e : Escrow} {p : Payment}

theorem release_meets (args : SettlementArgs) (taskID : String) (t t' : Attempt) (budget : UInt64)
    (l : TransferLedger) :
    Method.Meets (InProgress taskID (args.payments t) budget l []) (args.release taskID t')
      (fun _ => Released taskID (args.payments t) l)
      (InProgress taskID (args.payments t) budget l []) :=
  releaseSettlement_meets _ _ _ _ _ _ _ _ _ _ _ (args.payments_perm t' t) (args.nodup_flag_payments t)

theorem release_of_notMem (args : SettlementArgs) (t : Attempt) (hgone : taskID ∉ e.entries) :
    ∃ err, args.release taskID t e = (.error err, e) := by
  refine ⟨.wrap "" errEscrowNotFound s!": task {taskID}", ?_⟩
  have hunlocked : e.isLocked taskID = false := decide_eq_false hgone
  simp only [SettlementArgs.release, releaseSettlement, Bind.bind, Method.read, hunlocked]
  rfl

theorem Settling.release (h : args.Settling taskID t budget l e) :
    args.Settling taskID t budget l (args.release taskID t' e).2 := by
  obtain hprogress | hreleased := h
  · by_cases hok : (args.release taskID t' e).1 = .ok ()
    · exact .inr ((args.release_meets taskID t t' budget l).of_ok hprogress hok)
    · exact .inl ((args.release_meets taskID t t' budget l).of_error hprogress fun _ => hok)
  · obtain ⟨err, hcall⟩ := args.release_of_notMem t' hreleased.1
    rw [hcall]
    exact .inr hreleased

theorem Settling.releases (h : args.Settling taskID t budget l e) (attempts : List Attempt) :
    args.Settling taskID t budget l (args.releases taskID attempts e) := by
  induction attempts generalizing e with
  | nil => exact h
  | cons t' attempts ih => exact ih h.release

theorem Settling.postings_le (h : args.Settling taskID t budget l e) (d : Disbursement) :
    e.ledger.postings (bucketID taskID) (args.posting d) ≤ l.postings (bucketID taskID) (args.posting d) + 1 := by
  have hpaid : ∃ paid, Pays (bucketID taskID) l paid e.ledger ∧
      paid.Subperm ((args.payments t).map Payment.posting) := by
    obtain ⟨entry, hprogress, -⟩ | ⟨-, paid, hpays, hsub, -⟩ := h
    · obtain ⟨paid, hpays, hperm⟩ := hprogress.pays
      exact ⟨paid, hpays, hperm.subperm.trans (entry.marked_subperm _)⟩
    · exact ⟨paid, hpays, hsub⟩
  obtain ⟨paid, hpays, hsub⟩ := hpaid
  have hcount := hsub.count_le (args.posting d)
  have hone := List.nodup_iff_count_le_one.mp (args.nodup_posting_payments t) (args.posting d)
  rw [hpays.postings_eq]
  omega

theorem postings_of_released (h : Released taskID (args.payments t) l e) {d : Disbursement}
    (hd : args.amount d ≠ 0) :
    e.ledger.postings (bucketID taskID) (args.posting d) = l.postings (bucketID taskID) (args.posting d) + 1 := by
  obtain ⟨-, paid, hpays, -, hsum⟩ := h
  obtain ⟨p, hp, rfl⟩ := args.exists_mem_payments t hd
  have hmem : args.posting p.flag ∈ (args.payments t).map Payment.posting := by
    rw [← args.posting_of_mem_payments hp]
    exact List.mem_map_of_mem hp
  have hcount := hsum (fun q => if q = args.posting p.flag then 1 else 0) ?_
  · have hone := List.count_eq_one_of_mem (args.nodup_posting_payments t) hmem
    rw [← sum_map_ite_eq_count, List.map_map] at hone
    rw [sum_map_ite_eq_count] at hcount
    rw [hpays.postings_eq, hcount]
    exact congrArg _ hone
  · intro q hq
    refine if_neg fun heq => hd ?_
    rw [heq] at hq
    exact hq

section

variable (hfunded : (l.balanceLocked (bucketID taskID)).toNat = args.total)

include hfunded

theorem balance_of_released (hothers : ∀ d, args.amount d ≠ 0 → args.recipient d ≠ bucketID taskID)
    (h : Released taskID (args.payments t) l e) : e.ledger.balanceLocked (bucketID taskID) = 0 := by
  obtain ⟨-, hbalance⟩ := h.moved
  have houtside := (sum_outside_le_and_eq_iff (args.payments t) (bucketID taskID)).2.mpr ?_
  · rw [houtside, args.sum_payments, hfunded] at hbalance
    exact UInt64.toNat_inj.mp (by rw [UInt64.toNat_zero]; omega)
  · rintro ⟨p, hp, hto, hne⟩
    have hposting := args.posting_of_mem_payments hp
    have hamount : p.amount = args.amount p.flag := congrArg Posting.amount hposting
    have hrecipient : p.toID = args.recipient p.flag := congrArg Posting.toAgent hposting
    exact hothers p.flag (hamount ▸ hne) (hrecipient ▸ hto)

theorem amount_le_balance {entry : EscrowEntry} (hprogress : Progress taskID (args.payments t) budget l e entry)
    (hp : p ∈ args.payments t) (hunpaid : ¬ entry.isPaid p.flag) :
    p.amount ≤ e.ledger.balanceLocked (bucketID taskID) := by
  obtain ⟨paid, hpays, hperm⟩ := hprogress.pays
  have hbalance := hpays.balance_eq
  have hsum : (paid.map fun q => if q.toAgent = bucketID taskID then 0 else q.amount.toNat).sum ≤
      ((entry.marked (args.payments t)).map fun p => p.amount.toNat).sum := by
    rw [(hperm.map _).sum_eq, List.map_map]
    refine List.sum_le_sum fun q _ => ?_
    by_cases hto : q.toID = bucketID taskID <;> simp [Payment.posting, hto]
  have hrest : p.amount.toNat + ((entry.marked (args.payments t)).map fun p => p.amount.toNat).sum ≤ args.total := by
    rw [← args.sum_payments t]
    have hmarked := ((entry.marked_markPaid_perm (args.nodup_flag_payments t) hp hunpaid).map
      fun p => p.amount.toNat).sum_eq
    rw [List.map_cons, List.sum_cons] at hmarked
    rw [← hmarked]
    exact (List.filter_sublist.map _).sum_le_sum fun _ _ => Nat.zero_le _
  exact UInt64.le_iff_toNat_le.mpr (by omega)

/-- The settlement is under way, and no transfer that is left can find its ID taken. -/
def Unhindered (args : SettlementArgs) (taskID : String) (t : Attempt) (budget : UInt64) (l : TransferLedger)
    (visited : List Payment) (e : Escrow) : Prop :=
  ∃ entry, Progress taskID (args.payments t) budget l e entry ∧ (∀ p ∈ visited, entry.Done p) ∧
    e.ledger.CounterAhead (bucketID taskID) ∧
    e.ledger.bucketCounter.toNat + (args.payments t).length < 2 ^ 64 + (entry.marked (args.payments t)).length

theorem disburse_unhindered (amb : UInt64 → Ambient) (hp : p ∈ args.payments t) (visited : List Payment) :
    Method.Meets (args.Unhindered taskID t budget l visited) (disburse amb taskID p.flag p.toID p.amount)
      (fun _ => args.Unhindered taskID t budget l (visited ++ [p])) (fun _ => False) := by
  refine disburse_rule ?_ ?_ ?_
  · rintro e ⟨entry, hprogress, -⟩
    exact ⟨entry, hprogress.lookup⟩
  · rintro e entry ⟨entry', hprogress, hvisited, hahead⟩ hlookup hdone
    obtain rfl : entry = entry' := Option.some.inj (hlookup.symm.trans hprogress.lookup)
    exact ⟨entry, hprogress, Progress.done_append hvisited hdone, hahead⟩
  · rintro _ entry ⟨entry', hprogress, hvisited, hahead, hroom⟩ hlookup - hunpaid e rfl
    obtain rfl : entry = entry' := Option.some.inj (hlookup.symm.trans hprogress.lookup)
    have hmarked := (entry.marked_markPaid_perm (args.nodup_flag_payments t) hp hunpaid).length_eq
    rw [List.length_cons] at hmarked
    have hlength : ((entry.markPaid p.flag).marked (args.payments t)).length ≤ (args.payments t).length :=
      List.length_filter_le _ _
    obtain ⟨l', htransfer, hahead', hcounter⟩ := hahead.transferFromBucketLabeled (amb e.ledger.bucketCounter)
      p.toID p.flag.memo false (amount_le_balance hfunded hprogress hp hunpaid) (by omega)
    have hpay : pay amb taskID p.toID p.amount p.flag.memo (p.flag.context taskID) e =
        (.ok (), { e with ledger := l' }) := by
      simp [pay, htransfer]
    obtain ⟨_, _, hcall, -⟩ | ⟨e', hcall, hprogress'⟩ :=
      hprogress.pay amb (args.nodup_flag_payments t) hp hunpaid (p.flag.context taskID)
    · cases hpay.symm.trans hcall
    · obtain rfl : { e with ledger := l' } = e' := congrArg Prod.snd (hpay.symm.trans hcall)
      rw [hpay]
      have hdone : (entry.markPaid p.flag).Done p := .inr ((entry.isPaid_markPaid_iff _ _).mpr (.inl rfl))
      refine ⟨_, hprogress', Progress.done_append (fun q hq => (hvisited q hq).markPaid) hdone, ?_, ?_⟩
      · rw [markPaid, updateEntry_ledger]
        exact hahead'
      · rw [markPaid, updateEntry_ledger]
        change l'.bucketCounter.toNat + _ < _
        omega

theorem release_completes (hprogress : InProgress taskID (args.payments t) budget l [] e)
    (hahead : e.ledger.CounterAhead (bucketID taskID))
    (hroom : e.ledger.bucketCounter.toNat + (args.payments t).length < 2 ^ 64) :
    (args.release taskID t e).1 = .ok () := by
  obtain ⟨entry, hentry, -⟩ := hprogress
  have hmeets : Method.Meets (args.Unhindered taskID t budget l []) (args.release taskID t) (fun _ _ => True)
      (fun _ => False) := by
    rw [release, releaseSettlement_eq]
    refine Method.Meets.bind (R := fun locked e => locked = true ∧ args.Unhindered taskID t budget l [] e)
      (Method.Meets.read ?_) fun locked => ?_
    · rintro e ⟨entry, hprogress, hrest⟩
      exact ⟨decide_eq_true (mem_of_lookup_eq_some hprogress.lookup), entry, hprogress, hrest⟩
    · cases locked with
      | false => exact Method.Meets.fail fun _ h => Bool.false_ne_true h.1
      | true =>
        refine Method.Meets.bind (.of_imp (fun _ h => h.2) (.loop fun visited p hp => ?_)) fun _ =>
          .write fun _ _ => trivial
        exact disburse_unhindered hfunded t.amb hp visited
  by_contra hfailed
  exact hmeets.of_error ⟨entry, hentry, by simp, hahead, by omega⟩ fun _ => hfailed

end

end Settling

section Sample

def sampleArgs : SettlementArgs where
  worker := "worker"
  workerAmount := 60
  posterRefund := "poster"
  posterRefundAmount := 0
  validators := (∅ : Map AgentID UInt64).insert "v" 30
  genRecipients := ∅
  treasury := "treasury"
  treasuryAmount := 10

def sampleAttempt : Attempt where
  amb _ := { now := 0 }
  order := .byKey
  genOrder := .byKey

/-- An escrow of 100, in a ledger that has the ID of the second transfer out of its bucket. -/
def hinderedEscrow : Escrow where
  entries := (∅ : Map String EscrowEntry).insert "t" { taskID := "t", posterID := "poster", amount := 100 }
  ledger :=
    { entries := ((∅ : Map EventID TransferEntry).insert "lock"
          ⟨"lock", "poster", "escrow:t", 100, "AET", "", "escrow-lock", 1, .settled, 0, false⟩).insert
        (bucketEventID "escrow:t" "v" 30 2)
          ⟨bucketEventID "escrow:t" "v" 30 2, "a", "b", 0, "AET", "", "", 1, .settled, 0, false⟩ }

end Sample

end SettlementArgs

end aethernet.escrow
