import Aethernet.Ledger.Step

open golang aethernet.event

namespace aethernet.ledger

/-- What a transfer out of a bucket says: who gets how much, and what for. -/
structure Posting where
  toAgent : AgentID
  amount : UInt64
  memo : String
  deriving DecidableEq

def TransferEntry.posting (e : TransferEntry) : Posting := ⟨e.toAgent, e.amount, e.memo⟩

namespace TransferLedger

/-- The ledger comes from this one by these settled transfers out of a bucket, the latest first, each of an
    amount the bucket held at the time. -/
inductive Pays (bucket : AgentID) (l : TransferLedger) : List Posting → TransferLedger → Prop
  | nil : Pays bucket l [] l
  | same {l₁ l' : TransferLedger} {paid : List Posting} (h : Pays bucket l paid l₁)
      (hbooks : SameBooks l₁ l') : Pays bucket l paid l'
  | pay {l₁ l' : TransferLedger} {paid : List Posting} {e : TransferEntry}
      (h : Pays bucket l paid l₁) (hadds : Adds l₁ l' e) (hfrom : e.fromAgent = bucket)
      (hsettled : e.settlement = .settled) (hholds : e.amount ≤ l₁.balanceLocked bucket) :
      Pays bucket l (e.posting :: paid) l'

/-- The sum of a measure over the settled transfers of an agent in memory. -/
def posted (agentID : AgentID) (f : Posting → ℕ) (l : TransferLedger) : ℕ :=
  l.entries.sumBy fun e => if e.fromAgent = agentID ∧ e.settlement = .settled then f e.posting else 0

/-- The number of settled transfers of an agent in memory that say this. -/
def postings (agentID : AgentID) (q : Posting) (l : TransferLedger) : ℕ :=
  l.posted agentID fun q' => if q' = q then 1 else 0

/-- The sum of the settled transfers of an agent in memory. -/
def outflow (agentID : AgentID) (l : TransferLedger) : ℕ :=
  l.entries.sumBy fun e => if e.fromAgent = agentID ∧ e.settlement = .settled then e.amount.toNat else 0

section Payments

variable {bucket : AgentID} {l l₁ l' : TransferLedger} {paid : List Posting} {e : TransferEntry}

theorem SameBooks.balanceLocked_eq (h : SameBooks l l') (a : AgentID) :
    l'.balanceLocked a = l.balanceLocked a := by
  simp [balanceLocked, h.entries, h.archived]

theorem Pays.transferFromBucketLabeled (h : Pays bucket l paid l₁) (amb : Ambient) (toID : AgentID)
    (amount : UInt64) (memo : String) (isGenesis : Bool) :
    (∃ err l', l₁.transferFromBucketLabeled amb bucket toID amount memo isGenesis = (.error err, l') ∧
      Pays bucket l paid l') ∨
    ∃ l', l₁.transferFromBucketLabeled amb bucket toID amount memo isGenesis = (.ok (), l') ∧
      Pays bucket l (⟨toID, amount, memo⟩ :: paid) l' := by
  obtain ⟨⟨err, herr⟩, hbooks⟩ | ⟨eid, hok, hadds, hholds⟩ :=
    transferFromBucketLabeled_cases amb bucket toID amount memo isGenesis l₁
  · exact .inl ⟨err, _, Prod.ext herr rfl, h.same hbooks⟩
  · exact .inr ⟨_, Prod.ext hok rfl, h.pay hadds rfl rfl hholds⟩

theorem Adds.net_eq (h : Adds l l' e) (a : AgentID) :
    l'.net a = l.net a + (creditOf a e).toInt64 - (reservedOf a e).toInt64 := by
  rw [net, net, h.entries, h.archived, Finmap.sumBy_insert_of_notMem _ e h.fresh,
    Finmap.sumBy_insert_of_notMem _ e h.fresh, UInt64.toInt64_add, UInt64.toInt64_add]
  abel

theorem toInt_net_of_balance_ne_zero {a : AgentID} (hne : l.balanceLocked a ≠ 0) :
    0 < l.net a ∧ (l.net a).toInt = (l.balanceLocked a).toNat := by
  rw [balanceLocked_eq] at hne ⊢
  by_cases hle : l.net a ≤ 0
  · rw [if_pos hle] at hne
    exact absurd rfl hne
  · have hpos : 0 < l.net a := Int64.not_le.mp hle
    rw [if_neg hle]
    exact ⟨hpos, (toNat_toUInt64_of_pos hpos).symm⟩

theorem balanceLocked_eq_of_toInt {a : AgentID} {n : ℕ} (hnet : (l.net a).toInt = n) :
    (l.balanceLocked a).toNat = n := by
  rw [balanceLocked_eq]
  by_cases hle : l.net a ≤ 0
  · have hle' : (l.net a).toInt ≤ 0 := by simpa using Int64.le_iff_toInt_le.mp hle
    rw [if_pos hle, UInt64.toNat_zero]
    omega
  · have hpos := toNat_toUInt64_of_pos (Int64.not_le.mp hle)
    rw [if_neg hle]
    omega

theorem balanceLocked_of_adds (hadds : Adds l l₁ e) (hfrom : e.fromAgent = bucket)
    (hsettled : e.settlement = .settled) (hholds : e.amount ≤ l.balanceLocked bucket) :
    (l₁.balanceLocked bucket).toNat + (if e.toAgent = bucket then 0 else e.amount.toNat) =
      (l.balanceLocked bucket).toNat := by
  have hreserved : reservedOf bucket e = e.amount := if_pos ⟨hfrom, .inl hsettled⟩
  have hnet := hadds.net_eq bucket
  rw [hreserved] at hnet
  by_cases hself : e.toAgent = bucket
  · have hcredit : creditOf bucket e = e.amount := if_pos ⟨hself, hsettled⟩
    have hsame : l₁.net bucket = l.net bucket := by
      rw [hnet, hcredit, add_sub_cancel_right]
    rw [if_pos hself, balanceLocked_eq, balanceLocked_eq, hsame, add_zero]
  · have hcredit : creditOf bucket e = 0 := if_neg fun h => hself h.1
    rw [hcredit] at hnet
    rw [if_neg hself]
    have hle := UInt64.le_iff_toNat_le.mp hholds
    by_cases hzero : e.amount = 0
    · have hsame : l₁.net bucket = l.net bucket := by
        rw [hnet, hzero]
        simp
      rw [balanceLocked_eq, balanceLocked_eq, hsame, hzero, UInt64.toNat_zero, add_zero]
    · have hne : l.balanceLocked bucket ≠ 0 := by
        intro hempty
        rw [hempty, UInt64.toNat_zero, Nat.le_zero] at hle
        exact hzero (UInt64.toNat_inj.mp hle)
      obtain ⟨-, hbalance⟩ := toInt_net_of_balance_ne_zero hne
      have hlt := Int64.toInt_lt (l.net bucket)
      have hnet' : (l₁.net bucket).toInt = ((l.balanceLocked bucket).toNat - e.amount.toNat : ℕ) := by
        rw [hnet, toInt_add_sub, hbalance, UInt64.toNat_zero]
        rw [bmod_eq_self (by omega) (by omega)]
        omega
      rw [balanceLocked_eq_of_toInt hnet']
      omega

theorem Pays.posted_eq (h : Pays bucket l paid l') (f : Posting → ℕ) :
    l'.posted bucket f = l.posted bucket f + (paid.map f).sum := by
  induction h with
  | nil => rfl
  | same _ hbooks ih => rw [posted, hbooks.entries, ← ih, posted]
  | @pay l₁ l' paid e _ hadds hfrom hsettled _ ih =>
    have hstep : l'.posted bucket f = f e.posting + l₁.posted bucket f := by
      rw [posted, posted, hadds.entries, Finmap.sumBy_insert_of_notMem _ e hadds.fresh,
        if_pos ⟨hfrom, hsettled⟩]
    rw [hstep, ih, List.map_cons, List.sum_cons]
    exact Nat.add_left_comm _ _ _

theorem sum_map_ite_eq_count {A : Type} [DecidableEq A] (l : List A) (a : A) :
    (l.map fun b => if b = a then 1 else 0).sum = l.count a := by
  induction l with
  | nil => rfl
  | cons b l ih =>
    rw [List.map_cons, List.sum_cons, ih, List.count_cons, Nat.add_comm]
    simp

theorem Pays.postings_eq (h : Pays bucket l paid l') (q : Posting) :
    l'.postings bucket q = l.postings bucket q + paid.count q := by
  rw [postings, h.posted_eq, sum_map_ite_eq_count]
  rfl

theorem Pays.balance_eq (h : Pays bucket l paid l') :
    (l'.balanceLocked bucket).toNat + (paid.map fun q => if q.toAgent = bucket then 0 else q.amount.toNat).sum =
      (l.balanceLocked bucket).toNat := by
  induction h with
  | nil => rfl
  | same _ hbooks ih => rw [hbooks.balanceLocked_eq, ih]
  | pay _ hadds hfrom hsettled hholds ih =>
    have hstep := balanceLocked_of_adds hadds hfrom hsettled hholds
    rw [List.map_cons, List.sum_cons, ← ih, ← hstep, add_assoc]
    rfl

end Payments

end TransferLedger

end aethernet.ledger
