import Aethernet.Settlement.Interleaving
import Aethernet.Settlement.Noninterference
import Aethernet.Staking.Collateral

open golang aethernet event ledger staking fees settlement Applicator TransferLedger

namespace aethernet.ledger.TransferLedger

theorem Restates.settledNet_eq {l l' : TransferLedger} {id : EventID} {e : TransferEntry} {state : SettlementState}
    (h : Restates l l' id e state) (a : AgentID) :
    l'.settledNet a = l.settledNet a + (settledCredit a { e with settlement := state } - settledCredit a e) -
      (settledDebit a { e with settlement := state } - settledDebit a e) := by
  have hcredit := Finmap.sumBy_replace (settledCredit a) { e with settlement := state } h.lookup
  have hdebit := Finmap.sumBy_replace (settledDebit a) { e with settlement := state } h.lookup
  rw [settledNet, settledNet, archivedNet, archivedNet, h.archived, h.entries]
  omega

def flow (a : AgentID) (p : TransferPayload) : ℤ :=
  (if p.toAgent = a then (p.amount.toNat : ℤ) else 0) - if p.fromAgent = a then (p.amount.toNat : ℤ) else 0

theorem settled_eq_zero {e : TransferEntry} (h : e.settlement ≠ .settled) (a : AgentID) :
    settledCredit a e = 0 ∧ settledDebit a e = 0 := by
  simp [settledCredit, settledDebit, h]

theorem settledCredit_sub_settledDebit (now : Time) (e : Event) (p : TransferPayload) (a : AgentID) :
    settledCredit a { newEntry now e p with settlement := .settled } -
      settledDebit a { newEntry now e p with settlement := .settled } = flow a p := by
  simp [settledCredit, settledDebit, newEntry, flow]

/-- Recording a new transfer that is not settled yet and settling it: the nets change at the end, if at all. -/
theorem settledNet_recordAndSettle {l : TransferLedger} {target : Event} {tp : TransferPayload}
    (hpayload : target.transferPayload = .ok tp) (hnew : target.id ∉ l.entries)
    (hstate : target.settlementState ≠ .settled)
    (amb amb' : Ambient) (state : SettlementState) (a : AgentID) :
    (∃ err l', recordAndSettle amb amb' state target l = (.error err, l') ∧ l'.settledNet a = l.settledNet a) ∨
    ∃ l', recordAndSettle amb amb' state target l = (.ok (), l') ∧
      l'.settledNet a = l.settledNet a + if state = .settled then flow a tp else 0 := by
  unfold recordAndSettle
  obtain hsame | ⟨p, hp, -, hcall⟩ := recordFromSync_writes amb target l
  · -- nothing was recorded, so there is nothing to settle
    rcases hrecord : l.recordFromSync amb target with ⟨_ | _, l₁⟩
    · rw [hrecord] at hsame
      exact .inl ⟨_, _, rfl, congrArg (settledNet · a) hsame⟩
    · rw [hrecord] at hsame
      obtain rfl : l₁ = l := hsame
      obtain ⟨err, hsettle⟩ | ⟨e, -, hrestates⟩ := settle_cases amb' target.id state l₁
      · exact .inl ⟨err, _, hsettle, rfl⟩
      · exact absurd (Finmap.mem_of_lookup_eq_some hrestates.lookup) hnew
  · obtain rfl : p = tp := Except.ok.inj (hp.symm.trans hpayload)
    rw [hcall]
    have hadds := adds_setEntry amb (newEntry amb.now target p) l hnew
    have hpending : (newEntry amb.now target p).settlement ≠ .settled := hstate
    have hrecorded := hadds.settledNet_eq a
    rw [(settled_eq_zero hpending a).1, (settled_eq_zero hpending a).2] at hrecorded
    obtain ⟨err, hsettle⟩ | ⟨e, hok, hrestates⟩ := settle_cases amb' target.id state
      ((l.setEntry (newEntry amb.now target p)).putTransfer amb (newEntry amb.now target p))
    · exact .inl ⟨err, _, hsettle, by omega⟩
    · refine .inr ⟨_, Prod.ext hok rfl, ?_⟩
      obtain rfl : newEntry amb.now target p = e := by
        have hlookup := hrestates.lookup
        rw [hadds.entries] at hlookup
        exact Option.some.inj ((Finmap.lookup_insert l.entries).symm.trans hlookup)
      rw [hrestates.settledNet_eq a, (settled_eq_zero hpending a).1, (settled_eq_zero hpending a).2]
      by_cases hsettled : state = .settled
      · rw [if_pos hsettled, hsettled, ← settledCredit_sub_settledDebit amb.now target p a, hrecorded]
        ring
      · have hzero := settled_eq_zero (e := { newEntry amb.now target p with settlement := state }) hsettled a
        rw [if_neg hsettled, hzero.1, hzero.2]
        omega

end aethernet.ledger.TransferLedger

namespace aethernet.settlement

def Applicator.wired (a : Applicator) : WiredStakes := ⟨a.stakeManager.getD {}, a.transfer⟩

/-- The sum of the recorded stakes. -/
def Applicator.staked (a : Applicator) : ℕ := a.wired.manager.total

/-- The applicator after a call on its stake manager. -/
def Applicator.onWired (f : WiredStakes → WiredStakes) (a : Applicator) : Applicator :=
  match a.stakeManager with
  | none => a
  | some sm =>
    let w := f ⟨sm, a.transfer⟩
    { a with stakeManager := some w.manager, escrowMgr := { a.escrowMgr with ledger := w.ledger } }

/-- A settlement whose target, once it is in the DAG, is a transfer. -/
structure TransferSettlement where
  env : ApplyEnv
  sp : SettlementPayload
  isTransfer : ∀ target, env.lookup.get sp.targetEventID = .ok target → target.type = .transfer

/-- A call that changes stakes or settles a transfer. -/
inductive StakingCall where
  | stake (now : Int64) (amb : Ambient) (agentID : ledger.AgentID) (amount : UInt64)
  | unstake (amb : Ambient) (agentID : ledger.AgentID) (amount : UInt64)
  | slash (agentID : ledger.AgentID) (percentage : UInt64)
  | slashDefault (agentID : ledger.AgentID)
  | settle (settlement : TransferSettlement)

namespace StakingCall

def step (a : Applicator) : StakingCall → Applicator
  | stake now amb agentID amount => a.onWired fun w => (w.stake now amb agentID amount).2
  | unstake amb agentID amount => a.onWired fun w => (w.unstake amb agentID amount).2
  | slash agentID percentage => a.onWired fun w => { w with manager := (w.manager.slash agentID percentage).2 }
  | slashDefault agentID => a.onWired fun w => { w with manager := (w.manager.slashDefault agentID).2 }
  | settle s => (apply s.env s.sp a).2

end StakingCall

def FeeWithin (tp : TransferPayload) (a : Applicator) : Prop :=
  tp.toAgent = stakingPool → ∀ c, a.feeCollector = some c → c.treasuryAmount tp.amount ≤ tp.amount

/-- The reason of an accepted transfer agrees with where its funds go. -/
structure FundsFollow (a : Applicator) (tp : TransferPayload) : Prop where
  lock : tp.reason = "stake-lock" → tp.fromAgent ≠ stakingPool ∧ tp.toAgent = stakingPool
  unlock : tp.fromAgent = stakingPool →
    tp.reason = "stake-unlock" ∧ tp.amount ≤ a.wired.manager.stakedAmount tp.toAgent
  fee : FeeWithin tp a

/-- The call cannot leave stakes behind that the pool does not hold. -/
def StakingCall.Backed (a : Applicator) : StakingCall → Prop
  | .stake _ _ agentID amount => agentID ≠ stakingPool ∨ amount = 0
  | .settle s => ∀ target tp, s.sp.targetEventID ∉ a.applied → s.env.lookup.get s.sp.targetEventID = .ok target →
      target.transferPayload = .ok tp → target.id ∉ a.transfer.entries ∧ target.settlementState ≠ .settled ∧
        (s.sp.verdict = verdictAccepted → FundsFollow a tp)
  | _ => True

section Settle

variable {env : ApplyEnv} {sp : SettlementPayload} {target : Event} {tp : TransferPayload} {a b : Applicator}
  {s : TransferSettlement}

def Applicator.surplus (a : Applicator) : ℤ := a.wired.surplus

theorem surplus_onWired {f : WiredStakes → WiredStakes} (hf : ∀ w, w.surplus ≤ (f w).surplus) (a : Applicator) :
    a.surplus ≤ (a.onWired f).surplus := by
  unfold onWired
  split
  · exact le_refl _
  · next sm hsm =>
    have hle := hf ⟨sm, a.transfer⟩
    rwa [surplus, wired, hsm]

def feeExposure (tp : TransferPayload) : ℤ :=
  if tp.toAgent = stakingPool ∧ isProtocolInternalTransfer tp.reason = false then tp.amount.toNat else 0

theorem surplus_onStakes {f : StakeManager → StakeManager} {d : ℤ} (hnone : b.stakeManager = none → 0 ≤ d)
    (hf : ∀ sm, b.stakeManager = some sm → ((f sm).total : ℤ) ≤ sm.total + d) :
    b.surplus - d ≤ (onStakes f b).2.surplus := by
  show _ ≤ b.transfer.settledNet stakingPool - (((b.stakeManager.map f).getD {}).total : ℤ)
  unfold surplus wired WiredStakes.surplus
  cases hsm : b.stakeManager with
  | none =>
    have := hnone hsm
    simp only [Option.map_none, Option.getD_none]
    omega
  | some sm =>
    have := hf sm hsm
    simp only [Option.map_some, Option.getD_some]
    omega

theorem FundsFollow.feeExposure_le (h : FundsFollow a tp) (hunlock : tp.reason ≠ "stake-unlock") :
    feeExposure tp ≤ flow stakingPool tp := by
  have hfrom : tp.fromAgent ≠ stakingPool := fun heq => hunlock (h.unlock heq).1
  unfold feeExposure flow
  split_ifs <;> simp_all

theorem surplus_onEscrow_registerEscrow (taskID : String) (poster : ledger.AgentID) (amount : UInt64) (ref : EventID) :
    (onEscrow (escrow.Escrow.registerEscrow taskID poster amount ref) b).2.surplus = b.surplus := by
  have hledger : (escrow.Escrow.registerEscrow taskID poster amount ref b.escrowMgr).2.ledger = b.transfer :=
    escrow.Escrow.registerEscrow_keeps (P := (· = b.transfer)) taskID poster amount ref b.escrowMgr rfl
  show (escrow.Escrow.registerEscrow taskID poster amount ref b.escrowMgr).2.ledger.settledNet stakingPool - _ = _
  rw [hledger]
  rfl

/-- The bookkeeping of a transfer whose reason agrees with its fields leaves enough for the fee. -/
theorem FundsFollow.surplus_le_bookkeep (h : FundsFollow a tp) (hmanager : b.stakeManager = a.stakeManager)
    (hsurplus : b.surplus = a.surplus + flow stakingPool tp) (env : ApplyEnv) (targetID : EventID) :
    a.surplus + feeExposure tp ≤ (bookkeepTransfer env targetID tp b).2.surplus := by
  have hexempt : isProtocolInternalTransfer tp.reason = true → feeExposure tp = 0 := by
    intro hinternal
    simp [feeExposure, hinternal]
  by_cases hescrow : tp.reason = "escrow-lock"
  · have hbook : bookkeepTransfer env targetID tp = _ := if_pos hescrow
    have hfee := h.feeExposure_le (by rw [hescrow]; decide)
    rw [hbook]
    dsimp only
    split
    · have hregister := surplus_onEscrow_registerEscrow (b := b) tp.taskID tp.fromAgent tp.amount targetID
      show _ ≤ (onEscrow _ b).2.surplus
      omega
    · show _ ≤ b.surplus
      omega
  by_cases hlock : tp.reason = "stake-lock"
  · have hbook : bookkeepTransfer env targetID tp = _ := (if_neg hescrow).trans (if_pos hlock)
    obtain ⟨hfrom, hto⟩ := h.lock hlock
    have hstakes := surplus_onStakes (b := b) (d := tp.amount.toNat) (fun _ => Int.natCast_nonneg _) fun sm _ =>
      Int.ofNat_le.mpr (sm.total_recordCanonicalStake_le tp.fromAgent env.nowUnix tp.amount)
    have hflow : flow stakingPool tp = tp.amount.toNat := by
      simp [flow, hfrom, hto]
    rw [hbook, hexempt (by rw [hlock]; decide)]
    omega
  by_cases hunlock : tp.reason = "stake-unlock"
  · have hbook : bookkeepTransfer env targetID tp = _ :=
      (if_neg hescrow).trans ((if_neg hlock).trans (if_pos hunlock))
    rw [hbook, hexempt (by rw [hunlock]; decide)]
    by_cases hfrom : tp.fromAgent = stakingPool
    · have hle := (h.unlock hfrom).2
      rw [wired, ← hmanager] at hle
      have hstakes := surplus_onStakes (b := b) (d := -(tp.amount.toNat : ℤ))
        (f := StakeManager.recordCanonicalUnstake tp.toAgent tp.amount) (fun hnone => ?_) fun sm hsm => ?_
      · have hflow : -(tp.amount.toNat : ℤ) ≤ flow stakingPool tp := by
          unfold flow
          split_ifs <;> omega
        omega
      · -- without a manager nothing is staked
        rw [hnone] at hle
        have hzero : tp.amount.toNat ≤ 0 := UInt64.le_iff_toNat_le.mp hle
        omega
      · rw [hsm] at hle
        have htotal := sm.total_recordCanonicalUnstake tp.toAgent hle
        omega
    · have hstakes := surplus_onStakes (b := b) (d := 0) (fun _ => le_refl 0) fun sm _ =>
        Int.ofNat_le.mpr (sm.total_recordCanonicalUnstake_le tp.toAgent tp.amount)
      have hflow : 0 ≤ flow stakingPool tp := by
        unfold flow
        split_ifs <;> omega
      omega
  · have hbook : bookkeepTransfer env targetID tp = _ :=
      (if_neg hescrow).trans ((if_neg hlock).trans (if_neg hunlock))
    have hfee := h.feeExposure_le hunlock
    rw [hbook]
    show _ ≤ b.surplus
    omega

theorem surplus_le_payFee (hfee : FeeWithin tp b) (hpayload : target.transferPayload = .ok tp) (env : ApplyEnv)
    (sp : SettlementPayload) : b.surplus ≤ (payFee env sp target b).2.surplus + feeExposure tp := by
  have hnonneg : 0 ≤ feeExposure tp := by
    unfold feeExposure
    split_ifs <;> omega
  unfold payFee
  split
  · next tp' c hpayer hcollector =>
    split
    · show _ ≤ b.surplus + _
      omega
    · obtain ⟨rfl, hcharged⟩ : tp' = tp ∧ isProtocolInternalTransfer tp.reason = false := by
        unfold feePayer at hpayer
        rw [hpayload] at hpayer
        dsimp only at hpayer
        split_ifs at hpayer with haccepted hinternal
        exact ⟨(Option.some.inj hpayer).symm, by simpa using hinternal⟩
      have hnet := settledNet_le_transferFromBucketLabeled (env.amb b.transfer.bucketCounter) tp'.toAgent b.treasuryID
        (c.treasuryAmount tp'.amount) "fee-distribution:treasury-share" false b.transfer stakingPool
      have hle : (if tp'.toAgent = stakingPool then ((c.treasuryAmount tp'.amount).toNat : ℤ) else 0) ≤
        feeExposure tp' := by
        unfold feeExposure
        by_cases hto : tp'.toAgent = stakingPool
        · have hshare := UInt64.le_iff_toNat_le.mp (hfee hto c hcollector)
          rw [if_pos hto, if_pos ⟨hto, hcharged⟩]
          omega
        · rw [if_neg hto, if_neg fun h => hto h.1]
      show b.transfer.settledNet stakingPool - (b.staked : ℤ) ≤ (transferFromBucketLabeled
        (env.amb b.transfer.bucketCounter) tp'.toAgent b.treasuryID (c.treasuryAmount tp'.amount)
        "fee-distribution:treasury-share" false b.transfer).2.settledNet stakingPool - (b.staked : ℤ) + feeExposure tp'
      omega
  · show _ ≤ b.surplus + _
    omega

theorem treasuryAmount_trackFee (fee burned treasury amount : UInt64) (c : Collector) :
    (c.trackFee fee burned treasury).treasuryAmount amount = c.treasuryAmount amount := by
  unfold Collector.trackFee
  split <;> rfl

theorem trackFee_keeps_feeWithin (sp : SettlementPayload) (target : Event) :
    (trackFee sp target).Keeps (FeeWithin tp) := by
  have hwrite : ∀ f : Collector → Collector, (∀ c amount, (f c).treasuryAmount amount = c.treasuryAmount amount) →
      (onFees f).Keeps (FeeWithin tp) := by
    intro f hf x hx hto c hc
    obtain ⟨c', hc', rfl⟩ := Option.map_eq_some_iff.mp hc
    rw [hf]
    exact hx hto c' hc'
  unfold trackFee
  split
  · exact hwrite _ fun c amount => treasuryAmount_trackFee _ _ _ _ c
  · split
    · exact hwrite _ fun c amount => treasuryAmount_trackFee _ _ _ _ c
    · exact Method.Keeps.pure ()

theorem bookkeepTransfer_keeps_feeWithin (env : ApplyEnv) (targetID : EventID) (tp' : TransferPayload) :
    (bookkeepTransfer env targetID tp').Keeps (FeeWithin tp) := by
  refine Method.Keeps.ite (fun _ => ?_) fun _ => ?_
  · intro x hx
    dsimp only
    split
    · exact hx
    · exact hx
  · exact Method.Keeps.ite (fun _ => Method.Keeps.write fun _ hx => hx) fun _ =>
      Method.Keeps.ite (fun _ => Method.Keeps.write fun _ hx => hx) fun _ => Method.Keeps.pure ()

theorem surplus_trackFee (sp : SettlementPayload) (target : Event) :
    (trackFee sp target b).2.surplus = b.surplus := by
  have hkeeps : (trackFee sp target).Keeps fun x => x.surplus = b.surplus := by
    unfold trackFee
    split
    · exact Method.Keeps.write fun _ hx => hx
    · exact Method.Keeps.ite (fun _ => Method.Keeps.write fun _ hx => hx) fun _ => Method.Keeps.pure ()
  exact hkeeps b rfl

theorem surplus_recordActivity (now : Int64) (agentID : ledger.AgentID) :
    (onStakes (StakeManager.recordActivity now agentID) b).2.surplus = b.surplus := by
  show b.transfer.settledNet stakingPool -
    (((b.stakeManager.map (StakeManager.recordActivity now agentID)).getD {}).total : ℤ) = _
  unfold surplus wired WiredStakes.surplus
  cases b.stakeManager <;> rfl

def afterSettle (env : ApplyEnv) (sp : SettlementPayload) (target : Event) : Method Applicator Unit :=
  forM Action.afterSettle fun action => action.run env sp target

theorem afterSettle_snd (env : ApplyEnv) (sp : SettlementPayload) (target : Event) (b : Applicator) :
    (afterSettle env sp target b).2 =
      Action.afterSettle.foldl (fun b action => (action.run env sp target b).2) b := by
  have hsafe : ∀ action ∈ Action.afterSettle, (action.run env sp target).CannotFail := fun action hmem =>
    Action.cannotFail (List.all_eq_true.mp (by decide : Action.afterSettle.all Action.isSafe) action hmem) env sp target
  rw [afterSettle, Method.forM_of_cannotFail hsafe]

theorem FundsFollow.surplus_le_afterSettle (h : FundsFollow a tp) (hmanager : b.stakeManager = a.stakeManager)
    (hcollector : b.feeCollector = a.feeCollector)
    (hsurplus : b.surplus = a.surplus + flow stakingPool tp) (hpayload : target.transferPayload = .ok tp)
    (haccepted : sp.verdict = verdictAccepted) : a.surplus ≤ (afterSettle env sp target b).2.surplus := by
  have hbook : Action.bookkeepTransfer.run env sp target = bookkeepTransfer env sp.targetEventID tp := by
    simp [Action.run, if_pos haccepted, hpayload]
  have hwithin : FeeWithin tp b := by
    unfold FeeWithin
    rw [hcollector]
    exact h.fee
  have hbooked := h.surplus_le_bookkeep hmanager hsurplus env sp.targetEventID
  have htracked := surplus_trackFee (b := (bookkeepTransfer env sp.targetEventID tp b).2) sp target
  have hpaid := surplus_le_payFee
    (trackFee_keeps_feeWithin sp target _ (bookkeepTransfer_keeps_feeWithin env sp.targetEventID tp b hwithin)) hpayload
    env sp
  have hactivity : Action.recordActivity.run env sp target =
      onStakes (StakeManager.recordActivity env.nowUnix target.agentID) := if_pos haccepted
  rw [afterSettle_snd]
  simp only [Action.afterSettle, List.foldl_cons, List.foldl_nil, hbook, hactivity]
  show a.surplus ≤ (onStakes _ (payFee env sp target (trackFee sp target
    (bookkeepTransfer env sp.targetEventID tp b).2).2).2).2.surplus
  rw [surplus_recordActivity]
  omega

theorem surplus_afterSettle_of_rejected (hrejected : sp.verdict ≠ verdictAccepted) :
    (afterSettle env sp target b).2.surplus = b.surplus := by
  have hbook : Action.bookkeepTransfer.run env sp target = pure () := if_neg hrejected
  have hactivity : Action.recordActivity.run env sp target = pure () := if_neg hrejected
  have hpayer : feePayer sp target = none := if_neg fun h => hrejected h.1
  have hfee : ∀ x, (Action.payFee.run env sp target x).2 = x := by
    intro x
    simp [Action.run, payFee, hpayer]
  rw [afterSettle_snd]
  simp only [Action.afterSettle, List.foldl_cons, List.foldl_nil, hbook, hactivity, hfee]
  exact surplus_trackFee sp target

theorem apply_of_transfer (happlied : s.sp.targetEventID ∉ a.applied)
    (hlookup : s.env.lookup.get s.sp.targetEventID = .ok target) :
    apply s.env s.sp a = (onTransfer (recordAndSettle s.env.recordAmb s.env.settleAmb
      s.sp.settleState target) >>= fun _ => afterSettle s.env s.sp target) a := by
  have hid := s.env.lookup.id_eq _ _ hlookup
  simp only [apply, if_neg happlied, hlookup]
  rw [Action.applyToTarget_of_transfer s.env s.sp (s.isTransfer target hlookup), Action.record_settle s.env hid]
  rfl

def Applicator.withTransfer (a : Applicator) (l : TransferLedger) : Applicator :=
  { a with escrowMgr := { a.escrowMgr with ledger := l } }

theorem onTransfer_of_call {x : Method TransferLedger Unit} {r : Except Error Unit} {l : TransferLedger}
    (hcall : x a.transfer = (r, l)) : onTransfer x a = (r, a.withTransfer l) := by
  show ((x a.transfer).1, a.withTransfer (x a.transfer).2) = _
  rw [hcall]

theorem surplus_withTransfer (l : TransferLedger) :
    (a.withTransfer l).surplus = l.settledNet stakingPool - a.staked := rfl

theorem recordAndSettle_of_payload_error {err : Error} (htype : target.type = .transfer)
    (hpayload : target.transferPayload = .error err) (amb amb' : Ambient) (state : SettlementState)
    (l : TransferLedger) :
    ∃ err', recordAndSettle amb amb' state target l = (.error err', l) := by
  unfold recordAndSettle recordFromSync
  rw [if_neg (not_not_intro htype), hpayload]
  exact ⟨_, rfl⟩

theorem surplus_le_apply (hbacked : StakingCall.Backed a (.settle s)) : a.surplus ≤ (apply s.env s.sp a).2.surplus := by
  by_cases happlied : s.sp.targetEventID ∈ a.applied
  · rw [apply, if_pos happlied]
  cases hlookup : s.env.lookup.get s.sp.targetEventID with
  | error err =>
    simp only [apply, if_neg happlied, hlookup]
    unfold deferTarget
    split <;> exact le_refl _
  | ok target =>
    rw [apply_of_transfer happlied hlookup]
    cases hpayload : target.transferPayload with
    | error err =>
      obtain ⟨err', hcall⟩ := recordAndSettle_of_payload_error (s.isTransfer target hlookup) hpayload s.env.recordAmb
        s.env.settleAmb s.sp.settleState a.transfer
      rw [Method.bind_of_error (onTransfer_of_call hcall)]
      exact le_refl _
    | ok tp =>
      obtain ⟨hnew, hstate, hfollow⟩ := hbacked target tp happlied hlookup hpayload
      obtain ⟨err, l, hcall, hnet⟩ | ⟨l, hcall, hnet⟩ := settledNet_recordAndSettle hpayload hnew hstate
        s.env.recordAmb s.env.settleAmb s.sp.settleState stakingPool
      · rw [Method.bind_of_error (onTransfer_of_call hcall), surplus_withTransfer, hnet]
        exact le_refl _
      · rw [Method.bind_of_ok (onTransfer_of_call hcall)]
        by_cases haccepted : s.sp.verdict = verdictAccepted
        · rw [SettlementPayload.settleState, if_pos haccepted, if_pos rfl] at hnet
          refine (hfollow haccepted).surplus_le_afterSettle rfl rfl ?_ hpayload haccepted
          rw [surplus_withTransfer, hnet, surplus, WiredStakes.surplus]
          exact add_sub_right_comm _ _ _
        · rw [SettlementPayload.settleState, if_neg haccepted, if_neg (by decide), add_zero] at hnet
          rw [surplus_afterSettle_of_rejected haccepted, surplus_withTransfer, hnet]
          exact le_refl _

end Settle

theorem StakingCall.Backed.surplus_le_step {a : Applicator} {call : StakingCall} (h : call.Backed a) :
    a.surplus ≤ (call.step a).surplus := by
  cases call with
  | stake now amb agentID amount => exact surplus_onWired (fun w => w.surplus_le_stake now amb h) a
  | unstake amb agentID amount => exact surplus_onWired (fun w => w.surplus_le_unstake amb agentID amount) a
  | slash agentID percentage =>
    refine surplus_onWired (fun w => ?_) a
    have hslash := w.manager.total_slash_le agentID percentage
    unfold WiredStakes.surplus
    dsimp only
    omega
  | slashDefault agentID =>
    refine surplus_onWired (fun w => ?_) a
    have hslash := w.manager.total_slashDefault_le agentID
    unfold WiredStakes.surplus
    dsimp only
    omega
  | settle s => exact surplus_le_apply h

/-- From empty stakes and an empty ledger, the recorded stakes never exceed what the settled entries leave in the pool,
    as long as no call records a stake without the funds, or moves funds without the stake. -/
theorem StakingCall.no_phantom_collateral (a₀ : Applicator) (sm : StakeManager) (store : Option TransferStore)
    (mintCap bucketCounter : UInt64) (hmanager : a₀.stakeManager = some sm) (hstakes : sm.stakes = ∅)
    (hledger : a₀.transfer = initial store mintCap bucketCounter) (calls : List StakingCall)
    (hbacked : transition.MeetsAlong StakingCall.step StakingCall.Backed a₀ calls) :
    ((calls.foldl StakingCall.step a₀).staked : ℤ) ≤
      (calls.foldl StakingCall.step a₀).transfer.settledNet stakingPool := by
  have hinit : 0 ≤ a₀.surplus := by
    have htotal : sm.total = 0 := by rw [StakeManager.total, hstakes, Finmap.sumBy_empty]
    rw [surplus, wired, WiredStakes.surplus, hmanager, hledger, Option.getD_some, htotal]
    exact le_refl 0
  have hrun := transition.invariant_of_meetsAlong (P := fun a : Applicator => 0 ≤ a.surplus) hinit
    (fun a call hle hcall => hle.trans (StakingCall.Backed.surplus_le_step hcall)) hbacked
  exact sub_nonneg.mp hrun

section Sample

def stakingNode : Applicator where
  escrowMgr := { ledger := initial none 0 0 }
  stakeManager := some {}

def stakingEvents : List Event :=
  [transferEvent "fund" "system" "alice" "100", transferEvent "lock" "alice" "staking-pool" "40" "stake-lock",
    transferEvent "fake" "alice" "bob" "100" "stake-lock", transferEvent "drain" "staking-pool" "mallory" "60"]

theorem type_of_lookup {id : EventID} {target : Event} (h : (EventLookup.ofList stakingEvents).get id = .ok target) :
    target.type = .transfer := by
  have hmem : target ∈ stakingEvents := by
    unfold EventLookup.ofList at h
    dsimp only at h
    split at h
    · next hfind => exact Except.ok.inj h ▸ List.mem_of_find?_eq_some hfind
    · cases h
  simp only [stakingEvents, List.mem_cons, List.not_mem_nil, or_false] at hmem
  obtain rfl | rfl | rfl | rfl := hmem <;> rfl

/-- An accepted settlement of one of these events. -/
def settleEvent (id : EventID) : StakingCall :=
  .settle { env := sampleApplyEnv stakingEvents, sp := accepted id, isTransfer := fun _ => type_of_lookup }

/-- The node after these calls. -/
def stakingRun (calls : List StakingCall) : Applicator := calls.foldl StakingCall.step stakingNode

/-- Runs that end with stakes and nothing behind them: a lock that pays another agent, a transfer out of the pool, and
    a stake of the pool's own funds. -/
theorem StakingCall.phantom_collateral :
    (stakingRun [settleEvent "fund", settleEvent "fake"]).staked = 100 ∧
    (stakingRun [settleEvent "fund", settleEvent "fake"]).transfer.settledNet stakingPool = 0 ∧
    (stakingRun [settleEvent "fund", .stake 0 { now := 0 } "alice" 60, settleEvent "drain"]).staked = 60 ∧
    (stakingRun [settleEvent "fund", .stake 0 { now := 0 } "alice" 60, settleEvent "drain"]).transfer.settledNet
      stakingPool = 0 ∧
    (stakingRun [settleEvent "fund", .stake 0 { now := 0 } "alice" 60, .stake 0 { now := 0 } stakingPool 60]).staked =
      120 ∧
    (stakingRun [settleEvent "fund", .stake 0 { now := 0 } "alice" 60,
      .stake 0 { now := 0 } stakingPool 60]).transfer.settledNet stakingPool = 60 := by
  decide +kernel

/-- A stake by call, a stake by transfer, a slash and an unstake. -/
def backedCalls : List StakingCall :=
  [settleEvent "fund", .stake 0 { now := 0 } "alice" 60, settleEvent "lock", .slash "alice" 50,
    .unstake { now := 0 } "alice" 10]

theorem backed_settleEvent {a : Applicator} {id : EventID} (ev : Event) (tp : TransferPayload)
    (hlookup : (EventLookup.ofList stakingEvents).get id = .ok ev) (hpayload : ev.transferPayload = .ok tp)
    (hnew : ev.id ∉ a.transfer.entries) (hstate : ev.settlementState ≠ .settled) (hfollow : FundsFollow a tp) :
    StakingCall.Backed a (settleEvent id) := by
  intro target tp' _ htarget hpayload'
  obtain rfl : ev = target := Except.ok.inj (hlookup.symm.trans htarget)
  obtain rfl : tp = tp' := Except.ok.inj (hpayload.symm.trans hpayload')
  exact ⟨hnew, hstate, fun _ => hfollow⟩

theorem StakingCall.backedCalls_covered :
    (stakingRun backedCalls).staked = 40 ∧
      ((stakingRun backedCalls).staked : ℤ) ≤ (stakingRun backedCalls).transfer.settledNet stakingPool := by
  refine ⟨by decide +kernel, StakingCall.no_phantom_collateral stakingNode {} none 0 0 rfl rfl rfl backedCalls ?_⟩
  refine ⟨?_, .inl (by decide), ?_, trivial, trivial, trivial⟩
  · refine backed_settleEvent (transferEvent "fund" "system" "alice" "100")
      { fromAgent := "system", toAgent := "alice", amount := 100 } rfl rfl (by decide +kernel) (by decide) ?_
    exact ⟨by decide, by decide, fun hto => absurd hto (by decide)⟩
  · refine backed_settleEvent (transferEvent "lock" "alice" "staking-pool" "40" "stake-lock")
      { fromAgent := "alice", toAgent := stakingPool, amount := 40, reason := "stake-lock" } rfl rfl
      (by decide +kernel) (by decide) ?_
    exact ⟨by decide, fun hfrom => absurd hfrom (by decide), fun _ c hc => by cases hc⟩

end Sample

end aethernet.settlement
