import Aethernet.Escrow.Release
import Aethernet.Ledger.Recovery
import Aethernet.Settlement.Applicator

open golang aethernet event ledger escrow staking fees tasks Escrow TransferLedger StakeManager

namespace aethernet.ledger.TransferLedger

variable {l : TransferLedger} {id : EventID} {n : UInt64} {amb : Ambient}

@[simp]
theorem putTransfer_bucketCounter (amb : Ambient) (e : TransferEntry) (l : TransferLedger) :
    (l.putTransfer amb e).bucketCounter = l.bucketCounter := by
  unfold putTransfer; split <;> rfl

/-- The store mirrors the ledger, and of the transfer `id` and of the transfers with the number after `n` out of a
    bucket it has none that the memory has not. -/
structure Kept (id : EventID) (n : UInt64) (l : TransferLedger) : Prop where
  mirrored : l.Mirrored
  target : id ∈ l.stored → id ∈ l.entries
  next : ∀ fromID toID amount, bucketEventID fromID toID amount (n + 1) ∈ l.stored →
    bucketEventID fromID toID amount (n + 1) ∈ l.entries

theorem mem_entries_of_put (hamb : amb.Succeeds) (hstore : l.store ≠ none) (e : TransferEntry) {x : EventID}
    (h : x ∈ l.stored → x ∈ l.entries) :
    x ∈ ((l.setEntry e).putTransfer amb e).stored → x ∈ ((l.setEntry e).putTransfer amb e).entries := by
  obtain ⟨hstored, -⟩ := stored_putTransfer (l := l.setEntry e) hamb hstore e
  rw [hstored, putTransfer_entries, Finmap.mem_insert]
  simp only [setEntry, Finmap.mem_insert]
  exact Or.imp_right h

theorem Kept.put (h : l.Kept id n) (hamb : amb.Succeeds) {e : TransferEntry}
    (hmirrored : ((l.setEntry e).putTransfer amb e).Mirrored) : ((l.setEntry e).putTransfer amb e).Kept id n where
  mirrored := hmirrored
  target := mem_entries_of_put hamb h.mirrored.store e h.target
  next fromID toID amount := mem_entries_of_put hamb h.mirrored.store e (h.next fromID toID amount)

theorem Kept.recordFromSync (h : l.Kept id n) (hamb : amb.Succeeds) {e : Event} (hid : e.id = id) :
    (l.recordFromSync amb e).2.Kept id n := by
  have hfresh : l.Fresh (fun _ => []) (.recordFromSync amb e) := by
    change e.id ∈ l.stored → e.id ∈ l.entries
    rw [hid]
    exact h.target
  have hmirrored := h.mirrored.recordFromSync hamb hfresh
  obtain hsame | ⟨p, -, -, hcall⟩ := recordFromSync_writes amb e l
  · rw [hsame]
    exact h
  · rw [hcall] at hmirrored ⊢
    exact h.put hamb hmirrored

theorem Kept.settle (h : l.Kept id n) (hamb : amb.Succeeds) (eventID : EventID) (state : SettlementState) :
    (l.settle amb eventID state).2.Kept id n := by
  have hmirrored := h.mirrored.settle hamb eventID state
  obtain ⟨err, herr⟩ | ⟨e, allowed, hlookup, -, -, hcall⟩ := settle_writes amb eventID state l
  · rw [herr]
    exact h
  · obtain rfl : e.eventID = eventID := h.mirrored.keyedAt eventID e hlookup
    rw [hcall] at hmirrored ⊢
    have hput := h.put (e := { e with settlement := state }) hamb hmirrored
    exact hput

theorem Kept.transferFromBucketLabeled (h : l.Kept id n) (hamb : amb.Succeeds) (hcounter : l.bucketCounter = n)
    (fromID toID : AgentID) (amount : UInt64) (memo : String) (isGenesis : Bool) :
    (l.transferFromBucketLabeled amb fromID toID amount memo isGenesis).2.Kept id n := by
  obtain ⟨err, m, hcall⟩ | ⟨entry, hentry, hnew, hholds, hcall⟩ :=
    transferFromBucketLabeled_writes amb fromID toID amount memo isGenesis l
  · rw [hcall]
    exact ⟨h.mirrored.same ⟨rfl, rfl⟩ rfl rfl, h.target, h.next⟩
  · have hfresh : l.Fresh (fun _ => []) (.transferFromBucketLabeled amb fromID toID amount memo isGenesis) := by
      intro _ hstored
      rw [hentry] at hnew
      rw [hcounter] at hstored hnew
      exact hnew (h.next fromID toID amount hstored)
    have hmirrored := h.mirrored.transferFromBucketLabeled hamb hfresh
    have hcounted : Kept id n { l with bucketCounter := l.bucketCounter + 1 } :=
      ⟨h.mirrored.same ⟨rfl, rfl⟩ rfl rfl, h.target, h.next⟩
    rw [hcall] at hmirrored ⊢
    exact hcounted.put hamb hmirrored

theorem Kept.alike_restart (h : l.Kept id n) (order : RangeOrder EventID TransferEntry) (mintCap : UInt64) :
    Alike id l { loadTransferLedgerFromStore order (l.store.getD {}) with mintCap } := by
  refine ⟨h.mirrored.net_restart order mintCap, ?_, h.mirrored.keyedAt id⟩
  simp only [h.mirrored.entries_restart order]
  cases hlookup : l.entries.lookup id with
  | some e => rw [h.mirrored.memory id e hlookup]
  | none =>
    have hnone : id ∉ l.stored := fun hstored => Finmap.lookup_eq_none.mp hlookup (h.target hstored)
    rw [Finmap.lookup_eq_none.mpr hnone]

end aethernet.ledger.TransferLedger

namespace aethernet.escrow.Escrow

variable {e e' : Escrow} (taskID : String) (poster : ledger.AgentID) (amount : UInt64) (ref : EventID)

theorem ledger_registerEscrow (e : Escrow) :
    (registerEscrow taskID poster amount ref e).2.ledger = e.ledger ∧
      (registerEscrow taskID poster amount ref e).2.dagReader = e.dagReader := by
  by_cases hlocked : taskID ∈ e.entries
  · rw [registerEscrow, if_pos hlocked]
    exact ⟨rfl, rfl⟩
  · obtain ⟨err, herr⟩ | ⟨entry, -, hcall⟩ := registerEscrow_cases taskID poster amount ref hlocked
    · rw [herr]
      exact ⟨rfl, rfl⟩
    · rw [hcall]
      exact ⟨rfl, rfl⟩

theorem entries_registerEscrow (hentries : e'.entries = e.entries) (hreader : e'.dagReader = e.dagReader) :
    (registerEscrow taskID poster amount ref e').2.entries = (registerEscrow taskID poster amount ref e).2.entries := by
  unfold registerEscrow
  rw [hentries, hreader]
  split_ifs
  · exact hentries
  · split
    · exact hentries
    · split
      · exact hentries
      · split_ifs
        · exact hentries
        · split
          · exact hentries
          · split
            · exact hentries
            · rfl

end aethernet.escrow.Escrow

namespace aethernet.settlement

/-- What a new process reads besides the four stores: the orders in which they list their records, the mint cap, what
    the other components have loaded, and the statistics of the fee collector. -/
structure Reload where
  transfers : RangeOrder EventID TransferEntry := .byKey
  escrows : RangeOrder String EscrowEntry := .byKey
  stakes : RangeOrder ledger.AgentID StakeMeta := .byKey
  mintCap : UInt64 := 0
  generation : GenerationLedger := {}
  taskMgr : Option TaskManager := none
  totalCollected : UInt64 := 0
  totalBurned : UInt64 := 0
  treasuryAccrued : UInt64 := 0

/-- The store writes of a call succeed. -/
structure ApplyEnv.Succeeds (env : ApplyEnv) : Prop where
  record : env.recordAmb.Succeeds
  settle : env.settleAmb.Succeeds
  bucket : ∀ number, (env.amb number).Succeeds

namespace Applicator

def loadApplied (stored : Map EventID String) : Finset EventID := stored.keys

/-- The applicator of a new process on the stores of this one. -/
def restart (r : Reload) (a : Applicator) : Applicator where
  escrowMgr :=
    { loadFromStore r.escrows
        { loadTransferLedgerFromStore r.transfers (a.transfer.store.getD {}) with mintCap := r.mintCap }
        (a.escrowMgr.store.getD ∅) with
      dagReader := a.escrowMgr.dagReader }
  generation := r.generation
  taskMgr := r.taskMgr
  escrowWired := a.escrowWired
  taskSettlerWired := a.taskSettlerWired
  feeCollector := a.feeCollector.map fun c =>
    { c with
      totalCollected := r.totalCollected
      totalBurned := r.totalBurned
      treasuryAccrued := r.treasuryAccrued }
  treasuryID := a.treasuryID
  stakeManager := a.stakeManager.map fun sm => loadFromStore r.stakes (sm.store.getD ∅)
  applied := loadApplied (a.store.getD ∅)
  store := a.store

def withLedger (l : TransferLedger) (a : Applicator) : Applicator :=
  { a with escrowMgr := { a.escrowMgr with ledger := l } }

/-- `StakedAmount` of the stake manager, if there is one. -/
def stakedAmount (a : Applicator) (agentID : ledger.AgentID) : UInt64 :=
  (a.stakeManager.map (·.stakedAmount agentID)).getD 0

def treasuryFee (a : Applicator) (amount : UInt64) : Option UInt64 := a.feeCollector.map (·.treasuryAmount amount)

variable {f : Collector → Collector}

theorem treasuryFee_map
    (hf : ∀ c amount, (f c).treasuryAmount amount = c.treasuryAmount amount) (a : Applicator) (amount : UInt64) :
    treasuryFee { a with feeCollector := a.feeCollector.map f } amount = a.treasuryFee amount := by
  simp only [treasuryFee, Option.map_map]
  exact congrArg (fun g => a.feeCollector.map g) (funext fun c => hf c amount)

/-- The second applicator answers like the first, and has its entry of this transfer. -/
structure Alike (id : EventID) (a b : Applicator) : Prop where
  ledger : a.transfer.Alike id b.transfer
  escrows : b.escrowMgr.entries = a.escrowMgr.entries
  dagReader : b.escrowMgr.dagReader = a.escrowMgr.dagReader
  escrowWired : b.escrowWired = a.escrowWired
  staking : b.stakeManager.isSome = a.stakeManager.isSome
  stakes : ∀ agentID, b.stakedAmount agentID = a.stakedAmount agentID
  fees : ∀ amount, b.treasuryFee amount = a.treasuryFee amount
  treasuryID : b.treasuryID = a.treasuryID
  applied : b.applied = a.applied

/-- The stores have what the memory has. -/
structure Durable (id : EventID) (n : UInt64) (a : Applicator) : Prop where
  ledger : a.transfer.Kept id n
  escrows : a.escrowMgr.store = some a.escrowMgr.entries
  tasks : ∀ taskID entry, a.escrowMgr.entries.lookup taskID = some entry → entry.taskID = taskID
  stakes : ∀ sm, a.stakeManager = some sm → sm.Stored (·.stakedAmount)
  applied : ∃ stored, a.store = some stored ∧ stored.keys = a.applied

variable {id : EventID} {n : UInt64} {a : Applicator}

section

variable (h : a.Durable id n)

include h

theorem Durable.alike_restart (r : Reload) : a.Alike id (a.restart r) where
  ledger := h.ledger.alike_restart r.transfers r.mintCap
  escrows := by
    change Finmap.ofInserts ((r.escrows.visit (a.escrowMgr.store.getD ∅)).map fun p => (p.2.taskID, p.2)) = _
    rw [h.escrows, Option.getD_some]
    exact r.escrows.ofInserts_visit_of_keyed a.escrowMgr.entries h.tasks
  dagReader := rfl
  escrowWired := rfl
  staking := by
    simp [restart]
  stakes agentID := by
    simp only [stakedAmount, restart, Option.map_map]
    cases hsm : a.stakeManager with
    | none => rfl
    | some sm => exact (h.stakes sm hsm).stakedAmount_loadFromStore r.stakes agentID
  fees amount := by
    simp only [treasuryFee, restart, Option.map_map]
    rfl
  treasuryID := rfl
  applied := by
    obtain ⟨stored, hstore, hkeys⟩ := h.applied
    simp [restart, loadApplied, hstore, hkeys]

theorem Durable.withLedger {l : TransferLedger} (hl : l.Kept id n) : Durable id n (a.withLedger l) :=
  ⟨hl, h.escrows, h.tasks, h.stakes, h.applied⟩

theorem Durable.registerEscrow (taskID : String) (poster : ledger.AgentID) (amount : UInt64) (ref : EventID) :
    Durable id n { a with escrowMgr := (Escrow.registerEscrow taskID poster amount ref a.escrowMgr).2 } := by
  by_cases hlocked : taskID ∈ a.escrowMgr.entries
  · rw [Escrow.registerEscrow, if_pos hlocked]
    exact h
  · obtain ⟨err, herr⟩ | ⟨entry, hentry, hcall⟩ := Escrow.registerEscrow_cases taskID poster amount ref hlocked
    · rw [herr]
      exact h
    · have htask : entry.taskID = taskID := by rw [hentry]
      rw [hcall]
      refine ⟨h.ledger, ?_, fun t x hx => ?_, h.stakes, h.applied⟩
      · simp [Escrow.persist, h.escrows, htask]
      · rw [Escrow.persist_entries, Finmap.lookup_insert_eq] at hx
        split_ifs at hx with ht
        · cases hx
          rw [htask, ht]
        · exact h.tasks t x hx

theorem Durable.withStakes {f : StakeManager → StakeManager}
    (hf : ∀ sm : StakeManager, sm.Stored (·.stakedAmount) → (f sm).Stored (·.stakedAmount)) :
    Durable id n { a with stakeManager := a.stakeManager.map f } := by
  refine ⟨h.ledger, h.escrows, h.tasks, fun sm hsm => ?_, h.applied⟩
  obtain ⟨sm₀, hsm₀, rfl⟩ := Option.map_eq_some_iff.mp hsm
  exact hf sm₀ (h.stakes sm₀ hsm₀)

theorem Durable.withFees (fees : Option Collector) : Durable id n { a with feeCollector := fees } :=
  ⟨h.ledger, h.escrows, h.tasks, h.stakes, h.applied⟩

theorem Durable.markApplied (sp : SettlementPayload) : Durable id n (a.markApplied sp) := by
  obtain ⟨stored, hstore, hkeys⟩ := h.applied
  refine ⟨h.ledger, h.escrows, h.tasks, h.stakes, stored.insert sp.targetEventID sp.verdict, ?_, ?_⟩
  · simp [Applicator.markApplied, hstore]
  · ext x
    simp [Applicator.markApplied, Finmap.mem_keys, ← hkeys]

end

section Actions

variable {env env' : ApplyEnv} {sp : SettlementPayload} {target : Event} {action : Action} {b : Applicator}

/-- The fee of a target as a transfer to the treasury: who pays it and how much. -/
def feeDue (sp : SettlementPayload) (target : Event) (a : Applicator) : Option (ledger.AgentID × UInt64) := do
  let tp ← feePayer sp target
  let fee ← a.treasuryFee tp.amount
  if fee = 0 ∨ a.treasuryID = "" then none else some (tp.toAgent, fee)

theorem payFee_eq (env : ApplyEnv) (sp : SettlementPayload) (target : Event) (a : Applicator) :
    (Action.payFee.run env sp target a).2 = match a.feeDue sp target with
      | none => a
      | some (fromID, amount) => a.withLedger (a.transfer.transferFromBucketLabeled (env.amb a.transfer.bucketCounter)
          fromID a.treasuryID amount "fee-distribution:treasury-share" false).2 := by
  simp only [Action.run, payFee, feeDue, treasuryFee]
  cases feePayer sp target with
  | none => rfl
  | some tp =>
    cases a.feeCollector with
    | none => rfl
    | some c =>
      simp only [Option.map_some, Option.bind_eq_bind, Option.bind_some]
      split_ifs
      · rfl
      · rfl

/-- What `applyTransfer` does after the ledger has settled a transfer. -/
inductive Bookkeeping where
  | register (taskID : String) (poster : ledger.AgentID) (amount : UInt64)
  | stake (agentID : ledger.AgentID) (amount : UInt64)
  | unstake (agentID : ledger.AgentID) (amount : UInt64)
  | nothing

/-- The bookkeeping a settlement asks for. -/
def bookkeeping (escrowWired : Bool) (sp : SettlementPayload) (target : Event) : Bookkeeping :=
  if sp.verdict = verdictAccepted then
    match target.transferPayload with
    | .error _ => .nothing
    | .ok tp =>
      if tp.reason = "escrow-lock" then
        if escrowWired ∧ tp.taskID ≠ "" then .register tp.taskID tp.fromAgent tp.amount else .nothing
      else if tp.reason = "stake-lock" then .stake tp.fromAgent tp.amount
      else if tp.reason = "stake-unlock" then .unstake tp.toAgent tp.amount
      else .nothing
  else .nothing

def Bookkeeping.perform (nowUnix : Int64) (targetID : EventID) (a : Applicator) : Bookkeeping → Applicator
  | register taskID poster amount =>
    { a with escrowMgr := (registerEscrow taskID poster amount targetID a.escrowMgr).2 }
  | stake agentID amount =>
    { a with stakeManager := a.stakeManager.map (recordCanonicalStake nowUnix agentID amount) }
  | unstake agentID amount =>
    { a with stakeManager := a.stakeManager.map (recordCanonicalUnstake agentID amount) }
  | nothing => a

theorem bookkeepTransfer_eq (env : ApplyEnv) (sp : SettlementPayload) (target : Event) (a : Applicator) :
    (Action.bookkeepTransfer.run env sp target a).2 =
      (bookkeeping a.escrowWired sp target).perform env.nowUnix sp.targetEventID a := by
  simp only [Action.run, bookkeeping]
  by_cases haccepted : sp.verdict = verdictAccepted
  · simp only [haccepted, if_true]
    cases target.transferPayload with
    | error err => rfl
    | ok tp =>
      by_cases hescrow : tp.reason = "escrow-lock"
      · have hcall : (bookkeepTransfer env sp.targetEventID tp a).2 =
            (if a.escrowWired ∧ tp.taskID ≠ "" ∧ !a.escrowMgr.isLocked tp.taskID then
              { a with escrowMgr :=
                  (registerEscrow tp.taskID tp.fromAgent tp.amount sp.targetEventID a.escrowMgr).2 }
            else a) := by
          have hbody : bookkeepTransfer env sp.targetEventID tp = _ := if_pos hescrow
          exact (congrArg Prod.snd (congrFun hbody a)).trans (apply_ite Prod.snd ..)
        simp only [hcall, if_pos hescrow]
        by_cases hwired : a.escrowWired ∧ tp.taskID ≠ ""
        · rw [if_pos hwired]
          by_cases hlocked : tp.taskID ∈ a.escrowMgr.entries
          · simp [Bookkeeping.perform, registerEscrow, isLocked, hlocked]
          · rw [if_pos ⟨hwired.1, hwired.2, by simpa [isLocked] using hlocked⟩]
            rfl
        · rw [if_neg hwired, if_neg fun h => hwired ⟨h.1, h.2.1⟩]
          rfl
      · by_cases hlock : tp.reason = "stake-lock"
        · have hcall : bookkeepTransfer env sp.targetEventID tp =
              onStakes (recordCanonicalStake env.nowUnix tp.fromAgent tp.amount) :=
            (if_neg hescrow).trans (if_pos hlock)
          simp only [hcall, if_neg hescrow, if_pos hlock]
          rfl
        · by_cases hunlock : tp.reason = "stake-unlock"
          · have hcall : bookkeepTransfer env sp.targetEventID tp =
                onStakes (recordCanonicalUnstake tp.toAgent tp.amount) :=
              (if_neg hescrow).trans ((if_neg hlock).trans (if_pos hunlock))
            simp only [hcall, if_neg hescrow, if_neg hlock, if_pos hunlock]
            rfl
          · have hcall : bookkeepTransfer env sp.targetEventID tp = pure () :=
              (if_neg hescrow).trans ((if_neg hlock).trans (if_neg hunlock))
            simp only [hcall, if_neg hescrow, if_neg hlock, if_neg hunlock]
            rfl
  · simp only [haccepted, if_false]
    rfl

theorem exists_trackFee (sp : SettlementPayload) (target : Event) :
    ∃ f : Collector → Collector, (∀ c amount, (f c).treasuryAmount amount = c.treasuryAmount amount) ∧
      ∀ env a, (Action.trackFee.run env sp target a).2 = { a with feeCollector := a.feeCollector.map f } := by
  have htrack : ∀ fee burned treasury (c : Collector) amount,
      (c.trackFee fee burned treasury).treasuryAmount amount = c.treasuryAmount amount := by
    intro fee burned treasury c amount
    unfold Collector.trackFee
    split_ifs <;> rfl
  simp only [Action.run, trackFee]
  cases feePayer sp target with
  | some tp => exact ⟨_, fun c amount => htrack _ _ _ c amount, fun _ _ => rfl⟩
  | none =>
    by_cases hgeneration : sp.verdict = verdictAccepted ∧ 0 < sp.verifiedValue ∧ target.type = .generation
    · simp only [if_pos hgeneration]
      exact ⟨_, fun c amount => htrack _ _ _ c amount, fun _ _ => rfl⟩
    · simp only [if_neg hgeneration]
      refine ⟨id, fun _ _ => rfl, fun _ a => ?_⟩
      rw [Option.map_id]
      rfl

/-- The parts of `applyToTarget` for a transfer that do not touch the ledger. -/
def besideLedger : List Action :=
  [.bookkeepTransfer, .recordIdentity, .trackFee, .recordActivity, .markApplied]

theorem transfer_run (haction : action ∈ besideLedger) :
    (action.run env sp target a).2.transfer = a.transfer ∧
      (∀ amount, (action.run env sp target a).2.treasuryFee amount = a.treasuryFee amount) ∧
      (action.run env sp target a).2.treasuryID = a.treasuryID := by
  simp only [besideLedger, List.mem_cons, List.not_mem_nil, or_false] at haction
  obtain rfl | rfl | rfl | rfl | rfl := haction
  · rw [bookkeepTransfer_eq]
    cases bookkeeping a.escrowWired sp target with
    | register taskID poster amount =>
      exact ⟨(ledger_registerEscrow taskID poster amount _ a.escrowMgr).1, fun _ => rfl, rfl⟩
    | _ => exact ⟨rfl, fun _ => rfl, rfl⟩
  · exact ⟨rfl, fun _ => rfl, rfl⟩
  · obtain ⟨f, hf, hrun⟩ := exists_trackFee sp target
    rw [hrun]
    exact ⟨rfl, treasuryFee_map hf a, rfl⟩
  · simp only [Action.run]
    split_ifs <;> exact ⟨rfl, fun _ => rfl, rfl⟩
  · exact ⟨rfl, fun _ => rfl, rfl⟩

theorem Durable.run (h : a.Durable id n) (hsucceeds : env.Succeeds) (hid : target.id = id)
    (hmem : action ∈ Action.ofType .transfer) (hcounter : action = .payFee → a.transfer.bucketCounter = n) :
    (action.run env sp target a).2.Durable id n := by
  cases action with
  | recordTransfer =>
    simp only [Action.run]
    rw [Method.wrapError_snd]
    exact h.withLedger (h.ledger.recordFromSync hsucceeds.record hid)
  | settleTransfer => exact h.withLedger (h.ledger.settle hsucceeds.settle _ _)
  | bookkeepTransfer =>
    rw [bookkeepTransfer_eq]
    cases bookkeeping a.escrowWired sp target with
    | register taskID poster amount => exact h.registerEscrow taskID poster amount _
    | stake agentID amount => exact h.withStakes fun sm hsm => hsm.recordCanonicalStake ..
    | unstake agentID amount => exact h.withStakes fun sm hsm => hsm.setStake ..
    | nothing => exact h
  | recordIdentity => exact h
  | trackFee =>
    obtain ⟨f, -, hrun⟩ := exists_trackFee sp target
    rw [hrun]
    exact h.withFees _
  | payFee =>
    rw [payFee_eq]
    split
    · exact h
    · exact h.withLedger (h.ledger.transferFromBucketLabeled (hsucceeds.bucket _) (hcounter rfl) ..)
  | recordActivity =>
    simp only [Action.run]
    split_ifs
    · exact h.withStakes fun sm hsm => hsm.recordActivity ..
    · exact h
  | markApplied => exact h.markApplied sp
  | _ => exact absurd hmem (by decide)

theorem bucketCounter_run (hmem : action ∈ Action.ofType .transfer) (haction : action ≠ .payFee) :
    (action.run env sp target a).2.transfer.bucketCounter = a.transfer.bucketCounter := by
  by_cases hbeside : action ∈ besideLedger
  · rw [(transfer_run hbeside).1]
  · cases action with
    | recordTransfer =>
      simp only [Action.run]
      rw [Method.wrapError_snd]
      change (recordFromSync env.recordAmb target a.transfer).2.bucketCounter = _
      obtain hsame | ⟨p, -, -, hcall⟩ := recordFromSync_writes env.recordAmb target a.transfer
      · rw [hsame]
      · rw [hcall, putTransfer_bucketCounter]
        rfl
    | settleTransfer =>
      change (settle env.settleAmb _ _ a.transfer).2.bucketCounter = _
      obtain ⟨err, herr⟩ | ⟨e, allowed, -, -, -, hcall⟩ :=
        settle_writes env.settleAmb sp.targetEventID sp.settleState a.transfer
      · rw [herr]
      · rw [hcall, putTransfer_bucketCounter]
    | payFee => exact absurd rfl haction
    | recordGeneration | verifyGeneration | settleTask => exact absurd hmem (by decide)
    | _ => exact absurd (by decide) hbeside

section

variable (h : a.Alike id b)

include h

theorem Alike.withStakes {f f' : StakeManager → StakeManager}
    (hf : ∀ sm sm' : StakeManager, (∀ agentID, sm'.stakedAmount agentID = sm.stakedAmount agentID) →
      ∀ agentID, (f' sm').stakedAmount agentID = (f sm).stakedAmount agentID) :
    Alike id { a with stakeManager := a.stakeManager.map f } { b with stakeManager := b.stakeManager.map f' } := by
  refine ⟨h.ledger, h.escrows, h.dagReader, h.escrowWired, ?_, fun agentID => ?_, h.fees, h.treasuryID, h.applied⟩
  · simp [h.staking]
  · have hstakes := h.stakes
    have hstaking := h.staking
    simp only [stakedAmount] at hstakes ⊢
    cases hsm : a.stakeManager with
    | none =>
      rw [hsm, Option.isSome_none, Option.isSome_eq_false_iff, Option.isNone_iff_eq_none] at hstaking
      rw [hstaking]
      rfl
    | some sm =>
      rw [hsm, Option.isSome_some, Option.isSome_iff_exists] at hstaking
      obtain ⟨sm', hsm'⟩ := hstaking
      simp only [hsm, hsm', Option.map_some, Option.getD_some] at hstakes ⊢
      exact hf sm sm' hstakes agentID

theorem Alike.withFees (hf : ∀ c amount, (f c).treasuryAmount amount = c.treasuryAmount amount) :
    Alike id { a with feeCollector := a.feeCollector.map f } { b with feeCollector := b.feeCollector.map f } := by
  refine ⟨h.ledger, h.escrows, h.dagReader, h.escrowWired, h.staking, h.stakes, fun amount => ?_,
    h.treasuryID, h.applied⟩
  rw [treasuryFee_map hf, treasuryFee_map hf, h.fees]

theorem Alike.registerEscrow (taskID : String) (poster : ledger.AgentID) (amount : UInt64) (ref : EventID) :
    Alike id { a with escrowMgr := (registerEscrow taskID poster amount ref a.escrowMgr).2 }
      { b with escrowMgr := (registerEscrow taskID poster amount ref b.escrowMgr).2 } := by
  obtain ⟨hledger, hreader⟩ := ledger_registerEscrow taskID poster amount ref a.escrowMgr
  obtain ⟨hledger', hreader'⟩ := ledger_registerEscrow taskID poster amount ref b.escrowMgr
  refine ⟨?_, entries_registerEscrow taskID poster amount ref h.escrows h.dagReader, ?_, h.escrowWired, h.staking,
    h.stakes, h.fees, h.treasuryID, h.applied⟩
  · simp only [transfer, hledger, hledger']
    exact h.ledger
  · rw [hreader, hreader', h.dagReader]

theorem Alike.withLedger {l l' : TransferLedger} (hl : l.Alike id l') : Alike id (a.withLedger l) (b.withLedger l') :=
  ⟨hl, h.escrows, h.dagReader, h.escrowWired, h.staking, h.stakes, h.fees, h.treasuryID, h.applied⟩

theorem Alike.run (haction : action ∈ besideLedger) :
    Alike id (action.run env sp target a).2 (action.run env' sp target b).2 := by
  simp only [besideLedger, List.mem_cons, List.not_mem_nil, or_false] at haction
  obtain rfl | rfl | rfl | rfl | rfl := haction
  · rw [bookkeepTransfer_eq, bookkeepTransfer_eq, h.escrowWired]
    cases bookkeeping a.escrowWired sp target with
    | register taskID poster amount => exact h.registerEscrow taskID poster amount _
    | stake agentID amount =>
      refine h.withStakes fun sm sm' hsame agent => ?_
      rw [stakedAmount_recordCanonicalStake, stakedAmount_recordCanonicalStake, hsame]
    | unstake agentID amount =>
      refine h.withStakes fun sm sm' hsame agent => ?_
      rw [stakedAmount_recordCanonicalUnstake, stakedAmount_recordCanonicalUnstake, hsame,
        hsame]
    | nothing => exact h
  · exact h
  · obtain ⟨f, hf, hrun⟩ := exists_trackFee sp target
    rw [hrun, hrun]
    exact h.withFees hf
  · simp only [Action.run]
    split_ifs
    · exact h.withStakes fun sm sm' hsame agent => hsame agent
    · exact h
  · refine ⟨h.ledger, h.escrows, h.dagReader, h.escrowWired, h.staking, h.stakes, h.fees, h.treasuryID, ?_⟩
    exact congrArg (insert sp.targetEventID) h.applied

theorem Alike.feeDue_eq : b.feeDue sp target = a.feeDue sp target := by
  simp [feeDue, h.fees, h.treasuryID]

end

/-- Whether a fee that is due is paid in both or in neither. -/
def PaysAlike (sp : SettlementPayload) (target : Event) (a b : Applicator) : Prop :=
  ∀ fromID amount, a.feeDue sp target = some (fromID, amount) → fromID ≠ a.treasuryID →
    (b.transfer.PaysNext fromID a.treasuryID amount ↔ a.transfer.PaysNext fromID a.treasuryID amount)

theorem PaysAlike.run_iff (haction : action ∈ besideLedger) :
    PaysAlike sp target (action.run env sp target a).2 (action.run env' sp target b).2 ↔ PaysAlike sp target a b := by
  simp [PaysAlike, feeDue, transfer_run haction]

theorem Alike.payFee (h : a.Alike id b) (env env' : ApplyEnv) (hmem : id ∈ a.transfer.entries)
    (hpays : PaysAlike sp target a b) :
    Alike id (Action.payFee.run env sp target a).2 (Action.payFee.run env' sp target b).2 := by
  rw [payFee_eq, payFee_eq, h.feeDue_eq]
  cases hdue : a.feeDue sp target with
  | none => exact h
  | some due =>
    obtain ⟨fromID, amount⟩ := due
    simp only [h.treasuryID]
    exact h.withLedger (h.ledger.transferFromBucketLabeled _ _ _ hmem _ (hpays fromID amount hdue))

theorem amount_of_feeDue {fromID : ledger.AgentID} {amount : UInt64}
    (hdue : a.feeDue sp target = some (fromID, amount)) :
    amount ≠ 0 := by
  simp only [feeDue, Option.bind_eq_bind, Option.bind_eq_some_iff] at hdue
  obtain ⟨tp, -, fee, -, hdue⟩ := hdue
  split_ifs at hdue with hnone
  cases hdue
  exact fun hzero => hnone (.inl hzero)

theorem Alike.paysAlike (h : a.Alike id b) (env env' : ApplyEnv)
    (hbalances : ∀ agentID, (Action.payFee.run env' sp target b).2.transfer.balanceLocked agentID =
      (Action.payFee.run env sp target a).2.transfer.balanceLocked agentID) : PaysAlike sp target a b := by
  intro fromID amount hdue hother
  have hamount := amount_of_feeDue hdue
  have hbalance := hbalances fromID
  rw [payFee_eq, payFee_eq, h.feeDue_eq, hdue] at hbalance
  simp only [h.treasuryID] at hbalance
  refine not_iff_not.mp ?_
  rw [← balanceLocked_transferFromBucketLabeled (env'.amb b.transfer.bucketCounter)
      "fee-distribution:treasury-share" false hamount hother,
    ← balanceLocked_transferFromBucketLabeled (env.amb a.transfer.bucketCounter)
      "fee-distribution:treasury-share" false hamount hother, ← h.ledger.balanceLocked_eq fromID]
  exact Eq.congr_left hbalance

end Actions

end Applicator

end aethernet.settlement
