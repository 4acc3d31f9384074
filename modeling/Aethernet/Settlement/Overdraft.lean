import Aethernet.Escrow.Release
import Aethernet.Ledger.Solvency
import Aethernet.Ocs.Engine
import Aethernet.Settlement.Applicator

open golang aethernet event ledger escrow ocs TransferLedger settlement.Applicator

def aethernet.ledger.TransferLedger.BucketStable (P : TransferLedger → Prop) : Prop :=
  ∀ amb fromID toID amount memo isGenesis l,
    P l → P (transferFromBucketLabeled amb fromID toID amount memo isGenesis l).2

namespace aethernet.escrow.Escrow

variable {P : TransferLedger → Prop}

theorem pay_keeps (hP : BucketStable P) (amb : UInt64 → Ambient) (taskID : String)
    (toID : ledger.AgentID) (amount : UInt64) (memo context : String) :
    (pay amb taskID toID amount memo context).Keeps fun e => P e.ledger := by
  intro e he
  have htransfer := hP (amb e.ledger.bucketCounter) (bucketID taskID) toID amount memo false e.ledger he
  unfold pay
  split <;> rename_i heq <;> rwa [heq] at htransfer

theorem payNet_keeps (hP : BucketStable P) (amb : UInt64 → Ambient) (taskID : String)
    (skip : EscrowEntry → Bool) (mark : EscrowEntry → EscrowEntry) (toID : ledger.AgentID) (amount : UInt64)
    (memo context : String) :
    (payNet amb taskID skip mark toID amount memo context).Keeps fun e => P e.ledger := by
  refine Method.Keeps.bind (Method.Keeps.read _) fun skipped => ?_
  split
  · exact Method.Keeps.pure ()
  · refine Method.Keeps.bind (pay_keeps hP amb taskID toID amount memo context) fun _ => Method.Keeps.write ?_
    intro e he
    rwa [updateEntry_ledger]

theorem releaseNet_keeps (hP : BucketStable P) (amb : UInt64 → Ambient) (taskID : String)
    (claimerID : ledger.AgentID) (netAmount : UInt64) (validatorID : ledger.AgentID) (validatorAmount : UInt64)
    (treasuryID : ledger.AgentID) (treasuryAmount : UInt64) :
    (releaseNet amb taskID claimerID netAmount validatorID validatorAmount treasuryID treasuryAmount).Keeps
      fun e => P e.ledger := by
  refine Method.Keeps.bind (Method.Keeps.read _) fun locked => ?_
  split
  · exact Method.Keeps.fail _
  · exact Method.Keeps.bind (payNet_keeps hP _ _ _ _ _ _ _ _) fun _ =>
      Method.Keeps.bind (payNet_keeps hP _ _ _ _ _ _ _ _) fun _ =>
      Method.Keeps.bind (payNet_keeps hP _ _ _ _ _ _ _ _) fun _ => Method.Keeps.write fun _ he => he

theorem registerEscrow_keeps (taskID : String) (poster : ledger.AgentID) (amount : UInt64)
    (fundingTransferRef : EventID) :
    (registerEscrow taskID poster amount fundingTransferRef).Keeps fun e => P e.ledger := by
  intro e he
  by_cases hlocked : taskID ∈ e.entries
  · simp only [registerEscrow, if_pos hlocked]
    exact he
  · obtain ⟨_, hcall⟩ | ⟨_, -, hcall⟩ := registerEscrow_cases taskID poster amount fundingTransferRef hlocked
    all_goals
      simp only [hcall]
      exact he

end aethernet.escrow.Escrow

namespace aethernet.settlement

namespace Applicator

variable {P : TransferLedger → Prop}

theorem onEscrow_keeps {x : Method Escrow Unit} (hx : x.Keeps fun e => P e.ledger) :
    (onEscrow x).Keeps fun a => P a.transfer :=
  Method.Keeps.zoom (fun _ _ => rfl) hx

theorem onTransfer_meets {x : Method TransferLedger Unit} {E : TransferLedger → Prop}
    {Q : Unit → TransferLedger → Prop} (hx : x.Meets P Q E) :
    (onTransfer x).Meets (fun a => P a.transfer) (fun r a => Q r a.transfer) fun a => E a.transfer := by
  unfold onTransfer onEscrow
  exact Method.Meets.zoom escrowMgr (fun _ _ => rfl) (Method.Meets.zoom Escrow.ledger (fun _ _ => rfl) hx)

end Applicator

namespace Action

variable {P : TransferLedger → Prop}

theorem run_keeps (hP : BucketStable P) (env : ApplyEnv) (sp : SettlementPayload) (target : Event)
    {action : Action} (hrecord : action ≠ recordTransfer) (hsettle : action ≠ settleTransfer) :
    (action.run env sp target).Keeps fun a => P a.transfer := by
  have hframe : action.Frame fun a => P a.transfer :=
    { transfer := fun haction => (haction.elim hrecord hsettle).elim
      generation := fun _ _ _ ha => ha
      register := fun _ _ _ _ => onEscrow_keeps (Escrow.registerEscrow_keeps _ _ _ _)
      release := fun _ _ _ _ _ _ _ _ _ => onEscrow_keeps (Escrow.releaseNet_keeps hP _ _ _ _ _ _ _ _)
      pay := fun _ _ _ _ _ _ _ _ ha => hP _ _ _ _ _ _ _ ha
      stakes := fun _ _ ha => ha
      fees := fun _ _ ha => ha
      mark := fun _ _ _ ha => ha }
  exact hframe.run env target sp

end Action

/-- The engine and the applicator of a node, which share the transfer ledger. -/
structure SettlingNode where
  engine : Engine
  applicator : Applicator

variable (n : SettlingNode) (sha256 : String → List UInt8)

namespace SettlingNode

/-- A call with its arguments and what it finds around it. -/
inductive Call where
  | submit (ev : Event)
  | submitFromSync (ev : Event)
  | apply (env : ApplyEnv) (sp : SettlementPayload)
  | fundAgent (amb : Ambient) (agentID : ledger.AgentID) (amount : UInt64)
  | transferFromBucketLabeled (amb : Ambient) (fromID toID : ledger.AgentID) (amount : UInt64) (memo : String)
      (isGenesis : Bool)

def transfer : TransferLedger := n.applicator.transfer

def onApplicator (x : Method Applicator Unit) (n : SettlingNode) : SettlingNode :=
  { n with applicator := (x n.applicator).2 }

def step (n : SettlingNode) : Call → SettlingNode
  | .submit ev => { n with engine := (n.engine.submit n.transfer ev).2 }
  | .submitFromSync ev => { n with engine := (n.engine.submitFromSync ev).2 }
  | .apply env sp => n.onApplicator (apply env sp)
  | .fundAgent amb agentID amount =>
    n.onApplicator (onTransfer fun l => l.fundAgent sha256 amb agentID amount)
  | .transferFromBucketLabeled amb fromID toID amount memo isGenesis =>
    n.onApplicator (onTransfer fun l =>
      l.transferFromBucketLabeled amb fromID toID amount memo isGenesis)

/-- The settlement of a transfer takes from no agent more than its balance: a new transfer that is accepted
    takes from its sender, a settled one that is taken back from its recipient. -/
def Affordable (l : TransferLedger) (sp : SettlementPayload) (target : Event) (p : TransferPayload) : Prop :=
  match l.entries.lookup target.id with
  | none => sp.verdict = verdictAccepted → target.settlementState ∈ [.settled, .optimistic] →
      p.amount ≤ l.balanceLocked p.fromAgent
  | some entry => sp.verdict ≠ verdictAccepted → entry.settlement = .settled →
      entry.amount ≤ l.balanceLocked entry.toAgent

/-- When a call keeps the ledger solvent. -/
def Covered : Call → Prop
  | .apply env sp => ∀ target p, sp.targetEventID ∉ n.applicator.applied →
      env.lookup.get sp.targetEventID = .ok target → target.type = .transfer → target.transferPayload = .ok p →
      Affordable n.transfer sp target p
  | .fundAgent _ _ amount => n.transfer.totalMinted.toNat + amount.toNat < 2 ^ 63
  | _ => True

theorem applyToTarget_keeps {P : TransferLedger → Prop} (hP : BucketStable P) (env : ApplyEnv)
    (sp : SettlementPayload) (target : Event) (htype : target.type ≠ .transfer) :
    (applyToTarget env sp target).Keeps fun a => P a.transfer := by
  refine Method.Keeps.loop fun action haction => Action.run_keeps hP env sp target ?_ ?_ <;>
    rintro rfl <;> simp only [Action.ofType] at haction <;> split at haction <;> simp_all

theorem applyToTarget_solvent {env : ApplyEnv} {sp : SettlementPayload} {target : Event} {a : Applicator}
    (hid : target.id = sp.targetEventID) (htype : target.type = .transfer) (h : a.transfer.Solvent)
    (haffordable : ∀ p, target.transferPayload = .ok p → Affordable a.transfer sp target p) :
    (applyToTarget env sp target a).2.transfer.Solvent := by
  have hrecord : Method.Meets (· = a.transfer) (fun l => l.recordFromSync env.recordAmb target)
      (fun _ l => l = (a.transfer.recordFromSync env.recordAmb target).2 ∧ ∃ p, target.transferPayload = .ok p)
      Solvent := by
    refine Method.Meets.intro ?_ ?_
    · rintro _ rfl _ l' hcall
      exact ⟨(congrArg Prod.snd hcall).symm,
        payload_of_recordFromSync (congrArg Prod.fst hcall)⟩
    · rintro _ rfl err l' hcall
      replace hcall : a.transfer.recordFromSync env.recordAmb target = (.error err, l') := hcall
      obtain hsame | ⟨p, -, hok, -⟩ := recordFromSync_cases env.recordAmb target a.transfer
      · rw [hcall] at hsame
        obtain rfl : l' = a.transfer := hsame
        exact h
      · rw [hcall] at hok
        cases hok
  have hsettle : Method.Meets
      (fun l => l = (a.transfer.recordFromSync env.recordAmb target).2 ∧ ∃ p, target.transferPayload = .ok p)
      (fun l => l.settle env.settleAmb sp.targetEventID sp.settleState) (fun _ => Solvent)
      Solvent := by
    refine Method.Meets.of_snd ?_
    rintro _ ⟨rfl, p, hp⟩
    have hcovered := haffordable p hp
    rw [Affordable] at hcovered
    rw [← hid]
    refine h.recordFromSync_settle _ _ _ ?_ (fun p' hp' hnew hstate hreserves => ?_)
      fun entry hlookup hstate hsettled => ?_
    · unfold SettlementPayload.settleState
      split <;> simp
    · obtain rfl : p = p' := Except.ok.inj (hp.symm.trans hp')
      rw [Finmap.lookup_eq_none.mpr hnew] at hcovered
      exact hcovered (by simpa [SettlementPayload.settleState] using hstate) (by simpa using hreserves)
    · rw [hlookup] at hcovered
      exact hcovered (by simpa [SettlementPayload.settleState] using hstate) hsettled
  rw [applyToTarget, htype]
  refine Method.Meets.holds ((onTransfer_meets hrecord).wrapError.bind fun _ =>
    (onTransfer_meets hsettle).bind fun _ => ?_) rfl
  refine (Method.Keeps.loop fun action haction => Action.run_keeps ?_ env sp target ?_ ?_).meets
  · exact fun _ _ _ _ _ _ _ hl => hl.transferFromBucketLabeled ..
  all_goals
    rintro rfl
    simp at haction

theorem solvent_apply {n : SettlingNode} (h : n.transfer.Solvent) (env : ApplyEnv) (sp : SettlementPayload)
    (hcovered : n.Covered (.apply env sp)) : (n.onApplicator (apply env sp)).transfer.Solvent := by
  change (apply env sp n.applicator).2.transfer.Solvent
  unfold apply
  by_cases happlied : sp.targetEventID ∈ n.applicator.applied
  · rw [if_pos happlied]
    exact h
  · rw [if_neg happlied]
    cases hget : env.lookup.get sp.targetEventID with
    | error err =>
      dsimp only [deferTarget]
      split <;> exact h
    | ok target =>
      by_cases htype : target.type = .transfer
      · exact applyToTarget_solvent (env.lookup.id_eq _ _ hget) htype h fun p hp =>
          hcovered target p happlied hget htype hp
      · exact applyToTarget_keeps (fun _ _ _ _ _ _ _ hl => hl.transferFromBucketLabeled ..) env sp target htype _ h

theorem solvent_step {n : SettlingNode} {call : Call} (h : n.transfer.Solvent) (hcovered : n.Covered call) :
    (n.step sha256 call).transfer.Solvent := by
  cases call with
  | submit ev => exact h
  | submitFromSync ev => exact h
  | apply env sp => exact solvent_apply h env sp hcovered
  | fundAgent amb agentID amount => exact h.fundAgent sha256 amb agentID amount hcovered
  | transferFromBucketLabeled amb fromID toID amount memo isGenesis =>
    exact h.transferFromBucketLabeled amb fromID toID amount memo isGenesis

/-- In every run from an empty ledger whose calls are covered, nobody but the genesis source has settled and
    optimistic outflows above its settled inflows, and the balances sum to no more than was minted. -/
theorem no_overdraft (n : SettlingNode) (store : Option TransferStore) (mintCap bucketCounter : UInt64)
    (hempty : n.transfer = initial store mintCap bucketCounter) (calls : List Call)
    (hcovered : transition.MeetsAlong (step sha256) Covered n calls) : let l := (calls.foldl (step sha256) n).transfer
    (∀ a, a ≠ "system" → l.entries.sumBy (reservedDebit a) ≤
      l.archivedNet a + l.entries.sumBy (settledCredit a)) ∧
    ∀ S : Finset ledger.AgentID, ∑ a ∈ S, (l.balanceLocked a).toNat ≤ l.totalMinted.toNat := by
  have hinit : n.transfer.Solvent := by
    rw [hempty]
    exact .initial store mintCap bucketCounter
  have hrun := transition.invariant_of_meetsAlong (P := fun n => n.transfer.Solvent) hinit
    (fun _ _ h hc => solvent_step sha256 h hc) hcovered
  refine ⟨fun a ha => ?_, hrun.sum_balanceLocked_le⟩
  have hspendable := hrun.covered a ha
  rw [spendable_eq] at hspendable
  exact sub_nonneg.mp hspendable

section Sample

/-- A node with an empty ledger. -/
def emptyNode : SettlingNode where
  engine := { config := { maxPendingItems := 10, minStakeRequired := 0 } }
  applicator := { escrowMgr := { ledger := initial none 0 0 } }

def twoSpends : List Event := [transferEvent "e1" "alice" "bob" "100", transferEvent "e2" "alice" "carol" "100"]

/-- Fund an agent, submit both of its transfers and settle the ones with these IDs. -/
def spendCalls (settled : List EventID) : List Call :=
  .fundAgent { now := 0 } "alice" 100 :: twoSpends.map .submit ++
    settled.map fun id => .apply (sampleApplyEnv twoSpends) (accepted id)

theorem no_overdraft_of_oneSpend :
    let l := ((spendCalls ["e1"]).foldl (step fun _ => [0xa5]) emptyNode).transfer
    l.entries.sumBy (reservedDebit "alice") ≤
        l.archivedNet "alice" + l.entries.sumBy (settledCredit "alice") ∧
      ∑ a ∈ {"alice", "bob", "carol"}, (l.balanceLocked a).toNat ≤ l.totalMinted.toNat := by
  have hrun := no_overdraft (fun _ => [0xa5]) emptyNode none 0 0 rfl (spendCalls ["e1"])
    ⟨?_, trivial, trivial, ?_, trivial⟩
  · exact ⟨hrun.1 "alice" (by decide), hrun.2 _⟩
  · change (0 : UInt64).toNat + (100 : UInt64).toNat < 2 ^ 63
    decide
  · intro target p _ hget _ hp
    obtain rfl : transferEvent "e1" "alice" "bob" "100" = target := Except.ok.inj hget
    have hamount : (transferEvent "e1" "alice" "bob" "100").transferPayload =
        .ok { fromAgent := "alice", toAgent := "bob", amount := 100 } := by rfl
    obtain rfl := Except.ok.inj (hamount.symm.trans hp)
    have hnew : (((spendCalls []).foldl (step fun _ => [0xa5]) emptyNode).transfer).entries.lookup "e1" = none := by
      decide +kernel
    have hholds : 100 ≤ ((spendCalls []).foldl (step fun _ => [0xa5]) emptyNode).transfer.balanceLocked "alice" := by
      decide +kernel
    change Affordable ((spendCalls []).foldl (step fun _ => [0xa5]) emptyNode).transfer _ _ _
    exact fun _ _ => hholds

/-- Both submissions pass the balance check, since neither is recorded yet, and both settlements are applied. -/
theorem overdraft_of_twoSpends :
    let calls := spendCalls ["e1", "e2"]
    let l := (calls.foldl (step fun _ => [0xa5]) emptyNode).transfer
    "e1" ∈ (calls.foldl (step fun _ => [0xa5]) emptyNode).engine.pending ∧
      "e2" ∈ (calls.foldl (step fun _ => [0xa5]) emptyNode).engine.pending ∧
      l.archivedNet "alice" + l.entries.sumBy (settledCredit "alice") = 100 ∧
      l.entries.sumBy (reservedDebit "alice") = 200 ∧
      l.totalMinted = 100 ∧ l.balanceLocked "bob" = 100 ∧ l.balanceLocked "carol" = 100 := by
  decide +kernel

end Sample

end SettlingNode

end aethernet.settlement
