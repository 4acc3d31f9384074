import Aethernet.Ledger.Buckets
import Aethernet.Golang.Sort
import Aethernet.Transition.Invariant

open golang aethernet.event Finmap

namespace aethernet.ledger

/-- The total minted the metadata records, as `LoadTransferLedgerFromStore` reads it. -/
def TransferStore.minted (s : TransferStore) : UInt64 :=
  match s.metadata.lookup mintedMetaKey with
  | some data => if data.length = 8 then uint64 data else 0
  | none => 0

/-- `LoadTransferLedgerFromStore` in a new process, whose bucket counter starts at zero. The store lists its
    transfers in this order. -/
def loadTransferLedgerFromStore (order : RangeOrder EventID TransferEntry) (s : TransferStore) : TransferLedger where
  entries := ofInserts ((order.visit s.transfers).map fun p => (p.2.eventID, p.2))
  store := some s
  totalMinted := s.minted

/-- A call on the ledger, or a restart of its process, after which the mint cap is set. -/
inductive ProcessOp where
  | call (op : Op)
  | restart (order : RangeOrder EventID TransferEntry) (mintCap : UInt64)

/-- No store write fails. -/
def Ambient.Succeeds (amb : Ambient) : Prop :=
  amb.putTransferErr = none ∧ amb.putMetaErr = none ∧ ∀ id, amb.deleteTransferErr id = none

def Op.Succeeds : Op → Prop
  | .record amb _ | .recordFromSync amb _ | .settle amb _ _ | .fundAgent amb _ _
  | .transferFromBucketLabeled amb _ _ _ _ _ | .resetOptimisticOutflows amb _ => amb.Succeeds
  | .evictBefore _ => True

def ProcessOp.Succeeds : ProcessOp → Prop
  | .call op => op.Succeeds
  | .restart _ _ => True

namespace TransferLedger

def processStep (sha256 : String → List UInt8) (l : TransferLedger) : ProcessOp → TransferLedger
  | .call op => l.step sha256 op
  | .restart order mintCap => { loadTransferLedgerFromStore order (l.store.getD {}) with mintCap }

/-- The transfers in the store. -/
def stored (l : TransferLedger) : Map EventID TransferEntry := (l.store.getD {}).transfers

/-- The store mirrors the ledger: it has all entries in memory, the nets of its entries are those of the ledger, the
    archive included, and so is the total minted. -/
structure Mirrored (l : TransferLedger) : Prop where
  store : l.store ≠ none
  keyed : ∀ id e, l.stored.lookup id = some e → e.eventID = id
  memory : ∀ id e, l.entries.lookup id = some e → l.stored.lookup id = some e
  net : ∀ a, l.net a = l.stored.sumBy (entryNet a)
  minted : (l.store.getD {}).minted = l.totalMinted

section Mirrored

variable {l l' : TransferLedger} {e : TransferEntry} {id : EventID}

theorem Mirrored.initial (mintCap bucketCounter : UInt64) : (initial (some {}) mintCap bucketCounter).Mirrored where
  store := Option.some_ne_none _
  keyed id e h := by simp [stored, TransferLedger.initial] at h
  memory id e h := by simp [TransferLedger.initial] at h
  net a := by
    rw [net_eq_sumBy]
    rfl
  minted := rfl

section Writes

variable {amb : Ambient}

theorem stored_putTransfer (hamb : amb.Succeeds) (hstore : l.store ≠ none) (e : TransferEntry) :
    (l.putTransfer amb e).stored = l.stored.insert e.eventID e ∧ (l.putTransfer amb e).store ≠ none ∧
      ((l.putTransfer amb e).store.getD {}).minted = (l.store.getD {}).minted := by
  obtain ⟨s, hs⟩ := Option.ne_none_iff_exists'.mp hstore
  simp only [putTransfer, hamb.1, stored, hs, Option.map_some, Option.getD_some]
  exact ⟨trivial, Option.some_ne_none _, rfl⟩

theorem stored_putMinted (hamb : amb.Succeeds) (hstore : l.store ≠ none) (minted : UInt64) :
    (l.putMinted amb minted).stored = l.stored ∧ (l.putMinted amb minted).store ≠ none ∧
      ((l.putMinted amb minted).store.getD {}).minted = minted := by
  obtain ⟨s, hs⟩ := Option.ne_none_iff_exists'.mp hstore
  simp only [putMinted, hamb.2.1, stored, hs, Option.map_some, Option.getD_some, TransferStore.minted,
    lookup_insert]
  exact ⟨trivial, Option.some_ne_none _, (if_pos rfl).trans (uint64_putUint64 minted)⟩

theorem stored_deleteTransfer (hamb : amb.Succeeds) (hstore : l.store ≠ none) (id : EventID) :
    (l.deleteTransfer amb id).stored = l.stored.erase id ∧ (l.deleteTransfer amb id).store ≠ none ∧
      ((l.deleteTransfer amb id).store.getD {}).minted = (l.store.getD {}).minted := by
  obtain ⟨s, hs⟩ := Option.ne_none_iff_exists'.mp hstore
  simp only [deleteTransfer, hamb.2.2, stored, hs, Option.map_some, Option.getD_some]
  exact ⟨trivial, Option.some_ne_none _, rfl⟩

end Writes

theorem Mirrored.adds (h : l.Mirrored) (hadds : Adds l l' e) (hfresh : e.eventID ∉ l.stored)
    (hstored : l'.stored = l.stored.insert e.eventID e) (hstore : l'.store ≠ none)
    (hminted : (l'.store.getD {}).minted = l'.totalMinted) : l'.Mirrored where
  store := hstore
  keyed id x hx := by
    rw [hstored, lookup_insert_eq] at hx
    split_ifs at hx with hid
    · cases hx
      exact hid.symm
    · exact h.keyed id x hx
  memory id x hx := by
    rw [hadds.entries, lookup_insert_eq] at hx
    rw [hstored, lookup_insert_eq]
    split_ifs at hx ⊢ with hid
    · exact hx
    · exact h.memory id x hx
  net a := by
    have hbefore := h.net a
    rw [net_eq_sumBy] at hbefore
    rw [net_eq_sumBy, hadds.archived, hadds.entries, hstored, sumBy_insert_of_notMem _ e hadds.fresh,
      sumBy_insert_of_notMem _ e hfresh, ← hbefore]
    abel
  minted := hminted

theorem Mirrored.restates (h : l.Mirrored) {state : SettlementState} (hrestates : Restates l l' id e state)
    (hstored : l'.stored = l.stored.insert id { e with settlement := state }) (hstore : l'.store ≠ none)
    (hminted : (l'.store.getD {}).minted = l'.totalMinted) : l'.Mirrored where
  store := hstore
  keyed id' x hx := by
    rw [hstored, lookup_insert_eq] at hx
    split_ifs at hx with hid
    · cases hx
      rw [hid]
      exact h.keyed id e (h.memory id e hrestates.lookup)
    · exact h.keyed id' x hx
  memory id' x hx := by
    rw [hrestates.entries, lookup_insert_eq] at hx
    rw [hstored, lookup_insert_eq]
    split_ifs at hx ⊢ with hid
    · exact hx
    · exact h.memory id' x hx
  net a := by
    have hbefore := h.net a
    have hentries := sumBy_replace (entryNet a) { e with settlement := state } hrestates.lookup
    have hstored' := sumBy_replace (entryNet a) { e with settlement := state }
      (h.memory id e hrestates.lookup)
    rw [net_eq_sumBy] at hbefore
    rw [← hbefore, add_left_comm, ← hentries, add_left_comm, add_right_inj] at hstored'
    rw [net_eq_sumBy, hrestates.archived, hrestates.entries, hstored, ← hstored']
  minted := hminted

theorem Mirrored.withdraws (h : l.Mirrored) (hwithdraws : Withdraws l l' id e)
    (hstored : l'.stored = l.stored.erase id) (hstore : l'.store ≠ none)
    (hminted : (l'.store.getD {}).minted = l'.totalMinted) : l'.Mirrored where
  store := hstore
  keyed id' x hx := by
    rw [hstored, lookup_erase_eq] at hx
    split_ifs at hx
    exact h.keyed id' x hx
  memory id' x hx := by
    rw [hwithdraws.entries, lookup_erase_eq] at hx
    rw [hstored, lookup_erase_eq]
    split_ifs at hx ⊢
    exact h.memory id' x hx
  net a := by
    have hbefore := h.net a
    rw [net_eq_sumBy, ← add_sumBy_erase (entryNet a) hwithdraws.lookup,
      ← add_sumBy_erase (entryNet a) (h.memory id e hwithdraws.lookup), add_left_comm, add_right_inj] at hbefore
    rw [net_eq_sumBy, hwithdraws.archived, hwithdraws.entries, hstored, hbefore]
  minted := hminted

theorem Mirrored.archives (h : l.Mirrored) (harchives : Archives l l' id e)
    (hstore : l'.store = l.store) (hminted : l'.totalMinted = l.totalMinted) : l'.Mirrored where
  store := hstore ▸ h.store
  keyed id' x hx := h.keyed id' x (by rwa [stored, hstore] at hx)
  memory id' x hx := by
    rw [harchives.entries, lookup_erase_eq] at hx
    split_ifs at hx
    rw [stored, hstore]
    exact h.memory id' x hx
  net a := by
    rw [harchives.net_eq a, h.net a, stored, stored, hstore]
  minted := by rw [hstore, hminted, h.minted]

theorem Mirrored.same (h : l.Mirrored) (hbooks : SameBooks l l') (hstore : l'.store = l.store)
    (hminted : l'.totalMinted = l.totalMinted) : l'.Mirrored where
  store := hstore ▸ h.store
  keyed := by
    rw [stored, hstore]
    exact h.keyed
  memory := by
    rw [hbooks.entries, stored, hstore]
    exact h.memory
  net a := by
    rw [net_eq_sumBy, hbooks.archived, hbooks.entries, ← net_eq_sumBy, h.net a, stored, stored, hstore]
  minted := by rw [hstore, hminted, h.minted]

end Mirrored

/-- No call makes an entry under an ID that the store has and the memory has not. -/
def Fresh (sha256 : String → List UInt8) (l : TransferLedger) : Op → Prop
  | .record _ e | .recordFromSync _ e => e.id ∈ l.stored → e.id ∈ l.entries
  | .fundAgent _ agentID amount =>
    genesisEventID sha256 agentID amount ∈ l.stored → genesisEventID sha256 agentID amount ∈ l.entries
  | .transferFromBucketLabeled _ fromID toID amount _ _ =>
    amount ≤ l.balanceLocked fromID → bucketEventID fromID toID amount (l.bucketCounter + 1) ∉ l.stored
  | _ => True

section Step

variable {sha256 : String → List UInt8} {l : TransferLedger} {amb : Ambient}

variable (h : l.Mirrored)

include h

section

variable (hamb : amb.Succeeds)

include hamb

theorem Mirrored.enter {e : TransferEntry} (hnew : e.eventID ∉ l.entries)
    (hfresh : e.eventID ∉ l.stored) : ((l.setEntry e).putTransfer amb e).Mirrored := by
  obtain ⟨hstored, hstore, hminted⟩ := stored_putTransfer (l := l.setEntry e) hamb h.store e
  refine h.adds (adds_setEntry amb e l hnew) hfresh hstored hstore ?_
  rw [hminted, putTransfer_totalMinted]
  exact h.minted

theorem Mirrored.record {e : Event} (hfresh : l.Fresh sha256 (.record amb e)) : (l.record amb e).2.Mirrored := by
  obtain ⟨err, herr⟩ | ⟨p, -, hnew, hcall, -⟩ := record_writes amb e l
  · rw [herr]
    exact h
  · rw [hcall]
    exact h.enter hamb hnew fun hstored => hnew (hfresh hstored)

theorem Mirrored.recordFromSync {e : Event}
    (hfresh : l.Fresh sha256 (.recordFromSync amb e)) : (l.recordFromSync amb e).2.Mirrored := by
  obtain hsame | ⟨p, -, hnew, hcall⟩ := recordFromSync_writes amb e l
  · rw [hsame]
    exact h
  · rw [hcall]
    exact h.enter hamb hnew fun hstored => hnew (hfresh hstored)

theorem Mirrored.settle (eventID : EventID) (state : SettlementState) : (l.settle amb eventID state).2.Mirrored := by
  obtain ⟨err, herr⟩ | ⟨e, allowed, hlookup, hallowed, hmem, hcall⟩ := settle_writes amb eventID state l
  · rw [herr]
    exact h
  · rw [hcall]
    have hid : e.eventID = eventID := h.keyed eventID e (h.memory eventID e hlookup)
    obtain ⟨hstored, hstore, hminted⟩ := stored_putTransfer
      (l := { l with entries := l.entries.insert eventID { e with settlement := state } }) hamb h.store
      { e with settlement := state }
    have hrestates : Restates l (putTransfer amb { e with settlement := state }
        { l with entries := l.entries.insert eventID { e with settlement := state } }) eventID e state :=
      ⟨hlookup, ⟨allowed, hallowed, hmem⟩, by simp, by simp⟩
    refine h.restates hrestates ?_ hstore ?_
    · exact hstored.trans (congrArg (fun id => insert id { e with settlement := state } l.stored) hid)
    · rw [hminted, putTransfer_totalMinted]
      exact h.minted

theorem Mirrored.fundAgent {agentID : AgentID} {amount : UInt64}
    (hfresh : l.Fresh sha256 (.fundAgent amb agentID amount)) : (l.fundAgent sha256 amb agentID amount).2.Mirrored := by
  obtain ⟨err, herr⟩ | ⟨entry, hentry, hnew, -, hcall⟩ := fundAgent_writes sha256 amb agentID amount l
  · rw [herr]
    exact h
  · rw [hcall]
    have hid : entry.eventID = genesisEventID sha256 agentID amount := by rw [hentry]; rfl
    obtain ⟨hput, hstore, -⟩ := stored_putTransfer hamb h.store entry
    obtain ⟨hstored, hstore, hminted⟩ := stored_putMinted hamb hstore (l.totalMinted + amount)
    refine h.adds (e := entry) ⟨hnew, by simp [setEntry], by simp [setEntry]⟩
      (fun hmem => hnew (hid ▸ hfresh (hid ▸ hmem))) ?_ hstore hminted
    exact hstored.trans hput

theorem Mirrored.transferFromBucketLabeled {fromID toID : AgentID} {amount : UInt64} {memo : String} {isGenesis : Bool}
    (hfresh : l.Fresh sha256 (.transferFromBucketLabeled amb fromID toID amount memo isGenesis)) :
    (l.transferFromBucketLabeled amb fromID toID amount memo isGenesis).2.Mirrored := by
  obtain ⟨err, n, hcall⟩ | ⟨entry, hentry, hnew, hholds, hcall⟩ :=
    transferFromBucketLabeled_writes amb fromID toID amount memo isGenesis l
  · rw [hcall]
    exact h.same ⟨rfl, rfl⟩ rfl rfl
  · rw [hcall]
    have hid : entry.eventID = bucketEventID fromID toID amount (l.bucketCounter + 1) := by rw [hentry]; rfl
    have hcounted : Mirrored { l with bucketCounter := l.bucketCounter + 1 } := h.same ⟨rfl, rfl⟩ rfl rfl
    exact hcounted.enter hamb hnew (hid ▸ hfresh hholds)

theorem Mirrored.resetOptimisticOutflows (agentID : AgentID) : (l.resetOptimisticOutflows amb agentID).2.Mirrored := by
  refine resetOptimisticOutflows_rule amb agentID h fun l id e hstep hmirrored => ?_
  obtain ⟨hstored, hstore, hminted⟩ := stored_deleteTransfer (l := l.deleteEntry id) hamb hmirrored.store id
  refine hmirrored.withdraws hstep hstored hstore ?_
  have htotal : ((l.deleteEntry id).deleteTransfer amb id).totalMinted = l.totalMinted := by
    unfold deleteTransfer
    split <;> rfl
  rw [hminted, htotal]
  exact hmirrored.minted

end

theorem Mirrored.evictBefore (cutoff : Time) : (l.evictBefore cutoff).2.Mirrored :=
  evictBefore_rule h fun _ _ _ hstep hmirrored => hmirrored.archives hstep rfl rfl

theorem Mirrored.step {op : Op} (hsucceeds : op.Succeeds) (hfresh : l.Fresh sha256 op) :
    (l.step sha256 op).Mirrored := by
  cases op with
  | record amb e => exact h.record hsucceeds hfresh
  | recordFromSync amb e => exact h.recordFromSync hsucceeds hfresh
  | settle amb eventID state => exact h.settle hsucceeds eventID state
  | fundAgent amb agentID amount => exact h.fundAgent hsucceeds hfresh
  | transferFromBucketLabeled amb fromID toID amount memo isGenesis =>
    exact h.transferFromBucketLabeled hsucceeds hfresh
  | resetOptimisticOutflows amb agentID => exact h.resetOptimisticOutflows hsucceeds agentID
  | evictBefore cutoff => exact h.evictBefore cutoff

theorem Mirrored.entries_restart (order : RangeOrder EventID TransferEntry) :
    (loadTransferLedgerFromStore order (l.store.getD {})).entries = l.stored :=
  order.ofInserts_visit_of_keyed l.stored h.keyed

theorem Mirrored.net_restart (order : RangeOrder EventID TransferEntry) (mintCap : UInt64) (a : AgentID) :
    TransferLedger.net { loadTransferLedgerFromStore order (l.store.getD {}) with mintCap } a = l.net a := by
  rw [net_eq_sumBy, h.entries_restart order, h.net]
  exact zero_add _

theorem Mirrored.restart (order : RangeOrder EventID TransferEntry) (mintCap : UInt64) :
    let l' := l.processStep sha256 (.restart order mintCap)
    l'.Mirrored ∧ (∀ a, l'.balanceLocked a = l.balanceLocked a) ∧ l'.totalMinted = l.totalMinted := by
  intro l'
  have hentries : l'.entries = l.stored := h.entries_restart order
  have hnet : ∀ a, l'.net a = l.net a := h.net_restart order mintCap
  refine ⟨⟨Option.some_ne_none _, h.keyed, fun id e hlookup => ?_, fun a => ?_, rfl⟩, fun a => ?_, h.minted⟩
  · rw [hentries] at hlookup
    exact hlookup
  · rw [hnet, h.net]
    rfl
  · rw [balanceLocked_eq, balanceLocked_eq, hnet]

end Step

/-- What a restart keeps, and what a transfer out of a bucket that can pay does. -/
def Refines (sha256 : String → List UInt8) (l : TransferLedger) : ProcessOp → Prop
  | .restart order mintCap =>
    let l' := l.processStep sha256 (.restart order mintCap)
    (∀ a, l'.balanceLocked a = l.balanceLocked a) ∧ l'.totalMinted = l.totalMinted
  | .call (.transferFromBucketLabeled amb fromID toID amount memo isGenesis) =>
    amount ≤ l.balanceLocked fromID →
      (l.transferFromBucketLabeled amb fromID toID amount memo isGenesis).1 = .ok ()
  | .call _ => True

/-- The store writes of a step succeed, and it makes no entry under an ID that the store has and the memory has
    not. -/
def Orderly (sha256 : String → List UInt8) (l : TransferLedger) (op : ProcessOp) : Prop :=
  op.Succeeds ∧ match op with
    | .call op => l.Fresh sha256 op
    | .restart _ _ => True

/-- In every orderly run of calls, evictions and restarts on a ledger with an empty store, each restart keeps all
    balances and the total minted, and each transfer out of a bucket that holds its amount succeeds, whatever restarts
    went before. -/
theorem restart_refines (sha256 : String → List UInt8) (mintCap bucketCounter : UInt64) (ops : List ProcessOp)
    (horderly : transition.MeetsAlong (processStep sha256) (Orderly sha256)
      (initial (some {}) mintCap bucketCounter) ops) :
    transition.MeetsAlong (processStep sha256) (Refines sha256) (initial (some {}) mintCap bucketCounter) ops := by
  refine transition.MeetsAlong.imp (P := Mirrored) (Mirrored.initial mintCap bucketCounter) ?_ ?_ horderly
  · rintro l (op | ⟨order, mintCap⟩) h ⟨hsucceeds, hfresh⟩
    · exact h.step hsucceeds hfresh
    · exact (h.restart order mintCap).1
  · rintro l (op | ⟨order, mintCap⟩) h ⟨hsucceeds, hfresh⟩
    · cases op with
      | transferFromBucketLabeled amb fromID toID amount memo isGenesis =>
        intro hholds
        have hnew : bucketEventID fromID toID amount (l.bucketCounter + 1) ∉ l.entries := by
          intro hmem
          obtain ⟨e, hlookup⟩ := mem_iff.mp hmem
          exact hfresh hholds (mem_of_lookup_eq_some (h.memory _ e hlookup))
        obtain ⟨l', hcall, -⟩ := transferFromBucketLabeled_of_fresh amb memo isGenesis hholds hnew
        rw [hcall]
      | _ => trivial
    · exact (h.restart order mintCap).2

section Sample

def succeeding (now : Time) : Ambient := { now }

theorem succeeding_succeeds (now : Time) : (succeeding now).Succeeds := ⟨rfl, rfl, fun _ => rfl⟩

def sampleHash : String → List UInt8 := fun s => [0xa5, UInt8.ofNat s.length]

/-- The ledger after a run on an empty store. -/
def processRun (ops : List ProcessOp) : TransferLedger :=
  ops.foldl (processStep sampleHash) (initial (some {}) 0 0)

def sampleFund : ProcessOp := .call (.fundAgent (succeeding 0) "alice" 100)

def samplePay (amount : UInt64) : ProcessOp :=
  .call (.transferFromBucketLabeled (succeeding 5) "alice" "bob" amount "payout" false)

def samplePayResult (l : TransferLedger) (amount : UInt64) : Except Error Unit :=
  (l.transferFromBucketLabeled (succeeding 5) "alice" "bob" amount "payout" false).1

def sampleEvict : ProcessOp := .call (.evictBefore 1)

def sampleReboot : ProcessOp := .restart .byKey 0

theorem restart_refines_of_otherAmount :
    (∀ a, (processRun [sampleFund, samplePay 10, sampleEvict, sampleReboot]).balanceLocked a =
        (processRun [sampleFund, samplePay 10, sampleEvict]).balanceLocked a) ∧
      samplePayResult (processRun [sampleFund, samplePay 10, sampleEvict, sampleReboot]) 20 = .ok () := by
  have hrun := restart_refines sampleHash 0 0 [sampleFund, samplePay 10, sampleEvict, sampleReboot, samplePay 20]
    ⟨⟨succeeding_succeeds 0, fun h => absurd h (by decide +kernel)⟩,
      ⟨succeeding_succeeds 5, fun _ => by decide +kernel⟩, ⟨trivial, trivial⟩, ⟨trivial, trivial⟩,
      ⟨succeeding_succeeds 5, fun _ => by decide +kernel⟩, trivial⟩
  exact ⟨hrun.2.2.2.1.1, hrun.2.2.2.2.1 (by decide +kernel)⟩

/-- After a restart the second payment of the same amount is refused, which without the restart is made; and a
    credit that is given again after it was evicted is gone after the restart. -/
theorem restart_refuses_or_loses :
    ((processRun [sampleFund, samplePay 10, sampleReboot]).balanceLocked "alice" = 90 ∧
      samplePayResult (processRun [sampleFund, samplePay 10, sampleReboot]) 10 ≠ .ok () ∧
      samplePayResult (processRun [sampleFund, samplePay 10]) 10 = .ok ()) ∧
    (processRun [sampleFund, sampleEvict, sampleFund]).balanceLocked "alice" = 200 ∧
      (processRun [sampleFund, sampleEvict, sampleFund, sampleReboot]).balanceLocked "alice" = 100 := by
  decide +kernel

end Sample

end TransferLedger

end aethernet.ledger
