import Aethernet.Ledger.Transfer

open golang aethernet.event Finmap

namespace aethernet.ledger

/-- A call on the transfer ledger with its arguments and what it finds around it. -/
inductive Op where
  | record (amb : Ambient) (e : Event)
  | recordFromSync (amb : Ambient) (e : Event)
  | settle (amb : Ambient) (eventID : EventID) (state : SettlementState)
  | fundAgent (amb : Ambient) (agentID : AgentID) (amount : UInt64)
  | transferFromBucketLabeled (amb : Ambient) (fromID toID : AgentID) (amount : UInt64)
      (memo : String) (isGenesis : Bool)
  | resetOptimisticOutflows (amb : Ambient) (agentID : AgentID)
  | evictBefore (cutoff : Time)

variable (sha256 : String → List UInt8) (amb : Ambient) (e : TransferEntry) (minted : UInt64)
  (eventID : EventID) (state : SettlementState) (agentID fromID toID : AgentID) (amount : UInt64)
  {rest : Map EventID TransferEntry} {id : EventID}

namespace TransferLedger

def step (l : TransferLedger) : Op → TransferLedger
  | .record amb e => (l.record amb e).2
  | .recordFromSync amb e => (l.recordFromSync amb e).2
  | .settle amb eventID state => (l.settle amb eventID state).2
  | .fundAgent amb agentID amount => (l.fundAgent sha256 amb agentID amount).2
  | .transferFromBucketLabeled amb fromID toID amount memo isGenesis =>
    (l.transferFromBucketLabeled amb fromID toID amount memo isGenesis).2
  | .resetOptimisticOutflows amb agentID => (l.resetOptimisticOutflows amb agentID).2
  | .evictBefore cutoff => (l.evictBefore cutoff).2

def run (l : TransferLedger) (ops : List Op) : TransferLedger :=
  ops.foldl (step sha256) l

/-- `NewTransferLedger`, with the store and mint cap set afterwards. The package's bucket counter
    may have been advanced by another ledger. -/
def initial (store : Option TransferStore) (mintCap bucketCounter : UInt64) : TransferLedger where
  store := store
  mintCap := mintCap
  bucketCounter := bucketCounter

/-- Entries and archived nets, all that balances depend on, are the same in both ledgers. -/
structure SameBooks (l l' : TransferLedger) : Prop where
  entries : l'.entries = l.entries
  archived : l'.archivedNetSettled = l.archivedNetSettled

/-- The second ledger holds one entry more than the first. -/
structure Adds (l l' : TransferLedger) (e : TransferEntry) : Prop where
  fresh : e.eventID ∉ l.entries
  entries : l'.entries = l.entries.insert e.eventID e
  archived : l'.archivedNetSettled = l.archivedNetSettled

/-- The second ledger holds an entry of the first one in another settlement state. -/
structure Restates (l l' : TransferLedger) (id : EventID) (e : TransferEntry) (state : SettlementState) :
    Prop where
  lookup : l.entries.lookup id = some e
  allowed : ∃ allowed, validTransitions e.settlement = some allowed ∧ state ∈ allowed
  entries : l'.entries = l.entries.insert id { e with settlement := state }
  archived : l'.archivedNetSettled = l.archivedNetSettled

/-- The second ledger lacks an optimistic entry of the first. -/
structure Withdraws (l l' : TransferLedger) (id : EventID) (e : TransferEntry) : Prop where
  lookup : l.entries.lookup id = some e
  pending : e.settlement = .optimistic
  entries : l'.entries = l.entries.erase id
  archived : l'.archivedNetSettled = l.archivedNetSettled

/-- The second ledger lacks an entry of the first that is not pending; if it was settled, its amount
    moved to the archived nets. -/
structure Archives (l l' : TransferLedger) (id : EventID) (e : TransferEntry) : Prop where
  lookup : l.entries.lookup id = some e
  final : e.settlement ≠ .optimistic
  entries : l'.entries = l.entries.erase id
  archived : l'.archivedNetSettled = archiveEntry e l.archivedNetSettled

variable (l : TransferLedger)

theorem SameBooks.refl : SameBooks l l := ⟨rfl, rfl⟩

@[simp]
theorem putTransfer_entries : (l.putTransfer amb e).entries = l.entries := by
  unfold putTransfer; split <;> rfl

@[simp]
theorem putTransfer_archived : (l.putTransfer amb e).archivedNetSettled = l.archivedNetSettled := by
  unfold putTransfer; split <;> rfl

@[simp]
theorem putTransfer_totalMinted : (l.putTransfer amb e).totalMinted = l.totalMinted := by
  unfold putTransfer; split <;> rfl

@[simp]
theorem putMinted_entries : (l.putMinted amb minted).entries = l.entries := by
  unfold putMinted; split <;> rfl

@[simp]
theorem putMinted_archived : (l.putMinted amb minted).archivedNetSettled = l.archivedNetSettled := by
  unfold putMinted; split <;> rfl

@[simp]
theorem deleteTransfer_entries (id : EventID) (l : TransferLedger) :
    (l.deleteTransfer amb id).entries = l.entries := by
  unfold deleteTransfer; split <;> rfl

@[simp]
theorem deleteTransfer_archived (id : EventID) (l : TransferLedger) :
    (l.deleteTransfer amb id).archivedNetSettled = l.archivedNetSettled := by
  unfold deleteTransfer; split <;> rfl

theorem adds_setEntry (hfresh : e.eventID ∉ l.entries) : Adds l ((l.setEntry e).putTransfer amb e) e :=
  ⟨hfresh, by simp [setEntry], by simp [setEntry]⟩

theorem record_writes (e : Event) (l : TransferLedger) : (∃ err, l.record amb e = (.error err, l)) ∨
    ∃ p, e.transferPayload = .ok p ∧ e.id ∉ l.entries ∧
      l.record amb e = (.ok (), (l.setEntry (newEntry amb.now e p)).putTransfer amb (newEntry amb.now e p)) ∧
      (p.fromAgent = "system" ∨ p.amount = 0 ∨ p.amount ≤ l.balanceLocked p.fromAgent) := by
  unfold record
  by_cases htype : e.type = .transfer
  · rw [if_neg (not_not_intro htype)]
    cases hp : e.transferPayload with
    | error err => exact .inl ⟨_, rfl⟩
    | ok p =>
      by_cases hdup : e.id ∈ l.entries
      · simp only [if_pos hdup]
        exact .inl ⟨_, rfl⟩
      · by_cases hshort : p.fromAgent ≠ "system" ∧ 0 < p.amount ∧ l.balanceLocked p.fromAgent < p.amount
        · simp only [if_neg hdup, if_pos hshort]
          exact .inl ⟨_, rfl⟩
        · simp only [if_neg hdup, if_neg hshort]
          refine .inr ⟨p, rfl, hdup, rfl, ?_⟩
          by_contra hnot
          rw [not_or, not_or] at hnot
          exact hshort ⟨hnot.1, UInt64.pos_iff_ne_zero.mpr hnot.2.1, UInt64.not_le.mp hnot.2.2⟩
  · exact .inl ⟨_, by rw [if_pos htype]⟩

theorem record_cases (e : Event) (l : TransferLedger) : (∃ err, l.record amb e = (.error err, l)) ∨
    ∃ p, e.transferPayload = .ok p ∧ (l.record amb e).1 = .ok () ∧
      Adds l (l.record amb e).2 (newEntry amb.now e p) ∧
      (p.fromAgent = "system" ∨ p.amount = 0 ∨ p.amount ≤ l.balanceLocked p.fromAgent) := by
  obtain herr | ⟨p, hp, hnew, hcall, hcovered⟩ := record_writes amb e l
  · exact .inl herr
  · rw [hcall]
    exact .inr ⟨p, hp, rfl, adds_setEntry amb _ l hnew, hcovered⟩

theorem recordFromSync_writes (e : Event) (l : TransferLedger) : (l.recordFromSync amb e).2 = l ∨
    ∃ p, e.transferPayload = .ok p ∧ e.id ∉ l.entries ∧
      l.recordFromSync amb e =
        (.ok (), (l.setEntry (newEntry amb.now e p)).putTransfer amb (newEntry amb.now e p)) := by
  unfold recordFromSync
  by_cases htype : e.type = .transfer
  · rw [if_neg (not_not_intro htype)]
    cases hp : e.transferPayload with
    | error err => exact .inl rfl
    | ok p =>
      by_cases hdup : e.id ∈ l.entries
      · exact .inl (by simp only [if_pos hdup])
      · simp only [if_neg hdup]
        exact .inr ⟨p, rfl, hdup, rfl⟩
  · exact .inl (by rw [if_pos htype])

theorem recordFromSync_cases (e : Event) (l : TransferLedger) : (l.recordFromSync amb e).2 = l ∨
    ∃ p, e.transferPayload = .ok p ∧ (l.recordFromSync amb e).1 = .ok () ∧
      Adds l (l.recordFromSync amb e).2 (newEntry amb.now e p) := by
  obtain hsame | ⟨p, hp, hnew, hcall⟩ := recordFromSync_writes amb e l
  · exact .inl hsame
  · rw [hcall]
    exact .inr ⟨p, hp, rfl, adds_setEntry amb _ l hnew⟩

theorem settle_writes : (∃ err, l.settle amb eventID state = (.error err, l)) ∨
    ∃ e allowed, l.entries.lookup eventID = some e ∧ validTransitions e.settlement = some allowed ∧ state ∈ allowed ∧
      l.settle amb eventID state =
        (.ok (), putTransfer amb { e with settlement := state }
          { l with entries := l.entries.insert eventID { e with settlement := state } }) := by
  unfold settle
  cases hlookup : l.entries.lookup eventID with
  | none => exact .inl ⟨_, rfl⟩
  | some e =>
    cases hallowed : validTransitions e.settlement with
    | none =>
      simp only [hallowed]
      exact .inl ⟨_, rfl⟩
    | some allowed =>
      by_cases hmem : state ∈ allowed
      · simp only [hallowed, if_neg (not_not_intro hmem)]
        exact .inr ⟨e, allowed, rfl, hallowed, hmem, rfl⟩
      · simp only [hallowed, if_pos hmem]
        exact .inl ⟨_, rfl⟩

theorem settle_cases : (∃ err, l.settle amb eventID state = (.error err, l)) ∨
    ∃ e, (l.settle amb eventID state).1 = .ok () ∧
      Restates l (l.settle amb eventID state).2 eventID e state := by
  obtain herr | ⟨e, allowed, hlookup, hallowed, hmem, hcall⟩ := settle_writes amb eventID state l
  · exact .inl herr
  · rw [hcall]
    exact .inr ⟨e, rfl, hlookup, ⟨allowed, hallowed, hmem⟩, by simp, by simp⟩

variable {e} {motive : TransferLedger → Prop}

theorem settle_of_allowed {eventID : EventID} {state : SettlementState}
    {allowed : List SettlementState} {l : TransferLedger} (hlookup : l.entries.lookup eventID = some e)
    (hallowed : validTransitions e.settlement = some allowed) (hmem : state ∈ allowed) :
    (l.settle amb eventID state).1 = .ok () := by
  simp [settle, hlookup, hallowed, if_neg (not_not_intro hmem)]

theorem payload_of_recordFromSync {amb : Ambient} {e : Event} {l : TransferLedger}
    (hok : (l.recordFromSync amb e).1 = .ok ()) : ∃ p, e.transferPayload = .ok p := by
  unfold recordFromSync at hok
  split at hok
  · cases hok
  · cases hp : e.transferPayload with
    | error err =>
      rw [hp] at hok
      cases hok
    | ok p => exact ⟨p, rfl⟩

theorem recordFromSync_totalMinted (e : Event) (l : TransferLedger) :
    (l.recordFromSync amb e).2.totalMinted = l.totalMinted := by
  obtain hsame | ⟨p, -, -, hcall⟩ := recordFromSync_writes amb e l
  · rw [hsame]
  · rw [hcall, putTransfer_totalMinted]
    rfl

theorem settle_totalMinted : (l.settle amb eventID state).2.totalMinted = l.totalMinted := by
  obtain ⟨err, herr⟩ | ⟨e, allowed, -, -, -, hcall⟩ := settle_writes amb eventID state l
  · rw [herr]
  · rw [hcall, putTransfer_totalMinted]

theorem fundAgent_writes : (∃ err, l.fundAgent sha256 amb agentID amount = (.error err, l)) ∨
    ∃ entry, entry = genesisEntry amb.now (hexEncode (sha256 s!"genesis-mint:{agentID}:{amount}")) agentID amount ∧
      entry.eventID ∉ l.entries ∧ ¬ (0 < l.mintCap ∧ l.mintCap < l.totalMinted + amount) ∧
      l.fundAgent sha256 amb agentID amount =
        (.ok (), { ((l.putTransfer amb entry).putMinted amb (l.totalMinted + amount)).setEntry entry with
          totalMinted := l.totalMinted + amount }) := by
  unfold fundAgent
  by_cases hcap : 0 < l.mintCap ∧ l.mintCap < l.totalMinted + amount
  · exact .inl ⟨_, by rw [if_pos hcap]⟩
  · rw [if_neg hcap]
    by_cases hdup : hexEncode (sha256 s!"genesis-mint:{agentID}:{amount}") ∈ l.entries
    · simp only [if_pos hdup]
      exact .inl ⟨_, rfl⟩
    · simp only [if_neg hdup]
      split
      · exact .inl ⟨_, rfl⟩
      · exact .inr ⟨_, rfl, hdup, hcap, rfl⟩

theorem fundAgent_cases : (∃ err, l.fundAgent sha256 amb agentID amount = (.error err, l)) ∨
    ∃ eid, (l.fundAgent sha256 amb agentID amount).1 = .ok () ∧
      Adds l (l.fundAgent sha256 amb agentID amount).2 (genesisEntry amb.now eid agentID amount) ∧
      (l.fundAgent sha256 amb agentID amount).2.totalMinted = l.totalMinted + amount := by
  obtain herr | ⟨_, rfl, hnew, -, hcall⟩ := fundAgent_writes sha256 amb agentID amount l
  · exact .inl herr
  · rw [hcall]
    exact .inr ⟨_, rfl, ⟨hnew, by simp [setEntry], by simp [setEntry]⟩, rfl⟩

theorem transferFromBucketLabeled_writes (memo : String) (isGenesis : Bool) (l : TransferLedger) :
    (∃ err n, l.transferFromBucketLabeled amb fromID toID amount memo isGenesis =
      (.error err, { l with bucketCounter := n })) ∨
    ∃ entry, entry = bucketEntry amb.now s!"bucket:{fromID}:{toID}:{amount}:{l.bucketCounter + 1}" fromID toID amount
        memo isGenesis ∧
      entry.eventID ∉ l.entries ∧ amount ≤ l.balanceLocked fromID ∧
      l.transferFromBucketLabeled amb fromID toID amount memo isGenesis =
        (.ok (), (setEntry entry { l with bucketCounter := l.bucketCounter + 1 }).putTransfer amb entry) := by
  unfold transferFromBucketLabeled
  by_cases hshort : l.balanceLocked fromID < amount
  · exact .inl ⟨_, l.bucketCounter, by rw [if_pos hshort]⟩
  · rw [if_neg hshort]
    by_cases hdup : s!"bucket:{fromID}:{toID}:{amount}:{l.bucketCounter + 1}" ∈ l.entries
    · exact .inl ⟨_, l.bucketCounter + 1, by simp only [if_pos hdup]; rfl⟩
    · simp only [if_neg hdup]
      exact .inr ⟨_, rfl, hdup, UInt64.not_lt.mp hshort, rfl⟩

theorem transferFromBucketLabeled_cases (memo : String) (isGenesis : Bool) (l : TransferLedger) :
    (∃ err, (l.transferFromBucketLabeled amb fromID toID amount memo isGenesis).1 = .error err) ∧
      SameBooks l (l.transferFromBucketLabeled amb fromID toID amount memo isGenesis).2 ∨
    ∃ eid, (l.transferFromBucketLabeled amb fromID toID amount memo isGenesis).1 = .ok () ∧
      Adds l (l.transferFromBucketLabeled amb fromID toID amount memo isGenesis).2
        (bucketEntry amb.now eid fromID toID amount memo isGenesis) ∧
      amount ≤ l.balanceLocked fromID := by
  obtain ⟨err, n, hcall⟩ | ⟨_, rfl, hnew, hholds, hcall⟩ :=
    transferFromBucketLabeled_writes amb fromID toID amount memo isGenesis l
  · rw [hcall]
    exact .inl ⟨⟨err, rfl⟩, rfl, rfl⟩
  · rw [hcall]
    exact .inr ⟨_, rfl, ⟨hnew, by simp [setEntry], by simp [setEntry]⟩, hholds⟩

theorem transferFromBucketLabeled_totalMinted (memo : String) (isGenesis : Bool) (l : TransferLedger) :
    (l.transferFromBucketLabeled amb fromID toID amount memo isGenesis).2.totalMinted = l.totalMinted := by
  obtain ⟨err, n, hcall⟩ | ⟨_, rfl, -, -, hcall⟩ :=
    transferFromBucketLabeled_writes amb fromID toID amount memo isGenesis l
  · rw [hcall]
  · rw [hcall, putTransfer_totalMinted]
    rfl

def Untouched (rest : Map EventID TransferEntry) (l : TransferLedger) : Prop :=
  ∀ id e, rest.lookup id = some e → l.entries.lookup id = some e

theorem Untouched.visited {l : TransferLedger} (h : Untouched (rest.insert id e) l) : l.entries.lookup id = some e :=
  h id e (lookup_insert rest)

theorem Untouched.skip {l : TransferLedger} (hnew : id ∉ rest)
    (h : Untouched (rest.insert id e) l) : Untouched rest l := by
  intro id' e' hlookup
  refine h id' e' ?_
  rw [lookup_insert_of_ne, hlookup]
  rintro rfl
  exact hnew (mem_of_lookup_eq_some hlookup)

theorem Untouched.erase {l l' : TransferLedger} (hnew : id ∉ rest)
    (h : Untouched (rest.insert id e) l) (hentries : l'.entries = l.entries.erase id) : Untouched rest l' := by
  intro id' e' hlookup
  have hne : id' ≠ id := by
    rintro rfl
    exact hnew (mem_of_lookup_eq_some hlookup)
  rw [hentries, lookup_erase_ne hne]
  exact h.skip hnew id' e' hlookup

theorem resetOptimisticOutflows_rule {l : TransferLedger} (hstart : motive l)
    (hstep : ∀ l id e, Withdraws l ((l.deleteEntry id).deleteTransfer amb id) id e → motive l →
      motive ((l.deleteEntry id).deleteTransfer amb id)) : motive (l.resetOptimisticOutflows amb agentID).2 := by
  have hloop := range_invariant (resetVisit_comm amb agentID)
    (motive := fun rest s => Untouched rest s.1 ∧ motive s.1) (m := l.entries) (s := (l, 0)) ⟨fun _ _ h => h, hstart⟩ ?_
  · exact hloop.2
  · rintro rest id e s hnew ⟨hrest, hkept⟩
    unfold resetVisit
    split_ifs with hvisit
    · have hwithdraws : Withdraws s.1 ((s.1.deleteEntry id).deleteTransfer amb id) id e :=
        ⟨hrest.visited, hvisit.2, by simp [deleteEntry], by simp [deleteEntry]⟩
      exact ⟨hrest.erase hnew hwithdraws.entries, hstep s.1 id e hwithdraws hkept⟩
    · exact ⟨hrest.skip hnew, hkept⟩

theorem resetOptimisticOutflows_withdraws : Relation.ReflTransGen (fun l l' => ∃ id e, Withdraws l l' id e) l
      (l.resetOptimisticOutflows amb agentID).2 :=
  resetOptimisticOutflows_rule amb agentID (motive := Relation.ReflTransGen _ l) .refl
    fun _ id e hstep hrun => hrun.tail ⟨id, e, hstep⟩

theorem evictBefore_rule {cutoff : Time} {l : TransferLedger} (hstart : motive l) (hstep : ∀ (l : TransferLedger) id e,
      let l' := { l with archivedNetSettled := archiveEntry e l.archivedNetSettled, entries := l.entries.erase id }
      Archives l l' id e → motive l → motive l') : motive (l.evictBefore cutoff).2 := by
  have hloop := range_invariant (evictVisit_comm cutoff)
    (motive := fun rest s => Untouched rest s.1 ∧ motive s.1) (m := l.entries) (s := (l, 0)) ⟨fun _ _ h => h, hstart⟩ ?_
  · exact hloop.2
  · rintro rest id e s hnew ⟨hrest, hkept⟩
    unfold evictVisit
    split_ifs with hpending hrecent
    · exact ⟨hrest.skip hnew, hkept⟩
    · exact ⟨hrest.erase hnew rfl, hstep s.1 id e ⟨hrest.visited, hpending, rfl, rfl⟩ hkept⟩
    · exact ⟨hrest.skip hnew, hkept⟩

theorem evictBefore_archives (cutoff : Time) (l : TransferLedger) :
    Relation.ReflTransGen (fun l l' => ∃ id e, Archives l l' id e) l (l.evictBefore cutoff).2 :=
  evictBefore_rule (motive := Relation.ReflTransGen _ l) .refl fun _ id e hstep hrun => hrun.tail ⟨id, e, hstep⟩

theorem step_cases (op : Op) : SameBooks l (l.step sha256 op) ∨ (∃ e, Adds l (l.step sha256 op) e) ∨
    (∃ id e state, Restates l (l.step sha256 op) id e state) ∨
    Relation.ReflTransGen (fun l l' => ∃ id e, Withdraws l l' id e) l (l.step sha256 op) ∨
    Relation.ReflTransGen (fun l l' => ∃ id e, Archives l l' id e) l (l.step sha256 op) := by
  have hsame : ∀ {l' : TransferLedger}, l' = l → SameBooks l l' := fun h => h ▸ .refl l
  cases op with
  | record amb e =>
    obtain ⟨err, herr⟩ | ⟨p, _, _, hadds, _⟩ := record_cases amb e l
    · exact .inl (hsame (by rw [step, herr]))
    · exact .inr (.inl ⟨_, hadds⟩)
  | recordFromSync amb e =>
    obtain heq | ⟨p, _, _, hadds⟩ := recordFromSync_cases amb e l
    · exact .inl (hsame heq)
    · exact .inr (.inl ⟨_, hadds⟩)
  | settle amb eventID state =>
    obtain ⟨err, herr⟩ | ⟨e, _, hrestates⟩ := settle_cases amb eventID state l
    · exact .inl (hsame (by rw [step, herr]))
    · exact .inr (.inr (.inl ⟨_, _, _, hrestates⟩))
  | fundAgent amb agentID amount =>
    obtain ⟨err, herr⟩ | ⟨eid, _, hadds, _⟩ := fundAgent_cases sha256 amb agentID amount l
    · exact .inl (hsame (by rw [step, herr]))
    · exact .inr (.inl ⟨_, hadds⟩)
  | transferFromBucketLabeled amb fromID toID amount memo isGenesis =>
    obtain ⟨_, hbooks⟩ | ⟨eid, _, hadds, _⟩ :=
      transferFromBucketLabeled_cases amb fromID toID amount memo isGenesis l
    · exact .inl hbooks
    · exact .inr (.inl ⟨_, hadds⟩)
  | resetOptimisticOutflows amb agentID =>
    exact .inr (.inr (.inr (.inl (resetOptimisticOutflows_withdraws amb agentID l))))
  | evictBefore cutoff => exact .inr (.inr (.inr (.inr (evictBefore_archives cutoff l))))

end TransferLedger

end aethernet.ledger

namespace aethernet.ledger.TransferLedger

variable (l : TransferLedger) (agentID a : AgentID) (e : TransferEntry)

/-- The `net` of `balanceLocked`, before it is clamped at zero. -/
def net : Int64 :=
  l.archivedNetSettled.getD agentID 0 + (l.entries.sumBy (creditOf agentID)).toInt64
    - (l.entries.sumBy (reservedOf agentID)).toInt64

theorem balanceLocked_eq : l.balanceLocked agentID = if l.net agentID ≤ 0 then 0 else (l.net agentID).toUInt64 := rfl

def entryNet : Int64 := (creditOf a e).toInt64 - (reservedOf a e).toInt64

theorem net_eq_sumBy : l.net a = l.archivedNetSettled.getD a 0 + l.entries.sumBy (entryNet a) := by
  have hcredit := map_sumBy toInt64Hom (creditOf a) l.entries
  have hreserved := map_sumBy toInt64Hom (reservedOf a) l.entries
  have hsum := sumBy_add (entryNet a) (fun e => (reservedOf a e).toInt64) l.entries
  simp only [toInt64Hom_apply] at hcredit hreserved
  simp only [entryNet, sub_add_cancel] at hsum
  rw [net, hcredit, hreserved, hsum, ← add_assoc, add_sub_cancel_right]

theorem getD_archiveEntry {e : TransferEntry} (hfinal : e.settlement ≠ .optimistic)
    (archived : Map AgentID Int64) (a : AgentID) :
    (archiveEntry e archived).getD a 0
      = archived.getD a 0 + (creditOf a e).toInt64 - (reservedOf a e).toInt64 := by
  by_cases hsettled : e.settlement = .settled
  · rw [archiveEntry, if_pos hsettled, getD_addAt, getD_addAt, creditOf, reservedOf]
    simp only [hsettled, eq_comm (a := a), and_true, true_or]
    by_cases hto : e.toAgent = a <;> by_cases hfrom : e.fromAgent = a <;>
      simp [hto, hfrom, sub_eq_add_neg]
  · simp [archiveEntry, creditOf, reservedOf, hsettled, hfinal]

theorem Archives.net_eq {l l' : TransferLedger} {id : EventID} {e : TransferEntry}
    (h : Archives l l' id e) (a : AgentID) : l'.net a = l.net a := by
  have hcredit := congrArg toInt64Hom (add_sumBy_erase (creditOf a) h.lookup)
  have hreserved := congrArg toInt64Hom (add_sumBy_erase (reservedOf a) h.lookup)
  rw [map_add] at hcredit hreserved
  simp only [toInt64Hom_apply] at hcredit hreserved
  rw [net, net, h.entries, h.archived, getD_archiveEntry h.final, ← hcredit, ← hreserved]
  abel

theorem net_eq_of_archives {l l' : TransferLedger}
    (h : Relation.ReflTransGen (fun l l' => ∃ id e, Archives l l' id e) l l') (a : AgentID) :
    l'.net a = l.net a := by
  induction h with
  | refl => rfl
  | tail _ hstep ih =>
    obtain ⟨id, e, harchives⟩ := hstep
    rw [harchives.net_eq a, ih]

theorem balanceLocked_evictBefore (cutoff : Time) (l : TransferLedger) (a : AgentID) :
    (l.evictBefore cutoff).2.balanceLocked a = l.balanceLocked a := by
  rw [balanceLocked_eq, balanceLocked_eq, net_eq_of_archives (evictBefore_archives cutoff l) a]

/-- The archived settled net of an agent as a number. -/
def archivedNet : ℤ := (l.archivedNetSettled.getD a 0).toInt

/-- The sum of the amounts of the entries in memory. -/
def total : ℕ := l.entries.sumBy fun e => e.amount.toNat

/-- What an entry credits to an agent once it is settled. -/
def settledCredit : ℤ :=
  if e.toAgent = a ∧ e.settlement = .settled then e.amount.toNat else 0

def settledDebit : ℤ :=
  if e.fromAgent = a ∧ e.settlement = .settled then e.amount.toNat else 0

/-- An agent's settled net over archive and memory. -/
def settledNet : ℤ :=
  l.archivedNet a + l.entries.sumBy (settledCredit a) - l.entries.sumBy (settledDebit a)

/-- The agents the ledger mentions. Every other agent's settled net is zero. -/
def agents : Finset AgentID :=
  l.archivedNetSettled.keys ∪ (l.entries.entries.map fun entry => entry.2.fromAgent).toFinset
    ∪ (l.entries.entries.map fun entry => entry.2.toAgent).toFinset

end aethernet.ledger.TransferLedger
