import Aethernet.Ledger.Payments
import Aethernet.Ledger.Restart

open golang aethernet.event Finmap

namespace aethernet.ledger

def TransferEntry.undated (e : TransferEntry) : TransferEntry := { e with recordedAt := 0 }

namespace TransferLedger

variable {l l' : TransferLedger} {id : EventID} {e e' : TransferEntry}

theorem entryNet_congr (hsame : e'.undated = e.undated) (a : AgentID) : entryNet a e' = entryNet a e := by
  have hnet : entryNet a e'.undated = entryNet a e.undated := congrArg (entryNet a) hsame
  exact hnet

theorem SameBooks.net_eq (h : SameBooks l l') (a : AgentID) : l'.net a = l.net a := by
  rw [net_eq_sumBy, net_eq_sumBy, h.entries, h.archived]

theorem net_setEntry (l : TransferLedger) (e : TransferEntry) (a : AgentID) :
    (l.setEntry e).net a = l.net a - ((l.entries.lookup e.eventID).map (entryNet a)).getD 0 + entryNet a e := by
  rw [net_eq_sumBy, net_eq_sumBy]
  simp only [setEntry]
  cases hlookup : l.entries.lookup e.eventID with
  | none =>
    rw [sumBy_insert_of_notMem _ e (lookup_eq_none.mp hlookup)]
    simp only [Option.map_none, Option.getD_none]
    abel
  | some old =>
    have hreplaced := sumBy_replace (entryNet a) e hlookup
    simp only [Option.map_some, Option.getD_some]
    rw [← add_right_inj (entryNet a old)]
    rw [add_left_comm, hreplaced]
    abel

def KeyedAt (id : EventID) (l : TransferLedger) : Prop := ∀ e, l.entries.lookup id = some e → e.eventID = id

theorem Mirrored.keyedAt (h : l.Mirrored) (id : EventID) : l.KeyedAt id := fun e hlookup =>
  h.keyed id e (h.memory id e hlookup)

/-- The second ledger has the nets of the first and the same entry of this transfer, up to its date. -/
structure Alike (id : EventID) (l l' : TransferLedger) : Prop where
  net : ∀ a, l'.net a = l.net a
  entry : (l'.entries.lookup id).map TransferEntry.undated = (l.entries.lookup id).map TransferEntry.undated
  keyed : ∀ e, l.entries.lookup id = some e → e.eventID = id

namespace Alike

theorem balanceLocked_eq (h : Alike id l l') (a : AgentID) : l'.balanceLocked a = l.balanceLocked a := by
  rw [TransferLedger.balanceLocked_eq, TransferLedger.balanceLocked_eq, h.net]

theorem lookup_cases (h : Alike id l l') :
    (l.entries.lookup id = none ∧ l'.entries.lookup id = none) ∨
      ∃ e e', l.entries.lookup id = some e ∧ l'.entries.lookup id = some e' ∧ e'.undated = e.undated := by
  have hentry := h.entry
  cases hlookup : l.entries.lookup id with
  | none =>
    rw [hlookup, Option.map_none, Option.map_eq_none_iff] at hentry
    exact .inl ⟨rfl, hentry⟩
  | some e =>
    rw [hlookup, Option.map_some, Option.map_eq_some_iff] at hentry
    obtain ⟨e', hlookup', hsame⟩ := hentry
    exact .inr ⟨e, e', rfl, hlookup', hsame⟩

theorem keyed_right (h : Alike id l l') : l'.KeyedAt id := by
  intro e hlookup
  obtain ⟨-, hnone'⟩ | ⟨e₀, e', hlookup₀, hlookup', hsame⟩ := h.lookup_cases
  · rw [hnone'] at hlookup
    cases hlookup
  · rw [hlookup'] at hlookup
    cases hlookup
    exact (congrArg TransferEntry.eventID hsame).trans (h.keyed e₀ hlookup₀)

theorem setEntry (h : Alike id l l') (hid : e.eventID = id) (hsame : e'.undated = e.undated) :
    Alike id (l.setEntry e) (l'.setEntry e') := by
  have hid' : e'.eventID = id := (congrArg TransferEntry.eventID hsame).trans hid
  refine ⟨fun a => ?_, ?_, fun x hx => ?_⟩
  · have hold : ((l'.entries.lookup id).map (entryNet a)).getD 0 = ((l.entries.lookup id).map (entryNet a)).getD 0 := by
      obtain ⟨hnone, hnone'⟩ | ⟨old, old', hlookup, hlookup', hold⟩ := h.lookup_cases
      · rw [hnone, hnone']
      · rw [hlookup, hlookup', Option.map_some, Option.map_some, entryNet_congr hold]
    rw [net_setEntry, net_setEntry, hid, hid', hold, h.net, entryNet_congr hsame]
  · simp [TransferLedger.setEntry, hid, hid', lookup_insert, hsame]
  · simp only [TransferLedger.setEntry, hid, lookup_insert, Option.some.injEq] at hx
    rw [← hx, hid]

theorem congr {l₁ l₁' : TransferLedger} (h : Alike id l l') (hl : SameBooks l l₁) (hl' : SameBooks l' l₁') :
    Alike id l₁ l₁' := by
  refine ⟨fun a => ?_, ?_, ?_⟩
  · rw [hl.net_eq, hl'.net_eq, h.net]
  · rw [hl.entries, hl'.entries]
    exact h.entry
  · rw [hl.entries]
    exact h.keyed

end Alike

section Settle

variable {target : Event} {state : SettlementState}

def stateOf (target : Event) (l : TransferLedger) : SettlementState :=
  ((l.entries.lookup target.id).map (·.settlement)).getD target.settlementState

/-- The transfer decodes, and the table lets it become `state`. -/
def MaySettle (target : Event) (state : SettlementState) (l : TransferLedger) : Prop :=
  target.transferPayload.isOk ∧ (l.stateOf target).mayBecome state

theorem Alike.stateOf_eq (h : Alike target.id l l') : l'.stateOf target = l.stateOf target := by
  unfold stateOf
  obtain ⟨hnone, hnone'⟩ | ⟨e, e', hlookup, hlookup', hsame⟩ := h.lookup_cases
  · rw [hnone, hnone']
  · have hstate : e'.undated.settlement = e.undated.settlement := congrArg TransferEntry.settlement hsame
    rw [hlookup, hlookup', Option.map_some, Option.map_some, Option.getD_some, Option.getD_some]
    exact hstate

theorem Alike.maySettle_iff (h : Alike target.id l l') : l'.MaySettle target state ↔ l.MaySettle target state := by
  rw [MaySettle, MaySettle, h.stateOf_eq]

/-- The entry of a transfer with this payload, recorded now if it is not there. -/
def entryOf (now : Time) (target : Event) (p : TransferPayload) (l : TransferLedger) : TransferEntry :=
  (l.entries.lookup target.id).getD (newEntry now target p)

theorem settlement_entryOf (now : Time) (p : TransferPayload) :
    (l.entryOf now target p).settlement = l.stateOf target := by
  unfold entryOf stateOf
  cases l.entries.lookup target.id <;> rfl

theorem Alike.undated_entryOf (h : Alike target.id l l') (now now' : Time) (p : TransferPayload) :
    (l'.entryOf now' target p).undated = (l.entryOf now target p).undated := by
  unfold entryOf
  obtain ⟨hnone, hnone'⟩ | ⟨e, e', hlookup, hlookup', hsame⟩ := h.lookup_cases
  · rw [hnone, hnone']
    rfl
  · rw [hlookup, hlookup']
    exact hsame

theorem eventID_entryOf (hkeyed : l.KeyedAt target.id) (now : Time) (p : TransferPayload) :
    (l.entryOf now target p).eventID = target.id := by
  unfold entryOf
  cases hlookup : l.entries.lookup target.id with
  | none => rfl
  | some e => exact hkeyed e hlookup

end Settle

section Bucket

variable {fromID toID : AgentID} {amount : UInt64} (amb : Ambient) (memo : String) (isGenesis : Bool)

def PaysNext (fromID toID : AgentID) (amount : UInt64) (l : TransferLedger) : Prop :=
  amount ≤ l.balanceLocked fromID ∧ bucketEventID fromID toID amount (l.bucketCounter + 1) ∉ l.entries

def bucketPosting (fromID toID : AgentID) (amount : UInt64) : TransferEntry :=
  bucketEntry 0 "" fromID toID amount "" false

theorem entryNet_bucketPosting_self (a : AgentID) : entryNet a (bucketPosting fromID fromID amount) = 0 := by
  simp [entryNet, creditOf, reservedOf, bucketPosting, bucketEntry]

theorem transferFromBucketLabeled_of_not_pays (hnot : ¬ l.PaysNext fromID toID amount) :
    SameBooks l (l.transferFromBucketLabeled amb fromID toID amount memo isGenesis).2 := by
  obtain ⟨err, n, hcall⟩ | ⟨entry, hentry, hnew, hholds, hcall⟩ :=
    transferFromBucketLabeled_writes amb fromID toID amount memo isGenesis l
  · rw [hcall]
    exact ⟨rfl, rfl⟩
  · rw [hentry] at hnew
    exact absurd ⟨hholds, hnew⟩ hnot

theorem transferFromBucketLabeled_of_pays (hpays : l.PaysNext fromID toID amount) :
    Adds l (l.transferFromBucketLabeled amb fromID toID amount memo isGenesis).2
      (bucketEntry amb.now (bucketEventID fromID toID amount (l.bucketCounter + 1)) fromID toID amount memo
        isGenesis) := by
  obtain ⟨l₁, hok, -⟩ := transferFromBucketLabeled_of_fresh amb memo isGenesis hpays.1 hpays.2
  obtain ⟨err, n, hcall⟩ | ⟨entry, hentry, -, -, hcall⟩ :=
    transferFromBucketLabeled_writes amb fromID toID amount memo isGenesis l
  · rw [hok] at hcall
    cases hcall
  · rw [hcall]
    subst hentry
    exact ⟨hpays.2, by simp [setEntry, bucketEventID], by simp [setEntry]⟩

theorem net_transferFromBucketLabeled [Decidable (l.PaysNext fromID toID amount)] (a : AgentID) :
    (l.transferFromBucketLabeled amb fromID toID amount memo isGenesis).2.net a =
      l.net a + if l.PaysNext fromID toID amount then entryNet a (bucketPosting fromID toID amount) else 0 := by
  split_ifs with hpays
  · rw [(transferFromBucketLabeled_of_pays amb memo isGenesis hpays).net_eq, add_sub_assoc]
    rfl
  · rw [(transferFromBucketLabeled_of_not_pays amb memo isGenesis hpays).net_eq, add_zero]

theorem lookup_transferFromBucketLabeled (hid : id ∈ l.entries) :
    (l.transferFromBucketLabeled amb fromID toID amount memo isGenesis).2.entries.lookup id = l.entries.lookup id := by
  by_cases hpays : l.PaysNext fromID toID amount
  · have hadds := transferFromBucketLabeled_of_pays amb memo isGenesis hpays
    rw [hadds.entries, lookup_insert_of_ne]
    rintro rfl
    exact hadds.fresh hid
  · rw [(transferFromBucketLabeled_of_not_pays amb memo isGenesis hpays).entries]

theorem Alike.transferFromBucketLabeled (h : Alike id l l') (hid : id ∈ l.entries) (amb' : Ambient)
    (hagree : fromID ≠ toID → (l'.PaysNext fromID toID amount ↔ l.PaysNext fromID toID amount)) :
    Alike id (l.transferFromBucketLabeled amb fromID toID amount memo isGenesis).2
      (l'.transferFromBucketLabeled amb' fromID toID amount memo isGenesis).2 := by
  classical
  have hid' : id ∈ l'.entries := by
    obtain ⟨hnone, -⟩ | ⟨e, e', -, hlookup', -⟩ := h.lookup_cases
    · exact absurd hid (lookup_eq_none.mp hnone)
    · exact mem_of_lookup_eq_some hlookup'
  refine ⟨fun a => ?_, ?_, ?_⟩
  · rw [net_transferFromBucketLabeled, net_transferFromBucketLabeled, h.net]
    by_cases hself : fromID = toID
    · subst hself
      rw [entryNet_bucketPosting_self, ite_self, ite_self]
    · simp [hagree hself]
  · rw [lookup_transferFromBucketLabeled _ _ _ hid, lookup_transferFromBucketLabeled _ _ _ hid']
    exact h.entry
  · rw [lookup_transferFromBucketLabeled _ _ _ hid]
    exact h.keyed

theorem balanceLocked_transferFromBucketLabeled (hamount : amount ≠ 0) (hother : fromID ≠ toID) :
    (l.transferFromBucketLabeled amb fromID toID amount memo isGenesis).2.balanceLocked fromID = l.balanceLocked fromID
      ↔ ¬ l.PaysNext fromID toID amount := by
  constructor
  · intro hsame hpays
    have hbalance : (_ : UInt64).toNat + (if toID = fromID then 0 else amount.toNat) = (l.balanceLocked fromID).toNat :=
      balanceLocked_of_adds (transferFromBucketLabeled_of_pays amb memo isGenesis hpays) rfl rfl hpays.1
    rw [hsame, if_neg (Ne.symm hother)] at hbalance
    refine hamount (UInt64.toNat_inj.mp ?_)
    rw [UInt64.toNat_zero]
    omega
  · intro hnot
    exact (transferFromBucketLabeled_of_not_pays amb memo isGenesis hnot).balanceLocked_eq fromID

end Bucket

end TransferLedger

end aethernet.ledger
