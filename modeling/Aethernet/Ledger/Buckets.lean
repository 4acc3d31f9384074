import Aethernet.Ledger.Step

open golang aethernet.event

namespace aethernet.ledger

def bucketEventID (fromID toID : AgentID) (amount n : UInt64) : EventID := s!"bucket:{fromID}:{toID}:{amount}:{n}"

def genesisEventID (sha256 : String → List UInt8) (agentID : AgentID) (amount : UInt64) : EventID :=
  hexEncode (sha256 s!"genesis-mint:{agentID}:{amount}")

theorem bucketEventID_number_inj {fromID fromID' toID toID' : AgentID} {amount amount' n n' : UInt64}
    (h : bucketEventID fromID toID amount n = bucketEventID fromID' toID' amount' n') : n = n' :=
  (append_colon_toString_inj h).2

namespace TransferLedger

/-- The bucket counter is ahead of the numbers of the bucket's transfers. -/
def CounterAhead (bucket : AgentID) (l : TransferLedger) : Prop :=
  ∀ toID amount n, bucketEventID bucket toID amount n ∈ l.entries → n ≤ l.bucketCounter

variable {bucket : AgentID} {l : TransferLedger}

theorem transferFromBucketLabeled_of_fresh (amb : Ambient) {toID : AgentID} {amount : UInt64} (memo : String)
    (isGenesis : Bool) (hholds : amount ≤ l.balanceLocked bucket)
    (hfresh : bucketEventID bucket toID amount (l.bucketCounter + 1) ∉ l.entries) :
    ∃ l', l.transferFromBucketLabeled amb bucket toID amount memo isGenesis = (.ok (), l') ∧
      l'.bucketCounter = l.bucketCounter + 1 ∧
      l'.entries = l.entries.insert (bucketEventID bucket toID amount (l.bucketCounter + 1))
        (bucketEntry amb.now (bucketEventID bucket toID amount (l.bucketCounter + 1)) bucket toID amount memo
          isGenesis) := by
  unfold transferFromBucketLabeled
  rw [if_neg (UInt64.not_lt.mpr hholds)]
  have hfresh' : s!"bucket:{bucket}:{toID}:{amount}:{l.bucketCounter + 1}" ∉ l.entries := hfresh
  simp only [if_neg hfresh']
  refine ⟨_, rfl, ?_, ?_⟩
  · unfold putTransfer
    split <;> rfl
  · rw [putTransfer_entries]
    rfl

theorem CounterAhead.transferFromBucketLabeled (h : l.CounterAhead bucket) (amb : Ambient) (toID : AgentID)
    {amount : UInt64} (memo : String) (isGenesis : Bool) (hholds : amount ≤ l.balanceLocked bucket)
    (hroom : l.bucketCounter.toNat + 1 < 2 ^ 64) :
    ∃ l', l.transferFromBucketLabeled amb bucket toID amount memo isGenesis = (.ok (), l') ∧
      l'.CounterAhead bucket ∧ l'.bucketCounter.toNat = l.bucketCounter.toNat + 1 := by
  have hnext : (l.bucketCounter + 1).toNat = l.bucketCounter.toNat + 1 := by
    exact Nat.mod_eq_of_lt hroom
  have hfresh : bucketEventID bucket toID amount (l.bucketCounter + 1) ∉ l.entries := by
    intro hmem
    have hle := UInt64.le_iff_toNat_le.mp (h toID amount _ hmem)
    omega
  obtain ⟨l', hcall, hcounter, hentries⟩ := transferFromBucketLabeled_of_fresh amb memo isGenesis hholds hfresh
  refine ⟨l', hcall, ?_, by rw [hcounter, hnext]⟩
  intro toID' amount' n hmem
  rw [hentries, Finmap.mem_insert] at hmem
  rw [hcounter]
  rcases hmem with heq | hmem
  · exact UInt64.le_iff_toNat_le.mpr (by rw [bucketEventID_number_inj heq])
  · have hle := UInt64.le_iff_toNat_le.mp (h toID' amount' n hmem)
    exact UInt64.le_iff_toNat_le.mpr (by omega)

end TransferLedger

end aethernet.ledger
