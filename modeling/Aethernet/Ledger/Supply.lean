import Aethernet.Ledger.OnceOnly
import Aethernet.Ledger.Restart

open golang aethernet event ledger.TransferLedger

namespace aethernet.ledger

/-- A ledger with the genesis credits that were ever created, in this process or an earlier one. -/
structure SupplyRun where
  transfer : TransferLedger
  created : List TransferEntry := []

/-- A call that bears on the supply, or a restart. -/
inductive SupplyOp where
  | setMintCap (cap : UInt64)
  | fundAgent (amb : Ambient) (agentID : AgentID) (amount : UInt64)
  | restart (order : RangeOrder EventID TransferEntry)

namespace SupplyRun

def step (sha256 : String → List UInt8) (s : SupplyRun) : SupplyOp → SupplyRun
  | .setMintCap cap => { s with transfer := s.transfer.setMintCap cap }
  | .fundAgent amb agentID amount =>
    let call := s.transfer.fundAgent sha256 amb agentID amount
    { transfer := call.2
      created := match call.1 with
        | .ok () =>
          genesisEntry amb.now (genesisEventID sha256 agentID amount) agentID amount :: s.created
        | .error _ => s.created }
  | .restart order => { s with transfer := loadTransferLedgerFromStore order (s.transfer.store.getD {}) }

/-- The sum of the amounts of all genesis credits, which no machine word bounds. -/
def supply (s : SupplyRun) : ℕ := (s.created.map fun e => e.amount.toNat).sum

/-- The total minted is the supply, and is within the cap if there is one. -/
structure Exact (s : SupplyRun) : Prop where
  minted : s.transfer.totalMinted.toNat = s.supply
  capped : s.transfer.mintCap ≠ 0 → s.transfer.totalMinted ≤ s.transfer.mintCap

/-- A cap is set at or above the total minted, or taken away. -/
def CapCovers (s : SupplyRun) : SupplyOp → Prop
  | .setMintCap cap => cap = 0 ∨ s.transfer.totalMinted ≤ cap
  | _ => True

/-- `FundAgent` finds the cap exceeded, the credit given before, or a store that does not take the entry. -/
def Refused (sha256 : String → List UInt8) (amb : Ambient) (agentID : AgentID) (amount : UInt64)
    (l : TransferLedger) : Prop :=
  (0 < l.mintCap ∧ l.mintCap < l.totalMinted + amount) ∨ genesisEventID sha256 agentID amount ∈ l.entries ∨
    (l.store ≠ none ∧ amb.putTransferErr ≠ none)

/-- A credit that is not refused fits into the total, and a restart finds the total in the store. -/
def Accounted (sha256 : String → List UInt8) (s : SupplyRun) : SupplyOp → Prop
  | .setMintCap _ => True
  | .fundAgent amb agentID amount => Refused sha256 amb agentID amount s.transfer ∨
      s.transfer.totalMinted.toNat + amount.toNat < 2 ^ 64
  | .restart _ => (s.transfer.store.getD {}).minted = s.transfer.totalMinted

variable {sha256 : String → List UInt8} {s : SupplyRun} {amb : Ambient} {agentID : AgentID} {amount : UInt64}

theorem fundAgent_of_refused {l : TransferLedger} (hrefused : Refused sha256 amb agentID amount l) :
    ∃ err, l.fundAgent sha256 amb agentID amount = (.error err, l) := by
  obtain herr | ⟨entry, rfl, hnew, hcap, hcall⟩ := fundAgent_writes sha256 amb agentID amount l
  · exact herr
  · obtain hexceeded | hgiven | ⟨hstore, hput⟩ := hrefused
    · exact absurd hexceeded hcap
    · exact absurd hgiven hnew
    · obtain ⟨stored, hstored⟩ := Option.ne_none_iff_exists'.mp hstore
      obtain ⟨err, herr⟩ := Option.ne_none_iff_exists'.mp hput
      have hnew' : hexEncode (sha256 s!"genesis-mint:{agentID}:{amount}") ∉ l.entries := hnew
      simp only [fundAgent, if_neg hcap, if_neg hnew', hstored, herr]
      exact ⟨_, rfl⟩

theorem step_fundAgent (hrefused : ¬ Refused sha256 amb agentID amount s.transfer) :
    let s' := s.step sha256 (.fundAgent amb agentID amount)
    s'.transfer.totalMinted = s.transfer.totalMinted + amount ∧ s'.supply = amount.toNat + s.supply ∧
      s'.transfer.mintCap = s.transfer.mintCap ∧
      ¬ (0 < s.transfer.mintCap ∧ s.transfer.mintCap < s.transfer.totalMinted + amount) := by
  obtain ⟨hcap, hnew, htaken⟩ : ¬ _ ∧ ¬ _ ∧ ¬ _ := by
    simpa only [Refused, not_or] using hrefused
  have hok := fundAgent_ok sha256 hcap hnew htaken
  obtain ⟨err, herr⟩ | ⟨entry, rfl, -, -, hcall⟩ :=
    fundAgent_writes sha256 amb agentID amount s.transfer
  · rw [herr] at hok
    cases hok
  · refine ⟨?_, ?_, ?_, hcap⟩
    · simp [step, hcall]
    · simp only [step, hcall, supply]
      rfl
    · simp only [step, hcall, setEntry]
      unfold putMinted putTransfer
      cases amb.putTransferErr <;> cases amb.putMetaErr <;> rfl

theorem exact_fundAgent_iff (h : s.Exact) :
    (s.step sha256 (.fundAgent amb agentID amount)).Exact ↔ s.Accounted sha256 (.fundAgent amb agentID amount) := by
  by_cases hrefused : Refused sha256 amb agentID amount s.transfer
  · obtain ⟨err, herr⟩ := fundAgent_of_refused hrefused
    simp only [step, herr]
    exact iff_of_true h (.inl hrefused)
  · obtain ⟨hminted, hsupply, hmintCap, hcap⟩ := step_fundAgent (s := s) hrefused
    have hbefore := h.minted
    have hwraps : (s.transfer.totalMinted + amount).toNat = (s.transfer.totalMinted.toNat + amount.toNat) % 2 ^ 64 :=
      UInt64.toNat_add _ _
    constructor
    · intro hexact
      have hafter := hexact.minted
      rw [hminted, hsupply, hwraps] at hafter
      refine .inr ?_
      by_contra hlarge
      have := Nat.mod_lt (s.transfer.totalMinted.toNat + amount.toNat) (Nat.two_pow_pos 64)
      omega
    · rintro (hrefused' | hfits)
      · exact absurd hrefused' hrefused
      · refine ⟨?_, fun hne => ?_⟩
        · rw [hminted, hsupply, hwraps, Nat.mod_eq_of_lt hfits]
          omega
        · rw [hmintCap] at hne ⊢
          rw [hminted]
          exact UInt64.not_lt.mp fun hlt => hcap ⟨UInt64.pos_iff_ne_zero.mpr hne, hlt⟩

theorem exact_step_iff {op : SupplyOp} (h : s.Exact) (hcovers : s.CapCovers op) :
    (s.step sha256 op).Exact ↔ s.Accounted sha256 op := by
  cases op with
  | setMintCap cap =>
    exact iff_of_true ⟨h.minted, fun hne => hcovers.resolve_left hne⟩ trivial
  | fundAgent amb agentID amount => exact exact_fundAgent_iff h
  | restart order =>
    constructor
    · intro hexact
      exact UInt64.toNat_inj.mp (hexact.minted.trans h.minted.symm)
    · intro hstored
      refine ⟨?_, fun hne => absurd rfl hne⟩
      exact (congrArg UInt64.toNat hstored).trans h.minted

/-- In every run in which caps are set at or above the total minted, the total minted is the sum of all credits ever
    created and within the cap after every step exactly if no credit that is given makes the total wrap and every
    restart finds the total in the store. -/
theorem minted_exact_iff (sha256 : String → List UInt8) (bucketCounter : UInt64) (ops : List SupplyOp)
    (hcaps : transition.MeetsAlong (step sha256) CapCovers ⟨.initial (some {}) 0 bucketCounter, []⟩ ops) :
    transition.MeetsAlong (step sha256) (fun s op => (s.step sha256 op).Exact)
        ⟨.initial (some {}) 0 bucketCounter, []⟩ ops ↔
      transition.MeetsAlong (step sha256) (Accounted sha256) ⟨.initial (some {}) 0 bucketCounter, []⟩ ops :=
  transition.meetsAlong_iff ⟨rfl, fun hne => absurd rfl hne⟩ (fun _ _ => exact_step_iff) hcaps

section Sample

def sampleRun (ops : List SupplyOp) : SupplyRun :=
  ops.foldl (step sampleHash) ⟨.initial (some {}) 0 0, []⟩

def credit (agentID : AgentID) (amount : UInt64) (putMetaErr : Option Error := none) : SupplyOp :=
  .fundAgent { now := 0, putMetaErr := putMetaErr } agentID amount

theorem minted_exact_of_loggedTotal :
    (sampleRun
      [credit "alice" 60 (some (.new "disk full")), .setMintCap 100, credit "robert" 40, .restart .byKey]).Exact := by
  have hiff := minted_exact_iff sampleHash 0
    [credit "alice" 60 (some (.new "disk full")), .setMintCap 100, credit "robert" 40, .restart .byKey]
    ⟨trivial, .inr (by decide +kernel), trivial, trivial, trivial⟩
  have hexact := hiff.mpr ⟨.inr (by decide +kernel), trivial, .inr (by decide +kernel), ?_, trivial⟩
  · exact hexact.2.2.2.1
  · change (TransferStore.minted _) = _
    decide +kernel

/-- The sum wraps below the cap, and a restart forgets a credit whose total was not stored. -/
theorem minted_wraps_or_forgets :
    ((sampleRun [credit "alice" 50, .setMintCap 100, credit "robert" (0 - 10)]).transfer.totalMinted = 40 ∧
      (sampleRun [credit "alice" 50, .setMintCap 100, credit "robert" (0 - 10)]).supply = 2 ^ 64 + 40) ∧
    (sampleRun [credit "alice" 50 (some (.new "disk full")), .restart .byKey]).transfer.totalMinted = 0 ∧
      (sampleRun [credit "alice" 50 (some (.new "disk full")), .restart .byKey]).supply = 50 := by
  decide +kernel

end Sample

end SupplyRun

end aethernet.ledger
