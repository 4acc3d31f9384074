import Aethernet.Ledger.Buckets

open golang aethernet.event

namespace aethernet.ledger

/-- The entry moves nothing. -/
def TransferEntry.Idle (e : TransferEntry) : Prop :=
  e.amount = 0 ∨ (e.settlement ≠ .settled ∧ e.settlement ≠ .optimistic) ∨
    (e.settlement = .settled ∧ e.fromAgent = e.toAgent)

instance (e : TransferEntry) : Decidable e.Idle := inferInstanceAs (Decidable (_ ∨ _ ∨ _))

namespace TransferLedger

/-- The call presents something that an earlier call of the run recorded: an event of which it made an entry, or a
    credit that it gave. -/
def Again (sha256 : String → List UInt8) (l : TransferLedger) (ops : List Op) : Op → Prop
  | .record _ e | .recordFromSync _ e =>
    ∃ before amb after, (ops = before ++ .record amb e :: after ∧ ((l.run sha256 before).record amb e).1 = .ok () ∨
      ops = before ++ .recordFromSync amb e :: after ∧ e.id ∉ (l.run sha256 before).entries ∧
        ((l.run sha256 before).recordFromSync amb e).1 = .ok ())
  | .fundAgent _ agentID amount =>
    ∃ before amb after, ops = before ++ .fundAgent amb agentID amount :: after ∧
      ((l.run sha256 before).fundAgent sha256 amb agentID amount).1 = .ok ()
  | _ => False

/-- The entry a call would make is still in memory, or the call is refused for another reason, or the entry would
    move nothing. -/
def Harmless (sha256 : String → List UInt8) (l : TransferLedger) : Op → Prop
  | .record amb e =>
    e.id ∈ l.entries ∨ ∃ p, e.transferPayload = .ok p ∧
      (p.fromAgent ≠ "system" ∧ l.balanceLocked p.fromAgent < p.amount ∨ (newEntry amb.now e p).Idle)
  | .recordFromSync amb e => e.id ∈ l.entries ∨ ∃ p, e.transferPayload = .ok p ∧ (newEntry amb.now e p).Idle
  | .fundAgent amb agentID amount =>
    genesisEventID sha256 agentID amount ∈ l.entries ∨ (0 < l.mintCap ∧ l.mintCap < l.totalMinted + amount) ∨
      (l.store ≠ none ∧ amb.putTransferErr ≠ none) ∨ amount = 0
  | _ => True

/-- An agent's net, which decides its balance, and the total minted are the same in both ledgers. -/
def SameFunds (l l' : TransferLedger) : Prop := (∀ a, l'.net a = l.net a) ∧ l'.totalMinted = l.totalMinted

section Entry

variable {e : TransferEntry} {l l' : TransferLedger}

theorem toInt64_injective : Function.Injective UInt64.toInt64 := fun x y h => by
  have hback := congrArg Int64.toUInt64 h
  rwa [UInt64.toUInt64_toInt64, UInt64.toUInt64_toInt64] at hback

theorem entryNet_eq_zero_iff : (∀ a, entryNet a e = 0) ↔ e.Idle := by
  have hnet : ∀ a, entryNet a e = 0 ↔ creditOf a e = reservedOf a e := by
    intro a
    rw [entryNet, sub_eq_zero, toInt64_injective.eq_iff]
  simp only [hnet]
  constructor
  · intro h
    by_cases hsettled : e.settlement = .settled
    · have hto := h e.toAgent
      rw [creditOf, if_pos ⟨rfl, hsettled⟩, reservedOf] at hto
      by_cases hself : e.fromAgent = e.toAgent
      · exact .inr (.inr ⟨hsettled, hself⟩)
      · rw [if_neg fun hcond => hself hcond.1] at hto
        exact .inl hto
    · by_cases hpending : e.settlement = .optimistic
      · have hfrom := h e.fromAgent
        rw [creditOf, if_neg fun hcond => hsettled hcond.2, reservedOf, if_pos ⟨rfl, .inr hpending⟩] at hfrom
        exact .inl hfrom.symm
      · exact .inr (.inl ⟨hsettled, hpending⟩)
  · rintro (hzero | ⟨hsettled, hpending⟩ | ⟨hsettled, hself⟩) a
    · simp [creditOf, reservedOf, hzero]
    · simp [creditOf, reservedOf, hsettled, hpending]
    · simp [creditOf, reservedOf, hsettled, hself]

theorem SameFunds.balanceLocked_eq (h : SameFunds l l') (a : AgentID) : l'.balanceLocked a = l.balanceLocked a := by
  rw [TransferLedger.balanceLocked_eq, TransferLedger.balanceLocked_eq, h.1]

theorem Adds.sameFunds_iff (h : Adds l l' e) : SameFunds l l' ↔ e.Idle ∧ l'.totalMinted = l.totalMinted := by
  rw [SameFunds, ← entryNet_eq_zero_iff]
  refine and_congr_left fun _ => forall_congr' fun a => ?_
  rw [net_eq_sumBy, net_eq_sumBy, h.archived, h.entries, Finmap.sumBy_insert_of_notMem _ e h.fresh, add_left_comm,
    add_eq_right]

end Entry

section Again

variable {sha256 : String → List UInt8} {l : TransferLedger} {amb : Ambient} {e : Event}

theorem SameFunds.refl (l : TransferLedger) : SameFunds l l := ⟨fun _ => rfl, rfl⟩

theorem transfer_of_record (h : (l.record amb e).1 = .ok ()) : e.type = .transfer ∧ ∃ p, e.transferPayload = .ok p := by
  unfold record at h
  by_cases htype : e.type = .transfer
  · rw [if_neg (not_not_intro htype)] at h
    cases hp : e.transferPayload with
    | error err =>
      rw [hp] at h
      cases h
    | ok p => exact ⟨htype, p, rfl⟩
  · rw [if_pos htype] at h
    cases h

theorem transfer_of_recordFromSync (h : (l.recordFromSync amb e).1 = .ok ()) :
    e.type = .transfer ∧ ∃ p, e.transferPayload = .ok p := by
  refine ⟨?_, payload_of_recordFromSync h⟩
  by_contra htype
  rw [recordFromSync, if_pos htype] at h
  cases h

theorem Again.transfer {ops : List Op} (amb : Ambient) (h : l.Again sha256 ops (.record amb e)) :
    e.type = .transfer ∧ ∃ p, e.transferPayload = .ok p := by
  obtain ⟨before, amb', after, ⟨-, hok⟩ | ⟨-, -, hok⟩⟩ := h
  · exact transfer_of_record hok
  · exact transfer_of_recordFromSync hok

theorem record_sameFunds_iff (htype : e.type = .transfer) {p : TransferPayload} (hp : e.transferPayload = .ok p) :
    SameFunds l (l.record amb e).2 ↔ e.id ∈ l.entries ∨
      (p.fromAgent ≠ "system" ∧ l.balanceLocked p.fromAgent < p.amount ∨ (newEntry amb.now e p).Idle) := by
  have hcall : l.record amb e = if e.id ∈ l.entries then
        (.error (.wrap "" errDuplicateEntry s!": {e.id}"), l)
      else if p.fromAgent ≠ "system" ∧ 0 < p.amount ∧ l.balanceLocked p.fromAgent < p.amount then
        (.error (.wrap "" errInsufficientBalance
          s!": agent {p.fromAgent} balance {l.balanceLocked p.fromAgent} < transfer amount {p.amount}"), l)
      else (.ok (), (l.setEntry (newEntry amb.now e p)).putTransfer amb (newEntry amb.now e p)) := by
    rw [record, if_neg (not_not_intro htype), hp]
  have hpos : l.balanceLocked p.fromAgent < p.amount → 0 < p.amount := fun hshort =>
    UInt64.lt_of_le_of_lt (UInt64.le_iff_toNat_le.mpr (Nat.zero_le _)) hshort
  rw [hcall]
  split_ifs with hdup hshort
  · exact iff_of_true (.refl l) (.inl hdup)
  · exact iff_of_true (.refl l) (.inr (.inl ⟨hshort.1, hshort.2.2⟩))
  · have hfunds : ¬ (p.fromAgent ≠ "system" ∧ l.balanceLocked p.fromAgent < p.amount) := fun hshort' =>
      hshort ⟨hshort'.1, hpos hshort'.2, hshort'.2⟩
    rw [(adds_setEntry amb (newEntry amb.now e p) l hdup).sameFunds_iff, putTransfer_totalMinted]
    simp only [hdup, hfunds, false_or]
    exact and_iff_left rfl

theorem recordFromSync_sameFunds_iff (htype : e.type = .transfer) {p : TransferPayload}
    (hp : e.transferPayload = .ok p) :
    SameFunds l (l.recordFromSync amb e).2 ↔ e.id ∈ l.entries ∨ (newEntry amb.now e p).Idle := by
  by_cases hdup : e.id ∈ l.entries
  · have hcall : (l.recordFromSync amb e).2 = l := by
      simp [recordFromSync, htype, hp, if_pos hdup]
    rw [hcall]
    exact iff_of_true (.refl l) (.inl hdup)
  · have hcall : (l.recordFromSync amb e).2 =
        (l.setEntry (newEntry amb.now e p)).putTransfer amb (newEntry amb.now e p) := by
      simp [recordFromSync, htype, hp, if_neg hdup]
    rw [hcall, (adds_setEntry amb (newEntry amb.now e p) l hdup).sameFunds_iff, putTransfer_totalMinted]
    simp only [hdup, false_or]
    exact and_iff_left rfl

theorem fundAgent_ok (sha256 : String → List UInt8) {agentID : AgentID} {amount : UInt64}
    (hcap : ¬ (0 < l.mintCap ∧ l.mintCap < l.totalMinted + amount))
    (hnew : genesisEventID sha256 agentID amount ∉ l.entries)
    (htaken : ¬ (l.store ≠ none ∧ amb.putTransferErr ≠ none)) :
    (l.fundAgent sha256 amb agentID amount).1 = .ok () := by
  have hnew' : hexEncode (sha256 s!"genesis-mint:{agentID}:{amount}") ∉ l.entries := hnew
  simp only [fundAgent, if_neg hcap, if_neg hnew']
  cases hstore : l.store with
  | none => rfl
  | some s =>
    cases herr : amb.putTransferErr with
    | none => rfl
    | some err => exact absurd ⟨by simp [hstore], by simp [herr]⟩ htaken

theorem fundAgent_sameFunds_iff (sha256 : String → List UInt8) (amb : Ambient) (agentID : AgentID) (amount : UInt64)
    (l : TransferLedger) :
    SameFunds l (l.fundAgent sha256 amb agentID amount).2 ↔ l.Harmless sha256 (.fundAgent amb agentID amount) := by
  by_cases hcap : 0 < l.mintCap ∧ l.mintCap < l.totalMinted + amount
  · rw [fundAgent, if_pos hcap]
    exact iff_of_true (.refl l) (.inr (.inl hcap))
  by_cases hdup : genesisEventID sha256 agentID amount ∈ l.entries
  · have hdup' : hexEncode (sha256 s!"genesis-mint:{agentID}:{amount}") ∈ l.entries := hdup
    simp only [fundAgent, if_neg hcap, if_pos hdup']
    exact iff_of_true (.refl l) (.inl hdup)
  by_cases hrefused : l.store ≠ none ∧ amb.putTransferErr ≠ none
  · obtain ⟨s, hs⟩ := Option.ne_none_iff_exists'.mp hrefused.1
    obtain ⟨err, herr⟩ := Option.ne_none_iff_exists'.mp hrefused.2
    have hdup' : hexEncode (sha256 s!"genesis-mint:{agentID}:{amount}") ∉ l.entries := hdup
    simp only [fundAgent, if_neg hcap, if_neg hdup', hs, herr]
    exact iff_of_true (.refl l) (.inr (.inr (.inl hrefused)))
  -- what is left gives the credit
  have hharmless : l.Harmless sha256 (.fundAgent amb agentID amount) ↔ amount = 0 := by
    simp [Harmless, hdup, hcap, hrefused]
  rw [hharmless]
  obtain ⟨err, herr⟩ | ⟨eid, -, hadds, hminted⟩ := fundAgent_cases sha256 amb agentID amount l
  · have hok := fundAgent_ok sha256 hcap hdup hrefused
    rw [herr] at hok
    cases hok
  · rw [hadds.sameFunds_iff, hminted, add_eq_left]
    exact and_iff_right_of_imp fun hzero => .inl hzero

/-- The balances of all agents and the total minted are as before a call that presents something recorded earlier in
    the run if the call is harmless; and only then are the nets behind the balances. -/
theorem again_sameFunds_iff (sha256 : String → List UInt8) (l₀ : TransferLedger) (ops : List Op) (op : Op)
    (hagain : l₀.Again sha256 ops op) :
    let l := l₀.run sha256 ops
    (SameFunds l (l.step sha256 op) ↔ l.Harmless sha256 op) ∧
      (l.Harmless sha256 op → (∀ a, (l.step sha256 op).balanceLocked a = l.balanceLocked a) ∧
        (l.step sha256 op).totalMinted = l.totalMinted) := by
  intro l
  have hiff : SameFunds l (l.step sha256 op) ↔ l.Harmless sha256 op := by
    cases op with
    | record amb e =>
      obtain ⟨htype, p, hp⟩ := hagain.transfer amb
      simp only [Harmless, hp, Except.ok.injEq, exists_eq_left']
      exact record_sameFunds_iff htype hp
    | recordFromSync amb e =>
      obtain ⟨htype, p, hp⟩ := Again.transfer amb hagain
      simp only [Harmless, hp, Except.ok.injEq, exists_eq_left']
      exact recordFromSync_sameFunds_iff htype hp
    | fundAgent amb agentID amount => exact fundAgent_sameFunds_iff sha256 amb agentID amount l
    | _ => exact hagain.elim
  exact ⟨hiff, fun hharmless => ⟨(hiff.mpr hharmless).balanceLocked_eq, (hiff.mpr hharmless).2⟩⟩

end Again

section Sample

def paidBob : Event := transferEvent "e1" "alice" "bob" "100" "" .settled

/-- A settled transfer that arrives twice within its time in memory is counted once. -/
theorem again_sameFunds_of_inMemory :
    let l := (initial none 0 0).run (fun _ => []) [.recordFromSync { now := 0 } paidBob]
    l.balanceLocked "bob" = 100 ∧
      ∀ a, (l.step (fun _ => []) (.recordFromSync { now := 2 } paidBob)).balanceLocked a = l.balanceLocked a := by
  refine ⟨by decide +kernel, ?_⟩
  exact ((again_sameFunds_iff (fun _ => []) (initial none 0 0) [.recordFromSync { now := 0 } paidBob]
    (.recordFromSync { now := 2 } paidBob)
    ⟨[], { now := 0 }, [], .inr ⟨rfl, Finmap.notMem_empty, by decide +kernel⟩⟩).2 (.inl (by decide +kernel))).1

/-- The same transfer, and the same credit, are counted again once they are evicted. -/
theorem again_counts_of_evicted :
    let balances (ops : List Op) (a : AgentID) :=
      (((initial none 0 0).run (fun _ => [0xa5]) ops).balanceLocked a,
        ((initial none 0 0).run (fun _ => [0xa5]) ops).totalMinted)
    let received : Op := .recordFromSync { now := 0 } paidBob
    let funded : Op := .fundAgent { now := 0 } "alice" 300
    let recorded : Op := .record { now := 0 } paidBob
    balances [received, .evictBefore 1] "bob" = (100, 0) ∧
      balances [received, .evictBefore 1, received] "bob" = (200, 0) ∧
      balances [funded, .evictBefore 1] "alice" = (300, 300) ∧
      balances [funded, .evictBefore 1, funded] "alice" = (600, 600) ∧
      balances [funded, recorded, .evictBefore 1] "bob" = (100, 300) ∧
      balances [funded, recorded, .evictBefore 1, recorded] "bob" = (200, 300) := by
  decide +kernel

end Sample

end TransferLedger

end aethernet.ledger
