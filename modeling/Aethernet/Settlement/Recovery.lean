import Aethernet.Settlement.Durability
import Aethernet.Settlement.Interleaving
import Aethernet.Settlement.Noninterference

open golang aethernet event ledger escrow staking fees TransferLedger settlement.Action Finmap

namespace aethernet.ledger.TransferLedger

variable {l l' : TransferLedger} {target : Event} {state : SettlementState} {p : TransferPayload} {amb amb' : Ambient}

theorem lookup_recorded (amb : Ambient) :
    ((l.setEntry (newEntry amb.now target p)).putTransfer amb (newEntry amb.now target p)).entries.lookup target.id =
      some (newEntry amb.now target p) := by
  rw [putTransfer_entries]
  exact lookup_insert _

theorem stateOf_recordFromSync (amb : Ambient) : (l.recordFromSync amb target).2.stateOf target = l.stateOf target := by
  obtain hsame | ⟨p, -, hnew, hcall⟩ := recordFromSync_writes amb target l
  · rw [hsame]
  · rw [hcall, stateOf, stateOf, lookup_recorded, lookup_eq_none.mpr hnew]
    rfl

theorem MaySettle.exists_payload (h : l.MaySettle target state) : ∃ p, target.transferPayload = .ok p := by
  have hdecodes := h.1
  cases hp : target.transferPayload with
  | ok p => exact ⟨p, rfl⟩
  | error err =>
    rw [hp] at hdecodes
    cases hdecodes

theorem MaySettle.recordFromSync (amb : Ambient) :
    (l.recordFromSync amb target).2.MaySettle target state ↔ l.MaySettle target state := by
  rw [MaySettle, MaySettle, stateOf_recordFromSync]

theorem recordAndSettle_error {err : Error} (herr : (recordAndSettle amb amb' state target l).1 = .error err) :
    (recordAndSettle amb amb' state target l).2 = (l.recordFromSync amb target).2 := by
  unfold recordAndSettle at herr ⊢
  cases hrecord : l.recordFromSync amb target with
  | mk result l₁ =>
    rw [hrecord] at herr
    cases result with
    | error => rfl
    | ok =>
      change (settle amb' target.id state l₁).1 = _ at herr
      change (settle amb' target.id state l₁).2 = l₁
      obtain ⟨err', hsettle⟩ | ⟨e, allowed, -, -, -, hsettle⟩ := settle_writes amb' target.id state l₁
      · rw [hsettle]
      · rw [hsettle] at herr
        cases herr

theorem SettledAs.not_maySettle (h : l.SettledAs target.id state) : ¬ l.MaySettle target state := by
  rintro ⟨-, hmay⟩
  obtain ⟨e, hlookup, hstate⟩ := h
  rw [stateOf, hlookup, Option.map_some, Option.getD_some, hstate, SettlementState.mayBecome] at hmay
  cases hallowed : validTransitions state with
  | none => simp [hallowed] at hmay
  | some allowed => exact notMem_validTransitions state hallowed (by simpa [hallowed] using hmay)

section Transfers

variable (htype : target.type = .transfer)

include htype

section

variable (hp : target.transferPayload = .ok p)

include hp

theorem recordFromSync_of_mem (hmem : target.id ∈ l.entries) (amb : Ambient) :
    l.recordFromSync amb target = (.ok (), l) := by
  simp [recordFromSync, htype, hp, if_pos hmem]

theorem recordFromSync_of_new (hnew : target.id ∉ l.entries) (amb : Ambient) :
    l.recordFromSync amb target =
      (.ok (), (l.setEntry (newEntry amb.now target p)).putTransfer amb (newEntry amb.now target p)) := by
  simp [recordFromSync, htype, hp, if_neg hnew]

theorem recordAndSettle_of_maySettle (hkeyed : l.KeyedAt target.id)
    (hmay : (l.stateOf target).mayBecome state) (amb amb' : Ambient) :
    ∃ l₂, recordAndSettle amb amb' state target l = (.ok (), l₂) ∧
      SameBooks (l.setEntry { l.entryOf amb.now target p with settlement := state }) l₂ ∧
      l₂.bucketCounter = l.bucketCounter := by
  cases hlookup : l.entries.lookup target.id with
  | some e =>
    have hentry : l.entryOf amb.now target p = e := by rw [entryOf, hlookup, Option.getD_some]
    have hstate : e.settlement.mayBecome state := by rwa [← settlement_entryOf amb.now p, hentry] at hmay
    rw [hentry, recordAndSettle, recordFromSync_of_mem htype hp (mem_of_lookup_eq_some hlookup)]
    refine ⟨_, settle_of_mayBecome amb' hlookup (hkeyed e hlookup) hstate, ⟨?_, ?_⟩, ?_⟩
    · rw [putTransfer_entries]
    · rw [putTransfer_archived]
    · rw [putTransfer_bucketCounter]
      rfl
  | none =>
    have hentry : l.entryOf amb.now target p = newEntry amb.now target p := by rw [entryOf, hlookup, Option.getD_none]
    have hstate : (newEntry amb.now target p).settlement.mayBecome state := by
      rwa [← settlement_entryOf amb.now p, hentry] at hmay
    rw [hentry, recordAndSettle, recordFromSync_of_new htype hp (lookup_eq_none.mp hlookup)]
    refine ⟨_, settle_of_mayBecome amb' (lookup_recorded amb) rfl hstate, ⟨?_, ?_⟩, ?_⟩
    · simp [setEntry, newEntry]
    · simp [setEntry]
    · simp [setEntry]

theorem sameBooks_setEntry_recordFromSync (amb : Ambient) :
    SameBooks ((l.recordFromSync amb target).2.setEntry
        { (l.recordFromSync amb target).2.entryOf amb.now target p with settlement := state })
      (l.setEntry { l.entryOf amb.now target p with settlement := state }) := by
  by_cases hmem : target.id ∈ l.entries
  · rw [recordFromSync_of_mem htype hp hmem]
    exact .refl _
  · rw [recordFromSync_of_new htype hp hmem, entryOf, entryOf, lookup_recorded, lookup_eq_none.mpr hmem]
    exact ⟨by simp [setEntry, newEntry], by simp [setEntry]⟩

end

theorem maySettle_of_recordAndSettle (hok : (recordAndSettle amb amb' state target l).1 = .ok ()) :
    l.MaySettle target state := by
  cases hp : target.transferPayload with
  | error err =>
    simp [recordAndSettle, recordFromSync, htype, hp] at hok
  | ok p =>
    refine ⟨by rw [hp]; rfl, ?_⟩
    have hrecord : (l.recordFromSync amb target).1 = .ok () := by
      by_cases hmem : target.id ∈ l.entries
      · rw [recordFromSync_of_mem htype hp hmem]
      · rw [recordFromSync_of_new htype hp hmem]
    have hsettle : (settle amb' target.id state (l.recordFromSync amb target).2).1 = .ok () := by
      rw [recordAndSettle, ← Prod.eta (l.recordFromSync amb target), hrecord] at hok
      exact hok
    obtain ⟨err, herr⟩ | ⟨e, allowed, hlookup, hallowed, hmem, -⟩ :=
      settle_writes amb' target.id state (l.recordFromSync amb target).2
    · rw [herr] at hsettle
      cases hsettle
    · rw [← stateOf_recordFromSync amb, stateOf, hlookup, Option.map_some, Option.getD_some, SettlementState.mayBecome,
        hallowed]
      simpa using hmem

theorem recordAndSettle_of_not_maySettle (hnot : ¬ l.MaySettle target state) :
    ∃ err l₁, recordAndSettle amb amb' state target l = (.error err, l₁) ∧ ¬ l₁.MaySettle target state := by
  cases hcall : (recordAndSettle amb amb' state target l).1 with
  | ok => exact absurd (maySettle_of_recordAndSettle htype hcall) hnot
  | error err =>
    refine ⟨err, (l.recordFromSync amb target).2, Prod.ext hcall (recordAndSettle_error hcall), ?_⟩
    rwa [MaySettle.recordFromSync]

end Transfers

section Settled

variable {now : Time} {l₂ l₂' : TransferLedger}

variable (hkeyed : l.KeyedAt target.id)
  (hbooks : SameBooks (l.setEntry { l.entryOf now target p with settlement := state }) l₂)

include hkeyed hbooks

theorem mem_entries_of_settled (x : EventID) : x ∈ l₂.entries ↔ x = target.id ∨ x ∈ l.entries := by
  rw [hbooks.entries]
  simp [setEntry, mem_insert, eventID_entryOf hkeyed]

theorem settledAs_of_settled : l₂.SettledAs target.id state := by
  refine ⟨{ l.entryOf now target p with settlement := state }, ?_, rfl⟩
  rw [hbooks.entries]
  simp only [setEntry, eventID_entryOf hkeyed]
  exact lookup_insert _

omit hkeyed in
theorem Alike.settled {now' : Time} (h : Alike target.id l l')
    (hbooks' : SameBooks (l'.setEntry { l'.entryOf now' target p with settlement := state }) l₂') :
    Alike target.id l₂ l₂' := by
  have hid : { l.entryOf now target p with settlement := state : TransferEntry }.eventID = target.id :=
    eventID_entryOf h.keyed now p
  have hsame : { l'.entryOf now' target p with settlement := state : TransferEntry }.undated =
      { l.entryOf now target p with settlement := state : TransferEntry }.undated :=
    congrArg (fun e : TransferEntry => { e with settlement := state }) (h.undated_entryOf now now' p)
  exact (h.setEntry hid hsame).congr hbooks hbooks'

end Settled

end aethernet.ledger.TransferLedger

namespace aethernet.settlement.Applicator

/-- Balances, escrow entries, stakes and the targets applied are the same. -/
structure Agree (a b : Applicator) : Prop where
  balances : ∀ agentID, b.transfer.balanceLocked agentID = a.transfer.balanceLocked agentID
  escrows : b.escrowMgr.entries = a.escrowMgr.entries
  stakes : ∀ agentID, b.stakedAmount agentID = a.stakedAmount agentID
  applied : b.applied = a.applied

/-- What `Apply` leaves behind when it stops after this many parts of `applyToTarget`. -/
def crash (env : ApplyEnv) (sp : SettlementPayload) (k : Nat) (a : Applicator) : Applicator :=
  if sp.targetEventID ∈ a.applied then a
  else match env.lookup.get sp.targetEventID with
    | .error _ => a
    | .ok target => (forM ((ofType target.type).take k) fun action : Action => action.run env sp target) a |>.2

/-- After the crash and a restart, delivering the settlement again returns no error and ends where the call would have
    that was not interrupted. -/
def Recovers (env env' : ApplyEnv) (r : Reload) (sp : SettlementPayload) (k : Nat) (a : Applicator) : Prop :=
  (apply env' sp ((a.crash env sp k).restart r)).1 = .ok () ∧
    Agree (apply env sp a).2 (apply env' sp ((a.crash env sp k).restart r)).2

/-- The treasury's share of the fee is paid after a restart exactly if it is without one, where the balance covers it.
    The counter gives the transfer its next number in the one case and the first in the other. -/
def FeeAgrees (sp : SettlementPayload) (target : Event) (a : Applicator) : Prop :=
  ∀ p fromID amount, target.transferPayload = .ok p → a.feeDue sp target = some (fromID, amount) →
    fromID ≠ a.treasuryID →
    amount ≤ (a.transfer.setEntry { a.transfer.entryOf 0 target p with settlement := sp.settleState }).balanceLocked
      fromID →
    ((bucketEventID fromID a.treasuryID amount 1 = target.id ∨
        bucketEventID fromID a.treasuryID amount 1 ∈ a.transfer.stored) ↔
      (bucketEventID fromID a.treasuryID amount (a.transfer.bucketCounter + 1) = target.id ∨
        bucketEventID fromID a.treasuryID amount (a.transfer.bucketCounter + 1) ∈ a.transfer.entries))

/-- The target is applied before, or it may be settled and the crash is before the ledger has settled it or after the
    target is marked. -/
def Recoverable (sp : SettlementPayload) (target : Event) (k : Nat) (a : Applicator) : Prop :=
  sp.targetEventID ∈ a.applied ∨
    a.transfer.MaySettle target sp.settleState ∧ (k ≤ 1 ∧ a.FeeAgrees sp target ∨ 8 ≤ k)

variable {env env' : ApplyEnv} {sp : SettlementPayload} {target : Event} {a b : Applicator} {id : EventID} {n : UInt64}
  {c : Applicator}

theorem Alike.agree (h : a.Alike id b) : Agree a b :=
  ⟨h.ledger.balanceLocked_eq, h.escrows, h.stakes, h.applied⟩

theorem apply_of_mem (hmem : sp.targetEventID ∈ a.applied) : apply env sp a = (.ok (), a) := if_pos hmem

theorem apply_of_notMem (hnot : sp.targetEventID ∉ a.applied) (hget : env.lookup.get sp.targetEventID = .ok target) :
    apply env sp a = applyToTarget env sp target a := by
  rw [apply, if_neg hnot, hget]

theorem crash_of_mem (hmem : sp.targetEventID ∈ a.applied) (k : Nat) : a.crash env sp k = a := if_pos hmem

theorem crash_of_notMem (hnot : sp.targetEventID ∉ a.applied) (hget : env.lookup.get sp.targetEventID = .ok target)
    (k : Nat) : a.crash env sp k =
      ((forM ((ofType target.type).take k) fun action : Action => action.run env sp target) a).2 := by
  rw [crash, if_neg hnot, hget]

/-- What holds between the parts of `applyToTarget`: the stores have what the memory has, and until the fee is paid the
    counter is where it was. -/
def DurableAfter (id : EventID) (n : UInt64) (visited : List Action) (a : Applicator) : Prop :=
  a.Durable id n ∧ (.payFee ∉ visited → a.transfer.bucketCounter = n)

theorem DurableAfter.run {visited : List Action} {action : Action} (h : a.DurableAfter id n visited)
    (hsucceeds : env.Succeeds) (hid : target.id = id) (hmem : action ∈ ofType .transfer)
    (hfirst : action ∉ visited) : (action.run env sp target a).2.DurableAfter id n (visited ++ [action]) := by
  refine ⟨h.1.run hsucceeds hid hmem fun hpay => h.2 (hpay ▸ hfirst), fun hpay => ?_⟩
  simp only [List.mem_append, List.mem_singleton, not_or] at hpay
  rw [bucketCounter_run hmem (Ne.symm hpay.2), h.2 hpay.1]

theorem Durable.crash (h : a.Durable sp.targetEventID a.transfer.bucketCounter) (hsucceeds : env.Succeeds)
    (hget : env.lookup.get sp.targetEventID = .ok target) (htype : target.type = .transfer) (k : Nat) :
    (a.crash env sp k).Durable sp.targetEventID a.transfer.bucketCounter := by
  by_cases hmem : sp.targetEventID ∈ a.applied
  · rwa [crash_of_mem hmem]
  rw [crash_of_notMem hmem hget, htype]
  have hloop : Method.Meets (DurableAfter sp.targetEventID a.transfer.bucketCounter [])
      (forM ((ofType .transfer).take k) fun action : Action => action.run env sp target)
      (fun _ => DurableAfter sp.targetEventID a.transfer.bucketCounter ((ofType .transfer).take k))
      (Durable sp.targetEventID a.transfer.bucketCounter) := by
    refine Method.Meets.loop_of_append fun visited action rest hsplit => ?_
    have hparts : visited ++ action :: rest <+: ofType .transfer := hsplit ▸ List.take_prefix k _
    have hmem : action ∈ ofType .transfer := hparts.subset (by simp)
    have hfirst : action ∉ visited := fun hvisited =>
      (List.nodup_append.mp ((nodup_ofType .transfer).sublist hparts.sublist)).2.2 action hvisited action
        List.mem_cons_self rfl
    have hrun : ∀ b : Applicator, b.DurableAfter sp.targetEventID a.transfer.bucketCounter visited →
        (action.run env sp target b).2.DurableAfter sp.targetEventID a.transfer.bucketCounter (visited ++ [action]) :=
      fun b hb => hb.run hsucceeds (env.lookup.id_eq _ _ hget) hmem hfirst
    refine Method.Meets.intro (fun b hb _ b' hcall => ?_) fun b hb _ b' hcall => ?_
    all_goals have hb' := hrun b hb
    · rwa [hcall] at hb'
    · rw [hcall] at hb'
      exact hb'.1
  have hcall := hloop a ⟨h, fun _ => rfl⟩
  split at hcall
  next heq =>
    rw [heq]
    exact hcall.1
  next heq =>
    rw [heq]
    exact hcall

/-- What `applyToTarget` does after a transfer is settled, up to a crash. -/
def finish (env : ApplyEnv) (sp : SettlementPayload) (target : Event) (actions : List Action) (a : Applicator) :
    Applicator :=
  actions.foldl (fun a action => (action.run env sp target a).2) a

theorem onTransfer_eq (x : Method TransferLedger Unit) (a : Applicator) :
    onTransfer x a = ((x a.transfer).1, a.withLedger (x a.transfer).2) := rfl

theorem forM_take_of_transfer (env : ApplyEnv) (hid : target.id = sp.targetEventID) (htype : target.type = .transfer)
    (k : Nat) :
    (forM ((ofType target.type).take (k + 2)) fun action : Action => action.run env sp target) =
      onTransfer (recordAndSettle env.recordAmb env.settleAmb sp.settleState target) >>= fun _ =>
        forM (Action.afterSettle.take k) fun action : Action => action.run env sp target := by
  rw [← record_settle env hid, htype, bind_assoc]
  rfl

theorem run_of_maySettle (env : ApplyEnv) (hid : target.id = sp.targetEventID) (htype : target.type = .transfer)
    {p : TransferPayload} (hp : target.transferPayload = .ok p)
    (hkeyed : a.transfer.KeyedAt target.id)
    (hmay : a.transfer.MaySettle target sp.settleState) :
    ∃ l, SameBooks (a.transfer.setEntry
        { a.transfer.entryOf env.recordAmb.now target p with settlement := sp.settleState }) l ∧
      l.bucketCounter = a.transfer.bucketCounter ∧
      ∀ k, forM ((ofType target.type).take (k + 2)) (fun action : Action => action.run env sp target) a =
        (.ok (), finish env sp target (Action.afterSettle.take k) (a.withLedger l)) := by
  obtain ⟨l, hcall, hbooks, hcounter⟩ :=
    recordAndSettle_of_maySettle htype hp hkeyed hmay.2 env.recordAmb env.settleAmb
  refine ⟨l, hbooks, hcounter, fun k => ?_⟩
  have hsettle : onTransfer (recordAndSettle env.recordAmb env.settleAmb sp.settleState target) a =
      (.ok (), a.withLedger l) := by
    rw [onTransfer_eq, hcall]
  have hsafe : ∀ action ∈ Action.afterSettle.take k, (action.run env sp target).CannotFail := fun action hmem =>
    cannotFail (List.all_eq_true.mp (by decide : Action.afterSettle.all isSafe) action
      (List.mem_of_mem_take hmem)) env sp target
  rw [forM_take_of_transfer env hid htype, Method.bind_of_ok hsettle]
  exact Method.forM_of_cannotFail hsafe _

theorem run_of_not_maySettle (env : ApplyEnv) (hid : target.id = sp.targetEventID) (htype : target.type = .transfer)
    (hnot : ¬ a.transfer.MaySettle target sp.settleState) :
    ∃ err l, ¬ l.MaySettle target sp.settleState ∧
      ∀ k, forM ((ofType target.type).take (k + 2)) (fun action : Action => action.run env sp target) a =
        (.error err, a.withLedger l) := by
  obtain ⟨err, l, hcall, hstill⟩ := recordAndSettle_of_not_maySettle htype hnot
  refine ⟨err, l, hstill, fun k => ?_⟩
  have hsettle : onTransfer (recordAndSettle env.recordAmb env.settleAmb sp.settleState target) a =
      (.error err, a.withLedger l) := by
    rw [onTransfer_eq, hcall]
  rw [forM_take_of_transfer env hid htype, Method.bind_of_error hsettle]

theorem applyToTarget_eq_take (env : ApplyEnv) (htype : target.type = .transfer) :
    applyToTarget env sp target = forM ((ofType target.type).take (6 + 2))
      fun action : Action => action.run env sp target := by
  rw [applyToTarget, htype]
  rfl

theorem refuses_restart (h : a.Durable sp.targetEventID n) (hnot : ¬ a.transfer.MaySettle target sp.settleState)
    (hopen : sp.targetEventID ∉ a.applied) (hget : env'.lookup.get sp.targetEventID = .ok target)
    (htype : target.type = .transfer) (r : Reload) : (apply env' sp (a.restart r)).1 ≠ .ok () := by
  have hid : target.id = sp.targetEventID := env'.lookup.id_eq _ _ hget
  have halike := h.alike_restart r
  have hopen' : sp.targetEventID ∉ (a.restart r).applied := by rwa [halike.applied]
  have hledger := halike.ledger
  rw [← hid] at hledger
  have hnot' : ¬ (a.restart r).transfer.MaySettle target sp.settleState := by rwa [hledger.maySettle_iff]
  obtain ⟨err, l, -, hrun⟩ := run_of_not_maySettle env' hid htype hnot'
  rw [apply_of_notMem hopen' hget, applyToTarget_eq_take env' htype, hrun]
  exact fun hok => by cases hok

theorem settledAs_finish {actions : List Action} (hactions : ∀ action ∈ actions, action ∈ Action.afterSettle)
    (hsettled : a.transfer.SettledAs target.id sp.settleState) :
    (finish env sp target actions a).transfer.SettledAs target.id sp.settleState := by
  refine List.foldlRecOn (motive := fun b : Applicator => b.transfer.SettledAs target.id sp.settleState) _ _ hsettled
    fun b hb action hmem => ?_
  have haction : ∀ x ∈ Action.afterSettle, x ≠ .recordTransfer ∧ x ≠ .settleTransfer := by decide
  obtain ⟨hrecord, hsettle⟩ := haction action (hactions action hmem)
  exact run_keeps (SettledAs.bucketStable _ _) env sp target hrecord hsettle b hb

theorem notMem_applied_finish {k : Nat} (hk : k ≤ 5) (hopen : sp.targetEventID ∉ a.applied) :
    sp.targetEventID ∉ (finish env sp target (Action.afterSettle.take k) a).applied := by
  refine List.foldlRecOn (motive := fun b : Applicator => sp.targetEventID ∉ b.applied) _ _ hopen
    fun b hb action hmem => ?_
  have hfive : ∀ x ∈ Action.afterSettle.take 5, x ≠ .markApplied := by decide
  have hframe : action.Frame fun b => sp.targetEventID ∉ b.applied :=
    .of_fields (fun _ _ hb => hb) (fun _ _ hb => hb) (fun _ _ hb => hb) (fun _ _ _ hb => hb) fun h =>
      absurd h (hfive action (List.take_subset_take_left _ hk hmem))
  exact hframe.run env target sp b hb

theorem Alike.agree_finish_iff (h : a.Alike id b) (hmem : id ∈ a.transfer.entries) :
    Agree (finish env sp target Action.afterSettle a) (finish env' sp target Action.afterSettle b) ↔
      PaysAlike sp target a b := by
  -- up to the fee, and from there on, both do the same
  let before := [Action.bookkeepTransfer, .recordIdentity, .trackFee]
  have hbefore : ∀ action ∈ before, action ∈ besideLedger := by decide
  have hactivity : Action.recordActivity ∈ besideLedger := by decide
  have hmark : Action.markApplied ∈ besideLedger := by decide
  have hpays : PaysAlike sp target (finish env sp target before a) (finish env' sp target before b) ↔
      PaysAlike sp target a b := by
    simp only [before, finish, List.foldl_cons, List.foldl_nil]
    rw [PaysAlike.run_iff (hbefore _ (by decide)), PaysAlike.run_iff (hbefore _ (by decide)),
      PaysAlike.run_iff (hbefore _ (by decide))]
  have hledger : (finish env sp target before a).transfer = a.transfer := by
    have hsame : ∀ action ∈ before, ∀ c : Applicator, (action.run env sp target c).2.transfer = c.transfer :=
      fun action hmem _ => (transfer_run (hbefore action hmem)).1
    simp only [before, finish, List.foldl_cons, List.foldl_nil]
    rw [hsame _ (by decide), hsame _ (by decide), hsame _ (by decide)]
  have halike : Alike id (finish env sp target before a) (finish env' sp target before b) :=
    ((h.run (hbefore _ (by decide))).run (hbefore _ (by decide))).run (hbefore _ (by decide))
  rw [← hpays]
  constructor
  · intro hagree
    refine halike.paysAlike env env' fun agentID => ?_
    have hbalances := hagree.balances agentID
    simp only [Action.afterSettle, finish, List.foldl_cons, List.foldl_nil] at hbalances
    rwa [(transfer_run hmark).1, (transfer_run hactivity).1, (transfer_run hmark).1,
      (transfer_run hactivity).1] at hbalances
  · intro hpays
    have hpaid := halike.payFee env env' (hledger ▸ hmem) hpays
    exact ((hpaid.run hactivity).run hmark).agree

/-- A crash before the settlement in the ledger: at most the transfer is recorded. -/
structure Early (env : ApplyEnv) (sp : SettlementPayload) (target : Event) (a c : Applicator) : Prop where
  ledger : c = a.withLedger c.transfer
  counter : c.transfer.bucketCounter = a.transfer.bucketCounter
  books : ∀ p, target.transferPayload = .ok p → SameBooks
    (c.transfer.setEntry { c.transfer.entryOf env.recordAmb.now target p with settlement := sp.settleState })
    (a.transfer.setEntry { a.transfer.entryOf env.recordAmb.now target p with settlement := sp.settleState })
  stored : ∀ x, x ≠ target.id → (x ∈ c.transfer.stored ↔ x ∈ a.transfer.stored)
  maySettle : c.transfer.MaySettle target sp.settleState ↔ a.transfer.MaySettle target sp.settleState

theorem early_self (env : ApplyEnv) : Early env sp target a a :=
  ⟨rfl, rfl, fun _ _ => .refl _, fun _ _ => Iff.rfl, Iff.rfl⟩

theorem early_record (h : a.Durable id n) (hsucceeds : env.Succeeds) (htype : target.type = .transfer) :
    Early env sp target a (Action.recordTransfer.run env sp target a).2 := by
  have hrun : (Action.recordTransfer.run env sp target a).2 =
      a.withLedger (a.transfer.recordFromSync env.recordAmb target).2 := by
    rw [Action.run, Method.wrapError_snd]
    rfl
  rw [hrun]
  refine ⟨rfl, ?_, fun p hp => sameBooks_setEntry_recordFromSync htype hp _, fun x hx => ?_,
    MaySettle.recordFromSync _⟩
  · rw [← hrun]
    exact bucketCounter_run (by decide) (by decide)
  · change x ∈ (a.transfer.recordFromSync env.recordAmb target).2.stored ↔ _
    obtain hsame | ⟨p, -, -, hcall⟩ := recordFromSync_writes env.recordAmb target a.transfer
    · rw [hsame]
    · rw [hcall, (stored_putTransfer hsucceeds.record (by exact h.ledger.mirrored.store) _).1,
        mem_insert, or_iff_right (by exact hx)]
      rfl

theorem early_crash (h : a.Durable id n) (hsucceeds : env.Succeeds) (hopen : sp.targetEventID ∉ a.applied)
    (hget : env.lookup.get sp.targetEventID = .ok target) (htype : target.type = .transfer) {k : Nat} (hk : k ≤ 1) :
    Early env sp target a (a.crash env sp k) := by
  rw [crash_of_notMem hopen hget, htype]
  obtain rfl | rfl : k = 0 ∨ k = 1 := by omega
  · exact early_self env
  · have hrun : (forM ((ofType .transfer).take 1) (fun action : Action => action.run env sp target) a).2 =
        (recordTransfer.run env sp target a).2 := by
      change ((recordTransfer.run env sp target >>= fun _ => pure PUnit.unit) a).2 = _
      rw [bind_pure]
    rw [hrun]
    exact early_record h hsucceeds htype

theorem Early.applied_eq (h : Early env sp target a c) : c.applied = a.applied := by
  rw [h.ledger]
  rfl

theorem mem_applied_finish : sp.targetEventID ∈ (finish env sp target Action.afterSettle a).applied := by
  exact Finset.mem_insert_self ..

theorem Early.paysAlike_iff {r : Reload} {p : TransferPayload} {now now' : Time} {l l' : TransferLedger}
    (h : Early env sp target a c) (hc : c.Durable target.id n) (hp : target.transferPayload = .ok p)
    (hkeyed : a.transfer.KeyedAt target.id)
    (hl : SameBooks
      (a.transfer.setEntry { a.transfer.entryOf now target p with settlement := sp.settleState }) l)
    (hcounter : l.bucketCounter = a.transfer.bucketCounter) (hll' : l.Alike target.id l')
    (hl' : SameBooks ((c.restart r).transfer.setEntry
      { (c.restart r).transfer.entryOf now' target p with settlement := sp.settleState }) l')
    (hcounter' : l'.bucketCounter = 0) :
    PaysAlike sp target (a.withLedger l) ((c.restart r).withLedger l') ↔ FeeAgrees sp target a := by
  have hself : a.transfer.Alike target.id a.transfer := ⟨fun _ => rfl, rfl, hkeyed⟩
  have halike := (hc.alike_restart r).ledger
  have hbalance : ∀ agentID, (a.transfer.setEntry
      { a.transfer.entryOf 0 target p with settlement := sp.settleState }).balanceLocked agentID =
      l.balanceLocked agentID := fun agentID => (hself.settled hl (.refl _)).balanceLocked_eq agentID
  have hentries : (c.restart r).transfer.entries = c.transfer.stored := hc.ledger.mirrored.entries_restart r.transfers
  have hmem : ∀ x, x ∈ l'.entries ↔ x = target.id ∨ x ∈ a.transfer.stored := by
    intro x
    rw [mem_entries_of_settled halike.keyed_right hl', hentries]
    by_cases hx : x = target.id
    · simp [hx]
    · simp [hx, h.stored x hx]
  have hpays : ∀ fromID amount, ((l'.PaysNext fromID a.treasuryID amount ↔ l.PaysNext fromID a.treasuryID amount) ↔
      (amount ≤ l.balanceLocked fromID →
        ((bucketEventID fromID a.treasuryID amount 1 = target.id ∨
            bucketEventID fromID a.treasuryID amount 1 ∈ a.transfer.stored) ↔
          (bucketEventID fromID a.treasuryID amount (a.transfer.bucketCounter + 1) = target.id ∨
            bucketEventID fromID a.treasuryID amount (a.transfer.bucketCounter + 1) ∈ a.transfer.entries)))) := by
    intro fromID amount
    rw [PaysNext, PaysNext, hll'.balanceLocked_eq, hcounter, hcounter', zero_add, hmem,
      mem_entries_of_settled hkeyed hl, and_congr_right_iff, not_iff_not]
  constructor
  · intro halike p' fromID amount hp' hdue hother hholds
    obtain rfl : p = p' := by
      rw [hp] at hp'
      exact Except.ok.inj hp'
    rw [hbalance] at hholds
    exact (hpays fromID amount).mp (halike fromID amount hdue hother) hholds
  · intro hagrees fromID amount hdue hother
    refine (hpays fromID amount).mpr fun hholds => hagrees p fromID amount hp hdue hother ?_
    rwa [hbalance]

theorem Early.redelivers_iff (h : Early env sp target a c) (ha : a.Durable sp.targetEventID n)
    (hc : c.Durable sp.targetEventID n) (hopen : sp.targetEventID ∉ a.applied)
    (hmay : a.transfer.MaySettle target sp.settleState) (hget : env.lookup.get sp.targetEventID = .ok target)
    (hget' : env'.lookup.get sp.targetEventID = .ok target) (htype : target.type = .transfer) (r : Reload) :
    ((apply env' sp (c.restart r)).1 = .ok () ∧ Agree (apply env sp a).2 (apply env' sp (c.restart r)).2) ↔
      FeeAgrees sp target a := by
  have hid : target.id = sp.targetEventID := env.lookup.id_eq _ _ hget
  rw [← hid] at ha hc
  have halike := hc.alike_restart r
  obtain ⟨p, hp⟩ := hmay.exists_payload
  have hkeyed := ha.ledger.mirrored.keyedAt target.id
  have hmay' : (c.restart r).transfer.MaySettle target sp.settleState := by
    rwa [halike.ledger.maySettle_iff, h.maySettle]
  have hopen' : sp.targetEventID ∉ (c.restart r).applied := by
    rwa [halike.applied, h.applied_eq]
  obtain ⟨l, hl, hcounter, hrun⟩ := run_of_maySettle env hid htype hp hkeyed hmay
  obtain ⟨l', hl', hcounter', hrun'⟩ := run_of_maySettle env' hid htype hp halike.ledger.keyed_right hmay'
  have hledgers : l.Alike target.id l' := (halike.ledger.settled (h.books p hp) hl').congr hl (.refl _)
  have hmem : target.id ∈ l.entries := (mem_entries_of_settled hkeyed hl _).mpr (.inl rfl)
  have hsettled : (a.withLedger l).Alike target.id ((c.restart r).withLedger l') := by
    have hrest : c.withLedger l = a.withLedger l := by
      rw [h.ledger]
      rfl
    rw [← hrest]
    exact halike.withLedger hledgers
  have hpays := h.paysAlike_iff hc hp hkeyed hl hcounter hledgers hl' hcounter'
  rw [apply_of_notMem hopen hget, apply_of_notMem hopen' hget', applyToTarget_eq_take env htype,
    applyToTarget_eq_take env' htype, hrun, hrun', and_iff_right rfl, ← hpays]
  exact hsettled.agree_finish_iff hmem

section Late

variable (hopen : sp.targetEventID ∉ a.applied) (hget : env.lookup.get sp.targetEventID = .ok target)
  (htype : target.type = .transfer)

include hopen hget htype

theorem refused_crash (hnot : ¬ a.transfer.MaySettle target sp.settleState) (j : Nat) :
    ¬ (a.crash env sp (j + 2)).transfer.MaySettle target sp.settleState ∧
      sp.targetEventID ∉ (a.crash env sp (j + 2)).applied := by
  obtain ⟨err, l, hstill, hrun⟩ := run_of_not_maySettle env (env.lookup.id_eq _ _ hget) htype hnot
  rw [crash_of_notMem hopen hget, hrun]
  exact ⟨hstill, hopen⟩

theorem exists_settled (hkeyed : a.transfer.KeyedAt target.id) (hmay : a.transfer.MaySettle target sp.settleState) :
    ∃ l, l.SettledAs target.id sp.settleState ∧
      (∀ j, a.crash env sp (j + 2) = finish env sp target (Action.afterSettle.take j) (a.withLedger l)) ∧
      (apply env sp a).2 = finish env sp target Action.afterSettle (a.withLedger l) := by
  obtain ⟨p, hp⟩ := hmay.exists_payload
  obtain ⟨l, hl, -, hrun⟩ := run_of_maySettle env (env.lookup.id_eq _ _ hget) htype hp hkeyed hmay
  refine ⟨l, settledAs_of_settled hkeyed hl, fun j => ?_, ?_⟩
  · rw [crash_of_notMem hopen hget, hrun]
  · rw [apply_of_notMem hopen hget, applyToTarget_eq_take env htype, hrun]
    rfl

theorem settledAs_apply (hkeyed : a.transfer.KeyedAt target.id) (hmay : a.transfer.MaySettle target sp.settleState) :
    (apply env sp a).2.transfer.SettledAs target.id sp.settleState := by
  obtain ⟨l, hl, -, happly⟩ := exists_settled hopen hget htype hkeyed hmay
  exact happly ▸ settledAs_finish (fun _ h => h) hl

end Late

/-- Delivering a settlement of a transfer again after a crash and a restart works exactly if the crash was before the
    ledger had settled the target, and the fee finds the same, or after the target was marked as applied. -/
theorem recovers_iff (h : a.Durable sp.targetEventID a.transfer.bucketCounter) (hsucceeds : env.Succeeds)
    (hget : env.lookup.get sp.targetEventID = .ok target) (hget' : env'.lookup.get sp.targetEventID = .ok target)
    (htype : target.type = .transfer) (r : Reload) (k : Nat) :
    Recovers env env' r sp k a ↔ Recoverable sp target k a := by
  have hcrash := h.crash hsucceeds hget htype k
  by_cases hopen : sp.targetEventID ∈ a.applied
  · have halike := h.alike_restart r
    have hopen' : sp.targetEventID ∈ (a.restart r).applied := by rwa [halike.applied]
    rw [Recovers, crash_of_mem hopen, apply_of_mem hopen, apply_of_mem hopen']
    exact iff_of_true ⟨rfl, halike.agree⟩ (.inl hopen)
  rw [Recoverable, or_iff_right hopen]
  -- a redelivery that the ledger refuses
  have hrefused : ¬ (a.crash env sp k).transfer.MaySettle target sp.settleState →
      sp.targetEventID ∉ (a.crash env sp k).applied → ¬ Recovers env env' r sp k a :=
    fun hnot hmark hrecovers => refuses_restart hcrash hnot hmark hget' htype r hrecovers.1
  obtain hk | ⟨j, rfl⟩ : k ≤ 1 ∨ ∃ j, k = j + 2 := by
    by_cases hk : k ≤ 1
    · exact .inl hk
    · exact .inr ⟨k - 2, by omega⟩
  · have hearly := early_crash h hsucceeds hopen hget htype hk
    have hlate : ¬ 8 ≤ k := by omega
    by_cases hmay : a.transfer.MaySettle target sp.settleState
    · simp only [hmay, hk, hlate, true_and, or_false]
      exact hearly.redelivers_iff h hcrash hopen hmay hget hget' htype r
    · refine iff_of_false (hrefused ?_ ?_) fun hcond => hmay hcond.1
      · rwa [hearly.maySettle]
      · rwa [hearly.applied_eq]
  · have hearly : ¬ j + 2 ≤ 1 := by omega
    by_cases hmay : a.transfer.MaySettle target sp.settleState
    · simp only [hmay, hearly, false_and, false_or, true_and]
      obtain ⟨l, hsettled, hstops, happly⟩ := exists_settled hopen hget htype (h.ledger.mirrored.keyedAt target.id) hmay
      by_cases hj : j ≤ 5
      · rw [hstops] at hrefused
        refine iff_of_false (hrefused ?_ (notMem_applied_finish hj hopen)) (by omega)
        exact (settledAs_finish (fun _ => List.mem_of_mem_take) hsettled).not_maySettle
      · have hdone : a.crash env sp (j + 2) = (apply env sp a).2 := by
          rw [hstops, happly, List.take_of_length_le (show 6 ≤ j by omega)]
        have hmarked : sp.targetEventID ∈ (apply env sp a).2.applied := happly ▸ mem_applied_finish
        rw [hdone] at hcrash
        have halike := hcrash.alike_restart r
        have hmarked' : sp.targetEventID ∈ ((apply env sp a).2.restart r).applied := by rwa [halike.applied]
        rw [Recovers, hdone, apply_of_mem hmarked']
        exact iff_of_true ⟨rfl, halike.agree⟩ (by omega)
    · obtain ⟨hstill, hmark⟩ := refused_crash hopen hget htype hmay j
      exact iff_of_false (hrefused hstill hmark) fun hcond => hmay hcond.1

section Sample

/-- An applicator with empty stores that takes fees for the treasury. -/
def emptyApplicator : Applicator where
  escrowMgr := { ledger := initial (some {}) 0 0, store := some ∅ }
  feeCollector := some {}
  treasuryID := "treasury"
  store := some ∅

theorem emptyApplicator_durable (id : EventID) : emptyApplicator.Durable id 0 where
  ledger :=
    { mirrored := .initial 0 0
      target := fun hstored => hstored
      next := fun _ _ _ hstored => hstored }
  escrows := rfl
  tasks := fun taskID entry hlookup => by simp [emptyApplicator] at hlookup
  stakes := fun sm hsm => by simp [emptyApplicator] at hsm
  applied := ⟨∅, rfl, rfl⟩

/-- Two payments of the same amount to `bob`, who pays the fee. -/
def twoPayments : ApplyEnv :=
  sampleApplyEnv [transferEvent "e1" "alice" "bob" "1000000", transferEvent "e2" "alice" "bob" "1000000"]

/-- The settlement of a payment. -/
def paid (id : EventID) : SettlementPayload := { accepted id with verifiedValue := 1000000 }

/-- A crash after the transfer is recorded. -/
theorem recovers_record : Recovers twoPayments twoPayments {} (paid "e1") 1 emptyApplicator := by
  have hamb : Ambient.Succeeds { now := 0 } := ⟨rfl, rfl, fun _ => rfl⟩
  have hsucceeds : twoPayments.Succeeds := ⟨hamb, hamb, fun _ => hamb⟩
  have hget : twoPayments.lookup.get "e1" = .ok (transferEvent "e1" "alice" "bob" "1000000") := rfl
  refine (recovers_iff (emptyApplicator_durable "e1") hsucceeds hget hget rfl {} 1).mpr (.inr ⟨?_, .inl ⟨le_rfl, ?_⟩⟩)
  · exact ⟨by decide +kernel, by decide +kernel⟩
  · intro p fromID amount _ _ _ _
    exact Iff.rfl

/-- Once the ledger has settled the transfer, it refuses to settle it for the redelivery. And with the second payment
    interrupted at its start, the number of its fee after the restart is that of the first. -/
theorem crash_not_recovered :
    (∀ k ∈ [2, 3, 4, 5, 6, 7],
      ¬ Recovers twoPayments twoPayments {} (paid "e1") k emptyApplicator) ∧
      ¬ Recovers twoPayments twoPayments {} (paid "e2") 0 (apply twoPayments (paid "e1") emptyApplicator).2 := by
  have herror : ∀ k ∈ [2, 3, 4, 5, 6, 7],
      (apply twoPayments (paid "e1") ((emptyApplicator.crash twoPayments (paid "e1") k).restart {})).1 ≠
        .ok () := by
    decide +kernel
  have hfee : let a := (apply twoPayments (paid "e1") emptyApplicator).2
      (apply twoPayments (paid "e2") ((a.crash twoPayments (paid "e2") 0).restart {})).2.transfer.balanceLocked
        "bob" ≠ (apply twoPayments (paid "e2") a).2.transfer.balanceLocked "bob" := by
    decide +kernel
  exact ⟨fun k hk hrecovers => herror k hk hrecovers.1, fun hrecovers => hfee (hrecovers.2.balances "bob")⟩

end Sample

end aethernet.settlement.Applicator
