import Aethernet.Ledger.Step
import Aethernet.Network.Node
import Aethernet.Ocs.Engine
import Aethernet.Settlement.Applicator
import Aethernet.Transition.Invariant

open golang aethernet event dag ledger ocs network settlement.Applicator TransferLedger

namespace aethernet.ledger.TransferLedger

variable (amb : Ambient) {amb' : Ambient}

theorem setEntry_overwrites {entry entry' : TransferEntry} (hid : entry'.eventID = entry.eventID)
    (hput : amb'.putTransferErr = none) (l : TransferLedger) :
    (setEntry entry' ((l.setEntry entry).putTransfer amb entry)).putTransfer amb' entry' =
      (l.setEntry entry').putTransfer amb' entry' := by
  unfold putTransfer setEntry
  cases amb.putTransferErr <;> cases l.store <;> simp [hput, hid]

/-- `RecordFromSync` and `Settle` make no difference between two copies of a target: it is not recorded now, or
    the copies say the same, or both may become what the settlement makes of them. -/
def SettlesAlike (l : TransferLedger) (amb : Ambient) (state : SettlementState) (target target' : Event) : Prop :=
  target.type = .transfer → target.transferPayload.isOk → target.id ∉ l.entries →
    target.settlementState = target'.settlementState ∨
    amb.putTransferErr = none ∧ target.settlementState.mayBecome state ∧ target'.settlementState.mayBecome state

instance (l : TransferLedger) (amb : Ambient) (state : SettlementState) (target target' : Event) :
    Decidable (l.SettlesAlike amb state target target') :=
  inferInstanceAs (Decidable (_ → _ → _ → _))

variable {state : SettlementState} {l : TransferLedger}

theorem settle_of_mayBecome {eventID : EventID} {e : TransferEntry} (hlookup : l.entries.lookup eventID = some e)
    (hid : e.eventID = eventID) (hmay : e.settlement.mayBecome state) :
    l.settle amb eventID state = (.ok (), (l.setEntry { e with settlement := state }).putTransfer amb
      { e with settlement := state }) := by
  unfold SettlementState.mayBecome at hmay
  cases hallowed : validTransitions e.settlement with
  | none => simp [hallowed] at hmay
  | some allowed =>
    have hmem : state ∈ allowed := by simpa [hallowed] using hmay
    simp [settle, hlookup, hallowed, if_neg (not_not_intro hmem), setEntry, hid]

/-- The calls of `applyTransfer` on the ledger. -/
def recordAndSettle (recordAmb settleAmb : Ambient) (state : SettlementState) (target : Event) :
    Method TransferLedger Unit := fun l =>
  match l.recordFromSync recordAmb target with
  | (.error err, l') => (.error (.wrap s!"settlement: record transfer {target.id}: " err ""), l')
  | (.ok (), l') => l'.settle settleAmb target.id state

theorem recordAndSettle_of_new {e : Event} {p : TransferPayload} (htype : e.type = .transfer)
    (hp : e.transferPayload = .ok p) (hnew : e.id ∉ l.entries) (hmay : e.settlementState.mayBecome state)
    (hput : amb'.putTransferErr = none) (amb : Ambient) : recordAndSettle amb amb' state e l =
      (.ok (), (l.setEntry { newEntry amb.now e p with settlement := state }).putTransfer amb'
        { newEntry amb.now e p with settlement := state }) := by
  have hrecord : recordFromSync amb e l =
      (.ok (), (l.setEntry (newEntry amb.now e p)).putTransfer amb (newEntry amb.now e p)) := by
    simp [recordFromSync, htype, hp, if_neg hnew]
  have hlookup : ((l.setEntry (newEntry amb.now e p)).putTransfer amb (newEntry amb.now e p)).entries.lookup e.id =
      some (newEntry amb.now e p) := by
    rw [putTransfer_entries]
    exact Finmap.lookup_insert _
  simp only [recordAndSettle, hrecord]
  rw [settle_of_mayBecome amb' hlookup rfl hmay, setEntry_overwrites amb (by rfl) hput]

theorem recordAndSettle_eq {e e' : Event} (hsame : e.SameContent e') (halike : l.SettlesAlike amb' state e e')
    (amb : Ambient) : recordAndSettle amb amb' state e' l = recordAndSettle amb amb' state e l := by
  have hrecord : recordFromSync amb e' l = recordFromSync amb e l →
      recordAndSettle amb amb' state e' l = recordAndSettle amb amb' state e l := by
    intro hcall
    simp [recordAndSettle, hcall, hsame.id_eq]
  by_cases htype : e.type = .transfer
  · cases hp : e.transferPayload with
    | error err =>
      refine hrecord ?_
      simp [recordFromSync, hsame.type_eq, hsame.transferPayload_eq, hsame.id_eq, hp]
    | ok p =>
      by_cases hdup : e.id ∈ l.entries
      · refine hrecord ?_
        simp [recordFromSync, hsame.type_eq, hsame.transferPayload_eq, hsame.id_eq, hp, if_pos hdup]
      · obtain heq | ⟨hput, hmay, hmay'⟩ := halike htype (by rw [hp]; rfl) hdup
        · refine hrecord ?_
          rw [hsame, ← heq]
        · -- both copies are written twice, the second time as the same entry
          rw [recordAndSettle_of_new htype hp hdup hmay hput amb,
            recordAndSettle_of_new (hsame.type_eq.trans htype) (hsame.transferPayload_eq.trans hp)
              (hsame.id_eq ▸ hdup) hmay' hput amb, hsame]
          rfl
  · refine hrecord ?_
    simp [recordFromSync, hsame.type_eq, if_pos htype]

end aethernet.ledger.TransferLedger

namespace aethernet.settlement

theorem isEscrowLockTransfer_eq {e e' : Event} (h : e.SameContent e') (taskID : String) (poster : ledger.AgentID)
    (amount : UInt64) : isEscrowLockTransfer taskID poster amount e' = isEscrowLockTransfer taskID poster amount e := by
  rw [h]; rfl

theorem lookupEscrowLockTransfer_eq {events events' : List Event}
    (h : List.Forall₂ Event.SameContent events events') (taskID : String) (poster : ledger.AgentID)
    (amount : UInt64) :
    lookupEscrowLockTransfer events' taskID poster amount = lookupEscrowLockTransfer events taskID poster amount := by
  induction h with
  | nil => rfl
  | cons hevent _ ih =>
    unfold lookupEscrowLockTransfer at ih ⊢
    rw [List.find?_cons, List.find?_cons, isEscrowLockTransfer_eq hevent]
    cases isEscrowLockTransfer taskID poster amount _ with
    | true => exact congrArg Except.ok hevent.id_eq
    | false => exact ih

theorem Action.recordTransfer_notMem_ofType {type : EventType} (htype : type ≠ .transfer) :
    Action.recordTransfer ∉ Action.ofType type := by
  unfold Action.ofType
  split <;> simp_all

variable {target : Event}

theorem Action.record_settle (env : ApplyEnv) {sp : SettlementPayload} (hid : target.id = sp.targetEventID) :
    (recordTransfer.run env sp target >>= fun _ => settleTransfer.run env sp target) =
      onTransfer (recordAndSettle env.recordAmb env.settleAmb sp.settleState target) := by
  funext a
  simp only [Action.run, ← hid, Bind.bind, Method.wrapError, onTransfer, onEscrow, Method.zoom,
    recordAndSettle]
  rcases recordFromSync env.recordAmb target a.escrowMgr.ledger with ⟨_ | _, l⟩ <;> rfl

/-- What `applyToTarget` does after a transfer is settled. -/
def Action.afterSettle : List Action :=
  [bookkeepTransfer, recordIdentity, trackFee, payFee, recordActivity, markApplied]

theorem Action.applyToTarget_of_transfer (env : ApplyEnv) (sp : SettlementPayload) (htype : target.type = .transfer) :
    applyToTarget env sp target =
      (recordTransfer.run env sp target >>= fun _ => settleTransfer.run env sp target) >>= fun _ =>
        forM afterSettle fun action => action.run env sp target := by
  rw [applyToTarget, htype, bind_assoc]
  rfl

/-- What two calls find around them is the same up to the settlement states of the events. -/
structure ApplyEnv.Alike (env env' : ApplyEnv) : Prop where
  clocks : env' = { env with lookup := env'.lookup, events := env'.events }
  events : List.Forall₂ Event.SameContent env.events env'.events

namespace ApplyEnv.Alike

variable {env env' : ApplyEnv}

variable (h : env.Alike env')

include h

theorem amb_eq : env'.amb = env.amb := by rw [h.clocks]

theorem recordAmb_eq : env'.recordAmb = env.recordAmb := by rw [h.clocks]

theorem settleAmb_eq : env'.settleAmb = env.settleAmb := by rw [h.clocks]

theorem catchUpEscrow_eq (payload : TaskSettlementPayload) :
    catchUpEscrow env' payload = catchUpEscrow env payload := by
  unfold catchUpEscrow
  simp only [lookupEscrowLockTransfer_eq h.events]
  rfl

theorem settleTask_eq (payload : TaskSettlementPayload) : settleTask env' payload = settleTask env payload := by
  unfold settleTask
  rw [h.catchUpEscrow_eq, h.amb_eq]

variable {target target' : Event}

theorem run_eq (sp : SettlementPayload) (hsame : target.SameContent target') {action : Action}
    (hne : action ≠ .recordTransfer) : action.run env' sp target' = action.run env sp target := by
  cases action with
  | recordTransfer => exact absurd rfl hne
  | settleTask =>
    unfold Action.run
    simp only [h.settleTask_eq]
    rw [hsame]
  | _ =>
    rw [hsame, h.clocks]
    rfl

variable {sp : SettlementPayload} {a : Applicator}

theorem record_settle_eq (hsame : target.SameContent target') (hid : target.id = sp.targetEventID)
    (halike : a.transfer.SettlesAlike env.settleAmb sp.settleState target target') :
    (Action.recordTransfer.run env' sp target' >>= fun _ => Action.settleTransfer.run env' sp target') a =
      (Action.recordTransfer.run env sp target >>= fun _ => Action.settleTransfer.run env sp target) a := by
  rw [Action.record_settle env hid, Action.record_settle env' (hsame.id_eq.trans hid), h.recordAmb_eq, h.settleAmb_eq]
  exact congrArg (fun r : Except Error Unit × TransferLedger =>
    (r.1, { a with escrowMgr := { a.escrowMgr with ledger := r.2 } }))
    (recordAndSettle_eq hsame halike env.recordAmb)

theorem applyToTarget_eq (hsame : target.SameContent target') (hid : target.id = sp.targetEventID)
    (halike : a.transfer.SettlesAlike env.settleAmb sp.settleState target target') :
    applyToTarget env' sp target' a = applyToTarget env sp target a := by
  have hrest : ∀ actions : List Action, .recordTransfer ∉ actions →
      forM actions (fun action : Action => action.run env' sp target') =
        forM actions fun action : Action => action.run env sp target := by
    intro actions hmem
    refine Method.forM_congr fun action haction => h.run_eq sp hsame ?_
    rintro rfl
    exact hmem haction
  by_cases htype : target.type = .transfer
  · rw [Action.applyToTarget_of_transfer env sp htype,
      Action.applyToTarget_of_transfer env' sp (hsame.type_eq.trans htype), hrest _ (by decide)]
    exact Method.bind_congr_at (h.record_settle_eq hsame hid halike)
  · unfold applyToTarget
    rw [hsame.type_eq, hrest _ (Action.recordTransfer_notMem_ofType htype)]

end ApplyEnv.Alike

/-- The engine, the applicator, and the keys of the genesis fundings that are stored as applied. -/
structure Services where
  engine : Engine
  applicator : Applicator
  funded : Option (Finset EventID) := none

/-- The sync handler of `main` on the events that reach the ledgers or the engine's pending queue. -/
def syncHandler (amb : UInt64 → Ambient) (ev : Event) (s : Services) : Services :=
  match ev.type with
  | .genesisFunding =>
    if ev.id ∈ s.funded.getD ∅ then s
    else match ev.genesisFundingPayload with
      | .error _ => s
      | .ok gfp =>
        let transferred := onTransfer (fun l =>
          l.transferFromBucket (amb l.bucketCounter) gfp.fromBucket gfp.toAgent gfp.amount) s.applicator
        match transferred.1 with
        | .error _ => { s with applicator := transferred.2 }
        | .ok () => { s with applicator := transferred.2, funded := s.funded.map (insert ev.id) }
  | .transfer | .generation | .taskSettlement =>
    if ev.settlementState = .optimistic then { s with engine := (s.engine.submitFromSync ev).2 } else s
  | _ => s

/-- The states are the same up to the engine. -/
structure Services.Alike (s s' : Services) : Prop where
  applicator : s'.applicator = s.applicator
  funded : s'.funded = s.funded

theorem Services.Alike.syncHandler {s s' : Services} (h : s.Alike s') (amb : UInt64 → Ambient) {ev ev' : Event}
    (hsame : ev.SameContent ev') :
    (settlement.syncHandler amb ev s).Alike (settlement.syncHandler amb ev' s') := by
  have hpayload : ev'.genesisFundingPayload = ev.genesisFundingPayload := by
    rw [hsame]
    rfl
  obtain ⟨engine', _, _⟩ := s'
  obtain ⟨rfl, rfl⟩ := h
  unfold settlement.syncHandler
  rw [hsame.type_eq, hsame.id_eq, hpayload]
  split
  · split
    · exact ⟨rfl, rfl⟩
    · split
      · exact ⟨rfl, rfl⟩
      · dsimp only
        split <;> exact ⟨rfl, rfl⟩
  · split <;> split <;> exact ⟨rfl, rfl⟩
  · split <;> split <;> exact ⟨rfl, rfl⟩
  · split <;> split <;> exact ⟨rfl, rfl⟩
  · exact ⟨rfl, rfl⟩

/-- A step of a node: a message, a settlement, a round of `reconcile`, or a call that reads no event. The calls
    are what the node's other components do with the parts of the applicator and with the engine. -/
inductive Step where
  | msgEvent (amb : UInt64 → Ambient) (e : Incoming)
  | msgSyncBatch (amb : UInt64 → Ambient) (batch : List Incoming)
  | apply (env : ApplyEnv) (order : List EventID) (sp : SettlementPayload)
  | reconcileTarget (env : ApplyEnv) (order : List EventID) (sp : SettlementPayload)
  | applicatorCall (call : Method Applicator Unit)
  | engineCall (call : Engine → Engine)

variable (c : Crypto) (n : Node Services)

namespace Step

def onApplicator (x : Method Applicator Unit) (n : Node Services) : Except Error Unit × Node Services :=
  ((x n.state.applicator).1, { n with state := { n.state with applicator := (x n.state.applicator).2 } })

/-- The result of a step, if it has one, and the node after it. -/
def run : Step → Except Error Unit × Node Services
  | msgEvent amb e => (.ok (), n.msgEvent c (syncHandler amb) e)
  | msgSyncBatch amb batch => (.ok (), n.msgSyncBatch c (syncHandler amb) batch)
  | apply env order sp => onApplicator (Applicator.apply (env.within n.dag n.rep order) sp) n
  | reconcileTarget env order sp => onApplicator (Applicator.reconcileTarget (env.within n.dag n.rep order) sp) n
  | applicatorCall call => onApplicator call n
  | engineCall call => (.ok (), { n with state := { n.state with engine := call n.state.engine } })

/-- The steps are the same but for the settlement states of the events in a message. -/
inductive Alike : Step → Step → Prop where
  | msgEvent (amb : UInt64 → Ambient) {e e' : Incoming} (hsame : e.SameContent e') :
    Alike (.msgEvent amb e) (.msgEvent amb e')
  | msgSyncBatch (amb : UInt64 → Ambient) {batch batch' : List Incoming}
    (hsame : List.Forall₂ Incoming.SameContent batch batch') :
    Alike (.msgSyncBatch amb batch) (.msgSyncBatch amb batch')
  | same (s : Step) : Alike s s

end Step

/-- Corresponding steps of two runs that differ only in the settlement states of events from peers. -/
structure Twin where
  left : Step
  right : Step
  alike : left.Alike right

/-- The ledgers give the same balances, settlement states and contribution scores. -/
structure SameReadings (a a' : Applicator) : Prop where
  balance : ∀ agentID, a'.transfer.balanceLocked agentID = a.transfer.balanceLocked agentID
  transferSettlement : ∀ id, a'.transfer.getSettlement id = a.transfer.getSettlement id
  generationSettlement : ∀ id, a'.generation.getSettlement id = a.generation.getSettlement id
  contributionScore : ∀ agentID, a'.generation.contributionScore agentID = a.generation.contributionScore agentID

theorem SameReadings.of_eq {a a' : Applicator} (h : a' = a) : SameReadings a a' := by
  subst h
  exact ⟨fun _ => rfl, fun _ => rfl, fun _ => rfl, fun _ => rfl⟩

namespace Twin

/-- Both runs take their step. -/
def run (nodes : Node Services × Node Services) (t : Twin) : Node Services × Node Services :=
  ((t.left.run c nodes.1).2, (t.right.run c nodes.2).2)

/-- The step returns the same in both runs and leaves the same readings. -/
def Agrees (nodes : Node Services × Node Services) (t : Twin) : Prop :=
  (t.right.run c nodes.2).1 = (t.left.run c nodes.1).1 ∧
    SameReadings (t.left.run c nodes.1).2.state.applicator (t.right.run c nodes.2).2.state.applicator

/-- The two DAGs' copies of a target are settled alike. -/
def TargetsAlike (nodes : Node Services × Node Services) (env : ApplyEnv) (sp : SettlementPayload) : Prop :=
  ∀ target target', nodes.1.dag.events.lookup sp.targetEventID = some target →
    nodes.2.dag.events.lookup sp.targetEventID = some target' →
    nodes.1.state.applicator.transfer.SettlesAlike env.settleAmb sp.settleState target target'

/-- A step that settles a target settles copies alike. -/
def Harmless (nodes : Node Services × Node Services) (t : Twin) : Prop :=
  match t.left with
  | .apply env _ sp => sp.targetEventID ∉ nodes.1.state.applicator.applied → TargetsAlike nodes env sp
  | .reconcileTarget env _ sp => TargetsAlike nodes env sp
  | _ => True

end Twin

def NodesAlike (nodes : Node Services × Node Services) : Prop := Node.Alike Services.Alike nodes.1 nodes.2

namespace NodesAlike

variable {nodes : Node Services × Node Services}

section

variable (h : NodesAlike nodes)

include h

theorem within (env : ApplyEnv) (order : List EventID) :
    (env.within nodes.1.dag nodes.1.rep order).Alike (env.within nodes.2.dag nodes.2.rep order) := by
  refine ⟨rfl, ?_⟩
  induction order with
  | nil => exact .nil
  | cons id order ih =>
    obtain ⟨hnone, hnone'⟩ | ⟨e, e', hsame, hsome, hsome'⟩ := h.dag.lookup_cases id
    · simpa only [ApplyEnv.within, List.filterMap_cons, hnone, hnone'] using ih
    · simpa only [ApplyEnv.within, List.filterMap_cons, hsome, hsome', List.forall₂_cons] using ⟨hsame, ih⟩

theorem get_cases (id : EventID) : (∃ err, nodes.1.dag.get id = .error err ∧ nodes.2.dag.get id = .error err) ∨
    ∃ e e', e.SameContent e' ∧ nodes.1.dag.events.lookup id = some e ∧ nodes.2.dag.events.lookup id = some e' ∧
      nodes.1.dag.get id = .ok e ∧ nodes.2.dag.get id = .ok e' := by
  unfold DAG.get
  obtain ⟨hnone, hnone'⟩ | ⟨e, e', hsame, hsome, hsome'⟩ := h.dag.lookup_cases id
  · rw [hnone, hnone']
    exact .inl ⟨_, rfl, rfl⟩
  · rw [hsome, hsome']
    exact .inr ⟨e, e', hsame, rfl, rfl, rfl, rfl⟩

theorem reconcileTarget_eq (env : ApplyEnv) (order : List EventID) (sp : SettlementPayload)
    (halike : Twin.TargetsAlike nodes env sp) :
    reconcileTarget (env.within nodes.2.dag nodes.2.rep order) sp nodes.1.state.applicator =
      reconcileTarget (env.within nodes.1.dag nodes.1.rep order) sp nodes.1.state.applicator := by
  unfold reconcileTarget
  simp only [ApplyEnv.within, eventLookup]
  obtain ⟨err, hget, hget'⟩ | ⟨e, e', hsame, hsome, hsome', hget, hget'⟩ := h.get_cases sp.targetEventID
  · rw [hget, hget']
  · rw [hget, hget']
    exact (h.within env order).applyToTarget_eq hsame (nodes.1.rep.keyed _ _ hsome) (halike e e' hsome hsome')

theorem apply_eq (env : ApplyEnv) (order : List EventID) (sp : SettlementPayload)
    (halike : sp.targetEventID ∉ nodes.1.state.applicator.applied → Twin.TargetsAlike nodes env sp) :
    apply (env.within nodes.2.dag nodes.2.rep order) sp nodes.1.state.applicator =
      apply (env.within nodes.1.dag nodes.1.rep order) sp nodes.1.state.applicator := by
  unfold apply
  split
  · rfl
  · rename_i hnew
    simp only [ApplyEnv.within, eventLookup]
    obtain ⟨err, hget, hget'⟩ | ⟨e, e', hsame, hsome, hsome', hget, hget'⟩ := h.get_cases sp.targetEventID
    · rw [hget, hget']
    · rw [hget, hget']
      exact (h.within env order).applyToTarget_eq hsame (nodes.1.rep.keyed _ _ hsome) (halike hnew e e' hsome hsome')

theorem onApplicator {x x' : Method Applicator Unit}
    (hcall : x' nodes.1.state.applicator = x nodes.1.state.applicator) :
    (Step.onApplicator x' nodes.2).1 = (Step.onApplicator x nodes.1).1 ∧
      NodesAlike ((Step.onApplicator x nodes.1).2, (Step.onApplicator x' nodes.2).2) := by
  unfold Step.onApplicator
  rw [h.state.applicator, hcall]
  exact ⟨rfl, h.dag, rfl, h.state.funded⟩

end

theorem step (c : Crypto) (h : NodesAlike nodes) {t : Twin} (hharmless : t.Harmless nodes) :
    (t.right.run c nodes.2).1 = (t.left.run c nodes.1).1 ∧ NodesAlike (t.run c nodes) := by
  have hhandler : ∀ amb (e e' : Event) (s s' : Services), e.SameContent e' → s.Alike s' →
      (syncHandler amb e s).Alike (syncHandler amb e' s') := fun amb _ _ _ _ hsame hs => hs.syncHandler amb hsame
  obtain ⟨left, right, halike⟩ := t
  cases halike with
  | msgEvent amb hsame => exact ⟨rfl, Node.Alike.msgEvent (hhandler amb) h hsame c⟩
  | msgSyncBatch amb hsame => exact ⟨rfl, Node.Alike.msgSyncBatch (hhandler amb) h hsame c⟩
  | same =>
    cases left with
    | msgEvent amb e => exact ⟨rfl, Node.Alike.msgEvent (hhandler amb) h ⟨.refl _, rfl⟩ c⟩
    | msgSyncBatch amb batch =>
      exact ⟨rfl, Node.Alike.msgSyncBatch (hhandler amb) h (List.forall₂_same.mpr fun e _ => ⟨.refl _, rfl⟩) c⟩
    | apply env order sp => exact h.onApplicator (h.apply_eq env order sp hharmless)
    | reconcileTarget env order sp => exact h.onApplicator (h.reconcileTarget_eq env order sp hharmless)
    | applicatorCall call => exact h.onApplicator rfl
    | engineCall call => exact ⟨rfl, h.dag, h.state.applicator, h.state.funded⟩

end NodesAlike

/-- In two runs of a node that differ only in the settlement states of events from peers and that settle copies of
    a target alike, every settlement returns the same and the ledgers read the same after every step. -/
theorem noninterference (twins : List Twin)
    (hharmless : transition.MeetsAlong (Twin.run c) Twin.Harmless (n, n) twins) :
    transition.MeetsAlong (Twin.run c) (Twin.Agrees c) (n, n) twins := by
  refine hharmless.imp (P := NodesAlike) ⟨.refl _, rfl, rfl⟩ (fun _ _ h hstep => (h.step c hstep).2) ?_
  intro nodes t h hstep
  obtain ⟨hresult, hafter⟩ := h.step c hstep
  exact ⟨hresult, .of_eq hafter.state.applicator⟩

section Sample

def freshNode : Node Services where
  dag := {}
  rep := .fresh
  state :=
    { engine := { config := { maxPendingItems := 10, minStakeRequired := 0 } }
      applicator := { escrowMgr := { ledger := initial none 0 0 } } }

/-- The arrival of a transfer in one state or another. -/
def arrival (state state' : SettlementState) : Twin :=
  let copy (state : SettlementState) : Incoming := { event := (transferEvent "e1" "alice" "bob" "100" "" state).signed }
  let amb (_ : UInt64) : Ambient := { now := 0 }
  ⟨.msgEvent amb (copy state), .msgEvent amb (copy state'), .msgEvent _ ⟨rfl, rfl⟩⟩

def sampleSettlement (verdict : String) : Twin :=
  let step := Step.apply (sampleApplyEnv []) [] { accepted "e1" with verdict := verdict }
  ⟨step, step, .same step⟩

/-- A rejected settlement takes a settled copy back as it does an optimistic one. -/
theorem noninterference_of_rejected :
    transition.MeetsAlong (Twin.run sampleCrypto) (Twin.Agrees sampleCrypto) (freshNode, freshNode)
      [arrival .optimistic .settled, sampleSettlement "rejected"] := by
  refine noninterference _ _ _ ⟨trivial, fun _ target target' hlookup hlookup' _ _ _ => .inr ⟨rfl, ?_, ?_⟩, trivial⟩
  · have hstate : (((arrival .optimistic .settled).run sampleCrypto (freshNode, freshNode)).1.dag.events.lookup
        "e1").map Event.settlementState = some .optimistic := by decide +kernel
    have hcopy := Option.some.inj ((congrArg (Option.map Event.settlementState) hlookup).symm.trans hstate)
    rw [hcopy]
    decide
  · have hstate : (((arrival .optimistic .settled).run sampleCrypto (freshNode, freshNode)).2.dag.events.lookup
        "e1").map Event.settlementState = some .settled := by decide +kernel
    have hcopy := Option.some.inj ((congrArg (Option.map Event.settlementState) hlookup').symm.trans hstate)
    rw [hcopy]
    decide

/-- An accepted settlement of a copy that says it is settled or adjusted already fails, and the ledger keeps what
    the copy says. -/
theorem interference_of_accepted :
    let nodes state := Twin.run sampleCrypto (freshNode, freshNode) (arrival .optimistic state)
    let t := sampleSettlement verdictAccepted
    (t.left.run sampleCrypto (nodes .settled).1).1.isOk = true ∧
      (t.right.run sampleCrypto (nodes .settled).2).1.isOk = false ∧
      (t.right.run sampleCrypto (nodes .adjusted).2).1.isOk = false ∧
      (t.left.run sampleCrypto (nodes .adjusted).1).2.state.applicator.transfer.balanceLocked "bob" = 100 ∧
      (t.right.run sampleCrypto (nodes .adjusted).2).2.state.applicator.transfer.balanceLocked "bob" = 0 ∧
      (t.left.run sampleCrypto (nodes .adjusted).1).2.state.applicator.transfer.getSettlement "e1" = (.settled, true) ∧
      (t.right.run sampleCrypto (nodes .adjusted).2).2.state.applicator.transfer.getSettlement "e1" =
        (.adjusted, true) := by
  decide +kernel

end Sample

end aethernet.settlement
