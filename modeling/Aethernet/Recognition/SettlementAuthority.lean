import Aethernet.Consensus.Finalization
import Aethernet.Settlement.Recovery

open golang aethernet event consensus ledger settlement transition Applicator VotingRound

namespace aethernet.recognition

namespace SettlementConsumer

def interested (ev : Event) : Bool := ev.type = .settlement

/-- The payload of a settlement event. -/
def payload (ev : Event) : Except Error SettlementPayload :=
  getPayload "settlement.SettlementPayload" SettlementPayload.decoder ev

/-- `Consume` with the adapter of `main`. -/
def consume (env : ApplyEnv) (ev : Event) : Method Applicator Unit :=
  match payload ev with
  | .error err => .fail err
  | .ok sp => apply env sp

end SettlementConsumer

def verdictText : Bool → String
  | true => verdictAccepted
  | false => verdictRejected

/-- The payload that the finalization handler makes of a finalized record. -/
def handlerPayload (target : EventID) (record : VoteRecord) : SettlementPayload where
  version := 1
  targetEventID := target
  verdict := verdictText record.finalVerdict
  verifiedValue := record.finalVerifiedValue
  consensusRound := record.finalOrder
  attestations := (record.votes.keys.sort (· ≤ ·)).map fun voter =>
    { voterID := voter, verdict := verdictText (record.votes.getD voter false) }

/-- The parts of a node that settle: the voting round with the validator sets it has had, the applicator, and what is
    left of the snapshot that `reconcile` goes through. -/
structure SettlementNode where
  voting : VotingRound
  validatorSets : List ValidatorSetSource
  applicator : Applicator
  reconciling : List SettlementPayload := []

/-- What happens at the node: an event is committed and handed to the consumer, `reconcile` takes its snapshot or comes
    to the next settlement in it, the finalization handler is called, or the voting round goes on. -/
inductive Occurrence
  | commit (env : ApplyEnv) (ev : Event)
  | reconcile (order : RangeOrder EventID SettlementPayload)
  | reconcileNext (env : ApplyEnv)
  | finalization (env : ApplyEnv) (target : EventID)
  | vote (target : EventID) (b : Ballot)
  | tally (target : EventID)
  | callbackFired (target : EventID)
  | setup (registry : Map consensus.AgentID Fingerprint) (validatorSet : ValidatorSetSource)
      (committeeSource : Option (EventID → Option (Map consensus.AgentID Bool)))

namespace SettlementNode

/-- The settlement that is handed to the applicator. -/
def settles (n : SettlementNode) : Occurrence → Option SettlementPayload
  | .commit _ ev => if SettlementConsumer.interested ev then (SettlementConsumer.payload ev).toOption else none
  | .reconcileNext _ => n.reconciling.head?
  | .finalization _ target => match n.voting.records.lookup target with
    | some record => if record.finalized then some (handlerPayload target record) else none
    | none => none
  | _ => none

def step (n : SettlementNode) : Occurrence → SettlementNode
  | .commit env ev =>
    if SettlementConsumer.interested ev then
      { n with applicator := (SettlementConsumer.consume env ev n.applicator).2 }
    else n
  | .reconcile order => { n with reconciling := (order.visit n.applicator.deferred).map Prod.snd }
  | .reconcileNext env => match n.reconciling with
    | [] => n
    | sp :: rest =>
      { n with applicator := (reconcileTarget env sp n.applicator).2, reconciling := rest }
  | .finalization env target => match n.voting.records.lookup target with
    | some record =>
      if record.finalized then
        { n with applicator := (apply env (handlerPayload target record) n.applicator).2 }
      else n
    | none => n
  | .vote target b => { n with voting := (n.voting.registerVote target b.voter b.verdict b.value).2 }
  | .tally target => { n with voting := (n.voting.tallyVotes target).2 }
  | .callbackFired target => { n with voting := (n.voting.markCallbackFired target).2 }
  | .setup registry validatorSet committeeSource =>
    { n with
      voting := { n.voting with registry, validatorSet := some validatorSet, committeeSource }
      validatorSets := validatorSet :: n.validatorSets }

def books (n : SettlementNode) : escrow.Escrow × GenerationLedger := (n.applicator.escrowMgr, n.applicator.generation)

end SettlementNode

def attesters (sp : SettlementPayload) : List consensus.AgentID :=
  (sp.attestations.filter (·.verdict = sp.verdict)).map (·.voterID)

/-- Distinct voters of the snapshot attest to the verdict, and their weights reach the supermajority. -/
structure Attested (config : ConsensusConfig) (vs : ValidatorSetSource) (sp : SettlementPayload) : Prop where
  distinct : (attesters sp).Nodup
  eligible : ∀ voter ∈ attesters sp, (vs.voteWeightByKey voter).isSome
  reached : ∃ weight : UInt64, weight.toNat = ((attesters sp).map fun voter => (vs.weightOf voter).toNat).sum ∧
    config.supermajorityThreshold.reached weight vs.activeWeight = true

namespace SettlementNode

/-- The voting round has finalized the target with this verdict, or the attestations are a supermajority for it. -/
def Authorizes (n : SettlementNode) (sp : SettlementPayload) : Prop :=
  (∃ verdict, n.voting.outcome sp.targetEventID = some verdict ∧ sp.verdict = verdictText verdict) ∨
    ∃ vs ∈ n.validatorSets, Attested n.voting.config vs sp

/-- The books change only by a settlement that is authorized. -/
def SettlesAuthorized (n : SettlementNode) (o : Occurrence) : Prop :=
  (n.step o).books ≠ n.books → ∃ sp, n.settles o = some sp ∧ n.Authorizes sp

/-- A committed settlement whose target is not applied is authorized. -/
def CommitsAuthorized (n : SettlementNode) (o : Occurrence) : Prop :=
  ∀ env ev sp, o = .commit env ev → SettlementConsumer.interested ev → SettlementConsumer.payload ev = .ok sp →
    sp.targetEventID ∉ n.applicator.applied → n.Authorizes sp

end SettlementNode

end aethernet.recognition

namespace aethernet.consensus.VotingRound

variable {vr : VotingRound} {id : EventID} {verdict : Bool}

theorem outcome_eq_some_iff :
    vr.outcome id = some verdict ↔ (vr.recordOf id).finalized = true ∧ (vr.recordOf id).finalVerdict = verdict := by
  rw [outcome_eq]
  split_ifs with hfinal
  · simp [hfinal]
  · simp [hfinal]

theorem outcome_registerVote (h : vr.outcome id = some verdict) (eventID : EventID) (b : Ballot) :
    (vr.registerVote eventID b.voter b.verdict b.value).2.outcome id = some verdict := by
  obtain ⟨hfinal, hverdict⟩ := outcome_eq_some_iff.mp h
  have hsame : (vr.registerVote eventID b.voter b.verdict b.value).2.recordOf id = vr.recordOf id := by
    by_cases heq : id = eventID
    · subst heq
      refine recordOf_registerVote_of_not_accepts fun haccepts => ?_
      rw [haccepts.2.1] at hfinal
      cases hfinal
    · exact (recordOf_registerVote_of_ne vr heq b).1
  exact outcome_eq_some_iff.mpr ⟨hsame ▸ hfinal, hsame ▸ hverdict⟩

theorem outcome_tallyVotes (h : vr.outcome id = some verdict) (eventID : EventID) :
    (vr.tallyVotes eventID).2.outcome id = some verdict := by
  obtain ⟨hfinal, hverdict⟩ := outcome_eq_some_iff.mp h
  have hsame : (vr.tallyVotes eventID).2.recordOf id = vr.recordOf id := by
    by_cases heq : id = eventID
    · subst heq
      unfold tallyVotes
      cases hlookup : vr.records.lookup id with
      | none => rfl
      | some record =>
        have hrecord : vr.recordOf id = record := by rw [recordOf, hlookup, Option.getD_some]
        rw [hrecord] at hfinal ⊢
        simp only [tallyRecord, tallyVotesLocked, hfinal, if_true]
        exact recordOf_insert _ id _
    · exact recordOf_tallyVotes_of_ne heq
  exact outcome_eq_some_iff.mpr ⟨hsame ▸ hfinal, hsame ▸ hverdict⟩

theorem outcome_markCallbackFired (h : vr.outcome id = some verdict) (eventID : EventID) :
    (vr.markCallbackFired eventID).2.outcome id = some verdict := by
  unfold markCallbackFired
  cases hlookup : vr.records.lookup eventID with
  | none => exact h
  | some record =>
    dsimp only
    split_ifs with hdone
    · exact h
    · by_cases heq : id = eventID
      · subst heq
        rw [outcome, hlookup] at h
        rw [outcome, Finmap.lookup_insert]
        exact h
      · rw [outcome, Finmap.lookup_insert_of_ne _ heq]
        exact h

end aethernet.consensus.VotingRound

namespace aethernet.settlement

def Applicator.AllDeferred (P : SettlementPayload → Prop) (a : Applicator) : Prop :=
  ∀ id sp, a.deferred.lookup id = some sp → P sp

namespace Applicator.AllDeferred

variable {P : SettlementPayload → Prop} {A : Type} (env : ApplyEnv)

theorem onEscrow (x : Method escrow.Escrow Unit) : Method.Keeps (AllDeferred P) (onEscrow x) :=
  .frame x fun _ _ h => h

theorem onTransfer (x : Method TransferLedger Unit) : Method.Keeps (AllDeferred P) (onTransfer x) :=
  onEscrow _

theorem onGeneration (x : Method GenerationLedger Unit) : Method.Keeps (AllDeferred P) (onGeneration x) :=
  .frame x fun _ _ h => h

theorem onStakes (f : staking.StakeManager → staking.StakeManager) :
    Method.Keeps (AllDeferred P) (onStakes f) := .write fun _ h => h

theorem onFees (f : fees.Collector → fees.Collector) : Method.Keeps (AllDeferred P) (onFees f) :=
  .write fun _ h => h

theorem settleTask (payload : TaskSettlementPayload) : Method.Keeps (AllDeferred P) (settleTask env payload) := by
  refine .bind (.read _) fun settled => .ite (fun _ => .pure ()) fun _ => .bind ?_ fun _ => ?_
  · intro a ha
    unfold catchUpEscrow
    split_ifs
    · exact ha
    · split
      · exact ha
      · exact onEscrow _ a ha
  · exact .bind (.wrapError (onEscrow _)) fun _ => onFees _

theorem run (sp : SettlementPayload) (target : Event) (action : Action) :
    Method.Keeps (AllDeferred P) (action.run env sp target) := by
  cases action with
  | recordTransfer => exact .wrapError (onTransfer _)
  | settleTransfer => exact onTransfer _
  | bookkeepTransfer =>
    refine .ite (fun _ => ?_) fun _ => .pure ()
    split
    · exact .pure ()
    · refine .ite (fun _ a ha => ?_) fun _ => .ite (fun _ => onStakes _) fun _ => .ite (fun _ => onStakes _) fun _ =>
        .pure ()
      split_ifs
      · exact Method.Keeps.ignoreError (onEscrow _) a ha
      · exact ha
  | recordGeneration => exact .wrapError (onGeneration _)
  | verifyGeneration => exact .ite (fun _ => onGeneration _) fun _ => onGeneration _
  | settleTask =>
    intro a ha
    dsimp only [Action.run]
    split_ifs
    · exact ha
    · split
      · exact ha
      · exact settleTask env _ a ha
  | recordIdentity => exact .pure ()
  | trackFee =>
    dsimp only [Action.run, trackFee]
    split
    · exact onFees _
    · exact .ite (fun _ => onFees _) fun _ => .pure ()
  | payFee =>
    intro a ha
    dsimp only [Action.run, payFee]
    split
    · split_ifs
      · exact ha
      · exact Method.Keeps.ignoreError (onTransfer _) a ha
    · exact ha
  | recordActivity => exact .ite (fun _ => onStakes _) fun _ => .pure ()
  | markApplied =>
    refine .write fun a ha id sp' hlookup => ha id sp' ?_
    simp only [markApplied, Finmap.lookup_erase_eq] at hlookup
    split_ifs at hlookup
    exact hlookup

theorem applyToTarget (sp : SettlementPayload) (target : Event) :
    Method.Keeps (AllDeferred P) (applyToTarget env sp target) :=
  .loop fun action _ => run env sp target action

theorem reconcileTarget (sp : SettlementPayload) :
    Method.Keeps (AllDeferred P) (Applicator.reconcileTarget env sp) := by
  intro a ha
  unfold Applicator.reconcileTarget
  split
  · exact ha
  · exact applyToTarget env sp _ a ha

theorem apply {env : ApplyEnv} {sp : SettlementPayload} {a : Applicator} (ha : a.AllDeferred P)
    (hsp : sp.targetEventID ∉ a.applied → P sp) : (Applicator.apply env sp a).2.AllDeferred P := by
  unfold Applicator.apply
  split_ifs with happlied
  · exact ha
  · split
    · unfold deferTarget
      split_ifs
      · exact ha
      · intro id sp' hlookup
        obtain ⟨-, rfl⟩ | ⟨-, hbefore⟩ := Finmap.lookup_insert_cases hlookup
        · exact hsp happlied
        · exact ha id sp' hbefore
    · exact applyToTarget env sp _ a ha

end Applicator.AllDeferred

end aethernet.settlement

namespace aethernet.recognition.SettlementNode

variable {n : SettlementNode} {sp : SettlementPayload} {o : Occurrence} {env : ApplyEnv}

theorem Authorizes.step (h : n.Authorizes sp) (o : Occurrence) : (n.step o).Authorizes sp := by
  -- a step that keeps the configuration, what is finalized and the validator sets
  have hkeeps : ∀ n' : SettlementNode, n'.voting.config = n.voting.config →
      (∀ verdict, n.voting.outcome sp.targetEventID = some verdict → n'.voting.outcome sp.targetEventID =
        some verdict) →
      (∀ vs ∈ n.validatorSets, vs ∈ n'.validatorSets) → n'.Authorizes sp := by
    intro n' hconfig houtcome hsets
    refine h.imp (fun ⟨verdict, hfinal, htext⟩ => ⟨verdict, houtcome verdict hfinal, htext⟩) ?_
    rintro ⟨vs, hvs, hattested⟩
    exact ⟨vs, hsets vs hvs, hconfig ▸ hattested⟩
  cases o with
  | commit env ev =>
    simp only [SettlementNode.step]
    split_ifs
    · exact h
    · exact h
  | reconcile order => exact h
  | reconcileNext env =>
    simp only [SettlementNode.step]
    split
    · exact h
    · exact h
  | finalization env target =>
    simp only [SettlementNode.step]
    split
    · split_ifs
      · exact h
      · exact h
    · exact h
  | vote target b =>
    exact hkeeps _ (sameSetup_registerVote target b n.voting).config
      (fun _ houtcome => outcome_registerVote houtcome target b) fun _ hvs => hvs
  | tally target =>
    refine hkeeps _ ?_ (fun _ houtcome => outcome_tallyVotes houtcome target) fun _ hvs => hvs
    simp only [SettlementNode.step, tallyVotes]
    split
    · rfl
    · exact (sameSetup_tallyVotesLocked true _ n.voting).1.config
  | callbackFired target =>
    refine hkeeps _ ?_ (fun _ houtcome => outcome_markCallbackFired houtcome target) fun _ hvs => hvs
    simp only [SettlementNode.step, markCallbackFired]
    split
    · rfl
    · split_ifs <;> rfl
  | setup registry validatorSet committeeSource =>
    exact hkeeps _ rfl (fun _ houtcome => houtcome) fun _ hvs => List.mem_cons_of_mem _ hvs

theorem authorizes_handlerPayload {target : EventID} {record : VoteRecord}
    (hlookup : n.voting.records.lookup target = some record) (hfinal : record.finalized = true) :
    n.Authorizes (handlerPayload target record) := by
  refine .inl ⟨record.finalVerdict, ?_, rfl⟩
  have htarget : (handlerPayload target record).targetEventID = target := rfl
  rw [htarget, outcome, hlookup]
  exact if_pos hfinal

/-- The settlements that wait for their target are authorized. -/
structure Sound (n : SettlementNode) : Prop where
  deferred : n.applicator.AllDeferred n.Authorizes
  reconciling : ∀ sp ∈ n.reconciling, n.Authorizes sp

theorem authorizes_of_commit {ev : Event} (hcommits : n.CommitsAuthorized (.commit env ev))
    (hinterested : SettlementConsumer.interested ev) (hpayload : SettlementConsumer.payload ev = .ok sp) :
    sp.targetEventID ∉ n.applicator.applied → n.Authorizes sp :=
  hcommits env ev sp rfl hinterested hpayload

theorem Sound.step (h : n.Sound) (hcommits : n.CommitsAuthorized o) : (n.step o).Sound := by
  -- what was waiting is still authorized, and so is what comes to it
  have hlift : ∀ a : Applicator, a.AllDeferred n.Authorizes → a.AllDeferred (n.step o).Authorizes :=
    fun a ha id sp hlookup => (ha id sp hlookup).step o
  refine ⟨hlift _ ?_, fun sp hsp => Authorizes.step ?_ o⟩
  · cases o with
    | commit env ev =>
      simp only [SettlementNode.step]
      by_cases hinterested : SettlementConsumer.interested ev
      · rw [if_pos hinterested]
        unfold SettlementConsumer.consume
        cases hpayload : SettlementConsumer.payload ev with
        | error err => exact h.deferred
        | ok sp => exact h.deferred.apply (authorizes_of_commit hcommits hinterested hpayload)
      · rw [if_neg hinterested]
        exact h.deferred
    | reconcileNext env =>
      simp only [SettlementNode.step]
      split
      · exact h.deferred
      · exact AllDeferred.reconcileTarget env _ _ h.deferred
    | finalization env target =>
      simp only [SettlementNode.step]
      split
      · next record hlookup =>
        split_ifs with hfinal
        · exact h.deferred.apply fun _ => authorizes_handlerPayload hlookup hfinal
        · exact h.deferred
      · exact h.deferred
    | reconcile order | vote target b | tally target | callbackFired target
    | setup registry validatorSet committeeSource => exact h.deferred
  · cases o with
    | reconcile order =>
      obtain ⟨⟨id, sp'⟩, hvisit, rfl⟩ := List.mem_map.mp hsp
      exact h.deferred id sp' ((order.mem_visit_iff _).mp hvisit)
    | reconcileNext env =>
      simp only [SettlementNode.step] at hsp
      split at hsp
      · exact h.reconciling sp hsp
      · next hreconciling =>
        refine h.reconciling sp ?_
        rw [hreconciling]
        exact List.mem_cons_of_mem _ hsp
    | commit env ev =>
      simp only [SettlementNode.step] at hsp
      split_ifs at hsp <;> exact h.reconciling sp hsp
    | finalization env target =>
      simp only [SettlementNode.step] at hsp
      split at hsp
      · split_ifs at hsp <;> exact h.reconciling sp hsp
      · exact h.reconciling sp hsp
    | vote target b | tally target | callbackFired target | setup registry validatorSet committeeSource =>
      exact h.reconciling sp hsp

theorem Sound.settlesAuthorized (h : n.Sound) (hcommits : n.CommitsAuthorized o) : n.SettlesAuthorized o := by
  intro hchanged
  cases o with
  | commit env ev =>
    simp only [SettlementNode.step] at hchanged
    by_cases hinterested : SettlementConsumer.interested ev
    · rw [if_pos hinterested] at hchanged
      cases hpayload : SettlementConsumer.payload ev with
      | error err =>
        rw [SettlementConsumer.consume, hpayload] at hchanged
        exact absurd rfl hchanged
      | ok sp =>
        refine ⟨sp, by rw [settles, if_pos hinterested, hpayload]; rfl, ?_⟩
        refine authorizes_of_commit hcommits hinterested hpayload fun happlied => hchanged ?_
        rw [SettlementConsumer.consume, hpayload]
        dsimp only
        rw [apply_of_mem happlied]
    · rw [if_neg hinterested] at hchanged
      exact absurd rfl hchanged
  | reconcileNext env =>
    simp only [SettlementNode.step] at hchanged
    cases hreconciling : n.reconciling with
    | nil =>
      rw [hreconciling] at hchanged
      exact absurd rfl hchanged
    | cons sp rest =>
      refine ⟨sp, by rw [settles, hreconciling]; rfl, h.reconciling sp ?_⟩
      rw [hreconciling]
      exact List.mem_cons_self
  | finalization env target =>
    simp only [SettlementNode.step] at hchanged
    cases hlookup : n.voting.records.lookup target with
    | none =>
      rw [hlookup] at hchanged
      exact absurd rfl hchanged
    | some record =>
      rw [hlookup] at hchanged
      by_cases hfinal : record.finalized = true
      · refine ⟨handlerPayload target record, ?_, authorizes_handlerPayload hlookup hfinal⟩
        simp [settles, hlookup, if_pos hfinal]
      · simp only [if_neg hfinal] at hchanged
        exact absurd rfl hchanged
  | reconcile order | vote target b | tally target | callbackFired target
  | setup registry validatorSet committeeSource => exact absurd rfl hchanged

theorem books_commit_ne {n : SettlementNode} {ev target : Event} {sp : SettlementPayload}
    (hinterested : SettlementConsumer.interested ev) (hpayload : SettlementConsumer.payload ev = .ok sp)
    (hopen : sp.targetEventID ∉ n.applicator.applied) (hget : env.lookup.get sp.targetEventID = .ok target)
    (htype : target.type = .transfer)
    (hkeyed : n.applicator.transfer.KeyedAt target.id)
    (hmay : n.applicator.transfer.MaySettle target sp.settleState) : (n.step (.commit env ev)).books ≠ n.books := by
  intro hsame
  have hsettled := settledAs_apply hopen hget htype hkeyed hmay
  have hledger : (apply env sp n.applicator).2.transfer = n.applicator.transfer := by
    have hescrow := congrArg Prod.fst hsame
    simp only [SettlementNode.step, if_pos hinterested, SettlementConsumer.consume, hpayload, books] at hescrow
    exact congrArg escrow.Escrow.ledger hescrow
  rw [hledger] at hsettled
  exact hsettled.not_maySettle hmay

/-- If every settlement is authorized when it is committed, the books change by authorized settlements only; and a
    transfer that may be settled is settled by any event that says so. -/
theorem settlesAuthorized_run (start : SettlementNode) (occurrences : List Occurrence)
    (hdeferred : start.applicator.deferred = ∅) (hreconciling : start.reconciling = []) :
    (MeetsAlong step CommitsAuthorized start occurrences → MeetsAlong step SettlesAuthorized start occurrences) ∧
      ∀ (n : SettlementNode) (env : ApplyEnv) (ev target : Event) (sp : SettlementPayload),
        SettlementConsumer.interested ev → SettlementConsumer.payload ev = .ok sp →
        sp.targetEventID ∉ n.applicator.applied → env.lookup.get sp.targetEventID = .ok target →
        target.type = .transfer →
        (∀ e, n.applicator.transfer.entries.lookup target.id = some e → e.eventID = target.id) →
        n.applicator.transfer.MaySettle target sp.settleState →
        (n.SettlesAuthorized (.commit env ev) ↔ n.CommitsAuthorized (.commit env ev)) := by
  constructor
  · have hstart : start.Sound := by
      refine ⟨fun id sp hlookup => ?_, fun sp hsp => ?_⟩
      · simp [hdeferred] at hlookup
      · simp [hreconciling] at hsp
    exact MeetsAlong.imp hstart (fun _ _ h hcommits => h.step hcommits) fun _ _ h hcommits =>
      h.settlesAuthorized hcommits
  · intro n env ev target sp hinterested hpayload hopen hget htype hkeyed hmay
    have hchanged := books_commit_ne hinterested hpayload hopen hget htype hkeyed hmay
    have hsettles : n.settles (.commit env ev) = some sp := by
      rw [settles, if_pos hinterested, hpayload]
      rfl
    constructor
    · rintro hauthorized env' ev' sp' heq - hpayload' -
      cases heq
      cases hpayload.symm.trans hpayload'
      obtain ⟨sp'', hsp'', hauthorizes⟩ := hauthorized hchanged
      cases hsettles.symm.trans hsp''
      exact hauthorizes
    · intro hcommits _
      exact ⟨sp, hsettles, hcommits env ev sp rfl hinterested hpayload hopen⟩

section Sample

/-- A settlement event of someone who has no vote. -/
def strangersSettlement : Event :=
  Event.signed
    { id := "s1"
      type := .settlement
      causalRefs := some ["e1"]
      payload := .document (.obj [("target_event_id", .str "e1"), ("verdict", .str "accepted")])
      agentID := ""
      causalTimestamp := 2 }

def sampleSettling : SettlementNode where
  voting := sampleNode
  validatorSets := [snapshotSource sampleSnapshot sampleOrder]
  applicator := emptyApplicator

def onePayment : ApplyEnv := sampleApplyEnv [transferEvent "e1" "alice" "bob" "1000000"]

theorem payload_strangersSettlement : SettlementConsumer.payload strangersSettlement = .ok (accepted "e1") := rfl

end Sample

/-- After two validators have approved the transfer, the event may come from anyone. -/
theorem settlesAuthorized_run_approved :
    MeetsAlong step SettlesAuthorized sampleSettling
      [.vote "e1" ⟨"ka", true, 0⟩, .vote "e1" ⟨"kb", true, 0⟩, .commit onePayment strangersSettlement] := by
  refine (settlesAuthorized_run _ _ rfl rfl).1 ⟨fun _ _ _ heq => (by cases heq), fun _ _ _ heq => (by cases heq),
    fun env ev sp heq _ hpayload _ => ?_, trivial⟩
  cases heq
  cases payload_strangersSettlement.symm.trans hpayload
  exact .inl ⟨true, by decide +kernel, rfl⟩

/-- Without a vote and without an attestation, a signed event of a stranger settles the transfer. -/
theorem stranger_settles_transfer :
    crypto.verifyEvent sampleCrypto strangersSettlement = true ∧ sampleSettling.voting.records = ∅ ∧
      (sampleSettling.step (.commit onePayment strangersSettlement)).applicator.transfer.SettledAs "e1" .settled ∧
      ¬ sampleSettling.SettlesAuthorized (.commit onePayment strangersSettlement) := by
  have hopen : (accepted "e1").targetEventID ∉ sampleSettling.applicator.applied := by decide
  have hget : onePayment.lookup.get "e1" = .ok (transferEvent "e1" "alice" "bob" "1000000") := rfl
  have hkeyed : ∀ e, sampleSettling.applicator.transfer.entries.lookup "e1" = some e → e.eventID = "e1" :=
    fun e hlookup => (by cases hlookup)
  have hmay : sampleSettling.applicator.transfer.MaySettle (transferEvent "e1" "alice" "bob" "1000000") .settled :=
    ⟨by decide +kernel, by decide +kernel⟩
  have hrefused : ¬ sampleSettling.Authorizes (accepted "e1") := by
    rintro (⟨verdict, houtcome, -⟩ | ⟨vs, hvs, -, -, weight, hweight, hreached⟩)
    · cases houtcome
    · obtain rfl := List.mem_singleton.mp hvs
      have hzero : weight = 0 := UInt64.toNat_inj.mp hweight
      rw [hzero] at hreached
      exact absurd hreached (by decide +kernel)
  refine ⟨by decide +kernel, rfl, settledAs_apply hopen hget rfl hkeyed hmay, fun hauthorized => ?_⟩
  obtain ⟨sp, hsettles, hauthorizes⟩ :=
    hauthorized (books_commit_ne rfl payload_strangersSettlement hopen hget rfl hkeyed hmay)
  cases hsettles
  exact hrefused hauthorizes

end aethernet.recognition.SettlementNode
