import Aethernet.Settlement.Conservation
import Aethernet.Transition.Invariant

open golang aethernet event ledger escrow tasks taskverification transition
open aethernet.settlement

namespace aethernet.dispatch

/-- `TaskVerificationConsensusPayload`, with the fields the settler does not read. -/
structure ConsensusPayload extends TaskVerificationConsensusPayload where
  version : UInt8 := 0
  roundID : RoundID := ""
  finalScoreBP : UInt64 := 0
  passWeight : UInt64 := 0
  failWeight : UInt64 := 0
  abstainWeight : UInt64 := 0
  totalActiveWeight : UInt64 := 0
  participatingFamilies : List String := []
  diversityFloorMet : Bool := false
  voteCount : Int64 := 0
  finalizationTimeUnix : Int64 := 0

def ConsensusPayload.decoder : json.Decoder ConsensusPayload :=
  json.struct "TaskVerificationConsensusPayload" "event.TaskVerificationConsensusPayload" {}
    [json.field "v" json.uint8 (·.version) fun p x => { p with version := x },
      json.field "round_id" json.string (·.roundID) fun p x => { p with roundID := x },
      json.field "task_id" json.string (·.taskID) fun p x => { p with taskID := x },
      json.field "submission_event_id" json.string (·.submissionEventID)
        fun p x => { p with submissionEventID := x },
      json.field "worker_id" json.string (·.workerID) fun p x => { p with workerID := x },
      json.field "poster_id" json.string (·.posterID) fun p x => { p with posterID := x },
      json.field "final_verdict" json.string (·.finalVerdict) fun p x => { p with finalVerdict := x },
      json.field "final_score_bp" json.uint64 (·.finalScoreBP) fun p x => { p with finalScoreBP := x },
      json.field "pass_weight" json.uint64 (·.passWeight) fun p x => { p with passWeight := x },
      json.field "fail_weight" json.uint64 (·.failWeight) fun p x => { p with failWeight := x },
      json.field "abstain_weight" json.uint64 (·.abstainWeight) fun p x => { p with abstainWeight := x },
      json.field "total_active_weight" json.uint64 (·.totalActiveWeight)
        fun p x => { p with totalActiveWeight := x },
      json.field "participating_families" (json.slice "string" json.string) (·.participatingFamilies)
        fun p x => { p with participatingFamilies := x },
      json.field "diversity_floor_met" json.bool (·.diversityFloorMet) fun p x => { p with diversityFloorMet := x },
      json.field "vote_count" (json.intAs "int") (·.voteCount) fun p x => { p with voteCount := x },
      json.field "finalization_time_unix" json.int64 (·.finalizationTimeUnix)
        fun p x => { p with finalizationTimeUnix := x }]

def consensusPayload (ev : Event) : Except Error ConsensusPayload :=
  getPayload "event.TaskVerificationConsensusPayload" ConsensusPayload.decoder ev

/-- `TVConsensusConsumer`. Task and escrow manager are those of the settler; `loadRound` is the round store. The
    lock of a task serializes the calls for it, which are whole steps here. -/
structure TVConsensusConsumer where
  settler : VerificationConsensusSettler
  loadRound : RoundID → Except Error TaskVerificationRound

namespace TVConsensusConsumer

/-- The task is known and in a terminal status. -/
def isTerminal (taskID : String) (c : TVConsensusConsumer) : Bool :=
  match c.settler.taskMgr.getTask taskID with
  | .error _ => false
  | .ok task => task.status.isTerminal

def apply (env : SettleEnv) (ev : Event) : Method TVConsensusConsumer Unit := fun c =>
  match consensusPayload ev with
  | .error err => (.error (.wrap "tv_consensus_settlement: unmarshal: " err ""), c)
  | .ok payload =>
    if c.isTerminal payload.taskID then (.ok (), c)
    -- a settlement that has paid anyone is taken to be under way elsewhere
    else if c.settler.escrowMgr.hasSettlementStarted payload.taskID then (.ok (), c)
    else match c.loadRound payload.roundID with
      | .error err => (.error (.wrap s!"tv_consensus_settlement: load round {payload.roundID}: " err ""), c)
      | .ok round =>
        match c.settler.settle env payload.toTaskVerificationConsensusPayload round with
        | ((_, some err), settler) => (.error (.wrap "tv_consensus_settlement: settle: " err ""), { c with settler })
        | ((_, none), settler) => (.ok (), { c with settler })

section Apply

variable {c : TVConsensusConsumer} {env : SettleEnv} {payload : TaskVerificationConsensusPayload}
  {s s' : VerificationConsensusSettler} {r : SettleResult} {loadRound : RoundID → Except Error TaskVerificationRound}

theorem releaseSettlement_deletes (amb : UInt64 → Ambient) (order genOrder : RangeOrder ledger.AgentID UInt64)
    (taskID : String) (worker : ledger.AgentID) (workerAmount : UInt64) (posterRefund : ledger.AgentID)
    (posterRefundAmount : UInt64) (validators genRecipients : Map ledger.AgentID UInt64)
    (treasury : ledger.AgentID) (treasuryAmount : UInt64) :
    Method.Meets (fun _ => True)
      (Escrow.releaseSettlement amb order genOrder taskID worker workerAmount posterRefund posterRefundAmount
        validators genRecipients treasury treasuryAmount)
      (fun _ e => taskID ∉ e.entries) (fun _ => True) := by
  rw [Escrow.releaseSettlement_eq]
  refine .bind (.trivial _) fun locked => ?_
  cases locked with
  | false => exact .fail fun _ h => h
  | true => exact .bind (.trivial _) fun _ => .write fun e _ => Finmap.notMem_erase_self

theorem isTerminal_of_resolution {m m' : TaskManager} {now : ℤ} {taskID verdict : String}
    (h : m.applyVerificationConsensusResolution now taskID verdict = (.ok (), m')) :
    ∃ task, m'.byID.lookup taskID = some task ∧ task.status.isTerminal := by
  unfold TaskManager.applyVerificationConsensusResolution at h
  cases hlookup : m.byID.lookup taskID with
  | none =>
    rw [hlookup] at h
    cases h
  | some task =>
    simp only [hlookup] at h
    split_ifs at h with hterminal hpass hfail habstain
    · cases h
      exact ⟨task, hlookup, hterminal⟩
    · cases h
      exact ⟨_, Finmap.lookup_insert _, rfl⟩
    · cases h
      exact ⟨_, Finmap.lookup_insert _, rfl⟩
    · cases h
      exact ⟨_, Finmap.lookup_insert _, rfl⟩
    · cases h

theorem settled_of_finishSettlement {verdict : String} {p : VerificationConsensusSettler.Payouts}
    {result : SettleResult}
    (h : s.finishSettlement env payload verdict p result = ((r, none), s')) :
    r.applied = true ∧ isTerminal payload.taskID ⟨s', loadRound⟩ = true ∧ payload.taskID ∉ s'.escrowMgr.entries := by
  unfold VerificationConsensusSettler.finishSettlement at h
  split at h
  next => cases h
  next escrowMgr hrelease =>
    have hdeleted := (releaseSettlement_deletes env.amb env.order env.genOrder payload.taskID p.worker p.workerAmount
      payload.posterID p.posterRefundAmount p.validators p.genRecipients s.treasuryID p.treasuryAmount).of_ok
        (s := s.escrowMgr) trivial (a := ()) (by rw [hrelease])
    rw [hrelease] at hdeleted
    split at h
    next => cases h
    next taskMgr hresolve =>
      cases h
      obtain ⟨task, hlookup, hterminal⟩ := isTerminal_of_resolution hresolve
      refine ⟨rfl, ?_, hdeleted⟩
      simp only [isTerminal, TaskManager.getTask, hlookup]
      exact hterminal

theorem settled_of_settle {round : TaskVerificationRound} (hopen : c.isTerminal payload.taskID = false)
    (h : c.settler.settle env payload round = ((r, none), s')) :
    r.applied = true ∧ isTerminal payload.taskID { c with settler := s' } = true ∧
      payload.taskID ∉ s'.escrowMgr.entries := by
  unfold VerificationConsensusSettler.settle at h
  simp only [isTerminal] at hopen
  cases htask : c.settler.taskMgr.getTask payload.taskID with
  | error err =>
    rw [htask] at h
    cases h
  | ok task =>
    simp only [htask] at h hopen
    rw [hopen, if_neg Bool.false_ne_true] at h
    split at h
    next => cases h
    next =>
      split_ifs at h with hpass hfail habstain
      · exact settled_of_finishSettlement h
      · exact settled_of_finishSettlement h
      · exact settled_of_finishSettlement h
      · cases h

theorem apply_of_open (env : SettleEnv) {ev : Event} {payload : ConsensusPayload} {round : TaskVerificationRound}
    (hpayload : consensusPayload ev = .ok payload) (hopen : c.isTerminal payload.taskID = false)
    (hstarted : c.settler.escrowMgr.hasSettlementStarted payload.taskID = false)
    (hround : c.loadRound payload.roundID = .ok round) :
    (∃ r err s', c.settler.settle env payload.toTaskVerificationConsensusPayload round = ((r, some err), s') ∧
      c.apply env ev = (.error (.wrap "tv_consensus_settlement: settle: " err ""), { c with settler := s' })) ∨
    ∃ r s', c.settler.settle env payload.toTaskVerificationConsensusPayload round = ((r, none), s') ∧
      c.apply env ev = (.ok (), { c with settler := s' }) := by
  unfold apply
  simp only [hpayload, hopen, hstarted, hround, Bool.false_eq_true, if_false]
  rcases c.settler.settle env payload.toTaskVerificationConsensusPayload round with ⟨⟨r, _ | err⟩, s'⟩
  · exact .inr ⟨r, s', rfl, rfl⟩
  · exact .inl ⟨r, err, s', rfl, rfl⟩

end Apply

/-- A call of `Apply` with an event about the task; the round store answers as it does by then. -/
structure ConsensusCall (taskID : String) where
  env : SettleEnv
  ev : Event
  loadRound : RoundID → Except Error TaskVerificationRound
  about : ∀ payload, consensusPayload ev = .ok payload → payload.taskID = taskID

section Runs

variable {taskID : String}

def call (c : TVConsensusConsumer) (i : ConsensusCall taskID) : Except Error Unit × TVConsensusConsumer :=
  apply i.env i.ev { c with loadRound := i.loadRound }

def step (c : TVConsensusConsumer) (i : ConsensusCall taskID) : TVConsensusConsumer := (c.call i).2

/-- The settlement of the task is complete: it is in a terminal status, it has no escrow entry, and the budget has left
    the bucket since this ledger. -/
structure Complete (taskID : String) (budget : UInt64) (l : TransferLedger) (c : TVConsensusConsumer) : Prop where
  terminal : c.isTerminal taskID = true
  unlocked : taskID ∉ c.settler.escrowMgr.entries
  disbursed : c.settler.escrowMgr.ledger.outflow (bucketID taskID) = l.outflow (bucketID taskID) + budget.toNat ∧
    c.settler.escrowMgr.ledger.balanceLocked (bucketID taskID) = 0

/-- What is asked of a call that returns nil and does not find the task in a terminal status: its escrow says that
    nobody is paid yet, no agent has two royalties if the task is accepted, and nothing is paid into the bucket. -/
def Settling (budget : UInt64) (c : TVConsensusConsumer) (i : ConsensusCall taskID) : Prop :=
  (c.call i).1 = .ok () → c.isTerminal taskID = false →
    c.settler.escrowMgr.hasSettlementStarted taskID = false ∧
    ∀ payload round, consensusPayload i.ev = .ok payload → i.loadRound payload.roundID = .ok round →
      (payload.finalVerdict = "pass" →
        (c.settler.royalties budget payload.toTaskVerificationConsensusPayload).DistinctAgents) ∧
      ¬ c.settler.PaysSomething budget payload.toTaskVerificationConsensusPayload round (bucketID taskID)

/-- The settler has changed nothing but the escrow, from which nothing is paid out yet or which says that someone is
    paid. -/
structure Waiting (taskID : String) (budget : UInt64) (s : VerificationConsensusSettler) (c : TVConsensusConsumer) :
    Prop where
  settler : c.settler = { s with escrowMgr := c.settler.escrowMgr }
  escrow : (c.settler.Funded taskID budget ∧ c.settler.escrowMgr.ledger.outflow (bucketID taskID) =
      s.escrowMgr.ledger.outflow (bucketID taskID)) ∨ c.settler.escrowMgr.hasSettlementStarted taskID = true

variable {budget : UInt64} {s : VerificationConsensusSettler} {c : TVConsensusConsumer} {i : ConsensusCall taskID}

/-- Where a run that has completed whatever it reported as done can be. -/
def Reached (taskID : String) (budget : UInt64) (s : VerificationConsensusSettler) (c : TVConsensusConsumer) : Prop :=
  Waiting taskID budget s c ∧ c.isTerminal taskID = false ∨ Complete taskID budget s.escrowMgr.ledger c

theorem call_of_terminal (hterminal : c.isTerminal taskID = true) : (c.call i).2.settler = c.settler := by
  unfold call apply
  cases hpayload : consensusPayload i.ev with
  | error err => rfl
  | ok payload =>
    obtain rfl := i.about payload hpayload
    have hterminal' : isTerminal payload.taskID { c with loadRound := i.loadRound } = true := hterminal
    simp only [hterminal', if_true]

theorem Complete.of_settler {l : TransferLedger} {c' : TVConsensusConsumer} (h : Complete taskID budget l c)
    (hsame : c'.settler = c.settler) : Complete taskID budget l c' := by
  obtain ⟨hterminal, hunlocked, hdisbursed⟩ := h
  refine ⟨?_, hsame ▸ hunlocked, hsame ▸ hdisbursed⟩
  rw [isTerminal, hsame]
  exact hterminal

/-- One call while the settlement waits: it reports an error and the settlement waits on, or it returns nil, and then
    has completed the settlement exactly if it meets the condition. -/
theorem Waiting.call (hbudget : budget.toNat ≤ 10 ^ 15) (hfactors : s.NonnegFactors) (h : Waiting taskID budget s c)
    (hopen : c.isTerminal taskID = false) (i : ConsensusCall taskID) :
    ((c.call i).1 ≠ .ok () ∧ Waiting taskID budget s (c.step i) ∧ (c.step i).isTerminal taskID = false) ∨
    (c.call i).1 = .ok () ∧ (Complete taskID budget s.escrowMgr.ledger (c.step i) ↔ c.Settling budget i) := by
  have hsame : Waiting taskID budget s { c with loadRound := i.loadRound } := ⟨h.settler, h.escrow⟩
  have hopen' : isTerminal taskID { c with loadRound := i.loadRound } = false := hopen
  have hfailed : ∀ {err c'}, c.call i = (.error err, c') → Waiting taskID budget s c' → c'.isTerminal taskID = false →
      (c.call i).1 ≠ .ok () ∧ Waiting taskID budget s (c.step i) ∧ (c.step i).isTerminal taskID = false := by
    intro err c' hcall hwaiting hterminal
    rw [step, hcall]
    exact ⟨fun hok => (by cases hok), hwaiting, hterminal⟩
  cases hpayload : consensusPayload i.ev with
  | error err =>
    exact .inl (hfailed (by simp only [TVConsensusConsumer.call, apply, hpayload]; rfl) hsame hopen')
  | ok payload =>
    have htask := i.about payload hpayload
    subst htask
    cases hstarted : c.settler.escrowMgr.hasSettlementStarted payload.taskID with
    | true =>
      have hcall : c.call i = (.ok (), { c with loadRound := i.loadRound }) := by
        simp [TVConsensusConsumer.call, apply, hpayload, hopen', hstarted]
      rw [step, hcall]
      refine .inr ⟨rfl, iff_of_false (fun hcomplete => ?_) fun hsettling => ?_⟩
      · exact Bool.false_ne_true (hopen.symm.trans hcomplete.terminal)
      · exact Bool.false_ne_true ((hsettling (congrArg Prod.fst hcall) hopen).1.symm.trans hstarted)
    | false =>
      obtain ⟨hfunded, houtflow⟩ := h.escrow.resolve_right (by rw [hstarted]; exact Bool.false_ne_true)
      cases hround : i.loadRound payload.roundID with
      | error err =>
        exact .inl (hfailed (by
          simp only [TVConsensusConsumer.call, apply, hpayload, hopen', hstarted, hround, Bool.false_eq_true, if_false]
          rfl) hsame hopen')
      | ok round =>
        obtain ⟨r, err, s', hsettle, hcall⟩ | ⟨r, s', hsettle, hcall⟩ :=
          apply_of_open (c := { c with loadRound := i.loadRound }) i.env hpayload hopen hstarted hround
        · -- a failed settlement has changed the escrow only
          obtain ⟨e, rfl, hunsettled⟩ :=
            (VerificationConsensusSettler.Attempts.none.failed hsettle).unsettled hfunded i.env
          refine .inl (hfailed hcall ⟨?_, ?_⟩ hopen)
          · rw [h.settler]
          · exact (hfunded.of_unsettled hunsettled).imp_left fun hkept => ⟨hkept.1, hkept.2.trans houtflow⟩
        · obtain ⟨happlied, hterminal, hunlocked⟩ := settled_of_settle hopen' hsettle
          have hstep : c.step i = ⟨s', i.loadRound⟩ := congrArg Prod.snd hcall
          have hok : (c.call i).1 = .ok () := congrArg Prod.fst hcall
          have hfactors' : c.settler.NonnegFactors := by
            rw [h.settler]
            exact ⟨hfactors.scores, hfactors.qualities⟩
          have hiff := VerificationConsensusSettler.settle_disburses_budget_iff hbudget hfactors' hfunded .none hsettle
            happlied
          rw [houtflow] at hiff
          refine .inr ⟨hok, ?_⟩
          rw [hstep]
          constructor
          · intro hcomplete _ _
            refine ⟨hstarted, fun payload' round' hpayload' hround' => ?_⟩
            cases hpayload.symm.trans hpayload'
            cases hround.symm.trans hround'
            exact hiff.mp hcomplete.disbursed
          · intro hsettling
            exact ⟨hterminal, hunlocked, hiff.mpr ((hsettling hok hopen).2 payload round hpayload hround)⟩

/-- A task in no terminal status whose budget is in its bucket. Along every sequence of consensus events for it, with
    failures anywhere, each `Apply` that returns nil leaves the task in a terminal status without an escrow entry and
    with its budget disbursed, exactly if each one that returns nil and does not find the task terminal meets the
    condition. -/
theorem complete_along_iff (c : TVConsensusConsumer) (hbudget : budget.toNat ≤ 10 ^ 15)
    (hfactors : c.settler.NonnegFactors) (hfunded : c.settler.Funded taskID budget)
    (hopen : c.isTerminal taskID = false) (calls : List (ConsensusCall taskID)) :
    MeetsAlong step (fun c' i => (c'.call i).1 = .ok () →
        Complete taskID budget c.settler.escrowMgr.ledger (c'.step i)) c calls ↔
      MeetsAlong step (Settling budget) c calls := by
  refine meetsAlong_iff_of_kept (P := Reached taskID budget c.settler) (.inl ⟨⟨rfl, .inl ⟨hfunded, rfl⟩⟩, hopen⟩) ?_ ?_
  · rintro c' i (⟨hwaiting, hopen'⟩ | hcomplete) hnil
    · obtain ⟨-, hkept⟩ | ⟨hok, -⟩ := hwaiting.call hbudget hfactors hopen' i
      · exact .inl hkept
      · exact .inr (hnil hok)
    · exact .inr (hcomplete.of_settler (call_of_terminal hcomplete.terminal))
  · rintro c' i (⟨hwaiting, hopen'⟩ | hcomplete)
    · obtain ⟨herr, -⟩ | ⟨hok, hiff⟩ := hwaiting.call hbudget hfactors hopen' i
      · exact iff_of_true (fun hok => absurd hok herr) fun hok => absurd hok herr
      · exact ⟨fun h => hiff.mp (h hok), fun h _ => hiff.mpr h⟩
    · refine iff_of_true (fun _ => hcomplete.of_settler (call_of_terminal hcomplete.terminal)) fun _ hopen' => ?_
      exact absurd (hopen'.symm.trans hcomplete.terminal) Bool.false_ne_true

end Runs

section Sample

open VerificationConsensusSettler

/-- The consensus event of one of the validators on a task that passed. -/
def consensusEvent (id : EventID) (validator : String) : Event where
  id := id
  type := .taskVerificationConsensus
  payload := .document (.obj
    [("round_id", .str "round"), ("task_id", .str "t"), ("submission_event_id", .str "work"),
      ("worker_id", .str "worker"), ("poster_id", .str "poster"), ("final_verdict", .str "pass")])
  agentID := validator

def samplePayload : ConsensusPayload :=
  { roundID := "round", taskID := "t", submissionEventID := "work", workerID := "worker", posterID := "poster"
    finalVerdict := "pass" }

def sampleConsumer (escrow : Escrow) : TVConsensusConsumer where
  settler := { sampleSettler "alice" "bob" with escrowMgr := escrow }
  loadRound _ := .ok sampleRound

/-- The same escrow in a ledger that has the ID of the second transfer out of the bucket. -/
def hinderedEscrow : Escrow :=
  { sampleEscrow with
    ledger := { sampleEscrow.ledger with
      entries := sampleEscrow.ledger.entries.insert "bucket:escrow:t:v1:1150:2"
        ⟨"bucket:escrow:t:v1:1150:2", "a", "b", 0, "AET", "", "", 1, .settled, 0, false⟩ } }

/-- The same escrow in a ledger that has the ID of the first transfer out of the bucket. -/
def delayedEscrow : Escrow :=
  { sampleEscrow with
    ledger := { sampleEscrow.ledger with
      entries := sampleEscrow.ledger.entries.insert "bucket:escrow:t:worker:7300:1"
        ⟨"bucket:escrow:t:worker:7300:1", "a", "b", 0, "AET", "", "", 1, .settled, 0, false⟩ } }

def sampleCall (id : EventID) (validator : String) : ConsensusCall "t" where
  env := sampleEnv
  ev := consensusEvent id validator
  loadRound _ := .ok sampleRound
  about payload hpayload := by
    have hsample : consensusPayload (consensusEvent id validator) = .ok samplePayload := rfl
    cases hsample.symm.trans hpayload
    rfl

/-- The first event fails before anyone is paid, the second one completes the settlement, and the third one finds it
    complete. -/
theorem complete_along_of_delayedEscrow :
    let c := sampleConsumer delayedEscrow
    let calls := [sampleCall "c1" "v1", sampleCall "c2" "v2", sampleCall "c3" "v3"]
    (c.call (sampleCall "c1" "v1")).1 ≠ .ok () ∧
    ((c.step (sampleCall "c1" "v1")).call (sampleCall "c2" "v2")).1 = .ok () ∧
    MeetsAlong step (fun c' i => (c'.call i).1 = .ok () →
      Complete "t" 10000 delayedEscrow.ledger (c'.step i)) c calls := by
  have hfails : ((sampleConsumer delayedEscrow).call (sampleCall "c1" "v1")).1 ≠ .ok () := by decide +kernel
  refine ⟨hfails, by decide +kernel, (complete_along_iff (sampleConsumer delayedEscrow) (by decide) ?_ ?_ rfl _).mpr
    ⟨fun hok => absurd hok hfails, fun _ _ => ⟨by decide +kernel, ?_⟩, fun _ hopen => ?_, trivial⟩⟩
  · exact ⟨(sampleSettler_nonnegFactors "alice" "bob").scores, (sampleSettler_nonnegFactors "alice" "bob").qualities⟩
  · exact ⟨by decide +kernel, (sampleSettler_funded "alice" "bob").escrow⟩
  · intro payload round hpayload hround
    have hsample : consensusPayload (sampleCall "c2" "v2").ev = .ok samplePayload := rfl
    cases hsample.symm.trans hpayload
    cases hround
    exact ⟨fun _ => by decide +kernel, by decide +kernel⟩
  · exact absurd hopen (by decide +kernel)

/-- The first event fails after the worker is paid. The second one returns nil and leaves the task open and 2700
    of its budget in the bucket. With both royalties of one author, an event returns nil and leaves 100 there. -/
theorem apply_incomplete_of_hinderedEscrow :
    let first := (sampleConsumer hinderedEscrow).apply sampleEnv (consensusEvent "c1" "v1")
    let second := first.2.apply sampleEnv (consensusEvent "c2" "v2")
    let royalties := apply sampleEnv (consensusEvent "c1" "v1")
      { sampleConsumer sampleEscrow with settler := sampleSettler "alice" "alice" }
    hinderedEscrow.ledger.balanceLocked "escrow:t" = 10000 ∧ first.1 ≠ .ok () ∧ second.1 = .ok () ∧
      second.2.isTerminal "t" = false ∧ "t" ∈ second.2.settler.escrowMgr.entries ∧
      second.2.settler.escrowMgr.ledger.balanceLocked "escrow:t" = 2700 ∧
      royalties.1 = .ok () ∧ royalties.2.settler.escrowMgr.ledger.balanceLocked "escrow:t" = 100 := by
  decide +kernel

end Sample

end TVConsensusConsumer

end aethernet.dispatch
