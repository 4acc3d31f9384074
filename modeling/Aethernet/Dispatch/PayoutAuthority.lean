import Aethernet.Event.Canonical
import Aethernet.Recognition.DeliveryPaths
import Aethernet.Recognition.RoundConsumers
import Aethernet.TaskVerification.DeadlineChecker
import Aethernet.Transition.Invariant

open golang aethernet event escrow tasks taskverification settlement VerificationConsensusSettler
  recognition.TaskVerificationConsensusConsumer DeadlineChecker
open aethernet.recognition transition

namespace aethernet.settlement

def VerificationConsensusSettler.books (s : VerificationConsensusSettler) : ledger.TransferLedger × TaskManager :=
  (s.escrowMgr.ledger, s.taskMgr)

end aethernet.settlement

namespace aethernet.dispatch

/-- A round that the node finalized, with the active weight and the time of the evaluation. -/
structure Ruling where
  round : TaskVerificationRound
  weight : UInt64
  now : Int64

/-- `Evaluate` decided the round as it was finalized. -/
def Ruling.Holds (config : FinalizerConfig) (r : Ruling) : Prop :=
  let decision := config.evaluate { r.round with state := .opened } r.weight r.now
  decision.shouldFinalize ∧ decision.verdict = r.round.finalVerdict

/-- What a payout reads in a round, the votes apart. -/
structure Terms where
  roundID : RoundID
  taskID : String
  submissionEventID : EventID
  workerID : taskverification.AgentID
  posterID : taskverification.AgentID
  finalVerdict : Verdict
  deriving DecidableEq

def termsOf (round : TaskVerificationRound) : Terms :=
  ⟨round.roundID, round.taskID, round.submissionEventID, round.workerID, round.posterID, round.finalVerdict⟩

def Finalized (config : FinalizerConfig) (rulings : List Ruling) (round : TaskVerificationRound) : Prop :=
  ∃ r ∈ rulings, r.Holds config ∧ termsOf r.round = termsOf round

/-- The payload says of the task what the round says, as far as the settlement reads it. -/
structure AgreesWith (payload : TaskVerificationConsensusPayload) (round : TaskVerificationRound) : Prop where
  task : payload.taskID = round.taskID
  verdict : payload.finalVerdict = round.finalVerdict.text
  worker : payload.finalVerdict ≠ "fail" → payload.workerID = round.workerID
  poster : payload.finalVerdict ≠ "pass" → payload.posterID = round.posterID
  submission : payload.finalVerdict = "pass" → payload.submissionEventID = round.submissionEventID

/-- `Apply` gets to release the escrow of the payload's task, with this round. -/
structure TVConsensusConsumer.Settles (c : TVConsensusConsumer) (ev : Event) (payload : ConsensusPayload)
    (round : TaskVerificationRound) : Prop where
  decodes : consensusPayload ev = .ok payload
  started : c.settler.escrowMgr.hasSettlementStarted payload.taskID = false
  loads : c.loadRound payload.roundID = .ok round
  task : ∃ task entry, c.settler.taskMgr.getTask payload.taskID = .ok task ∧ task.status.isTerminal = false ∧
    (escrowEntry payload.toTaskVerificationConsensusPayload task c.settler.escrowMgr
      c.settler.dagScanner).1 = .ok entry
  verdict : payload.finalVerdict ∈ ["pass", "fail", "abstain"]

/-- The parts of a node that pay for tasks. `rulings` are the rounds it has finalized itself. -/
structure PayoutNode where
  rounds : Rounds
  settler : VerificationConsensusSettler
  rulings : List Ruling := []

namespace PayoutNode

/-- What can happen to the node. -/
inductive Occurrence
  | submit (env : OpenEnv) (ev : Event)
  | vote (d : Delivery)
  | check (env : CheckEnv) (id : RoundID)
  | consensus (env : ConsensusEnv) (ev : Event)
  | apply (loadErr : Option Error) (env : SettleEnv) (ev : Event)
  /-- The tasks, escrows and the ledger change otherwise. -/
  | other (settler : VerificationConsensusSettler)

/-- The dispatcher's consumer. -/
def consumer (loadErr : Option Error) (n : PayoutNode) : TVConsensusConsumer where
  settler := n.settler
  loadRound id := n.rounds.loadRound loadErr id

/-- The node after an evaluation with this weight at this time: each round emitted since is a ruling. -/
def rule (weight : UInt64) (now : Int64) (rounds : Rounds) (n : PayoutNode) : PayoutNode :=
  { n with
    rounds := rounds
    rulings := n.rulings ++ (rounds.emitted.drop n.rounds.emitted.length).map fun round => ⟨round, weight, now⟩ }

/-- The vote consumer and the deadline checker have the same finalizer. -/
def step (sha256 : String → List UInt8) (d : DeadlineChecker) (n : PayoutNode) : Occurrence → PayoutNode
  | .submit env ev => { n with rounds := (TaskVerificationRoundConsumer.consume sha256 env ev n.rounds).2 }
  | .vote v => n.rule v.env.activeWeight v.env.now (TaskVerificationVoteConsumer.deliver ⟨some d.finalizer⟩ n.rounds v)
  -- the rounds of `ListOpenRounds` one by one
  | .check env id => match n.rounds.stored.lookup id with
    | none => n
    | some round =>
      if round.isTerminal then n else n.rule env.totalWeight env.now (d.checkRound env round n.rounds)
  | .consensus env ev => { n with rounds := (consume env ev n.rounds).2 }
  | .apply loadErr env ev => { n with settler := ((n.consumer loadErr).apply env ev).2.settler }
  | .other settler => { n with settler }

/-- An `Apply` changes the books only as a stored round says that the node itself has finalized. -/
def PaysByRound (sha256 : String → List UInt8) (d : DeadlineChecker) (n : PayoutNode) (o : Occurrence) : Prop :=
  ∀ loadErr env ev, o = .apply loadErr env ev → (n.step sha256 d o).settler.books ≠ n.settler.books →
    ∃ payload round, consensusPayload ev = .ok payload ∧ n.rounds.stored.lookup payload.roundID = some round ∧
      round.isTerminal ∧ Finalized d.finalizer n.rulings round ∧
      AgreesWith payload.toTaskVerificationConsensusPayload round

/-- No consensus event closes a round, the deadline checker closes one only if `Evaluate` does, and a payload that gets
    paid agrees with a round that is closed. -/
def ByRound (d : DeadlineChecker) (n : PayoutNode) : Occurrence → Prop
  | .check env id => ∀ round, n.rounds.stored.lookup id = some round → round.isTerminal = false →
    ∀ decision, d.action env round = .finalize decision →
      (d.finalizer.evaluate round env.totalWeight env.now).shouldFinalize
  | .consensus _ ev => ∀ payload round, consensusPayload ev = .ok payload →
    n.rounds.stored.lookup payload.roundID = some round → round.isTerminal
  | .apply loadErr _ ev => ∀ payload round, (n.consumer loadErr).Settles ev payload round →
    round.isTerminal ∧ AgreesWith payload.toTaskVerificationConsensusPayload round
  | _ => True

end PayoutNode

/-- Every closed round was finalized by one of the rulings. -/
def Backed (config : FinalizerConfig) (rulings : List Ruling) (s : Rounds) : Prop :=
  ∀ id round, s.stored.lookup id = some round → round.isTerminal = true → Finalized config rulings round

section Rulings

variable {config : FinalizerConfig} {rulings : List Ruling} {weight : UInt64} {now : Int64} {s s' s'' : Rounds}
  {round : TaskVerificationRound} {id : RoundID} {saveErr : Option Error}

theorem Finalized.append (h : Finalized config rulings round) (more : List Ruling) :
    Finalized config (rulings ++ more) round := by
  obtain ⟨r, hr, hfinalized⟩ := h
  exact ⟨r, List.mem_append_left more hr, hfinalized⟩

theorem Finalized.of_terms {round' : TaskVerificationRound} (h : Finalized config rulings round)
    (hterms : termsOf round' = termsOf round) : Finalized config rulings round' := by
  obtain ⟨r, hr, hholds, hround⟩ := h
  exact ⟨r, hr, hholds, hround.trans hterms.symm⟩

def KeepsBacked (config : FinalizerConfig) (s s' : Rounds) : Prop :=
  s'.emitted = s.emitted ∧ ∀ rulings, Backed config rulings s → Backed config rulings s'

/-- From one store to the next, the closed rounds stay backed with the emitted ones as rulings. -/
def RulesBacked (config : FinalizerConfig) (weight : UInt64) (now : Int64) (s s' : Rounds) : Prop :=
  ∃ emitted, s'.emitted = s.emitted ++ emitted ∧
    ∀ rulings, Backed config rulings s →
      Backed config (rulings ++ emitted.map fun round => ⟨round, weight, now⟩) s'

theorem KeepsBacked.refl (s : Rounds) : KeepsBacked config s s := ⟨rfl, fun _ h => h⟩

theorem KeepsBacked.rules (h : KeepsBacked config s s') (h' : RulesBacked config weight now s' s'') :
    RulesBacked config weight now s s'' := by
  obtain ⟨emitted, hemitted, hbacked⟩ := h'
  exact ⟨emitted, h.1 ▸ hemitted, fun rulings hrulings => hbacked rulings (h.2 rulings hrulings)⟩

theorem RulesBacked.refl (s : Rounds) : RulesBacked config weight now s s :=
  ⟨[], (List.append_nil _).symm, fun rulings h => by rwa [List.map_nil, List.append_nil]⟩

theorem RulesBacked.of_keeps (h : KeepsBacked config s s') : RulesBacked config weight now s s' :=
  h.rules (.refl s')

theorem KeepsBacked.save (h : round.isTerminal = true → ∃ id old, s.stored.lookup id = some old ∧
      old.isTerminal = true ∧
    termsOf round = termsOf old) : KeepsBacked config s (Rounds.saveRound saveErr round s).2 := by
  refine ⟨?_, fun rulings hbacked id found hfound hterminal => ?_⟩
  · cases saveErr <;> rfl
  · rw [Rounds.lookup_saveRound] at hfound
    split_ifs at hfound with hsaved
    · cases hfound
      obtain ⟨id, old, hold, hclosed, hterms⟩ := h hterminal
      exact (hbacked id old hold hclosed).of_terms hterms
    · exact hbacked id found hfound hterminal

theorem KeepsBacked.opened (saveErr : Option Error) (hopen : round.state = .opened) :
    KeepsBacked config s (Rounds.saveRound saveErr round s).2 := by
  refine .save fun hterminal => ?_
  rw [isTerminal_eq_false.mpr hopen] at hterminal
  cases hterminal

theorem evaluate_reopened (hopen : round.state = .opened) (time : Int64) (verdict : Verdict) (score : UInt64) :
    config.evaluate { round with
        state := .opened, finalizationTime := time, finalVerdict := verdict, finalScoreBP := score } weight now =
      config.evaluate round weight now := by
  obtain ⟨⟩ := round
  cases hopen
  rfl

theorem RulesBacked.finalize (hopen : round.state = .opened)
    (hdecision : (config.evaluate round weight now).shouldFinalize = true) (state : RoundState) (time : Int64)
    (score : UInt64) :
    let closed := { round with
      state := state, finalizationTime := time, finalVerdict := (config.evaluate round weight now).verdict,
      finalScoreBP := score }
    RulesBacked config weight now s
      { stored := s.stored.insert closed.roundID closed, emitted := s.emitted ++ [closed] } := by
  intro closed
  refine ⟨[closed], rfl, fun rulings hbacked id found hfound hterminal => ?_⟩
  rw [Finmap.lookup_insert_eq] at hfound
  split_ifs at hfound with hid
  · cases hfound
    refine ⟨⟨closed, weight, now⟩, by simp, ?_, rfl⟩
    have hsame : config.evaluate { closed with state := .opened } weight now = config.evaluate round weight now :=
      evaluate_reopened hopen time _ score
    unfold Ruling.Holds
    rw [hsame]
    exact ⟨hdecision, rfl⟩
  · exact (hbacked id found hfound hterminal).append _

theorem keepsBacked_submit (sha256 : String → List UInt8) (env : OpenEnv) (ev : Event) (s : Rounds) :
    KeepsBacked config s (TaskVerificationRoundConsumer.consume sha256 env ev s).2 := by
  obtain hsame | ⟨p, round, -, hopen, hsave⟩ := TaskVerificationRoundConsumer.consume_cases sha256 env ev s
  · rw [hsame]
    exact .refl s
  · rw [hsave]
    exact .opened env.saveErr (state_openRound hopen)

variable {vote : TaskVerificationVoteRecord} {r : TaskVerificationRound}

theorem KeepsBacked.voted (hlookup : s.stored.lookup id = some round) (hvoted : recognition.voted vote round = some r) :
    KeepsBacked config s (Rounds.saveRound saveErr r s).2 := by
  obtain ⟨hterminal, rfl⟩ | ⟨hopen, -, rfl⟩ := voted_cases hvoted
  · exact .save fun _ => ⟨id, round, hlookup, hterminal, rfl⟩
  · exact .opened saveErr ((TaskVerificationRound.state_recordVote vote round).trans hopen)

theorem keepsBacked_sync (env : VoteEnv) (payload : TaskVerificationVotePayload) (s : Rounds) :
    KeepsBacked config s (applyTaskVerificationVoteSync env payload s) := by
  cases hload : s.loadRound env.loadErr payload.roundID with
  | error err =>
    rw [(unread hload).1]
    exact .refl s
  | ok round =>
    rw [sync_eq hload]
    cases hbind : (eligibleVote env payload).bind (recognition.voted · round) with
    | none => exact .refl s
    | some r =>
      obtain ⟨vote, -, hvoted⟩ := Option.bind_eq_some_iff.mp hbind
      exact .voted (lookup_of_loadRound hload).2 hvoted

theorem rulesBacked_finalizeRound (env : VoteEnv) (hopen : round.state = .opened) (s : Rounds) :
    RulesBacked config env.activeWeight env.now s
      (TaskVerificationVoteConsumer.finalizeRound ⟨some config⟩ env round s) := by
  simp only [TaskVerificationVoteConsumer.finalizeRound]
  cases hdecision : (config.evaluate round env.activeWeight env.now).shouldFinalize with
  | false => exact .refl s
  | true =>
    rw [transition_of_open hopen]
    cases hsave : env.saveFinalErr with
    | some err => exact .refl s
    | none => exact .finalize hopen hdecision _ env.now _

theorem rulesBacked_consume (env : VoteEnv) (ev : Event) (s : Rounds) :
    RulesBacked config env.activeWeight env.now s (TaskVerificationVoteConsumer.consume ⟨some config⟩ env ev s).2 := by
  cases hev : json.unmarshal TaskVerificationVotePayload.decoder ev.payload with
  | error err =>
    simp only [TaskVerificationVoteConsumer.consume, hev]
    exact .refl s
  | ok payload =>
    cases hload : s.loadRound env.loadErr payload.roundID with
    | error err =>
      rw [(unread hload).2 _ ev hev]
      exact .refl s
    | ok round =>
      rw [consume_eq _ hev hload]
      cases hbind : (eligibleVote env payload).bind (recognition.voted · round) with
      | none => exact .refl s
      | some r =>
        obtain ⟨vote, -, hvoted⟩ := Option.bind_eq_some_iff.mp hbind
        have hsaved : KeepsBacked config s (Rounds.saveRound env.saveErr r s).2 :=
          .voted (lookup_of_loadRound hload).2 hvoted
        split_ifs with hlast
        · exact .of_keeps hsaved
        · obtain ⟨hterminal, -⟩ | ⟨hopen, -, rfl⟩ := voted_cases hvoted
          · exact absurd (.inl hterminal) hlast
          · exact hsaved.rules (rulesBacked_finalizeRound env
              ((TaskVerificationRound.state_recordVote vote round).trans hopen) _)

theorem rulesBacked_deliver (v : Delivery) (s : Rounds) :
    RulesBacked config v.env.activeWeight v.env.now s (TaskVerificationVoteConsumer.deliver ⟨some config⟩ s v) := by
  unfold TaskVerificationVoteConsumer.deliver
  cases v.path with
  | sync =>
    dsimp only [syncVote]
    cases getPayload "event.TaskVerificationVotePayload" TaskVerificationVotePayload.decoder v.ev with
    | error err => exact .refl s
    | ok payload => exact .of_keeps (keepsBacked_sync v.env payload s)
  | consumer => exact rulesBacked_consume v.env v.ev s

theorem rulesBacked_checkRound {d : DeadlineChecker} {env : CheckEnv} (hopen : round.state = .opened)
    (hevaluate : ∀ decision, d.action env round = .finalize decision →
      decision = d.finalizer.evaluate round env.totalWeight env.now ∧ decision.shouldFinalize = true) (s : Rounds) :
    RulesBacked d.finalizer env.totalWeight env.now s (d.checkRound env round s) := by
  unfold checkRound checked
  cases haction : d.action env round with
  | wait => exact .refl s
  | extend =>
    cases hsave : env.saveErr with
    | some err => exact .refl s
    | none => exact .of_keeps (.opened none hopen)
  | finalize decision =>
    obtain ⟨rfl, hdecision⟩ := hevaluate decision haction
    simp only [transition_of_open hopen]
    cases hsave : env.saveErr with
    | some err => exact .refl s
    | none => exact .finalize hopen hdecision _ env.now _

theorem keepsBacked_calibrate (env : ConsensusEnv) (hlookup : s.stored.lookup id = some round)
    (hterminal : round.isTerminal = true) :
    KeepsBacked config s (calibrate env round s) := by
  unfold calibrate
  split_ifs
  · exact .save fun _ => ⟨id, round, hlookup, hterminal, rfl⟩
  · exact .refl s

theorem keepsBacked_consensus (env : ConsensusEnv) (ev : Event) (s : Rounds)
    (hclosed : ∀ payload round, consensusPayload ev = .ok payload →
      s.stored.lookup payload.roundID = some round → round.isTerminal = true) :
    KeepsBacked config s (consume env ev s).2 := by
  unfold consume
  cases hev : json.unmarshal ConsensusPayload.decoder ev.payload with
  | error err => exact .refl s
  | ok payload =>
    dsimp only
    cases hload : s.loadRound env.loadErr payload.roundID with
    | error err =>
      dsimp only
      split_ifs <;> exact .refl s
    | ok round =>
      have hlookup := (lookup_of_loadRound hload).2
      have hterminal := hclosed payload round (getPayload_eq_ok_iff.mpr hev) hlookup
      have hnone : closed payload round = none := by
        rw [closed, if_pos hterminal]
      simp only [hnone]
      exact keepsBacked_calibrate env hlookup hterminal

end Rulings

theorem ledger_registerEscrow (taskID : String) (poster : ledger.AgentID) (amount : UInt64) (ref : EventID)
    (e : Escrow) :
    (e.registerEscrow taskID poster amount ref).2.ledger = e.ledger := by
  unfold Escrow.registerEscrow
  repeat' split
  all_goals rfl

theorem ledger_escrowEntry (payload : TaskVerificationConsensusPayload) (task : Task) (e : Escrow)
    (dagScanner : Option (List Event)) :
    (escrowEntry payload task e dagScanner).2.ledger = e.ledger := by
  unfold escrowEntry
  cases e.getEntry payload.taskID with
  | ok entry => rfl
  | error err =>
    cases dagScanner with
    | none => rfl
    | some events =>
      cases hfunding : lookupEscrowLockTransfer events payload.taskID task.posterID task.budget with
      | error err => simp only [hfunding]
      | ok ref =>
        have hledger := ledger_registerEscrow payload.taskID task.posterID task.budget ref e
        simp only [hfunding]
        rcases hregister : Escrow.registerEscrow payload.taskID task.posterID task.budget ref e with ⟨_ | _, e'⟩
        · rw [hregister] at hledger
          exact hledger
        · rw [hregister] at hledger
          dsimp only
          split <;> exact hledger

namespace TVConsensusConsumer

variable {c : TVConsensusConsumer} {ev : Event} {payload : ConsensusPayload} {round : TaskVerificationRound}

/-- An `Apply` that changes the books got to release the escrow. -/
theorem settles_of_books_ne {env : SettleEnv} (h : (c.apply env ev).2.settler.books ≠ c.settler.books) :
    ∃ payload round, c.Settles ev payload round := by
  by_contra hnone
  refine h ?_
  unfold apply
  cases hpayload : consensusPayload ev with
  | error err => rfl
  | ok payload =>
    dsimp only
    split_ifs with hterminal hstarted
    · rfl
    · rfl
    cases hround : c.loadRound payload.roundID with
    | error err => rfl
    | ok round =>
      have hkept : ((c.settler.settle env payload.toTaskVerificationConsensusPayload round).2.escrowMgr.ledger,
          (c.settler.settle env payload.toTaskVerificationConsensusPayload round).2.taskMgr) = c.settler.books := by
        unfold settle
        cases htask : c.settler.taskMgr.getTask payload.taskID with
        | error err => rfl
        | ok task =>
          have hopen : task.status.isTerminal = false := by simpa [isTerminal, htask] using hterminal
          have hledger := ledger_escrowEntry payload.toTaskVerificationConsensusPayload task c.settler.escrowMgr
            c.settler.dagScanner
          simp only [hopen, Bool.false_eq_true, if_false]
          cases hentry : escrowEntry payload.toTaskVerificationConsensusPayload task
              c.settler.escrowMgr c.settler.dagScanner with
          | mk result escrowMgr =>
            rw [hentry] at hledger
            cases result with
            | error err => exact congrArg (·, c.settler.taskMgr) hledger
            | ok entry =>
              have hverdict : payload.finalVerdict ∉ ["pass", "fail", "abstain"] := fun hmem =>
                hnone ⟨payload, round, hpayload, by simpa using hstarted, hround, ⟨task, entry, htask, hopen, by
                  rw [hentry]⟩, hmem⟩
              simp only [List.mem_cons, List.not_mem_nil, or_false, not_or] at hverdict
              simp only [hverdict, if_false]
              exact congrArg (·, c.settler.taskMgr) hledger
      dsimp only
      split
      next hsettle =>
        rw [hsettle] at hkept
        exact hkept
      next hsettle =>
        rw [hsettle] at hkept
        exact hkept

theorem Settles.books_ne {env : SettleEnv} (h : c.Settles ev payload round) (hok : (c.apply env ev).1 = .ok ()) :
    (c.apply env ev).2.settler.books ≠ c.settler.books := by
  intro hsame
  obtain ⟨task, entry, htask, hopen, -⟩ := h.task
  have hterminal : c.isTerminal payload.taskID = false := by simpa [isTerminal, htask] using hopen
  obtain ⟨r, err, s', -, hcall⟩ | ⟨r, s', hsettle, hcall⟩ :=
    apply_of_open env h.decodes hterminal h.started h.loads
  · rw [hcall] at hok
    cases hok
  · rw [hcall] at hsame
    have hsettled := (settled_of_settle hterminal hsettle).2.1
    have htaskMgr : s'.taskMgr = c.settler.taskMgr := congrArg Prod.snd hsame
    rw [isTerminal, htaskMgr] at hsettled
    rw [isTerminal, hsettled] at hterminal
    cases hterminal

end TVConsensusConsumer

namespace PayoutNode

variable {sha256 : String → List UInt8} {d : DeadlineChecker} {n : PayoutNode} {o : Occurrence}
  {round : TaskVerificationRound}

/-- Every closed round of the node is one that it finalized itself. -/
def Sound (d : DeadlineChecker) (n : PayoutNode) : Prop := Backed d.finalizer n.rulings n.rounds

theorem Sound.rule (h : n.Sound d) {weight : UInt64} {now : Int64} {rounds : Rounds}
    (hrules : RulesBacked d.finalizer weight now n.rounds rounds) : (n.rule weight now rounds).Sound d := by
  obtain ⟨emitted, hemitted, hbacked⟩ := hrules
  have hdrop : rounds.emitted.drop n.rounds.emitted.length = emitted := by rw [hemitted, List.drop_left]
  simp only [Sound, PayoutNode.rule, hdrop]
  exact hbacked n.rulings h

theorem evaluate_of_action {env : CheckEnv} {decision : FinalizationDecision}
    (haction : d.action env round = .finalize decision)
    (hevaluate : (d.finalizer.evaluate round env.totalWeight env.now).shouldFinalize = true) :
    decision = d.finalizer.evaluate round env.totalWeight env.now := by
  unfold action at haction
  split at haction
  · unfold checkLegacy at haction
    simp only [hevaluate, if_true] at haction
    split_ifs at haction
    cases haction
    rfl
  · unfold checkProgressAware at haction
    split at haction
    · simp only [decisionOrDispute, hevaluate, if_true] at haction
      cases haction
      rfl
    · simp only [decisionOrDispute, hevaluate, if_true] at haction
      cases haction
      rfl
    · cases haction
    · cases haction

theorem Sound.step (h : n.Sound d) (hby : n.ByRound d o) : (n.step sha256 d o).Sound d := by
  cases o with
  | submit env ev => exact (keepsBacked_submit sha256 env ev n.rounds).2 n.rulings h
  | vote v => exact h.rule (rulesBacked_deliver v n.rounds)
  | check env id =>
    simp only [PayoutNode.step]
    cases hlookup : n.rounds.stored.lookup id with
    | none => exact h
    | some round =>
      dsimp only
      split_ifs with hterminal
      · exact h
      · have hclosed : round.isTerminal = false := by simpa using hterminal
        have hopen : round.state = .opened := by simpa [TaskVerificationRound.isTerminal] using hclosed
        refine h.rule (rulesBacked_checkRound hopen (fun decision haction => ?_) n.rounds)
        have hevaluate := hby round hlookup hclosed decision haction
        have hdecision := evaluate_of_action haction hevaluate
        exact ⟨hdecision, hdecision ▸ hevaluate⟩
  | consensus env ev => exact (keepsBacked_consensus env ev n.rounds hby).2 n.rulings h
  | apply loadErr env ev => exact h
  | other settler => exact h

theorem lookup_of_settles {loadErr : Option Error} {ev : Event} {payload : ConsensusPayload}
    (h : (n.consumer loadErr).Settles ev payload round) :
    n.rounds.stored.lookup payload.roundID = some round :=
  (lookup_of_loadRound h.loads).2

theorem Sound.paysByRound (h : n.Sound d) (hby : n.ByRound d o) : n.PaysByRound sha256 d o := by
  rintro loadErr env ev rfl hchanged
  obtain ⟨payload, round, hsettles⟩ := TVConsensusConsumer.settles_of_books_ne (c := n.consumer loadErr) hchanged
  obtain ⟨hterminal, hagrees⟩ := hby payload round hsettles
  have hlookup := lookup_of_settles hsettles
  exact ⟨payload, round, hsettles.decodes, hlookup, hterminal, h _ round hlookup hterminal, hagrees⟩

/-- If no consensus event closes a round, the deadline checker closes one only if `Evaluate` does, and the payloads that
    get paid agree with closed rounds, then every payout is by a round that the node has finalized. For an `Apply` that
    releases the escrow this is necessary as well. -/
theorem paysByRound_run (sha256 : String → List UInt8) (d : DeadlineChecker) (start : PayoutNode)
    (occurrences : List Occurrence) (hstart : start.rounds.stored = ∅) :
    (MeetsAlong (step sha256 d) (ByRound d) start occurrences →
      MeetsAlong (step sha256 d) (PaysByRound sha256 d) start occurrences) ∧
    ∀ (n : PayoutNode) (loadErr : Option Error) (env : SettleEnv) (ev : Event) (payload : ConsensusPayload)
      (round : TaskVerificationRound), n.Sound d → (n.consumer loadErr).Settles ev payload round →
      ((n.consumer loadErr).apply env ev).1 = .ok () →
      (n.PaysByRound sha256 d (.apply loadErr env ev) ↔ n.ByRound d (.apply loadErr env ev)) := by
  constructor
  · have hsound : start.Sound d := by
      intro id round hlookup
      simp [hstart] at hlookup
    exact MeetsAlong.imp hsound (fun _ _ h hby => h.step hby) fun _ _ h hby => h.paysByRound hby
  · intro n loadErr env ev payload round hsound hsettles hok
    refine ⟨fun hpays payload' round' hsettles' => ?_, hsound.paysByRound⟩
    obtain ⟨found, stored, hdecodes, hlookup, hterminal, -, hagrees⟩ :=
      hpays loadErr env ev rfl (hsettles.books_ne hok)
    cases hdecodes.symm.trans hsettles'.decodes
    cases hlookup.symm.trans (lookup_of_settles hsettles')
    exact ⟨hterminal, hagrees⟩

section Sample

def sampleSha256 (_ : String) : List UInt8 := [171]

def samplePayoutNode : PayoutNode where
  rounds := {}
  settler := sampleSettler "alice" "bob"

def sampleChecker : DeadlineChecker where
  finalizer := defaultFinalizerConfig

/-- The worker submits its work. -/
def submission : Event :=
  Event.signed
    { id := "work"
      type := .taskSubmitted
      payload := .document (.obj [("task_id", .str "t"), ("claimer_id", .str "worker")])
      agentID := "" }

def sampleOpenEnv : OpenEnv where
  taskMeta _ := .ok ("poster", "code")
  validatorVer := 1
  now := 1000

/-- A validator passes the work. -/
def passOf (validatorID family : String) : Delivery where
  path := .consumer
  env := recognition.sampleEnv
  ev := Event.signed
    { id := "vote of " ++ validatorID
      type := .taskVerificationVote
      causalRefs := some ["work"]
      payload := .document (.obj
        [("round_id", .str "ab"), ("validator_id", .str validatorID), ("verdict", .str "pass"),
          ("score_bp", .num "7000"), ("analyzer_family", .str family)])
      agentID := ""
      causalTimestamp := 2 }

/-- A consensus event on the round that names this worker. -/
def passFor (worker : String) : Event :=
  Event.signed
    { id := "consensus"
      type := .taskVerificationConsensus
      causalRefs := some ["work"]
      payload := .document (.obj
        [("round_id", .str "ab"), ("task_id", .str "t"), ("submission_event_id", .str "work"),
          ("worker_id", .str worker), ("poster_id", .str "poster"), ("final_verdict", .str "pass")])
      agentID := ""
      causalTimestamp := 3 }

def passPayload (worker : String) : ConsensusPayload :=
  { roundID := "ab", taskID := "t", submissionEventID := "work", workerID := worker, posterID := "poster"
    finalVerdict := "pass" }

theorem consensusPayload_passFor : consensusPayload (passFor "worker") = .ok (passPayload "worker") := rfl

/-- The work is submitted and three validators pass it. -/
def votedRun : List Occurrence :=
  [.submit sampleOpenEnv submission, .vote (passOf "ka" "f1"), .vote (passOf "kb" "f2"), .vote (passOf "kc" "f3")]

def passedTerms : Terms := ⟨"ab", "t", "work", "worker", "poster", .pass⟩

def Passed (s : Rounds) : Prop :=
  (s.stored.lookup "ab").map (fun round => (round.isTerminal, termsOf round)) = some (true, passedTerms)

theorem Passed.closed {s : Rounds} (h : Passed s)
    (hlookup : s.stored.lookup "ab" = some round) : round.isTerminal = true ∧ termsOf round = passedTerms := by
  rw [Passed, hlookup, Option.map_some] at h
  exact Prod.mk.inj (Option.some.inj h)

theorem passed_votedRun : Passed (votedRun.foldl (step sampleSha256 sampleChecker) samplePayoutNode).rounds := by
  unfold Passed
  decide +kernel

theorem passed_consensus :
    Passed ((votedRun.foldl (step sampleSha256 sampleChecker) samplePayoutNode).step sampleSha256 sampleChecker
      (.consensus {} (passFor "worker"))).rounds := by
  unfold Passed
  decide +kernel

end Sample

/-- Three votes finalize the round, and the consensus event pays its worker. -/
theorem paysByRound_run_threeVotes :
    MeetsAlong (step sampleSha256 sampleChecker) (PaysByRound sampleSha256 sampleChecker) samplePayoutNode
      (votedRun ++ [.consensus {} (passFor "worker"),
        .apply none sampleEnv (passFor "worker")]) := by
  refine (paysByRound_run _ _ _ _ rfl).1 ⟨trivial, trivial, trivial, trivial, fun payload round hpayload hlookup => ?_,
    fun payload round hsettles => ?_, trivial⟩
  · cases consensusPayload_passFor.symm.trans hpayload
    exact (passed_votedRun.closed hlookup).1
  · cases consensusPayload_passFor.symm.trans hsettles.decodes
    obtain ⟨hterminal, hterms⟩ := passed_consensus.closed (lookup_of_settles hsettles)
    refine ⟨hterminal, (congrArg Terms.taskID hterms).symm, ?_, fun _ => (congrArg Terms.workerID hterms).symm,
      fun _ => (congrArg Terms.posterID hterms).symm, fun _ => (congrArg Terms.submissionEventID hterms).symm⟩
    exact (congrArg (fun terms => terms.finalVerdict.text) hterms).symm

/-- A stranger's event names the stranger as the worker of a round without a vote, and gets the worker's share. -/
theorem stranger_is_paid :
    let forged := passFor "mallory"
    let submitted := samplePayoutNode.step sampleSha256 sampleChecker (.submit sampleOpenEnv submission)
    let closed := submitted.step sampleSha256 sampleChecker (.consensus {} forged)
    let paid := closed.step sampleSha256 sampleChecker
      (.apply none sampleEnv forged)
    crypto.verifyEvent sampleCrypto forged = true ∧
      (submitted.rounds.stored.lookup "ab").map (fun round => (round.state, round.workerID, round.votes)) =
        some (.opened, "worker", []) ∧
      closed.rulings = [] ∧ paid.settler.escrowMgr.ledger.balanceLocked "mallory" = 7300 ∧
      ¬ MeetsAlong (step sampleSha256 sampleChecker) (PaysByRound sampleSha256 sampleChecker) samplePayoutNode
        [.submit sampleOpenEnv submission, .consensus {} forged,
          .apply none sampleEnv forged] := by
  refine ⟨by decide +kernel, by decide +kernel, rfl, by decide +kernel, ?_⟩
  rintro ⟨-, -, hpays, -⟩
  have hchanged : ∀ n : PayoutNode, n.settler.books.1.balanceLocked "mallory" = 7300 →
      n.settler.books ≠ samplePayoutNode.settler.books := by
    intro n hpaid hsame
    rw [hsame] at hpaid
    exact absurd hpaid (by decide +kernel)
  obtain ⟨payload, round, -, -, -, ⟨r, hr, -⟩, -⟩ := hpays none _ _ rfl (hchanged _ (by decide +kernel))
  cases hr

end PayoutNode

end aethernet.dispatch
