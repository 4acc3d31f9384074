import Aethernet.Consensus.Agreement
import Aethernet.Recognition.DeliveryPaths
import Aethernet.Recognition.RoundConsumers
import Aethernet.ValidatorLifecycle.Steps

open golang aethernet event taskverification validatorlifecycle transition TaskVerificationVotePayload
  recognition.TaskVerificationVoteConsumer TaskVerificationRound

namespace aethernet.recognition

/-- The functions that `main` gives to the vote consumer, with the order in which `VoteWeightByKey` visits the seats and
    the time. -/
def snapshotEnv (order : RangeOrder ValidatorID ValidatorSeat) (now : Int64) (r : Reducer) : VoteEnv where
  voteWeight := r.snapshot.voteWeightByKey ((order.visit r.snapshot.seats).map Prod.snd)
  activeWeight := r.snapshot.totalActiveWeight
  now := now

/-- The parts of a node that weigh votes. -/
structure WeighingNode where
  reducer : Reducer
  rounds : Rounds

namespace WeighingNode

/-- The consumption of a vote, or a validator lifecycle event. -/
inductive Occurrence
  | vote (order : RangeOrder ValidatorID ValidatorSeat) (now : Int64) (ev : Event)
  | lifecycle (ev : LifecycleEvent)

def step (sha256 : String → List UInt8) (c : TaskVerificationVoteConsumer) (n : WeighingNode) :
    Occurrence → WeighingNode
  | .vote order now ev => { n with rounds := (c.consume (snapshotEnv order now n.reducer) ev n.rounds).2 }
  | .lifecycle ev => { n with reducer := n.reducer.next sha256 ev }

def run (sha256 : String → List UInt8) (c : TaskVerificationVoteConsumer) (n : WeighingNode)
    (occurrences : List Occurrence) : WeighingNode :=
  occurrences.foldl (step sha256 c) n

/-- The node after a submission, with the version of its validator set. -/
def submit (sha256 : String → List UInt8) (env : OpenEnv) (ev : Event) (n : WeighingNode) : WeighingNode :=
  { n with
    rounds := (TaskVerificationRoundConsumer.consume sha256 { env with validatorVer := n.reducer.snapshot.version } ev
      n.rounds).2 }

/-- The submission opens the round. -/
structure Opens (sha256 : String → List UInt8) (env : OpenEnv) (ev : Event) (n : WeighingNode)
    (round : TaskVerificationRound) : Prop where
  fresh : n.rounds.stored.lookup round.roundID = none
  stored : (n.submit sha256 env ev).rounds.stored.lookup round.roundID = some round

/-- The votes of a run. -/
def votesOf (occurrences : List Occurrence) : List Event :=
  occurrences.filterMap fun
    | .vote _ _ ev => some ev
    | .lifecycle _ => none

/-- What the node shows a vote on a round: the weight of its validator, the active weight, and whether the deadline of
    the round has passed. -/
structure View where
  weight : Option UInt64
  activeWeight : UInt64
  expired : Bool
  deriving DecidableEq

def view (id : RoundID) (order : RangeOrder ValidatorID ValidatorSeat) (now : Int64) (ev : Event) (n : WeighingNode) :
    View where
  weight := match json.unmarshal decoder ev.payload with
    | .error _ => none
    | .ok payload => (snapshotEnv order now n.reducer).voteWeight payload.validatorID
  activeWeight := n.reducer.snapshot.totalActiveWeight
  expired := (n.rounds.stored.lookup id).any fun round => round.deadlineForCurrentPhase < now

/-- The votes of a run, each with what it is shown. -/
def seen (sha256 : String → List UInt8) (c : TaskVerificationVoteConsumer) (id : RoundID) :
    WeighingNode → List Occurrence → List (Event × View)
  | _, [] => []
  | n, .vote order now ev :: rest => (ev, n.view id order now ev) :: seen sha256 c id
      (n.step sha256 c (.vote order now ev)) rest
  | n, .lifecycle ev :: rest => seen sha256 c id (n.step sha256 c (.lifecycle ev)) rest

/-- The weights of a round. -/
def weights (round : TaskVerificationRound) : UInt64 × UInt64 × UInt64 :=
  (round.passWeight, round.failWeight, round.abstainWeight)

/-- Both nodes hold the same weights, have taken the same decision, and would take the same one at any times at which
    the deadline has passed on both or on neither. -/
def Agree (config : FinalizerConfig) (id : RoundID) (a b : WeighingNode) : Prop :=
  ∃ roundA roundB, a.rounds.stored.lookup id = some roundA ∧ b.rounds.stored.lookup id = some roundB ∧
    weights roundA = weights roundB ∧
    (roundA.state, roundA.finalVerdict, roundA.finalScoreBP) =
    (roundB.state, roundB.finalVerdict, roundB.finalScoreBP) ∧
    ∀ nowA nowB : Int64, (roundA.deadlineForCurrentPhase < nowA ↔ roundB.deadlineForCurrentPhase < nowB) →
      config.evaluate roundA a.reducer.snapshot.totalActiveWeight nowA =
        config.evaluate roundB b.reducer.snapshot.totalActiveWeight nowB

/-- The round without what identifies it and its times. -/
def core (round : TaskVerificationRound) : TaskVerificationRound :=
  { round with
    roundID := "", taskID := "", submissionEventID := "", workerID := "", posterID := "", category := ""
    validatorSetVersion := 0, committee := none, analyzerPolicyID := "", diversityFloor := 0, acceptanceThresholdBP := 0
    openedAtUnix := 0, deadlineUnix := 0, finalizationTime := 0 }

section Core

variable {round round' : TaskVerificationRound}

theorem weights_congr (hcore : core round = core round') : weights round = weights round' := by
  have hweights : weights (core round) = weights (core round') := by rw [hcore]
  exact hweights

variable (vote : TaskVerificationVoteRecord)

theorem core_recordVote (round : TaskVerificationRound) :
    core (round.recordVote vote) = (core round).recordVote vote := by
  unfold recordVote
  cases vote.verdict <;> rfl

theorem deadline_recordVote (round : TaskVerificationRound) :
    (round.recordVote vote).deadlineForCurrentPhase = round.deadlineForCurrentPhase := by
  unfold recordVote
  cases vote.verdict <;> rfl

theorem evaluate_congr (hcore : core round = core round') (config : FinalizerConfig) (weight : UInt64)
    {now now' : Int64}
    (hexpired : round.deadlineForCurrentPhase < now ↔ round'.deadlineForCurrentPhase < now') :
    config.evaluate round weight now = config.evaluate round' weight now' := by
  have hstate : round.state = round'.state := congrArg (·.state) hcore
  have hpass : round.passWeight = round'.passWeight := congrArg (·.passWeight) hcore
  have hfail : round.failWeight = round'.failWeight := congrArg (·.failWeight) hcore
  have hvotes : round.votes = round'.votes := congrArg (·.votes) hcore
  have hextended : round.extendedUntilUnix = round'.extendedUntilUnix := congrArg (·.extendedUntilUnix) hcore
  have hfloors : config.meetsFloors (core round) = config.meetsFloors (core round') := by rw [hcore]
  change config.meetsFloors round = config.meetsFloors round' at hfloors
  have hdeadline : evaluateDeadline round weight now = evaluateDeadline round' weight now' := by
    simp [evaluateDeadline, hexpired, hextended, hpass, hfail]
  simp [FinalizerConfig.evaluate, hstate, hpass, hfail, hvotes, hfloors, hdeadline]

variable {env env' : VoteEnv} {c : TaskVerificationVoteConsumer}

theorem core_consumeRound (hcore : core round = core round') (hweight : env.activeWeight = env'.activeWeight)
    (hsave : env.saveFinalErr = env'.saveFinalErr)
    (hexpired : round.deadlineForCurrentPhase < env.now ↔ round'.deadlineForCurrentPhase < env'.now) :
    core (c.consumeRound env vote round) = core (c.consumeRound env' vote round') := by
  have hterminal : round.isTerminal = round'.isTerminal := congrArg (·.isTerminal) hcore
  have hnew : round.NewTo vote ↔ round'.NewTo vote := by
    have hvotes : round.votes = round'.votes := congrArg (·.votes) hcore
    rw [NewTo, NewTo, hvotes]
  unfold consumeRound
  simp only [hterminal, hnew]
  split_ifs
  · exact congrArg (recordPostFinalizationVote vote) hcore
  · have hrecorded : core (round.recordVote vote) = core (round'.recordVote vote) := by
      rw [core_recordVote, core_recordVote, hcore]
    have hdecision : c.decision? env (round.recordVote vote) = c.decision? env' (round'.recordVote vote) := by
      unfold decision?
      cases c.finalizer with
      | none => rfl
      | some config =>
        have hexpired' : (round.recordVote vote).deadlineForCurrentPhase < env.now ↔
            (round'.recordVote vote).deadlineForCurrentPhase < env'.now := by
          rw [deadline_recordVote, deadline_recordVote, hexpired]
        simp [evaluate_congr hrecorded config env.activeWeight hexpired', ← hweight, hsave]
    unfold finalizedRound
    rw [hdecision]
    cases c.decision? env' (round'.recordVote vote) with
    | none => exact hrecorded
    | some decision =>
      exact congrArg (fun round : TaskVerificationRound => { round with
        state := decision.verdict.toState, finalVerdict := decision.verdict
        finalScoreBP := decision.finalScoreBP }) hrecorded
  · exact hcore

end Core

section Runs

variable {sha256 : String → List UInt8} {c : TaskVerificationVoteConsumer} {id : RoundID} {a b n : WeighingNode}
  {as bs occurrences : List Occurrence} {order order' : RangeOrder ValidatorID ValidatorSeat} {now now' : Int64}
  {ev : Event}

theorem map_fst_seen (n : WeighingNode) (occurrences : List Occurrence) :
    (n.seen sha256 c id occurrences).map Prod.fst = votesOf occurrences := by
  induction occurrences generalizing n with
  | nil => rfl
  | cons o rest ih =>
    cases o with
    | vote order now ev => exact congrArg (ev :: ·) (ih _)
    | lifecycle ev => exact ih _

theorem rounds_of_seen_nil (h : n.seen sha256 c id occurrences = []) :
    (n.run sha256 c occurrences).rounds = n.rounds := by
  induction occurrences generalizing n with
  | nil => rfl
  | cons o rest ih =>
    cases o with
    | vote order now ev => cases h
    | lifecycle ev => exact ih h

theorem first_of_seen_cons {first : Event × View} {rest : List (Event × View)}
    (h : n.seen sha256 c id occurrences = first :: rest) :
    ∃ (r : Reducer) (order : RangeOrder ValidatorID ValidatorSeat) (now : Int64) (ev : Event) (later : List Occurrence),
      first = (ev, view id order now ev ⟨r, n.rounds⟩) ∧
      seen sha256 c id (step sha256 c ⟨r, n.rounds⟩ (.vote order now ev)) later = rest ∧
      n.run sha256 c occurrences = run sha256 c (step sha256 c ⟨r, n.rounds⟩ (.vote order now ev)) later := by
  induction occurrences generalizing n with
  | nil => cases h
  | cons o later ih =>
    cases o with
    | vote order now ev =>
      cases h
      exact ⟨n.reducer, order, now, ev, later, rfl, rfl, rfl⟩
    | lifecycle ev => exact ih h

theorem castOn_congr (h : (a.view id order now ev).weight = (b.view id order' now' ev).weight) :
    castOn (snapshotEnv order now a.reducer) ev id = castOn (snapshotEnv order' now' b.reducer) ev id := by
  unfold castOn
  simp only [view] at h
  cases hev : json.unmarshal decoder ev.payload with
  | error err => rfl
  | ok payload =>
    simp only [hev] at h
    simp only [castVote, eligibleVote, h]
    rfl

/-- Both nodes have the round, with the same core. -/
structure Paired (id : RoundID) (a b : WeighingNode) (roundA roundB : TaskVerificationRound) : Prop where
  filedA : a.rounds.Filed
  filedB : b.rounds.Filed
  lookupA : a.rounds.stored.lookup id = some roundA
  lookupB : b.rounds.stored.lookup id = some roundB
  core : core roundA = core roundB

variable {roundA roundB : TaskVerificationRound}

theorem lookup_vote (sha256 : String → List UInt8) (c : TaskVerificationVoteConsumer) (id : RoundID)
    (hfiled : n.rounds.Filed) (order : RangeOrder ValidatorID ValidatorSeat) (now : Int64) (ev : Event) :
    (n.step sha256 c (.vote order now ev)).rounds.stored.lookup id =
      (n.rounds.stored.lookup id).map fun round =>
        (castOn (snapshotEnv order now n.reducer) ev id).elim round fun vote =>
          c.consumeRound (snapshotEnv order now n.reducer) vote round :=
  lookup_deliver hfiled ⟨.consumer, snapshotEnv order now n.reducer, ev⟩ id

theorem Paired.vote (sha256 : String → List UInt8) (c : TaskVerificationVoteConsumer)
    (h : Paired id a b roundA roundB)
    (hview : a.view id order now ev = b.view id order' now' ev) :
    ∃ roundA' roundB', Paired id (a.step sha256 c (.vote order now ev)) (b.step sha256 c (.vote order' now' ev))
      roundA' roundB' := by
  have hcast := castOn_congr (congrArg View.weight hview)
  have hactive : a.reducer.snapshot.totalActiveWeight = b.reducer.snapshot.totalActiveWeight :=
    congrArg View.activeWeight hview
  have hexpired : roundA.deadlineForCurrentPhase < now ↔ roundB.deadlineForCurrentPhase < now' := by
    simpa [view, h.lookupA, h.lookupB] using congrArg View.expired hview
  have hA := lookup_vote sha256 c id h.filedA order now ev
  have hB := lookup_vote sha256 c id h.filedB order' now' ev
  rw [h.lookupA, Option.map_some] at hA
  rw [h.lookupB, Option.map_some, ← hcast] at hB
  refine ⟨_, _, Filed.deliver h.filedA ⟨.consumer, snapshotEnv order now a.reducer, ev⟩,
    Filed.deliver h.filedB ⟨.consumer, snapshotEnv order' now' b.reducer, ev⟩, hA, hB, ?_⟩
  cases castOn (snapshotEnv order now a.reducer) ev id with
  | none => exact h.core
  | some vote => exact core_consumeRound vote h.core hactive rfl hexpired

theorem Paired.run {votes : List (Event × View)} (h : Paired id a b roundA roundB)
    (hA : a.seen sha256 c id as = votes) (hB : b.seen sha256 c id bs = votes) :
    ∃ roundA' roundB', Paired id (a.run sha256 c as) (b.run sha256 c bs) roundA' roundB' := by
  induction votes generalizing a b as bs roundA roundB with
  | nil =>
    refine ⟨roundA, roundB, ?_, ?_, ?_, ?_, h.core⟩
    · rw [rounds_of_seen_nil hA]
      exact h.filedA
    · rw [rounds_of_seen_nil hB]
      exact h.filedB
    · rw [rounds_of_seen_nil hA]
      exact h.lookupA
    · rw [rounds_of_seen_nil hB]
      exact h.lookupB
  | cons first rest ih =>
    obtain ⟨r, order, now, ev, later, rfl, hrest, hrun⟩ := first_of_seen_cons hA
    obtain ⟨r', order', now', ev', later', hfirst, hrest', hrun'⟩ := first_of_seen_cons hB
    obtain ⟨rfl, hview⟩ := Prod.mk.inj hfirst
    have hpaired : Paired id ⟨r, a.rounds⟩ ⟨r', b.rounds⟩ roundA roundB :=
      ⟨h.filedA, h.filedB, h.lookupA, h.lookupB, h.core⟩
    obtain ⟨roundA', roundB', hnext⟩ := hpaired.vote sha256 c hview
    rw [hrun, hrun']
    exact ih hnext hrest hrest'

theorem Paired.agree (h : Paired id a b roundA roundB) (config : FinalizerConfig)
    (hactive : a.reducer.snapshot.totalActiveWeight = b.reducer.snapshot.totalActiveWeight) : Agree config id a b := by
  refine ⟨roundA, roundB, h.lookupA, h.lookupB, weights_congr h.core, ?_, fun nowA nowB hexpired => ?_⟩
  · exact congrArg (fun round => (round.state, round.finalVerdict, round.finalScoreBP)) h.core
  · rw [hactive]
    exact evaluate_congr h.core config _ hexpired

theorem Opens.openRound {env : OpenEnv} {round : TaskVerificationRound} (h : n.Opens sha256 env ev round) :
    ∃ p, p.submissionEventID = ev.id ∧ taskverification.openRound sha256 p = .ok round := by
  have hstored := h.stored
  obtain hsame | ⟨p, opened, hid, hopen, hsave⟩ := TaskVerificationRoundConsumer.consume_cases sha256
    { env with validatorVer := n.reducer.snapshot.version } ev n.rounds
  · rw [submit, hsame, h.fresh] at hstored
    cases hstored
  · rw [submit, hsave, Rounds.lookup_saveRound, h.fresh] at hstored
    split_ifs at hstored
    cases hstored
    exact ⟨p, hid, hopen⟩

theorem Filed.submit (hfiled : n.rounds.Filed) (env : OpenEnv) (ev : Event) :
    (n.submit sha256 env ev).rounds.Filed := by
  intro id round hlookup
  obtain hsame | ⟨p, opened, -, -, hsave⟩ := TaskVerificationRoundConsumer.consume_cases sha256
    { env with validatorVer := n.reducer.snapshot.version } ev n.rounds
  · rw [WeighingNode.submit, hsame] at hlookup
    exact hfiled id round hlookup
  · rw [WeighingNode.submit, hsave, Rounds.lookup_saveRound] at hlookup
    split_ifs at hlookup with hsaved
    · cases hlookup
      exact hsaved.2.symm
    · exact hfiled id round hlookup

theorem openRound_congr {p p' : OpenRoundParams} (hsubmission : p.submissionEventID = p'.submissionEventID)
    (hA : openRound sha256 p = .ok roundA) (hB : openRound sha256 p' = .ok roundB) :
    roundA.roundID = roundB.roundID ∧ core roundA = core roundB := by
  rw [eq_of_openRound hA, eq_of_openRound hB]
  exact ⟨congrArg (newRoundID sha256) hsubmission, rfl⟩

theorem Opens.paired {envA envB : OpenEnv} (hfiledA : a.rounds.Filed) (hfiledB : b.rounds.Filed)
    (hA : a.Opens sha256 envA ev roundA) (hB : b.Opens sha256 envB ev roundB) :
    Paired roundA.roundID (a.submit sha256 envA ev) (b.submit sha256 envB ev) roundA roundB := by
  obtain ⟨p, hp, hopenA⟩ := hA.openRound
  obtain ⟨p', hp', hopenB⟩ := hB.openRound
  obtain ⟨hid, hcore⟩ := openRound_congr (hp.trans hp'.symm) hopenA hopenB
  exact ⟨Filed.submit hfiledA envA ev, Filed.submit hfiledB envB ev, hA.stored, hid ▸ hB.stored, hcore⟩

end Runs

section Vote

variable {sha256 : String → List UInt8} {c : TaskVerificationVoteConsumer} {id : RoundID} {a b n : WeighingNode}
  {roundA roundB round : TaskVerificationRound} {payload : TaskVerificationVotePayload} {verdict : Verdict} {ev : Event}
  {order order' : RangeOrder ValidatorID ValidatorSeat} {now now' : Int64}

theorem weights_finalizedRound (env : VoteEnv) (round : TaskVerificationRound) :
    weights (c.finalizedRound env round) = weights round := by
  unfold finalizedRound
  split <;> rfl

/-- The weights with the weight of one more vote. -/
def addWeight (verdict : Verdict) (stake : UInt64) (w : UInt64 × UInt64 × UInt64) : UInt64 × UInt64 × UInt64 :=
  (w.1 + (if verdict = .pass then stake else 0), w.2.1 + (if verdict = .fail then stake else 0),
    w.2.2 + if verdict = .abstain then stake else 0)

theorem addWeight_inj {s : String} (hverdict : parseVerdict s = .ok verdict) {stake stake' : UInt64}
    {w : UInt64 × UInt64 × UInt64} : addWeight verdict stake w = addWeight verdict stake' w ↔ stake = stake' := by
  unfold parseVerdict at hverdict
  split_ifs at hverdict
  · cases hverdict
    simp [addWeight]
  · cases hverdict
    simp [addWeight]
  · cases hverdict
    simp [addWeight]

theorem weights_vote (sha256 : String → List UInt8) (c : TaskVerificationVoteConsumer)
    (order : RangeOrder ValidatorID ValidatorSeat) (now : Int64) (hfiled : n.rounds.Filed)
    (hlookup : n.rounds.stored.lookup id = some round)
    (hopen : round.state = .opened)
    (hev : json.unmarshal decoder ev.payload = .ok payload) (hid : payload.roundID = id)
    (hverdict : parseVerdict payload.verdict = .ok verdict) (hnew : round.NewTo (voteRecord payload verdict 0)) :
    ∃ round', (n.step sha256 c (.vote order now ev)).rounds.stored.lookup id = some round' ∧
      weights round' = addWeight verdict ((n.view id order now ev).weight.getD 0) (weights round) := by
  have hlookup' := lookup_vote sha256 c id hfiled order now ev
  rw [hlookup, Option.map_some] at hlookup'
  refine ⟨_, hlookup', ?_⟩
  have hview : (n.view id order now ev).weight = (snapshotEnv order now n.reducer).voteWeight payload.validatorID := by
    simp [view, hev]
  have hcast : castOn (snapshotEnv order now n.reducer) ev id =
      (n.view id order now ev).weight.map fun stake => voteRecord payload verdict stake := by
    rw [hview]
    simp only [castOn, hev, hid, if_true, castVote, eligibleVote, hverdict]
    cases (snapshotEnv order now n.reducer).voteWeight payload.validatorID <;> rfl
  rw [hcast]
  cases (n.view id order now ev).weight with
  | none =>
    simp [addWeight, weights]
  | some stake =>
    have hnew' : round.NewTo (voteRecord payload verdict stake) := hnew
    obtain ⟨hpass, hfail, habstain⟩ := weights_recordVote (voteRecord payload verdict stake) round
    rw [Option.map_some, Option.elim_some, Option.getD_some, consumeRound, isTerminal_eq_false.mpr hopen,
      if_neg Bool.false_ne_true, if_pos hnew', weights_finalizedRound, weights, hpass, hfail, habstain]
    rfl

theorem weight_ne_zero : (n.view id order now ev).weight ≠ some 0 := by
  simp only [view]
  split
  · exact fun h => (by cases h)
  · intro h
    obtain ⟨seat, -, hseat⟩ := Option.bind_eq_some_iff.mp h
    unfold ValidatorSnapshot.seatVoteWeight at hseat
    split_ifs at hseat with hidle heffective
    exact hidle (.inr (Option.some.inj hseat))

theorem getD_inj {w w' : Option UInt64} (h : w ≠ some 0) (h' : w' ≠ some 0) : w.getD 0 = w'.getD 0 ↔ w = w' := by
  cases w with
  | none =>
    cases w' with
    | none => simp
    | some y => simpa [eq_comm] using h'
  | some x =>
    cases w' with
    | none => simpa using h
    | some y => simp

theorem Paired.weights_vote_iff (h : Paired id a b roundA roundB) (hopen : roundA.state = .opened)
    (hev : json.unmarshal decoder ev.payload = .ok payload) (hid : payload.roundID = id)
    (hverdict : parseVerdict payload.verdict = .ok verdict) (hnew : roundA.NewTo (voteRecord payload verdict 0)) :
    (((a.step sha256 c (.vote order now ev)).rounds.stored.lookup id).map weights =
      ((b.step sha256 c (.vote order' now' ev)).rounds.stored.lookup id).map weights) ↔
      (a.view id order now ev).weight = (b.view id order' now' ev).weight := by
  have hopenB : roundB.state = .opened := (congrArg (·.state) h.core).symm.trans hopen
  have hvotes : roundA.votes = roundB.votes := congrArg (·.votes) h.core
  have hnewB : roundB.NewTo (voteRecord payload verdict 0) := by
    rw [NewTo, ← hvotes]
    exact hnew
  have hweights : weights roundA = weights roundB := weights_congr h.core
  obtain ⟨afterA, hafterA, hweightsA⟩ :=
    weights_vote sha256 c order now h.filedA h.lookupA hopen hev hid hverdict hnew
  obtain ⟨afterB, hafterB, hweightsB⟩ :=
    weights_vote sha256 c order' now' h.filedB h.lookupB hopenB hev hid hverdict hnewB
  rw [hafterA, hafterB, Option.map_some, Option.map_some, Option.some_inj, hweightsA, hweightsB, hweights,
    addWeight_inj hverdict]
  exact getD_inj weight_ne_zero weight_ne_zero

end Vote

/-- Two nodes open the round of one submission and consume the same votes in the same order, between any lifecycle
    events. If each vote is shown the same weight and active weight on both and comes before the deadline on both or on
    neither, and the active weights are the same in the end, the nodes agree. A new vote that is shown different weights
    makes nodes differ that agreed before. -/
theorem agree_run (sha256 : String → List UInt8) (config : FinalizerConfig) {a b : WeighingNode} {envA envB : OpenEnv}
    {submission : Event} {roundA roundB : TaskVerificationRound} (hfiledA : a.rounds.Filed) (hfiledB : b.rounds.Filed)
    (hA : a.Opens sha256 envA submission roundA) (hB : b.Opens sha256 envB submission roundB)
    (as bs : List Occurrence) (hvotes : votesOf as = votesOf bs) :
    let c : TaskVerificationVoteConsumer := ⟨some config⟩
    let a₀ := a.submit sha256 envA submission
    let b₀ := b.submit sha256 envB submission
    ((a₀.seen sha256 c roundA.roundID as).map Prod.snd = (b₀.seen sha256 c roundA.roundID bs).map Prod.snd →
      (a₀.run sha256 c as).reducer.snapshot.totalActiveWeight =
        (b₀.run sha256 c bs).reducer.snapshot.totalActiveWeight →
      Agree config roundA.roundID (a₀.run sha256 c as) (b₀.run sha256 c bs)) ∧
    ∀ (a₁ b₁ : WeighingNode) (id : RoundID) (roundA₁ roundB₁ : TaskVerificationRound),
      Paired id a₁ b₁ roundA₁ roundB₁ → roundA₁.state = .opened →
      ∀ (ev : Event) (payload : TaskVerificationVotePayload) (verdict : Verdict)
        (order order' : RangeOrder ValidatorID ValidatorSeat) (now now' : Int64),
      json.unmarshal decoder ev.payload = .ok payload → payload.roundID = id →
      parseVerdict payload.verdict = .ok verdict → roundA₁.NewTo (voteRecord payload verdict 0) →
      ((((a₁.step sha256 c (.vote order now ev)).rounds.stored.lookup id).map weights =
        ((b₁.step sha256 c (.vote order' now' ev)).rounds.stored.lookup id).map weights) ↔
        (a₁.view id order now ev).weight = (b₁.view id order' now' ev).weight) := by
  intro c a₀ b₀
  constructor
  · intro hviews hactive
    have hpaired := Opens.paired hfiledA hfiledB hA hB
    have hevents : (a₀.seen sha256 c roundA.roundID as).map Prod.fst =
        (b₀.seen sha256 c roundA.roundID bs).map Prod.fst := by
      rw [map_fst_seen, map_fst_seen, hvotes]
    have hseen : a₀.seen sha256 c roundA.roundID as = b₀.seen sha256 c roundA.roundID bs :=
      (List.zip_of_prod hevents hviews).trans (List.zip_of_prod rfl rfl).symm
    obtain ⟨afterA, afterB, hafter⟩ := hpaired.run rfl hseen.symm
    exact hafter.agree config hactive
  · intro a₁ b₁ id roundA₁ roundB₁ hpaired hopen ev payload verdict order order' now now' hev hid hverdict hnew
    exact hpaired.weights_vote_iff hopen hev hid hverdict hnew

section Sample

def sampleWeighing : WeighingNode where
  reducer :=
    { seats := consensus.VotingRound.sampleSnapshot.seats
      version := 1 }
  rounds := {}

def sampleSubmission : Event where
  id := "work"
  type := .taskSubmitted
  payload := .document (.obj [("task_id", .str "t"), ("claimer_id", .str "worker")])
  agentID := "worker"

/-- The node opens the round at this time. -/
def openAt (now : Int64) : OpenEnv where
  taskMeta _ := .ok ("poster", "code")
  validatorVer := 0
  now := now

/-- A pass vote on the round of the submission. -/
def passOn (validatorID family : String) : Event :=
  { passVote validatorID family with
    payload := .document (.obj
      [("round_id", .str "ab"), ("validator_id", .str validatorID), ("verdict", .str "pass"),
        ("score_bp", .num "7000"), ("analyzer_family", .str family)]) }

def suspendC : LifecycleEvent where
  kind := .suspend
  eventID := "suspend"
  causalTS := 5
  seatID := "c"

def votesABC (now : Int64) : List Occurrence :=
  [.vote .byKey now (passOn "ka" "f1"), .vote .byKey now (passOn "kb" "f2"), .vote .byKey now (passOn "kc" "f3")]

def constSha256 (_ : String) : List UInt8 := [171]

/-- A recovery key is committed for the seat of the first validator. -/
def commitA : LifecycleEvent where
  kind := .recoveryKeySet
  eventID := "commit"
  causalTS := 4
  seatID := "a"
  operatorKey := "ka"
  recoveryKey := "recovery"

/-- The round as it is opened at this time. -/
def openedAt (now : Int64) : TaskVerificationRound where
  roundID := "ab"
  taskID := "t"
  submissionEventID := "work"
  workerID := "worker"
  posterID := "poster"
  category := "code"
  validatorSetVersion := 1
  committee := none
  analyzerPolicyID := "bootstrap_v1"
  diversityFloor := 2
  acceptanceThresholdBP := 6000
  openedAtUnix := now
  deadlineUnix := now + 180
  state := .opened

theorem opens_sample (now : Int64) : sampleWeighing.Opens constSha256 (openAt now) sampleSubmission (openedAt now) :=
  ⟨rfl, rfl⟩

theorem sampleWeighing_filed : sampleWeighing.rounds.Filed := by
  intro id round hlookup
  cases hlookup

end Sample

/-- A lifecycle event that changes no weight may come between the votes. -/
theorem agree_run_commit :
    Agree defaultFinalizerConfig "ab"
      ((sampleWeighing.submit constSha256 (openAt 1000) sampleSubmission).run constSha256 ⟨some defaultFinalizerConfig⟩
        (votesABC 1001))
      ((sampleWeighing.submit constSha256 (openAt 2000) sampleSubmission).run constSha256 ⟨some defaultFinalizerConfig⟩
        (.lifecycle commitA :: votesABC 2001)) :=
  (agree_run constSha256 defaultFinalizerConfig sampleWeighing_filed sampleWeighing_filed (opens_sample 1000)
    (opens_sample 2000) (votesABC 1001) (.lifecycle commitA :: votesABC 2001) rfl).1 (by decide +kernel)
    (by decide +kernel)

/-- Both nodes open the round with the same version and the same validators, consume the same votes and apply the same
    suspension. Where it comes last the third vote counts and the round is accepted; where it comes first the round has
    two votes and stays open. -/
theorem suspension_splits_nodes :
    let c : TaskVerificationVoteConsumer := ⟨some defaultFinalizerConfig⟩
    let start := sampleWeighing.submit constSha256 (openAt 1000) sampleSubmission
    let late := start.run constSha256 c (votesABC 1001 ++ [.lifecycle suspendC])
    let early := start.run constSha256 c (.lifecycle suspendC :: votesABC 1001)
    (start.rounds.stored.lookup "ab").map (·.validatorSetVersion) = some start.reducer.snapshot.version ∧
      votesOf (votesABC 1001 ++ [.lifecycle suspendC]) = votesOf (.lifecycle suspendC :: votesABC 1001) ∧
      (late.rounds.stored.lookup "ab").map (fun round => (round.state, weights round)) =
        some (.finalizedAccept, 30, 0, 0) ∧
      (early.rounds.stored.lookup "ab").map (fun round => (round.state, weights round)) = some (.opened, 20, 0, 0) ∧
      ¬ Agree defaultFinalizerConfig "ab" late early := by
  intro c start late early
  have hlate : (late.rounds.stored.lookup "ab").map (fun round => (round.state, weights round)) =
      some (.finalizedAccept, 30, 0, 0) := by
    decide +kernel
  have hearly : (early.rounds.stored.lookup "ab").map (fun round => (round.state, weights round)) =
      some (.opened, 20, 0, 0) := by
    decide +kernel
  refine ⟨rfl, rfl, hlate, hearly, ?_⟩
  rintro ⟨roundA, roundB, hA, hB, hweights, -⟩
  rw [hA] at hlate
  rw [hB] at hearly
  have hA' : weights roundA = (30, 0, 0) := (Prod.mk.inj (Option.some.inj hlate)).2
  have hB' : weights roundB = (20, 0, 0) := (Prod.mk.inj (Option.some.inj hearly)).2
  rw [hA', hB'] at hweights
  exact absurd hweights (by decide)

end WeighingNode

end aethernet.recognition
