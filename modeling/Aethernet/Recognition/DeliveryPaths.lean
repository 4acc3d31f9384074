import Aethernet.Recognition.TaskVerificationVote
import Aethernet.TaskVerification.Canonical
import Aethernet.TaskVerification.WeightSoundness
import Aethernet.Transition.FirstDecision

open golang aethernet event taskverification transition recognition.TaskVerificationVoteConsumer TaskVerificationRound
  TaskVerificationVotePayload Rounds

namespace aethernet.taskverification

namespace Rounds

/-- Every round is stored under its own ID. -/
def Filed (s : Rounds) : Prop := ∀ id round, s.stored.lookup id = some round → round.roundID = id

theorem lookup_saveRound (saveErr : Option Error) (round : TaskVerificationRound) (s : Rounds) (id : RoundID) :
    (saveRound saveErr round s).2.stored.lookup id =
      if saveErr = none ∧ id = round.roundID then some round else s.stored.lookup id := by
  cases saveErr with
  | some err => simp [saveRound]
  | none =>
    by_cases heq : id = round.roundID
    · subst heq
      simp [saveRound]
    · simp [saveRound, heq, Finmap.lookup_insert_of_ne]

end Rounds

variable (vote : TaskVerificationVoteRecord)

/-- The round has no vote of this validator in this family yet. -/
def TaskVerificationRound.NewTo (vote : TaskVerificationVoteRecord) (round : TaskVerificationRound) : Prop :=
  ∀ v ∈ round.votes, ¬ (v.validatorID = vote.validatorID ∧ v.analyzerFamily = vote.analyzerFamily)

instance (vote : TaskVerificationVoteRecord) (round : TaskVerificationRound) : Decidable (round.NewTo vote) :=
  inferInstanceAs (Decidable (∀ v ∈ round.votes, _))

theorem applyVoteToRound_of_open {round : TaskVerificationRound} (hopen : round.state = .opened) :
    (round.NewTo vote ∧ ∃ result, result.duplicateVote = false ∧
      applyVoteToRound vote round = ((result, none), round.recordVote vote)) ∨
    (¬ round.NewTo vote ∧ ((∃ result, result.duplicateVote = true ∧ applyVoteToRound vote round =
      ((result, none), round)) ∨
      ∃ result err, err.is errEquivocation = true ∧ applyVoteToRound vote round = ((result, some err), round))) := by
  unfold applyVoteToRound
  rw [if_neg (not_not.mpr hopen)]
  cases hfind : round.votes.find? fun existing =>
      existing.validatorID = vote.validatorID ∧ existing.analyzerFamily = vote.analyzerFamily with
  | none =>
    refine .inl ⟨fun v hv => ?_, _, rfl, rfl⟩
    simpa using List.find?_eq_none.mp hfind v hv
  | some existing =>
    have hknown : ¬ round.NewTo vote := fun hnew =>
      hnew existing (List.mem_of_find?_eq_some hfind) (by simpa using List.find?_some hfind)
    refine .inr ⟨hknown, ?_⟩
    dsimp only
    split_ifs
    · exact .inl ⟨_, rfl, rfl⟩
    · exact .inr ⟨_, _, by simp [Error.is], rfl⟩

end aethernet.taskverification

namespace aethernet.recognition

/-- The vote of a payload, unless the validator set does not know the validator or the verdict is none. -/
def eligibleVote (env : VoteEnv) (payload : TaskVerificationVotePayload) : Option TaskVerificationVoteRecord :=
  match env.voteWeight payload.validatorID, parseVerdict payload.verdict with
  | some stake, .ok verdict => some (voteRecord payload verdict stake)
  | _, _ => none

def castVote (env : VoteEnv) (payload : TaskVerificationVotePayload) : Option TaskVerificationVoteRecord :=
  if env.loadErr = none ∧ env.saveErr = none then eligibleVote env payload else none

/-- The round as both paths save it with a vote. A known vote is not saved again while the round is open. -/
def voted (vote : TaskVerificationVoteRecord) (round : TaskVerificationRound) : Option TaskVerificationRound :=
  if round.isTerminal then some (recordPostFinalizationVote vote round)
  else if round.NewTo vote then some (round.recordVote vote)
  else none

/-- The vote that an event casts on a round. -/
def castOn (env : VoteEnv) (ev : Event) (id : RoundID) : Option TaskVerificationVoteRecord :=
  match json.unmarshal decoder ev.payload with
  | .error _ => none
  | .ok payload => if payload.roundID = id then castVote env payload else none

def syncRound (vote : TaskVerificationVoteRecord) (round : TaskVerificationRound) : TaskVerificationRound :=
  if round.isTerminal then recordPostFinalizationVote vote round else (applyVoteToRound vote round).2

namespace TaskVerificationVoteConsumer

/-- The decision of the finalizer on a round, if there is one and the write that follows succeeds. -/
def decision? (c : TaskVerificationVoteConsumer) (env : VoteEnv) (round : TaskVerificationRound) :
    Option FinalizationDecision :=
  match c.finalizer with
  | none => none
  | some config =>
    let decision := config.evaluate round env.activeWeight env.now
    if decision.shouldFinalize ∧ env.saveFinalErr = none then some decision else none

/-- The round after the finalizer. -/
def finalizedRound (c : TaskVerificationVoteConsumer) (env : VoteEnv) (round : TaskVerificationRound) :
    TaskVerificationRound :=
  match c.decision? env round with
  | none => round
  | some decision =>
    { round with
      state := decision.verdict.toState
      finalizationTime := env.now
      finalVerdict := decision.verdict
      finalScoreBP := decision.finalScoreBP }

/-- What the consumer makes of a round by a vote. -/
def consumeRound (c : TaskVerificationVoteConsumer) (env : VoteEnv) (vote : TaskVerificationVoteRecord)
    (round : TaskVerificationRound) : TaskVerificationRound :=
  if round.isTerminal then recordPostFinalizationVote vote round
  else if round.NewTo vote then c.finalizedRound env (round.recordVote vote)
  else round

end TaskVerificationVoteConsumer

section Paths

variable {s : Rounds} {c : TaskVerificationVoteConsumer} {env : VoteEnv} {ev : Event} {round : TaskVerificationRound}

theorem toState_ne_opened (verdict : Verdict) : verdict.toState ≠ .opened := by
  cases verdict <;> simp [Verdict.toState]

theorem transition_of_open (hopen : round.state = .opened) (verdict : Verdict) (now : Int64) :
    round.transition verdict.toState now =
      (.ok (), { round with state := verdict.toState, finalizationTime := now }) := by
  have hallowed : round.canTransitionTo verdict.toState = true := by
    rw [canTransitionTo, hopen]
    cases verdict <;> rfl
  simp [transition, hallowed, toState_ne_opened]

theorem lookup_finalizeRound (hopen : round.state = .opened)
    (hsaved : s.stored.lookup round.roundID = some round) (id : RoundID) :
    (c.finalizeRound env round s).stored.lookup id =
      if id = round.roundID then some (c.finalizedRound env round) else s.stored.lookup id := by
  have hsame : s.stored.lookup id = if id = round.roundID then some round else s.stored.lookup id := by
    split_ifs with hid
    · rw [hid, hsaved]
    · rfl
  unfold finalizeRound finalizedRound decision?
  cases c.finalizer with
  | none => exact hsame
  | some config =>
    dsimp only
    generalize config.evaluate round env.activeWeight env.now = decision
    cases hdecision : decision.shouldFinalize with
    | false => simpa using hsame
    | true =>
      rw [transition_of_open hopen]
      cases hfinal : env.saveFinalErr with
      | some err => simpa [saveRound] using hsame
      | none =>
        simp [saveRound, Finmap.lookup_insert_eq]

variable {payload : TaskVerificationVotePayload} {vote : TaskVerificationVoteRecord} {round r : TaskVerificationRound}
  {err : Error}

theorem isTerminal_eq_false : round.isTerminal = false ↔ round.state = .opened := by
  simp [isTerminal]

theorem voted_cases (h : voted vote round = some r) :
    round.isTerminal = true ∧ r = recordPostFinalizationVote vote round ∨
      round.state = .opened ∧ round.NewTo vote ∧ r = round.recordVote vote := by
  unfold voted at h
  split_ifs at h with hterminal hnew
  · exact .inl ⟨hterminal, (Option.some.inj h).symm⟩
  · exact .inr ⟨isTerminal_eq_false.mp (eq_false_of_ne_true hterminal), hnew, (Option.some.inj h).symm⟩

theorem syncRound_eq (vote : TaskVerificationVoteRecord) (round : TaskVerificationRound) :
    syncRound vote round = (voted vote round).getD round := by
  unfold syncRound voted
  cases hterminal : round.isTerminal with
  | true => rfl
  | false =>
    obtain ⟨hnew, result, -, happly⟩ | ⟨hknown, ⟨result, -, happly⟩ | ⟨result, err, -, happly⟩⟩ :=
      applyVoteToRound_of_open vote (isTerminal_eq_false.mp hterminal)
    · simp [happly, hnew]
    · simp [happly, hknown]
    · simp [happly, hknown]

theorem consumeRound_eq (c : TaskVerificationVoteConsumer) (env : VoteEnv) (vote : TaskVerificationVoteRecord)
    (round : TaskVerificationRound) : c.consumeRound env vote round =
      ((voted vote round).map fun r => if round.isTerminal then r else c.finalizedRound env r).getD round := by
  unfold consumeRound voted
  split_ifs <;> simp [*]

theorem roundID_voted (h : voted vote round = some r) : r.roundID = round.roundID := by
  obtain ⟨-, rfl⟩ | ⟨-, -, rfl⟩ := voted_cases h
  · rfl
  · exact roundID_recordVote vote round

theorem lookup_of_loadRound {loadErr : Option Error} {id : RoundID} (h : s.loadRound loadErr id = .ok round) :
    loadErr = none ∧ s.stored.lookup id = some round := by
  unfold loadRound at h
  split at h
  · cases h
  · split at h
    · cases h
    next hlookup =>
      cases h
      exact ⟨rfl, hlookup⟩

theorem sync_eq (hload : s.loadRound env.loadErr payload.roundID = .ok round) :
    applyTaskVerificationVoteSync env payload s =
      ((eligibleVote env payload).bind (voted · round)).elim s fun r => (saveRound env.saveErr r s).2 := by
  unfold applyTaskVerificationVoteSync eligibleVote
  rw [hload]
  cases env.voteWeight payload.validatorID with
  | none => rfl
  | some stake =>
    cases parseVerdict payload.verdict with
    | error err => rfl
    | ok verdict =>
      dsimp only
      generalize voteRecord payload verdict stake = vote
      cases hterminal : round.isTerminal with
      | true => simp [voted, hterminal]
      | false =>
        obtain ⟨hnew, result, hdup, happly⟩ | ⟨hknown, ⟨result, hdup, happly⟩ | ⟨result, err, -, happly⟩⟩ :=
          applyVoteToRound_of_open vote (isTerminal_eq_false.mp hterminal)
        · simp [voted, hterminal, hnew, happly, hdup]
        · simp [voted, hterminal, hknown, happly, hdup]
        · simp [voted, hterminal, hknown, happly]

theorem consume_eq (c : TaskVerificationVoteConsumer)
    (hev : json.unmarshal decoder ev.payload = .ok payload)
    (hload : s.loadRound env.loadErr payload.roundID = .ok round) :
    (c.consume env ev s).2 = ((eligibleVote env payload).bind (voted · round)).elim s fun r =>
      if round.isTerminal ∨ env.saveErr ≠ none then (saveRound env.saveErr r s).2
      else c.finalizeRound env r (saveRound env.saveErr r s).2 := by
  unfold consume eligibleVote
  simp only [hev, hload]
  cases env.voteWeight payload.validatorID with
  | none => rfl
  | some stake =>
    cases parseVerdict payload.verdict with
    | error err => rfl
    | ok verdict =>
      dsimp only
      generalize voteRecord payload verdict stake = vote
      cases hterminal : round.isTerminal with
      | true => simp [voted, hterminal, Method.wrapError_snd]
      | false =>
        obtain ⟨hnew, result, hdup, happly⟩ | ⟨hknown, ⟨result, hdup, happly⟩ | ⟨result, err, herr, happly⟩⟩ :=
          applyVoteToRound_of_open vote (isTerminal_eq_false.mp hterminal)
        · cases hsave : env.saveErr <;> simp [voted, hterminal, hnew, happly, hdup, saveRound]
        · simp [voted, hterminal, hknown, happly, hdup]
        · simp [voted, hterminal, hknown, happly, herr]

theorem unread (hload : s.loadRound env.loadErr payload.roundID = .error err) :
    applyTaskVerificationVoteSync env payload s = s ∧ ∀ (c : TaskVerificationVoteConsumer) ev,
      json.unmarshal decoder ev.payload = .ok payload → (c.consume env ev s).2 = s := by
  refine ⟨by rw [applyTaskVerificationVoteSync, hload], fun c ev hev => ?_⟩
  simp only [consume, hev, hload]
  split_ifs <;> rfl

/-- What a path that makes `update vote round` of the stored round leaves under each ID. -/
def Handles (env : VoteEnv) (payload : TaskVerificationVotePayload)
    (update : TaskVerificationVoteRecord → TaskVerificationRound → TaskVerificationRound) (s s' : Rounds) : Prop :=
  ∀ id, s'.stored.lookup id =
    if payload.roundID = id then
      (s.stored.lookup id).map fun round => (castVote env payload).elim round fun vote => update vote round
    else s.stored.lookup id

variable {update : TaskVerificationVoteRecord → TaskVerificationRound → TaskVerificationRound} {s' : Rounds}

theorem Handles.of_unread (hload : s.loadRound env.loadErr payload.roundID = .error err) :
    Handles env payload update s s := by
  intro id
  cases hfails : env.loadErr with
  | some err => simp [castVote, hfails]
  | none =>
    split_ifs with hid
    · subst hid
      cases hlookup : s.stored.lookup payload.roundID with
      | none => rfl
      | some round => simp [loadRound, hfails, hlookup] at hload
    · rfl

theorem Handles.of_round {f : TaskVerificationRound → TaskVerificationRound} (hfiled : s.Filed)
    (hload : s.loadRound env.loadErr payload.roundID = .ok round)
    (hupdate : ∀ vote, update vote round = ((voted vote round).map f).getD round)
    (hnone : (eligibleVote env payload).bind (voted · round) = none → s' = s)
    (hsome : ∀ r, (eligibleVote env payload).bind (voted · round) = some r → ∀ id, s'.stored.lookup id =
      if env.saveErr = none ∧ id = r.roundID then some (f r) else s.stored.lookup id) :
    Handles env payload update s s' := by
  obtain ⟨hreads, hlookup⟩ := lookup_of_loadRound hload
  have hcast : castVote env payload =
      if env.loadErr = none ∧ env.saveErr = none then eligibleVote env payload else none := rfl
  intro id
  rw [hcast, hreads]
  cases hbind : (eligibleVote env payload).bind (voted · round) with
  | none =>
    have hsame : (eligibleVote env payload).elim round (update · round) = round := by
      cases hvote : eligibleVote env payload with
      | none => rfl
      | some vote =>
        rw [hvote, Option.bind_some] at hbind
        simp [hupdate, hbind]
    rw [hnone hbind]
    by_cases hid : payload.roundID = id
    · subst hid
      by_cases hsave : env.saveErr = none <;> simp [hsave, hlookup, hsame]
    · simp [hid]
  | some r =>
    obtain ⟨vote, hvote, hvoted⟩ := Option.bind_eq_some_iff.mp hbind
    rw [hsome r hbind, roundID_voted hvoted, hfiled _ _ hlookup, hvote]
    by_cases hid : payload.roundID = id
    · subst hid
      by_cases hsave : env.saveErr = none <;> simp [hsave, hlookup, hupdate, hvoted]
    · simp [hid, Ne.symm hid]

theorem handles_sync (hfiled : s.Filed) (env : VoteEnv) (payload : TaskVerificationVotePayload) :
    Handles env payload syncRound s (applyTaskVerificationVoteSync env payload s) := by
  cases hload : s.loadRound env.loadErr payload.roundID with
  | error err =>
    rw [(unread hload).1]
    exact .of_unread hload
  | ok round =>
    refine .of_round (f := fun r => r) hfiled hload (fun vote => ?_) (fun hnone => ?_) fun r hsome id => ?_
    · rw [syncRound_eq, Option.map_id']
    · rw [sync_eq hload, hnone]
      rfl
    · rw [sync_eq hload, hsome]
      exact lookup_saveRound ..

theorem handles_consume (hfiled : s.Filed) (c : TaskVerificationVoteConsumer) (env : VoteEnv)
    (hev : json.unmarshal decoder ev.payload = .ok payload) :
    Handles env payload (c.consumeRound env) s (c.consume env ev s).2 := by
  cases hload : s.loadRound env.loadErr payload.roundID with
  | error err =>
    rw [(unread hload).2 c ev hev]
    exact .of_unread hload
  | ok round =>
    refine .of_round (f := fun r => if round.isTerminal then r else c.finalizedRound env r) hfiled hload
      (fun vote => consumeRound_eq c env vote round) (fun hnone => ?_) fun r hsome id => ?_
    · rw [consume_eq c hev hload, hnone]
      rfl
    · rw [consume_eq c hev hload, hsome]
      dsimp only [Option.elim]
      obtain ⟨vote, -, hvoted⟩ := Option.bind_eq_some_iff.mp hsome
      obtain ⟨hterminal, -⟩ | ⟨hopen, -, rfl⟩ := voted_cases hvoted
      · rw [if_pos (.inl hterminal), if_pos hterminal]
        exact lookup_saveRound ..
      · rw [isTerminal_eq_false.mpr hopen]
        cases hsave : env.saveErr with
        | some err => simp [saveRound]
        | none =>
          have hrecorded : (round.recordVote vote).state = .opened := (state_recordVote vote round).trans hopen
          simp only [Bool.false_eq_true, ne_eq, not_true_eq_false, or_self, if_false, saveRound, true_and]
          rw [lookup_finalizeRound hrecorded (Finmap.lookup_insert _)]
          split_ifs with hid
          · rfl
          · exact Finmap.lookup_insert_of_ne _ hid

end Paths

inductive Path where
  | sync
  | consumer
  deriving DecidableEq

/-- A vote event on its way to the rounds. -/
structure Delivery where
  path : Path
  env : VoteEnv
  ev : Event

def Delivery.cast (id : RoundID) (d : Delivery) : Option TaskVerificationVoteRecord := castOn d.env d.ev id

/-- What the round makes of the vote. -/
def Delivery.update (c : TaskVerificationVoteConsumer) (d : Delivery) (vote : TaskVerificationVoteRecord)
    (round : TaskVerificationRound) : TaskVerificationRound :=
  match d.path with
  | .sync => syncRound vote round
  | .consumer => c.consumeRound d.env vote round

namespace TaskVerificationVoteConsumer

def deliver (c : TaskVerificationVoteConsumer) (s : Rounds) (d : Delivery) : Rounds :=
  match d.path with
  | .sync => syncVote d.env d.ev s
  | .consumer => (c.consume d.env d.ev s).2

/-- The payload's round as `LoadRound` finds it on the disk: what `Canonical` has made of it, or an error. -/
def reread (order : VoteSort) (id : RoundID) (env : VoteEnv) (s : Rounds) : VoteEnv × Rounds :=
  match (s.stored.lookup id).map (reload order) with
  | none => (env, s)
  | some (.error err) => ({ env with loadErr := some (env.loadErr.getD err) }, s)
  | some (.ok found) => (env, { s with stored := s.stored.insert id found })

/-- A delivery on the disk. -/
def deliverStored (order : VoteSort) (c : TaskVerificationVoteConsumer) (s : Rounds) (d : Delivery) : Rounds :=
  match json.unmarshal decoder d.ev.payload with
  | .error _ => c.deliver s d
  | .ok payload =>
    let (env, s) := reread order payload.roundID d.env s
    c.deliver s { d with env := env }

end TaskVerificationVoteConsumer

/-- The round with the votes of these deliveries, whatever their paths. -/
def collected (id : RoundID) (round : TaskVerificationRound) (l : List Delivery) : TaskVerificationRound :=
  applyVotes (l.filterMap (Delivery.cast id)) round

namespace TaskVerificationVoteConsumer

/-- What the last of these deliveries decides: it comes through the consumer, its vote is new to the round, and the
    finalizer decides on the votes delivered so far. -/
def decisionAt (c : TaskVerificationVoteConsumer) (id : RoundID) (round : TaskVerificationRound) (l : List Delivery) :
    Option Verdict := do
  let d ← l.getLast?
  let vote ← d.cast id
  if d.path = .consumer ∧ (collected id round l.dropLast).NewTo vote then
    (c.decision? d.env (collected id round l)).map (·.verdict)
  else none

end TaskVerificationVoteConsumer

section Runs

variable {c : TaskVerificationVoteConsumer} {s : Rounds} {id : RoundID} {round : TaskVerificationRound} {d : Delivery}
  {l : List Delivery} {round₀ : TaskVerificationRound}

theorem lookup_deliver (hfiled : s.Filed) (d : Delivery) (id : RoundID) :
    (c.deliver s d).stored.lookup id =
      (s.stored.lookup id).map fun round => (d.cast id).elim round fun vote => d.update c vote round := by
  obtain ⟨path, env, ev⟩ := d
  cases hev : json.unmarshal decoder ev.payload with
  | error err =>
    have hsync : syncVote env ev s = s := by
      unfold syncVote
      cases hget : getPayload "event.TaskVerificationVotePayload" decoder ev with
      | error err => rfl
      | ok payload =>
        rw [getPayload_eq_ok_iff, hev] at hget
        cases hget
    have hconsume : (c.consume env ev s).2 = s := by
      simp [consume, hev]
    have hcast : Delivery.cast id ⟨path, env, ev⟩ = none := by
      simp [Delivery.cast, castOn, hev]
    cases path <;> simp [deliver, hsync, hconsume, hcast]
  | ok payload =>
    have hcast : Delivery.cast id ⟨path, env, ev⟩ = if payload.roundID = id then castVote env payload else none := by
      simp [Delivery.cast, castOn, hev]
    have hhandles : ∀ {update s'}, Handles env payload update s s' → s'.stored.lookup id =
        (s.stored.lookup id).map fun round =>
          (Delivery.cast id ⟨path, env, ev⟩).elim round fun vote => update vote round := by
      intro update s' h
      rw [h id, hcast]
      split_ifs <;> simp
    cases path with
    | sync =>
      have hget : getPayload "event.TaskVerificationVotePayload" decoder ev = .ok payload :=
        getPayload_eq_ok_iff.mpr hev
      have hdeliver : c.deliver s ⟨.sync, env, ev⟩ = applyTaskVerificationVoteSync env payload s := by
        simp [deliver, syncVote, hget]
      rw [hdeliver]
      exact hhandles (handles_sync hfiled env payload)
    | consumer => exact hhandles (handles_consume hfiled c env hev)

theorem roundID_update (d : Delivery) (vote : TaskVerificationVoteRecord) (round : TaskVerificationRound) :
    (d.update c vote round).roundID = round.roundID := by
  have hrecord := roundID_recordVote vote round
  unfold Delivery.update syncRound consumeRound
  split
  · split_ifs
    · rfl
    · obtain hsame | ⟨-, -, hrecorded⟩ := applyVoteToRound_cases vote round
      · rw [hsame]
      · rw [hrecorded, hrecord]
  · split_ifs
    · rfl
    · rw [← hrecord]
      unfold finalizedRound
      split <;> rfl
    · rfl

theorem Filed.deliver (hfiled : s.Filed) (d : Delivery) : (c.deliver s d).Filed := by
  intro id after hafter
  rw [lookup_deliver hfiled] at hafter
  obtain ⟨round, hlookup, rfl⟩ := Option.map_eq_some_iff.mp hafter
  have hid := hfiled id round hlookup
  cases d.cast id with
  | none => exact hid
  | some vote => exact (roundID_update d vote round).trans hid

theorem collected_append (id : RoundID) (round : TaskVerificationRound) (l : List Delivery) (d : Delivery) :
    collected id round (l ++ [d]) = (d.cast id).elim (collected id round l) fun vote =>
      (applyVoteToRound vote (collected id round l)).2 := by
  cases hcast : d.cast id with
  | none | some vote => simp [hcast, collected, applyVotes]

theorem decisionAt_append (c : TaskVerificationVoteConsumer) (id : RoundID) (round : TaskVerificationRound)
    (l : List Delivery) (d : Delivery) :
    c.decisionAt id round (l ++ [d]) = (d.cast id).bind fun vote =>
      if d.path = .consumer ∧ (collected id round l).NewTo vote then
        (c.decision? d.env (collected id round (l ++ [d]))).map (·.verdict)
      else none := by
  simp [decisionAt]

/-- The round after these deliveries: open with all their votes while none of them has decided, and else closed with the
    first decision. -/
def Follows (c : TaskVerificationVoteConsumer) (id : RoundID) (round₀ : TaskVerificationRound) (l : List Delivery)
    (round : TaskVerificationRound) : Prop :=
  (round.state = .opened ∧ round = collected id round₀ l ∧ Undecided (c.decisionAt id round₀) l) ∨
    ∃ p verdict, p <+: l ∧ FirstDecides (c.decisionAt id round₀) p verdict ∧ round.state = verdict.toState ∧
      round.finalVerdict = verdict

theorem state_applyVoteToRound (vote : TaskVerificationVoteRecord) (round : TaskVerificationRound) :
    (applyVoteToRound vote round).2.state = round.state := by
  obtain hsame | ⟨-, -, hrecorded⟩ := applyVoteToRound_cases vote round
  · rw [hsame]
  · rw [hrecorded, state_recordVote vote round]

theorem update_of_closed (d : Delivery) (vote : TaskVerificationVoteRecord) (hclosed : round.state ≠ .opened) :
    d.update c vote round = recordPostFinalizationVote vote round := by
  have hterminal : round.isTerminal = true := by simpa [isTerminal] using hclosed
  unfold Delivery.update syncRound consumeRound
  split <;> rw [if_pos hterminal]

theorem Follows.update (h : Follows c id round₀ l round) (d : Delivery) :
    Follows c id round₀ (l ++ [d]) ((d.cast id).elim round fun vote => d.update c vote round) := by
  obtain ⟨hopen, hcollected, hundecided⟩ | ⟨p, verdict, hpre, hfirst, hstate, hfinal⟩ := h
  · subst hcollected
    have happend := collected_append id round₀ l d
    have hdecision := decisionAt_append c id round₀ l d
    cases hcast : d.cast id with
    | none =>
      rw [hcast] at happend hdecision
      exact .inl ⟨hopen, happend.symm, hundecided.append hdecision⟩
    | some vote =>
      rw [hcast, Option.elim_some] at happend
      rw [hcast, Option.bind_some] at hdecision
      have hterminal : (collected id round₀ l).isTerminal = false := isTerminal_eq_false.mpr hopen
      have hstate : (collected id round₀ (l ++ [d])).state = .opened := by
        rw [happend, state_applyVoteToRound, hopen]
      rw [Option.elim_some]
      unfold Delivery.update
      cases hpath : d.path with
      | sync =>
        -- the finalizer does not run
        have hsync : syncRound vote (collected id round₀ l) = collected id round₀ (l ++ [d]) := by
          rw [syncRound, hterminal, if_neg Bool.false_ne_true, happend]
        rw [if_neg (by simp [hpath])] at hdecision
        exact .inl ⟨hsync ▸ hstate, hsync, hundecided.append hdecision⟩
      | consumer =>
        simp only [consumeRound, hterminal, Bool.false_eq_true, if_false]
        obtain ⟨hnew, result, -, happly⟩ | ⟨hknown, hsame⟩ := applyVoteToRound_of_open vote hopen
        · rw [if_pos ⟨hpath, hnew⟩] at hdecision
          have hrecorded : collected id round₀ (l ++ [d]) = (collected id round₀ l).recordVote vote :=
            happend.trans (congrArg Prod.snd happly)
          rw [if_pos hnew, ← hrecorded, finalizedRound]
          cases hdecided : c.decision? d.env (collected id round₀ (l ++ [d])) with
          | none =>
            rw [hdecided] at hdecision
            exact .inl ⟨hstate, rfl, hundecided.append hdecision⟩
          | some decision =>
            rw [hdecided] at hdecision
            exact .inr ⟨l ++ [d], decision.verdict, List.prefix_rfl, ⟨l, d, rfl, hundecided, hdecision⟩, rfl, rfl⟩
        · have hunchanged : (applyVoteToRound vote (collected id round₀ l)).2 = collected id round₀ l := by
            obtain ⟨result, -, happly⟩ | ⟨result, err, -, happly⟩ := hsame <;> rw [happly]
          rw [if_neg fun hboth => hknown hboth.2] at hdecision
          rw [hunchanged] at happend
          rw [if_neg hknown]
          exact .inl ⟨hopen, happend.symm, hundecided.append hdecision⟩
  · have hclosed : round.state ≠ .opened := hstate ▸ toState_ne_opened verdict
    refine .inr ⟨p, verdict, hpre.trans (List.prefix_append l [d]), hfirst, ?_⟩
    cases d.cast id with
    | none => exact ⟨hstate, hfinal⟩
    | some vote =>
      rw [Option.elim_some, update_of_closed d vote hclosed]
      exact ⟨hstate, hfinal⟩

end Runs

section Stored

variable {order : VoteSort} {c : TaskVerificationVoteConsumer} {env : VoteEnv} {s : Rounds} {id : RoundID}
  {round round₀ found r r' : TaskVerificationRound} {vote : TaskVerificationVoteRecord} {d : Delivery}
  {l : List Delivery}

theorem reread_spec (hfiled : s.Filed) (hlookup : s.stored.lookup id = some round)
    (hfound : round.reload order = .ok found) (id' : RoundID) (env : VoteEnv) :
    (reread order id' env s).2.Filed ∧
      (id' = id → (reread order id' env s).1 = env ∧ (reread order id' env s).2.stored.lookup id = some found) ∧
      (id' ≠ id → (reread order id' env s).2.stored.lookup id = some round) := by
  unfold reread
  split
  next hnone =>
    refine ⟨hfiled, ?_, fun _ => hlookup⟩
    rintro rfl
    rw [hlookup] at hnone
    cases hnone
  next err herr =>
    refine ⟨hfiled, ?_, fun _ => hlookup⟩
    rintro rfl
    rw [hlookup, Option.map_some, hfound] at herr
    cases herr
  next found' hfound' =>
    obtain ⟨round', hlookup', hread'⟩ := Option.map_eq_some_iff.mp hfound'
    have hkept : found'.roundID = id' := by
      rw [← (reload_eq_ok_iff.mp hread').2, roundID_canonical]
      exact hfiled id' round' hlookup'
    refine ⟨fun id'' round'' hround'' => ?_, ?_, fun hne => ?_⟩
    · rw [Finmap.lookup_insert_eq] at hround''
      split_ifs at hround'' with hid
      · rw [← Option.some.inj hround'', hkept, hid]
      · exact hfiled id'' round'' hround''
    · rintro rfl
      rw [hlookup, Option.map_some, hfound] at hfound'
      cases hfound'
      exact ⟨rfl, Finmap.lookup_insert _⟩
    · rw [Finmap.lookup_insert_of_ne _ (Ne.symm hne)]
      exact hlookup

theorem lookup_deliverStored (c : TaskVerificationVoteConsumer) (hfiled : s.Filed)
    (hlookup : s.stored.lookup id = some round) (hfound : round.reload order = .ok found) (d : Delivery) :
    (c.deliverStored order s d).Filed ∧ ∃ base ∈ [round, found], (c.deliverStored order s d).stored.lookup id =
      some ((d.cast id).elim base fun vote => d.update c vote base) := by
  obtain ⟨path, env₀, ev⟩ := d
  unfold deliverStored
  split
  · refine ⟨Filed.deliver hfiled _, round, List.mem_cons_self, ?_⟩
    rw [lookup_deliver hfiled, hlookup, Option.map_some]
  next payload hev =>
    obtain ⟨hfiled', hsame, hother⟩ := reread_spec hfiled hlookup hfound payload.roundID env₀
    generalize reread order payload.roundID env₀ s = after at hfiled' hsame hother ⊢
    obtain ⟨env, s'⟩ := after
    refine ⟨Filed.deliver hfiled' _, ?_⟩
    by_cases hid : payload.roundID = id
    · obtain ⟨henv, hfound'⟩ := hsame hid
      obtain rfl : env = env₀ := henv
      refine ⟨found, List.mem_cons_of_mem _ List.mem_cons_self, ?_⟩
      rw [lookup_deliver hfiled', hfound', Option.map_some]
    · have hcast : ∀ env, castOn env ev id = none := fun env => by simp [castOn, hev, hid]
      refine ⟨round, List.mem_cons_self, ?_⟩
      simp only [lookup_deliver hfiled', hother hid, Delivery.cast, hcast, Option.map_some, Option.elim_none]

theorem Like.voted (h : r.Like r') (vote : TaskVerificationVoteRecord) :
    voted vote r = none ∧ voted vote r' = none ∨
      ∃ a a', recognition.voted vote r = some a ∧ recognition.voted vote r' = some a' ∧ a.Like a' := by
  have hnew : r'.NewTo vote ↔ r.NewTo vote := by
    simp only [NewTo, h.votes.mem_iff]
  unfold recognition.voted
  rw [h.isTerminal, if_congr hnew rfl rfl]
  split_ifs
  · exact .inr ⟨_, _, rfl, rfl, by rw [h.same]; exact ⟨rfl, h.votes.append_right _⟩⟩
  · exact .inr ⟨_, _, rfl, rfl, h.recordVote vote⟩
  · exact .inl ⟨rfl, rfl⟩

theorem Like.finalizedRound (h : r.Like r') (c : TaskVerificationVoteConsumer) (env : VoteEnv) :
    (c.finalizedRound env r).Like (c.finalizedRound env r') := by
  have hdecision : c.decision? env r' = c.decision? env r := by
    simp only [decision?, h.evaluate]
  unfold TaskVerificationVoteConsumer.finalizedRound
  rw [hdecision]
  cases c.decision? env r with
  | none => exact h
  | some decision => exact ⟨by rw [h.same], h.votes⟩

theorem Like.update (h : r.Like r') (d : Delivery) (vote : TaskVerificationVoteRecord) :
    (d.update c vote r).Like (d.update c vote r') := by
  unfold Delivery.update
  cases d.path with
  | sync =>
    simp only [syncRound_eq]
    obtain ⟨hnone, hnone'⟩ | ⟨a, a', hsome, hsome', hlike⟩ := Like.voted h vote
    · rwa [hnone, hnone']
    · rwa [hsome, hsome']
  | consumer =>
    simp only [consumeRound_eq, h.isTerminal]
    obtain ⟨hnone, hnone'⟩ | ⟨a, a', hsome, hsome', hlike⟩ := Like.voted h vote
    · rwa [hnone, hnone']
    · rw [hsome, hsome']
      simp only [Option.map_some, Option.getD_some]
      split_ifs
      · exact hlike
      · exact Like.finalizedRound hlike c d.env

theorem follows_deliveries (order : VoteSort) {s₀ : Rounds} (hfiled : s₀.Filed)
    (hlookup : s₀.stored.lookup id = some round₀) (hopen : round₀.state = .opened)
    (hexact : ∀ p, p <+: l → ∀ stored, (p.foldl (c.deliverStored order) s₀).stored.lookup id = some stored →
      stored.Exact) :
    (l.foldl (c.deliverStored order) s₀).Filed ∧ ∃ plain stored,
      (l.foldl (c.deliverStored order) s₀).stored.lookup id = some stored ∧ plain.Like stored ∧
      Follows c id round₀ l plain := by
  induction l using List.reverseRecOn with
  | nil => exact ⟨hfiled, round₀, round₀, hlookup, .refl _, .inl ⟨hopen, rfl, .nil⟩⟩
  | append_singleton l d ih =>
    obtain ⟨hfiled', plain, stored, hstored, hlike, hfollows⟩ := ih
      fun p hp => hexact p (hp.trans (List.prefix_append l [d]))
    obtain ⟨found, hfound, hfoundLike⟩ := (hexact l (List.prefix_append l [d]) stored hstored).reload order
    obtain ⟨hfiled'', base, hbase, hafter⟩ := lookup_deliverStored c hfiled' hstored hfound d
    have hbaseLike : plain.Like base := by
      rcases List.mem_cons.mp hbase with rfl | hread
      · exact hlike
      · rw [List.mem_singleton.mp hread]
        exact hlike.trans hfoundLike
    rw [List.foldl_append, List.foldl_cons, List.foldl_nil]
    refine ⟨hfiled'', _, _, hafter, ?_, hfollows.update d⟩
    cases d.cast id with
    | none => exact hbaseLike
    | some vote => exact Like.update hbaseLike d vote

/-- `LoadRound` returns the round as finalized with this verdict. -/
def FinalizedWith (order : VoteSort) (s : Rounds) (id : RoundID) (verdict : Verdict) : Prop :=
  ∃ stored round, s.stored.lookup id = some stored ∧ stored.reload order = .ok round ∧ round.isTerminal = true ∧
    round.state = verdict.toState ∧ round.finalVerdict = verdict

/-- When votes finalize a round. Vote events reach the node in any order, through the sync handler, the consumer or
    both, each possibly more than once. As long as its numbers are read as they were written, an open round ends up
    finalized with a verdict if and only if it is the verdict of the first decisive delivery: one through the consumer,
    of a vote that no delivery before it has brought, and for which the finalizer decides on the votes delivered so
    far. -/
theorem finalizedWith_iff (order : VoteSort) (c : TaskVerificationVoteConsumer) (hfiled : s.Filed)
    (hlookup : s.stored.lookup id = some round) (hopen : round.state = .opened) (deliveries : List Delivery)
    (hexact : ∀ p, p <+: deliveries → ∀ stored,
      (p.foldl (c.deliverStored order) s).stored.lookup id = some stored → stored.Exact) (verdict : Verdict) :
    FinalizedWith order (deliveries.foldl (c.deliverStored order) s) id verdict ↔
      ∃ p, p <+: deliveries ∧ FirstDecides (c.decisionAt id round) p verdict := by
  obtain ⟨-, plain, stored, hstored, hlike, hfollows⟩ := follows_deliveries order hfiled hlookup hopen hexact
  obtain ⟨found, hfound, hfoundLike⟩ := (hexact deliveries List.prefix_rfl stored hstored).reload order
  have hsame := (hlike.trans hfoundLike).same
  have hstate : found.state = plain.state := by rw [hsame]
  have hverdict : found.finalVerdict = plain.finalVerdict := by rw [hsame]
  constructor
  · rintro ⟨stored', round', hstored', hround', hterminal, -, hfinal⟩
    cases hstored.symm.trans hstored'
    cases hfound.symm.trans hround'
    obtain ⟨hopened, -, -⟩ | ⟨p, verdict', hpre, hfirst, -, hfinal'⟩ := hfollows
    · rw [isTerminal_eq_false.mpr (hstate.trans hopened)] at hterminal
      cases hterminal
    · cases (hverdict.symm.trans hfinal).symm.trans hfinal'
      exact ⟨p, hpre, hfirst⟩
  · rintro ⟨p, hpre, hfirst⟩
    obtain ⟨-, -, hundecided⟩ | ⟨p', verdict', hpre', hfirst', hclosed, hfinal⟩ := hfollows
    · have hnone := hundecided p hfirst.ne_nil hpre
      rw [hfirst.decides] at hnone
      cases hnone
    · obtain ⟨-, rfl⟩ := hfirst.unique hfirst' hpre hpre'
      refine ⟨stored, found, hstored, hfound, ?_, hstate.trans hclosed, hverdict.trans hfinal⟩
      simpa [isTerminal, hstate, hclosed] using toState_ne_opened verdict

end Stored

section Sample

def sampleEnv : VoteEnv where
  voteWeight id := if id ∈ ["ka", "kb", "kc"] then some 10 else none
  activeWeight := 30
  now := 1001

/-- A pass vote on the sample round. -/
def passVote (validatorID family : String) : Event where
  id := "vote of " ++ validatorID
  type := .taskVerificationVote
  payload := .document (.obj
    [("round_id", .str sampleRound.roundID), ("validator_id", .str validatorID), ("verdict", .str "pass"),
      ("score_bp", .num "7000"), ("analyzer_family", .str family)])
  agentID := validatorID

def voteOfA (path : Path) : Delivery := ⟨path, sampleEnv, passVote "ka" "llm_semantic"⟩
def voteOfB (path : Path) : Delivery := ⟨path, sampleEnv, passVote "kb" "deterministic_heuristic"⟩
def voteOfC (path : Path) : Delivery := ⟨path, sampleEnv, passVote "kc" "statistical_structural"⟩

def sampleRounds : Rounds where
  stored := (∅ : Map RoundID TaskVerificationRound).insert sampleRound.roundID sampleRound

def sampleConsumer : TaskVerificationVoteConsumer := ⟨some defaultFinalizerConfig⟩

theorem sampleRounds_filed : sampleRounds.Filed := by
  intro id round hlookup
  simp only [sampleRounds, Finmap.lookup_insert_eq] at hlookup
  split_ifs at hlookup with hid
  · cases hlookup
    exact hid.symm
  · simp at hlookup

def sampleSort : VoteSort where
  sort := List.insertionSort fun a b => a.validatorID ≤ b.validatorID
  perm := List.perm_insertionSort _
  sorted := by
    have htotal : Std.Total fun a b : TaskVerificationVoteRecord => a.validatorID ≤ b.validatorID :=
      ⟨fun a b => le_total _ _⟩
    have htrans : IsTrans TaskVerificationVoteRecord fun a b => a.validatorID ≤ b.validatorID := ⟨fun a b c => le_trans⟩
    exact List.pairwise_insertionSort _

theorem finalizedWith_threeVotes :
    FinalizedWith sampleSort ([voteOfC .consumer, voteOfB .consumer, voteOfA .consumer].foldl
      (sampleConsumer.deliverStored sampleSort) sampleRounds) sampleRound.roundID .pass := by
  have hexact : ∀ p ∈ [voteOfC .consumer, voteOfB .consumer, voteOfA .consumer].inits,
      ∀ stored ∈ (p.foldl (sampleConsumer.deliverStored sampleSort) sampleRounds).stored.lookup sampleRound.roundID,
      stored.Exact := by
    decide +kernel
  refine (finalizedWith_iff sampleSort sampleConsumer sampleRounds_filed (Finmap.lookup_insert _) rfl _
    (fun p hp => hexact p ((List.mem_inits _ _).mpr hp)) _).mpr
    ⟨_, List.prefix_rfl, [voteOfC .consumer, voteOfB .consumer], voteOfA .consumer, rfl, ?_, ?_⟩
  · have hfirst : sampleConsumer.decisionAt sampleRound.roundID sampleRound [voteOfC .consumer] = none := by
      decide +kernel
    have hsecond : sampleConsumer.decisionAt sampleRound.roundID sampleRound
        [voteOfC .consumer, voteOfB .consumer] = none := by
      decide +kernel
    exact (Undecided.nil.append hfirst).append hsecond
  · decide +kernel

/-- The third vote comes through the sync handler and then through the consumer, like the other two before it. All three
    votes accept the round, and it stays open. -/
theorem open_after_sync :
    let deliveries := [voteOfA .consumer, voteOfB .consumer, voteOfC .sync, voteOfC .consumer]
    let decision := defaultFinalizerConfig.evaluate
      (collected sampleRound.roundID sampleRound [voteOfA .consumer, voteOfB .consumer, voteOfC .consumer]) 30 1001
    (decision.shouldFinalize = true ∧ decision.verdict = .pass) ∧
    ((deliveries.foldl (sampleConsumer.deliverStored sampleSort) sampleRounds).stored.lookup sampleRound.roundID).map
      (fun round => (round.state, round.passWeight)) = some (.opened, 30) ∧
    ¬ FinalizedWith sampleSort (deliveries.foldl (sampleConsumer.deliverStored sampleSort) sampleRounds)
      sampleRound.roundID .pass := by
  have hopen : (([voteOfA .consumer, voteOfB .consumer, voteOfC .sync, voteOfC .consumer].foldl
      (sampleConsumer.deliverStored sampleSort) sampleRounds).stored.lookup sampleRound.roundID).map
      (fun round => (round.state, round.passWeight)) = some (.opened, 30) := by
    decide +kernel
  refine ⟨by decide +kernel, hopen, ?_⟩
  rintro ⟨stored, round, hlookup, hread, hterminal, -⟩
  rw [hlookup, Option.map_some] at hopen
  have hstate : round.state = stored.state := by
    rw [← (reload_eq_ok_iff.mp hread).2, state_canonical]
  rw [isTerminal_eq_false.mpr (hstate.trans (Prod.mk.inj (Option.some.inj hopen)).1)] at hterminal
  cases hterminal

end Sample

end aethernet.recognition
