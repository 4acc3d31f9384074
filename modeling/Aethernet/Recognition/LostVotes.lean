import Aethernet.Recognition.DeliveryPaths
import Aethernet.Recognition.RoundConsumers
import Aethernet.TaskVerification.DeadlineChecker
import Aethernet.Transition.Invariant

open golang aethernet event taskverification dispatch transition recognition.TaskVerificationConsensusConsumer
  TaskVerificationRound

namespace aethernet.recognition

/-- A `SaveRound` that a delivery makes. With it the delivery of `vote` is done, if there is one; `ignoresErr` if the
    error of the save is dropped. -/
structure Write where
  round : TaskVerificationRound
  saveErr : Option Error
  vote : Option TaskVerificationVoteRecord := none
  ignoresErr : Bool := false

/-- The votes whose delivery ends without an error by this write. -/
def Write.done (w : Write) : List TaskVerificationVoteRecord :=
  if w.saveErr = none ∨ w.ignoresErr then w.vote.toList else []

/-- A delivery that loads the round. -/
inductive Job where
  | consumer (c : TaskVerificationVoteConsumer) (env : VoteEnv) (payload : TaskVerificationVotePayload)
  | sync (env : VoteEnv) (payload : TaskVerificationVotePayload)
  | consensus (env : ConsensusEnv) (payload : ConsensusPayload)
  | check (d : DeadlineChecker) (env : CheckEnv)

/-- The save of a vote on both paths. A known vote is not saved again while the round is open. -/
def voteWrites (ignoresErr : Bool) (env : VoteEnv) (vote : TaskVerificationVoteRecord) (round : TaskVerificationRound) :
    List Write :=
  if round.isTerminal then
    [{ round := recordPostFinalizationVote vote round, saveErr := env.saveErr, vote := some vote, ignoresErr }]
  else if round.NewTo vote then
    [{ round := round.recordVote vote, saveErr := env.saveErr, vote := some vote, ignoresErr }]
  else []

/-- The save of a finalized round at the end of `Consume`. -/
def finalWrites (c : TaskVerificationVoteConsumer) (env : VoteEnv) (round : TaskVerificationRound) : List Write :=
  match c.finalizer with
  | none => []
  | some config =>
    let decision := config.evaluate round env.activeWeight env.now
    if decision.shouldFinalize then
      [{ round := { round with
          state := decision.verdict.toState, finalizationTime := env.now, finalVerdict := decision.verdict
          finalScoreBP := decision.finalScoreBP }
         saveErr := env.saveFinalErr }]
    else []

/-- The save of a calibrated round. -/
def calibrationWrites (env : ConsensusEnv) (round : TaskVerificationRound) : List Write :=
  if env.calibrates ∧ !round.calibrationApplied then
    [{ round := { round with calibrationApplied := true }, saveErr := env.saveCalibrationErr }]
  else []

namespace Job

/-- The error of a failing read. A check finds the rounds that can be read. -/
def loadErr : Job → Option Error
  | consumer _ env _ | sync env _ => env.loadErr
  | consensus env _ => env.loadErr
  | check _ _ => none

/-- `LoadRound`, of a round that was saved. -/
def load (order : VoteSort) (stored : TaskVerificationRound) (job : Job) : Except Error TaskVerificationRound :=
  match job.loadErr with
  | some err => .error err
  | none => stored.reload order

/-- The vote whose delivery ends without an error if the load fails. -/
def unheard : Job → Option TaskVerificationVoteRecord
  | sync env payload => eligibleVote env payload
  | _ => none

/-- The vote that a delivery brings. -/
def own : Job → Option TaskVerificationVoteRecord
  | consumer _ env payload => eligibleVote env payload
  | sync env payload => eligibleVote env payload
  | consensus _ _ => none
  | check _ _ => none

/-- The saves of a delivery that has loaded this round. -/
def writes (round : TaskVerificationRound) : Job → List Write
  | consumer c env payload => match eligibleVote env payload with
    | none => []
    | some vote => voteWrites false env vote round ++
        if !round.isTerminal ∧ round.NewTo vote then finalWrites c env (round.recordVote vote) else []
  | sync env payload => match eligibleVote env payload with
    | none => []
    | some vote => voteWrites true env vote round
  | consensus env payload => match closed payload round with
    | none => calibrationWrites env round
    | some round => { round := round, saveErr := env.saveErr } :: calibrationWrites env round
  -- only open rounds are listed
  | check d env =>
    if round.isTerminal then []
    else match d.checked env round with
      | none => []
      | some (round, _) => [{ round := round, saveErr := env.saveErr }]

end Job

/-- The saves one after the other, up to one that fails. -/
def perform : List Write → Map RoundID TaskVerificationRound → Map RoundID TaskVerificationRound
  | [], stored => stored
  | w :: ws, stored => match w.saveErr with
    | some _ => stored
    | none => perform ws (stored.insert w.round.roundID w.round)

section Alone

variable {s : Rounds} {round : TaskVerificationRound} {env : VoteEnv} {payload : TaskVerificationVotePayload}

theorem stored_saveRound (saveErr : Option Error) (round : TaskVerificationRound) (s : Rounds) :
    (Rounds.saveRound saveErr round s).2.stored = perform [{ round := round, saveErr := saveErr }] s.stored := by
  cases saveErr <;> rfl

theorem stored_sync (hload : s.loadRound env.loadErr payload.roundID = .ok round) :
    (applyTaskVerificationVoteSync env payload s).stored = perform ((Job.sync env payload).writes round) s.stored := by
  rw [sync_eq hload, Job.writes]
  cases eligibleVote env payload with
  | none => rfl
  | some vote =>
    simp only [Option.bind_some, voted, voteWrites]
    split_ifs
    · cases hsave : env.saveErr <;> rfl
    · cases hsave : env.saveErr <;> rfl
    · rfl

theorem stored_finalizeRound (c : TaskVerificationVoteConsumer) (hopen : round.state = .opened) (s : Rounds) :
    (c.finalizeRound env round s).stored = perform (finalWrites c env round) s.stored := by
  unfold TaskVerificationVoteConsumer.finalizeRound finalWrites
  cases c.finalizer with
  | none => rfl
  | some config =>
    dsimp only
    cases hdecision : (config.evaluate round env.activeWeight env.now).shouldFinalize with
    | false => rfl
    | true =>
      rw [transition_of_open hopen]
      cases hsave : env.saveFinalErr <;> rfl

theorem stored_consume (c : TaskVerificationVoteConsumer) {ev : Event}
    (hev : json.unmarshal TaskVerificationVotePayload.decoder ev.payload = .ok payload)
    (hload : s.loadRound env.loadErr payload.roundID = .ok round) :
    (c.consume env ev s).2.stored = perform ((Job.consumer c env payload).writes round) s.stored := by
  rw [consume_eq c hev hload, Job.writes]
  cases eligibleVote env payload with
  | none => rfl
  | some vote =>
    simp only [Option.bind_some]
    cases hvoted : voted vote round with
    | none =>
      simp only [voted] at hvoted
      split_ifs at hvoted with hterminal hnew
      simp [voteWrites, hterminal, hnew, perform]
    | some r =>
      obtain ⟨hterminal, rfl⟩ | ⟨hopen, hnew, rfl⟩ := voted_cases hvoted
      · cases hsave : env.saveErr <;> simp [voteWrites, hterminal, hsave, perform, Rounds.saveRound]
      · have hterminal := isTerminal_eq_false.mpr hopen
        cases hsave : env.saveErr with
        | some err => simp [voteWrites, hterminal, hnew, hsave, perform, Rounds.saveRound]
        | none =>
          have hrecorded : (round.recordVote vote).state = .opened := (state_recordVote vote round).trans hopen
          simp [voteWrites, hterminal, hnew, hsave, perform, Rounds.saveRound, stored_finalizeRound c hrecorded]

theorem stored_calibrate (env : ConsensusEnv) (round : TaskVerificationRound) (s : Rounds) :
    (calibrate env round s).stored = perform (calibrationWrites env round) s.stored := by
  unfold calibrate calibrationWrites
  split_ifs
  · exact stored_saveRound _ _ s
  · rfl

theorem stored_consensus {env : ConsensusEnv} {payload : ConsensusPayload} {ev : Event}
    (hev : json.unmarshal ConsensusPayload.decoder ev.payload = .ok payload)
    (hload : s.loadRound env.loadErr payload.roundID = .ok round) :
    (consume env ev s).2.stored =
      perform ((Job.consensus env payload).writes round) s.stored := by
  unfold consume Job.writes
  simp only [hev, hload]
  cases closed payload round with
  | none => exact stored_calibrate env round s
  | some closed =>
    cases hsave : env.saveErr with
    | some err => rfl
    | none => exact stored_calibrate env closed _

theorem stored_checkRound (d : DeadlineChecker) (env : CheckEnv) (hopen : round.isTerminal = false) (s : Rounds) :
    (d.checkRound env round s).stored = perform ((Job.check d env).writes round) s.stored := by
  simp only [DeadlineChecker.checkRound, Job.writes, hopen, Bool.false_eq_true, if_false]
  cases d.checked env round with
  | none => rfl
  | some checked =>
    obtain ⟨round', final⟩ := checked
    cases hsave : env.saveErr with
    | some err => rfl
    | none => cases final <;> rfl

end Alone

/-- A delivery that has loaded the round: the copy it loaded, how many votes had been delivered by then, and the saves
    it has still to make. -/
structure Running where
  base : TaskVerificationRound
  seen : ℕ
  own : Option TaskVerificationVoteRecord
  writes : List Write

/-- The round as it was saved, the votes whose deliveries have ended without an error or a rejection, whether the stored
    round has ever been closed, and the deliveries under way. -/
structure SharedRound where
  stored : TaskVerificationRound
  delivered : List TaskVerificationVoteRecord
  closed : Bool
  running : ℕ → Option Running

namespace SharedRound

/-- A round before any delivery, which is read as `found`. -/
def start (round found : TaskVerificationRound) : SharedRound where
  stored := round
  delivered := found.votes
  closed := found.isTerminal
  running _ := none

def busy (s : SharedRound) (worker : ℕ) : Bool := (s.running worker).any fun r => !r.writes.isEmpty

inductive Occurrence
  /-- A worker that is idle begins with a delivery. -/
  | load (worker : ℕ) (job : Job)
  | save (worker : ℕ)

/-- A save of the worker's next copy. The delivery ends with a save that fails. -/
def save (worker : ℕ) (r : Running) (w : Write) (ws : List Write) (s : SharedRound) : SharedRound :=
  match w.saveErr with
  | some _ => { s with
      delivered := s.delivered ++ w.done
      running := Function.update s.running worker none }
  | none =>
    { stored := w.round
      delivered := s.delivered ++ w.done
      closed := s.closed || w.round.isTerminal
      running := Function.update s.running worker (some { r with writes := ws }) }

variable (order : VoteSort)

def step (s : SharedRound) : Occurrence → SharedRound
  | .load worker job =>
    if s.busy worker then s
    else match job.load order s.stored with
      | .error _ => { s with delivered := s.delivered ++ job.unheard.toList }
      | .ok round => { s with running := Function.update s.running worker (some
          { base := round, seen := s.delivered.length, own := job.own, writes := job.writes round }) }
  | .save worker => match s.running worker with
    | some r => match r.writes with
      | w :: ws => s.save worker r w ws
      | [] => s
    | none => s

/-- The round can be read, no vote is lost, and the round has not been opened again. -/
structure Kept (s : SharedRound) : Prop where
  readable : s.stored.Readable
  votes : ∀ v ∈ s.delivered, v ∈ (s.stored.canonical order).votes
  closed : s.closed = true → s.stored.isTerminal = true

/-- What a save with a copy of the round may overwrite: each vote that was delivered since the copy was loaded is in it
    or is the delivery's own, a round that has been closed is closed in the copy, and its numbers are written as they
    are read. -/
structure UpToDate (s : SharedRound) (r : Running) (w : Write) : Prop where
  readable : w.round.Readable
  exact : ∀ v ∈ w.done, v.canonical = v
  votes : ∀ v ∈ s.delivered.drop r.seen, v ∈ r.base.votes ∨ r.own.map (·.canonical) = some v
  closed : s.closed = true → w.round.isTerminal = true

/-- A save that succeeds is up to date. A load or a save whose error is dropped does not fail, unless the vote is in the
    round. -/
def Current (s : SharedRound) : Occurrence → Prop
  | .load worker job => s.busy worker = false → ∀ err, job.load order s.stored = .error err →
      ∀ v ∈ job.unheard, v ∈ (s.stored.canonical order).votes
  | .save worker => ∀ r w ws, s.running worker = some r → r.writes = w :: ws →
    match w.saveErr with
    | some _ => ∀ v ∈ w.done, v ∈ (s.stored.canonical order).votes
    | none => s.UpToDate r w

/-- What is known of a delivery under way. -/
structure Sane (delivered : List TaskVerificationVoteRecord) (r : Running) : Prop where
  canonical : ∀ v ∈ r.base.votes, v.canonical = v
  seen : r.seen ≤ delivered.length
  base : ∀ v ∈ delivered.take r.seen, v ∈ r.base.votes
  writes : ∀ w ∈ r.writes, (∀ v, v ∈ w.round.votes ↔ v ∈ r.base.votes ∨ r.own = some v) ∧ ∀ v ∈ w.done, r.own = some v

section Copies

variable {order : VoteSort} {round round' : TaskVerificationRound} {vote : TaskVerificationVoteRecord} {env : VoteEnv}
  {w : Write}

theorem mem_votes_of_voteWrites {ignoresErr : Bool} (hw : w ∈ voteWrites ignoresErr env vote round) :
    w.round.votes = round.votes ++ [vote] ∧ w.vote = some vote := by
  unfold voteWrites at hw
  split_ifs at hw
  · rw [List.mem_singleton.mp hw]
    exact ⟨rfl, rfl⟩
  · rw [List.mem_singleton.mp hw]
    exact ⟨votes_recordVote vote round, rfl⟩
  · cases hw

theorem votes_of_finalWrites {c : TaskVerificationVoteConsumer} (hw : w ∈ finalWrites c env round) :
    w.round.votes = round.votes ∧ w.vote = none := by
  unfold finalWrites at hw
  split at hw
  · cases hw
  · dsimp only at hw
    split_ifs at hw
    · rw [List.mem_singleton.mp hw]
      exact ⟨rfl, rfl⟩
    · cases hw

theorem votes_of_calibrationWrites {env : ConsensusEnv} (hw : w ∈ calibrationWrites env round) :
    w.round.votes = round.votes ∧ w.vote = none := by
  unfold calibrationWrites at hw
  split_ifs at hw
  · rw [List.mem_singleton.mp hw]
    exact ⟨rfl, rfl⟩
  · cases hw

theorem votes_transition {next : RoundState} {now : Int64} {result : Except Error Unit}
    (h : round.transition next now = (result, round')) : round'.votes = round.votes := by
  unfold TaskVerificationRound.transition at h
  split_ifs at h <;> cases h <;> rfl

theorem votes_of_closed {payload : ConsensusPayload}
    (h : TaskVerificationConsensusConsumer.closed payload round = some round') : round'.votes = round.votes := by
  unfold TaskVerificationConsensusConsumer.closed at h
  split_ifs at h
  dsimp only at h
  split at h
  · cases h
  next htransition =>
    have hvotes := votes_transition htransition
    cases h
    exact hvotes

theorem votes_of_checked {d : DeadlineChecker} {env : CheckEnv} {final : Bool}
    (h : d.checked env round = some (round', final)) : round'.votes = round.votes := by
  unfold DeadlineChecker.checked at h
  split at h
  · cases h
  · cases h
    rfl
  · split at h
    · cases h
    next htransition =>
      have hvotes := votes_transition htransition
      cases h
      exact hvotes

/-- The copies of a vote's delivery have the vote, those of the others the votes that were loaded. -/
theorem votes_of_writes {job : Job} (hw : w ∈ job.writes round) :
    w.round.votes = round.votes ++ job.own.toList ∧ ∀ v ∈ w.vote, job.own = some v := by
  cases job with
  | consumer c env payload =>
    simp only [Job.writes, Job.own] at hw ⊢
    cases hvote : eligibleVote env payload with
    | none =>
      rw [hvote] at hw
      cases hw
    | some vote =>
      rw [hvote] at hw
      rcases List.mem_append.mp hw with hfirst | hlast
      · obtain ⟨hvotes, hown⟩ := mem_votes_of_voteWrites hfirst
        exact ⟨hvotes, fun v hv => hown.symm.trans hv⟩
      · split_ifs at hlast
        · obtain ⟨hvotes, hown⟩ := votes_of_finalWrites hlast
          refine ⟨hvotes.trans (votes_recordVote vote round), fun v hv => ?_⟩
          rw [hown] at hv
          cases hv
        · cases hlast
  | sync env payload =>
    simp only [Job.writes, Job.own] at hw ⊢
    cases hvote : eligibleVote env payload with
    | none =>
      rw [hvote] at hw
      cases hw
    | some vote =>
      rw [hvote] at hw
      obtain ⟨hvotes, hown⟩ := mem_votes_of_voteWrites hw
      exact ⟨hvotes, fun v hv => hown.symm.trans hv⟩
  | consensus env payload =>
    simp only [Job.writes, Job.own, Option.toList_none, List.append_nil] at hw ⊢
    cases hclosed : TaskVerificationConsensusConsumer.closed payload round with
    | none =>
      rw [hclosed] at hw
      obtain ⟨hvotes, hown⟩ := votes_of_calibrationWrites hw
      exact ⟨hvotes, fun v hv => by rw [hown] at hv; cases hv⟩
    | some closed =>
      rw [hclosed] at hw
      rcases List.mem_cons.mp hw with rfl | hlast
      · exact ⟨votes_of_closed hclosed, fun v hv => by cases hv⟩
      · obtain ⟨hvotes, hown⟩ := votes_of_calibrationWrites hlast
        exact ⟨hvotes.trans (votes_of_closed hclosed), fun v hv => by rw [hown] at hv; cases hv⟩
  | check d env =>
    simp only [Job.writes, Job.own, Option.toList_none, List.append_nil] at hw ⊢
    split_ifs at hw
    · cases hw
    · cases hchecked : d.checked env round with
      | none =>
        rw [hchecked] at hw
        cases hw
      | some checked =>
        rw [hchecked] at hw
        rw [List.mem_singleton.mp hw]
        exact ⟨votes_of_checked hchecked, fun v hv => by cases hv⟩

theorem mem_done {v : TaskVerificationVoteRecord} (hv : v ∈ w.done) : w.vote = some v := by
  unfold Write.done at hv
  split_ifs at hv
  · exact Option.mem_toList.mp hv
  · cases hv

theorem sane_of_load {s : SharedRound} (h : s.Kept order) (job : Job) :
    Sane s.delivered
      { base := s.stored.canonical order
        seen := s.delivered.length
        own := job.own
        writes := job.writes (s.stored.canonical order) } := by
  refine ⟨fun v hv => ?_, le_rfl, fun v hv => h.votes v ?_, fun w hw => ?_⟩
  · obtain ⟨u, -, rfl⟩ := mem_votes_canonical.mp hv
    exact u.canonical_canonical
  · rwa [List.take_length] at hv
  · obtain ⟨hvotes, hown⟩ := votes_of_writes hw
    refine ⟨fun v => ?_, fun v hv => hown v (mem_done hv)⟩
    rw [hvotes, List.mem_append, Option.mem_toList]

end Copies

section Runs

variable {order : VoteSort} {s : SharedRound} {r : Running} {w : Write} {ws : List Write} {worker : ℕ}

def AllSane (s : SharedRound) : Prop := ∀ worker r, s.running worker = some r → Sane s.delivered r

theorem Sane.append (h : Sane s.delivered r) (more : List TaskVerificationVoteRecord) :
    Sane (s.delivered ++ more) r := by
  refine ⟨h.canonical, h.seen.trans (by simp), fun v hv => h.base v ?_, h.writes⟩
  rwa [List.take_append_of_le_length h.seen] at hv

theorem running_update {worker' : ℕ} {next : Option Running} {P : Running → Prop}
    (hothers : ∀ worker' r', s.running worker' = some r' → P r') (hnext : ∀ r', next = some r' → P r') {r' : Running}
    (h : Function.update s.running worker next worker' = some r') : P r' := by
  by_cases heq : worker' = worker
  · subst heq
    rw [Function.update_self] at h
    exact hnext r' h
  · rw [Function.update_of_ne heq] at h
    exact hothers worker' r' h

theorem AllSane.save (h : s.AllSane) (hr : s.running worker = some r) (hwrites : r.writes = w :: ws) :
    (s.save worker r w ws).AllSane := by
  have hothers : ∀ worker' r', s.running worker' = some r' → Sane (s.delivered ++ w.done) r' :=
    fun worker' r' hr' => (h worker' r' hr').append _
  have hsane := h worker r hr
  unfold SharedRound.save
  split
  · exact fun worker' r' => running_update hothers fun r' hnone => by cases hnone
  · refine fun worker' r' => running_update hothers fun r' hnext => ?_
    cases hnext
    have happended := hsane.append w.done
    exact ⟨hsane.canonical, happended.seen, happended.base,
      fun w' hw' => hsane.writes w' (hwrites ▸ List.mem_cons_of_mem w hw')⟩

theorem canonical_of_load {job : Job} {round : TaskVerificationRound} (hload : job.load order s.stored = .ok round) :
    round = s.stored.canonical order := by
  unfold Job.load at hload
  split at hload
  · cases hload
  · exact (reload_eq_ok_iff.mp hload).2.symm

theorem AllSane.step (hkept : s.Kept order) (h : s.AllSane) (o : Occurrence) : (s.step order o).AllSane := by
  cases o with
  | load worker job =>
    unfold SharedRound.step
    dsimp only
    split_ifs
    · exact h
    · split
      · exact fun worker' r' hr' => (h worker' r' hr').append _
      next round hload =>
        refine fun worker' r' => running_update h fun r' hnext => ?_
        cases hnext
        obtain rfl := canonical_of_load hload
        exact sane_of_load hkept job
  | save worker =>
    unfold SharedRound.step
    dsimp only
    split
    next r hr =>
      split
      next w ws hwrites => exact h.save hr hwrites
      · exact h
    · exact h

theorem mem_votes_canonical_write (hsane : Sane s.delivered r)
    (hvotes : ∀ v, v ∈ w.round.votes ↔ v ∈ r.base.votes ∨ r.own = some v) (v : TaskVerificationVoteRecord) :
    v ∈ (w.round.canonical order).votes ↔ v ∈ r.base.votes ∨ r.own.map (·.canonical) = some v := by
  rw [mem_votes_canonical, Option.map_eq_some_iff]
  constructor
  · rintro ⟨u, hu, rfl⟩
    refine ((hvotes u).mp hu).imp (fun hbase => ?_) fun hown => ⟨u, hown, rfl⟩
    rwa [hsane.canonical u hbase]
  · rintro (hbase | ⟨u, hown, rfl⟩)
    · exact ⟨v, (hvotes v).mpr (.inl hbase), hsane.canonical v hbase⟩
    · exact ⟨u, (hvotes u).mpr (.inr hown), rfl⟩

theorem kept_of_delivered_iff (hkept : s.Kept order) (votes : List TaskVerificationVoteRecord)
    (running : ℕ → Option Running) :
    Kept order { s with delivered := s.delivered ++ votes, running } ↔
      ∀ v ∈ votes, v ∈ (s.stored.canonical order).votes := by
  constructor
  · exact fun h v hv => h.votes v (List.mem_append_right _ hv)
  · exact fun h => ⟨hkept.readable, fun v hv => (List.mem_append.mp hv).elim (hkept.votes v) (h v), hkept.closed⟩

/-- A save keeps all votes and a closed round exactly if its copy is up to date. -/
theorem kept_save_iff (hkept : s.Kept order) (hsane : Sane s.delivered r) (hwrites : r.writes = w :: ws) :
    (s.save worker r w ws).Kept order ↔
      match w.saveErr with
      | some _ => ∀ v ∈ w.done, v ∈ (s.stored.canonical order).votes
      | none => s.UpToDate r w := by
  obtain ⟨hvotes, hdone⟩ := hsane.writes w (hwrites ▸ List.mem_cons_self)
  have hread : ∀ v, v ∈ (w.round.canonical order).votes ↔ _ := mem_votes_canonical_write hsane hvotes
  unfold SharedRound.save
  cases w.saveErr with
  | some err => exact kept_of_delivered_iff hkept _ _
  | none =>
    constructor
    · refine fun h => ⟨h.readable, fun v hv => ?_, fun v hv => ?_, fun hclosed => h.closed (by simp [hclosed])⟩
      · -- the vote is written as it is read
        rcases (hread v).mp (h.votes v (List.mem_append_right _ hv)) with hbase | hown
        · exact hsane.canonical v hbase
        · rw [hdone v hv] at hown
          exact Option.some.inj hown
      · exact (hread v).mp (h.votes v (List.mem_append_left _ (List.mem_of_mem_drop hv)))
    · refine fun h => ⟨h.readable, fun v hv => (hread v).mpr ?_, fun hclosed => ?_⟩
      · rcases List.mem_append.mp hv with hold | hnew
        · rw [← List.take_append_drop r.seen s.delivered, List.mem_append] at hold
          exact hold.elim (fun hearly => .inl (hsane.base v hearly)) (h.votes v)
        · exact .inr (by rw [hdone v hnew, Option.map_some, h.exact v hnew])
      · rcases Bool.or_eq_true_iff.mp hclosed with hbefore | hnow
        · exact h.closed hbefore
        · exact hnow

theorem kept_load_iff (hkept : s.Kept order) (worker : ℕ) (job : Job) :
    (s.step order (.load worker job)).Kept order ↔ s.Current order (.load worker job) := by
  unfold SharedRound.step Current
  dsimp only
  cases hbusy : s.busy worker with
  | true => exact iff_of_true hkept fun hidle => by cases hidle
  | false =>
    rw [if_neg Bool.false_ne_true]
    cases hload : job.load order s.stored with
    | error err =>
      refine (kept_of_delivered_iff hkept _ s.running).trans ⟨fun h _ _ _ v hv => ?_, fun h v hv => ?_⟩
      · exact h v (Option.mem_toList.mpr hv)
      · exact h rfl err rfl v (Option.mem_toList.mp hv)
    | ok round =>
      exact iff_of_true ⟨hkept.readable, hkept.votes, hkept.closed⟩ fun _ err herr => by cases herr

theorem kept_step_iff (hkept : s.Kept order) (hsane : s.AllSane) (o : Occurrence) :
    (s.step order o).Kept order ↔ s.Current order o := by
  cases o with
  | load worker job => exact kept_load_iff hkept worker job
  | save worker =>
    cases hr : s.running worker with
    | none =>
      have hsame : s.step order (.save worker) = s := by simp [SharedRound.step, hr]
      rw [hsame]
      exact iff_of_true hkept fun r w ws hr' => by rw [hr] at hr'; cases hr'
    | some r =>
      cases hwrites : r.writes with
      | nil =>
        have hsame : s.step order (.save worker) = s := by simp [SharedRound.step, hr, hwrites]
        rw [hsame]
        refine iff_of_true hkept fun r' w ws hr' hwrites' => ?_
        cases hr.symm.trans hr'
        rw [hwrites] at hwrites'
        cases hwrites'
      | cons w ws =>
        have hsave : s.step order (.save worker) = s.save worker r w ws := by simp [SharedRound.step, hr, hwrites]
        rw [hsave, kept_save_iff hkept (hsane worker r hr) hwrites]
        constructor
        · intro h r' w' ws' hr' hwrites'
          cases hr.symm.trans hr'
          cases hwrites.symm.trans hwrites'
          exact h
        · exact fun h => h r w ws hr hwrites

end Runs

section Sample

/-- A pass vote on the sample round. -/
def passPayload (validatorID family : String) : TaskVerificationVotePayload :=
  { roundID := sampleRound.roundID, validatorID, verdict := "pass", scoreBP := 7000, analyzerFamily := family }

def consumeVote (validatorID family : String) : Job :=
  .consumer sampleConsumer sampleEnv (passPayload validatorID family)

def syncVoteOf (validatorID family : String) : Job := .sync sampleEnv (passPayload validatorID family)

/-- The round with the votes of two of the three validators. -/
def twoVotes : TaskVerificationRound :=
  (sampleRound.recordVote ⟨"ka", .pass, 7000, "f1", 10, ∅⟩).recordVote ⟨"kb", .pass, 7000, "f2", 10, ∅⟩

/-- All deliveries of the workers have ended. -/
def Idle (workers : List ℕ) (s : SharedRound) : Prop := ∀ worker ∈ workers, s.busy worker = false

instance (workers : List ℕ) (s : SharedRound) : Decidable (s.Idle workers) :=
  inferInstanceAs (Decidable (∀ worker ∈ workers, _))

instance Kept.decidable (order : VoteSort) (s : SharedRound) : Decidable (s.Kept order) :=
  decidable_of_iff (s.stored.Readable ∧ (∀ v ∈ s.delivered, v ∈ (s.stored.canonical order).votes) ∧
    (s.closed = true → s.stored.isTerminal = true)) ⟨fun h => ⟨h.1, h.2.1, h.2.2⟩, fun h => ⟨h.1, h.2, h.3⟩⟩

def sampleStart (round : TaskVerificationRound) : SharedRound := start round (round.canonical sampleSort)

/-- Votes through both paths by three workers, one of them known when it comes again, and a fourth that fails unheard
    with a known vote. -/
def carefulRun : List Occurrence :=
  [.load 0 (consumeVote "kb" "f2"), .save 0, .load 1 (syncVoteOf "ka" "f1"), .load 0 (consumeVote "kb" "f2"), .save 1,
    .load 3 (.sync { sampleEnv with loadErr := some (.new "badger: closed") } (passPayload "ka" "f1")),
    .load 2 (consumeVote "kc" "f3"), .save 2, .save 2]

end Sample

end SharedRound

end aethernet.recognition
