import Aethernet.Consensus.Median
import Aethernet.Ocs.Arrivals

open golang aethernet event consensus transition

namespace aethernet.ocs

open consensus.VotingRound consensus.Ballot

/-- These votes, with their values kept or lost, are votes of distinct eligible voters whose last one brings
    the approval. -/
structure Approves (vr₀ : VotingRound) (src : ValidatorSetSource) (eventID : EventID) (V l : List Ballot) :
    Prop where
  rounds : 1 ≤ vr₀.config.maxRounds
  nodup : (l.map Ballot.voter).Nodup
  received : ∀ b ∈ l, Received V b
  eligible : ∀ b ∈ l, vr₀.Eligible eventID b.voter
  first : FirstDecides (decisionOf vr₀.config src) l true

variable (config : ConsensusConfig) (registry : Map consensus.AgentID Fingerprint)
  (committeeSource : Option (EventID → Option (Map consensus.AgentID Bool)))

namespace Engine

section Values

variable {vr₀ vr : VotingRound} {src : ValidatorSetSource} {eventID : EventID} {V l : List Ballot} {e : Engine}
  {arrivals : List Arrival}

theorem finalValue_eq_some_iff (hvoting : e.voting = some vr) (h : Keeps vr₀ src eventID V vr l)
    (v : UInt64) :
    e.finalValue eventID = some v ↔
      FirstDecides (decisionOf vr₀.config src) l true ∧ v = medianOf src l := by
  have hvalue : e.finalValue eventID =
      if (vr.recordOf eventID).finalized ∧ (vr.recordOf eventID).finalVerdict then
        some (vr.recordOf eventID).finalVerifiedValue else none := by
    rw [finalValue, hvoting, recordOf]
    cases hlookup : vr.records.lookup eventID with
    | none => simp [hlookup, newRecord]
    | some record => simp [hlookup]
  have htracks := h.holds.tracks
  rw [hvalue, ← h.setup.config]
  generalize vr.recordOf eventID = record at htracks
  rcases htracks.status with ⟨hopen, hundecided⟩ | ⟨hfinal, hfirst, hmedian⟩
  · rw [if_neg (by simp [hopen])]
    refine iff_of_false (by simp) ?_
    rintro ⟨hfirst, -⟩
    have hnone := hundecided l hfirst.ne_nil List.prefix_rfl
    rw [hfirst.decides] at hnone
    cases hnone
  · cases hverdict : record.finalVerdict with
    | false =>
      refine iff_of_false (by simp) ?_
      rintro ⟨hfirst', -⟩
      rw [hverdict] at hfirst
      cases hfirst.decides.symm.trans hfirst'.decides
    | true =>
      rw [hverdict] at hfirst hmedian
      rw [if_pos ⟨hfinal, rfl⟩, hmedian, if_pos rfl, Option.some.injEq]
      exact ⟨fun heq => ⟨hfirst, heq.symm⟩, fun heq => heq.2.symm⟩

theorem Starts.keeps (hset : vr₀.validatorSet = some src) (h : e.Starts vr₀ eventID) :
    ∃ vr, e.voting = some vr ∧ Keeps vr₀ src eventID V vr [] := by
  obtain ⟨vr, hvoting, hsetup, hfresh, hpersisted⟩ := h
  refine ⟨vr, hvoting, hsetup, .fresh (hsetup.validatorSet.trans hset) hfresh, by simp, by simp, by simp, ?_⟩
  intro voter verdict hvote
  rw [hpersisted voter] at hvote
  cases hvote

theorem exists_approves_of_finalValue (hset : vr₀.validatorSet = some src) (hstart : e.Starts vr₀ eventID)
    (hrun : e.Processes V eventID arrivals) {v : UInt64}
    (hvalue : (arrivals.foldl (arrive eventID) e).finalValue eventID = some v) :
    ∃ l, Approves vr₀ src eventID V l ∧ v = medianOf src l := by
  obtain ⟨-, hballots, -⟩ := hrun
  have hcounts : (arrivals.foldl (arrive eventID) e).Counts vr₀ src eventID V := by
    refine List.foldlRecOn arrivals (arrive eventID) ?_ ?_
    · obtain ⟨vr, hkeeps⟩ := hstart.keeps hset
      exact ⟨vr, [], hkeeps⟩
    · exact fun e he a ha => counts_arrive he (hballots a ha)
  obtain ⟨vr, l, hvoting, hkeeps⟩ := hcounts
  obtain ⟨hfirst, hmedian⟩ := (finalValue_eq_some_iff hvoting hkeeps v).mp hvalue
  exact ⟨l, ⟨hkeeps.rounds hfirst.ne_nil, hkeeps.holds.tracks.nodup, hkeeps.received, hkeeps.eligible, hfirst⟩,
    hmedian⟩

theorem exists_arrival {b : Ballot} (hb : Received V b) :
    ∃ a : Arrival, (∃ b₀ ∈ V, a.ballot? = some b₀) ∧ a.counted? = some b := by
  obtain ⟨⟨voter₀, verdict₀, value₀⟩, hmem, hvoter, hverdict, hvalue⟩ := hb
  obtain ⟨voter, verdict, value⟩ := b
  subst hvoter hverdict
  rcases hvalue with rfl | rfl
  · exact ⟨.registered _, ⟨_, hmem, rfl⟩, rfl⟩
  · exact ⟨.fromPeer _, ⟨_, hmem, rfl⟩, rfl⟩

theorem exists_arrive_append (hvoting : e.voting = some vr) (h : Keeps vr₀ src eventID V vr l)
    (hundecided : Undecided (decisionOf vr₀.config src) l) (hrounds : 1 ≤ vr₀.config.maxRounds) {b : Ballot}
    (hb : Received V b) (heligible : vr₀.Eligible eventID b.voter)
    (hnodup : ((l ++ [b]).map Ballot.voter).Nodup) :
    ∃ a : Arrival, (∃ b₀ ∈ V, a.ballot? = some b₀) ∧
      ∃ vr', (arrive eventID e a).voting = some vr' ∧ Keeps vr₀ src eventID V vr' (l ++ [b]) := by
  obtain ⟨a, hballot, hcounted⟩ := exists_arrival hb
  obtain ⟨vr', hvoting', ⟨-, hkeeps⟩ | ⟨hnot, -⟩⟩ := keeps_arrive_vote hvoting h hcounted hb
  · exact ⟨a, hballot, vr', hvoting', hkeeps⟩
  · refine absurd ⟨(h.setup.eligible eventID b.voter).mpr heligible, ?_, ?_, ?_⟩ hnot
    · rcases h.holds.tracks.status with ⟨hopen, -⟩ | ⟨-, hfirst, -⟩
      · exact hopen
      · have hnone := hundecided l hfirst.ne_nil List.prefix_rfl
        rw [← h.setup.config, hfirst.decides] at hnone
        cases hnone
    · rwa [h.holds.tracks.round, h.setup.config]
    · rw [h.holds.tracks.votes, mem_votesOf]
      exact (nodup_append_iff.mp hnodup).2

theorem exists_run_of_undecided (hset : vr₀.validatorSet = some src) (hstart : e.Starts vr₀ eventID)
    (hrounds : 1 ≤ vr₀.config.maxRounds) (hnodup : (l.map Ballot.voter).Nodup)
    (hreceived : ∀ b ∈ l, Received V b) (heligible : ∀ b ∈ l, vr₀.Eligible eventID b.voter)
    (hundecided : Undecided (decisionOf vr₀.config src) l) :
    ∃ arrivals : List Arrival, (∀ a ∈ arrivals, ∃ b₀ ∈ V, a.ballot? = some b₀) ∧
      ∃ vr, (arrivals.foldl (arrive eventID) e).voting = some vr ∧ Keeps vr₀ src eventID V vr l := by
  induction l using List.reverseRecOn with
  | nil => exact ⟨[], by simp, hstart.keeps hset⟩
  | append_singleton l b ih =>
    have hundecided : Undecided (decisionOf vr₀.config src) l :=
      fun p hne hp => hundecided p hne (hp.trans (List.prefix_append l [b]))
    obtain ⟨arrivals, hballots, vr, hvoting, hkeeps⟩ := ih (nodup_append_iff.mp hnodup).1
      (fun b' hb' => hreceived b' (List.mem_append_left _ hb'))
      (fun b' hb' => heligible b' (List.mem_append_left _ hb')) hundecided
    obtain ⟨a, hballot, vr', hvoting', hkeeps'⟩ := exists_arrive_append hvoting hkeeps hundecided hrounds
      (hreceived b (by simp)) (heligible b (by simp)) hnodup
    refine ⟨arrivals ++ [a], ?_, vr', ?_, hkeeps'⟩
    · simpa [or_imp, forall_and] using And.intro hballots hballot
    · rwa [List.foldl_append]

theorem keeps_arrive_of_firstDecides (hvoting : e.voting = some vr) (h : Keeps vr₀ src eventID V vr l)
    {d : Bool} (hfirst : FirstDecides (decisionOf vr₀.config src) l d) {ballots : List Ballot}
    (hballots : ∀ b ∈ ballots, b ∈ V) :
    ∃ vr', ((ballots.map Arrival.registered).foldl (arrive eventID) e).voting = some vr' ∧
      Keeps vr₀ src eventID V vr' l := by
  induction ballots generalizing e vr with
  | nil => exact ⟨vr, hvoting, h⟩
  | cons b ballots ih =>
    obtain ⟨hb, hrest⟩ := List.forall_mem_cons.mp hballots
    obtain ⟨vr', hvoting', ⟨haccepts, -⟩ | ⟨-, hkeeps⟩⟩ := keeps_arrive_vote hvoting h
      (a := .registered b) rfl ⟨b, hb, rfl, rfl, .inl rfl⟩
    · rcases h.holds.tracks.status with ⟨-, hundecided⟩ | ⟨hfinal, -⟩
      · have hnone := hundecided l hfirst.ne_nil List.prefix_rfl
        rw [h.setup.config, hfirst.decides] at hnone
        cases hnone
      · rw [haccepts.2.1] at hfinal
        cases hfinal
    · exact ih hvoting' hkeeps hrest

theorem meetsAlong_of_ballots (h : ∀ a ∈ arrivals, ∃ b ∈ V, a.ballot? = some b) :
    MeetsAlong (arrive eventID) Possible e arrivals := by
  induction arrivals generalizing e with
  | nil => trivial
  | cons a arrivals ih =>
    obtain ⟨⟨b, -, hb⟩, hrest⟩ := List.forall_mem_cons.mp h
    refine ⟨?_, ih hrest⟩
    cases a with
    | restart eventIDs voters => cases hb
    | registered b => trivial
    | processed b => trivial
    | fromPeer b => trivial

theorem exists_run_of_approves (hset : vr₀.validatorSet = some src) (hstart : e.Starts vr₀ eventID)
    (h : Approves vr₀ src eventID V l) :
    ∃ arrivals, e.Processes V eventID arrivals ∧
      (arrivals.foldl (arrive eventID) e).finalValue eventID = some (medianOf src l) := by
  have hfirst := h.first
  obtain ⟨p, b, rfl, hundecided, -⟩ := h.first
  obtain ⟨arrivals, hballots, vr, hvoting, hkeeps⟩ := exists_run_of_undecided hset hstart h.rounds
    (nodup_append_iff.mp h.nodup).1 (fun b' hb' => h.received b' (List.mem_append_left _ hb'))
    (fun b' hb' => h.eligible b' (List.mem_append_left _ hb')) hundecided
  obtain ⟨a, hballot, vr', hvoting', hkeeps'⟩ := exists_arrive_append hvoting hkeeps hundecided h.rounds
    (h.received b (by simp)) (h.eligible b (by simp)) h.nodup
  obtain ⟨vr'', hvoting'', hkeeps''⟩ := keeps_arrive_of_firstDecides hvoting' hkeeps' hfirst fun _ hb => hb
  -- the votes still missing follow after the approval
  have hall : ∀ a' ∈ arrivals ++ a :: V.map Arrival.registered, ∃ b₀ ∈ V, a'.ballot? = some b₀ := by
    intro a' ha'
    rcases List.mem_append.mp ha' with hmem | hmem
    · exact hballots a' hmem
    · rcases List.mem_cons.mp hmem with rfl | hmem
      · exact hballot
      · obtain ⟨b₀, hb₀, rfl⟩ := List.mem_map.mp hmem
        exact ⟨b₀, hb₀, rfl⟩
  refine ⟨arrivals ++ a :: V.map Arrival.registered, ⟨meetsAlong_of_ballots hall, ?_, ?_⟩, ?_⟩
  · intro a' ha' b' hb'
    obtain ⟨b₀, hb₀, heq⟩ := hall a' ha'
    cases heq.symm.trans hb'
    exact hb₀
  · exact fun b₀ hb₀ => ⟨.registered b₀, by simp [hb₀], rfl⟩
  · rw [List.foldl_append, List.foldl_cons]
    exact (finalValue_eq_some_iff hvoting'' hkeeps'' _).mpr ⟨hfirst, rfl⟩

theorem approves_withoutValues (h : Approves vr₀ src eventID V l) :
    Approves vr₀ src eventID V (l.map fun b => { b with value := 0 }) := by
  have hdecision : ∀ p : List Ballot, decisionOf vr₀.config src (p.map fun b => { b with value := 0 }) =
      decisionOf vr₀.config src p := by
    intro p
    simp [decisionOf, tallyOf, Function.comp_def]
  refine ⟨h.rounds, ?_, ?_, ?_, ?_⟩
  · rw [List.map_map]
    exact h.nodup
  · intro b hb
    obtain ⟨b', hb', rfl⟩ := List.mem_map.mp hb
    obtain ⟨b₀, hmem, hvoter, hverdict, -⟩ := h.received b' hb'
    exact ⟨b₀, hmem, hvoter, hverdict, .inr rfl⟩
  · intro b hb
    obtain ⟨b', hb', rfl⟩ := List.mem_map.mp hb
    exact h.eligible b' hb'
  · obtain ⟨p, b, rfl, hundecided, hdecides⟩ := h.first
    refine ⟨p.map fun b => { b with value := 0 }, { b with value := 0 }, by simp, ?_, ?_⟩
    · intro q hne hq
      obtain ⟨q', hq', rfl⟩ := List.prefix_map_iff.mp hq
      rw [hdecision]
      exact hundecided q' (by simpa using hne) hq'
    · rw [hdecision]
      exact hdecides

theorem medianOf_withoutValues (src : ValidatorSetSource) (l : List Ballot) :
    medianOf src (l.map fun b => { b with value := 0 }) = 0 := by
  rw [medianOf_eq_zero_iff]
  refine .inl fun b hb _ => ?_
  obtain ⟨b', -, rfl⟩ := List.mem_map.mp hb
  rfl

end Values

/-- A voting round bound to a snapshot, with no votes yet. -/
def boundRound (src : ValidatorSetSource) : VotingRound where
  config := config
  registry := registry
  committeeSource := committeeSource
  validatorSet := some src

/-- The nodes that process all of these votes and finalize the event with verdict true report one value
    exactly when they always report zero: in whatever order the votes come and whichever of them lose their
    value on the way, the approving ones without a value have the majority when the approval falls. -/
theorem finalValue_eq_iff (src : ValidatorSetSource) (eventID : EventID) (V : List Ballot) :
    (∀ (e₁ e₂ : Engine) (arrivals₁ arrivals₂ : List Arrival) (v₁ v₂ : UInt64),
      e₁.Starts (boundRound config registry committeeSource src) eventID →
      e₂.Starts (boundRound config registry committeeSource src) eventID →
      e₁.Processes V eventID arrivals₁ → e₂.Processes V eventID arrivals₂ →
      (arrivals₁.foldl (arrive eventID) e₁).finalValue eventID = some v₁ →
      (arrivals₂.foldl (arrive eventID) e₂).finalValue eventID = some v₂ → v₁ = v₂) ↔
    ∀ l, Approves (boundRound config registry committeeSource src) src eventID V l → ZeroMajority src l := by
  constructor
  · intro hagree l happroves
    -- one node counts these votes, another one the same votes without their values
    let e : Engine :=
      { config := ⟨0, 0⟩, voting := some (boundRound config registry committeeSource src) }
    have hstart : e.Starts (boundRound config registry committeeSource src) eventID :=
      ⟨_, rfl, .refl _, Finmap.notMem_empty, fun _ => rfl⟩
    obtain ⟨arrivals₁, hrun₁, hvalue₁⟩ := exists_run_of_approves rfl hstart happroves
    obtain ⟨arrivals₂, hrun₂, hvalue₂⟩ := exists_run_of_approves rfl hstart (approves_withoutValues happroves)
    rw [← medianOf_eq_zero_iff, hagree e e _ _ _ _ hstart hstart hrun₁ hrun₂ hvalue₁ hvalue₂,
      medianOf_withoutValues]
  · intro hzero e₁ e₂ arrivals₁ arrivals₂ v₁ v₂ hstart₁ hstart₂ hrun₁ hrun₂ hvalue₁ hvalue₂
    obtain ⟨l₁, happroves₁, rfl⟩ := exists_approves_of_finalValue rfl hstart₁ hrun₁ hvalue₁
    obtain ⟨l₂, happroves₂, rfl⟩ := exists_approves_of_finalValue rfl hstart₂ hrun₂ hvalue₂
    rw [(medianOf_eq_zero_iff src l₁).mpr (hzero l₁ happroves₁),
      (medianOf_eq_zero_iff src l₂).mpr (hzero l₂ happroves₂)]

def sampleSource : ValidatorSetSource where
  voteWeightByKey voter := if voter ∈ ["ka", "kb", "kc"] then some 10 else none
  setVersion := 1
  activeWeight := 30

def sampleRound : VotingRound :=
  boundRound { supermajorityThreshold := .exact (2 / 3), maxRounds := 10, minParticipants := 2 } ∅ none
    sampleSource

def sampleEngine : Engine where
  config := { maxPendingItems := 100, minStakeRequired := 0 }
  voting := some sampleRound

/-- Two approvals of the value 1000. The node of the first voter gets its own vote with the value and the
    other one from the peer; a third node gets both from peers. -/
theorem finalValue_ne_of_paths :
    let V : List Ballot := [⟨"ka", true, 1000⟩, ⟨"kb", true, 1000⟩]
    let own : List Arrival := [.processed ⟨"ka", true, 1000⟩, .fromPeer ⟨"kb", true, 1000⟩]
    let observer : List Arrival := [.fromPeer ⟨"ka", true, 1000⟩, .fromPeer ⟨"kb", true, 1000⟩]
    sampleEngine.Starts sampleRound "e" ∧
    (sampleEngine.Processes V "e" own ∧ sampleEngine.Processes V "e" observer) ∧
    (own.foldl (arrive "e") sampleEngine).finalValue "e" = some 1000 ∧
    (observer.foldl (arrive "e") sampleEngine).finalValue "e" = some 0 := by
  intro V own observer
  refine ⟨⟨_, rfl, .refl _, Finmap.notMem_empty, fun _ => rfl⟩, ⟨⟨⟨trivial, trivial, trivial⟩, ?_, ?_⟩,
    ⟨trivial, trivial, trivial⟩, ?_, ?_⟩, by decide +kernel, by decide +kernel⟩
  all_goals simp [own, observer, V, Arrival.ballot?]

end Engine

end aethernet.ocs
