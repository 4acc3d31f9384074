import Aethernet.Dag.Invariant
import Aethernet.ValidatorLifecycle.Events
import Aethernet.ValidatorLifecycle.Snapshot
import Aethernet.Transition.Invariant

open golang aethernet event validatorlifecycle Finmap

namespace aethernet.node

def isLifecycleEventType : EventType → Bool
  | .validatorGenesisSet | .validatorJoin | .validatorActivate | .validatorSuspend | .validatorResume
  | .validatorExit | .validatorKeyRotate | .validatorSlashApplied | .validatorRecoveryKeySet
  | .validatorEmergencySuspend | .validatorRecoveryRotate | .validatorRecoveryRotateCancel => true
  | _ => false

variable (sha256 : String → List UInt8) (state : ℕ × Reducer)

/-- The loop over an event's lifecycle events: errors are skipped, and the applied ones counted. -/
def applyEach (lcEvents : List LifecycleEvent) : ℕ × Reducer :=
  lcEvents.foldl (fun (applied, r) lc => match r.apply sha256 lc with
    | (.error _, r') => (applied, r')
    | (.ok (), r') => (applied + 1, r')) state

/-- A node's DAG, its validator set, and the snapshot its voting round is bound to. -/
structure Node where
  dag : dag.DAG := {}
  reducer : Reducer := {}
  validatorSet : Option ValidatorSnapshot := none

variable (ev : Event)

def applyLifecycleEventFromSync (n : Node) : Node :=
  match extractLifecycleEvent ev with
  | .error _ => n
  | .ok lcEvents =>
    let (applied, reducer) := applyEach sha256 (0, n.reducer) lcEvents
    { n with
      reducer := reducer
      validatorSet := if 0 < applied then some reducer.snapshot else n.validatorSet }

/-- The arrival of an event: `Add` checks and stores it, and the sync handler gets a new one.
    `call.1` is the answer of the event store. -/
def receive (c : Crypto) (n : Node) (call : Option Error × Event) : Node :=
  match n.dag.add c call.1 call.2 with
  | (.error _, dag) => { n with dag := dag }
  | (.ok (), dag) =>
    if isLifecycleEventType call.2.type then
      applyLifecycleEventFromSync c.sha256 call.2 { n with dag := dag }
    else { n with dag := dag }

/-- The comparison of `sortEventsByCausalTS`: the timestamp, then the ID. -/
def sortsBefore (ev' : Event) : Bool :=
  ev.causalTimestamp < ev'.causalTimestamp ∨
    (ev.causalTimestamp = ev'.causalTimestamp ∧ ev.id < ev'.id)

/-- The inner loop of `sortEventsByCausalTS`, on the sorted part of the slice read backwards: the event
    moves towards the front past every event it sorts before. -/
def sink (ev : Event) : List Event → List Event
  | [] => [ev]
  | prev :: rest => if sortsBefore ev prev then prev :: sink ev rest else ev :: prev :: rest

def sortEventsByCausalTS (events : List Event) : List Event :=
  (events.foldl (fun sorted ev => sink ev sorted) []).reverse

/-- One round of the loop of `replayLifecycleEventsFromDAG`. -/
def replayEvent : ℕ × Reducer :=
  if !isLifecycleEventType ev.type then state
  else match extractLifecycleEvent ev with
    | .error _ => state
    | .ok lcEvents => applyEach sha256 state lcEvents

/-- `replayLifecycleEventsFromDAG`, with the number of events it applied; `allEvents` is the answer of
    the DAG's `All`. -/
def replayLifecycleEventsFromDAG (allEvents : List Event) (r : Reducer) : ℕ × Reducer :=
  (sortEventsByCausalTS allEvents).foldl (replayEvent sha256) (0, r)

variable (ev ev' : Event) (events : List Event)

section Ordering

/-- What `sortEventsByCausalTS` sorts by. -/
def sortKey : ℕ ×ₗ String := toLex (ev.causalTimestamp.toNat, ev.id)

theorem sortsBefore_iff : sortsBefore ev ev' = true ↔ sortKey ev < sortKey ev' := by
  simp [sortsBefore, sortKey, Prod.Lex.toLex_lt_toLex, UInt64.lt_iff_toNat_lt, UInt64.toNat_inj]

def sinksTo : Prop := sortKey ev' ≤ sortKey ev

instance : DecidableRel sinksTo := fun ev ev' => inferInstanceAs (Decidable (sortKey ev' ≤ sortKey ev))

instance : Std.Total sinksTo := ⟨fun ev ev' => le_total (sortKey ev') (sortKey ev)⟩

instance : IsTrans Event sinksTo := ⟨fun _ _ _ h h' => le_trans h' h⟩

theorem sink_eq_orderedInsert (sorted : List Event) : sink ev sorted = sorted.orderedInsert sinksTo ev := by
  induction sorted with
  | nil => rfl
  | cons prev rest ih =>
    rw [sink, List.orderedInsert_cons, ih]
    by_cases hbefore : sortsBefore ev prev = true
    · have hnot : ¬ sinksTo ev prev := not_le.mpr ((sortsBefore_iff ev prev).mp hbefore)
      rw [if_pos hbefore, if_neg hnot]
    · have hsinks : sinksTo ev prev := not_lt.mp fun hlt => hbefore ((sortsBefore_iff ev prev).mpr hlt)
      rw [if_neg hbefore, if_pos hsinks]

theorem sortEventsByCausalTS_eq : sortEventsByCausalTS events = (events.reverse.insertionSort sinksTo).reverse := by
  rw [sortEventsByCausalTS, List.insertionSort, List.foldr_reverse]
  congr 2
  funext sorted ev
  exact sink_eq_orderedInsert ev sorted

theorem sortEventsByCausalTS_perm : (sortEventsByCausalTS events).Perm events := by
  rw [sortEventsByCausalTS_eq]
  exact ((List.reverse_perm _).trans (List.perm_insertionSort sinksTo _)).trans (List.reverse_perm _)

theorem sortEventsByCausalTS_sorted :
    (sortEventsByCausalTS events).Pairwise fun ev ev' => sortKey ev ≤ sortKey ev' := by
  rw [sortEventsByCausalTS_eq, List.pairwise_reverse]
  exact List.pairwise_insertionSort sinksTo _

end Ordering

section Replay

variable (sha256 : String → List UInt8) {ev : Event}

def isReplayed (ev : Event) : Bool :=
  isLifecycleEventType ev.type && (extractLifecycleEvent ev).isOk

theorem replayEvent_of_not_isReplayed (h : isReplayed ev = false) (state : ℕ × Reducer) :
    replayEvent sha256 state ev = state := by
  unfold replayEvent
  cases htype : isLifecycleEventType ev.type with
  | false => rfl
  | true =>
    cases hextract : extractLifecycleEvent ev with
    | error err => rfl
    | ok lcEvents => exact absurd h (by simp [isReplayed, htype, hextract, Except.isOk, Except.toBool])

theorem foldl_replayEvent_filter (events : List Event) (state : ℕ × Reducer) :
    (events.filter isReplayed).foldl (replayEvent sha256) state =
      events.foldl (replayEvent sha256) state := by
  rw [List.foldl_filter]
  congr 1
  funext state ev
  cases h : isReplayed ev with
  | false => rw [if_neg (by simp), replayEvent_of_not_isReplayed sha256 h]
  | true => rw [if_pos rfl]

theorem applyEach_snd (lcEvents : List LifecycleEvent) (applied : ℕ) (r : Reducer) :
    (applyEach sha256 (applied, r) lcEvents).2 = (applyEach sha256 (0, r) lcEvents).2 := by
  have hgeneral : ∀ n m : ℕ, ∀ r : Reducer,
      (applyEach sha256 (n, r) lcEvents).2 = (applyEach sha256 (m, r) lcEvents).2 := by
    induction lcEvents with
    | nil => exact fun _ _ _ => rfl
    | cons lc lcEvents ih =>
      intro n m r
      simp only [applyEach, List.foldl_cons]
      rcases r.apply sha256 lc with ⟨_ | _, r'⟩
      · exact ih n m r'
      · exact ih (n + 1) (m + 1) r'
  exact hgeneral applied 0 r

theorem applyLifecycleEventFromSync_reducer (htype : isLifecycleEventType ev.type = true) (n : Node) (applied : ℕ) :
    (applyLifecycleEventFromSync sha256 ev n).reducer = (replayEvent sha256 (applied, n.reducer) ev).2 := by
  rw [replayEvent, htype, applyLifecycleEventFromSync]
  cases extractLifecycleEvent ev with
  | error err => rfl
  | ok lcEvents => exact (applyEach_snd sha256 lcEvents applied n.reducer).symm

end Replay

theorem filter_sortEventsByCausalTS_of_last {events events' : List Event} {ev : Event}
    (hperm : events'.Perm (ev :: events))
    (hids : ∀ a ∈ events', ∀ b ∈ events', a.id = b.id → a = b)
    (hlast : isReplayed ev = true → ∀ a ∈ events, isReplayed a = true → sortsBefore a ev = true) :
    (sortEventsByCausalTS events').filter isReplayed =
      (sortEventsByCausalTS events ++ [ev]).filter isReplayed := by
  have hsorted := sortEventsByCausalTS_perm events
  have hsorted' := sortEventsByCausalTS_perm events'
  have hboth : (sortEventsByCausalTS events').Perm (sortEventsByCausalTS events ++ [ev]) :=
    (hsorted'.trans hperm).trans ((hsorted.symm.cons ev).trans (List.perm_append_singleton ev _).symm)
  have hmem : ∀ a ∈ (sortEventsByCausalTS events').filter isReplayed, a ∈ events' := fun a ha =>
    hsorted'.subset (List.mem_of_mem_filter ha)
  refine List.Perm.eq_of_pairwise ?_ ((sortEventsByCausalTS_sorted events').filter _) ?_ (hboth.filter _)
  · intro a b ha hb hle hge
    have hkey : sortKey a = sortKey b := le_antisymm hle hge
    exact hids a (hmem a ha) b (hmem b ((hboth.filter _).symm.subset hb))
      (congrArg (fun key => (ofLex key).2) hkey)
  · rw [List.filter_append, List.pairwise_append]
    refine ⟨(sortEventsByCausalTS_sorted events).filter _, (List.pairwise_singleton _ _).filter _, ?_⟩
    intro a ha b hb
    obtain ⟨ha, hreplayed⟩ := List.mem_filter.mp ha
    obtain ⟨hb, hlive⟩ := List.mem_filter.mp hb
    cases List.mem_singleton.mp hb
    exact ((sortsBefore_iff a ev).mp (hlast hlive a (hsorted.subset ha) hreplayed)).le

/-- The reducer is what a restart would replay from the seed `r₀`, in whatever order the DAG lists its
    events. -/
structure Replays (c : Crypto) (r₀ : Reducer) (n : Node) : Prop where
  rep : n.dag.Rep
  replay : ∀ allEvents, n.dag.events.Visits allEvents →
    (replayLifecycleEventsFromDAG c.sha256 allEvents r₀).2 = n.reducer

/-- An event that passes the checks of `Add` and touches the reducer sorts after all stored events that
    touch it. -/
def InOrder (c : Crypto) (n : Node) (call : Option Error × Event) : Prop :=
  n.dag.Accepts c call.2 → isReplayed call.2 = true →
    ∀ id ev, n.dag.events.lookup id = some ev → isReplayed ev = true → sortsBefore ev call.2 = true

theorem Replays.start (c : Crypto) (r₀ : Reducer) (store : Option (Map EventID Event)) :
    Replays c r₀ { dag := { store := store }, reducer := r₀ } where
  rep := .empty store
  replay allEvents hvisits := by
    have hnil : allEvents = [] := by
      rw [← Multiset.coe_eq_zero]
      exact hvisits
    subst hnil
    rfl

variable {c : Crypto} {n : Node} {call : Option Error × Event}

theorem receive_of_accepts (hok : (n.dag.add c call.1 call.2).1 = .ok ()) (applied : ℕ) :
    (receive c n call).dag = (n.dag.add c call.1 call.2).2 ∧
    (receive c n call).reducer = (replayEvent c.sha256 (applied, n.reducer) call.2).2 := by
  unfold receive
  rcases hadd : n.dag.add c call.1 call.2 with ⟨_ | ⟨⟨⟩⟩, dag⟩
  · rw [hadd] at hok
    cases hok
  · cases htype : isLifecycleEventType call.2.type with
    | false =>
      refine ⟨rfl, ?_⟩
      rw [replayEvent, htype]
      rfl
    | true =>
      refine ⟨?_, applyLifecycleEventFromSync_reducer c.sha256 htype { n with dag := dag } applied⟩
      simp only [if_true, applyLifecycleEventFromSync]
      cases extractLifecycleEvent call.2 <;> rfl

theorem receive_of_error {err : Error} (herr : (n.dag.add c call.1 call.2).1 = .error err) :
    receive c n call = { n with dag := (n.dag.add c call.1 call.2).2 } := by
  unfold receive
  rcases hadd : n.dag.add c call.1 call.2 with ⟨_ | _, dag⟩
  · rfl
  · rw [hadd] at herr
    cases herr

theorem Replays.receive {r₀ : Reducer} (h : Replays c r₀ n) (horder : InOrder c n call) :
    Replays c r₀ (receive c n call) := by
  obtain ⟨⟨err, herr⟩, -, hsame⟩ | ⟨hok, haccepts, hcommit⟩ := dag.DAG.add_cases c call.1 call.2 n.dag
  · rw [receive_of_error herr, hsame]
    exact h
  · have hevents : (n.dag.add c call.1 call.2).2.events = n.dag.events.insert call.2.id call.2 := by
      rw [hcommit, dag.DAG.putEvent_events, dag.DAG.commit_events]
    have hrep : (n.dag.add c call.1 call.2).2.Rep := h.rep.add c call.1 call.2
    refine ⟨(receive_of_accepts hok 0).1 ▸ hrep, ?_⟩
    intro allEvents hvisits
    rw [(receive_of_accepts hok 0).1, hevents] at hvisits
    obtain ⟨before, hbefore⟩ := n.dag.events.exists_visits
    have hperm : allEvents.Perm (call.2 :: before) := hvisits.perm (hbefore.insert call.2 haccepts.1)
    have hids : ∀ a ∈ allEvents, ∀ b ∈ allEvents, a.id = b.id → a = b := by
      intro a ha b hb hid
      rw [hvisits.mem_iff, ← hevents] at ha hb
      obtain ⟨key, ha⟩ := ha
      obtain ⟨key', hb⟩ := hb
      have hkeys : key = key' := by rw [← hrep.keyed key a ha, ← hrep.keyed key' b hb, hid]
      subst hkeys
      exact Option.some.inj (ha.symm.trans hb)
    have hlast := filter_sortEventsByCausalTS_of_last hperm hids fun hlive a ha hreplayed => by
      obtain ⟨key, ha⟩ := (hbefore.mem_iff a).mp ha
      exact horder haccepts hlive key a ha hreplayed
    -- the replay runs the old events as before and then the new one
    have hold := h.replay before hbefore
    rw [replayLifecycleEventsFromDAG] at hold ⊢
    rw [← foldl_replayEvent_filter, hlast, foldl_replayEvent_filter, List.foldl_append, List.foldl_cons,
      List.foldl_nil, (receive_of_accepts hok _).2, ← hold]

/-- Whatever arrives at a node that was seeded with `r₀`, as long as each event that touches the reducer
    arrives after all that sort before it: a restart, which replays the DAG's events in the order of
    their timestamps and IDs from the same seed, ends with the same validator set. -/
theorem replay_eq_live_of_inOrder (c : Crypto) (r₀ : Reducer) (store : Option (Map EventID Event))
    (calls : List (Option Error × Event))
    (horder : transition.MeetsAlong (receive c) (InOrder c)
      { dag := { store := store }, reducer := r₀ } calls)
    (allEvents : List Event)
    (hvisits : (calls.foldl (receive c)
      { dag := { store := store }, reducer := r₀ }).dag.events.Visits allEvents) :
    (replayLifecycleEventsFromDAG c.sha256 allEvents r₀).2 =
      (calls.foldl (receive c) { dag := { store := store }, reducer := r₀ }).reducer := by
  have hreplays := transition.invariant_of_meetsAlong (P := Replays c r₀) (Replays.start c r₀ store)
    (fun n call h hcall => h.receive hcall) horder
  exact hreplays.replay allEvents hvisits

/-- A stand-in for the cryptography in which the hash of a text is its size and every signature of the
    right length is good. -/
def sizeHashed : Crypto where
  sha256 text := [UInt8.ofNat text.utf8ByteSize]
  ed25519Verify _ _ _ := true
  number literal := .ok literal

/-- A signed root event by which a validator joins, at timestamp 1. -/
def joinEvent (id : EventID) (validatorID : ValidatorID) : Event where
  id := id
  type := .validatorJoin
  payload := .document (.obj
    [("v", .num "1"), ("validator_id", .str validatorID), ("operator_agent_id", .str "agent"),
      ("consensus_public_key", .str validatorID), ("key_epoch", .num "1"),
      ("bonded_stake", .num "10000000000"), ("effective_from_version", .num "1")])
  agentID := "0000000000000000000000000000000000000000000000000000000000000000"
  signature := List.replicate 64 0

/-- Two joins at the same timestamp that arrive in the order of their IDs. -/
theorem replay_eq_live_of_inOrder_twoJoins :
    (replayLifecycleEventsFromDAG sizeHashed.sha256 [joinEvent "3f" "vv", joinEvent "3d" "v"] {}).2 =
      ([(none, joinEvent "3d" "v"), (none, joinEvent "3f" "vv")].foldl (receive sizeHashed)
        { dag := { store := none }, reducer := {} }).reducer := by
  refine replay_eq_live_of_inOrder sizeHashed {} none
    [(none, joinEvent "3d" "v"), (none, joinEvent "3f" "vv")] ⟨?_, ?_, trivial⟩ _ ?_
  · intro _ _ id ev hlookup
    exact absurd hlookup (by simp)
  · intro _ _ id ev hlookup _
    change ((∅ : Map EventID Event).insert "3d" (joinEvent "3d" "v")).lookup id = some ev at hlookup
    rw [lookup_insert_eq] at hlookup
    split_ifs at hlookup
    · cases hlookup
      decide
    · simp at hlookup
  · have hfirst : Visits ((∅ : Map EventID Event).insert "3d" (joinEvent "3d" "v"))
        [joinEvent "3d" "v"] := Visits.empty.insert _ notMem_empty
    exact hfirst.insert (joinEvent "3f" "vv") (k := "3f") (by decide)

/-- The same two joins, both under their hashes, in the other order: the seat that arrives second keeps
    version 2, and gets version 1 after a restart. -/
theorem replay_ne_live_of_equal_timestamps :
    (computeID sizeHashed (joinEvent "3d" "v")).toOption = some "3d" ∧
    (computeID sizeHashed (joinEvent "3f" "vv")).toOption = some "3f" ∧
    let live := [(none, joinEvent "3f" "vv"), (none, joinEvent "3d" "v")].foldl (receive sizeHashed) {}
    live.dag.events.Visits [joinEvent "3d" "v", joinEvent "3f" "vv"] ∧
    (replayLifecycleEventsFromDAG sizeHashed.sha256
      [joinEvent "3d" "v", joinEvent "3f" "vv"] {}).2 ≠ live.reducer := by
  refine ⟨by decide +kernel, by decide +kernel, ?_, ?_⟩
  · have hfirst : Visits ((∅ : Map EventID Event).insert "3f" (joinEvent "3f" "vv"))
        [joinEvent "3f" "vv"] := Visits.empty.insert _ notMem_empty
    exact hfirst.insert (joinEvent "3d" "v") (k := "3d") (by decide)
  · intro heq
    have hversion := congrArg (fun r => (r.seats.lookup "v").map (·.effectiveFromVersion)) heq
    exact absurd hversion (by decide +kernel)

end aethernet.node
