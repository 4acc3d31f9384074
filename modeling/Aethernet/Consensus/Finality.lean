import Aethernet.Consensus.Finalization
import Aethernet.Transition.Invariant

open golang aethernet.event transition Finmap

namespace aethernet.consensus

inductive VotingCall where
  | registerVote (eventID : EventID) (ballot : Ballot)
  | tallyVotes (eventID : EventID)
  | markCallbackFired (eventID : EventID)
  | setValidatorSet (vs : Option ValidatorSetSource)

namespace VotingCall

def eventID : VotingCall → Option EventID
  | registerVote eventID _ | tallyVotes eventID | markCallbackFired eventID => some eventID
  | setValidatorSet _ => none

/-- The round after the call. -/
def next (vr : VotingRound) : VotingCall → VotingRound
  | registerVote eventID b => (vr.registerVote eventID b.voter b.verdict b.value).2
  | tallyVotes eventID => (vr.tallyVotes eventID).2
  | markCallbackFired eventID => (vr.markCallbackFired eventID).2
  | setValidatorSet vs => { vr with validatorSet := vs }

/-- `MarkCallbackFired` returns true. -/
def fires (vr : VotingRound) : VotingCall → Bool
  | markCallbackFired eventID => (vr.markCallbackFired eventID).1
  | _ => false

end VotingCall

/-- What does not change any more in a record that is finalized or has no round left. -/
structure VoteRecord.Kept (record record' : VoteRecord) : Prop where
  finalized : record'.finalized = record.finalized
  round : record'.round = record.round
  votes : record'.votes = record.votes
  finalVerdict : record'.finalVerdict = record.finalVerdict
  finalVerifiedValue : record'.finalVerifiedValue = record.finalVerifiedValue
  finalOrder : record'.finalOrder = record.finalOrder

theorem VoteRecord.Kept.refl (record : VoteRecord) : Kept record record := ⟨rfl, rfl, rfl, rfl, rfl, rfl⟩

namespace VotingRound

open VoteRecord

def Closed (vr : VotingRound) (id : EventID) : Prop :=
  (vr.recordOf id).finalized = true ∨ vr.config.maxRounds < (vr.recordOf id).round

/-- What one call does: a closed record is kept, and at most the record of the event of the call is finalized, in time
    and with the next number. -/
structure Effect (id? : Option EventID) (vr vr' : VotingRound) : Prop where
  config : vr'.config = vr.config
  kept : ∀ id, vr.Closed id → Kept (vr.recordOf id) (vr'.recordOf id)
  order : (vr'.orderSeq = vr.orderSeq ∧ ∀ id, (vr'.recordOf id).finalized = (vr.recordOf id).finalized) ∨
    ∃ id, id? = some id ∧ ¬ vr.Closed id ∧ (vr'.recordOf id).finalized = true ∧
      (vr'.recordOf id).round ≤ vr.config.maxRounds ∧ (vr'.recordOf id).finalOrder = vr.orderSeq + 1 ∧
      vr'.orderSeq = vr.orderSeq + 1 ∧ ∀ id' ≠ id, (vr'.recordOf id').finalized = (vr.recordOf id').finalized

variable {vr vr' : VotingRound} {id : EventID} {record : VoteRecord}

theorem kept_of_lookup (hlookup : vr'.records.lookup id = vr.records.lookup id) :
    Kept (vr.recordOf id) (vr'.recordOf id) := by
  rw [recordOf, recordOf, hlookup]
  cases vr.records.lookup id with
  | none => exact ⟨rfl, rfl, rfl, rfl, rfl, rfl⟩
  | some record => exact .refl record

theorem kept_insert (h : Kept (vr.recordOf id) record) (id' : EventID) :
    Kept (vr.recordOf id') (recordOf { vr with records := vr.records.insert id record } id') := by
  by_cases hid : id' = id
  · rwa [hid, recordOf_insert]
  · exact kept_of_lookup (lookup_insert_of_ne _ hid)

theorem Effect.of_kept {id? : Option EventID} (hconfig : vr'.config = vr.config) (horder : vr'.orderSeq = vr.orderSeq)
    (hkept : ∀ id, Kept (vr.recordOf id) (vr'.recordOf id)) : Effect id? vr vr' :=
  ⟨hconfig, fun id _ => hkept id, .inl ⟨horder, fun id => (hkept id).finalized⟩⟩

theorem orderSeq_tallyVotesLocked (advanceRound : Bool) (hopen : record.finalized = false)
    (hrounds : record.round ≤ vr.config.maxRounds) {after : VoteRecord × VotingRound}
    (hafter : tallyVotesLocked advanceRound record vr = after) :
    (after.1.finalized = false ∧ after.2.orderSeq = vr.orderSeq) ∨
      (after.1.finalized = true ∧ after.1.round = record.round ∧ after.1.finalOrder = vr.orderSeq + 1 ∧
        after.2.orderSeq = vr.orderSeq + 1) := by
  simp only [tallyVotesLocked, hopen, Bool.false_eq_true, if_false, UInt64.not_lt.mpr hrounds] at hafter
  split at hafter
  · exact .inr (hafter ▸ ⟨rfl, rfl, rfl, rfl⟩)
  · exact .inl (hafter ▸ ⟨rfl, rfl⟩)

theorem effect_tallyRecord {before : VotingRound} (advanceRound : Bool) (hopen : ¬ vr.Closed id)
    (hfinalized : record.finalized = (vr.recordOf id).finalized) (hround : record.round = (vr.recordOf id).round)
    (hconfig : before.config = vr.config) (horder : before.orderSeq = vr.orderSeq)
    (hrecords : ∀ id' ≠ id, before.records.lookup id' = vr.records.lookup id') :
    Effect (some id) vr (tallyRecord advanceRound id record before) := by
  obtain ⟨hstill, hrounds⟩ := not_or.mp hopen
  rw [← hfinalized, Bool.not_eq_true] at hstill
  rw [← hround, ← hconfig, UInt64.not_lt] at hrounds
  obtain ⟨hsetup, hsame⟩ := sameSetup_tallyVotesLocked advanceRound record before
  have hothers : ∀ id' ≠ id, Kept (vr.recordOf id') ((tallyRecord advanceRound id record before).recordOf id') := by
    intro id' hne
    refine kept_of_lookup ?_
    rw [tallyRecord, lookup_insert_of_ne _ hne, hsame, hrecords id' hne]
  have hafter : (tallyRecord advanceRound id record before).recordOf id =
      (tallyVotesLocked advanceRound record before).1 := recordOf_insert _ id _
  refine ⟨hsetup.config.trans hconfig, fun id' hclosed => hothers id' (by rintro rfl; exact hopen hclosed), ?_⟩
  rw [← horder]
  obtain ⟨hnone, hseq⟩ | ⟨hfinal, hkeeps, hnumber, hseq⟩ := orderSeq_tallyVotesLocked advanceRound hstill hrounds rfl
  · refine .inl ⟨hseq, fun id' => ?_⟩
    by_cases hid : id' = id
    · rw [hid, hafter, hnone, ← hfinalized, hstill]
    · exact (hothers id' hid).finalized
  · refine .inr ⟨id, rfl, hopen, ?_⟩
    rw [hafter, hkeeps, ← hconfig]
    exact ⟨hfinal, hrounds, hnumber, hseq, fun id' hne => (hothers id' hne).finalized⟩

theorem effect_tallyVotes (id : EventID) (vr : VotingRound) : Effect (some id) vr (vr.tallyVotes id).2 := by
  unfold tallyVotes
  cases hlookup : vr.records.lookup id with
  | none => exact .of_kept rfl rfl fun _ => kept_of_lookup rfl
  | some record =>
    obtain rfl : vr.recordOf id = record := by rw [recordOf, hlookup, Option.getD_some]
    by_cases hclosed : vr.Closed id
    · have hsame : tallyVotesLocked true (vr.recordOf id) vr = (vr.recordOf id, vr) := by
        unfold tallyVotesLocked
        rcases hclosed with hfinal | hlate
        · rw [if_pos hfinal]
        · rw [if_pos hlate, ite_self]
      simp only [tallyRecord, hsame]
      exact .of_kept rfl rfl (kept_insert (.refl _))
    · exact effect_tallyRecord true hclosed rfl rfl rfl rfl fun _ _ => rfl

theorem markCallbackFired_cases (id : EventID) (vr : VotingRound) :
    vr.markCallbackFired id = (false, vr) ∨ (vr.recordOf id).callbackFired = false ∧ vr.markCallbackFired id =
      (true, { vr with records := vr.records.insert id { vr.recordOf id with callbackFired := true } }) := by
  unfold markCallbackFired
  cases hlookup : vr.records.lookup id with
  | none => exact .inl rfl
  | some record =>
    obtain rfl : vr.recordOf id = record := by rw [recordOf, hlookup, Option.getD_some]
    by_cases hfired : !(vr.recordOf id).finalized ∨ (vr.recordOf id).callbackFired
    · exact .inl (if_pos hfired)
    · exact .inr ⟨by simpa using (not_or.mp hfired).2, if_neg hfired⟩

theorem effect_next (call : VotingCall) (vr : VotingRound) : Effect call.eventID vr (call.next vr) := by
  cases call with
  | registerVote id b =>
    dsimp only [VotingCall.next]
    obtain ⟨-, -, hsame | hopened⟩ | ⟨haccepts, hregister⟩ := registerVote_cases id b vr
    · rw [hsame]
      exact .of_kept rfl rfl fun _ => .refl _
    · rw [hopened]
      exact .of_kept rfl rfl (kept_insert (.refl _))
    · rw [hregister]
      refine effect_tallyRecord false ?_ rfl rfl rfl rfl fun id' hne => lookup_insert_of_ne _ hne
      rw [Closed, haccepts.2.1]
      exact fun h => h.elim nofun (UInt64.not_lt.mpr haccepts.2.2.1)
  | tallyVotes id => exact effect_tallyVotes id vr
  | markCallbackFired id =>
    dsimp only [VotingCall.next]
    obtain hsame | ⟨-, hmarked⟩ := markCallbackFired_cases id vr
    · rw [hsame]
      exact .of_kept rfl rfl fun _ => .refl _
    · rw [hmarked]
      exact .of_kept rfl rfl (kept_insert ⟨rfl, rfl, rfl, rfl, rfl, rfl⟩)
  | setValidatorSet vs => exact .of_kept rfl rfl fun _ => kept_of_lookup rfl

theorem kept_foldl (calls : List VotingCall) (hclosed : vr.Closed id) :
    Kept (vr.recordOf id) ((calls.foldl VotingCall.next vr).recordOf id) := by
  induction calls generalizing vr with
  | nil => exact .refl _
  | cons call calls ih =>
    have heffect := effect_next call vr
    have hfirst := heffect.kept id hclosed
    have hlater : Kept ((call.next vr).recordOf id) _ := ih (by
      rwa [Closed, hfirst.finalized, hfirst.round, heffect.config])
    exact ⟨hlater.finalized.trans hfirst.finalized, hlater.round.trans hfirst.round, hlater.votes.trans hfirst.votes,
      hlater.finalVerdict.trans hfirst.finalVerdict, hlater.finalVerifiedValue.trans hfirst.finalVerifiedValue,
      hlater.finalOrder.trans hfirst.finalOrder⟩

theorem callbackFired_next (call : VotingCall) (hfired : (vr.recordOf id).callbackFired = true) :
    ((call.next vr).recordOf id).callbackFired = true := by
  cases call with
  | registerVote id' b => exact (callbackFired_registerVote id).trans hfired
  | tallyVotes id' => exact (callbackFired_tallyVotes id).trans hfired
  | markCallbackFired id' =>
    dsimp only [VotingCall.next]
    obtain hsame | ⟨-, hmarked⟩ := markCallbackFired_cases id' vr
    · rwa [hsame]
    · rw [hmarked]
      by_cases hid : id = id'
      · rw [hid, recordOf_insert]
      · rwa [recordOf, lookup_insert_of_ne _ hid]
  | setValidatorSet vs =>
    unfold VotingCall.next recordOf at *
    cases hlookup : vr.records.lookup id <;> simp_all [newRecord]

end VotingRound

open VotingRound

/-- A run so far: the round, the events in the order in which they were finalized, and those for which
    `MarkCallbackFired` returned true. -/
structure History where
  round : VotingRound
  finalizations : List EventID := []
  fired : List EventID := []

namespace History

def step (h : History) (call : VotingCall) : History where
  round := call.next h.round
  finalizations := h.finalizations ++ call.eventID.toList.filter fun id =>
    ((call.next h.round).recordOf id).finalized && !(h.round.recordOf id).finalized
  fired := h.fired ++ call.eventID.toList.filter fun _ => call.fires h.round

/-- The run of these calls on a new round. -/
def run (vr : VotingRound) (calls : List VotingCall) : History :=
  calls.foldl step { round := { vr with records := ∅, orderSeq := 0 } }

structure Sound (h : History) : Prop where
  orderSeq : h.round.orderSeq = UInt64.ofNat h.finalizations.length
  finalized : ∀ id, id ∈ h.finalizations ↔ (h.round.recordOf id).finalized = true
  nodup : h.finalizations.Nodup
  numbered : (h.finalizations.map fun id => (h.round.recordOf id).finalOrder) =
    (List.range h.finalizations.length).map fun i => UInt64.ofNat (i + 1)
  inTime : ∀ id ∈ h.finalizations, (h.round.recordOf id).round ≤ h.round.config.maxRounds
  firedOnce : h.fired.Nodup
  fired : ∀ id ∈ h.fired, (h.round.recordOf id).callbackFired = true

variable {h : History} {call : VotingCall}

theorem Sound.fired_step (hsound : h.Sound) : (h.step call).fired.Nodup ∧
    ∀ id ∈ (h.step call).fired, ((h.step call).round.recordOf id).callbackFired = true := by
  have hstays : ∀ id ∈ h.fired, ((call.next h.round).recordOf id).callbackFired = true :=
    fun id hid => callbackFired_next call (hsound.fired id hid)
  cases hfires : call.fires h.round with
  | false =>
    simp only [History.step, hfires, List.filter_false, List.append_nil]
    exact ⟨hsound.firedOnce, hstays⟩
  | true =>
    cases call with
    | markCallbackFired id =>
      obtain hsame | ⟨hfirst, hmarked⟩ := markCallbackFired_cases id h.round
      · rw [VotingCall.fires, hsame] at hfires
        cases hfires
      · simp only [History.step, hfires, VotingCall.eventID, Option.toList_some, List.filter_true]
        refine ⟨hsound.firedOnce.append (List.nodup_singleton id) fun id' hid hid' => ?_, fun id' hid => ?_⟩
        · obtain rfl := List.mem_singleton.mp hid'
          exact Bool.false_ne_true (hfirst.symm.trans (hsound.fired _ hid))
        · obtain hid | hid := List.mem_append.mp hid
          · exact hstays id' hid
          · rw [List.mem_singleton.mp hid, VotingCall.next, hmarked, recordOf_insert]
    | _ => cases hfires

theorem Sound.step (hsound : h.Sound) : (h.step call).Sound := by
  have heffect := effect_next call h.round
  have hkept : ∀ id ∈ h.finalizations, VoteRecord.Kept (h.round.recordOf id) ((call.next h.round).recordOf id) :=
    fun id hid => heffect.kept id (.inl ((hsound.finalized id).mp hid))
  have hnumbers : (h.finalizations.map fun id => ((call.next h.round).recordOf id).finalOrder) =
      (List.range h.finalizations.length).map fun i => UInt64.ofNat (i + 1) := by
    rw [← hsound.numbered]
    exact List.map_congr_left fun id hid => (hkept id hid).finalOrder
  have hinTime : ∀ id ∈ h.finalizations, ((call.next h.round).recordOf id).round ≤
    (call.next h.round).config.maxRounds := by
    intro id hid
    rw [(hkept id hid).round, heffect.config]
    exact hsound.inTime id hid
  obtain ⟨hseq, hsame⟩ | ⟨id, hid, hopen, hfinal, hround, hnumber, hseq, hothers⟩ := heffect.order
  · have hnone : (h.step call).finalizations = h.finalizations := by simp [History.step, hsame]
    refine ⟨?_, ?_, ?_, ?_, ?_, hsound.fired_step.1, hsound.fired_step.2⟩ <;> rw [hnone]
    · exact hseq.trans hsound.orderSeq
    · exact fun id => (hsound.finalized id).trans (iff_of_eq (congrArg (· = true) (hsame id).symm))
    · exact hsound.nodup
    · exact hnumbers
    · exact hinTime
  · obtain ⟨hstill, -⟩ := not_or.mp hopen
    have hnew : (h.step call).finalizations = h.finalizations ++ [id] := by simp [History.step, hid, hfinal, hstill]
    refine ⟨?_, fun id' => ?_, ?_, ?_, ?_, hsound.fired_step.1, hsound.fired_step.2⟩ <;> rw [hnew]
    · rw [List.length_append, List.length_singleton, UInt64.ofNat_add, ← hsound.orderSeq]
      exact hseq
    · rw [List.mem_append, List.mem_singleton, hsound.finalized]
      change _ ↔ ((call.next h.round).recordOf id').finalized = true
      by_cases hsame : id' = id
      · simp [hsame, hfinal]
      · simp [hsame, hothers id' hsame]
    · rw [List.nodup_append_comm, List.singleton_append, List.nodup_cons, hsound.finalized]
      exact ⟨hstill, hsound.nodup⟩
    · rw [List.map_append, List.length_append, List.length_singleton, List.range_succ, List.map_append]
      refine congrArg₂ _ hnumbers (congrArg (fun n => [n]) (hnumber.trans ?_))
      rw [hsound.orderSeq]
      exact (UInt64.ofNat_add _ 1).symm
    · refine List.forall_mem_append.mpr ⟨hinTime, List.forall_mem_singleton.mpr ?_⟩
      exact hround.trans_eq (congrArg _ heffect.config.symm)

theorem sound_run (vr : VotingRound) (calls : List VotingCall) : (run vr calls).Sound := by
  refine List.foldlRecOn calls _ ?_ fun h hsound call _ => hsound.step
  exact ⟨rfl, fun id => ⟨nofun, nofun⟩, List.nodup_nil, rfl, nofun, List.nodup_nil, nofun⟩

theorem round_foldl (h : History) (calls : List VotingCall) :
    (calls.foldl History.step h).round = calls.foldl VotingCall.next h.round := by
  induction calls generalizing h with
  | nil => rfl
  | cons call calls ih => exact ih (h.step call)

/-- In every run of a new round: a finalized record keeps its votes, its verdict, its value and its number, and one
    whose rounds have run out is never finalized, however the run goes on; the finalized records have the numbers from
    one on in the order of their finalization; and `MarkCallbackFired` returns true at most once for each event. -/
theorem finality (vr : VotingRound) (calls later : List VotingCall) :
    let h := run vr calls
    let h' := run vr (calls ++ later)
    (∀ id, (h.round.recordOf id).finalized = true →
      VoteRecord.Kept (h.round.recordOf id) (h'.round.recordOf id)) ∧
    (∀ id, h.round.config.maxRounds < (h.round.recordOf id).round → (h'.round.recordOf id).finalized = false) ∧
    (∀ id, id ∈ h.finalizations ↔ (h.round.recordOf id).finalized = true) ∧ h.finalizations.Nodup ∧
    (h.finalizations.map fun id => (h.round.recordOf id).finalOrder) =
      (List.range h.finalizations.length).map (fun i => UInt64.ofNat (i + 1)) ∧
    h.fired.Nodup := by
  intro h h'
  have hsound : h.Sound := sound_run vr calls
  have hrun : h' = later.foldl step h := List.foldl_append
  rw [hrun, round_foldl]
  refine ⟨fun id hfinal => kept_foldl later (.inl hfinal), fun id hlate => ?_, hsound.finalized, hsound.nodup,
    hsound.numbered, hsound.firedOnce⟩
  rw [(kept_foldl later (.inr hlate)).finalized, ← Bool.not_eq_true, ← hsound.finalized]
  exact fun hfinal => UInt64.not_lt.mpr (hsound.inTime id hfinal) hlate

end History

section Participation

def VoteRecord.participants (record : VoteRecord) (src : ValidatorSetSource) : Finset AgentID :=
  record.votes.keys.filter fun voter => 0 < src.weightOf voter

/-- The record has enough participants by the snapshot it is bound to. -/
def VoteRecord.Attended (config : ConsensusConfig) (record : VoteRecord) : Prop :=
  ∀ src, record.boundSnapshot = some src → config.minParticipants ≤ (record.participants src).card

/-- A vote that is accepted comes from a voter with a positive weight in the snapshot that the record is bound to. -/
def VotingCall.Backed (vr : VotingRound) : VotingCall → Prop
  | registerVote eventID b => vr.Accepts eventID b.voter → ∀ src, (vr.recordOf eventID).boundSnapshot = some src →
      0 < src.weightOf b.voter
  | setValidatorSet _ => True
  | _ => False

/-- All voters have a positive weight, and there are enough of them once the record is finalized. -/
structure VotingRound.Backed (vr : VotingRound) : Prop where
  weight : ∀ id src voter, (vr.recordOf id).boundSnapshot = some src → voter ∈ (vr.recordOf id).votes →
    0 < src.weightOf voter
  enough : ∀ id, (vr.recordOf id).finalized = true → vr.config.minParticipants ≤ (vr.recordOf id).votes.len

variable {vr : VotingRound}

theorem VotingRound.Backed.attended (h : vr.Backed) {id : EventID}
    (hfinal : (vr.recordOf id).finalized = true) : (vr.recordOf id).Attended vr.config := by
  intro src hbound
  have hall : (vr.recordOf id).participants src = (vr.recordOf id).votes.keys :=
    Finset.filter_true_of_mem fun voter hvoter => h.weight id src voter hbound (mem_keys.mp hvoter)
  rw [hall]
  exact (h.enough id hfinal).trans_eq (congrArg _ (Multiset.card_map _ _).symm)

theorem VotingRound.minParticipants_le_of_decision {record : VoteRecord}
    (hdecides : (vr.decision record).isSome) : vr.config.minParticipants ≤ record.votes.len := by
  by_contra hfew
  simp [decision, decide, hfew] at hdecides

theorem VotingRound.Backed.next (h : vr.Backed) {call : VotingCall} (hcall : call.Backed vr) :
    (call.next vr).Backed := by
  have heffect := effect_next call vr
  cases call with
  | registerVote eventID b =>
    refine ⟨fun id src voter hbound hvoter => ?_, fun id hfinal => ?_⟩
    · obtain ⟨hsame, -⟩ | ⟨⟨rfl, haccepts⟩, hsame⟩ := recordOf_registerVote_cases vr eventID b id
      · rw [VotingCall.next, hsame] at hbound hvoter
        exact h.weight id src voter hbound hvoter
      · have hbound := hsame.boundSnapshot.symm.trans hbound
        obtain hold | ⟨-, rfl, -⟩ := (mem_votes_registerVote_iff vr id b id voter).mp hvoter
        · exact h.weight id src voter hbound hold
        · exact hcall haccepts src hbound
    · rw [heffect.config]
      obtain hold | ⟨rfl, haccepts, hdecides⟩ := (finalized_registerVote_iff id).mp hfinal
      · rw [(heffect.kept id (.inl hold)).votes]
        exact h.enough id hold
      · obtain ⟨-, hnot⟩ | ⟨-, hsame⟩ := recordOf_registerVote_cases vr id b id
        · exact absurd ⟨rfl, haccepts⟩ hnot
        · rw [VotingCall.next, hsame.votes]
          exact minParticipants_le_of_decision hdecides
  | setValidatorSet vs =>
    refine ⟨fun id src voter hbound hvoter => ?_, fun id hfinal => ?_⟩
    · simp only [VotingCall.next, recordOf] at hbound hvoter
      cases hlookup : vr.records.lookup id with
      | none => simp [hlookup, newRecord, notMem_empty] at hvoter
      | some record =>
        rw [hlookup] at hbound hvoter
        refine h.weight id src voter ?_ ?_ <;> rwa [recordOf, hlookup]
    · have hkept : VoteRecord.Kept (vr.recordOf id) ((VotingCall.next vr (.setValidatorSet vs)).recordOf id) :=
        kept_of_lookup rfl
      rw [hkept.votes]
      exact h.enough id (hkept.finalized.symm.trans hfinal)
  | _ => exact hcall.elim

/-- The participation floor: in a run of votes and changes of the validator set on a new round in which each vote that
    is accepted is backed, every finalized record is attended. -/
theorem attended_of_backed (vr : VotingRound) (calls : List VotingCall)
    (hbacked : MeetsAlong VotingCall.next VotingCall.Backed { vr with records := ∅ } calls) (id : EventID)
    (hfinal : ((calls.foldl VotingCall.next { vr with records := ∅ }).recordOf id).finalized = true) :
    ((calls.foldl VotingCall.next { vr with records := ∅ }).recordOf id).Attended
      (calls.foldl VotingCall.next { vr with records := ∅ }).config := by
  refine (invariant_of_meetsAlong (P := Backed) ?_ (fun _ _ h hcall => h.next hcall) hbacked).attended hfinal
  exact ⟨fun id src voter _ hvoter => absurd hvoter notMem_empty, nofun⟩

/-- A snapshot with these validators. -/
def seated (voters : List AgentID) (version : UInt64) : ValidatorSetSource where
  voteWeightByKey key := if key ∈ voters then some 10 else none
  setVersion := version
  activeWeight := 10 * UInt64.ofNat voters.length

/-- A round that asks for two votes and a majority. -/
def majorityRound (voters : List AgentID) : VotingRound where
  config :=
    { supermajorityThreshold := ⟨fun weight denominator => denominator ≤ 2 * weight,
        fun weight denominator => denominator < 2 * weight⟩
      maxRounds := 1
      minParticipants := 2 }
  validatorSet := some (seated voters 1)

theorem VotingCall.Backed.of_weight {id : EventID} {b : Ballot} (src : ValidatorSetSource)
    (hbound : (vr.recordOf id).boundSnapshot = some src) (hweight : 0 < src.weightOf b.voter) :
    Backed vr (.registerVote id b) := by
  intro _ src' hbound'
  rwa [← Option.some.inj (hbound.symm.trans hbound')]

def sampleCalls : List VotingCall :=
  [.registerVote "e1" ⟨"alice", true, 7⟩, .setValidatorSet (some (seated ["alice", "bob", "carol"] 2)),
    .registerVote "e2" ⟨"bob", false, 3⟩, .registerVote "e1" ⟨"carol", true, 8⟩, .registerVote "e2" ⟨"alice", false, 3⟩]

theorem attended_of_sampleCalls :
    let vr := sampleCalls.foldl VotingCall.next (majorityRound ["alice", "carol"])
    ((vr.recordOf "e1").finalized = true ∧ (vr.recordOf "e1").Attended vr.config) ∧
      (vr.recordOf "e2").finalized = true ∧ (vr.recordOf "e2").Attended vr.config := by
  have hbacked : MeetsAlong VotingCall.next VotingCall.Backed (majorityRound ["alice", "carol"]) sampleCalls :=
    ⟨.of_weight (seated ["alice", "carol"] 1) rfl (by decide), trivial,
      .of_weight (seated ["alice", "bob", "carol"] 2) rfl (by decide),
      .of_weight (seated ["alice", "carol"] 1) rfl (by decide),
      .of_weight (seated ["alice", "bob", "carol"] 2) rfl (by decide), trivial⟩
  have hattended := attended_of_backed (majorityRound ["alice", "carol"]) sampleCalls hbacked
  intro vr
  have hfirst : (vr.recordOf "e1").finalized = true := by decide +kernel
  have hsecond : (vr.recordOf "e2").finalized = true := by decide +kernel
  exact ⟨⟨hfirst, hattended "e1" hfirst⟩, hsecond, hattended "e2" hsecond⟩

/-- Two votes are asked for. The first one comes from the only validator of the snapshot the record is bound to, and
    the second one, which finalizes it, from the only validator of the next snapshot, who has no weight in the first. -/
theorem finalized_by_one_participant :
    let vr := [VotingCall.registerVote "e1" ⟨"alice", true, 7⟩, .setValidatorSet (some (seated ["bob"] 2)),
      .registerVote "e1" ⟨"bob", true, 7⟩].foldl VotingCall.next (majorityRound ["alice"])
    (vr.recordOf "e1").finalized = true ∧ ¬ (vr.recordOf "e1").Attended vr.config := by
  intro vr
  refine ⟨by decide +kernel, fun hattended => ?_⟩
  have hcard : ((vr.recordOf "e1").participants (seated ["alice"] 1)).card = 1 := by decide +kernel
  have htwo := hattended (seated ["alice"] 1) rfl
  exact absurd htwo (by decide +kernel)

end Participation

end aethernet.consensus
