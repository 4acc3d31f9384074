import Aethernet.Dag.Basic
import Aethernet.Golang.Sort

open golang aethernet event dag Finmap

namespace Finmap

variable {K V : Type} {m m' : Map K V}

theorem card_keys (m : Map K V) : m.keys.card = m.len := Multiset.card_map _ _

theorem len_le_of_keys (h : m.keys ⊆ m'.keys) : m.len ≤ m'.len := by
  simpa only [card_keys] using Finset.card_le_card h

theorem len_lt_iff {n : ℕ} (h : m.keys ⊆ m'.keys) (hlen : m'.len ≤ n) :
    m.len < n ↔ m'.len < n ∨ ∃ k ∈ m', k ∉ m := by
  constructor
  · intro hlt
    by_contra! hsame
    exact hlt.not_ge (hsame.1.trans (len_le_of_keys hsame.2))
  · rintro (hlt | hgone)
    · exact (len_le_of_keys h).trans_lt hlt
    · have hcard := Finset.card_lt_card ((Finset.ssubset_iff_of_subset h).mpr hgone)
      rw [card_keys, card_keys] at hcard
      exact hcard.trans_le hlen

end Finmap

namespace aethernet.network

structure EventHeader where
  eventID : EventID
  type : EventType
  causalRefs : Option (List EventID)
  agentID : String
  causalTimestamp : UInt64
  stakeAmount : UInt64
  bodyCommitment : String
  signature : List UInt8
  deriving DecidableEq

/-- The header of an event, with the commitment to its payload. -/
def headerOf (computeBodyCommitment : RawMessage → String) (ev : Event) : EventHeader where
  eventID := ev.id
  type := ev.type
  causalRefs := ev.causalRefs
  agentID := ev.agentID
  causalTimestamp := ev.causalTimestamp
  stakeAmount := ev.stakeAmount
  bodyCommitment := computeBodyCommitment ev.payload
  signature := ev.signature

inductive EventStage where
  | announced
  | completed
  | validated
  | materialized
  deriving DecidableEq

/-- `EventTracking`, with the times in nanoseconds. The number of relays is left out. -/
structure EventTracking where
  header : EventHeader
  stage : EventStage
  receivedAt : ℤ
  sourcePeer : String
  completedAt : ℤ := 0
  bodyRequested : Bool := false
  bodyAvailable : Bool := false
  body : RawMessage := .absent
  reconstructed : Option Event := none
  missingParents : Finset EventID := ∅
  repairRequested : Bool := false
  blobRequested : Bool := false
  blobHash : String := ""

/-- `AdvanceTo`. -/
def EventTracking.advanceTo (now : ℤ) (target : EventStage) (t : EventTracking) : Option EventTracking :=
  if t.stage.ctorIdx < target.ctorIdx then
    some { t with stage := target, completedAt := if target = .completed then now else t.completedAt }
  else none

/-- What `gc` deletes. -/
def EventTracking.isStale (announceTTL completeTTL : ℕ) (now : ℤ) (t : EventTracking) : Bool := match t.stage with
  | .announced | .materialized => announceTTL < now - t.receivedAt
  | .completed => completeTTL < now - t.completedAt
  | .validated => false

/-- The tracked events of an `IngestManager`. The queues are left out. -/
abbrev IngestManager := Map EventID EventTracking

namespace IngestManager

variable (maxTracked announceTTL completeTTL : ℕ) (order : RangeOrder EventID EventTracking) (now : ℤ)

/-- `evictOldestAnnouncedLocked`. -/
def evictOldestAnnounced (im : IngestManager) : IngestManager :=
  let oldest := (order.visit im).foldl (fun (oldest : EventID × ℤ) p =>
    if p.2.stage = .announced ∧ (oldest.2 = 0 ∨ p.2.receivedAt < oldest.2) then (p.1, p.2.receivedAt)
    else oldest) ("", 0)
  if oldest.1 = "" then im else im.erase oldest.1

/-- What `AdmitHeader` checks the capacity of. -/
def makeRoom (im : IngestManager) : IngestManager := if im.len < maxTracked then im else im.evictOldestAnnounced order

def admitHeader (source : String) (hdr : EventHeader) (im : IngestManager) : Bool × IngestManager :=
  if hdr.eventID ∈ im then (false, im)
  else
    let im := im.makeRoom maxTracked order
    if im.len < maxTracked then
      (true, im.insert hdr.eventID { header := hdr, stage := .announced, receivedAt := now, sourcePeer := source })
    else (false, im)

def change (id : EventID) (f : EventTracking → Option EventTracking) (im : IngestManager) : IngestManager :=
  match (im.lookup id).bind f with
  | none => im
  | some t => im.insert id t

section Operations

variable (id : EventID) (im : IngestManager)

def markCompleted : IngestManager := im.change id (·.advanceTo now .completed)

def markValidated : IngestManager := im.change id (·.advanceTo now .validated)

def markMaterialized : IngestManager := im.change id (·.advanceTo now .materialized)

def markBodyRequested : IngestManager :=
  im.change id fun t => if t.bodyRequested || t.bodyAvailable then none else some { t with bodyRequested := true }

def markBlobRequested (blobHash : String) : IngestManager :=
  im.change id fun t => if t.blobRequested then none else some { t with blobRequested := true, blobHash := blobHash }

def markRepairRequested : IngestManager :=
  im.change id fun t => if t.repairRequested then none else some { t with repairRequested := true }

def setBodyAvailable (payload : RawMessage) : IngestManager :=
  im.change id fun t => some { t with body := payload, bodyAvailable := true }

def setReconstructedEvent (ev : Event) : IngestManager := im.change id fun t => some { t with reconstructed := some ev }

def setMissingParents (missing : Finset EventID) : IngestManager :=
  im.change id fun t => some { t with missingParents := missing }

def clearMissingParent (parentID : EventID) : IngestManager :=
  im.change id fun t => some { t with missingParents := t.missingParents.erase parentID }

/-- `CompleteBody`, which refuses an event that is not tracked, has its body or is committed to another one. -/
def completeBody (computeBodyCommitment : RawMessage → String) (payload : RawMessage) : IngestManager :=
  im.change id fun t =>
    if t.bodyAvailable ∨ computeBodyCommitment payload ≠ t.header.bodyCommitment then none
    else
      let t := { t with body := payload, bodyAvailable := true }
      some ((t.advanceTo now .completed).getD t)

end Operations

def missingParents (dag : DAG) (ev : Event) : Finset EventID := ev.refs.toFinset.filter (· ∉ dag.events)

def trackForRecursiveRepair (computeBodyCommitment : RawMessage → String) (dag : DAG) (source : String) (ev : Event)
    (im : IngestManager) : IngestManager :=
  let (admitted, im) := im.admitHeader maxTracked order now source (headerOf computeBodyCommitment ev)
  if admitted then
    let im := (im.setBodyAvailable ev.id ev.payload).setReconstructedEvent ev.id ev
    let im := (im.markCompleted now ev.id).markValidated now ev.id
    if (missingParents dag ev).Nonempty then im.setMissingParents ev.id (missingParents dag ev) else im
  else im

def gc (im : IngestManager) : IngestManager :=
  ofInserts ((order.visit im).filter fun p => !p.2.isStale announceTTL completeTTL now)

/-- What the operations can make of the tracked events. -/
inductive Reachable : IngestManager → Prop
  | new : Reachable ∅
  | admitHeader : ∀ order now source hdr {im}, Reachable im → Reachable
      (im.admitHeader maxTracked order now source hdr).2
  | markCompleted : ∀ now id {im}, Reachable im → Reachable (im.markCompleted now id)
  | markValidated : ∀ now id {im}, Reachable im → Reachable (im.markValidated now id)
  | markMaterialized : ∀ now id {im}, Reachable im → Reachable (im.markMaterialized now id)
  | markBodyRequested : ∀ id {im}, Reachable im → Reachable (im.markBodyRequested id)
  | markBlobRequested : ∀ id blobHash {im}, Reachable im → Reachable (im.markBlobRequested id blobHash)
  | markRepairRequested : ∀ id {im}, Reachable im → Reachable (im.markRepairRequested id)
  | setBodyAvailable : ∀ id payload {im}, Reachable im → Reachable (im.setBodyAvailable id payload)
  | setReconstructedEvent : ∀ id ev {im}, Reachable im → Reachable (im.setReconstructedEvent id ev)
  | setMissingParents : ∀ id missing {im}, Reachable im → Reachable (im.setMissingParents id missing)
  | clearMissingParent : ∀ id parentID {im}, Reachable im → Reachable (im.clearMissingParent id parentID)
  | completeBody : ∀ now id commitment payload {im}, Reachable im → Reachable
      (im.completeBody now id commitment payload)
  | remove : ∀ id {im}, Reachable im → Reachable (im.erase id)
  | gc : ∀ order now {im}, Reachable im → Reachable (im.gc announceTTL completeTTL order now)

def sampleAnnounced : Event := (transferEvent "07" "alice" "bob" "5").signed

def sampleHeader : EventHeader := headerOf (fun _ => "07") sampleAnnounced

section Bound

variable {maxTracked announceTTL completeTTL order now} {im : IngestManager}

theorem Reachable.trackForRecursiveRepair (h : Reachable maxTracked announceTTL completeTTL im)
    (computeBodyCommitment : RawMessage → String) (dag : DAG) (source : String) (ev : Event) :
    Reachable maxTracked announceTTL completeTTL
      (im.trackForRecursiveRepair maxTracked order now computeBodyCommitment dag source ev) := by
  have hheader := h.admitHeader order now source (headerOf computeBodyCommitment ev)
  have hvalidated :=
    (((hheader.setBodyAvailable ev.id ev.payload).setReconstructedEvent ev.id ev).markCompleted now ev.id).markValidated
      now ev.id
  unfold IngestManager.trackForRecursiveRepair
  dsimp only
  split_ifs
  · exact hvalidated.setMissingParents _ _
  · exact hvalidated
  · exact hheader

theorem lookup_makeRoom {id : EventID} (h : id ∈ im.makeRoom maxTracked order) :
    (im.makeRoom maxTracked order).lookup id = im.lookup id := by
  unfold makeRoom evictOldestAnnounced at h ⊢
  dsimp only at h ⊢
  split_ifs at h ⊢
  · rfl
  · rfl
  · exact lookup_erase_ne (mem_erase.mp h).1

theorem keys_makeRoom : (im.makeRoom maxTracked order).keys ⊆ im.keys := fun _ hid =>
  mem_iff.mpr ((mem_iff.mp hid).imp fun _ ht => lookup_makeRoom hid ▸ ht)

theorem keys_change (id : EventID) (f : EventTracking → Option EventTracking) : (im.change id f).keys ⊆ im.keys := by
  unfold change
  cases hlookup : (im.lookup id).bind f with
  | none => exact subset_rfl
  | some t =>
    obtain ⟨old, hold, -⟩ := Option.bind_eq_some_iff.mp hlookup
    intro k hk
    obtain rfl | hk := mem_insert.mp hk
    · exact mem_of_lookup_eq_some hold
    · exact hk

theorem len_admitHeader_le (h : im.len ≤ maxTracked) (source : String) (hdr : EventHeader) :
    (im.admitHeader maxTracked order now source hdr).2.len ≤ maxTracked := by
  unfold admitHeader
  dsimp only
  split_ifs with htracked hroom
  · exact h
  · exact (len_insert_of_notMem _ fun hid => htracked (keys_makeRoom hid)).trans_le hroom
  · exact (len_le_of_keys keys_makeRoom).trans h

theorem lookup_gc_iff {id : EventID} {t : EventTracking} :
    (im.gc announceTTL completeTTL order now).lookup id = some t ↔
    im.lookup id = some t ∧ t.isStale announceTTL completeTTL now = false := by
  rw [gc, lookup_ofInserts_iff ((order.nodup_keys im).sublist (List.filter_sublist.map _)), List.mem_filter,
    order.mem_visit_iff, Bool.not_eq_true']

theorem keys_gc : (im.gc announceTTL completeTTL order now).keys ⊆ im.keys := fun id hid => by
  obtain ⟨t, ht⟩ := mem_iff.mp (mem_keys.mp hid)
  exact mem_of_lookup_eq_some (lookup_gc_iff.mp ht).1

theorem Reachable.len_le (h : Reachable maxTracked announceTTL completeTTL im) : im.len ≤ maxTracked := by
  induction h with
  | new => exact Nat.zero_le _
  | admitHeader order now source hdr _ ih => exact len_admitHeader_le ih source hdr
  | remove id _ ih => exact (len_le_of_keys (keys_erase id _ ▸ Finset.erase_subset _ _)).trans ih
  | gc order now _ ih => exact (len_le_of_keys keys_gc).trans ih
  | _ => exact (len_le_of_keys (keys_change _ _)).trans (by assumption)

end Bound

/-- The tracked events stay within their limit, and a `gc` long after every entry was received and completed makes room
    exactly if there was room or an entry was not in stage Validated. -/
theorem tracking_recovers_iff {im : IngestManager} (h : Reachable maxTracked announceTTL completeTTL im)
    (hlate : ∀ id t, im.lookup id = some t → announceTTL + completeTTL < now - max t.receivedAt t.completedAt) :
    (im.len ≤ maxTracked ∧ (im.gc announceTTL completeTTL order now).len < maxTracked) ↔
      (im.len < maxTracked ∨ ∃ id t, im.lookup id = some t ∧ t.stage ≠ .validated) := by
  have hstale : ∀ id t, im.lookup id = some t →
      (t.isStale announceTTL completeTTL now = false ↔ t.stage = .validated) := fun id t ht => by
    have hpast := hlate id t ht
    unfold EventTracking.isStale
    cases t.stage <;> simp <;> omega
  rw [and_iff_right h.len_le, len_lt_iff keys_gc h.len_le]
  refine or_congr_right ⟨?_, ?_⟩
  · rintro ⟨id, hid, hgone⟩
    obtain ⟨t, ht⟩ := mem_iff.mp hid
    exact ⟨id, t, ht, fun hstage => hgone (mem_of_lookup_eq_some (lookup_gc_iff.mpr ⟨ht, (hstale id t ht).mpr hstage⟩))⟩
  · rintro ⟨id, t, ht, hstage⟩
    refine ⟨id, mem_of_lookup_eq_some ht, fun hid => hstage ?_⟩
    obtain ⟨t', ht'⟩ := mem_iff.mp hid
    obtain ⟨hsame, hfresh⟩ := lookup_gc_iff.mp ht'
    obtain rfl := Option.some.inj (ht.symm.trans hsame)
    exact (hstale id t ht).mp hfresh

theorem stale_header_makes_room : len (gc 60 30 .byKey 1000 (admitHeader 1 .byKey 5 "bob" sampleHeader ∅).2) < 1 := by
  refine ((tracking_recovers_iff 1 60 30 .byKey 1000 (.admitHeader _ _ _ _ .new) fun id t ht => ?_).mpr
    (.inr ⟨sampleHeader.eventID, _, lookup_insert _, nofun⟩)).2
  obtain ⟨-, rfl⟩ | ⟨-, hnone⟩ := lookup_insert_cases (m := ∅) ht
  · decide
  · simp at hnone

/-- A signed event whose parent never comes fills the map for good. -/
theorem validated_entry_stays :
    let ev := { sampleAnnounced with causalRefs := some ["06"] }
    let im := trackForRecursiveRepair 1 .byKey 5 (fun _ => "07") {} "mallory" ev ∅
    crypto.verifyEvent sampleCrypto ev = true ∧
      (∃ err, (DAG.add sampleCrypto none ev {}).1 = .error err ∧ err.is errMissingCausalRef = true) ∧
      Reachable 1 60 30 im ∧ len (im.gc 60 30 .byKey 1000) = 1 ∧
      (admitHeader 1 .byKey 1000 "bob" { sampleHeader with eventID := "09" } (im.gc 60 30 .byKey 1000)).1 = false :=
  ⟨by decide +kernel, ⟨_, rfl, by decide +kernel⟩, .trackForRecursiveRepair .new _ _ _ _, by decide +kernel⟩

end IngestManager

end aethernet.network
