import Aethernet.ValidatorLifecycle.Snapshot
import Aethernet.ValidatorLifecycle.Steps

open golang transition aethernet.validatorlifecycle.ValidatorSnapshot

namespace aethernet.validatorlifecycle

theorem ValidatorSnapshot.seatVoteWeight_getD (vs : ValidatorSnapshot) (seat : ValidatorSeat) :
    (vs.seatVoteWeight seat).getD 0 = if seat.participatesAt vs.version then seat.weight else 0 := by
  unfold seatVoteWeight ValidatorSeat.participatesAt
  by_cases hweight : seat.weight = 0
  · simp [hweight]
  · cases hpart : seat.status.isParticipating with
    | false => simp
    | true =>
      by_cases heffective : seat.effectiveFromVersion ≤ vs.version
      · simp [hweight, heffective, UInt64.not_lt.mpr heffective]
      · simp [hweight, heffective, UInt64.not_le.mp heffective]

namespace Reducer

variable {sha256 : String → List UInt8} {ev : LifecycleEvent} {r : Reducer}

def operatorKeyOf (r : Reducer) (id : ValidatorID) : Option PublicKey := (r.seats.lookup id).map (·.operatorKey)

def KeysDistinct (r : Reducer) : Prop :=
  ∀ id id' key, r.operatorKeyOf id = some key → r.operatorKeyOf id' = some key → id = id'

def Keyed (r : Reducer) : Prop := ∀ id seat, r.seats.lookup id = some seat → seat.id = id

/-- One live seat for a key, lookups by key that do not depend on the order in which the seats are visited, and weights
    by key that add up to the active weight. -/
structure OneKeyOneSeat (r : Reducer) : Prop where
  live : ∀ id id' seat seat', r.seats.lookup id = some seat → r.seats.lookup id' = some seat' →
    seat.status.isTerminal = false → seat'.status.isTerminal = false → seat.operatorKey = seat'.operatorKey → id = id'
  seatByOperatorKey : ∀ order order', r.seats.Visits order → r.seats.Visits order' → ∀ key,
    seatByOperatorKey order key = seatByOperatorKey order' key
  voteWeightByKey : ∀ order order', r.seats.Visits order → r.seats.Visits order' → ∀ key,
    r.snapshot.voteWeightByKey order key = r.snapshot.voteWeightByKey order' key
  isSeatVoteEligibleByKey : ∀ visited visited' : List ValidatorID, (visited : Multiset ValidatorID) = r.seats.keys.val →
    (visited' : Multiset ValidatorID) = r.seats.keys.val → ∀ key,
    r.snapshot.isSeatVoteEligibleByKey visited key = r.snapshot.isSeatVoteEligibleByKey visited' key
  activeWeight : ∀ order, r.seats.Visits order →
    ((order.map (·.operatorKey)).dedup.map fun key => (r.snapshot.voteWeightByKey order key).getD 0).sum =
      r.snapshot.totalActiveWeight

theorem KeysDistinct.eq_of_lookup (hkeys : r.KeysDistinct) {id id' : ValidatorID} {seat seat' : ValidatorSeat}
    (hlookup : r.seats.lookup id = some seat) (hlookup' : r.seats.lookup id' = some seat')
    (hkey : seat.operatorKey = seat'.operatorKey) : id = id' :=
  hkeys id id' seat.operatorKey (by simp [operatorKeyOf, hlookup]) (by simp [operatorKeyOf, hlookup', hkey])

theorem KeysDistinct.find?_eq (hkeys : r.KeysDistinct) {order order' : List ValidatorSeat} (h : r.seats.Visits order)
    (h' : r.seats.Visits order') (key : PublicKey) :
    (order.find? fun s => s.operatorKey = key) = order'.find? fun s => s.operatorKey = key :=
  h.find?_eq h' fun _ _ _ _ hlookup hlookup' hkey hkey' =>
    hkeys.eq_of_lookup hlookup hlookup' ((of_decide_eq_true hkey).trans (of_decide_eq_true hkey').symm)

theorem KeysDistinct.nodup (hkeys : r.KeysDistinct) {order : List ValidatorSeat} (h : r.seats.Visits order) :
    (order.map (·.operatorKey)).Nodup := by
  rw [← Multiset.coe_nodup, ← Multiset.map_coe, h, Multiset.map_map]
  refine Multiset.Nodup.map_on ?_ r.seats.nodup_entries
  rintro ⟨id, seat⟩ hentry ⟨id', seat'⟩ hentry' hkey
  have hlookup := Finmap.lookup_eq_some_iff.mpr hentry
  have hlookup' := Finmap.lookup_eq_some_iff.mpr hentry'
  cases hkeys.eq_of_lookup hlookup hlookup' hkey
  cases hlookup.symm.trans hlookup'
  rfl

theorem KeysDistinct.oneKeyOneSeat (hkeys : r.KeysDistinct) : r.OneKeyOneSeat where
  live _ _ _ _ hlookup hlookup' _ _ hkey := hkeys.eq_of_lookup hlookup hlookup' hkey
  seatByOperatorKey order order' h h' key := by
    rw [Reducer.seatByOperatorKey, Reducer.seatByOperatorKey, hkeys.find?_eq h h']
  voteWeightByKey order order' h h' key := by
    rw [voteWeightByKey, voteWeightByKey, hkeys.find?_eq h h']
  isSeatVoteEligibleByKey visited visited' h h' key := by
    rw [isSeatVoteEligibleByKey, isSeatVoteEligibleByKey,
      sortedSeatIDs, sortedSeatIDs, h, h']
  activeWeight order h := by
    have hnodup := hkeys.nodup h
    rw [hnodup.dedup, List.map_map, snapshot, ← h.sum_map]
    refine congrArg List.sum (List.map_congr_left fun seat hseat => ?_)
    have hfind : (order.find? fun s => s.operatorKey = seat.operatorKey) = some seat := by
      cases hfound : order.find? fun s => s.operatorKey = seat.operatorKey with
      | none => exact absurd (decide_eq_true rfl) (List.find?_eq_none.mp hfound seat hseat)
      | some seat' =>
        rw [List.inj_on_of_nodup_map hnodup (List.mem_of_find?_eq_some hfound) hseat
          (by simpa using List.find?_some hfound)]
    rw [Function.comp_apply, voteWeightByKey, hfind]
    exact seatVoteWeight_getD _ seat

theorem OneKeyOneSeat.keysDistinct (hone : r.OneKeyOneSeat) (hkeyed : r.Keyed) : r.KeysDistinct := by
  intro id id' key hkey hkey'
  obtain ⟨seat, hlookup, rfl⟩ := Option.map_eq_some_iff.mp hkey
  obtain ⟨seat', hlookup', hsame⟩ := Option.map_eq_some_iff.mp hkey'
  obtain ⟨rest, horder⟩ := Finmap.exists_visits_cons hlookup
  obtain ⟨rest', horder'⟩ := Finmap.exists_visits_cons hlookup'
  have hfirst := hone.seatByOperatorKey _ _ horder horder' seat.operatorKey
  simp only [Reducer.seatByOperatorKey, List.find?_cons_of_pos, decide_true, hsame, Except.ok.injEq] at hfirst
  rw [← hkeyed id seat hlookup, ← hkeyed id' seat' hlookup', hfirst]

/-- The seat an event gives an operator key, and the key. -/
def keyGiven (sha256 : String → List UInt8) (r : Reducer) (ev : LifecycleEvent) : Option (ValidatorID × PublicKey) :=
  match ev.kind with
  | .join => if joins sha256 r ev then some (joinSeatID sha256 ev, ev.operatorKey) else none
  | .rotateKey => if (r.seats.lookup ev.seatID).any (rotates ev) then some (ev.seatID, ev.operatorKey) else none
  | .recoveryRotate => if (r.seats.lookup ev.seatID).any (recovers ev) then some (ev.seatID, ev.newPublicKey) else none
  | _ => none

theorem operatorKeyOf_insert (r : Reducer) (version : UInt64) (id id' : ValidatorID) (seat : ValidatorSeat) :
    operatorKeyOf { seats := r.seats.insert id' seat, version := version } id =
      if id = id' then some seat.operatorKey else r.operatorKeyOf id := by
  simp only [operatorKeyOf, Finmap.lookup_insert_eq]
  split_ifs <;> rfl

theorem applyJoin_of_joins (hjoins : joins sha256 r ev = true) :
    ∃ seat, (r.applyJoin sha256 ev).2 =
      { seats := r.seats.insert (joinSeatID sha256 ev) seat, version := r.version + 1 } ∧
      seat.operatorKey = ev.operatorKey := by
  simp only [joins, Bool.and_eq_true, Bool.or_eq_true, decide_eq_true_eq] at hjoins
  obtain ⟨⟨hkey, hstake⟩, hexited⟩ := hjoins
  have hbonded : ¬ ((!ev.isGenesis) = true ∧ ev.stakeAmount < minBondedStake) := by
    rintro ⟨hgenesis, hlow⟩
    rcases hstake with hset | henough
    · simp [hset] at hgenesis
    · exact UInt64.not_lt.mpr henough hlow
  unfold applyJoin
  rw [if_neg hkey, if_neg hbonded]
  cases hlookup : r.seats.lookup (joinSeatID sha256 ev) with
  | none =>
    unfold joinSeatID at hlookup ⊢
    simp only [hlookup]
    exact ⟨_, rfl, rfl⟩
  | some existing =>
    rw [hlookup, Option.all_some, decide_eq_true_eq] at hexited
    unfold joinSeatID at hlookup ⊢
    simp only [hlookup, hexited]
    exact ⟨_, rfl, rfl⟩

theorem operatorKeyOf_next_of_none (hnone : keyGiven sha256 r ev = none) (id : ValidatorID) :
    (r.next sha256 ev).operatorKeyOf id = r.operatorKeyOf id := by
  have happlied := next_applied sha256 ev r
  generalize r.next sha256 ev = r' at happlied
  cases happlied with
  | unchanged => rfl
  | joined hkind hjoins hnew | rejoined hkind hjoins hlookup hexited => simp [keyGiven, hkind, hjoins] at hnone
  | @edited seat seat' bump hlookup hedit =>
    have hsame : seat'.operatorKey = seat.operatorKey := by
      cases hedit with
      | move hmoved => exact hmoved.operatorKey
      | rekey hchecks =>
        rcases hchecks with ⟨hkind, -, hchecks⟩ | ⟨hkind, -, hchecks⟩ <;>
          simp [keyGiven, hkind, hlookup, hchecks] at hnone
      | restake | charge | commit | cancel => rfl
    rw [operatorKeyOf_insert, hsame]
    by_cases hid : id = ev.seatID
    · rw [if_pos hid, hid, operatorKeyOf, hlookup, Option.map_some]
    · rw [if_neg hid]

theorem operatorKeyOf_next_of_some {id' : ValidatorID} {key : PublicKey}
    (hgiven : keyGiven sha256 r ev = some (id', key)) (id : ValidatorID) :
    (r.next sha256 ev).operatorKeyOf id = if id = id' then some key else r.operatorKeyOf id := by
  obtain ⟨seat, version, hnext, hkey⟩ : ∃ seat version,
      r.next sha256 ev = { seats := r.seats.insert id' seat, version := version } ∧ seat.operatorKey = key := by
    unfold keyGiven at hgiven
    split at hgiven
    · rename_i hkind
      obtain ⟨hjoins, hgiven⟩ := Option.ite_none_right_eq_some.mp hgiven
      cases hgiven
      obtain ⟨seat, hnext, hkey⟩ := applyJoin_of_joins hjoins
      exact ⟨seat, _, by rw [next, apply, hkind]; exact hnext, hkey⟩
    · rename_i hkind
      obtain ⟨hrotates, hgiven⟩ := Option.ite_none_right_eq_some.mp hgiven
      cases hgiven
      obtain ⟨seat, hlookup, hrotates⟩ := (Option.any_eq_true _ _).mp hrotates
      exact ⟨_, _, next_of_rotates hkind hlookup hrotates, rfl⟩
    · rename_i hkind
      obtain ⟨hrecovers, hgiven⟩ := Option.ite_none_right_eq_some.mp hgiven
      cases hgiven
      obtain ⟨seat, hlookup, hrecovers⟩ := (Option.any_eq_true _ _).mp hrecovers
      exact ⟨_, _, next_of_recovers hkind hlookup hrecovers, rfl⟩
    · cases hgiven
  rw [hnext, operatorKeyOf_insert, hkey]

/-- The key an event gives to a seat is not the key of another one. -/
def KeyFree (sha256 : String → List UInt8) (r : Reducer) (ev : LifecycleEvent) : Prop :=
  ∀ id key, keyGiven sha256 r ev = some (id, key) → ∀ id', r.operatorKeyOf id' = some key → id' = id

theorem next_keysDistinct_iff (hkeys : r.KeysDistinct) : (r.next sha256 ev).KeysDistinct ↔ KeyFree sha256 r ev := by
  constructor
  · intro hnext id key hgiven id' hholds
    by_contra hne
    refine hne (hnext id' id key ?_ ?_)
    · rw [operatorKeyOf_next_of_some hgiven, if_neg hne, hholds]
    · rw [operatorKeyOf_next_of_some hgiven, if_pos rfl]
  · intro hfree
    cases hgiven : keyGiven sha256 r ev with
    | none =>
      intro id id' key hkey hkey'
      rw [operatorKeyOf_next_of_none hgiven] at hkey hkey'
      exact hkeys id id' key hkey hkey'
    | some given =>
      obtain ⟨seatID, new⟩ := given
      have hnew := hfree seatID new hgiven
      intro id id' key hkey hkey'
      rw [operatorKeyOf_next_of_some hgiven] at hkey hkey'
      split_ifs at hkey hkey' with hid hid' hid'
      · rw [hid, hid']
      · cases hkey
        rw [hid, hnew id' hkey']
      · cases hkey'
        rw [hid', hnew id hkey]
      · exact hkeys id id' key hkey hkey'

theorem Keyed.next (hkeyed : r.Keyed) : (r.next sha256 ev).Keyed := by
  refine next_forall_seats (Q := fun _ id seat => seat.id = id) ?_ ?_ ?_ ?_
  · exact fun id seat hlookup => ⟨hkeyed id seat hlookup, hkeyed id seat hlookup⟩
  · exact fun _ _ => rfl
  · exact fun seat _ hlookup _ => hkeyed _ seat hlookup
  · intro seat seat' bump hlookup hedit
    rw [← hkeyed _ seat hlookup]
    cases hedit with
    | move hmoved => exact hmoved.id
    | rekey | restake | charge | commit | cancel => rfl

/-- A key has one seat, and lookups by key are unambiguous, after each event, exactly if no event gives a seat the key
    of another one. -/
theorem oneKeyOneSeat_along_iff (sha256 : String → List UInt8) (events : List LifecycleEvent) :
    MeetsAlong (next sha256) (fun r ev => (r.next sha256 ev).OneKeyOneSeat) {} events ↔
      MeetsAlong (next sha256) (KeyFree sha256) {} events := by
  have hempty : ∀ id seat, ({} : Reducer).seats.lookup id ≠ some seat := fun id seat hlookup => by simp at hlookup
  have hkeyed : ({} : Reducer).Keyed := fun id seat hlookup => absurd hlookup (hempty id seat)
  have hkeys : ({} : Reducer).KeysDistinct := fun id id' key hkey => by simp [operatorKeyOf] at hkey
  rw [← meetsAlong_iff (P := KeysDistinct) hkeys (fun _ _ hkeys _ => next_keysDistinct_iff hkeys)
    (MeetsAlong.of_forall fun _ _ => trivial)]
  -- the seats are stored under their own IDs all along, so the two properties agree in every state of the run
  constructor
  · exact MeetsAlong.imp hkeyed (fun _ _ hkeyed _ => hkeyed.next) fun _ _ hkeyed hone => hone.keysDistinct hkeyed.next
  · exact MeetsAlong.imp hkeyed (fun _ _ hkeyed _ => hkeyed.next) fun _ _ _ hkeys => hkeys.oneKeyOneSeat

/-- An event on one of two seats that are joined under one key. -/
def sharedKeyEvent (kind : LifecycleEventKind) (seatID : ValidatorID) : LifecycleEvent where
  kind := kind
  eventID := "event"
  causalTS := 1
  seatID := seatID
  operatorKey := "shared key"
  stakeAmount := minBondedStake

/-- The seats with these IDs, as a loop that visits them in this order sees them. -/
def seatsInOrder (r : Reducer) (ids : List ValidatorID) : List ValidatorSeat := ids.filterMap fun id =>
    r.seats.lookup id

/-- Two seats join under one key, and the first of them enters probation. -/
def sharedByLive : Reducer :=
  applyAll (fun _ => []) [sharedKeyEvent .join "a", sharedKeyEvent .reinstate "a", sharedKeyEvent .join "b"] {}

/-- A seat exits, and another one joins under its key and enters probation. -/
def sharedWithExited : Reducer :=
  applyAll (fun _ => []) [sharedKeyEvent .join "a", sharedKeyEvent .reinstate "a", sharedKeyEvent .activate "a",
    sharedKeyEvent .beginCooldown "a", sharedKeyEvent .exit "a", sharedKeyEvent .join "b",
    sharedKeyEvent .reinstate "b"] {}

theorem sharedKey_visits : ∀ r ∈ [sharedByLive, sharedWithExited],
    r.seats.Visits (r.seatsInOrder ["a", "b"]) ∧ r.seats.Visits (r.seatsInOrder ["b", "a"]) := by
  unfold Finmap.Visits
  decide +kernel

/-- In both sets the weight of the key is the weight of one seat or none at all, depending on the seat visited first. -/
theorem key_shared_by_two_seats :
    sharedByLive.snapshot.voteWeightByKey (sharedByLive.seatsInOrder ["a", "b"]) "shared key" = some 5000000000 ∧
    sharedByLive.snapshot.voteWeightByKey (sharedByLive.seatsInOrder ["b", "a"]) "shared key" = none ∧
    (sharedWithExited.seats.lookup "a").map (·.status) = some .exited ∧
    sharedWithExited.snapshot.voteWeightByKey (sharedWithExited.seatsInOrder ["a", "b"]) "shared key" = none ∧
    sharedWithExited.snapshot.voteWeightByKey (sharedWithExited.seatsInOrder ["b", "a"]) "shared key" =
      some 5000000000 ∧
    ¬ sharedByLive.OneKeyOneSeat ∧ ¬ sharedWithExited.OneKeyOneSeat := by
  refine ⟨by decide +kernel, by decide +kernel, by decide +kernel, by decide +kernel, by decide +kernel,
    fun hone => ?_, fun hone => ?_⟩
  · obtain ⟨h, h'⟩ := sharedKey_visits sharedByLive (by simp)
    exact absurd (hone.voteWeightByKey _ _ h h' "shared key") (by decide +kernel)
  · obtain ⟨h, h'⟩ := sharedKey_visits sharedWithExited (by simp)
    exact absurd (hone.voteWeightByKey _ _ h h' "shared key") (by decide +kernel)

end Reducer

end aethernet.validatorlifecycle
