import Aethernet.ValidatorLifecycle.Reducer
import Aethernet.Golang.Sort

open golang

namespace aethernet.validatorlifecycle

/-- `ValidatorSnapshot`, without the digest, which only `ComputeDigest` writes and reads. -/
structure ValidatorSnapshot where
  version : UInt64
  seats : Map ValidatorID ValidatorSeat
  totalActiveWeight : UInt64
  activeSeatCount : ℕ

/-- The seat takes part at this version of the validator set. -/
def ValidatorSeat.participatesAt (version : UInt64) (seat : ValidatorSeat) : Bool :=
  seat.status.isParticipating && seat.effectiveFromVersion ≤ version

/-- `Reducer.Snapshot`. -/
def Reducer.snapshot (r : Reducer) : ValidatorSnapshot where
  version := r.version
  seats := r.seats
  totalActiveWeight := r.seats.sumBy fun seat => if seat.participatesAt r.version then seat.weight else 0
  activeSeatCount := r.seats.sumBy fun seat => if seat.participatesAt r.version then 1 else 0

variable (vs : ValidatorSnapshot) (seat : ValidatorSeat)

namespace ValidatorSnapshot

/-- What `VoteWeightByKey` answers for the seat that holds the key. -/
def seatVoteWeight : Option UInt64 :=
  if !seat.status.isParticipating ∨ seat.weight = 0 then none
  else if vs.version < seat.effectiveFromVersion then none
  else some seat.weight

/-- The weight a seat votes with, zero when it is not eligible. -/
def voteWeight : ℕ :=
  ((vs.seatVoteWeight seat).getD 0).toNat

/-- The weight of the seats these operator keys hold. -/
def heldWeight (keys : Finset PublicKey) : ℕ :=
  vs.seats.sumBy fun seat => if seat.operatorKey ∈ keys then vs.voteWeight seat else 0

/-- `VoteWeightByKey`; `order` is the order in which its loop visits the seats. -/
def voteWeightByKey (order : List ValidatorSeat) (operatorKey : PublicKey) : Option UInt64 :=
  (order.find? fun seat => seat.operatorKey = operatorKey).bind vs.seatVoteWeight

end ValidatorSnapshot

def errSeatNotInSnapshot : Error := .new "validatorlifecycle: seat not in snapshot"
def errSeatNotEligible : Error := .new "validatorlifecycle: seat not eligible to vote"

/-- `SeatByOperatorKey`; `order` is the order in which its loop visits the seats. -/
def Reducer.seatByOperatorKey (order : List ValidatorSeat) (key : PublicKey) : Except Error ValidatorSeat :=
  match order.find? fun s => s.operatorKey = key with
  | some s => .ok s
  | none => .error (.wrap "" errSeatNotFound s!": operator_key={key}")

namespace ValidatorSnapshot

/-- `SortedSeatIDs`; `visited` are the IDs in the order in which the loop over the seats appends them. -/
def sortedSeatIDs (visited : List ValidatorID) : List ValidatorID := sortSlice (visited : Multiset ValidatorID)

/-- `IsSeatVoteEligible`, with the error of a seat that is not. -/
def isSeatVoteEligible (snap : ValidatorSnapshot) (seatID : ValidatorID) : Option Error :=
  match snap.seats.lookup seatID with
  | none => some (.wrap "" errSeatNotInSnapshot s!": {seatID}")
  | some seat =>
    if !seat.status.isParticipating then
      some (.wrap "" errSeatNotEligible s!": seat {seatID} has status {seat.status.text}")
    else if seat.weight = 0 then some (.wrap "" errSeatNotEligible s!": seat {seatID} has zero weight")
    else none

/-- The loop of `IsSeatVoteEligibleByKey`. An ID of the slice is a key of the map. -/
def eligibleByKey (snap : ValidatorSnapshot) (operatorKey : PublicKey) : List ValidatorID → Except Error ValidatorID
  | [] => .error (.wrap "" errSeatNotInSnapshot s!": operator_key={operatorKey}")
  | id :: rest =>
    if (snap.seats.lookup id).map (·.operatorKey) = some operatorKey then
      match snap.isSeatVoteEligible id with
      | some err => .error err
      | none => .ok id
    else eligibleByKey snap operatorKey rest

def isSeatVoteEligibleByKey (snap : ValidatorSnapshot) (visited : List ValidatorID) (operatorKey : PublicKey) :
    Except Error ValidatorID :=
  snap.eligibleByKey operatorKey (sortedSeatIDs visited)

end ValidatorSnapshot

structure CommitteePolicy where
  minSize : ℕ
  maxSize : ℕ

def defaultCommitteePolicy : CommitteePolicy where
  minSize := 3
  maxSize := 21

/-- `CommitteeSnapshot`, without the digest, which only `ComputeDigest` writes and reads. -/
structure CommitteeSnapshot where
  snapshotVersion : UInt64
  roundID : String
  members : List ValidatorID
  memberWeights : Map ValidatorID UInt64
  totalWeight : UInt64

/-- `ParticipatingSeats`: by increasing ID, whatever the order in which the loop over the seats visits them. -/
def ValidatorSnapshot.participatingSeats (vs : ValidatorSnapshot) : List ValidatorSeat :=
  (sortSlice vs.seats.keys.val).filterMap fun id =>
    (vs.seats.lookup id).filter fun seat => seat.participatesAt vs.version

def scoreLess : List UInt8 → List UInt8 → Bool
  | a :: as, b :: bs => if a ≠ b then a < b else scoreLess as bs
  | _, _ => false

variable (sha256 : List UInt8 → List UInt8)

/-- The score of a seat in a round; `sha256` is the hash of a byte string. -/
def sortitionScore (version : UInt64) (roundID : String) (seat : ValidatorSeat) : List UInt8 :=
  sha256 (roundID.toUTF8.data.toList ++ seat.id.toUTF8.data.toList ++ putUint64 version)

/-- `sortitionSelect`. Go leaves the order of equal scores open, which only a collision of hashes gives; here they stay
    in the order of their IDs. -/
def sortitionSelect (seats : List ValidatorSeat) (version : UInt64) (roundID : String) (targetSize : ℕ) :
    List ValidatorSeat :=
  let scored := seats.map fun seat => (seat, sortitionScore sha256 version roundID seat)
  ((scored.insertionSort fun a b => !scoreLess b.2 a.2).take targetSize).map Prod.fst

def selectBoundedCommittee (snap : ValidatorSnapshot) (roundID : String) (policy : CommitteePolicy) :
    CommitteeSnapshot :=
  let participating := snap.participatingSeats
  let targetSize := participating.length
  let targetSize := if policy.maxSize < targetSize then policy.maxSize else targetSize
  let targetSize := if targetSize < policy.minSize then policy.minSize else targetSize
  let targetSize := if participating.length < targetSize then participating.length else targetSize
  let selected :=
    if targetSize < participating.length then sortitionSelect sha256 participating snap.version roundID targetSize
    else participating
  { snapshotVersion := snap.version
    roundID := roundID
    members := sortSlice (selected.map (·.id) : Multiset ValidatorID)
    memberWeights := Finmap.ofInserts (selected.map fun seat => (seat.id, seat.weight))
    totalWeight := (selected.map (·.weight)).sum }

def ValidatorSnapshot.selectCommittee (vs : ValidatorSnapshot) (roundID : String) : CommitteeSnapshot :=
  selectBoundedCommittee sha256 vs roundID defaultCommitteePolicy

/-- `reducerCommitteeSource.SelectForRound`: the operator keys of the members. -/
def Reducer.selectForRound (reducer : Reducer) (eventID : String) : Map PublicKey Bool :=
  let snap := reducer.snapshot
  let cs := snap.selectCommittee sha256 eventID
  Finmap.ofInserts (cs.members.filterMap fun seatID => (snap.seats.lookup seatID).map fun seat =>
  (seat.operatorKey, true))

end aethernet.validatorlifecycle
