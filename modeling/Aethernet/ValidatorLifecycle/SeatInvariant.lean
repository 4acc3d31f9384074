import Aethernet.ValidatorLifecycle.Snapshot
import Aethernet.ValidatorLifecycle.Steps

open golang transition

namespace aethernet.validatorlifecycle

namespace ValidatorSeat

/-- The key epochs are numbered from one, and the last of them is the operator's key. -/
structure KeysInOrder (seat : ValidatorSeat) : Prop where
  epochs : (seat.keyHistory.map fun epoch => epoch.epoch.toNat) = List.range' 1 seat.keyHistory.length
  current : (seat.keyHistory.getLast?.map fun epoch => epoch.publicKey) = some seat.operatorKey

theorem KeysInOrder.ne_nil {seat : ValidatorSeat} (h : seat.KeysInOrder) : seat.keyHistory ≠ [] := by
  intro hnil
  have hcurrent := h.current
  simp [hnil] at hcurrent

theorem KeysInOrder.currentKeyEpoch {seat : ValidatorSeat} (h : seat.KeysInOrder) :
    seat.currentKeyEpoch.epoch.toNat = seat.keyHistory.length := by
  obtain ⟨earlier, last, hhistory⟩ := (List.eq_nil_or_concat' seat.keyHistory).resolve_left h.ne_nil
  have hepochs := h.epochs
  rw [hhistory, List.length_append, List.length_singleton, List.range'_concat, List.map_append] at hepochs
  have hlast := (List.append_inj' hepochs rfl).2
  rw [ValidatorSeat.currentKeyEpoch, hhistory, List.getLast?_concat]
  simpa [add_comm] using hlast

theorem KeysInOrder.concat {seat seat' : ValidatorSeat} {ev : LifecycleEvent} {publicKey : PublicKey}
    (h : seat.KeysInOrder) (hroom : seat.keyHistory.length + 1 < 2 ^ 64) (hkey : seat'.operatorKey = publicKey)
    (hhistory : seat'.keyHistory = seat.keyHistory ++ [Reducer.nextKeyEpoch ev publicKey seat]) :
    seat'.KeysInOrder where
  epochs := by
    have hnext : (Reducer.nextKeyEpoch ev publicKey seat).epoch.toNat = 1 + seat.keyHistory.length := by
      rw [Reducer.nextKeyEpoch, UInt64.toNat_add, h.currentKeyEpoch, UInt64.toNat_one, Nat.mod_eq_of_lt hroom, add_comm]
    rw [hhistory, List.length_append, List.length_singleton, List.range'_concat, List.map_append, h.epochs,
      List.map_singleton, hnext, mul_comm, mul_one]
  current := by
    rw [hhistory, List.getLast?_concat, hkey]
    rfl

/-- What holds of every seat of a validator set at this version. -/
structure WellFormed (version : UInt64) (seat : ValidatorSeat) : Prop extends KeysInOrder seat where
  idle : seat.status.isParticipating = false → seat.weight = 0
  effective : seat.effectiveFromVersion ≤ version

end ValidatorSeat

namespace Reducer

variable {sha256 : String → List UInt8} {ev : LifecycleEvent} {r : Reducer}

theorem next_version (sha256 : String → List UInt8) (ev : LifecycleEvent) (hroom : r.version.toNat + 1 < 2 ^ 64) :
    r.version.toNat ≤ (r.next sha256 ev).version.toNat ∧ (r.next sha256 ev).version.toNat ≤ r.version.toNat + 1 := by
  have hadvance : (r.version + 1).toNat = r.version.toNat + 1 := by
    rw [UInt64.toNat_add, UInt64.toNat_one, Nat.mod_eq_of_lt hroom]
  have happlied := next_applied sha256 ev r
  generalize r.next sha256 ev = r' at happlied
  cases happlied with
  | unchanged => exact ⟨le_rfl, Nat.le_succ _⟩
  | joined hkind hjoins hnew | rejoined hkind hjoins hlookup hexited => exact ⟨hadvance ▸ Nat.le_succ _, hadvance.le⟩
  | edited bump hlookup hedit =>
    cases bump with
    | true => exact ⟨hadvance ▸ Nat.le_succ _, hadvance.le⟩
    | false => exact ⟨le_rfl, Nat.le_succ _⟩

/-- The invariant that carries the induction: a key epoch costs a version, so a seat has no more of them. -/
def Sound (r : Reducer) : Prop :=
  ∀ id seat, r.seats.lookup id = some seat →
    seat.WellFormed r.version ∧ seat.keyHistory.length ≤ r.version.toNat

variable {nextVersion : UInt64} {seat seat' : ValidatorSeat} {bump : Bool}

section

variable (hedit : SeatEdit ev nextVersion seat bump seat')

include hedit

theorem SeatEdit.idle
    (hidle : seat.status.isParticipating = false → seat.weight = 0) (hidle' : seat'.status.isParticipating = false) :
    seat'.weight = 0 := by
  cases hedit with
  | move hmoved => rw [hmoved.weight, SeatStatus.weigh_of_not_participating hidle']
  | rekey hchecks | commit hkind hkey hlive | cancel hkind => exact hidle hidle'
  | restake hkind hlive =>
    have hstill : seat.status.isParticipating = false := hidle'
    simp only [hstill, Bool.false_eq_true, if_false]
    exact hidle hstill
  | charge hkind hstill => exact hidle hstill

theorem SeatEdit.effective : seat'.effectiveFromVersion = if bump then nextVersion else seat.effectiveFromVersion := by
  cases hedit with
  | move hmoved => exact hmoved.effective
  | rekey | restake | charge | commit | cancel => rfl

theorem SeatEdit.keysInOrder (hkeys : seat.KeysInOrder) (hroom : seat.keyHistory.length + 1 < 2 ^ 64) :
    seat'.KeysInOrder ∧ seat'.keyHistory.length ≤ seat.keyHistory.length + bump.toNat := by
  cases hedit with
  | move hmoved =>
    refine ⟨⟨?_, ?_⟩, ?_⟩
    · rw [hmoved.keyHistory, hkeys.epochs]
    · rw [hmoved.keyHistory, hmoved.operatorKey, hkeys.current]
    · rw [hmoved.keyHistory]
      exact Nat.le_add_right _ _
  | rekey hchecks => exact ⟨hkeys.concat hroom rfl rfl, by simp⟩
  | restake | charge | commit | cancel => exact ⟨⟨hkeys.epochs, hkeys.current⟩, Nat.le_add_right _ _⟩

end

theorem Sound.next (hsound : r.Sound) (hroom : r.version.toNat + 1 < 2 ^ 64) : (r.next sha256 ev).Sound := by
  have hadvance : (r.version + 1).toNat = r.version.toNat + 1 := by
    rw [UInt64.toNat_add, UInt64.toNat_one, Nat.mod_eq_of_lt hroom]
  have hle : r.version ≤ r.version + 1 := by
    rw [UInt64.le_iff_toNat_le, hadvance]
    exact Nat.le_succ _
  refine next_forall_seats (Q := fun version _ seat =>
    seat.WellFormed version ∧ seat.keyHistory.length ≤ version.toNat) ?_ ?_ ?_ ?_
  · intro id seat hlookup
    obtain ⟨hwell, hlength⟩ := hsound id seat hlookup
    refine ⟨⟨hwell, hlength⟩, ⟨hwell.toKeysInOrder, hwell.idle, UInt64.le_trans hwell.effective hle⟩, ?_⟩
    rw [hadvance]
    exact hlength.trans (Nat.le_succ _)
  · intro hkind hnew
    refine ⟨⟨⟨rfl, rfl⟩, fun _ => rfl, UInt64.le_refl _⟩, ?_⟩
    rw [hadvance]
    exact Nat.le_add_left 1 _
  · intro seat hkind hlookup hexited
    obtain ⟨hwell, hlength⟩ := hsound _ seat hlookup
    have hidle : seat.status.isParticipating = false := by rw [hexited]; rfl
    refine ⟨⟨hwell.toKeysInOrder.concat (by omega) rfl rfl, fun _ => hwell.idle hidle, UInt64.le_refl _⟩, ?_⟩
    rw [hadvance, rejoin, List.length_append, List.length_singleton]
    exact Nat.succ_le_succ hlength
  · intro seat seat' bump hlookup hedit
    obtain ⟨hwell, hlength⟩ := hsound _ seat hlookup
    obtain ⟨hkeys, hgrown⟩ := hedit.keysInOrder hwell.toKeysInOrder (by omega)
    have heffective := hedit.effective
    cases bump with
    | true =>
      refine ⟨⟨hkeys, hedit.idle hwell.idle, heffective ▸ UInt64.le_refl _⟩, ?_⟩
      rw [if_pos rfl, hadvance]
      exact hgrown.trans (Nat.succ_le_succ hlength)
    | false => exact ⟨⟨hkeys, hedit.idle hwell.idle, heffective ▸ hwell.effective⟩, hgrown.trans hlength⟩

variable {events : List LifecycleEvent}

theorem meetsAlong_room (sha256 : String → List UInt8) (hroom : r.version.toNat + events.length < 2 ^ 64) :
    MeetsAlong (Reducer.next sha256) (fun r _ => r.version.toNat + 1 < 2 ^ 64) r events := by
  induction events generalizing r with
  | nil => trivial
  | cons ev events ih =>
    rw [List.length_cons] at hroom
    have hfirst : r.version.toNat + 1 < 2 ^ 64 := by omega
    have hstep := (next_version sha256 ev hfirst).2
    exact ⟨hfirst, ih (by omega)⟩

theorem sound_applyAll (sha256 : String → List UInt8) (hcount : events.length < 2 ^ 64) :
    (applyAll sha256 events {}).Sound :=
  invariant_of_meetsAlong (fun id seat hlookup => by simp at hlookup) (fun _ _ hsound hroom => hsound.next hroom)
    (meetsAlong_room sha256 ((Nat.zero_add _).trans_lt hcount))

theorem snapshot_of_wellFormed (hwell : ∀ id seat, r.seats.lookup id = some seat → seat.WellFormed r.version) :
    ((r.snapshot.seats.sumBy fun seat => seat.weight.toNat) < 2 ^ 64 →
      r.snapshot.totalActiveWeight.toNat = r.snapshot.seats.sumBy fun seat => seat.weight.toNat) ∧
    ∀ id seat, r.snapshot.seats.lookup id = some seat → seat.status.isParticipating = true →
      seat.participatesAt r.snapshot.version = true := by
  constructor
  · intro hsum
    have hcounted : (r.seats.sumBy fun seat => if seat.participatesAt r.version then seat.weight else 0) =
        r.seats.sumBy fun seat => seat.weight := by
      refine Finmap.sumBy_congr fun id seat hlookup => ?_
      by_cases hpart : seat.status.isParticipating = true
      · have heffective := (hwell id seat hlookup).effective
        simp [ValidatorSeat.participatesAt, hpart, heffective]
      · have hidle := (hwell id seat hlookup).idle (Bool.not_eq_true _ ▸ hpart)
        simp [hidle]
    rw [snapshot, hcounted]
    exact toNat_sumBy_of_lt r.seats _ hsum
  · intro id seat hlookup hpart
    have heffective := (hwell id seat hlookup).effective
    rw [ValidatorSeat.participatesAt, hpart, Bool.true_and, decide_eq_true_iff]
    exact heffective

/-- In every validator set reached by fewer than `2 ^ 64` calls, every seat is well formed, so that the snapshot taken
    then is complete, and no call on the way lowered the version or raised it by more than one. -/
theorem wellFormed_of_applyAll (sha256 : String → List UInt8) (events : List LifecycleEvent)
    (hcount : events.length < 2 ^ 64) :
    (∀ id seat, (applyAll sha256 events {}).seats.lookup id = some seat →
      seat.WellFormed (applyAll sha256 events {}).version) ∧
    (∀ before ev after, events = before ++ ev :: after →
      (applyAll sha256 before {}).version ≤ (applyAll sha256 (before ++ [ev]) {}).version ∧
      (applyAll sha256 (before ++ [ev]) {}).version.toNat ≤ (applyAll sha256 before {}).version.toNat + 1) ∧
    ∀ snap, snap = (applyAll sha256 events {}).snapshot →
      ((snap.seats.sumBy fun seat => seat.weight.toNat) < 2 ^ 64 →
        snap.totalActiveWeight.toNat = snap.seats.sumBy fun seat => seat.weight.toNat) ∧
      ∀ id seat, snap.seats.lookup id = some seat → seat.status.isParticipating = true →
        seat.participatesAt snap.version = true := by
  have hwell : ∀ id seat, (applyAll sha256 events {}).seats.lookup id = some seat →
      seat.WellFormed (applyAll sha256 events {}).version :=
    fun id seat hlookup => (sound_applyAll sha256 hcount id seat hlookup).1
  refine ⟨hwell, ?_, ?_⟩
  · rintro before ev after rfl
    have hroom := meetsAlong_room (r := {}) sha256 ((Nat.zero_add _).trans_lt hcount)
    have hlast : (applyAll sha256 before {}).version.toNat + 1 < 2 ^ 64 := hroom.at_append
    rw [applyAll_append]
    exact next_version sha256 ev hlast
  · rintro snap rfl
    exact snapshot_of_wellFormed hwell

/-- A validator joins the first seat with the minimum stake. -/
def firstJoin : LifecycleEvent where
  kind := .join
  eventID := "first join"
  causalTS := 1
  seatID := "first"
  operatorKey := "first key"
  stakeAmount := minBondedStake

/-- The first seat enters probation. -/
def firstReinstate : LifecycleEvent where
  kind := .reinstate
  eventID := "first reinstate"
  causalTS := 2
  seatID := "first"

/-- Another validator joins the second seat. -/
def secondJoin : LifecycleEvent where
  kind := .join
  eventID := "second join"
  causalTS := 3
  seatID := "second"
  operatorKey := "second key"
  stakeAmount := minBondedStake

/-- The stake of the second seat is reported again. -/
def secondRestake : LifecycleEvent where
  kind := .stakeUpdate
  eventID := "second restake"
  causalTS := 4
  seatID := "second"
  stakeAmount := minBondedStake

theorem wellFormed_after_joins :
    let r := applyAll (fun _ => []) [firstJoin, firstReinstate, secondJoin] {}
    r.version = 3 ∧ r.snapshot.totalActiveWeight = 5000000000 ∧
    ∀ id seat, r.seats.lookup id = some seat → seat.WellFormed r.version :=
  ⟨by decide +kernel, by decide +kernel,
    (wellFormed_of_applyAll (fun _ => []) [firstJoin, firstReinstate, secondJoin] (by decide)).1⟩

theorem version_of_restakes (sha256 : String → List UInt8) (n : ℕ) (hseat : r.seats.lookup "second" = some seat)
    (hlive : seat.status.isTerminal = false) :
    (applyAll sha256 (List.replicate n secondRestake) r).version = r.version + UInt64.ofNat n ∧
    (applyAll sha256 (List.replicate n secondRestake) r).seats.lookup "first" = r.seats.lookup "first" := by
  induction n generalizing r seat with
  | zero => simp [applyAll]
  | succ n ih =>
    obtain ⟨seat', hnext, hlive'⟩ : ∃ seat', r.next sha256 secondRestake =
        { seats := r.seats.insert "second" seat', version := r.version + 1 } ∧ seat'.status.isTerminal = false :=
      ⟨_, congrArg Prod.snd (editSeat_of_check hseat (checkTerminal_eq_none_iff.mpr hlive)), hlive⟩
    have hstart : applyAll sha256 (List.replicate (n + 1) secondRestake) r =
        applyAll sha256 (List.replicate n secondRestake) (r.next sha256 secondRestake) := rfl
    obtain ⟨hversion, hfirst⟩ := ih (r := r.next sha256 secondRestake) (by rw [hnext, Finmap.lookup_insert]) hlive'
    rw [hstart, hversion, hfirst, hnext]
    refine ⟨?_, Finmap.lookup_insert_of_ne _ (by decide)⟩
    rw [UInt64.ofNat_add, add_comm (UInt64.ofNat n), ← add_assoc]
    rfl

/-- The call that wraps the counter lowers the version, and leaves a seat on probation that is not effective in the
    snapshot taken then. -/
theorem version_wraps :
    ∃ before, (applyAll (fun _ => []) before {}).version = 18446744073709551615 ∧
      (applyAll (fun _ => []) (before ++ [secondRestake]) {}).version = 0 ∧
      ∃ seat, (applyAll (fun _ => []) (before ++ [secondRestake]) {}).seats.lookup "first" = some seat ∧
        seat.status.isParticipating = true ∧
        seat.participatesAt (applyAll (fun _ => []) (before ++ [secondRestake]) {}).snapshot.version = false := by
  let start := applyAll (fun _ => []) [firstJoin, firstReinstate, secondJoin] {}
  have hversion : start.version = 3 := by decide +kernel
  obtain ⟨second, hsecond, hlive⟩ : ∃ seat, start.seats.lookup "second" = some seat ∧
      seat.status.isTerminal = false := ⟨_, rfl, rfl⟩
  obtain ⟨first, hfirst, hstatus, heffective⟩ : ∃ seat, start.seats.lookup "first" = some seat ∧
      seat.status.isParticipating = true ∧ seat.effectiveFromVersion = 2 := ⟨_, rfl, rfl, rfl⟩
  have hrun : ∀ n,
      applyAll (fun _ => []) ([firstJoin, firstReinstate, secondJoin] ++ List.replicate n secondRestake) {} =
        applyAll (fun _ => []) (List.replicate n secondRestake) start := fun n => applyAll_append _ _ _ _
  refine ⟨[firstJoin, firstReinstate, secondJoin] ++ List.replicate 18446744073709551612 secondRestake, ?_, ?_, ?_⟩
  · rw [hrun, (version_of_restakes _ _ hsecond hlive).1, hversion]
    decide
  · rw [List.append_assoc, ← List.replicate_succ', hrun, (version_of_restakes _ _ hsecond hlive).1, hversion]
    decide
  · rw [List.append_assoc, ← List.replicate_succ', hrun]
    obtain ⟨hwrapped, hkept⟩ := version_of_restakes (fun _ => []) (18446744073709551612 + 1) hsecond hlive
    refine ⟨first, hkept.trans hfirst, hstatus, ?_⟩
    rw [ValidatorSeat.participatesAt, heffective, snapshot, hwrapped, hversion, hstatus]
    decide

section StakeWeight

/-- The stake-to-weight law: an active seat weighs its stake and a seat on probation half of it. -/
def Lawful (r : Reducer) : Prop :=
  ∀ id seat, r.seats.lookup id = some seat →
    (seat.status = .active → seat.weight = seat.stakeAmount) ∧
    (seat.status = .probationary → seat.weight = seat.stakeAmount / 2)

/-- The event gives a seat on probation a new stake, not zero. -/
def Overweighs (r : Reducer) (ev : LifecycleEvent) : Prop :=
  ev.kind = .stakeUpdate ∧ ev.stakeAmount ≠ 0 ∧
    ∃ seat, r.seats.lookup ev.seatID = some seat ∧ seat.status = .probationary

theorem SeatEdit.lawful (hedit : SeatEdit ev nextVersion seat bump seat')
    (hlaw : (seat.status = .active → seat.weight = seat.stakeAmount) ∧
      (seat.status = .probationary → seat.weight = seat.stakeAmount / 2))
    (hfits : ev.kind = .stakeUpdate → seat.status = .probationary → ev.stakeAmount = 0) :
    (seat'.status = .active → seat'.weight = seat'.stakeAmount) ∧
      (seat'.status = .probationary → seat'.weight = seat'.stakeAmount / 2) := by
  cases hedit with
  | move hmoved =>
    constructor
    · intro hactive
      rw [hmoved.weight, hactive, SeatStatus.weigh]
    · intro hprobation
      rw [hmoved.weight, hprobation, SeatStatus.weigh]
  | restake hkind hlive =>
    constructor
    · intro hactive
      have hactive : seat.status = .active := hactive
      simp [hactive, SeatStatus.isParticipating]
    · intro hprobation
      have hprobation : seat.status = .probationary := hprobation
      simp [hprobation, SeatStatus.isParticipating, hfits hkind hprobation]
  | charge hkind hidle =>
    -- the slash took its amount from the stake of a seat that has no weight
    constructor
    · intro hactive
      rw [show seat.status = .active from hactive] at hidle
      cases hidle
    · intro hprobation
      rw [show seat.status = .probationary from hprobation] at hidle
      cases hidle
  | rekey | commit | cancel => exact hlaw

theorem not_lawful_of_overweighs (hover : r.Overweighs ev) : ¬ (r.next sha256 ev).Lawful := by
  obtain ⟨hkind, hstake, seat, hlookup, hprobation⟩ := hover
  have hlive : seat.status.isTerminal = false := by rw [hprobation]; rfl
  have hnext : r.next sha256 ev = _ :=
    congrArg Prod.snd ((show r.apply sha256 ev = r.applyStakeUpdate ev by rw [apply, hkind]).trans
      (editSeat_of_check hlookup (checkTerminal_eq_none_iff.mpr hlive)))
  intro hlaw
  rw [hnext] at hlaw
  have hhalf := (hlaw ev.seatID _ (Finmap.lookup_insert _)).2 hprobation
  simp only [hprobation, SeatStatus.isParticipating, decide_true, Bool.true_or, if_true] at hhalf
  have hhalf := congrArg UInt64.toNat hhalf
  rw [UInt64.toNat_div, show (2 : UInt64).toNat = 2 from rfl] at hhalf
  refine hstake (UInt64.toNat_inj.mp ?_)
  rw [UInt64.toNat_zero]
  omega

theorem next_lawful_iff (hlaw : r.Lawful) : (r.next sha256 ev).Lawful ↔ ¬ r.Overweighs ev := by
  constructor
  · exact fun hnext hover => not_lawful_of_overweighs hover hnext
  · intro hfits
    refine next_forall_seats (Q := fun _ _ seat => (seat.status = .active → seat.weight = seat.stakeAmount) ∧
      (seat.status = .probationary → seat.weight = seat.stakeAmount / 2)) ?_ ?_ ?_ ?_
    · exact fun id seat hlookup => ⟨hlaw id seat hlookup, hlaw id seat hlookup⟩
    · exact fun _ _ => ⟨nofun, nofun⟩
    · exact fun _ _ _ _ => ⟨nofun, nofun⟩
    · intro seat seat' bump hlookup hedit
      refine hedit.lawful (hlaw _ _ hlookup) fun hkind hprobation => ?_
      by_contra hstake
      exact hfits ⟨hkind, hstake, seat, hlookup, hprobation⟩

/-- The law holds after each event exactly if no event gives a seat on probation a new stake. -/
theorem lawful_along_iff (sha256 : String → List UInt8) (events : List LifecycleEvent) :
    MeetsAlong (next sha256) (fun r ev => (r.next sha256 ev).Lawful) {} events ↔
      MeetsAlong (next sha256) (fun r ev => ¬ r.Overweighs ev) {} events :=
  meetsAlong_iff (fun id seat hlookup => by simp at hlookup) (fun _ _ hlaw _ => next_lawful_iff hlaw)
    (MeetsAlong.of_forall fun _ _ => trivial)

/-- The stake of the first seat is reported again. -/
def firstRestake : LifecycleEvent where
  kind := .stakeUpdate
  eventID := "first restake"
  causalTS := 3
  seatID := "first"
  stakeAmount := minBondedStake

/-- A stake update that changes nothing about the stake doubles the weight of a seat on probation. -/
theorem overweight_on_probation :
    let before := applyAll (fun _ => []) [firstJoin, firstReinstate] {}
    let after := applyAll (fun _ => []) [firstJoin, firstReinstate, firstRestake] {}
    (before.seats.lookup "first").map (fun seat => (seat.status, seat.stakeAmount, seat.weight)) =
      some (.probationary, 10000000000, 5000000000) ∧
    (after.seats.lookup "first").map (fun seat => (seat.status, seat.stakeAmount, seat.weight)) =
      some (.probationary, 10000000000, 10000000000) ∧ ¬ after.Lawful := by
  refine ⟨by decide +kernel, by decide +kernel, fun hlaw => ?_⟩
  obtain ⟨seat, hlookup, hprobation, hweight⟩ : ∃ seat,
      (applyAll (fun _ => []) [firstJoin, firstReinstate, firstRestake] {}).seats.lookup "first" = some seat ∧
      seat.status = .probationary ∧ seat.weight ≠ seat.stakeAmount / 2 := ⟨_, rfl, rfl, by decide +kernel⟩
  exact hweight ((hlaw "first" seat hlookup).2 hprobation)

end StakeWeight

end Reducer

end aethernet.validatorlifecycle
