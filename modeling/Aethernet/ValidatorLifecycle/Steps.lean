import Aethernet.ValidatorLifecycle.Reducer
import Aethernet.Transition.Invariant

open golang transition

namespace aethernet.validatorlifecycle

def SeatStatus.weigh (s : SeatStatus) (stake : UInt64) : UInt64 :=
  match s with
  | active => stake
  | probationary => stake / 2
  | _ => 0

theorem SeatStatus.weigh_of_not_participating {s : SeatStatus} (hidle : s.isParticipating = false) (stake : UInt64) :
    s.weigh stake = 0 := by
  cases s <;> first | rfl | cases hidle

def ValidatorSeat.cooldown (seat : ValidatorSeat) : UInt64 × UInt64 :=
  (seat.cooldownStartCausalTS, seat.cooldownDurationEvents)

namespace Reducer

variable {sha256 : String → List UInt8} {ev : LifecycleEvent} {r : Reducer}

def joinSeatID (sha256 : String → List UInt8) (ev : LifecycleEvent) : ValidatorID :=
  if ev.seatID = "" then deriveValidatorID sha256 ev.eventID else ev.seatID

/-- The join passes its checks: a key, enough stake unless it is of the genesis set, and a seat that is new or
    exited. -/
def joins (sha256 : String → List UInt8) (r : Reducer) (ev : LifecycleEvent) : Bool :=
  ev.operatorKey ≠ "" && (ev.isGenesis || minBondedStake ≤ ev.stakeAmount) &&
    (r.seats.lookup (joinSeatID sha256 ev)).all (·.status = .exited)

/-- The key rotation passes its checks for this seat. -/
def rotates (ev : LifecycleEvent) (seat : ValidatorSeat) : Bool :=
  ev.operatorKey ≠ "" && !seat.status.isTerminal && seat.operatorKey ≠ ev.operatorKey &&
    (ev.oldOperatorKey = "" || ev.oldOperatorKey = seat.operatorKey)

/-- The recovery rotation passes its checks for this seat. -/
def recovers (ev : LifecycleEvent) (seat : ValidatorSeat) : Bool :=
  ev.newPublicKey ≠ "" && seat.recoveryKey ≠ "" && ev.recoveryKey = seat.recoveryKey && !seat.status.isTerminal &&
    seat.operatorKey ≠ ev.newPublicKey

def suspends (ev : LifecycleEvent) (seat : ValidatorSeat) : Bool :=
  seat.recoveryKey ≠ "" && ev.recoveryKey = seat.recoveryKey && seat.status.canTransitionTo .suspended

variable {seat : ValidatorSeat}

theorem checkRecovery_eq_none_iff :
    checkRecovery ev seat = none ↔ seat.recoveryKey ≠ "" ∧ ev.recoveryKey = seat.recoveryKey := by
  unfold checkRecovery
  split_ifs with hnone hmismatch <;> simp_all

theorem checkTransition_eq_none_iff {target : SeatStatus} :
    checkTransition target ev seat = none ↔ seat.status.canTransitionTo target = true := by
  unfold checkTransition
  split_ifs with hallowed <;> simp [hallowed]

theorem checkTerminal_eq_none_iff {action : String} :
    checkTerminal action ev seat = none ↔ seat.status.isTerminal = false := by
  unfold checkTerminal
  split_ifs with hterminal <;> simp [hterminal]

theorem checkNewKey_eq_none_iff {publicKey : PublicKey} :
    checkNewKey publicKey ev seat = none ↔ seat.operatorKey ≠ publicKey := by
  unfold checkNewKey
  split_ifs with hsame <;> simp [hsame]

theorem emergencySuspend_checks_iff :
    (checkRecovery ev seat).or (checkTransition .suspended ev seat) = none ↔ suspends ev seat = true := by
  rw [Option.or_eq_none_iff, checkRecovery_eq_none_iff, checkTransition_eq_none_iff]
  simp [suspends]

theorem rotateKey_checks_iff :
    ev.operatorKey ≠ "" ∧ ((checkTerminal "rotate key" ev seat).or (checkNewKey ev.operatorKey ev seat)).or
      (if ev.oldOperatorKey ≠ "" ∧ ev.oldOperatorKey ≠ seat.operatorKey then
        some (.wrap "" errOldKeyMismatch
          s!": seat={ev.seatID} expected={seat.operatorKey} got={ev.oldOperatorKey}")
       else none) = none ↔ rotates ev seat = true := by
  rw [Option.or_eq_none_iff, Option.or_eq_none_iff, checkTerminal_eq_none_iff, checkNewKey_eq_none_iff]
  simp only [rotates, ite_eq_right_iff, reduceCtorEq, imp_false, not_and_or, not_not, Bool.and_eq_true, Bool.or_eq_true,
    decide_eq_true_eq, Bool.not_eq_true', and_assoc]

theorem recoveryRotate_checks_iff :
    ev.newPublicKey ≠ "" ∧ ((checkRecovery ev seat).or (checkTerminal "rotate key" ev seat)).or
      (checkNewKey ev.newPublicKey ev seat) = none ↔ recovers ev seat = true := by
  rw [Option.or_eq_none_iff, Option.or_eq_none_iff, checkTerminal_eq_none_iff, checkNewKey_eq_none_iff,
    checkRecovery_eq_none_iff]
  simp [recovers, and_assoc]

/-- A seat whose keys, and identity, an event leaves alone. -/
structure SameKeys (seat seat' : ValidatorSeat) : Prop where
  id : seat'.id = seat.id := by rfl
  operatorKey : seat'.operatorKey = seat.operatorKey := by rfl
  keyHistory : seat'.keyHistory = seat.keyHistory := by rfl
  recoveryKey : seat'.recoveryKey = seat.recoveryKey := by rfl
  pendingRotation : seat'.pendingRotation = seat.pendingRotation := by rfl

def setsCooldown (ev : LifecycleEvent) : Bool :=
  ev.kind = .beginCooldown || ev.kind = .slash && !ev.permanentExclusion && 0 < ev.cooldownDuration

/-- What an event does to a seat that it moves to another status. -/
structure Moved (ev : LifecycleEvent) (nextVersion : UInt64) (seat seat' : ValidatorSeat) : Prop
    extends SameKeys seat seat' where
  transition : seat.status.canTransitionTo seat'.status = true
  join : seat'.status ≠ .pendingJoin := by simp
  weight : seat'.weight = seat'.status.weigh seat'.stakeAmount := by rfl
  effective : seat'.effectiveFromVersion = nextVersion := by rfl
  recovery : ev.kind = .emergencySuspend → suspends ev seat = true := by simp [*]
  cooldown : seat'.cooldown = if setsCooldown ev then (ev.causalTS, ev.cooldownDuration)
    else if ev.kind = .reinstate then (0, 0) else seat.cooldown := by simp [*, ValidatorSeat.cooldown,
      setsCooldown, chargeSlash]

/-- What an event other than a join does to the seat it is for, and whether it advances the version. -/
inductive SeatEdit (ev : LifecycleEvent) (nextVersion : UInt64) (seat : ValidatorSeat) :
    Bool → ValidatorSeat → Prop
  | move {seat' : ValidatorSeat} (h : Moved ev nextVersion seat seat') : SeatEdit ev nextVersion seat true seat'
  | rekey {publicKey : PublicKey} {pendingRotation : Option PendingRecoveryRotation}
      (hchecks : ev.kind = .rotateKey ∧ publicKey = ev.operatorKey ∧ rotates ev seat = true ∨
        ev.kind = .recoveryRotate ∧ publicKey = ev.newPublicKey ∧ recovers ev seat = true)
      (hpending : seat.pendingRotation = none → pendingRotation = none) :
      SeatEdit ev nextVersion seat true
        { seat with
          operatorKey := publicKey
          keyHistory := seat.keyHistory ++ [nextKeyEpoch ev publicKey seat]
          effectiveFromVersion := nextVersion
          pendingRotation := pendingRotation }
  | restake (hkind : ev.kind = .stakeUpdate) (hlive : seat.status.isTerminal = false) :
      SeatEdit ev nextVersion seat true
        { seat with
          stakeAmount := ev.stakeAmount
          weight := if seat.status.isParticipating then ev.stakeAmount else seat.weight
          effectiveFromVersion := nextVersion }
  | charge (hkind : ev.kind = .slash) (hidle : seat.status.isParticipating = false)
      (hlive : seat.status.isTerminal = false) :
      SeatEdit ev nextVersion seat false (chargeSlash ev seat)
  | commit (hkind : ev.kind = .recoveryKeySet) (hkey : ev.recoveryKey ≠ "") (hlive : seat.status.isTerminal = false) :
      SeatEdit ev nextVersion seat false { seat with recoveryKey := ev.recoveryKey }
  | cancel (hkind : ev.kind = .recoveryRotateCancel) :
      SeatEdit ev nextVersion seat false { seat with pendingRotation := none }

/-- The validator sets one `Apply` may end in, errors included. -/
inductive Applied (sha256 : String → List UInt8) (ev : LifecycleEvent) (r : Reducer) : Reducer → Prop
  | unchanged : Applied sha256 ev r r
  | joined (hkind : ev.kind = .join) (hjoins : joins sha256 r ev = true)
      (hnew : r.seats.lookup (joinSeatID sha256 ev) = none) :
      Applied sha256 ev r
        { seats := r.seats.insert (joinSeatID sha256 ev) (newSeat ev (joinSeatID sha256 ev) (r.version + 1))
          version := r.version + 1 }
  | rejoined {seat : ValidatorSeat} (hkind : ev.kind = .join) (hjoins : joins sha256 r ev = true)
      (hlookup : r.seats.lookup (joinSeatID sha256 ev) = some seat) (hexited : seat.status = .exited) :
      Applied sha256 ev r
        { seats := r.seats.insert (joinSeatID sha256 ev) (rejoin ev (r.version + 1) seat)
          version := r.version + 1 }
  | edited {seat seat' : ValidatorSeat} (bump : Bool) (hlookup : r.seats.lookup ev.seatID = some seat)
      (hedit : SeatEdit ev (r.version + 1) seat bump seat') :
      Applied sha256 ev r
        { seats := r.seats.insert ev.seatID seat', version := if bump then r.version + 1 else r.version }

variable {bump : Bool} {check : ValidatorSeat → Option Error} {update : UInt64 → ValidatorSeat → ValidatorSeat}

theorem editSeat_of_check (hlookup : r.seats.lookup ev.seatID = some seat) (hcheck : check seat = none) :
    r.editSeat bump ev check update = (.ok (), { seats := r.seats.insert ev.seatID (update (r.version + 1) seat)
                                                 version := if bump then r.version + 1 else r.version }) := by
  simp [editSeat, hlookup, hcheck]

theorem editSeat_applied
    (hedit : ∀ seat, check seat = none → SeatEdit ev (r.version + 1) seat bump (update (r.version + 1) seat)) :
    Applied sha256 ev r (r.editSeat bump ev check update).2 := by
  unfold editSeat
  cases hlookup : r.seats.lookup ev.seatID with
  | none => exact .unchanged
  | some seat =>
    cases hcheck : check seat with
    | some err =>
      simp only [hcheck]
      exact .unchanged
    | none =>
      simp only [hcheck]
      exact .edited bump hlookup (hedit seat hcheck)

theorem applyJoin_applied (hkind : ev.kind = .join) : Applied sha256 ev r (r.applyJoin sha256 ev).2 := by
  unfold applyJoin
  split
  · exact .unchanged
  · rename_i hkey
    split
    · exact .unchanged
    · rename_i hstake
      have hbonded : (ev.isGenesis || decide (minBondedStake ≤ ev.stakeAmount)) = true := by
        cases hset : ev.isGenesis <;> simp_all
      dsimp only
      split
      · rename_i existing hlookup
        split
        · exact .unchanged
        · rename_i hexited
          have hexited := not_not.mp hexited
          split
          · exact .unchanged
          · refine .rejoined hkind ?_ hlookup hexited
            simp [joins, hkey, hbonded, joinSeatID, hlookup, hexited]
      · rename_i hlookup
        refine .joined hkind ?_ hlookup
        simp [joins, hkey, hbonded, joinSeatID, hlookup]

theorem applyExclude_applied (hkind : ev.kind = .exclude) : Applied sha256 ev r (r.applyExclude ev).2 := by
  unfold applyExclude
  split
  · exact .unchanged
  · rename_i seat hlookup
    split
    · exact .unchanged
    · split
      · exact .unchanged
      · split
        · exact .unchanged
        · rename_i hcheck
          exact .edited true hlookup (.move { transition := checkTransition_eq_none_iff.mp hcheck })

theorem not_participating_of_refused {s target : SeatStatus} (hlive : s.isTerminal = false)
    (htarget : target = .excluded ∨ target = .suspended) (hrefused : s.canTransitionTo target = false) :
    s.isParticipating = false := by
  rcases htarget with rfl | rfl <;> cases s <;>
    simp_all [SeatStatus.isTerminal, SeatStatus.isParticipating, SeatStatus.canTransitionTo,
      SeatStatus.validTransitions]

theorem applySlash_applied (hkind : ev.kind = .slash) : Applied sha256 ev r (r.applySlash ev).2 := by
  unfold applySlash
  split
  · exact .unchanged
  · rename_i seat hlookup
    split
    · split
      · exact .unchanged
      · exact .unchanged
    · rename_i hlive
      split
      · exact .unchanged
      · dsimp only
        split
        · rename_i err hcheck
          have hrefused : seat.status.canTransitionTo
              (if ev.permanentExclusion then SeatStatus.excluded else .suspended) = false := by
            rw [← Bool.not_eq_true]
            intro hallowed
            have hnone : checkTransition _ ev (chargeSlash ev seat) = none := checkTransition_eq_none_iff.mpr hallowed
            rw [hnone] at hcheck
            cases hcheck
          have hlive := Bool.not_eq_true _ ▸ hlive
          refine .edited false hlookup (.charge hkind (not_participating_of_refused hlive ?_ hrefused) hlive)
          cases ev.permanentExclusion <;> simp
        · rename_i hcheck
          refine .edited true hlookup ?_
          have htransition := checkTransition_eq_none_iff.mp hcheck
          unfold sentence
          cases hpermanent : ev.permanentExclusion with
          | true =>
            rw [hpermanent] at htransition
            exact .move { transition := htransition }
          | false =>
            rw [hpermanent] at htransition
            refine .move { transition := htransition, cooldown := ?_ }
            by_cases hduration : 0 < ev.cooldownDuration <;> simp [ValidatorSeat.cooldown, setsCooldown, *, chargeSlash]

/-- Every `Apply` ends in one of these validator sets. -/
theorem apply_applied (sha256 : String → List UInt8) (ev : LifecycleEvent) (r : Reducer) :
    Applied sha256 ev r (r.apply sha256 ev).2 := by
  cases hkind : ev.kind with
  | join =>
    simp only [apply, hkind]
    exact applyJoin_applied hkind
  | activate | suspend | beginCooldown =>
    simp only [apply, hkind]
    refine editSeat_applied fun seat hcheck => ?_
    exact .move { transition := checkTransition_eq_none_iff.mp hcheck }
  | reinstate | exit =>
    simp only [apply, hkind]
    refine editSeat_applied fun seat hcheck => ?_
    exact .move { transition := checkTransition_eq_none_iff.mp (Option.or_eq_none_iff.mp hcheck).1 }
  | exclude =>
    simp only [apply, hkind]
    exact applyExclude_applied hkind
  | rotateKey =>
    simp only [apply, hkind, applyRotateKey]
    split
    · exact .unchanged
    · rename_i hkey
      refine editSeat_applied fun seat hcheck => .rekey (.inl ⟨hkind, rfl, ?_⟩) fun h => h
      exact rotateKey_checks_iff.mp ⟨hkey, hcheck⟩
  | stakeUpdate =>
    simp only [apply, hkind]
    refine editSeat_applied fun seat hcheck => ?_
    exact .restake hkind (checkTerminal_eq_none_iff.mp hcheck)
  | slash =>
    simp only [apply, hkind]
    exact applySlash_applied hkind
  | recoveryKeySet =>
    simp only [apply, hkind, applyRecoveryKeySet]
    split
    · exact .unchanged
    · exact editSeat_applied fun seat hcheck => .commit hkind ‹_› (checkTerminal_eq_none_iff.mp hcheck)
  | emergencySuspend =>
    simp only [apply, hkind]
    refine editSeat_applied fun seat hcheck => ?_
    exact .move { transition := checkTransition_eq_none_iff.mp (Option.or_eq_none_iff.mp hcheck).2
                  recovery := fun _ => emergencySuspend_checks_iff.mp hcheck }
  | recoveryRotate =>
    simp only [apply, hkind, applyRecoveryRotate]
    split
    · exact .unchanged
    · rename_i hkey
      refine editSeat_applied fun seat hcheck => .rekey (.inr ⟨hkind, rfl, ?_⟩) fun _ => rfl
      exact recoveryRotate_checks_iff.mp ⟨hkey, hcheck⟩
  | recoveryRotateCancel =>
    simp only [apply, hkind]
    exact editSeat_applied fun seat _ => .cancel hkind
  | undeclared text hnew =>
    simp only [apply, hkind]
    exact .unchanged

/-- The validator set after an event, whatever `Apply` returned. -/
def next (sha256 : String → List UInt8) (r : Reducer) (ev : LifecycleEvent) : Reducer := (r.apply sha256 ev).2

theorem next_applied (sha256 : String → List UInt8) (ev : LifecycleEvent) (r : Reducer) :
    Applied sha256 ev r (r.next sha256 ev) := apply_applied sha256 ev r

theorem next_of_rotates (hkind : ev.kind = .rotateKey) (hlookup : r.seats.lookup ev.seatID = some seat)
    (hrotates : rotates ev seat = true) : r.next sha256 ev =
      { seats := r.seats.insert ev.seatID
          { seat with
            operatorKey := ev.operatorKey
            keyHistory := seat.keyHistory ++ [nextKeyEpoch ev ev.operatorKey seat]
            effectiveFromVersion := r.version + 1 }
        version := r.version + 1 } := by
  obtain ⟨hkey, hcheck⟩ := rotateKey_checks_iff.mpr hrotates
  rw [next, apply, hkind]
  simp only [applyRotateKey, if_neg hkey]
  exact congrArg Prod.snd (editSeat_of_check hlookup hcheck)

theorem next_of_recovers (hkind : ev.kind = .recoveryRotate) (hlookup : r.seats.lookup ev.seatID = some seat)
    (hrecovers : recovers ev seat = true) : r.next sha256 ev =
      { seats := r.seats.insert ev.seatID
          { seat with
            operatorKey := ev.newPublicKey
            keyHistory := seat.keyHistory ++ [nextKeyEpoch ev ev.newPublicKey seat]
            effectiveFromVersion := r.version + 1
            pendingRotation := none }
        version := r.version + 1 } := by
  obtain ⟨hkey, hcheck⟩ := recoveryRotate_checks_iff.mpr hrecovers
  rw [next, apply, hkind]
  simp only [applyRecoveryRotate, if_neg hkey]
  exact congrArg Prod.snd (editSeat_of_check hlookup hcheck)

theorem next_of_commits (hkind : ev.kind = .recoveryKeySet) (hlookup : r.seats.lookup ev.seatID = some seat)
    (hkey : ev.recoveryKey ≠ "") (hlive : seat.status.isTerminal = false) : r.next sha256 ev =
      { seats := r.seats.insert ev.seatID { seat with recoveryKey := ev.recoveryKey }, version := r.version } := by
  rw [next, apply, hkind]
  simp only [applyRecoveryKeySet, if_neg hkey]
  exact congrArg Prod.snd (editSeat_of_check hlookup (checkTerminal_eq_none_iff.mpr hlive))

theorem next_of_suspends (hkind : ev.kind = .emergencySuspend) (hlookup : r.seats.lookup ev.seatID = some seat)
    (hsuspends : suspends ev seat = true) : r.next sha256 ev =
      { seats := r.seats.insert ev.seatID
          { seat with
            status := .suspended
            suspensionReason := "recovery:" ++ ev.reason
            weight := 0
            effectiveFromVersion := r.version + 1 }
        version := r.version + 1 } := by
  rw [next, apply, hkind]
  exact congrArg Prod.snd (editSeat_of_check hlookup (emergencySuspend_checks_iff.mpr hsuspends))

theorem next_seat (sha256 : String → List UInt8) (ev : LifecycleEvent) {id : ValidatorID}
    (hlookup : r.seats.lookup id = some seat) :
    ∃ seat', (r.next sha256 ev).seats.lookup id = some seat' ∧ (seat' = seat ∨
      (ev.kind = .join ∧ id = joinSeatID sha256 ev ∧ seat.status = .exited ∧ seat' = rejoin ev (r.version + 1) seat) ∨
      (id = ev.seatID ∧ ∃ bump, SeatEdit ev (r.version + 1) seat bump seat')) := by
  have happlied := next_applied sha256 ev r
  generalize r.next sha256 ev = r' at happlied
  cases happlied with
  | unchanged => exact ⟨seat, hlookup, .inl rfl⟩
  | joined hkind hjoins hnew =>
    have hne : id ≠ joinSeatID sha256 ev := by
      rintro rfl
      cases hlookup.symm.trans hnew
    exact ⟨seat, (Finmap.lookup_insert_of_ne _ hne).trans hlookup, .inl rfl⟩
  | rejoined hkind hjoins hold hexited =>
    by_cases hid : id = joinSeatID sha256 ev
    · obtain rfl := Option.some.inj (hlookup.symm.trans (hid ▸ hold))
      exact ⟨_, hid ▸ Finmap.lookup_insert _, .inr (.inl ⟨hkind, hid, hexited, rfl⟩)⟩
    · exact ⟨seat, (Finmap.lookup_insert_of_ne _ hid).trans hlookup, .inl rfl⟩
  | edited bump hold hedit =>
    by_cases hid : id = ev.seatID
    · obtain rfl := Option.some.inj (hlookup.symm.trans (hid ▸ hold))
      exact ⟨_, hid ▸ Finmap.lookup_insert _, .inr (.inr ⟨hid, bump, hedit⟩)⟩
    · exact ⟨seat, (Finmap.lookup_insert_of_ne _ hid).trans hlookup, .inl rfl⟩

/-- The validator set a sequence of `Apply` calls leads to. -/
def applyAll (sha256 : String → List UInt8) (events : List LifecycleEvent) (r : Reducer) : Reducer :=
  events.foldl (next sha256) r

theorem applyAll_append (sha256 : String → List UInt8) (events events' : List LifecycleEvent) (r : Reducer) :
    applyAll sha256 (events ++ events') r = applyAll sha256 events' (applyAll sha256 events r) :=
  List.foldl_append

theorem next_forall_seats {Q : UInt64 → ValidatorID → ValidatorSeat → Prop}
    (hkept : ∀ id seat, r.seats.lookup id = some seat → Q r.version id seat ∧ Q (r.version + 1) id seat)
    (hjoined : ev.kind = .join → r.seats.lookup (joinSeatID sha256 ev) = none →
      Q (r.version + 1) (joinSeatID sha256 ev) (newSeat ev (joinSeatID sha256 ev) (r.version + 1)))
    (hrejoined : ∀ seat, ev.kind = .join → r.seats.lookup (joinSeatID sha256 ev) = some seat →
      seat.status = .exited → Q (r.version + 1) (joinSeatID sha256 ev) (rejoin ev (r.version + 1) seat))
    (hedited : ∀ seat seat' bump, r.seats.lookup ev.seatID = some seat →
      SeatEdit ev (r.version + 1) seat bump seat' →
      Q (if bump then r.version + 1 else r.version) ev.seatID seat') :
    ∀ id seat, (r.next sha256 ev).seats.lookup id = some seat → Q (r.next sha256 ev).version id seat := by
  have hwrite : ∀ {version id' seat'}, version = r.version ∨ version = r.version + 1 → Q version id' seat' →
      ∀ id seat, (r.seats.insert id' seat').lookup id = some seat → Q version id seat := by
    intro version id' seat' hversion hnew id seat hlookup
    rw [Finmap.lookup_insert_eq] at hlookup
    split_ifs at hlookup with hid
    · obtain rfl := Option.some.inj hlookup
      exact hid ▸ hnew
    · rcases hversion with rfl | rfl
      · exact (hkept id seat hlookup).1
      · exact (hkept id seat hlookup).2
  have happlied := next_applied sha256 ev r
  generalize r.next sha256 ev = r' at happlied
  cases happlied with
  | unchanged => exact fun id seat hlookup => (hkept id seat hlookup).1
  | joined hkind hjoins hnew => exact hwrite (.inr rfl) (hjoined hkind hnew)
  | rejoined hkind hjoins hlookup hexited => exact hwrite (.inr rfl) (hrejoined _ hkind hlookup hexited)
  | edited bump hlookup hedit =>
    refine hwrite ?_ (hedited _ _ bump hlookup hedit)
    cases bump <;> simp

end Reducer

end aethernet.validatorlifecycle
