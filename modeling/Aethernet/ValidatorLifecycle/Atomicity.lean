import Aethernet.ValidatorLifecycle.Reducer

open golang

namespace aethernet.validatorlifecycle

variable (sha256 : String → List UInt8) (ev : LifecycleEvent)

variable (r : Reducer)

namespace Reducer

/-- A call that returns an error leaves every seat and the version as they were. -/
def Atomic (result : Except Error Unit × Reducer) (r : Reducer) : Prop :=
  (∃ err, result.1 = .error err) → result.2 = r

theorem atomic_error (err : Error) (r : Reducer) : Atomic (.error err, r) r := fun _ => rfl

theorem atomic_ok (r' : Reducer) : Atomic (.ok (), r') r := by
  rintro ⟨err, herr⟩
  cases herr

theorem editSeat_atomic (bump : Bool) (ev : LifecycleEvent) (check : ValidatorSeat → Option Error)
    (update : UInt64 → ValidatorSeat → ValidatorSeat) (r : Reducer) :
    Atomic (r.editSeat bump ev check update) r := by
  unfold editSeat
  cases r.seats.lookup ev.seatID with
  | none => exact atomic_error _ r
  | some seat =>
    cases hcheck : check seat with
    | some err =>
      simp only [hcheck]
      exact atomic_error err r
    | none =>
      simp only [hcheck]
      exact atomic_ok r _

theorem applyJoin_atomic : Atomic (r.applyJoin sha256 ev) r := by
  unfold applyJoin
  split
  · exact atomic_error _ r
  · split
    · exact atomic_error _ r
    · dsimp only
      split
      · split
        · exact atomic_error _ r
        · split
          · exact atomic_error _ r
          · exact atomic_ok r _
      · exact atomic_ok r _

theorem applyExclude_atomic : Atomic (r.applyExclude ev) r := by
  unfold applyExclude
  split
  · exact atomic_error _ r
  · split
    · exact atomic_ok r _
    · split
      · exact atomic_error _ r
      · split
        · exact atomic_error _ r
        · exact atomic_ok r _

theorem applyRotateKey_atomic : Atomic (r.applyRotateKey ev) r := by
  unfold applyRotateKey
  split
  · exact atomic_error _ r
  · exact editSeat_atomic _ _ _ _ r

theorem applyRecoveryKeySet_atomic : Atomic (r.applyRecoveryKeySet ev) r := by
  unfold applyRecoveryKeySet
  split
  · exact atomic_error _ r
  · exact editSeat_atomic _ _ _ _ r

theorem applyRecoveryRotate_atomic : Atomic (r.applyRecoveryRotate ev) r := by
  unfold applyRecoveryRotate
  split
  · exact atomic_error _ r
  · exact editSeat_atomic _ _ _ _ r

/-- A slash that charges the seat and is then refused: it fits the stake, asks for a suspension, and
    finds the seat in a state that cannot be suspended but is not terminal. -/
def RefusedSlash : Prop :=
  ev.kind = .slash ∧ ev.permanentExclusion = false ∧
  ∃ seat, r.seats.lookup ev.seatID = some seat ∧ ev.slashAmount ≤ seat.stakeAmount ∧
    (seat.status = .pendingJoin ∨ seat.status = .suspended ∨ seat.status = .coolingDown)

theorem canTransitionTo_of_not_terminal {s : SeatStatus} (hlive : s.isTerminal = false) :
    s.canTransitionTo .excluded = true ∧
    (s.canTransitionTo .suspended = false ↔ s = .pendingJoin ∨ s = .suspended ∨ s = .coolingDown) := by
  cases s <;> simp_all [SeatStatus.isTerminal, SeatStatus.canTransitionTo, SeatStatus.validTransitions]

theorem applySlash_atomic_iff {ev : LifecycleEvent} (hkind : ev.kind = .slash) (r : Reducer) :
    Atomic (r.applySlash ev) r ↔ ¬ RefusedSlash ev r := by
  unfold applySlash RefusedSlash
  cases hlookup : r.seats.lookup ev.seatID with
  | none => exact ⟨fun _ => by simp, fun _ => atomic_error _ r⟩
  | some seat =>
    simp only [hkind, true_and, Option.some.injEq, exists_eq_left']
    by_cases hterminal : seat.status.isTerminal = true
    · have hnot : ¬ (seat.status = .pendingJoin ∨ seat.status = .suspended ∨ seat.status = .coolingDown) := by
        rintro (h | h | h) <;> rw [h] at hterminal <;> cases hterminal
      simp only [if_pos hterminal, hnot, and_false, not_false_eq_true, iff_true]
      split
      · exact atomic_ok r r
      · exact atomic_error _ r
    · obtain ⟨hexclude, hsuspend⟩ := canTransitionTo_of_not_terminal (Bool.not_eq_true _ ▸ hterminal)
      rw [if_neg hterminal]
      by_cases hstake : seat.stakeAmount < ev.slashAmount
      · have hnot : ¬ ev.slashAmount ≤ seat.stakeAmount := UInt64.not_le.mpr hstake
        simp only [if_pos hstake, hnot, false_and, and_false, not_false_eq_true, iff_true]
        exact atomic_error _ r
      · have hle : ev.slashAmount ≤ seat.stakeAmount := UInt64.not_lt.mp hstake
        have hstatus : (chargeSlash ev seat).status = seat.status := rfl
        rw [if_neg hstake]
        cases hpermanent : ev.permanentExclusion with
        | true =>
          simp only [checkTransition, hstatus, if_true, hexclude, Bool.true_eq_false, false_and,
            not_false_eq_true, iff_true]
          exact atomic_ok r _
        | false =>
          simp only [checkTransition, hstatus, Bool.false_eq_true, if_false, hle, true_and]
          rw [← hsuspend]
          cases htransition : seat.status.canTransitionTo .suspended with
          | true =>
            simp only [if_true, Bool.true_eq_false, not_false_eq_true, iff_true]
            exact atomic_ok r _
          | false =>
            simp only [Bool.false_eq_true, if_false, not_true_eq_false, iff_false]
            intro hatomic
            -- the charged seat counts one slash more than the seat before the call
            have hseats := congrArg (fun r => r.seats.lookup ev.seatID) (hatomic ⟨_, rfl⟩)
            simp only [Finmap.lookup_insert, hlookup, Option.some.injEq] at hseats
            have hcount := congrArg ValidatorSeat.slashCount hseats
            simp [chargeSlash] at hcount

/-- `Apply` leaves seats and version unchanged when it returns an error, exactly unless the event is a
    slash that charges the seat before its transition is refused. -/
theorem apply_atomic_iff : Atomic (r.apply sha256 ev) r ↔ ¬ RefusedSlash ev r := by
  by_cases hslash : ev.kind = .slash
  · have happly : r.apply sha256 ev = r.applySlash ev := by rw [apply, hslash]
    rw [happly]
    exact applySlash_atomic_iff hslash r
  · refine iff_of_true ?_ fun h => hslash h.1
    unfold apply
    split
    · exact applyJoin_atomic sha256 ev r
    · exact editSeat_atomic _ _ _ _ r
    · exact editSeat_atomic _ _ _ _ r
    · exact editSeat_atomic _ _ _ _ r
    · exact editSeat_atomic _ _ _ _ r
    · exact editSeat_atomic _ _ _ _ r
    · exact applyExclude_atomic ev r
    · exact applyRotateKey_atomic ev r
    · exact editSeat_atomic _ _ _ _ r
    · exact absurd ‹_› hslash
    · exact applyRecoveryKeySet_atomic ev r
    · exact editSeat_atomic _ _ _ _ r
    · exact applyRecoveryRotate_atomic ev r
    · exact editSeat_atomic _ _ _ _ r
    · exact atomic_error _ r

def sampleJoin : LifecycleEvent where
  kind := .join
  eventID := "join"
  causalTS := 1
  seatID := "seat"
  operatorKey := "key"
  stakeAmount := minBondedStake

def sampleSlash : LifecycleEvent where
  kind := .slash
  eventID := "slash"
  causalTS := 2
  seatID := "seat"
  slashAmount := 5

/-- After the join, the slash returns an error and still takes the amount from the stake and counts. -/
theorem slash_refused_after_charge :
    let joined := (Reducer.apply (fun _ => []) sampleJoin {}).2
    let slashed := joined.apply (fun _ => []) sampleSlash
    slashed.1.isOk = false ∧ ¬ Atomic slashed joined ∧
    (joined.seats.lookup "seat").map (·.stakeAmount) = some 10000000000 ∧
    (slashed.2.seats.lookup "seat").map (·.stakeAmount) = some 9999999995 ∧
    (slashed.2.seats.lookup "seat").map (·.slashCount) = some 1 ∧ slashed.2.version = joined.version := by
  refine ⟨by decide, fun hatomic => ?_, by decide, by decide, by decide, by decide⟩
  have hsame := congrArg (fun r => (r.seats.lookup "seat").map (·.slashCount)) (hatomic ⟨_, rfl⟩)
  exact absurd hsame (by decide)

end Reducer

end aethernet.validatorlifecycle
