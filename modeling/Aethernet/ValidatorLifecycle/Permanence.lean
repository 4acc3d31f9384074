import Aethernet.ValidatorLifecycle.SeatInvariant

open golang transition

namespace aethernet.validatorlifecycle.Reducer

variable {sha256 : String → List UInt8} {ev : LifecycleEvent} {r : Reducer} {seat seat' : ValidatorSeat}
  {nextVersion : UInt64} {bump : Bool} {id : ValidatorID}

section Terminal

def Settled (r : Reducer) : Prop := ∀ id seat, r.seats.lookup id = some seat → seat.pendingRotation = none

theorem Settled.next (h : r.Settled) : (r.next sha256 ev).Settled := by
  refine next_forall_seats (Q := fun _ _ seat => seat.pendingRotation = none) (fun id seat hlookup => ?_)
    (fun _ _ => rfl)
    (fun seat _ hlookup _ => h _ seat hlookup) fun seat seat' bump hlookup hedit => ?_
  · exact ⟨h id seat hlookup, h id seat hlookup⟩
  · have hnone := h _ seat hlookup
    cases hedit with
    | move hmoved => exact hmoved.pendingRotation.trans hnone
    | rekey hchecks hpending => exact hpending hnone
    | cancel => rfl
    | restake | charge | commit => exact hnone

theorem settled_applyAll (sha256 : String → List UInt8) (events : List LifecycleEvent) :
    (applyAll sha256 events {}).Settled :=
  List.foldlRecOn events _ nofun fun _ h _ _ => h.next

theorem SeatEdit.eq_of_terminal (hedit : SeatEdit ev nextVersion seat bump seat')
    (hterminal : seat.status.isTerminal = true) (hsettled : seat.pendingRotation = none) : seat' = seat := by
  have hlive : seat.status.isTerminal ≠ false := by simp [hterminal]
  cases hedit with
  | move hmoved =>
    have htransition := hmoved.transition
    have hjoin := hmoved.join
    cases hstatus : seat.status <;> cases hstatus' : seat'.status <;>
      simp_all [SeatStatus.isTerminal, SeatStatus.canTransitionTo, SeatStatus.validTransitions]
  | rekey hchecks => simp_all [rotates, recovers]
  | restake _ hlive' | charge _ _ hlive' | commit _ _ hlive' => exact absurd hlive' hlive
  | cancel => rw [← hsettled]

theorem next_of_terminal (hsettled : r.Settled) (hlookup : r.seats.lookup id = some seat)
    (hterminal : seat.status.isTerminal = true) :
    (r.next sha256 ev).seats.lookup id = some seat ∨ seat.status = .exited ∧ ev.kind = .join := by
  obtain ⟨seat', hlookup', rfl | ⟨hkind, -, hexited, -⟩ | ⟨-, bump, hedit⟩⟩ := next_seat sha256 ev hlookup
  · exact .inl hlookup'
  · exact .inr ⟨hexited, hkind⟩
  · exact .inl (hedit.eq_of_terminal hterminal (hsettled id seat hlookup) ▸ hlookup')

theorem keyHistory_prefix_next (hlookup : r.seats.lookup id = some seat) :
    ∃ seat', (r.next sha256 ev).seats.lookup id = some seat' ∧ seat.keyHistory <+: seat'.keyHistory := by
  obtain ⟨seat', hlookup', rfl | ⟨-, -, -, rfl⟩ | ⟨-, bump, hedit⟩⟩ := next_seat sha256 ev hlookup
  · exact ⟨_, hlookup', List.prefix_rfl⟩
  · exact ⟨_, hlookup', List.prefix_append _ _⟩
  · refine ⟨seat', hlookup', ?_⟩
    cases hedit with
    | move hmoved => exact hmoved.keyHistory ▸ List.prefix_rfl
    | rekey => exact List.prefix_append _ _
    | restake | charge | commit | cancel => exact List.prefix_rfl

theorem keyHistory_prefix_applyAll (events : List LifecycleEvent) (hlookup : r.seats.lookup id = some seat) :
    ∃ seat', (applyAll sha256 events r).seats.lookup id = some seat' ∧ seat.keyHistory <+: seat'.keyHistory := by
  induction events generalizing r seat with
  | nil => exact ⟨seat, hlookup, List.prefix_rfl⟩
  | cons ev events ih =>
    obtain ⟨seat', hlookup', hfirst⟩ := keyHistory_prefix_next hlookup
    obtain ⟨seat'', hlookup'', hlater⟩ := ih hlookup'
    exact ⟨seat'', hlookup'', hfirst.trans hlater⟩

theorem excluded_applyAll (events : List LifecycleEvent) (hsettled : r.Settled)
    (hlookup : r.seats.lookup id = some seat)
    (hexcluded : seat.status = .excluded) : (applyAll sha256 events r).seats.lookup id = some seat := by
  induction events generalizing r with
  | nil => exact hlookup
  | cons ev events ih =>
    obtain hsame | ⟨hexited, -⟩ := next_of_terminal hsettled hlookup (by rw [hexcluded]; rfl)
    · exact ih hsettled.next hsame
    · cases hexcluded.symm.trans hexited

/-- In every validator set: an excluded seat stays as it is in every set that follows; an exited seat is changed by an
    event only if the event is a join; and the key history of a seat is a first part of that of the seat later on, with
    epochs that increase strictly as long as there were fewer than `2 ^ 64` events. -/
theorem terminal_seats_and_key_histories (sha256 : String → List UInt8) (events later : List LifecycleEvent)
    {r : Reducer} (hr : r = applyAll sha256 events {}) {id : ValidatorID} {seat : ValidatorSeat}
    (hlookup : r.seats.lookup id = some seat) :
    (seat.status = .excluded → (applyAll sha256 later r).seats.lookup id = some seat) ∧
    (seat.status = .exited → ∀ ev, (r.next sha256 ev).seats.lookup id ≠ some seat → ev.kind = .join) ∧
    ∃ seat', (applyAll sha256 later r).seats.lookup id = some seat' ∧ seat.keyHistory <+: seat'.keyHistory ∧
      ((events ++ later).length < 2 ^ 64 → (seat'.keyHistory.map fun epoch => epoch.epoch).Pairwise (· < ·)) := by
  have hsettled : r.Settled := hr ▸ settled_applyAll sha256 events
  refine ⟨excluded_applyAll later hsettled hlookup, fun hexited ev hchanged => ?_, ?_⟩
  · exact ((next_of_terminal hsettled hlookup (by rw [hexited]; rfl)).resolve_left hchanged).2
  · obtain ⟨seat', hlookup', hprefix⟩ := keyHistory_prefix_applyAll later hlookup
    refine ⟨seat', hlookup', hprefix, fun hcount => ?_⟩
    rw [hr, ← applyAll_append] at hlookup'
    have hepochs := (sound_applyAll sha256 hcount id seat' hlookup').1.epochs
    have hsorted : (seat'.keyHistory.map fun epoch => epoch.epoch.toNat).Pairwise (· < ·) :=
      hepochs ▸ List.pairwise_lt_range'
    rw [List.pairwise_map] at hsorted ⊢
    exact hsorted.imp UInt64.lt_iff_toNat_lt.mpr

/-- The first seat is excluded for good. -/
def firstExclude : LifecycleEvent where
  kind := .exclude
  eventID := "first exclude"
  causalTS := 3
  seatID := "first"

theorem terminal_seats_of_firstExclude :
    let r := applyAll (fun _ => []) [firstJoin, firstExclude] {}
    ∃ seat, r.seats.lookup "first" = some seat ∧ seat.status = .excluded ∧ seat.slashCount = 1 ∧
      (applyAll (fun _ => []) [firstReinstate, firstJoin] r).seats.lookup "first" = some seat :=
  ⟨_, rfl, rfl, rfl, (terminal_seats_and_key_histories (fun _ => []) [firstJoin, firstExclude]
    [firstReinstate, firstJoin] rfl rfl).1 rfl⟩

def firstRotate (publicKey : PublicKey) : LifecycleEvent where
  kind := .rotateKey
  eventID := "first rotation"
  causalTS := 3
  seatID := "first"
  operatorKey := publicKey

theorem exists_rotations (sha256 : String → List UInt8) (n : ℕ) :
    ∃ events seat, (applyAll sha256 events {}).seats.lookup "first" = some seat ∧ seat.status.isTerminal = false ∧
      seat.keyHistory.length = n + 1 := by
  induction n with
  | zero => exact ⟨[firstJoin], _, rfl, rfl, rfl⟩
  | succ n ih =>
    obtain ⟨events, seat, hlookup, hlive, hlength⟩ := ih
    obtain ⟨publicKey, hkey, hother⟩ : ∃ publicKey, publicKey ≠ "" ∧ seat.operatorKey ≠ publicKey := by
      by_cases hfirst : seat.operatorKey = "first key"
      · exact ⟨"other key", by decide, by rw [hfirst]; decide⟩
      · exact ⟨"first key", by decide, hfirst⟩
    have hrotates : rotates (firstRotate publicKey) seat = true := by
      simp [rotates, firstRotate, hkey, hother, hlive]
    have hnext : (applyAll sha256 events {}).next sha256 (firstRotate publicKey) = _ :=
      next_of_rotates rfl hlookup hrotates
    have hlast := (congrArg (fun r => r.seats.lookup "first") hnext).trans (Finmap.lookup_insert _)
    refine ⟨events ++ [firstRotate publicKey], _, Eq.trans ?_ hlast, hlive, ?_⟩
    · rw [applyAll_append]
      rfl
    · rw [List.length_append, hlength, List.length_singleton]

/-- There are only `2 ^ 64` epochs. -/
theorem epochs_not_increasing :
    ∃ events seat, (applyAll (fun _ => []) events {}).seats.lookup "first" = some seat ∧
      ¬ (seat.keyHistory.map fun epoch => epoch.epoch).Pairwise (· < ·) := by
  obtain ⟨events, seat, hlookup, -, hlength⟩ := exists_rotations (fun _ => []) (2 ^ 64)
  refine ⟨events, seat, hlookup, fun hsorted => ?_⟩
  have hnodup : (seat.keyHistory.map fun epoch => epoch.epoch.toNat).Nodup := by
    rw [List.pairwise_map] at hsorted
    exact List.pairwise_map.mpr (hsorted.imp fun hlt => (UInt64.lt_iff_toNat_lt.mp hlt).ne)
  have hbound : (seat.keyHistory.map fun epoch => epoch.epoch.toNat) ⊆ List.range (2 ^ 64) := by
    intro n hn
    obtain ⟨epoch, -, rfl⟩ := List.mem_map.mp hn
    exact List.mem_range.mpr epoch.epoch.toNat_lt
  have hle := (List.subperm_of_subset hnodup hbound).length_le
  rw [List.length_map, hlength, List.length_range] at hle
  omega

end Terminal

section CooldownLaw

/-- A cooldown an event asked for. -/
structure Cooldown where
  start : UInt64
  duration : UInt64
  positive : 0 < duration

def Cooldown.Elapsed (c : Cooldown) (ts : UInt64) : Prop := c.start.toNat + c.duration.toNat ≤ ts.toNat

def Cooldown.Covers (c : Cooldown) (ts : UInt64) : Prop :=
  c.start ≤ ts ∨ ts.toNat + 2 ^ 64 < c.start.toNat + c.duration.toNat

def askedCooldown (ev : LifecycleEvent) : Option Cooldown :=
  if h : 0 < ev.cooldownDuration then some ⟨ev.causalTS, ev.cooldownDuration, h⟩ else none

/-- The cooldown of the last slash of a seat, when an event is over; `moved` is that the event changed the status. -/
def afterSlash (ev : LifecycleEvent) (moved : Prop) [Decidable moved] (last : Option Cooldown) : Option Cooldown :=
  if moved ∧ (ev.kind = .slash ∨ ev.kind = .beginCooldown) then
    if ev.kind = .slash ∧ ¬ ev.permanentExclusion then askedCooldown ev else none
  else last

def afterBegin (ev : LifecycleEvent) (moved : Prop) [Decidable moved] (last : Option Cooldown) : Option Cooldown :=
  if moved then if ev.kind = .beginCooldown then askedCooldown ev else none else last

def statusOf (r : Reducer) (id : ValidatorID) : Option SeatStatus := (r.seats.lookup id).map (·.status)

/-- The validator set, with the cooldowns its seats have to serve according to the events it was given. -/
structure Served where
  reducer : Reducer := {}
  slashed : ValidatorID → Option Cooldown := fun _ => none
  leaving : ValidatorID → Option Cooldown := fun _ => none

namespace Served

variable {w : Served} {slashed leaving : Option Cooldown}

def next (sha256 : String → List UInt8) (w : Served) (ev : LifecycleEvent) : Served :=
  let reducer := w.reducer.next sha256 ev
  { reducer
    slashed := fun id => afterSlash ev (reducer.statusOf id ≠ w.reducer.statusOf id) (w.slashed id)
    leaving := fun id => afterBegin ev (reducer.statusOf id ≠ w.reducer.statusOf id) (w.leaving id) }

/-- The cooldown law: a reinstatement that succeeds is not before the end of the slash's cooldown, nor an exit before
    the end of the cooldown that precedes it. -/
def Lawful (sha256 : String → List UInt8) (w : Served) (ev : LifecycleEvent) : Prop :=
  (ev.kind = .reinstate → (w.reducer.apply sha256 ev).1 = .ok () →
    ∀ c ∈ w.slashed ev.seatID, c.Elapsed ev.causalTS) ∧
  (ev.kind = .exit → (w.reducer.apply sha256 ev).1 = .ok () →
    ∀ c ∈ w.leaving ev.seatID, c.Elapsed ev.causalTS)

/-- The timestamps the law needs. The reinstatement checks the slash's cooldown only if that is still written in the
    seat and began after time zero. -/
def Timely (w : Served) (ev : LifecycleEvent) : Prop :=
  (ev.kind = .reinstate → ∀ seat ∈ w.reducer.seats.lookup ev.seatID, ∀ c ∈ w.slashed ev.seatID,
    seat.status.canTransitionTo .probationary →
      if seat.cooldown = (c.start, c.duration) ∧ 0 < c.start then c.Covers ev.causalTS else c.Elapsed ev.causalTS) ∧
  (ev.kind = .exit → ∀ seat ∈ w.reducer.seats.lookup ev.seatID, ∀ c ∈ w.leaving ev.seatID,
    seat.status.canTransitionTo .exited → c.Covers ev.causalTS)

/-- What is written in a seat is what it has to serve, or nothing. -/
structure Written (slashed leaving : Option Cooldown) (seat : ValidatorSeat) : Prop where
  slashed : ∀ c ∈ slashed, seat.cooldown = (c.start, c.duration) ∨ seat.cooldown = (0, 0)
  leaving : ∀ c ∈ leaving, seat.cooldown = (c.start, c.duration)

def Coherent (w : Served) : Prop :=
  ∀ id seat, w.reducer.seats.lookup id = some seat → Written (w.slashed id) (w.leaving id) seat

theorem eq_of_mem_askedCooldown {c : Cooldown} (h : c ∈ askedCooldown ev) :
    0 < ev.cooldownDuration ∧ c.start = ev.causalTS ∧ c.duration = ev.cooldownDuration := by
  unfold askedCooldown at h
  split_ifs at h with hpositive
  · obtain rfl := Option.some.inj h
    exact ⟨hpositive, rfl, rfl⟩
  · cases h

theorem Written.moved (h : Written slashed leaving seat) {moved : Prop} [Decidable moved]
    (hmoves : moved) (hmoved : Moved ev nextVersion seat seat') :
    Written (afterSlash ev moved slashed) (afterBegin ev moved leaving) seat' := by
  have hcooldown := hmoved.cooldown
  constructor
  · intro c hc
    unfold afterSlash at hc
    split_ifs at hc with hsets hslash
    · obtain ⟨hpositive, hstart, hduration⟩ := eq_of_mem_askedCooldown hc
      simp_all [setsCooldown]
    · cases hc
    · have hkind : setsCooldown ev = false := by
        simp only [hmoves, true_and, not_or] at hsets
        simp [setsCooldown, hsets.1, hsets.2]
      rw [hkind, if_neg Bool.false_ne_true] at hcooldown
      rw [hcooldown]
      split_ifs
      · exact .inr rfl
      · exact h.slashed c hc
  · intro c hc
    unfold afterBegin at hc
    split_ifs at hc with hbegin
    · obtain ⟨-, hstart, hduration⟩ := eq_of_mem_askedCooldown hc
      rw [hcooldown, hstart, hduration]
      simp [setsCooldown, hbegin]
    · cases hc

theorem Written.same (h : Written slashed leaving seat) {moved : Prop} [Decidable moved]
    (hmoves : ¬ moved) (hcooldown : seat'.cooldown = seat.cooldown) :
    Written (afterSlash ev moved slashed) (afterBegin ev moved leaving) seat' := by
  simp only [afterSlash, afterBegin, hmoves, false_and, if_false]
  exact ⟨hcooldown ▸ h.slashed, hcooldown ▸ h.leaving⟩

theorem Coherent.next (h : w.Coherent) : (w.next sha256 ev).Coherent := by
  intro id seat' hlookup'
  have hwritten := @next_forall_seats sha256 ev w.reducer (fun _ id seat' =>
    Written (afterSlash ev (some seat'.status ≠ w.reducer.statusOf id) (w.slashed id))
      (afterBegin ev (some seat'.status ≠ w.reducer.statusOf id) (w.leaving id)) seat') ?_ ?_ ?_ ?_ id seat' hlookup'
  · have hstatus : (w.reducer.next sha256 ev).statusOf id = some seat'.status :=
      congrArg (Option.map ValidatorSeat.status) hlookup'
    simpa only [Served.next, hstatus] using hwritten
  · intro id seat hlookup
    have hsame : ¬ some seat.status ≠ w.reducer.statusOf id := by simp [statusOf, hlookup]
    exact ⟨(h id seat hlookup).same hsame rfl, (h id seat hlookup).same hsame rfl⟩
  · intro hkind hnew
    refine ⟨fun _ _ => .inr rfl, fun c hc => ?_⟩
    simp [afterBegin, statusOf, hnew, hkind] at hc
  · intro seat hkind hlookup hexited
    refine ⟨fun _ _ => .inr rfl, fun c hc => ?_⟩
    simp [afterBegin, statusOf, hlookup, hexited, rejoin, hkind] at hc
  · intro seat seat' bump hlookup hedit
    have hold := h _ seat hlookup
    have hstatus : w.reducer.statusOf ev.seatID = some seat.status := congrArg (Option.map ValidatorSeat.status) hlookup
    rw [hstatus]
    cases hedit with
    | move hmoved =>
      refine hold.moved (fun hsame => ?_) hmoved
      have htransition := hmoved.transition
      rw [Option.some.inj hsame] at htransition
      exact absurd htransition (by cases seat.status <;> decide)
    | rekey | restake | charge | commit | cancel => exact hold.same (fun hmoves => hmoves rfl) rfl

theorem elapsed_of_check_iff {c : Cooldown} (hcooldown : seat.cooldown = (c.start, c.duration)) :
    (checkCooldown ev seat = none → c.Elapsed ev.causalTS) ↔ c.Covers ev.causalTS := by
  obtain ⟨hstart, hduration⟩ := Prod.mk.inj hcooldown
  have hcheck : checkCooldown ev seat = none ↔ ¬ ev.causalTS - c.start < c.duration := by
    rw [checkCooldown, hstart, hduration]
    simp
  have helapsed := UInt64.toNat_sub ev.causalTS c.start
  have := c.start.toNat_lt
  have := ev.causalTS.toNat_lt
  have := c.duration.toNat_lt
  rw [hcheck, UInt64.lt_iff_toNat_lt, helapsed, Cooldown.Elapsed, Cooldown.Covers, UInt64.le_iff_toNat_le]
  omega

theorem editSeat_lawful_iff {check : ValidatorSeat → Option Error} {update : UInt64 → ValidatorSeat → ValidatorSeat}
    {cooldown : Option Cooldown} {law : Cooldown → Prop} {condition : ValidatorSeat → Cooldown → Prop}
    (hcheck : ∀ seat ∈ r.seats.lookup ev.seatID, ∀ c ∈ cooldown, (check seat = none → law c) ↔ condition seat c) :
    ((r.editSeat bump ev check update).1 = .ok () → ∀ c ∈ cooldown, law c) ↔
      ∀ seat ∈ r.seats.lookup ev.seatID, ∀ c ∈ cooldown, condition seat c := by
  unfold editSeat
  cases hlookup : r.seats.lookup ev.seatID with
  | none => simp
  | some seat =>
    have hseat := hcheck seat hlookup
    cases hnone : check seat <;> simp_all

theorem lawful_iff (h : w.Coherent) : w.Lawful sha256 ev ↔ w.Timely ev := by
  refine and_congr (imp_congr_right fun hkind => ?_) (imp_congr_right fun hkind => ?_)
  · rw [show w.reducer.apply sha256 ev = w.reducer.applyReinstate ev by rw [apply, hkind], applyReinstate]
    refine editSeat_lawful_iff fun seat hlookup c hc => ?_
    rw [Option.or_eq_none_iff, checkTransition_eq_none_iff, and_imp]
    refine imp_congr_right fun _ => ?_
    by_cases hchecked : seat.cooldown = (c.start, c.duration) ∧ 0 < c.start
    · obtain ⟨hstart, hduration⟩ := Prod.mk.inj hchecked.1
      rw [if_pos hchecked, if_pos ⟨hduration ▸ c.positive, hstart ▸ hchecked.2⟩]
      exact elapsed_of_check_iff hchecked.1
    · have hskipped : ¬ (0 < seat.cooldownDurationEvents ∧ 0 < seat.cooldownStartCausalTS) := by
        rcases (h _ seat hlookup).slashed c hc with hsame | hnone
        · exact fun hset => hchecked ⟨hsame, (Prod.mk.inj hsame).1 ▸ hset.2⟩
        · exact fun hset => absurd ((Prod.mk.inj hnone).1 ▸ hset.2) (by decide)
      rw [if_neg hchecked, if_neg hskipped]
      exact forall_prop_of_true rfl
  · rw [show w.reducer.apply sha256 ev = w.reducer.applyExit ev by rw [apply, hkind], applyExit]
    refine editSeat_lawful_iff fun seat hlookup c hc => ?_
    have hsame := (h _ seat hlookup).leaving c hc
    rw [Option.or_eq_none_iff, checkTransition_eq_none_iff, and_imp, if_pos ((Prod.mk.inj hsame).2 ▸ c.positive)]
    exact imp_congr_right fun _ => elapsed_of_check_iff hsame

/-- Along every run the cooldown law holds exactly if the timestamps are what it needs. -/
theorem cooldown_law_iff (sha256 : String → List UInt8) (events : List LifecycleEvent) :
    MeetsAlong (next sha256) (Lawful sha256) {} events ↔ MeetsAlong (next sha256) Timely {} events :=
  meetsAlong_iff_of_kept (P := Coherent) (fun id seat hlookup => by simp at hlookup) (fun _ _ h _ => h.next)
    fun _ _ h => lawful_iff h

/-- The first seat is slashed at time ten and has to wait for five events. -/
def firstSlash : LifecycleEvent where
  kind := .slash
  eventID := "first slash"
  causalTS := 10
  seatID := "first"
  cooldownDuration := 5

/-- A reinstatement older than the slash is let through, and so is the exit that is older than the request for it. -/
theorem cooldown_cut_short :
    let events := [firstJoin, firstReinstate, firstSlash]
    let w := events.foldl (next fun _ => []) {}
    let early := { firstReinstate with causalTS := 9 }
    let leave := { firstSlash with kind := .beginCooldown }
    let exit := { firstSlash with kind := .exit, causalTS := 9 }
    (w.reducer.apply (fun _ => []) early).1 = .ok () ∧ ¬ w.Lawful (fun _ => []) early ∧
    ((w.next (fun _ => []) leave).reducer.apply (fun _ => []) exit).1 = .ok () ∧
      ¬ (w.next (fun _ => []) leave).Lawful (fun _ => []) exit := by
  have hreinstated : (let w := [firstJoin, firstReinstate, firstSlash].foldl (next fun _ => []) ({} : Served)
      (w.reducer.apply (fun _ => []) { firstReinstate with causalTS := 9 }).1) = .ok () := rfl
  have hexited : (let w := [firstJoin, firstReinstate, firstSlash].foldl (next fun _ => []) ({} : Served)
      ((w.next (fun _ => []) { firstSlash with kind := .beginCooldown }).reducer.apply (fun _ => [])
        { firstSlash with kind := .exit, causalTS := 9 }).1) = .ok () := rfl
  refine ⟨hreinstated, fun hlaw => ?_, hexited, fun hlaw => ?_⟩
  · exact absurd (hlaw.1 rfl hreinstated _ rfl) (by unfold Cooldown.Elapsed; decide)
  · exact absurd (hlaw.2 rfl hexited _ rfl) (by unfold Cooldown.Elapsed; decide)

end Served

end CooldownLaw

end aethernet.validatorlifecycle.Reducer
