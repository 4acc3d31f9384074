import Aethernet.Golang.Sort

namespace aethernet.staking

/-- The live decay parameters, `activeDecayDays` and `activeDecayTasksPerPeriod`. -/
structure DecayParams where
  days : Int64 := 30
  tasksPerPeriod : UInt64 := 25
  /-- `SetDecayParams` puts the default in the place of a period that is not. -/
  days_pos : 0 < days := by decide

structure TrustLevel where
  multiplier : UInt64
  minTasks : UInt64
  minDaysStaked : UInt64

def trustLevels : List TrustLevel := [⟨1, 0, 0⟩, ⟨2, 25, 30⟩, ⟨3, 50, 60⟩, ⟨4, 75, 90⟩, ⟨5, 100, 120⟩]

def daysBetween (start now : Int64) : UInt64 := ((now - start) / 86400).toUInt64

def decayPeriods (params : DecayParams) (lastActivityUnix now : Int64) : UInt64 :=
  daysBetween lastActivityUnix now / params.days.toUInt64

def effectiveTasks (params : DecayParams) (tasksCompleted : UInt64) (lastActivityUnix now : Int64) : UInt64 :=
  if lastActivityUnix ≤ 0 ∨ now ≤ lastActivityUnix then tasksCompleted
  else
    let periods := decayPeriods params lastActivityUnix now
    if periods = 0 then tasksCompleted
    else
      let reduction := periods * params.tasksPerPeriod
      if reduction ≥ tasksCompleted then 0 else tasksCompleted - reduction

/-- The loop of `TrustMultiplier`, in which the last level that is reached wins. -/
def achievedLevel (tasksCompleted daysSinceStake : UInt64) : UInt64 → List TrustLevel → UInt64 :=
  List.foldl fun achieved level =>
    if tasksCompleted ≥ level.minTasks ∧ daysSinceStake ≥ level.minDaysStaked then level.multiplier else achieved

def trustMultiplier (tasksCompleted : UInt64) (stakedSince now : Int64) : UInt64 :=
  if stakedSince ≤ 0 ∨ now ≤ stakedSince then 1
  else achievedLevel tasksCompleted (daysBetween stakedSince now) 1 trustLevels

def trustLimit (stakedAmount tasksCompleted : UInt64) (stakedSince now : Int64) : UInt64 :=
  let multiplier := trustMultiplier tasksCompleted stakedSince now
  if stakedAmount > 0 ∧ multiplier > ~~~0 / stakedAmount then ~~~0 else stakedAmount * multiplier

def trustLimitFull (params : DecayParams) (stakedAmount tasksCompleted : UInt64)
    (stakedSince lastActivity now : Int64) : UInt64 :=
  trustLimit stakedAmount (effectiveTasks params tasksCompleted lastActivity now) stakedSince now

variable {params : DecayParams} {stake stake' tasks tasks' days days' : UInt64} {since since' last last' now : Int64}

theorem toNat_daysBetween (hsince : 0 < since) (hlt : since < now) :
    (daysBetween since now).toNat = (now.toInt - since.toInt).toNat / 86400 := by
  rw [Int64.lt_iff_toInt_lt] at hsince hlt
  have hnow := now.toInt_lt
  have hzero : (0 : Int64).toInt = 0 := rfl
  have hsub : (now - since).toInt = now.toInt - since.toInt := by
    rw [Int64.toInt_sub, Int.bmod_eq_of_le] <;> omega
  have hdiv : ((now - since) / 86400).toInt = (now.toInt - since.toInt) / 86400 := by
    rw [Int64.toInt_div_of_ne_right _ _ (by decide), hsub]
    exact Int.tdiv_eq_ediv_of_nonneg (by omega)
  have hnonneg : 0 ≤ (now - since) / 86400 := by
    rw [Int64.le_iff_toInt_le, hdiv]
    omega
  rw [daysBetween, Int64.toNat_toUInt64_of_le hnonneg, Int64.toNatClampNeg, hdiv]
  omega

theorem daysBetween_le (hsince : 0 < since') (hle : since' ≤ since) (hlt : since < now) :
    daysBetween since now ≤ daysBetween since' now := by
  have hle' := Int64.le_iff_toInt_le.mp hle
  rw [UInt64.le_iff_toNat_le, toNat_daysBetween (by grind) hlt, toNat_daysBetween hsince (by grind)]
  omega

/-- The tasks lost to inactivity, without the wraparound. -/
def reduction (params : DecayParams) (last now : Int64) : ℕ :=
  (decayPeriods params last now).toNat * params.tasksPerPeriod.toNat

theorem toNat_effectiveTasks (hlast : 0 < last) (hlt : last < now) (hfits : reduction params last now < 2 ^ 64) :
    (effectiveTasks params tasks last now).toNat = tasks.toNat - reduction params last now := by
  have hreduction : (decayPeriods params last now * params.tasksPerPeriod).toNat = reduction params last now := by
    rw [UInt64.toNat_mul]
    exact Nat.mod_eq_of_lt hfits
  rw [effectiveTasks, if_neg (by grind)]
  dsimp only
  split_ifs with hzero hall
  · simp [reduction, hzero]
  · rw [ge_iff_le, UInt64.le_iff_toNat_le, hreduction] at hall
    rw [UInt64.toNat_zero]
    omega
  · rw [UInt64.toNat_sub_of_le _ _ (by grind), hreduction]

theorem effectiveTasks_mono (hlast : 0 < last) (hfits : last < now → reduction params last now < 2 ^ 64)
    (htasks : tasks ≤ tasks') (hle : last ≤ last') :
    effectiveTasks params tasks last now ≤ effectiveTasks params tasks' last' now := by
  by_cases hlt : last < now
  · rw [UInt64.le_iff_toNat_le] at htasks
    rw [UInt64.le_iff_toNat_le, toNat_effectiveTasks hlast hlt (hfits hlt)]
    by_cases hlt' : last' < now
    · have hperiods : (decayPeriods params last' now).toNat ≤ (decayPeriods params last now).toNat := by
        simp only [decayPeriods, UInt64.toNat_div]
        exact Nat.div_le_div_right (UInt64.le_iff_toNat_le.mp (daysBetween_le hlast hle hlt'))
      have hless : reduction params last' now ≤ reduction params last now := Nat.mul_le_mul_right _ hperiods
      rw [toNat_effectiveTasks (by grind) hlt' (hless.trans_lt (hfits hlt))]
      omega
    · rw [effectiveTasks, if_pos (by grind)]
      omega
  · rwa [effectiveTasks, if_pos (by grind), effectiveTasks, if_pos (by grind)]

theorem achievedLevel_mono (htasks : tasks ≤ tasks') (hdays : days ≤ days') {levels : List TrustLevel}
    {achieved achieved' : UInt64} (hle : achieved ≤ achieved')
    (hsorted : (achieved :: levels.map (·.multiplier)).Pairwise (· ≤ ·)) :
    achievedLevel tasks days achieved levels ≤ achievedLevel tasks' days' achieved' levels := by
  induction levels generalizing achieved achieved' with
  | nil => exact hle
  | cons level levels ih =>
    obtain ⟨hfirst, hrest⟩ := List.pairwise_cons.mp hsorted
    have hskip := hsorted.sublist (List.Sublist.cons_cons achieved (List.sublist_cons_self _ _))
    have hlevel := hfirst _ List.mem_cons_self
    simp only [achievedLevel, List.foldl_cons]
    split_ifs with hreached hreached' hreached'
    · exact ih le_rfl hrest
    · grind
    · exact ih hlevel hskip
    · exact ih hle hskip

theorem trustMultiplier_bounds : 1 ≤ trustMultiplier tasks since now ∧ trustMultiplier tasks since now ≤ 5 := by
  simp only [trustMultiplier, achievedLevel, trustLevels, List.foldl]
  split_ifs <;> decide

theorem trustMultiplier_mono (htasks : tasks ≤ tasks') (hsince : 0 < since') (hle : since' ≤ since) :
    trustMultiplier tasks since now ≤ trustMultiplier tasks' since' now := by
  by_cases hlt : since < now
  · rw [trustMultiplier, if_neg (by grind), trustMultiplier, if_neg (by grind)]
    exact achievedLevel_mono htasks (daysBetween_le hsince hle hlt) le_rfl (by decide)
  · rw [trustMultiplier, if_pos (by grind)]
    exact trustMultiplier_bounds.1

theorem toNat_trustLimit : (trustLimit stake tasks since now).toNat =
    min (2 ^ 64 - 1) (stake.toNat * (trustMultiplier tasks since now).toNat) := by
  have hmax : (~~~0 : UInt64).toNat = 2 ^ 64 - 1 := by decide
  generalize hm : trustMultiplier tasks since now = m
  simp only [trustLimit, hm, gt_iff_lt, UInt64.lt_iff_toNat_lt, UInt64.toNat_div, hmax, UInt64.toNat_zero]
  split_ifs with hover
  · obtain ⟨hpos, hlt⟩ := hover
    rw [Nat.div_lt_iff_lt_mul hpos, Nat.mul_comm] at hlt
    omega
  · have hle : stake.toNat * m.toNat ≤ 2 ^ 64 - 1 := by
      rcases Nat.eq_zero_or_pos stake.toNat with hzero | hpos
      · simp [hzero]
      · rw [Nat.mul_comm]
        exact (Nat.le_div_iff_mul_le hpos).mp (Nat.not_lt.mp fun hlt => hover ⟨hpos, hlt⟩)
    rw [UInt64.toNat_mul, Nat.mod_eq_of_lt (by omega), min_eq_right hle]

/-- The limit is a saturated multiple of the stake by one to five, and no smaller for a larger stake, more tasks, an
    earlier first stake and a later activity. -/
theorem trustLimitFull_law (params : DecayParams) (stake tasks : UInt64) (since last now : Int64) (hlast : 0 < last)
    (hfits : last < now → reduction params last now < 2 ^ 64) :
    (∃ m, 1 ≤ m ∧ m ≤ 5 ∧
      (trustLimitFull params stake tasks since last now).toNat = min (2 ^ 64 - 1) (stake.toNat * m)) ∧
    ∀ stake' tasks' since' last', stake ≤ stake' → tasks ≤ tasks' → 0 < since' → since' ≤ since → last ≤ last' →
      trustLimitFull params stake tasks since last now ≤ trustLimitFull params stake' tasks' since' last' now := by
  constructor
  · exact ⟨_, UInt64.le_iff_toNat_le.mp trustMultiplier_bounds.1, UInt64.le_iff_toNat_le.mp trustMultiplier_bounds.2,
      toNat_trustLimit⟩
  · intro stake' tasks' since' last' hstake htasks hsince hle hlast'
    have htasks' := effectiveTasks_mono hlast hfits htasks hlast'
    rw [UInt64.le_iff_toNat_le] at hstake ⊢
    rw [trustLimitFull, trustLimitFull, toNat_trustLimit, toNat_trustLimit]
    refine min_le_min_left _ (Nat.mul_le_mul hstake ?_)
    exact UInt64.le_iff_toNat_le.mp (trustMultiplier_mono htasks' hsince hle)

/-- Two periods without activity take an agent from the third level to the first. -/
theorem limit_after_two_periods : trustLimitFull {} 1000 50 1 1 (1 + 60 * 86400) = 1000 ∧
    trustLimitFull {} 1000 50 1 1 (1 + 60 * 86400) ≤ trustLimitFull {} 2000 60 1 5 (1 + 60 * 86400) :=
  ⟨by decide, (trustLimitFull_law {} 1000 50 1 1 (1 + 60 * 86400) (by decide) (by decide)).2 2000 60 1 5 (by decide)
    (by decide) (by decide) (by decide) (by decide)⟩

end aethernet.staking
