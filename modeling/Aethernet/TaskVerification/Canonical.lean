import Aethernet.TaskVerification.Finalizer

open golang Finmap

namespace aethernet.jcs

/-- The integer is a `float64`. -/
def IsFloat64 (n : ℕ) : Prop := ∃ e < 64, 2 ^ e ∣ n ∧ n ≤ 2 ^ 53 * 2 ^ e

instance IsFloat64.decidable (n : ℕ) : Decidable (IsFloat64 n) := inferInstanceAs (Decidable (∃ e < 64, _))

/-- The nearest `float64`, the even one of two. -/
def float64 (n : ℕ) : ℕ :=
  if IsFloat64 n then n
  else
    let unit := 2 ^ (n.log2 - 52)
    let below := n / unit
    if 2 * (n % unit) < unit ∨ 2 * (n % unit) = unit ∧ below % 2 = 0 then below * unit else (below + 1) * unit

/-- What is read of a `uint64` after `Canonicalize`. `number` converts to `int64`: from 2^63 on the text is negative. -/
def number (x : UInt64) : UInt64 := UInt64.ofNat (float64 x.toNat)

/-- The number's text is one of a `uint64`. -/
def Readable (n : ℕ) : Prop := float64 n < 2 ^ 63

instance Readable.decidable (n : ℕ) : Decidable (Readable n) := inferInstanceAs (Decidable (_ < _))

/-- What is read of an `int64`. A value that rounds to 2^63 becomes the least one. -/
def int64 (x : ℤ) : ℤ :=
  if x < 0 then -float64 x.natAbs else if float64 x.natAbs < 2 ^ 63 then float64 x.natAbs else -2 ^ 63

theorem isFloat64_of_le {n : ℕ} (h : n ≤ 2 ^ 53) : IsFloat64 n :=
  ⟨0, by decide, one_dvd n, by omega⟩

theorem div_unit_lt {n : ℕ} (hlarge : 2 ^ 53 < n) : n / 2 ^ (n.log2 - 52) < 2 ^ 53 := by
  have hlog : 53 ≤ n.log2 := not_lt.mp fun h => absurd ((Nat.log2_lt (by omega)).mp h) (by omega)
  have hunit : 53 + (n.log2 - 52) = n.log2 + 1 := by omega
  rw [Nat.div_lt_iff_lt_mul (by positivity), ← pow_add, hunit]
  exact Nat.lt_log2_self

theorem isFloat64_float64 {n : ℕ} (hn : n < 2 ^ 64) : IsFloat64 (float64 n) := by
  unfold float64
  by_cases hexact : IsFloat64 n
  · rwa [if_pos hexact]
  · have hlarge : 2 ^ 53 < n := not_le.mp fun hle => hexact (isFloat64_of_le hle)
    have hlog : n.log2 < 64 := (Nat.log2_lt (by omega)).mpr hn
    have hquotient := div_unit_lt hlarge
    have hunits : ∀ q ≤ 2 ^ 53, IsFloat64 (q * 2 ^ (n.log2 - 52)) := fun q hq =>
      ⟨n.log2 - 52, by omega, Nat.dvd_mul_left _ _, Nat.mul_le_mul_right _ hq⟩
    rw [if_neg hexact]
    dsimp only
    split_ifs
    · exact hunits _ hquotient.le
    · exact hunits _ hquotient

theorem number_of_isFloat64 {x : UInt64} (h : IsFloat64 x.toNat) : number x = x := by
  rw [number, float64, if_pos h, UInt64.ofNat_toNat]

theorem number_number (x : UInt64) : number (number x) = number x := by
  obtain ⟨e, he, hdvd, hle⟩ := isFloat64_float64 x.toNat_lt
  refine number_of_isFloat64 ⟨e, he, ?_, ?_⟩
  all_goals rw [number, UInt64.toNat_ofNat']
  · exact (Nat.dvd_mod_iff (Nat.pow_dvd_pow 2 he.le)).mpr hdvd
  · exact (Nat.mod_le _ _).trans hle

/-- The number is read as it was written. -/
def Exact (n : ℕ) : Prop := IsFloat64 n ∧ n < 2 ^ 63

instance Exact.decidable (n : ℕ) : Decidable (Exact n) := inferInstanceAs (Decidable (_ ∧ _))

theorem Exact.readable {n : ℕ} (h : Exact n) : Readable n := by
  rw [Readable, float64, if_pos h.1]
  exact h.2

theorem int64_of_exact {x : ℤ} (h : Exact x.natAbs) : int64 x = x := by
  rw [int64, float64, if_pos h.1]
  have hbound := h.2
  split_ifs <;> omega

theorem mapValues_number {m : Map String UInt64} (h : ∀ entry ∈ m.entries, number entry.2 = entry.2) :
    m.mapValues number = m := by
  refine Finmap.ext ((Multiset.map_congr rfl fun entry hentry => ?_).trans (Multiset.map_id _))
  rw [h entry hentry]
  rfl

end aethernet.jcs

namespace aethernet.taskverification

open jcs

def errPersistenceFailed : Error := .new "taskverification: persistence failed"

/-- What `sort.Slice` makes of votes by their validators. Those of one validator come in any order. -/
structure VoteSort where
  sort : List TaskVerificationVoteRecord → List TaskVerificationVoteRecord
  perm : ∀ votes, (sort votes).Perm votes
  sorted : ∀ votes, (sort votes).Pairwise (·.validatorID ≤ ·.validatorID)

namespace TaskVerificationVoteRecord

def canonical (v : TaskVerificationVoteRecord) : TaskVerificationVoteRecord :=
  { v with scoreBP := number v.scoreBP, scoreBreakdown := v.scoreBreakdown.mapValues number, stake := number v.stake }

def Readable (v : TaskVerificationVoteRecord) : Prop :=
  jcs.Readable v.scoreBP.toNat ∧ jcs.Readable v.stake.toNat ∧
    ∀ entry ∈ v.scoreBreakdown.entries, jcs.Readable entry.2.toNat

instance Readable.decidable (v : TaskVerificationVoteRecord) :
    Decidable v.Readable := inferInstanceAs (Decidable (_ ∧ _))

/-- The vote is read as it was written. -/
def Exact (v : TaskVerificationVoteRecord) : Prop :=
  jcs.Exact v.scoreBP.toNat ∧ jcs.Exact v.stake.toNat ∧ ∀ entry ∈ v.scoreBreakdown.entries, jcs.Exact entry.2.toNat

instance Exact.decidable (v : TaskVerificationVoteRecord) : Decidable v.Exact := inferInstanceAs (Decidable (_ ∧ _))

variable {v : TaskVerificationVoteRecord}

theorem canonical_canonical (v : TaskVerificationVoteRecord) : v.canonical.canonical = v.canonical := by
  have hbreakdown : (v.scoreBreakdown.mapValues number).mapValues number = v.scoreBreakdown.mapValues number := by
    refine mapValues_number fun entry hentry => ?_
    obtain ⟨entry, -, rfl⟩ := Multiset.mem_map.mp hentry
    exact number_number entry.2
  simp only [canonical, number_number, hbreakdown]

theorem Exact.canonical (h : v.Exact) : v.canonical = v := by
  rw [TaskVerificationVoteRecord.canonical, number_of_isFloat64 h.1.1, number_of_isFloat64 h.2.1.1,
    mapValues_number fun entry hentry => number_of_isFloat64 (h.2.2 entry hentry).1]

theorem Exact.readable (h : v.Exact) : v.Readable :=
  ⟨h.1.readable, h.2.1.readable, fun entry hentry => (h.2.2 entry hentry).readable⟩

end TaskVerificationVoteRecord

namespace TaskVerificationRound

variable (order : VoteSort) (r : TaskVerificationRound)

def numbers : List ℕ :=
  [r.validatorSetVersion, r.acceptanceThresholdBP, r.passWeight, r.failWeight, r.abstainWeight, r.finalScoreBP].map
    UInt64.toNat

/-- The round as `RoundFromCanonical` builds it from what `Canonical` writes. All participating families are left out,
    and an empty committee. -/
def canonical : TaskVerificationRound :=
  { r with
    validatorSetVersion := number r.validatorSetVersion
    committee := r.committee.filter (· ≠ [])
    diversityFloor := int64 r.diversityFloor
    acceptanceThresholdBP := number r.acceptanceThresholdBP
    openedAtUnix := .ofInt (int64 r.openedAtUnix.toInt)
    deadlineUnix := .ofInt (int64 r.deadlineUnix.toInt)
    extendedUntilUnix := .ofInt (int64 r.extendedUntilUnix.toInt)
    passWeight := number r.passWeight
    failWeight := number r.failWeight
    abstainWeight := number r.abstainWeight
    participatingFamilies := r.participatingFamilies.mapValues number
    allParticipatingFamilies := ∅
    votes := (order.sort r.votes).map (·.canonical)
    finalScoreBP := number r.finalScoreBP
    finalizationTime := .ofInt (int64 r.finalizationTime.toInt) }

def Readable : Prop :=
  (∀ n ∈ r.numbers, jcs.Readable n) ∧ (∀ entry ∈ r.participatingFamilies.entries, jcs.Readable entry.2.toNat) ∧
    ∀ v ∈ r.votes, v.Readable

instance Readable.decidable : Decidable r.Readable := inferInstanceAs (Decidable (_ ∧ _))

/-- `LoadRound` of a round that was saved. The error names the field as well. -/
def reload : Except Error TaskVerificationRound :=
  if r.Readable then .ok (r.canonical order)
  else .error (.wrap "" errPersistenceFailed ": load round: taskverification: serialization failed: unmarshal")

/-- The numbers of the round are read as they were written, as all up to 2^53 are. -/
@[mk_iff]
structure Exact : Prop where
  numbers : ∀ n ∈ r.numbers, jcs.Exact n
  signed : ∀ x ∈ [r.diversityFloor, r.openedAtUnix.toInt, r.deadlineUnix.toInt, r.extendedUntilUnix.toInt,
    r.finalizationTime.toInt], jcs.Exact x.natAbs
  families : ∀ entry ∈ r.participatingFamilies.entries, jcs.Exact entry.2.toNat
  votes : ∀ v ∈ r.votes, v.Exact

instance Exact.decidable : Decidable r.Exact := decidable_of_iff _ (exact_iff r).symm

/-- The same round to all who read it: the votes are in another order, and the families of all votes, which nobody
    reads, and an empty committee may be missing. -/
structure Like (r' : TaskVerificationRound) : Prop where
  same : r' = { r with
    committee := r'.committee, allParticipatingFamilies := r'.allParticipatingFamilies, votes := r'.votes }
  votes : r'.votes.Perm r.votes

variable {order r}

theorem reload_eq_ok_iff {r' : TaskVerificationRound} :
    r.reload order = .ok r' ↔ r.Readable ∧ r.canonical order = r' := by
  unfold reload
  split_ifs with h
  · simp [h]
  · simp [h]

@[simp]
theorem roundID_canonical : (r.canonical order).roundID = r.roundID := by
  rw [canonical]

@[simp]
theorem state_canonical : (r.canonical order).state = r.state := by
  rw [canonical]

theorem mem_votes_canonical {v : TaskVerificationVoteRecord} :
    v ∈ (r.canonical order).votes ↔ ∃ u ∈ r.votes, u.canonical = v := by
  simp only [canonical, List.mem_map, (order.perm r.votes).mem_iff]

theorem Exact.reload (order : VoteSort) (h : r.Exact) : ∃ r', r.reload order = .ok r' ∧ r.Like r' := by
  have hnumbers := h.numbers
  have hsigned := h.signed
  simp only [TaskVerificationRound.numbers, List.map_cons, List.map_nil, List.forall_mem_cons, List.not_mem_nil,
    false_imp_iff, implies_true, and_true] at hnumbers hsigned
  obtain ⟨hversion, hthreshold, hpass, hfail, habstain, hscore⟩ := hnumbers
  obtain ⟨hfloor, hopened, hdeadline, hextended, hfinal⟩ := hsigned
  refine ⟨_, reload_eq_ok_iff.mpr ⟨⟨fun n hn => (h.numbers n hn).readable,
    fun entry hentry => (h.families entry hentry).readable, fun v hv => (h.votes v hv).readable⟩, rfl⟩, ?_, ?_⟩
  · simp only [canonical, number_of_isFloat64 hversion.1, number_of_isFloat64 hthreshold.1, number_of_isFloat64 hpass.1,
      number_of_isFloat64 hfail.1, number_of_isFloat64 habstain.1, number_of_isFloat64 hscore.1, int64_of_exact hfloor,
      int64_of_exact hopened, int64_of_exact hdeadline, int64_of_exact hextended, int64_of_exact hfinal,
      Int64.ofInt_toInt,
      mapValues_number fun entry hentry => number_of_isFloat64 (h.families entry hentry).1]
  · have hsame : (order.sort r.votes).map (·.canonical) = order.sort r.votes := by
      refine (List.map_congr_left fun v hv => ?_).trans (List.map_id _)
      exact (h.votes v ((order.perm r.votes).mem_iff.mp hv)).canonical
    rw [canonical, hsame]
    exact order.perm r.votes

namespace Like

variable {r r' r'' : TaskVerificationRound}

theorem refl (r : TaskVerificationRound) : r.Like r := ⟨rfl, .rfl⟩

theorem trans (h : r.Like r') (h' : r'.Like r'') : r.Like r'' :=
  ⟨h'.same.trans (by rw [h.same]), h'.votes.trans h.votes⟩

theorem isTerminal (h : r.Like r') : r'.isTerminal = r.isTerminal := by
  rw [h.same]
  rfl

theorem recordVote (h : r.Like r') (vote : TaskVerificationVoteRecord) :
    (r.recordVote vote).Like (r'.recordVote vote) := by
  obtain ⟨hsame, hvotes⟩ := h
  rw [hsame]
  unfold TaskVerificationRound.recordVote
  cases vote.verdict <;> exact ⟨rfl, hvotes.append_right _⟩

theorem evaluate (h : r.Like r') (config : FinalizerConfig) (totalActiveWeight : UInt64) (now : Int64) :
    config.evaluate r' totalActiveWeight now = config.evaluate r totalActiveWeight now := by
  obtain ⟨hsame, hvotes⟩ := h
  have hmedian : medianScore r'.votes .pass = medianScore r.votes .pass := by
    simp only [medianScore, Multiset.coe_eq_coe.mpr ((hvotes.filter _).map _)]
  have hfamilies : r'.distinctParticipatingFamilies = r.distinctParticipatingFamilies := by
    simp only [distinctParticipatingFamilies, List.toFinset_eq_of_perm _ _ ((hvotes.map _).filter _)]
  have hfloors : config.meetsFloors r' = config.meetsFloors r := by
    rw [FinalizerConfig.meetsFloors, FinalizerConfig.meetsFloors, hfamilies, hsame]
    rfl
  unfold FinalizerConfig.evaluate
  rw [hmedian, hfloors, hsame]
  rfl

end Like

end TaskVerificationRound

end aethernet.taskverification
