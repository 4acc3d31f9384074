import Aethernet.Dispatch.TVConsensusConsumer

open golang aethernet event dispatch

namespace aethernet.epoch

def epochLength : UInt64 := 1000

/-- `RoundCounter` with its keys in the database, the total and the markers of the rounds. `announced` are the epochs
    that callbacks were started with, the latest first. -/
structure RoundCounter where
  total : UInt64 := 0
  storedTotal : Option UInt64 := none
  counted : Finset String := ∅
  announced : List UInt64 := []

namespace RoundCounter

/-- `Apply`, with the error of the transaction, if any. -/
def apply (err : Option Error) (roundID : String) (c : RoundCounter) : Except Error Bool × RoundCounter :=
  if roundID = "" then (.error (.new "epoch: Apply requires non-empty roundID"), c)
  else match err with
    | some err => (.error (.wrap "epoch: Apply: " err ""), c)
    | none =>
      if roundID ∈ c.counted then (.ok false, c)
      else
        let newTotal := c.total + 1
        let counter := { c with total := newTotal, storedTotal := some newTotal, counted := insert roundID c.counted }
        if newTotal / epochLength ≠ c.total / epochLength then
          (.ok true, { counter with announced := newTotal / epochLength :: c.announced })
        else (.ok false, counter)

/-- `RoundCountConsumer.Consume`. -/
def consume (err : Option Error) (ev : Event) (c : RoundCounter) : Except Error Unit × RoundCounter :=
  match json.unmarshal ConsensusPayload.decoder ev.payload with
  | .error err => (.error (.wrap "round_counter: unmarshal: " err ""), c)
  | .ok payload =>
    if payload.roundID = "" then (.ok (), c)
    else match c.apply err payload.roundID with
      | (.error err, c) => (.error (.wrap "round_counter: apply: " err ""), c)
      | (.ok _, c) => (.ok (), c)

/-- `NewRoundCounter` on the database that an earlier process left. -/
def restart (c : RoundCounter) : RoundCounter := { c with total := c.storedTotal.getD 0 }

/-- A delivery with the error of its transaction, if any. Where the process `dies` after it, no callback is started and
    the next process starts on the database. -/
structure Step where
  err : Option Error
  ev : Event
  dies : Bool

def step (c : RoundCounter) (s : Step) : RoundCounter :=
  let delivered := (c.consume s.err s.ev).2
  if s.dies then { delivered with announced := c.announced }.restart else delivered

/-- The round of a delivery whose transaction is committed. -/
def Step.acknowledged (s : Step) : Option String :=
  match s.err, json.unmarshal ConsensusPayload.decoder s.ev.payload with
  | none, .ok payload => if payload.roundID = "" then none else some payload.roundID
  | _, _ => none

/-- The counter against the rounds it was given. -/
structure Counts (rounds : Finset String) (c : RoundCounter) : Prop where
  counted : c.counted = rounds
  total : c.total = .ofNat rounds.card
  stored : c.storedTotal.getD 0 = c.total
  announced : rounds.card < 2 ^ 64 → c.announced.Pairwise (· > ·) ∧ ∀ e ∈ c.announced, e ≤ c.total / epochLength

variable {c : RoundCounter}

theorem step_cases (hstored : c.storedTotal.getD 0 = c.total) (s : Step) :
    c.step s = c ∧ (∀ id ∈ s.acknowledged, id ∈ c.counted) ∨
    ∃ id announced, s.acknowledged = some id ∧ id ∉ c.counted ∧
      c.step s = ⟨c.total + 1, some (c.total + 1), insert id c.counted, announced⟩ ∧
      (announced = c.announced ∨ (c.total + 1) / epochLength ≠ c.total / epochLength ∧
        announced = (c.total + 1) / epochLength :: c.announced) := by
  have hrestart : c.restart = c := by rw [restart, hstored]
  obtain ⟨err, ev, dies⟩ := s
  simp only [step, consume, Step.acknowledged]
  cases json.unmarshal ConsensusPayload.decoder ev.payload with
  | error => cases dies <;> simp [hrestart]
  | ok payload =>
    by_cases hempty : payload.roundID = ""
    · cases err <;> cases dies <;> simp [hempty, hrestart]
    · cases err with
      | some => cases dies <;> simp [hempty, apply, hrestart]
      | none =>
        by_cases hmem : payload.roundID ∈ c.counted
        · cases dies <;> simp [hempty, apply, hmem, hrestart]
        · by_cases hepoch : (c.total + 1) / epochLength = c.total / epochLength <;>
            cases dies <;> simp [hempty, apply, hmem, hepoch, restart]

theorem toNat_epoch {n : ℕ} (hlt : n < 2 ^ 64) : (UInt64.ofNat n / epochLength).toNat = n / 1000 := by
  rw [UInt64.toNat_div, UInt64.toNat_ofNat_of_lt' hlt]
  rfl

theorem Counts.step {rounds : Finset String} (h : Counts rounds c) (s : Step) :
    Counts (rounds ∪ s.acknowledged.toFinset) (c.step s) := by
  obtain ⟨hsame, hold⟩ | ⟨id, announced, hack, hnew, hstep, hannounced⟩ := step_cases h.stored s
  · have hrounds : rounds ∪ s.acknowledged.toFinset = rounds := by
      rw [Finset.union_eq_left]
      exact fun id hid => h.counted ▸ hold id (Option.mem_toFinset.mp hid)
    rwa [hsame, hrounds]
  · rw [h.counted] at hnew hstep
    have hrounds : rounds ∪ s.acknowledged.toFinset = insert id rounds := by
      rw [hack, Finset.union_comm]
      rfl
    have hcard : (insert id rounds).card = rounds.card + 1 := Finset.card_insert_of_notMem hnew
    have hsum : c.total + 1 = .ofNat (rounds.card + 1) := by
      rw [h.total, UInt64.ofNat_add]
      rfl
    rw [hrounds, hstep]
    refine ⟨rfl, hcard ▸ hsum, rfl, fun hlt => ?_⟩
    rw [hcard] at hlt
    obtain ⟨hsorted, hle⟩ := h.announced (by omega)
    have hmono : c.total / epochLength ≤ (c.total + 1) / epochLength := by
      rw [hsum, h.total, UInt64.le_iff_toNat_le, toNat_epoch (by omega), toNat_epoch hlt]
      omega
    have hgrown := fun e he => (hle e he).trans hmono
    obtain rfl | ⟨hepoch, rfl⟩ := hannounced
    · exact ⟨hsorted, hgrown⟩
    · refine ⟨List.pairwise_cons.mpr ⟨fun e he => ?_, hsorted⟩, List.forall_mem_cons.mpr ⟨le_rfl, hgrown⟩⟩
      exact (hle e he).trans_lt (hmono.lt_of_ne' hepoch)

/-- In whatever order and however often the consensus events arrive, the total is the number of different rounds whose
    transaction was committed, also after crashes and restarts, and no epoch is announced twice or after a later one. -/
theorem counts_rounds (steps : List Step) :
    Counts (steps.filterMap Step.acknowledged).toFinset (steps.foldl RoundCounter.step {}) := by
  induction steps using List.reverseRecOn with
  | nil => exact ⟨rfl, rfl, rfl, fun _ => ⟨.nil, by simp⟩⟩
  | append_singleton steps s ih =>
    have hrounds : ((steps ++ [s]).filterMap Step.acknowledged).toFinset =
        (steps.filterMap Step.acknowledged).toFinset ∪ s.acknowledged.toFinset := by
      rw [List.filterMap_append, List.toFinset_append]
      cases hack : s.acknowledged <;> simp [hack]
    rw [hrounds, List.foldl_concat]
    exact ih.step s

end RoundCounter

end aethernet.epoch
