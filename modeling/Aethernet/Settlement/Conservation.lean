import Aethernet.Escrow.Release
import Aethernet.Settlement.Payouts

open golang aethernet event ledger TransferLedger escrow tasks Escrow
open aethernet.taskverification

namespace aethernet.settlement.VerificationConsensusSettler

section Payments

variable (s : VerificationConsensusSettler) (env : SettleEnv) (budget : UInt64)
  (payload : TaskVerificationConsensusPayload) (round : TaskVerificationRound)

/-- The payments of a settlement, in the order the release makes them. -/
def payments : List Payment :=
  let p := s.payouts budget payload round
  settlementPayments env.order env.genOrder p.worker p.workerAmount payload.posterID p.posterRefundAmount
    p.validators p.genRecipients s.treasuryID p.treasuryAmount

theorem payments_perm (env' : SettleEnv) :
    (s.payments env budget payload round).Perm (s.payments env' budget payload round) := by
  have hvalidators := fun m => env.order.visit_perm_visit m env'.order
  have hgen := fun m => env.genOrder.visit_perm_visit m env'.genOrder
  exact (((hvalidators _).map _).append_left _).append ((hgen _).map _) |>.append_right _

theorem nodup_payments : ((s.payments env budget payload round).map Payment.flag).Nodup :=
  nodup_settlementPayments _ _ _ _ _ _ _ _ _ _

theorem sum_payments :
    ((s.payments env budget payload round).map fun p => p.amount.toNat).sum =
      (s.payouts budget payload round).sum :=
  sum_settlementPayments _ _ _ _ _ _ _ _ _ _

/-- The settlement pays something to this agent. -/
def PaysSomething (a : ledger.AgentID) : Prop :=
  let p := s.payouts budget payload round
  p.worker = a ∧ p.workerAmount ≠ 0 ∨ payload.posterID = a ∧ p.posterRefundAmount ≠ 0 ∨
    p.validators.getD a 0 ≠ 0 ∨ p.genRecipients.getD a 0 ≠ 0 ∨ s.treasuryID = a ∧ p.treasuryAmount ≠ 0

instance (a : ledger.AgentID) : Decidable (s.PaysSomething budget payload round a) :=
  inferInstanceAs (Decidable (_ ∨ _ ∨ _ ∨ _ ∨ _))

theorem exists_mem_payments_iff (a : ledger.AgentID) :
    (∃ p ∈ s.payments env budget payload round, p.toID = a ∧ p.amount ≠ 0) ↔
      s.PaysSomething budget payload round a :=
  exists_mem_settlementPayments_iff _ _ _ _ _ _ _ _ _ _ a

end Payments

/-- A bucket that was funded with this budget and from which nothing was paid yet. Its escrow is registered,
    or the task has the budget to register it with. -/
structure Funded (taskID : String) (budget : UInt64) (s : VerificationConsensusSettler) : Prop where
  balance : s.escrowMgr.ledger.balanceLocked (bucketID taskID) = budget
  escrow : (∃ entry, s.escrowMgr.entries.lookup taskID = some entry ∧ entry.amount = budget ∧
      ∀ d, ¬ entry.isPaid d) ∨
    taskID ∉ s.escrowMgr.entries ∧
      ∀ task, s.taskMgr.byID.lookup taskID = some task → task.budget = budget

theorem Funded.budget_of_new {taskID : String} {budget : UInt64} {s : VerificationConsensusSettler}
    (h : s.Funded taskID budget) (hnew : taskID ∉ s.escrowMgr.entries) :
    ∀ task, s.taskMgr.byID.lookup taskID = some task → task.budget = budget := by
  obtain ⟨entry, hlookup, -⟩ | ⟨-, hbudget⟩ := h.escrow
  · exact absurd (Finmap.mem_of_lookup_eq_some hlookup) hnew
  · exact hbudget

/-- Calls of `Settle` that all failed lead from one settler to the other. -/
inductive Attempts (payload : TaskVerificationConsensusPayload) (round : TaskVerificationRound)
    (s : VerificationConsensusSettler) : VerificationConsensusSettler → Prop
  | none : Attempts payload round s s
  | failed {s₁ s₂ : VerificationConsensusSettler} {env : SettleEnv} {r : SettleResult} {err : Error}
      (h : Attempts payload round s s₁) (hfails : s₁.settle env payload round = ((r, some err), s₂)) :
      Attempts payload round s s₂

/-- The escrow of a settlement that has not succeeded yet: under way, or still to be registered. -/
def Unsettled (payload : TaskVerificationConsensusPayload) (payments : List Payment) (budget : UInt64)
    (e₀ e : Escrow) : Prop :=
  InProgress payload.taskID payments budget e₀.ledger [] e ∨ payload.taskID ∉ e₀.entries ∧ e = e₀

section Escrow

variable {payload : TaskVerificationConsensusPayload} {payments : List Payment} {budget : UInt64} {e₀ e : Escrow}

/-- Finding the entry of an unsettled task keeps it unsettled and starts it. -/
theorem escrowEntry_cases (h : Unsettled payload payments budget e₀ e) {task : Task}
    (hbudget : payload.taskID ∉ e₀.entries → task.budget = budget) (dagScanner : Option (List Event)) :
    (∃ err e', escrowEntry payload task e dagScanner = (.error err, e') ∧
      Unsettled payload payments budget e₀ e') ∨
    ∃ entry e', escrowEntry payload task e dagScanner = (.ok entry, e') ∧ entry.amount = budget ∧
      InProgress payload.taskID payments budget e₀.ledger [] e' := by
  unfold escrowEntry getEntry
  obtain ⟨entry, hprogress, hdone⟩ | ⟨hfresh, rfl⟩ := h
  · rw [hprogress.lookup]
    exact .inr ⟨entry, e, rfl, hprogress.amount, entry, hprogress, hdone⟩
  have hnone : e.entries.lookup payload.taskID = none := Finmap.lookup_eq_none.mpr hfresh
  have hsame : Unsettled payload payments budget e e := .inr ⟨hfresh, rfl⟩
  rw [hnone]
  cases dagScanner with
  | none => exact .inl ⟨_, e, rfl, hsame⟩
  | some events =>
    cases hfunding : lookupEscrowLockTransfer events payload.taskID task.posterID task.budget with
    | error err => exact .inl ⟨_, e, by simp only [hfunding]; rfl, hsame⟩
    | ok ref =>
      simp only [hfunding]
      obtain ⟨err, hreg⟩ | ⟨entry, hentry, hreg⟩ :=
        registerEscrow_cases payload.taskID task.posterID task.budget ref hfresh
      · rw [hreg]
        exact .inl ⟨_, e, rfl, hsame⟩
      · rw [hreg]
        dsimp only
        rw [persist_entries, Finmap.lookup_insert]
        have hunpaid : ∀ d, ¬ entry.isPaid d := by
          intro d
          cases d <;> simp [hentry, EscrowEntry.isPaid]
        have hbudget' : entry.amount = budget := by rw [hentry, ← hbudget hfresh]
        have hstart : Progress payload.taskID payments budget e.ledger
            (({ e with entries := e.entries.insert payload.taskID entry }).persist entry) entry :=
          hbudget' ▸ progress_of_unpaid
            (e := ({ e with entries := e.entries.insert payload.taskID entry }).persist entry)
            (Finmap.lookup_insert _) hunpaid
        exact .inr ⟨entry, _, rfl, hbudget', entry, hstart, fun p hp => absurd hp List.not_mem_nil⟩

end Escrow

theorem started_of_isPaid {e : Escrow} {taskID : String} {entry : EscrowEntry} {d : Disbursement}
    (hlookup : e.entries.lookup taskID = some entry) (hpaid : entry.isPaid d) :
    e.hasSettlementStarted taskID = true := by
  simp only [hasSettlementStarted, hlookup]
  cases d with
  | worker | posterRefund | treasury =>
    simp only [EscrowEntry.isPaid] at hpaid
    simp [hpaid]
  | validator id | genLedger id =>
    have hcard := Finset.card_pos.mpr ⟨id, of_decide_eq_true hpaid⟩
    simp [hcard]

section Settle

variable {s s₁ s₂ : VerificationConsensusSettler} {env : SettleEnv} {payload : TaskVerificationConsensusPayload}
  {round : TaskVerificationRound} {budget : UInt64} {r : SettleResult} {task : Task}

theorem applyVerificationConsensusResolution_ok {m : TaskManager} {taskID verdict : String}
    (hlookup : m.byID.lookup taskID = some task) (hopen : task.status.isTerminal = false)
    (hverdict : verdict ∈ ["pass", "fail", "abstain"]) (now : ℤ) :
    ∃ m', m.applyVerificationConsensusResolution now taskID verdict = (.ok (), m') := by
  simp only [TaskManager.applyVerificationConsensusResolution, hlookup, hopen]
  simp only [List.mem_cons, List.not_mem_nil, or_false] at hverdict
  obtain rfl | rfl | rfl := hverdict
  · exact ⟨_, rfl⟩
  · exact ⟨_, rfl⟩
  · exact ⟨_, rfl⟩

theorem finishSettlement_cases {e : Escrow} {l : TransferLedger} {env₀ : SettleEnv}
    {verdict : String}
    (h : InProgress payload.taskID (s.payments env₀ budget payload round) budget l [] e)
    (hlookup : s.taskMgr.byID.lookup payload.taskID = some task) (hopen : task.status.isTerminal = false)
    (hverdict : verdict ∈ ["pass", "fail", "abstain"]) (result : SettleResult) :
    (∃ r err e', finishSettlement env payload verdict (s.payouts budget payload round) result
        { s with escrowMgr := e } = ((r, some err), { s with escrowMgr := e' }) ∧
      InProgress payload.taskID (s.payments env₀ budget payload round) budget l [] e') ∨
    ∃ r s', finishSettlement env payload verdict (s.payouts budget payload round) result
        { s with escrowMgr := e } = ((r, none), s') ∧
      Released payload.taskID (s.payments env₀ budget payload round) l s'.escrowMgr := by
  have hmeets := releaseSettlement_meets env.amb env.order env.genOrder _ _ _ _ _ _ _ _
    (s.payments_perm env budget payload round env₀) (s.nodup_payments env₀ budget payload round) e h
  unfold finishSettlement
  generalize releaseSettlement env.amb env.order env.genOrder payload.taskID _ _ _ _ _ _ _ _ e = call
    at hmeets ⊢
  obtain ⟨_ | _, e'⟩ := call
  · exact .inl ⟨_, _, e', rfl, hmeets⟩
  · obtain ⟨m', htask⟩ := applyVerificationConsensusResolution_ok hlookup hopen hverdict env.now
    rw [htask]
    exact .inr ⟨_, _, rfl, hmeets⟩

/-- One call of `Settle` on an unsettled task: it fails and leaves the task unsettled, or it returns with the
    payments released or with nothing applied. -/
theorem settle_cases {e : Escrow} {env₀ : SettleEnv}
    (h : Unsettled payload (s.payments env₀ budget payload round) budget s.escrowMgr e)
    (hbudget : payload.taskID ∉ s.escrowMgr.entries →
      ∀ task, s.taskMgr.byID.lookup payload.taskID = some task → task.budget = budget) :
    (∃ r err e', settle env payload round { s with escrowMgr := e } = ((r, some err), { s with escrowMgr := e' }) ∧
      Unsettled payload (s.payments env₀ budget payload round) budget s.escrowMgr e') ∨
    ∃ r s', settle env payload round { s with escrowMgr := e } = ((r, none), s') ∧
      (r.applied → Released payload.taskID (s.payments env₀ budget payload round) s.escrowMgr.ledger
        s'.escrowMgr) := by
  unfold settle TaskManager.getTask
  cases hlookup : s.taskMgr.byID.lookup payload.taskID with
  | none => exact .inl ⟨_, _, e, rfl, h⟩
  | some task =>
    dsimp only
    cases hopen : task.status.isTerminal with
    | true =>
      refine .inr ⟨_, _, if_pos rfl, fun happlied => ?_⟩
      cases happlied
    | false =>
      obtain ⟨err, e', hentry, h'⟩ | ⟨entry, e', hentry, hamount, h'⟩ :=
        escrowEntry_cases h (fun hnew => hbudget hnew task hlookup) s.dagScanner
      · rw [hentry]
        exact .inl ⟨_, _, e', rfl, h'⟩
      rw [hentry]
      dsimp only
      subst hamount
      -- each verdict finishes the settlement with its own payouts
      have hfinish : ∀ verdict ∈ ["pass", "fail", "abstain"], ∀ call, (∃ result, call =
            finishSettlement env payload verdict (s.payouts entry.amount payload round) result
              { s with escrowMgr := e' }) →
          (∃ r err e', call = ((r, some err), { s with escrowMgr := e' }) ∧
            Unsettled payload (s.payments env₀ entry.amount payload round) entry.amount s.escrowMgr e') ∨
          ∃ r s', call = ((r, none), s') ∧ (r.applied →
            Released payload.taskID (s.payments env₀ entry.amount payload round) s.escrowMgr.ledger
              s'.escrowMgr) := by
        rintro verdict hverdict _ ⟨result, rfl⟩
        obtain ⟨r, err, e'', hcall, h''⟩ | ⟨r, s', hcall, hreleased⟩ :=
          finishSettlement_cases h' hlookup hopen hverdict result
        · exact .inl ⟨r, err, e'', hcall, .inl h''⟩
        · exact .inr ⟨r, s', hcall, fun _ => hreleased⟩
      by_cases hpass : payload.finalVerdict = "pass"
      · rw [if_pos hpass]
        refine hfinish "pass" (by simp) _ ?_
        rw [payouts, if_pos hpass]
        exact ⟨_, rfl⟩
      rw [if_neg hpass]
      by_cases hfail : payload.finalVerdict = "fail"
      · rw [if_pos hfail]
        refine hfinish "fail" (by simp) _ ?_
        rw [payouts, if_neg hpass, if_pos hfail]
        exact ⟨_, rfl⟩
      rw [if_neg hfail]
      by_cases habstain : payload.finalVerdict = "abstain"
      · rw [if_pos habstain]
        refine hfinish "abstain" (by simp) _ ?_
        rw [payouts, if_neg hpass, if_neg hfail]
        exact ⟨_, rfl⟩
      · rw [if_neg habstain]
        exact .inl ⟨_, _, e', rfl, .inl h'⟩

theorem Funded.unsettled (hfunded : s.Funded payload.taskID budget) {payments : List Payment} :
    Unsettled payload payments budget s.escrowMgr s.escrowMgr := by
  obtain ⟨entry, hlookup, rfl, hunpaid⟩ | ⟨hfresh, -⟩ := hfunded.escrow
  · exact .inl ⟨entry, progress_of_unpaid hlookup hunpaid, fun p hp => absurd hp List.not_mem_nil⟩
  · exact .inr ⟨hfresh, rfl⟩

theorem Funded.of_unsettled (hfunded : s.Funded payload.taskID budget) {payments : List Payment} {e : Escrow}
    (h : Unsettled payload payments budget s.escrowMgr e) :
    ({ s with escrowMgr := e }.Funded payload.taskID budget ∧
      e.ledger.outflow (bucketID payload.taskID) = s.escrowMgr.ledger.outflow (bucketID payload.taskID)) ∨
    e.hasSettlementStarted payload.taskID = true := by
  obtain ⟨entry, hprogress, -⟩ | ⟨-, rfl⟩ := h
  · by_cases hunpaid : ∀ d, ¬ entry.isPaid d
    · obtain ⟨paid, hpays, hperm⟩ := hprogress.pays
      have hnone : entry.marked payments = [] := List.filter_eq_nil_iff.mpr fun p _ => hunpaid p.flag
      rw [hnone, List.map_nil, List.perm_nil] at hperm
      subst hperm
      have houtflow := hpays.posted_eq fun q => q.amount.toNat
      refine .inl ⟨⟨?_, .inl ⟨entry, hprogress.lookup, hprogress.amount, hunpaid⟩⟩, houtflow⟩
      rw [← UInt64.toNat_inj, ← hfunded.balance]
      exact hpays.balance_eq
    · simp only [not_forall, not_not] at hunpaid
      obtain ⟨d, hpaid⟩ := hunpaid
      exact .inr (started_of_isPaid hprogress.lookup hpaid)
  · exact .inl ⟨hfunded, rfl⟩

theorem Attempts.unsettled (hfunded : s.Funded payload.taskID budget) (env₀ : SettleEnv)
    (h : Attempts payload round s s₁) :
    ∃ e, s₁ = { s with escrowMgr := e } ∧
      Unsettled payload (s.payments env₀ budget payload round) budget s.escrowMgr e := by
  induction h with
  | none => exact ⟨s.escrowMgr, rfl, hfunded.unsettled⟩
  | @failed s₁ s₂ env r err _ hfails ih =>
    obtain ⟨e, rfl, h⟩ := ih
    obtain ⟨r', err', e', hcall, h'⟩ | ⟨r', s', hcall, -⟩ := settle_cases h hfunded.budget_of_new
    · rw [hcall] at hfails
      cases hfails
      exact ⟨e', rfl, h'⟩
    · rw [hcall] at hfails
      cases hfails

theorem released_of_settle (hfunded : s.Funded payload.taskID budget) (hattempts : Attempts payload round s s₁)
    (hsettle : s₁.settle env payload round = ((r, none), s₂)) (happlied : r.applied) :
    Released payload.taskID (s.payments env budget payload round) s.escrowMgr.ledger s₂.escrowMgr := by
  obtain ⟨e, rfl, hunsettled⟩ := hattempts.unsettled hfunded env
  obtain ⟨_, _, _, hcall, -⟩ | ⟨_, _, hcall, hreleased⟩ := settle_cases hunsettled hfunded.budget_of_new
  · rw [hcall] at hsettle
    cases hsettle
  · rw [hcall] at hsettle
    cases hsettle
    exact hreleased happlied

/-- A settlement that succeeded, whatever failed attempts went before, has paid out the budget and emptied the
    bucket exactly when no agent has two royalties on an accepted task and nothing is paid into the bucket. -/
theorem settle_disburses_budget_iff (hbudget : budget.toNat ≤ 10 ^ 15) (hfactors : s.NonnegFactors)
    (hfunded : s.Funded payload.taskID budget) (hattempts : Attempts payload round s s₁)
    (hsettle : s₁.settle env payload round = ((r, none), s₂)) (happlied : r.applied) :
    (s₂.escrowMgr.ledger.outflow (bucketID payload.taskID) =
        s.escrowMgr.ledger.outflow (bucketID payload.taskID) + budget.toNat ∧
      s₂.escrowMgr.ledger.balanceLocked (bucketID payload.taskID) = 0) ↔
    (payload.finalVerdict = "pass" → (s.royalties budget payload).DistinctAgents) ∧
      ¬ s.PaysSomething budget payload round (bucketID payload.taskID) := by
  obtain ⟨houtflow, hbalance⟩ := (released_of_settle hfunded hattempts hsettle happlied).moved
  have hpayouts := sum_payouts_eq_iff hbudget hfactors payload round
  rw [← sum_payments s env] at hpayouts
  obtain ⟨hle, hinto⟩ :=
    sum_outside_le_and_eq_iff (s.payments env budget payload round) (bucketID payload.taskID)
  rw [exists_mem_payments_iff] at hinto
  rw [hfunded.balance] at hbalance
  rw [← hpayouts, ← hinto, houtflow, ← UInt64.toNat_inj, UInt64.toNat_zero]
  omega

end Settle

section Sample

/-- Maps are visited by increasing keys. -/
def sortedOrder : RangeOrder ledger.AgentID UInt64 where
  visit m := (sortSlice (m.entries.map fun entry => toLex (entry.1, entry.2))).map ofLex
  perm m := by
    rw [← Multiset.map_coe, coe_sortSlice, Multiset.map_map]
    rfl

def sampleEnv : SettleEnv where
  amb _ := { now := 0 }
  now := 0
  order := sortedOrder
  genOrder := sortedOrder

def sampleEvent (id : EventID) (refs : List EventID) (agentID : String) : Event where
  id := id
  type := .taskSubmitted
  causalRefs := refs
  payload := .absent
  agentID := agentID
  causalTimestamp := 0
  settlementState := .settled

def sampleEscrow : Escrow where
  entries := (∅ : Map String EscrowEntry).insert "t" { taskID := "t", posterID := "poster", amount := 10000 }
  ledger :=
    { entries := (∅ : Map EventID TransferEntry).insert "lock"
        ⟨"lock", "poster", "escrow:t", 10000, "AET", "", "escrow-lock", 1, .settled, 0, false⟩ }

theorem sampleEscrow_balance : sampleEscrow.ledger.balanceLocked (bucketID "t") = 10000 := by decide +kernel

def sampleSettler (first second : String) : VerificationConsensusSettler where
  taskMgr :=
    { byID := (∅ : Map String Task).insert "t" { posterID := "poster", budget := 10000, status := .submitted } }
  escrowMgr := sampleEscrow
  genLedger := some
    { dag := some fun id =>
        if id = "work" then some (sampleEvent "work" ["a", "b"] "worker")
        else if id = "a" then some (sampleEvent "a" [] first)
        else if id = "b" then some (sampleEvent "b" [] second)
        else none
      qualityFn := fun _ => 1 }
  treasuryID := "treasury"

def samplePayload : TaskVerificationConsensusPayload where
  taskID := "t"
  submissionEventID := "work"
  workerID := "worker"
  posterID := "poster"
  finalVerdict := "pass"

def sampleRound : TaskVerificationRound where
  roundID := "round"
  taskID := "t"
  submissionEventID := "work"
  workerID := "worker"
  posterID := "poster"
  category := "code"
  validatorSetVersion := 1
  committee := none
  analyzerPolicyID := ""
  diversityFloor := 0
  acceptanceThresholdBP := 6667
  openedAtUnix := 0
  deadlineUnix := 0
  state := .finalizedAccept
  votes := [⟨"v1", .pass, 9000, "f1", 10, ∅⟩, ⟨"v2", .pass, 9000, "f2", 20, ∅⟩]

theorem sampleSettler_funded (first second : String) : (sampleSettler first second).Funded "t" 10000 where
  balance := sampleEscrow_balance
  escrow := .inl ⟨_, Finmap.lookup_insert _, rfl, fun d => by cases d <;> simp [EscrowEntry.isPaid]⟩

theorem sampleSettler_nonnegFactors (first second : String) : (sampleSettler first second).NonnegFactors where
  scores _ _ := zero_le_one
  qualities g hg id := by
    cases hg
    exact zero_le_one

theorem settle_disburses_budget_of_two_authors :
    let s := (sampleSettler "alice" "bob").settle sampleEnv samplePayload sampleRound |>.2
    s.escrowMgr.ledger.outflow "escrow:t" = sampleEscrow.ledger.outflow "escrow:t" + 10000 ∧
      s.escrowMgr.ledger.balanceLocked "escrow:t" = 0 := by
  have happlied : ((sampleSettler "alice" "bob").settle sampleEnv samplePayload sampleRound).1.1.applied ∧
      ((sampleSettler "alice" "bob").settle sampleEnv samplePayload sampleRound).1.2 = none := by
    decide +kernel
  have hsettle : (sampleSettler "alice" "bob").settle sampleEnv samplePayload sampleRound =
      ((((sampleSettler "alice" "bob").settle sampleEnv samplePayload sampleRound).1.1, none),
        ((sampleSettler "alice" "bob").settle sampleEnv samplePayload sampleRound).2) := by
    rw [← happlied.2]
  exact (settle_disburses_budget_iff (by decide) (sampleSettler_nonnegFactors "alice" "bob")
    (sampleSettler_funded "alice" "bob") .none hsettle happlied.1).mpr
    ⟨fun _ => by decide +kernel, by decide +kernel⟩

/-- Both ancestors by one author: the second royalty takes the place of the first, which stays in the bucket. -/
theorem settle_keeps_royalty :
    (sampleSettler "alice" "alice").Funded "t" 10000 ∧
    let call := (sampleSettler "alice" "alice").settle sampleEnv samplePayload sampleRound
    call.1.1.applied ∧ call.1.2 = none ∧ call.1.1.totalDistributed = 10000 ∧
      call.2.escrowMgr.ledger.outflow "escrow:t" = sampleEscrow.ledger.outflow "escrow:t" + 9900 ∧
      call.2.escrowMgr.ledger.balanceLocked "escrow:t" = 100 :=
  ⟨sampleSettler_funded "alice" "alice", by decide +kernel⟩

end Sample

end aethernet.settlement.VerificationConsensusSettler
