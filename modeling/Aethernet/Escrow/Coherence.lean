import Aethernet.Escrow.Release
import Aethernet.Golang.Sort
import Aethernet.Transition.Invariant

open golang aethernet event ledger TransferLedger escrow.Escrow Finmap

namespace aethernet.escrow

/-- The parts `ReleaseNet` pays, each with a paid flag of its own. -/
inductive NetPart where
  | worker
  | validator
  | treasury
  deriving DecidableEq

namespace NetPart

/-- The parts in the order `ReleaseNet` pays them. -/
def all : List NetPart := [worker, validator, treasury]

def memo : NetPart → String
  | worker => "escrow-release-net:worker"
  | validator => "escrow-release-net:validator"
  | treasury => "escrow-release-net:treasury"

def context (taskID : String) : NetPart → String
  | worker => s!"escrow: release-net worker for task {taskID}: "
  | validator => s!"escrow: release-net validator for task {taskID}: "
  | treasury => s!"escrow: release-net treasury for task {taskID}: "

end NetPart

/-- Whom `ReleaseNet` is asked to pay, and how much. -/
structure NetArgs where
  claimerID : AgentID
  netAmount : UInt64
  validatorID : AgentID
  validatorAmount : UInt64
  treasuryID : AgentID
  treasuryAmount : UInt64

namespace NetArgs

def recipient (args : NetArgs) : NetPart → AgentID
  | .worker => args.claimerID
  | .validator => args.validatorID
  | .treasury => args.treasuryID

def amount (args : NetArgs) : NetPart → UInt64
  | .worker => args.netAmount
  | .validator => args.validatorAmount
  | .treasury => args.treasuryAmount

end NetArgs

namespace EscrowEntry

def isNetPaid (entry : EscrowEntry) : NetPart → Bool
  | .worker => entry.workerPaid
  | .validator => entry.validatorPaid
  | .treasury => entry.treasuryPaid

def markNetPaid (entry : EscrowEntry) : NetPart → EscrowEntry
  | .worker => { entry with workerPaid := true }
  | .validator => { entry with validatorPaid := true }
  | .treasury => { entry with treasuryPaid := true }

variable (entry : EscrowEntry)

theorem isNetPaid_markNetPaid_iff (p q : NetPart) : (entry.markNetPaid p).isNetPaid q ↔ q = p ∨ entry.isNetPaid q := by
  cases p <;> cases q <;> simp [markNetPaid, isNetPaid]

@[simp]
theorem markNetPaid_amount (p : NetPart) : (entry.markNetPaid p).amount = entry.amount := by
  cases p <;> rfl

@[simp]
theorem markNetPaid_taskID (p : NetPart) : (entry.markNetPaid p).taskID = entry.taskID := by
  cases p <;> rfl

/-- What the entry still owes when its paid parts were of these amounts. -/
def owed (parts : NetPart → ℕ) (entry : EscrowEntry) : ℤ :=
  entry.amount.toNat - (NetPart.all.map fun p => if entry.isNetPaid p then parts p else 0).sum

end EscrowEntry

/-- A call on the escrow, or a restart of its process. -/
inductive EscrowOp where
  | hold (amb : UInt64 → Ambient) (taskID : String) (posterID : AgentID) (amount : UInt64)
  | registerEscrow (taskID : String) (poster : AgentID) (amount : UInt64) (fundingTransferRef : EventID)
  | release (amb : UInt64 → Ambient) (taskID : String) (claimerID : AgentID)
  | releaseNet (amb : UInt64 → Ambient) (taskID : String) (args : NetArgs)
  | refund (amb : UInt64 → Ambient) (taskID : String)
  | restart (order : RangeOrder String EscrowEntry) (reader : Option (EventID → Except Error Event))

namespace Escrow

/-- What the holds of a task put into its bucket, by the ledger, less what left the bucket. -/
def bucketNet (taskID : String) (l : TransferLedger) : ℤ :=
  (l.entries.sumBy fun e => if e.toAgent = bucketID taskID ∧ e.settlement = .settled ∧
      e.memo = "onboarding allocation" then (e.amount.toNat : ℤ) else 0)
    - l.entries.sumBy fun e => if e.fromAgent = bucketID taskID ∧ e.settlement = .settled
        then (e.amount.toNat : ℤ) else 0

def releaseNetArgs (amb : UInt64 → Ambient) (taskID : String) (args : NetArgs) : Method Escrow Unit :=
  releaseNet amb taskID args.claimerID args.netAmount args.validatorID args.validatorAmount args.treasuryID
    args.treasuryAmount

end Escrow

/-- An escrow in a run of calls and restarts. The run remembers the amount of each part `ReleaseNet` paid last. -/
structure EscrowRun where
  escrowMgr : Escrow
  parts : String → NetPart → ℕ := fun _ _ => 0

namespace EscrowRun

/-- The amounts of the parts after a call of `ReleaseNet` on this entry that left the other one. -/
def partsAfter (args : NetArgs) (parts : NetPart → ℕ) (entry entry' : EscrowEntry) (p : NetPart) : ℕ :=
  if entry'.isNetPaid p ∧ ¬ entry.isNetPaid p then (args.amount p).toNat else parts p

def step (s : EscrowRun) : EscrowOp → EscrowRun
  | .hold amb taskID posterID amount => { s with escrowMgr := (s.escrowMgr.hold amb taskID posterID amount).2 }
  | .registerEscrow taskID poster amount ref =>
    { s with escrowMgr := (s.escrowMgr.registerEscrow taskID poster amount ref).2 }
  | .release amb taskID claimerID => { s with escrowMgr := (s.escrowMgr.release amb taskID claimerID).2 }
  | .releaseNet amb taskID args =>
    let e := (s.escrowMgr.releaseNetArgs amb taskID args).2
    match s.escrowMgr.entries.lookup taskID, e.entries.lookup taskID with
    | some entry, some entry' =>
      { s with escrowMgr := e, parts := Function.update s.parts taskID (partsAfter args (s.parts taskID) entry entry') }
    | _, _ => { s with escrowMgr := e }
  | .refund amb taskID => { s with escrowMgr := (s.escrowMgr.refund amb taskID).2 }
  | .restart order reader =>
    { s with escrowMgr := { loadFromStore order s.escrowMgr.ledger (s.escrowMgr.store.getD ∅) with
        dagReader := reader } }

/-- What the in-memory entry of a task still owes. -/
def owed (taskID : String) (s : EscrowRun) : ℤ :=
  match s.escrowMgr.entries.lookup taskID with
  | none => 0
  | some entry => entry.owed (s.parts taskID)

/-- What holds have put into the bucket of the task since this ledger and was not released. -/
def held (l : TransferLedger) (taskID : String) (s : EscrowRun) : ℤ :=
  bucketNet taskID s.escrowMgr.ledger - bucketNet taskID l

/-- An empty escrow with a store on this ledger. -/
def start (l : TransferLedger) (reader : Option (EventID → Except Error Event)) : EscrowRun where
  escrowMgr := { ledger := l, store := some ∅, dagReader := reader }

/-- What a call asks for in the state before it. A hold is for a task without an entry and by a poster that is no
    bucket. `RegisterEscrow` makes no entry of a positive amount, since no hold has funded it. A release or refund is of
    an entry of which no part of a positive amount is paid. `ReleaseNet` pays in its open parts what the entry still
    owes. A restart finds no stored entry of a task that has none in memory. -/
def Orderly (s : EscrowRun) : EscrowOp → Prop
  | .hold _ taskID posterID _ => taskID ∉ s.escrowMgr.entries ∧ ∀ taskID', posterID ≠ bucketID taskID'
  | .registerEscrow taskID poster amount ref =>
    taskID ∈ s.escrowMgr.entries ∨ amount = 0 ∨
      ∃ err, (s.escrowMgr.registerEscrow taskID poster amount ref).1 = .error err
  | .release _ taskID _ | .refund _ taskID =>
    ∀ entry, s.escrowMgr.entries.lookup taskID = some entry → entry.owed (s.parts taskID) = entry.amount.toNat
  | .releaseNet _ taskID args =>
    ∀ entry, s.escrowMgr.entries.lookup taskID = some entry →
      (NetPart.all.map fun p => if entry.isNetPaid p then 0 else (args.amount p).toNat).sum =
        entry.owed (s.parts taskID)
  | .restart _ _ => ∀ stored, s.escrowMgr.store = some stored → ∀ taskID ∈ stored, taskID ∈ s.escrowMgr.entries

end EscrowRun

namespace Escrow

theorem bucketID_injective : Function.Injective bucketID := fun _ _ h => (String.append_right_inj "escrow:").mp h

section Ledger

variable {l l' : TransferLedger} {e : TransferEntry}

theorem bucketNet_of_sameBooks (h : SameBooks l l') (taskID : String) : bucketNet taskID l' = bucketNet taskID l := by
  rw [bucketNet, h.entries, bucketNet]

theorem bucketNet_of_adds (h : Adds l l' e) (hsettled : e.settlement = .settled) (taskID : String) :
    bucketNet taskID l' = bucketNet taskID l +
      (if e.toAgent = bucketID taskID ∧ e.memo = "onboarding allocation" then (e.amount.toNat : ℤ) else 0) -
      if e.fromAgent = bucketID taskID then (e.amount.toNat : ℤ) else 0 := by
  rw [bucketNet, h.entries, sumBy_insert_of_notMem _ e h.fresh, sumBy_insert_of_notMem _ e h.fresh,
    bucketNet]
  simp only [hsettled, true_and, and_true]
  ring

end Ledger

/-- The store has every entry in memory, each under its task. -/
def Synced (e : Escrow) : Prop :=
  ∃ stored, e.store = some stored ∧ (∀ taskID entry, stored.lookup taskID = some entry → entry.taskID = taskID) ∧
    ∀ taskID entry, e.entries.lookup taskID = some entry → stored.lookup taskID = some entry

section Synced

variable {e : Escrow} {taskID : String} {entry : EscrowEntry}

theorem Synced.withLedger (h : e.Synced) (l : TransferLedger) : Synced { e with ledger := l } := h

theorem Synced.insert (h : e.Synced) (entry : EscrowEntry) (htask : entry.taskID = taskID) :
    Synced (({ e with entries := e.entries.insert taskID entry }).persist entry) := by
  obtain ⟨stored, hstore, hkeyed, hsub⟩ := h
  refine ⟨stored.insert taskID entry, ?_, fun t x hx => ?_, fun t x hx => ?_⟩
  · rw [persist, ← htask]
    simp [hstore]
  · rw [lookup_insert_eq] at hx
    split_ifs at hx with ht
    · cases hx
      rw [htask, ht]
    · exact hkeyed t x hx
  · rw [persist_entries, lookup_insert_eq] at hx
    rw [lookup_insert_eq]
    split_ifs at hx ⊢ with ht
    · exact hx
    · exact hsub t x hx

theorem Synced.forget (h : e.Synced) (taskID : String) : Synced { e with entries := e.entries.erase taskID } := by
  obtain ⟨stored, hstore, hkeyed, hsub⟩ := h
  refine ⟨stored, hstore, hkeyed, fun t x hx => ?_⟩
  rw [lookup_erase_eq] at hx
  split_ifs at hx
  exact hsub t x hx

theorem Synced.deleteEntry (h : e.Synced) (taskID : String) : Synced (e.deleteEntry taskID) := by
  obtain ⟨stored, hstore, hkeyed, hsub⟩ := h
  refine ⟨stored.erase taskID, ?_, fun t x hx => ?_, fun t x hx => ?_⟩
  · simp [Escrow.deleteEntry, hstore]
  · rw [lookup_erase_eq] at hx
    split_ifs at hx
    exact hkeyed t x hx
  · simp only [Escrow.deleteEntry, lookup_erase_eq] at hx ⊢
    split_ifs at hx ⊢
    exact hsub t x hx

theorem entries_loadFromStore (h : e.Synced) (order : RangeOrder String EscrowEntry)
    (honly : ∀ stored, e.store = some stored → ∀ taskID ∈ stored, taskID ∈ e.entries) :
    (loadFromStore order e.ledger (e.store.getD ∅)).entries = e.entries := by
  obtain ⟨stored, hstore, hkeyed, hsub⟩ := h
  rw [loadFromStore, hstore, Option.getD_some]
  rw [order.ofInserts_visit_of_keyed stored hkeyed]
  refine ext_lookup fun t => ?_
  cases hlookup : e.entries.lookup t with
  | some entry => exact hsub t entry hlookup
  | none =>
    refine lookup_eq_none.mpr fun hmem => ?_
    exact lookup_eq_none.mp hlookup (honly stored hstore t hmem)

end Synced

section Pay

variable (amb : UInt64 → Ambient) (taskID : String) (toID : AgentID) (amount : UInt64) (memo context : String)
  (e : Escrow)

theorem pay_cases (hmemo : memo ≠ "onboarding allocation") :
    (∃ err l', e.pay amb taskID toID amount memo context = (.error err, { e with ledger := l' }) ∧
      ∀ t, bucketNet t l' = bucketNet t e.ledger) ∨
    ∃ l', e.pay amb taskID toID amount memo context = (.ok (), { e with ledger := l' }) ∧
      ∀ t, bucketNet t l' = bucketNet t e.ledger - if t = taskID then (amount.toNat : ℤ) else 0 := by
  unfold pay
  obtain ⟨⟨err, herr⟩, hbooks⟩ | ⟨eid, hok, hadds, -⟩ :=
    transferFromBucketLabeled_cases (amb e.ledger.bucketCounter) (bucketID taskID) toID amount memo false e.ledger
  · generalize e.ledger.transferFromBucketLabeled _ _ _ _ _ _ = call at herr hbooks ⊢
    obtain ⟨_, l'⟩ := call
    cases herr
    exact .inl ⟨_, l', rfl, bucketNet_of_sameBooks hbooks⟩
  · generalize e.ledger.transferFromBucketLabeled _ _ _ _ _ _ = call at hok hadds ⊢
    obtain ⟨_, l'⟩ := call
    cases hok
    refine .inr ⟨l', rfl, fun t => ?_⟩
    rw [bucketNet_of_adds hadds rfl]
    simp [bucketEntry, hmemo, bucketID_injective.eq_iff, eq_comm (a := taskID)]

end Pay

/-- What a call of `ReleaseNet` has paid when it found this entry and has left the other one so far. -/
def newlyPaid (args : NetArgs) (entry entry' : EscrowEntry) : ℕ :=
  (NetPart.all.map fun p =>
    if entry'.isNetPaid p ∧ ¬ entry.isNetPaid p then (args.amount p).toNat else 0).sum

/-- A call of `ReleaseNet` on this escrow and entry is under way: the parts visited so far are paid or empty, what it
    paid left the bucket of the task, and no other task is concerned. -/
structure NetProgress (args : NetArgs) (taskID : String) (e₀ : Escrow) (entry₀ : EscrowEntry)
    (visited : List NetPart) (entry : EscrowEntry) (e : Escrow) : Prop where
  lookup : e.entries.lookup taskID = some entry
  amount : entry.amount = entry₀.amount
  task : entry.taskID = taskID
  kept : ∀ p, entry₀.isNetPaid p → entry.isNetPaid p
  done : ∀ p ∈ visited, entry.isNetPaid p ∨ args.amount p = 0
  net : ∀ t, bucketNet t e.ledger =
    bucketNet t e₀.ledger - if t = taskID then (newlyPaid args entry₀ entry : ℤ) else 0
  others : ∀ t, t ≠ taskID → e.entries.lookup t = e₀.entries.lookup t
  synced : e.Synced

/-- One part of `ReleaseNet`. -/
def payPart (amb : UInt64 → Ambient) (taskID : String) (args : NetArgs) (p : NetPart) : Method Escrow Unit :=
  payNet amb taskID (fun entry => p ≠ .worker && args.amount p = 0 || entry.isNetPaid p) (·.markNetPaid p)
    (args.recipient p) (args.amount p) p.memo (p.context taskID)

variable (amb : UInt64 → Ambient)

theorem releaseNetArgs_eq (taskID : String) (args : NetArgs) : releaseNetArgs amb taskID args = (do
      let locked ← Method.read (isLocked taskID)
      if !locked then Method.fail (.wrap "" errEscrowNotFound s!": task {taskID}")
      else
        forM NetPart.all (payPart amb taskID args)
        Method.write (deleteEntry taskID)) := by
  simp only [releaseNetArgs, releaseNet, NetPart.all, List.forM_cons, List.forM_nil, bind_assoc, pure_bind, payPart]
  rfl

section Net

variable {args : NetArgs} {taskID : String} {e e₀ : Escrow} {entry entry₀ : EscrowEntry} {visited : List NetPart}
  {p : NetPart}

theorem newlyPaid_markNetPaid (hunpaid : ¬ entry.isNetPaid p) (hkept : ∀ q, entry₀.isNetPaid q → entry.isNetPaid q) :
    newlyPaid args entry₀ (entry.markNetPaid p) = newlyPaid args entry₀ entry + (args.amount p).toNat := by
  have hbefore : ¬ entry₀.isNetPaid p := fun h => hunpaid (hkept p h)
  simp only [newlyPaid, EscrowEntry.isNetPaid_markNetPaid_iff]
  cases p <;> simp [NetPart.all, hunpaid, hbefore] <;> omega

section

variable (h : NetProgress args taskID e₀ entry₀ visited entry e)

include h

theorem NetProgress.visit
    (hp : entry.isNetPaid p ∨ args.amount p = 0) : NetProgress args taskID e₀ entry₀ (visited ++ [p]) entry e :=
  { h with
    done := fun q hq => by
      rcases List.mem_append.mp hq with hq | hq
      · exact h.done q hq
      · exact List.mem_singleton.mp hq ▸ hp }

theorem NetProgress.failed {l' : TransferLedger} (hnet : ∀ t, bucketNet t l' = bucketNet t e.ledger) :
    NetProgress args taskID e₀ entry₀ [] entry { e with ledger := l' } :=
  { h with
    done := fun _ hq => absurd hq List.not_mem_nil
    net := fun t => (hnet t).trans (h.net t) }

theorem NetProgress.paid {l' : TransferLedger} (hunpaid : ¬ entry.isNetPaid p)
    (hnet : ∀ t, bucketNet t l' = bucketNet t e.ledger - if t = taskID then ((args.amount p).toNat : ℤ) else 0) :
    NetProgress args taskID e₀ entry₀ (visited ++ [p]) (entry.markNetPaid p)
      (updateEntry taskID (·.markNetPaid p) { e with ledger := l' }) := by
  have hupdate : updateEntry taskID (·.markNetPaid p) { e with ledger := l' } =
      ({ e with ledger := l', entries := e.entries.insert taskID (entry.markNetPaid p) }).persist
        (entry.markNetPaid p) := by
    simp [updateEntry, h.lookup]
  have hmarked : ∀ q, (entry.markNetPaid p).isNetPaid q ↔ q = p ∨ entry.isNetPaid q :=
    entry.isNetPaid_markNetPaid_iff p
  rw [hupdate]
  refine NetProgress.visit ?_ (.inl ((hmarked p).mpr (.inl rfl)))
  refine ⟨lookup_insert _, ?_, ?_, fun q hq => (hmarked q).mpr (.inr (h.kept q hq)), fun q hq => ?_,
    fun t => ?_, fun t ht => ?_, (h.synced.withLedger l').insert _ ?_⟩
  · rw [EscrowEntry.markNetPaid_amount, h.amount]
  · rw [EscrowEntry.markNetPaid_taskID, h.task]
  · exact (h.done q hq).imp_left fun hpaid => (hmarked q).mpr (.inr hpaid)
  · rw [persist_ledger, hnet, h.net, newlyPaid_markNetPaid hunpaid h.kept]
    by_cases ht : t = taskID
    · simp only [if_pos ht]
      push_cast
      ring
    · simp [if_neg ht]
  · rw [persist_entries, lookup_insert_of_ne _ ht, h.others t ht]
  · rw [EscrowEntry.markNetPaid_taskID, h.task]

end

theorem payPart_meets (p : NetPart) :
    Method.Meets (fun e => ∃ entry, NetProgress args taskID e₀ entry₀ visited entry e) (payPart amb taskID args p)
      (fun _ e => ∃ entry, NetProgress args taskID e₀ entry₀ (visited ++ [p]) entry e)
      (fun e => ∃ entry, NetProgress args taskID e₀ entry₀ [] entry e) := by
  have hmemo : p.memo ≠ "onboarding allocation" := by cases p <;> decide
  refine .bind (R := fun skipped e => ∃ entry, NetProgress args taskID e₀ entry₀ visited entry e ∧
    skipped = (p ≠ .worker && args.amount p = 0 || entry.isNetPaid p)) (.read ?_) fun skipped => ?_
  · rintro e ⟨entry, h⟩
    exact ⟨entry, h, by rw [h.lookup]; rfl⟩
  cases skipped with
  | true =>
    refine .pure ?_
    rintro e ⟨entry, h, hskip⟩
    refine ⟨entry, h.visit ?_⟩
    rcases Bool.or_eq_true_iff.mp hskip.symm with hempty | hpaid
    · exact .inr (of_decide_eq_true (Bool.and_eq_true_iff.mp hempty).2)
    · exact .inl hpaid
  | false =>
    refine .bind (R := fun _ e => ∃ entry, NetProgress args taskID e₀ entry₀ (visited ++ [p]) entry
      (e.updateEntry taskID (·.markNetPaid p))) ?_ fun _ => .write fun _ h => h
    rintro e ⟨entry, h, hskip⟩
    have hunpaid : ¬ entry.isNetPaid p := by
      rw [(Bool.or_eq_false_iff.mp hskip.symm).2]
      exact Bool.false_ne_true
    obtain ⟨err, l', hcall, hnet⟩ | ⟨l', hcall, hnet⟩ :=
      pay_cases amb taskID (args.recipient p) (args.amount p) p.memo (p.context taskID) e hmemo
    · rw [hcall]
      exact ⟨entry, h.failed hnet⟩
    · rw [hcall]
      exact ⟨_, h.paid hunpaid hnet⟩

theorem releaseNetArgs_meets :
    Method.Meets (fun e => ∃ entry, NetProgress args taskID e₀ entry₀ [] entry e) (releaseNetArgs amb taskID args)
      (fun _ e => ∃ entry e₁, NetProgress args taskID e₀ entry₀ NetPart.all entry e₁ ∧ e = e₁.deleteEntry taskID)
      (fun e => ∃ entry, NetProgress args taskID e₀ entry₀ [] entry e) := by
  rw [releaseNetArgs_eq]
  refine .bind (R := fun _ e => ∃ entry, NetProgress args taskID e₀ entry₀ [] entry e) (.read fun _ h => h)
    fun locked => ?_
  cases locked with
  | false => exact .fail fun _ h => h
  | true =>
    refine .bind (.loop (motive := fun visited e => ∃ entry, NetProgress args taskID e₀ entry₀ visited entry e)
      fun visited p _ => payPart_meets amb p) fun _ => .write ?_
    rintro e ⟨entry, h⟩
    exact ⟨entry, e, h, rfl⟩

theorem NetProgress.newlyPaid_eq (h : NetProgress args taskID e₀ entry₀ NetPart.all entry e) :
    newlyPaid args entry₀ entry =
      (NetPart.all.map fun p => if entry₀.isNetPaid p then 0 else (args.amount p).toNat).sum := by
  unfold newlyPaid
  congr 1
  refine List.map_congr_left fun p hp => ?_
  by_cases hbefore : entry₀.isNetPaid p
  · rw [if_neg fun hnew => hnew.2 hbefore, if_pos hbefore]
  · rw [if_neg hbefore]
    rcases h.done p hp with hpaid | hempty
    · rw [if_pos ⟨hpaid, hbefore⟩]
    · rw [hempty, UInt64.toNat_zero, ite_self]

end Net

end Escrow

namespace EscrowRun

/-- Every bucket holds what the entry of its task owes. -/
structure Coherent (l : TransferLedger) (s : EscrowRun) : Prop where
  synced : s.escrowMgr.Synced
  held_eq : ∀ taskID, s.held l taskID = s.owed taskID

theorem Coherent.start (l : TransferLedger) (reader : Option (EventID → Except Error Event)) :
    Coherent l (start l reader) where
  synced := ⟨∅, rfl, fun t x hx => by simp at hx, fun t x hx => by simp [EscrowRun.start] at hx⟩
  held_eq taskID := by simp [held, owed, EscrowRun.start]

section Step

variable {l : TransferLedger} {s s' : EscrowRun} {taskID : String}

section

variable (h : s.Coherent l)

include h

theorem Coherent.of_change (taskID : String) (hsynced : s'.escrowMgr.Synced)
    (hother : ∀ t, t ≠ taskID → s'.held l t = s.held l t ∧ s'.owed t = s.owed t)
    (hself : s'.held l taskID - s.held l taskID = s'.owed taskID - s.owed taskID) : s'.Coherent l where
  synced := hsynced
  held_eq t := by
    have hbefore := h.held_eq t
    by_cases ht : t = taskID
    · subst ht
      omega
    · obtain ⟨hheld, howed⟩ := hother t ht
      rw [hheld, howed, hbefore]

theorem Coherent.of_same {e : Escrow} (hsynced : e.Synced)
    (hentries : ∀ t, e.entries.lookup t = s.escrowMgr.entries.lookup t)
    (hnet : ∀ t, bucketNet t e.ledger = bucketNet t s.escrowMgr.ledger) :
    Coherent l { s with escrowMgr := e } where
  synced := hsynced
  held_eq t := by
    have hbefore := h.held_eq t
    simp only [held, owed, hentries, hnet] at hbefore ⊢
    exact hbefore

theorem Coherent.hold (amb : UInt64 → Ambient) {posterID : AgentID} (amount : UInt64)
    (hnew : taskID ∉ s.escrowMgr.entries) (hposter : ∀ t, posterID ≠ bucketID t) :
    (s.step (.hold amb taskID posterID amount)).Coherent l := by
  have hnone : s.escrowMgr.entries.lookup taskID = none := lookup_eq_none.mpr hnew
  have hsynced := h.synced.insert { taskID, posterID, amount : EscrowEntry } rfl
  simp only [step, Escrow.hold, transferFromBucket, Escrow.persist_ledger]
  obtain ⟨⟨err, herr⟩, hbooks⟩ | ⟨eid, hok, hadds, -⟩ := transferFromBucketLabeled_cases
    (amb s.escrowMgr.ledger.bucketCounter) posterID (bucketID taskID) amount "onboarding allocation" true
    s.escrowMgr.ledger
  · generalize s.escrowMgr.ledger.transferFromBucketLabeled _ _ _ _ _ _ = call at herr hbooks ⊢
    obtain ⟨_, l'⟩ := call
    cases herr
    refine h.of_same ((hsynced.withLedger l').deleteEntry taskID) (fun t => ?_)
      (Escrow.bucketNet_of_sameBooks hbooks)
    -- the entry the call deletes is the one it made
    simp only [Escrow.deleteEntry, Escrow.persist_entries, lookup_erase_eq, lookup_insert_eq]
    split_ifs with ht
    · rw [ht, hnone]
    · rfl
  · generalize s.escrowMgr.ledger.transferFromBucketLabeled _ _ _ _ _ _ = call at hok hadds ⊢
    obtain ⟨_, l'⟩ := call
    cases hok
    have hnet : ∀ t, Escrow.bucketNet t l' =
        Escrow.bucketNet t s.escrowMgr.ledger + if t = taskID then (amount.toNat : ℤ) else 0 := by
      intro t
      rw [Escrow.bucketNet_of_adds hadds rfl]
      simp [bucketEntry, hposter, Escrow.bucketID_injective.eq_iff, eq_comm (a := taskID)]
    refine h.of_change taskID (hsynced.withLedger l') (fun t ht => ?_) ?_
    · simp [held, owed, hnet, Escrow.persist_entries, if_neg ht, lookup_insert_of_ne _ ht]
    · simp only [held, owed, hnet, Escrow.persist_entries, if_true, lookup_insert, hnone]
      simp [EscrowEntry.owed, EscrowEntry.isNetPaid, NetPart.all]

theorem Coherent.registerEscrow {poster : AgentID} {amount : UInt64} {ref : EventID}
    (hunfunded : taskID ∈ s.escrowMgr.entries ∨ amount = 0 ∨
      ∃ err, (s.escrowMgr.registerEscrow taskID poster amount ref).1 = .error err) :
    (s.step (.registerEscrow taskID poster amount ref)).Coherent l := by
  simp only [step]
  by_cases hmem : taskID ∈ s.escrowMgr.entries
  · rw [Escrow.registerEscrow, if_pos hmem]
    exact h
  have hnone : s.escrowMgr.entries.lookup taskID = none := lookup_eq_none.mpr hmem
  obtain ⟨err, hcall⟩ | ⟨entry, rfl, hcall⟩ := Escrow.registerEscrow_cases taskID poster amount ref hmem
  · rw [hcall]
    exact h
  · rw [hcall] at hunfunded ⊢
    obtain rfl : amount = 0 := by
      obtain hold | hzero | ⟨err, herr⟩ := hunfunded
      · exact absurd hold hmem
      · exact hzero
      · cases herr
    refine h.of_change taskID (h.synced.insert _ rfl) (fun t ht => ?_) ?_
    · simp [held, owed, Escrow.persist_entries, Escrow.persist_ledger, lookup_insert_of_ne _ ht]
    · simp only [held, owed, Escrow.persist_entries, Escrow.persist_ledger, lookup_insert, hnone]
      simp [EscrowEntry.owed, EscrowEntry.isNetPaid, NetPart.all]

theorem Coherent.of_paid {entry : EscrowEntry} {e : Escrow}
    (hlookup : s.escrowMgr.entries.lookup taskID = some entry) (hsynced : e.Synced)
    (hentries : e.entries = s.escrowMgr.entries.erase taskID)
    (hnet : ∀ t, bucketNet t e.ledger =
      bucketNet t s.escrowMgr.ledger - if t = taskID then entry.owed (s.parts taskID) else 0) :
    Coherent l { s with escrowMgr := e } := by
  refine h.of_change taskID hsynced (fun t ht => ?_) ?_
  · simp [held, owed, hnet, hentries, if_neg ht, lookup_erase_ne ht]
  · simp only [held, owed, hnet, hentries, if_true, lookup_erase, hlookup]
    ring

theorem Coherent.payOff (amb : UInt64 → Ambient) {entry : EscrowEntry} {toID : AgentID}
    {memo context : String} {drop : Escrow → Escrow} (hlookup : s.escrowMgr.entries.lookup taskID = some entry)
    (hopen : entry.owed (s.parts taskID) = entry.amount.toNat) (hmemo : memo ≠ "onboarding allocation")
    (hsynced : ∀ e, e.Synced → (drop e).Synced) (hentries : ∀ e, (drop e).entries = e.entries.erase taskID)
    (hledger : ∀ e, (drop e).ledger = e.ledger) :
    Coherent l { s with escrowMgr :=
      ((do pay amb taskID toID entry.amount memo context; Method.write drop) s.escrowMgr).2 } := by
  simp only [Bind.bind]
  obtain ⟨err, l', hcall, hnet⟩ | ⟨l', hcall, hnet⟩ :=
    pay_cases amb taskID toID entry.amount memo context s.escrowMgr hmemo
  · rw [hcall]
    exact h.of_same (h.synced.withLedger l') (fun _ => rfl) hnet
  · rw [hcall]
    refine h.of_paid hlookup (hsynced _ (h.synced.withLedger l')) (hentries _) fun t => ?_
    simp only [Method.write, hledger, hopen]
    exact hnet t

theorem Coherent.release (amb : UInt64 → Ambient) (claimerID : AgentID)
    (hopen : ∀ entry, s.escrowMgr.entries.lookup taskID = some entry →
      entry.owed (s.parts taskID) = entry.amount.toNat) :
    (s.step (.release amb taskID claimerID)).Coherent l := by
  simp only [step, Escrow.release, Method.read, Bind.bind]
  cases hlookup : s.escrowMgr.entries.lookup taskID with
  | none => exact h
  | some entry =>
    exact h.payOff amb hlookup (hopen entry hlookup) (by decide) (fun _ he => he.forget taskID) (fun _ => rfl)
      fun _ => rfl

theorem Coherent.refund (amb : UInt64 → Ambient) (hopen : ∀ entry, s.escrowMgr.entries.lookup taskID = some entry →
      entry.owed (s.parts taskID) = entry.amount.toNat) :
    (s.step (.refund amb taskID)).Coherent l := by
  simp only [step, Escrow.refund, Method.read, Bind.bind]
  cases hlookup : s.escrowMgr.entries.lookup taskID with
  | none => exact h
  | some entry =>
    exact h.payOff amb hlookup (hopen entry hlookup) (by decide) (fun _ he => he.deleteEntry taskID) (fun _ => rfl)
      fun _ => rfl

end

theorem owed_partsAfter {args : NetArgs} {parts : NetPart → ℕ} {entry entry' : EscrowEntry}
    (hamount : entry'.amount = entry.amount) (hkept : ∀ p, entry.isNetPaid p → entry'.isNetPaid p) :
    entry'.owed (partsAfter args parts entry entry') = entry.owed parts - newlyPaid args entry entry' := by
  have hsum : ∀ ps : List NetPart,
      (ps.map fun p => if entry'.isNetPaid p then partsAfter args parts entry entry' p else 0).sum =
        (ps.map fun p => if entry.isNetPaid p then parts p else 0).sum +
          (ps.map fun p => if entry'.isNetPaid p ∧ ¬ entry.isNetPaid p then (args.amount p).toNat else 0).sum := by
    intro ps
    rw [← List.sum_map_add]
    congr 1
    refine List.map_congr_left fun p _ => ?_
    unfold partsAfter
    have := hkept p
    by_cases hbefore : entry.isNetPaid p <;> by_cases hafter : entry'.isNetPaid p <;> simp_all
  rw [EscrowEntry.owed, EscrowEntry.owed, hsum, hamount, newlyPaid]
  push_cast
  ring

theorem Coherent.releaseNet (h : s.Coherent l) (amb : UInt64 → Ambient) (args : NetArgs)
    (hexact : ∀ entry, s.escrowMgr.entries.lookup taskID = some entry →
      (NetPart.all.map fun p => if entry.isNetPaid p then 0 else (args.amount p).toNat).sum =
        entry.owed (s.parts taskID)) :
    (s.step (.releaseNet amb taskID args)).Coherent l := by
  simp only [step]
  cases hlookup : s.escrowMgr.entries.lookup taskID with
  | none =>
    have hunlocked : s.escrowMgr.isLocked taskID = false := decide_eq_false (lookup_eq_none.mp hlookup)
    have hcall : (s.escrowMgr.releaseNetArgs amb taskID args).2 = s.escrowMgr := by
      simp only [Escrow.releaseNetArgs_eq, Bind.bind, Method.read, hunlocked]
      rfl
    rw [hcall]
    exact h
  | some entry =>
    have hstart : Escrow.NetProgress args taskID s.escrowMgr entry [] entry s.escrowMgr := by
      refine ⟨hlookup, rfl, ?_, fun _ hp => hp, fun p hp => absurd hp List.not_mem_nil, fun t => ?_, fun _ _ => rfl,
        h.synced⟩
      · obtain ⟨stored, -, hkeyed, hsub⟩ := h.synced
        exact hkeyed taskID entry (hsub taskID entry hlookup)
      · simp [Escrow.newlyPaid]
    have hmeets := Escrow.releaseNetArgs_meets amb s.escrowMgr ⟨entry, hstart⟩
    generalize s.escrowMgr.releaseNetArgs amb taskID args = call at hmeets ⊢
    obtain ⟨_ | _, e⟩ := call
    · -- the parts paid before the call failed are taken off what the entry owes
      obtain ⟨entry', hprogress⟩ := hmeets
      simp only [hprogress.lookup]
      refine h.of_change taskID hprogress.synced (fun t ht => ?_) ?_
      · simp [held, owed, hprogress.net, if_neg ht, hprogress.others t ht, Function.update_of_ne ht]
      · simp only [held, owed, hprogress.net, if_true, hprogress.lookup, hlookup, Function.update_self,
          owed_partsAfter hprogress.amount hprogress.kept]
        ring
    · obtain ⟨entry', e₁, hprogress, rfl⟩ := hmeets
      have hgone : (e₁.deleteEntry taskID).entries.lookup taskID = none := lookup_erase _ _
      simp only [hgone]
      refine h.of_change taskID (hprogress.synced.deleteEntry taskID) (fun t ht => ?_) ?_
      · simp [held, owed, Escrow.deleteEntry, hprogress.net, if_neg ht, lookup_erase_ne ht, hprogress.others t ht]
      · simp only [held, owed, hgone, hlookup, ← hexact entry hlookup, ← hprogress.newlyPaid_eq]
        simp only [Escrow.deleteEntry, hprogress.net, if_true]
        ring

theorem Coherent.restart (h : s.Coherent l) (order : RangeOrder String EscrowEntry)
    (reader : Option (EventID → Except Error Event))
    (honly : ∀ stored, s.escrowMgr.store = some stored → ∀ taskID ∈ stored, taskID ∈ s.escrowMgr.entries) :
    (s.step (.restart order reader)).Coherent l := by
  have hentries := entries_loadFromStore h.synced order honly
  refine h.of_same ?_ (fun t => by rw [← hentries]) fun _ => rfl
  obtain ⟨stored, hstore, hkeyed, hsub⟩ := h.synced
  refine ⟨stored, ?_, hkeyed, ?_⟩
  · simp [loadFromStore, hstore]
  · rw [← hentries] at hsub
    exact hsub

theorem Coherent.step (h : s.Coherent l) {op : EscrowOp} (horderly : s.Orderly op) : (s.step op).Coherent l := by
  cases op with
  | hold amb taskID posterID amount => exact h.hold amb amount horderly.1 horderly.2
  | registerEscrow taskID poster amount ref => exact h.registerEscrow horderly
  | release amb taskID claimerID => exact h.release amb claimerID horderly
  | releaseNet amb taskID args => exact h.releaseNet amb args horderly
  | refund amb taskID => exact h.refund amb horderly
  | restart order reader => exact h.restart order reader horderly

end Step

section Sample

def sampleLedger : TransferLedger where
  entries := (∅ : Map EventID TransferEntry).insert "genesis"
    ⟨"genesis", "system", "poster", 100, "AET", "genesis credit", "", 0, .settled, 0, true⟩

def sampleAmbient : UInt64 → Ambient := fun _ => { now := 0 }

def hold (amount : UInt64) : EscrowOp := .hold sampleAmbient "t" "poster" amount

/-- Hold 60, restart, and pay 50 to the worker and 10 to the validator. -/
def holdAndRelease : List EscrowOp :=
  [hold 60, .restart .byKey none, .releaseNet sampleAmbient "t" ⟨"worker", 50, "validator", 10, "treasury", 0⟩]

def sampleRun (ops : List EscrowOp) : EscrowRun := ops.foldl EscrowRun.step (start sampleLedger none)

theorem poster_ne_bucketID (taskID : String) : "poster" ≠ bucketID taskID := by
  intro h
  have hchars := congrArg String.toList h
  rw [bucketID, String.toList_append] at hchars
  cases hchars

/-- The canonical transfer of 60 to the bucket. -/
def lockEvent : Event where
  id := "lock"
  type := .transfer
  payload := .document (.obj [("from_agent", .str "poster"), ("to_agent", .str "escrow:t"), ("amount", .num "60"),
    ("reason", .str "escrow-lock"), ("task_id", .str "t")])
  agentID := "poster"
  settlementState := .settled

/-- The ledger with that transfer. -/
def fundedLedger : TransferLedger where
  entries := sampleLedger.entries.insert "lock"
    ⟨"lock", "poster", "escrow:t", 60, "AET", "", "escrow-lock", 0, .settled, 0, false⟩

def register : EscrowOp := .registerEscrow "t" "poster" 60 "lock"

end Sample

end EscrowRun

end aethernet.escrow
