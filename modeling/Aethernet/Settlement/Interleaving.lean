import Aethernet.Settlement.Overdraft
import Aethernet.Transition.Attempts

open golang aethernet event dag ledger settlement.Action GenerationLedger Finmap

namespace aethernet.ledger

theorem notMem_validTransitions (state : SettlementState) {allowed : List SettlementState}
    (hallowed : validTransitions state = some allowed) : state ∉ allowed := by
  cases state <;> cases hallowed <;> decide

namespace TransferLedger

/-- The ledger has the transfer in this state. -/
def SettledAs (id : EventID) (state : SettlementState) (l : TransferLedger) : Prop :=
  ∃ e, l.entries.lookup id = some e ∧ e.settlement = state

variable {id : EventID} {state : SettlementState} {l l' : TransferLedger}

theorem SettledAs.adds {e : TransferEntry} (h : l.SettledAs id state) (hadds : Adds l l' e) :
    l'.SettledAs id state := by
  obtain ⟨e', hlookup, hstate⟩ := h
  have hne : id ≠ e.eventID := by
    rintro rfl
    exact hadds.fresh (mem_of_lookup_eq_some hlookup)
  refine ⟨e', ?_, hstate⟩
  rw [hadds.entries, lookup_insert_of_ne _ hne, hlookup]

theorem SettledAs.bucketStable (id : EventID) (state : SettlementState) : BucketStable (SettledAs id state) := by
  intro amb fromID toID amount memo isGenesis l h
  obtain ⟨-, hsame⟩ | ⟨eid, -, hadds, -⟩ :=
    transferFromBucketLabeled_cases amb fromID toID amount memo isGenesis l
  · unfold SettledAs
    rw [hsame.entries]
    exact h
  · exact h.adds hadds

theorem SettledAs.recordFromSync (h : l.SettledAs id state) (amb : Ambient) (e : Event) :
    (l.recordFromSync amb e).2.SettledAs id state := by
  obtain hsame | ⟨p, -, -, hadds⟩ := recordFromSync_cases amb e l
  · rwa [hsame]
  · exact h.adds hadds

theorem SettledAs.settle (h : l.SettledAs id state) (amb : Ambient) {id' : EventID} {state' : SettlementState}
    (hother : id' ≠ id ∨ (l.settle amb id' state').1 ≠ .ok ()) : (l.settle amb id' state').2.SettledAs id state := by
  obtain ⟨err, herr⟩ | ⟨e, hok, hrestates⟩ := settle_cases amb id' state' l
  · rwa [herr]
  · obtain ⟨e', hlookup, hstate⟩ := h
    refine ⟨e', ?_, hstate⟩
    rw [hrestates.entries, lookup_insert_of_ne _ (hother.resolve_right fun hfailed => hfailed hok).symm, hlookup]

theorem SettledAs.refuses (h : l.SettledAs id state) (amb : Ambient) : (l.settle amb id state).1 ≠ .ok () := by
  obtain ⟨err, herr⟩ | ⟨e, -, hrestates⟩ := settle_cases amb id state l
  · rw [herr]
    exact fun hok => by cases hok
  · obtain ⟨e', hlookup, hstate⟩ := h
    obtain rfl := Option.some.inj (hlookup.symm.trans hrestates.lookup)
    obtain ⟨allowed, hallowed, hmem⟩ := hrestates.allowed
    rw [hstate] at hallowed
    exact absurd hmem (notMem_validTransitions state hallowed)

theorem settledAs_of_settle {amb : Ambient} (hok : (l.settle amb id state).1 = .ok ()) :
    (l.settle amb id state).2.SettledAs id state := by
  obtain ⟨err, herr⟩ | ⟨e, -, hrestates⟩ := settle_cases amb id state l
  · rw [herr] at hok
    cases hok
  · refine ⟨{ e with settlement := state }, ?_, rfl⟩
    rw [hrestates.entries, lookup_insert]

end TransferLedger

namespace GenerationLedger

/-- The ledger has the generation in this state. -/
def SettledAs (id : EventID) (state : SettlementState) (l : GenerationLedger) : Prop :=
  ∃ e, l.entries.lookup id = some e ∧ e.settlement = state

variable {id : EventID} {state : SettlementState} {l : GenerationLedger}

theorem SettledAs.setEntry (h : l.SettledAs id state) {id' : EventID} (hne : id ≠ id') (e : GenerationEntry) :
    (l.setEntry id' e).SettledAs id state := by
  obtain ⟨e', hlookup, hstate⟩ := h
  exact ⟨e', (lookup_insert_of_ne _ hne).trans hlookup, hstate⟩

theorem SettledAs.recordFromSync (h : l.SettledAs id state) (now : Time) (e : Event) :
    (recordFromSync now e l).2.SettledAs id state := by
  obtain hsame | ⟨p, hnew, hcall⟩ := recordFromSync_cases now e l
  · rwa [hsame]
  · rw [hcall]
    refine h.setEntry ?_ _
    rintro rfl
    obtain ⟨e', hlookup, -⟩ := h
    exact hnew (mem_of_lookup_eq_some hlookup)

end GenerationLedger

end aethernet.ledger

namespace aethernet.settlement

/-- Who runs `applyToTarget`: a call of `Apply`, or a pass of `reconcile` with what is left of its snapshot. -/
inductive Caller where
  | apply
  | reconcile (rest : List SettlementPayload)

/-- A goroutine between two atomic steps. -/
inductive Worker where
  | finished
  | checking (sp : SettlementPayload)
  | lookingUp (sp : SettlementPayload) (caller : Caller)
  | deferring (sp : SettlementPayload)
  | acting (sp : SettlementPayload) (target : Event) (action : Action) (rest : List Action) (caller : Caller)

/-- What a caller does after a target. -/
def Caller.resume : Caller → Worker
  | apply => .finished
  | reconcile [] => .finished
  | reconcile (sp :: rest) => .lookingUp sp (.reconcile rest)

/-- The first step of `applyToTarget`. -/
def Worker.begin (sp : SettlementPayload) (target : Event) (caller : Caller) : Worker :=
  match ofType target.type with
  | [] => caller.resume
  | action :: rest => .acting sp target action rest caller

/-- The side effects of `applyToTarget`: the task settler call, the escrow or stake record, the identity record, the
    fee collection and the stake activity. -/
def Action.isEffect (action : Action) : Bool :=
  action ∈ [settleTask, bookkeepTransfer, recordIdentity, trackFee, payFee, recordActivity]

/-- An applicator with its goroutines. `attempts` and `effects` keep account of the calls of `applyToTarget` and of
    their side effects. -/
structure Process where
  dag : DAG
  rep : dag.Rep
  applicator : Applicator
  workers : ℕ → Worker := fun _ => .finished
  attempts : List (EventID × SettlementState) := []
  effects : List (EventID × Action) := []

namespace Process

/-- An event enters the DAG, a goroutine calls `Apply` or takes the snapshot of `reconcile`, or one takes its next
    atomic step. -/
inductive Move where
  | arrive (putEventErr : Option Error) (ev : Event)
  | callApply (i : ℕ) (sp : SettlementPayload)
  | callReconcile (i : ℕ) (order : RangeOrder EventID SettlementPayload)
  | advance (i : ℕ) (env : ApplyEnv) (order : List EventID)

def setWorker (i : ℕ) (w : Worker) (p : Process) : Process := { p with workers := Function.update p.workers i w }

/-- The next step of a goroutine that runs `applyToTarget`. -/
def act (env : ApplyEnv) (i : ℕ) (sp : SettlementPayload) (target : Event) (action : Action) (rest : List Action)
    (caller : Caller) (p : Process) : Process :=
  let call := action.run env sp target p.applicator
  { p with
    applicator := call.2
    workers := Function.update p.workers i (match call.1, rest with
      | .ok (), next :: rest => .acting sp target next rest caller
      | _, _ => caller.resume)
    effects := if action.isEffect then (sp.targetEventID, action) :: p.effects else p.effects }

/-- The next atomic step of a goroutine. -/
def advance (i : ℕ) (env : ApplyEnv) (order : List EventID) (p : Process) : Process :=
  match p.workers i with
  | .finished => p
  | .checking sp =>
    p.setWorker i (if sp.targetEventID ∈ p.applicator.applied then .finished else .lookingUp sp .apply)
  | .lookingUp sp caller =>
    match p.dag.get sp.targetEventID with
    | .ok target => { p.setWorker i (.begin sp target caller) with
        attempts := (sp.targetEventID, sp.settleState) :: p.attempts }
    | .error _ => match caller with
      | .apply => p.setWorker i (.deferring sp)
      | .reconcile rest => p.setWorker i (Caller.reconcile rest).resume
  | .deferring sp => { p.setWorker i .finished with applicator := p.applicator.deferTarget sp }
  | .acting sp target action rest caller =>
    p.act (env.within p.dag p.rep order) i sp target action rest caller

/-- Give a goroutine that has nothing to do a call. -/
def call (i : ℕ) (w : Worker) (p : Process) : Process :=
  match p.workers i with
  | .finished => p.setWorker i w
  | _ => p

def step (c : Crypto) (p : Process) : Move → Process
  | .arrive putEventErr ev =>
    { p with dag := (p.dag.add c putEventErr ev).2, rep := p.rep.add c putEventErr ev }
  | .callApply i sp => p.call i (.checking sp)
  | .callReconcile i order =>
    p.call i (Caller.reconcile ((order.visit p.applicator.deferred).map Prod.snd)).resume
  | .advance i env order => p.advance i env order

end Process

def Action.isSafe (action : Action) : Bool :=
  action ∈ [bookkeepTransfer, recordIdentity, trackFee, payFee, recordActivity, markApplied]

def Guarded (type : EventType) : Prop := type = .transfer ∨ type = .generation

namespace Action

variable {type : EventType} {action : Action} {rest : List Action}

theorem nodup_ofType (type : EventType) : (ofType type).Nodup := by
  unfold ofType
  split <;> decide

theorem guarded_of_mem (hmem : action ∈ ofType type) (haction : action = settleTransfer ∨ action = verifyGeneration) :
    Guarded type := by
  unfold ofType at hmem
  split at hmem
  · exact .inl rfl
  · exact .inr rfl
  all_goals
    obtain rfl | rfl := haction <;> simp at hmem

theorem eq_markApplied_of_last (hlast : [action] <:+ ofType type) : action = markApplied := by
  obtain ⟨before, hbefore⟩ := hlast
  have hend : (ofType type).getLast? = some markApplied := by
    unfold ofType
    split <;> rfl
  rw [← hbefore, List.getLast?_append_cons] at hend
  simpa using hend

theorem guarded_cases (hguarded : Guarded type) (hsuffix : action :: rest <:+ ofType type) :
    (action = recordTransfer ∨ action = recordGeneration) ∧ rest ≠ [] ∧ ¬ (∀ x ∈ rest, x.isSafe) ∨
    (type = .transfer ∧ action = settleTransfer ∨ type = .generation ∧ action = verifyGeneration) ∧ rest ≠ [] ∨
    ∀ x ∈ action :: rest, x.isSafe := by
  obtain rfl | rfl := hguarded
  all_goals
    simp only [ofType, List.cons_append, List.nil_append] at hsuffix
    rw [List.suffix_cons_iff, List.suffix_cons_iff] at hsuffix
    obtain hrecord | hsettle | hrest := hsuffix
    · cases hrecord
      exact .inl (by decide)
    · cases hsettle
      exact .inr (.inl (by decide))
    · refine .inr (.inr fun x hx => ?_)
      have hmem := hrest.subset hx
      clear hx hrest
      decide +revert

theorem cannotFail (hsafe : action.isSafe) (env : ApplyEnv) (sp : SettlementPayload) (target : Event) :
    (action.run env sp target).CannotFail := by
  cases action with
  | bookkeepTransfer =>
    refine Method.CannotFail.ite ?_ .pure
    split
    · exact .pure
    · refine Method.CannotFail.ite ?_ (.ite (.write _) (.ite (.write _) .pure))
      rename_i tp _
      intro a
      by_cases hregisters : a.escrowWired ∧ tp.taskID ≠ "" ∧ !a.escrowMgr.isLocked tp.taskID
      · simp only [if_pos hregisters]
        rfl
      · simp only [if_neg hregisters]
  | recordIdentity => exact .pure
  | trackFee =>
    simp only [run, Applicator.trackFee]
    split
    · exact .write _
    · exact .ite (.write _) .pure
  | payFee =>
    intro a
    simp only [run, Applicator.payFee]
    split
    · split <;> rfl
    · rfl
  | recordActivity => exact .ite (.write _) .pure
  | markApplied => exact .write _
  | _ => exact absurd hsafe (by decide)

theorem Frame.of_fields {P : Applicator → Prop} (hescrow : ∀ a e, P a → P { a with escrowMgr := e })
    (hstakes : ∀ a m, P a → P { a with stakeManager := m }) (hfees : ∀ a f, P a → P { a with feeCollector := f })
    (hgeneration : action = recordGeneration ∨ action = verifyGeneration → ∀ a g, P a → P { a with generation := g })
    (hmark : action = markApplied → ∀ sp a, P a → P (Applicator.markApplied sp a)) : action.Frame P where
  transfer _ _ := Method.Keeps.frame _ hescrow
  generation haction _ := Method.Keeps.frame _ (hgeneration haction)
  register _ _ _ _ := Method.Keeps.frame _ hescrow
  release _ _ _ _ _ _ _ _ _ := Method.Keeps.frame _ hescrow
  pay _ _ _ _ _ _ _ := Method.Keeps.frame _ hescrow
  stakes _ := Method.Keeps.write fun _ ha => hstakes _ _ ha
  fees _ := Method.Keeps.write fun _ ha => hfees _ _ ha
  mark haction sp := Method.Keeps.write (hmark haction sp)

end Action

/-- What `applyGeneration` does after the generation is recorded. -/
def SettlementPayload.conclude (sp : SettlementPayload) : Method GenerationLedger Unit :=
  if sp.verdict = verdictAccepted then verify sp.targetEventID sp.verifiedValue
  else reject sp.targetEventID

theorem Action.run_verifyGeneration (env : ApplyEnv) (sp : SettlementPayload) (target : Event) :
    verifyGeneration.run env sp target = Applicator.onGeneration sp.conclude := by
  simp only [run, SettlementPayload.conclude]
  split <;> rfl

theorem SettlementPayload.conclude_cases (sp : SettlementPayload) (l : GenerationLedger) :
    (∃ err, sp.conclude l = (.error err, l)) ∨
    ∃ entry entry', l.entries.lookup sp.targetEventID = some entry ∧ entry.settlement ≠ sp.settleState ∧
      entry'.settlement = sp.settleState ∧ sp.conclude l = (.ok (), l.setEntry sp.targetEventID entry') := by
  unfold SettlementPayload.conclude SettlementPayload.settleState
  split
  · obtain herr | ⟨entry, hlookup, hstate, hcall⟩ :=
      verify_cases sp.targetEventID sp.verifiedValue l
    · exact .inl herr
    · exact .inr ⟨entry, _, hlookup, by rw [hstate]; decide, rfl, hcall⟩
  · obtain herr | ⟨entry, hlookup, hstate, hcall⟩ := reject_cases sp.targetEventID l
    · exact .inl herr
    · exact .inr ⟨entry, _, hlookup, hstate, rfl, hcall⟩

/-- The ledger of a guarded target has it in this state. -/
def Applicator.SettledAs (target : Event) (state : SettlementState) (a : Applicator) : Prop :=
  (target.type = .transfer → a.transfer.SettledAs target.id state) ∧
    (target.type = .generation → a.generation.SettledAs target.id state)

namespace Applicator.SettledAs

variable {target : Event} {state : SettlementState} {a : Applicator} {sp : SettlementPayload} {action : Action}

theorem run (h : a.SettledAs target state) (action : Action) (env : ApplyEnv) (sp : SettlementPayload)
    (target' : Event)
    (hother : action = .settleTransfer ∨ action = .verifyGeneration →
      sp.targetEventID ≠ target.id ∨ (action.run env sp target' a).1 ≠ .ok ()) :
    (action.run env sp target' a).2.SettledAs target state := by
  constructor
  · intro htype
    have hbefore := h.1 htype
    by_cases hrecord : action = .recordTransfer
    · subst hrecord
      rw [Action.run, Method.wrapError_snd]
      exact hbefore.recordFromSync env.recordAmb target'
    · by_cases hsettle : action = .settleTransfer
      · subst hsettle
        obtain hne | hfailed := hother (.inl rfl)
        · exact hbefore.settle env.settleAmb (.inl hne)
        · exact hbefore.settle env.settleAmb (.inr hfailed)
      · exact Action.run_keeps (TransferLedger.SettledAs.bucketStable target.id state) env sp target' hrecord hsettle a
          hbefore
  · intro htype
    have hbefore := h.2 htype
    by_cases hrecord : action = .recordGeneration
    · subst hrecord
      rw [Action.run, Method.wrapError_snd]
      exact hbefore.recordFromSync env.now target'
    · by_cases hverify : action = .verifyGeneration
      · subst hverify
        have hcall := hother (.inr rfl)
        rw [Action.run_verifyGeneration] at hcall ⊢
        change (sp.conclude a.generation).2.SettledAs target.id state
        obtain ⟨err, herr⟩ | ⟨entry, entry', -, -, -, hok⟩ := sp.conclude_cases a.generation
        · rwa [herr]
        · rw [hok]
          obtain hne | hfailed := hcall
          · exact hbefore.setEntry (Ne.symm hne) _
          · exact absurd (congrArg Prod.fst hok) hfailed
      · have hframe : action.Frame fun a => a.generation.SettledAs target.id state :=
          .of_fields (fun _ _ ha => ha) (fun _ _ ha => ha) (fun _ _ ha => ha) (fun h => (h.elim hrecord hverify).elim)
            fun _ _ _ ha => ha
        exact hframe.run env target' sp a hbefore

theorem refuses (h : a.SettledAs target state) (hid : target.id = sp.targetEventID) (hstate : sp.settleState = state)
    (haction : target.type = .transfer ∧ action = .settleTransfer ∨
      target.type = .generation ∧ action = .verifyGeneration) (env : ApplyEnv) :
    (action.run env sp target a).1 ≠ .ok () := by
  obtain ⟨htype, rfl⟩ | ⟨htype, rfl⟩ := haction
  · have hrefuses := (h.1 htype).refuses env.settleAmb
    rwa [hid, ← hstate] at hrefuses
  · rw [run_verifyGeneration]
    change (sp.conclude a.generation).1 ≠ .ok ()
    obtain ⟨err, herr⟩ | ⟨entry, entry', hlookup, hne, -, -⟩ := sp.conclude_cases a.generation
    · rw [herr]
      exact fun hok => by cases hok
    · obtain ⟨entry'', hlookup', hstate'⟩ := h.2 htype
      rw [hid, hlookup] at hlookup'
      cases hlookup'
      exact absurd (hstate'.trans hstate.symm) hne

theorem of_run (hid : target.id = sp.targetEventID) (haction : target.type = .transfer ∧ action = .settleTransfer ∨
      target.type = .generation ∧ action = .verifyGeneration) {env : ApplyEnv}
    (hok : (action.run env sp target a).1 = .ok ()) :
    (action.run env sp target a).2.SettledAs target sp.settleState := by
  obtain ⟨htype, rfl⟩ | ⟨htype, rfl⟩ := haction
  · refine ⟨fun _ => ?_, fun htype' => ?_⟩
    · rw [hid]
      exact TransferLedger.settledAs_of_settle hok
    · rw [htype] at htype'
      cases htype'
  · refine ⟨fun htype' => ?_, fun _ => ?_⟩
    · rw [htype] at htype'
      cases htype'
    · rw [run_verifyGeneration] at hok ⊢
      change (sp.conclude a.generation).1 = .ok () at hok
      change (sp.conclude a.generation).2.SettledAs target.id sp.settleState
      obtain ⟨err, herr⟩ | ⟨entry, entry', -, -, hstate, hcall⟩ := sp.conclude_cases a.generation
      · rw [herr] at hok
        cases hok
      · rw [hcall, hid]
        exact ⟨entry', lookup_insert _, hstate⟩

end Applicator.SettledAs

def Worker.attempt : Worker → Option (transition.Attempt EventID SettlementState Action)
  | .acting sp _ action rest _ => some ⟨sp.targetEventID, sp.settleState, action :: rest⟩
  | _ => none

theorem Caller.attempt_resume (caller : Caller) : caller.resume.attempt = none := by
  cases caller with
  | apply => rfl
  | reconcile rest => cases rest <;> rfl

theorem Worker.attempt_begin (sp : SettlementPayload) (target : Event) (caller : Caller) :
    (Worker.begin sp target caller).attempt =
      some ⟨sp.targetEventID, sp.settleState, ofType target.type⟩ := by
  unfold Worker.begin
  cases hactions : ofType target.type with
  | nil => simp [ofType] at hactions
  | cons action rest => rfl

namespace Process

def progress (p : Process) : transition.Progress EventID SettlementState Action ℕ where
  acting i := (p.workers i).attempt
  attempts := p.attempts
  effects := p.effects

def jobs (p : Process) : transition.Jobs EventID SettlementState where
  guarded id := ∃ target, p.dag.events.lookup id = some target ∧ Guarded target.type
  final id state := ∀ target, p.dag.events.lookup id = some target → p.applicator.SettledAs target state
  done id := id ∈ p.applicator.applied

/-- A call of `applyToTarget` is the first for its target; or the target is a transfer or a generation, and either it
    is not applied and no other call for it is running, or all earlier calls for it had the same verdict. -/
def Orderly (p : Process) : Move → Prop
  | .advance i _ _ => ∀ sp caller target, p.workers i = .lookingUp sp caller →
      p.dag.get sp.targetEventID = .ok target → p.progress.MayBegin p.jobs sp.targetEventID sp.settleState
  | _ => True

structure Inv (p : Process) : Prop where
  once : p.progress.AtMostOnce (fun action => action.isSafe) p.jobs
  targets : ∀ i sp target action rest caller, p.workers i = .acting sp target action rest caller →
    p.dag.events.lookup sp.targetEventID = some target ∧ action :: rest <:+ ofType target.type
  known : ∀ id state, (id, state) ∈ p.attempts → id ∈ p.dag.events

variable {p : Process} {i : ℕ} {caller : Caller} {target : Event} {w : Worker}

theorem attempt_update (workers : ℕ → Worker) (i : ℕ) (w : Worker) :
    (fun j => (Function.update workers i w j).attempt) =
      Function.update (fun j => (workers j).attempt) i w.attempt := by
  funext j
  by_cases hj : j = i
  · subst hj
    rw [Function.update_self, Function.update_self]
  · rw [Function.update_of_ne hj, Function.update_of_ne hj]

theorem eq_acting_of_update {j : ℕ} {w' : Worker}
    (hj : Function.update p.workers i w j = w') : w = w' ∧ j = i ∨ p.workers j = w' := by
  by_cases hji : j = i
  · subst hji
    rw [Function.update_self] at hj
    exact .inl ⟨hj, rfl⟩
  · rw [Function.update_of_ne hji] at hj
    exact .inr hj

theorem Inv.start (dag : DAG) (rep : dag.Rep) (a : Applicator) : Inv { dag := dag, rep := rep, applicator := a } where
  once := .initial _
  targets := by simp
  known := by simp

theorem Inv.idle (h : Inv p) (hi : (p.workers i).attempt = none) (hw : w.attempt = none)
    {a : Applicator} (hjobs : ({ p with applicator := a } : Process).jobs = p.jobs) :
    Inv { p.setWorker i w with applicator := a } := by
  have hprogress : ({ p.setWorker i w with applicator := a } : Process).progress = p.progress := by
    unfold progress setWorker
    rw [attempt_update, hw]
    congr 1
    exact Function.update_eq_self_iff.mpr hi.symm
  refine ⟨?_, fun j sp target action rest caller hj => ?_, h.known⟩
  · rw [hprogress]
    change p.progress.AtMostOnce _ ({ p with applicator := a } : Process).jobs
    rw [hjobs]
    exact h.once
  · obtain ⟨rfl, -⟩ | hj := eq_acting_of_update hj
    · cases hw
    · exact h.targets j sp target action rest caller hj

theorem Inv.begin (h : Inv p) {sp : SettlementPayload}
    (hi : p.workers i = .lookingUp sp caller) (htarget : p.dag.events.lookup sp.targetEventID = some target)
    (hmay : p.progress.MayBegin p.jobs sp.targetEventID sp.settleState) :
    Inv { p.setWorker i (.begin sp target caller) with
      attempts := (sp.targetEventID, sp.settleState) :: p.attempts } := by
  have hidle : p.progress.acting i = none := by
    change (p.workers i).attempt = none
    rw [hi]
    rfl
  have hopen : p.jobs.guarded sp.targetEventID → ¬ ∀ x ∈ ofType target.type, x.isSafe := by
    rintro ⟨target', htarget', hguarded⟩
    obtain rfl : target' = target := Option.some.inj (htarget'.symm.trans htarget)
    obtain htype | htype := hguarded <;> rw [htype] <;> decide
  refine ⟨?_, fun j sp' target' action rest caller' hj => ?_, fun id state hid => ?_⟩
  · have hbegun := h.once.begin (t := ⟨sp.targetEventID, sp.settleState, ofType target.type⟩) hidle
      (nodup_ofType _) hmay hopen
    unfold progress setWorker
    rw [attempt_update, Worker.attempt_begin]
    exact hbegun
  · obtain ⟨hbegin, -⟩ | hj := eq_acting_of_update hj
    · unfold Worker.begin at hbegin
      cases hactions : ofType target.type with
      | nil => simp [ofType] at hactions
      | cons first others =>
        rw [hactions] at hbegin
        cases hbegin
        exact ⟨htarget, hactions ▸ List.suffix_rfl⟩
    · exact h.targets j sp' target' action rest caller' hj
  · obtain hid | hid := List.mem_cons.mp hid
    · cases hid
      exact mem_of_lookup_eq_some htarget
    · exact h.known id state hid

theorem Inv.arrive (h : Inv p) (c : Crypto) (putEventErr : Option Error) (ev : Event) :
    Inv { p with dag := (p.dag.add c putEventErr ev).2, rep := p.rep.add c putEventErr ev } := by
  have hkeeps : ∀ id, id ∈ p.dag.events →
      (p.dag.add c putEventErr ev).2.events.lookup id = p.dag.events.lookup id := fun id hid =>
    DAG.add_lookup_of_mem c putEventErr ev hid
  refine ⟨h.once.frame _ ?_ ?_ fun _ hdone => hdone, fun j sp target action rest caller hj => ?_,
    fun id state hid => ?_⟩
  · intro id state hid
    simp [jobs, hkeeps id (h.known id state hid)]
  · intro id state _ hid hfinal target htarget
    rw [hkeeps id (h.known id state hid)] at htarget
    exact hfinal target htarget
  · obtain ⟨htarget, hsuffix⟩ := h.targets j sp target action rest caller hj
    exact ⟨(hkeeps _ (mem_of_lookup_eq_some htarget)).trans htarget, hsuffix⟩
  · have hmem := h.known id state hid
    rw [← lookup_isSome] at hmem ⊢
    rwa [hkeeps id (h.known id state hid)]

theorem Inv.acted (h : Inv p) {sp : SettlementPayload} {action : Action} {rest : List Action}
    (hi : p.workers i = .acting sp target action rest caller) (env : ApplyEnv)
    (honce : (p.act env i sp target action rest caller).progress.AtMostOnce (fun action => action.isSafe)
      (p.act env i sp target action rest caller).jobs) : Inv (p.act env i sp target action rest caller) := by
  refine ⟨honce, fun j sp' target' action' rest' caller' hj => ?_, h.known⟩
  obtain ⟨htarget, hsuffix⟩ := h.targets i sp target action rest caller hi
  obtain ⟨hnext, -⟩ | hj := eq_acting_of_update hj
  · split at hnext
    · cases hnext
      exact ⟨htarget, (List.suffix_cons ..).trans hsuffix⟩
    · have hidle := caller.attempt_resume
      rw [hnext] at hidle
      cases hidle
  · exact h.targets j sp' target' action' rest' caller' hj

section Act

variable {sp : SettlementPayload} {target : Event} {action : Action} {rest : List Action} {caller : Caller}
  {env : ApplyEnv}

def newEffects (sp : SettlementPayload) (action : Action) : List (EventID × Action) :=
  if action.isEffect then [(sp.targetEventID, action)] else []

theorem progress_act (p : Process) (env : ApplyEnv) (i : ℕ) (sp : SettlementPayload) (target : Event) (action : Action)
    (rest : List Action) (caller : Caller) :
    (p.act env i sp target action rest caller).progress =
      ⟨Function.update p.progress.acting i
        (if (action.run env sp target p.applicator).1 = .ok () ∧ rest ≠ [] then
          some ⟨sp.targetEventID, sp.settleState, rest⟩ else none),
        p.attempts, newEffects sp action ++ p.effects⟩ := by
  have heffects : (if action.isEffect then (sp.targetEventID, action) :: p.effects else p.effects) =
      newEffects sp action ++ p.effects := by
    unfold newEffects
    split <;> rfl
  unfold progress act
  rw [attempt_update, heffects]
  cases (action.run env sp target p.applicator).1 with
  | error err =>
    rw [if_neg (fun hok => by cases hok.1), caller.attempt_resume]
  | ok _ =>
    cases rest with
    | nil =>
      rw [if_neg (fun hok => hok.2 rfl), caller.attempt_resume]
    | cons next rest => simp [Worker.attempt]

theorem applied_subset_act (p : Process) {id : EventID} (hid : id ∈ p.applicator.applied) (env : ApplyEnv)
    (sp : SettlementPayload) (target : Event) (action : Action) :
    id ∈ (action.run env sp target p.applicator).2.applied :=
  have hframe : action.Frame fun a => id ∈ a.applied :=
    .of_fields (fun _ _ ha => ha) (fun _ _ ha => ha) (fun _ _ ha => ha) (fun _ _ _ ha => ha) fun _ _ _ ha =>
      Finset.mem_insert_of_mem ha
  hframe.run env target sp _ hid

theorem final_act {id : EventID} {state : SettlementState} (hfinal : p.jobs.final id state)
    (hother : action = .settleTransfer ∨ action = .verifyGeneration →
      sp.targetEventID ≠ id ∨ (action.run env sp target p.applicator).1 ≠ .ok ()) :
    (p.act env i sp target action rest caller).jobs.final id state := by
  intro target' htarget'
  refine (hfinal target' htarget').run action env sp target fun haction => ?_
  rw [p.rep.keyed id target' htarget']
  exact hother haction

/-- The step of an attempt that is committed, or that is the only one at its target. -/
theorem once_act_of_free (h : Inv p) (hi : p.workers i = .acting sp target action rest caller)
    (hfree : (∀ x ∈ action :: rest, x.isSafe) ∨ ¬ p.jobs.guarded sp.targetEventID) :
    (p.act env i sp target action rest caller).progress.AtMostOnce (fun action => action.isSafe)
      (p.act env i sp target action rest caller).jobs := by
  obtain ⟨htarget, hsuffix⟩ := h.targets i sp target action rest caller hi
  have hacting : p.progress.acting i = some ⟨sp.targetEventID, sp.settleState, action :: rest⟩ := by
    change (p.workers i).attempt = _
    rw [hi]
    rfl
  have hnew : newEffects sp action = [] ∨ newEffects sp action = [(sp.targetEventID, action)] := by
    unfold newEffects
    split
    · exact .inr rfl
    · exact .inl rfl
  -- an action that settles is not safe, and belongs to a guarded target
  have hnotSettling : ¬ (action = .settleTransfer ∨ action = .verifyGeneration) := by
    intro haction
    obtain hsafe | hnot := hfree
    · have hsafe := hsafe action List.mem_cons_self
      obtain rfl | rfl := haction <;> exact absurd hsafe (by decide)
    · exact hnot ⟨target, htarget, guarded_of_mem (hsuffix.subset List.mem_cons_self) haction⟩
  have hproceeds := (h.once.proceed hacting rfl hfree hnew).frame
    (p.act env i sp target action rest caller).jobs (fun _ _ _ => Iff.rfl)
    (fun id state _ _ hfinal => final_act hfinal fun haction => absurd haction hnotSettling)
    (fun id hdone => applied_subset_act p hdone env sp target action)
  rw [progress_act]
  split
  · exact hproceeds
  · rename_i hends
    have hretired := hproceeds.retire (w := i) (Function.update_self ..) ?_
    · rwa [Function.update_idem] at hretired
    · intro hguarded hsafe
      -- a committed attempt at a guarded target ends with its last action, which marks the target
      have hcommitted := hfree.resolve_right fun hnot => hnot hguarded
      have hok := cannotFail (hcommitted action List.mem_cons_self) env sp target p.applicator
      have hnil : rest = [] := by
        by_contra hne
        exact hends ⟨hok, hne⟩
      subst hnil
      obtain rfl := eq_markApplied_of_last hsuffix
      exact Finset.mem_insert_self ..

/-- The step of an attempt at a guarded target before it is committed. -/
theorem once_act_of_guarded (h : Inv p) (hi : p.workers i = .acting sp target action rest caller)
    (hguarded : p.jobs.guarded sp.targetEventID) (hnot : ¬ ∀ x ∈ action :: rest, x.isSafe) :
    (p.act env i sp target action rest caller).progress.AtMostOnce (fun action => action.isSafe)
      (p.act env i sp target action rest caller).jobs := by
  obtain ⟨htarget, hsuffix⟩ := h.targets i sp target action rest caller hi
  have hacting : p.progress.acting i = some ⟨sp.targetEventID, sp.settleState, action :: rest⟩ := by
    change (p.workers i).attempt = _
    rw [hi]
    rfl
  have ⟨target', htarget', htype⟩ := hguarded
  obtain rfl : target' = target := Option.some.inj (htarget'.symm.trans htarget)
  have hid := p.rep.keyed _ _ htarget
  have hnoEffect : newEffects sp action = [] := by
    obtain ⟨rfl | rfl, -⟩ | ⟨⟨-, rfl⟩ | ⟨-, rfl⟩, -⟩ | hsafe := guarded_cases htype hsuffix
    · rfl
    · rfl
    · rfl
    · rfl
    · exact absurd hsafe hnot
  rw [progress_act, hnoEffect]
  by_cases hok : (action.run env sp target' p.applicator).1 = .ok ()
  · have hrest : rest ≠ [] := by
      obtain ⟨-, hrest, -⟩ | ⟨-, hrest⟩ | hsafe := guarded_cases htype hsuffix
      · exact hrest
      · exact hrest
      · exact absurd hsafe hnot
    rw [if_pos ⟨hok, hrest⟩]
    -- a target that is committed is in the state of this attempt's verdict, and cannot be settled again
    have huncommitted : action = .settleTransfer ∨ action = .verifyGeneration →
        ¬ p.progress.Committed (fun action => action.isSafe) sp.targetEventID := by
      intro haction hcommitted
      obtain ⟨state, -, hfinal, hverdicts⟩ := h.once.settled _ hguarded hcommitted
      have hverdict := hverdicts i _ hacting rfl hnot
      obtain ⟨rfl | rfl, -⟩ | ⟨hcommits, -⟩ | hsafe := guarded_cases htype hsuffix
      · simp at haction
      · simp at haction
      · exact (hfinal target' htarget).refuses hid hverdict hcommits env hok
      · exact hnot hsafe
    refine transition.Progress.AtMostOnce.frame (h.once.pass hacting rfl hguarded hnot
      (p.act env i sp target' action rest caller).jobs.final (fun id state hcommitted hfinal => ?_)
      fun hcommits => ?_) _ (fun _ _ _ => Iff.rfl) (fun _ _ _ _ hfinal => hfinal)
      (fun id hdone => applied_subset_act p hdone env sp target' action)
    · refine final_act hfinal fun haction => .inl ?_
      rintro rfl
      exact huncommitted haction hcommitted
    · obtain ⟨-, -, hunsafe⟩ | ⟨hsettles, -⟩ | hsafe := guarded_cases htype hsuffix
      · exact absurd hcommits hunsafe
      · refine ⟨huncommitted (hsettles.imp And.right And.right), fun target'' htarget'' => ?_⟩
        obtain rfl : target'' = target' := Option.some.inj (htarget''.symm.trans htarget)
        exact .of_run hid hsettles hok
      · exact absurd hsafe hnot
  · rw [if_neg fun hboth => hok hboth.1]
    refine (h.once.frame (p.act env i sp target' action rest caller).jobs (fun _ _ _ => Iff.rfl)
      (fun id state _ _ hfinal => final_act hfinal fun _ => .inr hok)
      fun id hdone => applied_subset_act p hdone env sp target' action).retire hacting ?_
    exact fun _ hsafe => absurd hsafe hnot

end Act

theorem Inv.act (h : Inv p) {sp : SettlementPayload} {action : Action} {rest : List Action}
    (hi : p.workers i = .acting sp target action rest caller) (env : ApplyEnv) :
    Inv (p.act env i sp target action rest caller) := by
  refine h.acted hi env ?_
  by_cases hfree : (∀ x ∈ action :: rest, x.isSafe) ∨ ¬ p.jobs.guarded sp.targetEventID
  · exact once_act_of_free h hi hfree
  · rw [not_or, not_not] at hfree
    exact once_act_of_guarded h hi hfree.2 hfree.1

theorem Inv.advance (h : Inv p) (env : ApplyEnv) (order : List EventID)
    (horderly : p.Orderly (.advance i env order)) : Inv (p.advance i env order) := by
  unfold Process.advance
  cases hi : p.workers i with
  | finished => exact h
  | checking sp =>
    have hidle : (p.workers i).attempt = none := by rw [hi]; rfl
    exact h.idle hidle (by split <;> rfl) rfl
  | lookingUp sp caller =>
    have hidle : (p.workers i).attempt = none := by rw [hi]; rfl
    dsimp only
    cases hget : p.dag.get sp.targetEventID with
    | ok target =>
      have htarget : p.dag.events.lookup sp.targetEventID = some target := by
        unfold DAG.get at hget
        split at hget
        · cases hget
          assumption
        · cases hget
      exact h.begin hi htarget (horderly sp caller target hi hget)
    | error err =>
      cases caller with
      | apply => exact h.idle hidle rfl rfl
      | reconcile rest => exact h.idle hidle (Caller.attempt_resume _) rfl
  | deferring sp =>
    have hidle : (p.workers i).attempt = none := by rw [hi]; rfl
    refine h.idle hidle rfl ?_
    unfold Applicator.deferTarget
    split <;> rfl
  | acting sp target action rest caller => exact h.act hi _

theorem Inv.call (h : Inv p) (hw : w.attempt = none) : Inv (p.call i w) := by
  unfold Process.call
  split
  · rename_i hi
    exact h.idle (by rw [hi]; rfl) hw rfl
  · exact h

theorem Inv.step (c : Crypto) (h : Inv p) {move : Move} (horderly : p.Orderly move) : Inv (p.step c move) := by
  cases move with
  | arrive putEventErr ev => exact h.arrive c putEventErr ev
  | callApply i sp => exact h.call rfl
  | callReconcile i order => exact h.call (Caller.attempt_resume _)
  | advance i env order => exact h.advance env order horderly

/-- In every interleaving whose calls of `applyToTarget` are orderly, each side effect takes place at most once for each
    target. -/
theorem effects_at_most_once (c : Crypto) (dag : DAG) (rep : dag.Rep) (a : Applicator) (moves : List Move)
    (horderly : transition.MeetsAlong (step c) Orderly { dag := dag, rep := rep, applicator := a } moves)
    (id : EventID) (action : Action) :
    (moves.foldl (step c) { dag := dag, rep := rep, applicator := a }).effects.count (id, action) ≤ 1 := by
  have hinv := transition.invariant_of_meetsAlong (P := Inv) (.start dag rep a) (fun _ _ h hmove => h.step c hmove)
    horderly
  exact List.nodup_iff_count_le_one.mp hinv.once.nodup (id, action)

section Sample

/-- A task settlement, of a task the verification consensus has completed. -/
def taskSettlementEvent : Event :=
  { transferEvent "s1" "" "" "0" with
    type := .taskSettlement
    payload := .document (.obj [("task_id", .str "t"), ("claimer_id", .str "carol")]) }

/-- A process that knows no events, on a node where the task `t` is completed. -/
def freshProcess : Process where
  dag := {}
  rep := .fresh
  applicator :=
    { escrowMgr := { ledger := TransferLedger.initial none 0 0 }
      taskMgr := some
        { byID := (∅ : Map String tasks.Task).insert "t" { posterID := "", budget := 0, status := .completed } } }

/-- So many steps of one goroutine. -/
def steps (i n : ℕ) : List Move := List.replicate n (.advance i (sampleApplyEnv []) [])

def settlementOf (id : EventID) (verdict : String := verdictAccepted) : SettlementPayload :=
  { accepted id with verdict := verdict }

/-- Two calls of `Apply` one after the other's check. -/
def overlappingCalls (ev : Event) (verdict : String) : List Move :=
  [.arrive none ev.signed, .callApply 0 (settlementOf ev.id), .callApply 1 (settlementOf ev.id verdict)] ++
    steps 0 2 ++ steps 1 2 ++ steps 0 8 ++ steps 1 8

/-- A settlement is deferred, the snapshot of `reconcile` is taken, and the target arrives and is settled by another
    call before `reconcile` comes to it. -/
def staleSnapshot (ev : Event) : List Move :=
  [.callApply 0 (settlementOf ev.id)] ++ steps 0 3 ++ [.callReconcile 1 .byKey, .arrive none ev.signed,
    .callApply 0 (settlementOf ev.id)] ++ steps 0 10 ++ steps 1 10

/-- A check that all calls so far for a transfer had the verdict of the next one. -/
def sameVerdicts (p : Process) : Move → Bool
  | .advance i _ _ => match p.workers i with
    | .lookingUp sp _ => (p.dag.events.lookup sp.targetEventID).map Event.type = some .transfer &&
        p.attempts.all fun attempt => attempt.1 ≠ sp.targetEventID || attempt.2 = sp.settleState
    | _ => true
  | _ => true

theorem orderly_of_sameVerdicts {p : Process} {move : Move} (h : p.sameVerdicts move = true) : p.Orderly move := by
  cases move with
  | advance i env order =>
    intro sp caller target hi _
    simp only [sameVerdicts, hi, Bool.and_eq_true, decide_eq_true_eq, List.all_eq_true, Bool.or_eq_true] at h
    obtain ⟨target', htarget', htype⟩ := Option.map_eq_some_iff.mp h.1
    refine .inr ⟨⟨target', htarget', .inl htype⟩, .inr fun state hstate => ?_⟩
    exact (h.2 _ hstate).resolve_left fun hne => hne rfl
  | _ => trivial

/-- Two overlapping calls with one verdict: the second finds the transfer settled and fails. -/
theorem effects_once_of_sameVerdict :
    ((overlappingCalls (transferEvent "e1" "alice" "bob" "100") verdictAccepted).foldl (step sampleCrypto)
      freshProcess).effects.count ("e1", .recordIdentity) = 1 := by
  have hrun : transition.MeetsAlong (step sampleCrypto) (fun p move => p.sameVerdicts move = true) freshProcess
      (overlappingCalls (transferEvent "e1" "alice" "bob" "100") verdictAccepted) := by
    decide +kernel
  refine le_antisymm (effects_at_most_once _ _ _ _ _ (hrun.imp (P := fun _ => True) trivial (fun _ _ _ _ => trivial)
    fun _ _ _ => orderly_of_sameVerdicts) _ _) ?_
  decide +kernel

theorem effects_twice :
    let effects (moves : List Move) := (moves.foldl (step sampleCrypto) freshProcess).effects
    (effects (overlappingCalls taskSettlementEvent verdictAccepted)).count ("s1", .settleTask) = 2 ∧
      (effects (overlappingCalls taskSettlementEvent verdictAccepted)).count ("s1", .recordIdentity) = 2 ∧
      (effects (staleSnapshot taskSettlementEvent)).count ("s1", .settleTask) = 2 ∧
      (effects (overlappingCalls (transferEvent "e1" "alice" "bob" "100") "rejected")).count
        ("e1", .recordIdentity) = 2 := by
  decide +kernel

end Sample

end Process

end aethernet.settlement
