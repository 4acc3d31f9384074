import Aethernet.Event.Canonical
import Aethernet.ValidatorLifecycle.Events
import Aethernet.ValidatorLifecycle.Steps

open golang transition aethernet.event

namespace aethernet.validatorlifecycle

section Extraction

variable {ev : Event} {lcs : List LifecycleEvent}

theorem extractWith_eq_ok {P : Type} {goType : String} {d : json.Decoder P} {validate : P → Option Error}
    {build : P → Except Error (List LifecycleEvent)} (h : extractWith goType d validate build ev = .ok lcs) :
    ∃ p, build p = .ok lcs := by
  unfold extractWith at h
  split at h
  · cases h
  · split at h
    · cases h
    · exact ⟨_, h⟩

theorem requireSigner_eq_ok {recoveryPublicKey : PublicKey} {out : LifecycleEvent}
    (h : requireSigner ev recoveryPublicKey out = .ok lcs) : ev.agentID = recoveryPublicKey ∧ lcs = [out] := by
  unfold requireSigner at h
  split_ifs at h with hsigner
  exact ⟨not_not.mp hsigner, (Except.ok.inj h).symm⟩

def LifecycleEventKind.byRecoveryKey (kind : LifecycleEventKind) : Bool :=
  kind = .recoveryRotate || kind = .emergencySuspend

theorem signer_of_extract (h : extractLifecycleEvent ev = .ok lcs) :
    ∀ lc ∈ lcs, lc.kind.byRecoveryKey = true → ev.agentID = lc.recoveryKey := by
  intro lc hlc hkind
  unfold extractLifecycleEvent at h
  split at h
  · obtain ⟨p, hp⟩ := extractWith_eq_ok h
    obtain rfl := Except.ok.inj hp
    obtain ⟨seat, -, rfl⟩ := List.mem_map.mp hlc
    cases hkind
  case h_6 =>
    obtain ⟨p, hp⟩ := extractWith_eq_ok h
    obtain rfl := Except.ok.inj hp
    obtain rfl := List.mem_singleton.mp hlc
    cases hphase : p.phase <;> simp [hphase, ExitPhase.kind, LifecycleEventKind.byRecoveryKey] at hkind
  case h_10 | h_11 | h_12 =>
    obtain ⟨p, hp⟩ := extractWith_eq_ok h
    obtain ⟨hsigner, rfl⟩ := requireSigner_eq_ok hp
    obtain rfl := List.mem_singleton.mp hlc
    exact hsigner
  case h_13 => cases h
  all_goals
    obtain ⟨p, hp⟩ := extractWith_eq_ok h
    obtain rfl := Except.ok.inj hp
    obtain rfl := List.mem_singleton.mp hlc
    cases hkind

end Extraction

/-- The validator set, and the recovery keys that the operator of each seat has committed to since its latest join. -/
structure Custody where
  reducer : Reducer := {}
  committed : Map ValidatorID (List PublicKey) := ∅

namespace Custody

open Reducer

variable {sha256 : String → List UInt8} {s : Custody} {signer : PublicKey} {lc : LifecycleEvent}

/-- What an accepted event makes of the committed recovery keys. A commitment counts if the operator key of the seat
    has signed it, which the code does not ask. -/
def commitments (sha256 : String → List UInt8) (signer : PublicKey) (s : Custody) (lc : LifecycleEvent) :
    Map ValidatorID (List PublicKey) :=
  match lc.kind with
  | .join => s.committed.erase (joinSeatID sha256 lc)
  | .recoveryKeySet =>
    if (s.reducer.seats.lookup lc.seatID).any (·.operatorKey = signer) then
      s.committed.insert lc.seatID (lc.recoveryKey :: s.committed.getD lc.seatID [])
    else s.committed
  | _ => s.committed

/-- `Apply`, with the account of the commitments. -/
def apply (sha256 : String → List UInt8) (signer : PublicKey) (s : Custody) (lc : LifecycleEvent) : Custody :=
  match s.reducer.apply sha256 lc with
  | (.error _, reducer) => { s with reducer := reducer }
  | (.ok (), reducer) => { reducer := reducer, committed := s.commitments sha256 signer lc }

/-- A DAG event is extracted, and what it stands for applied; errors are skipped. -/
def deliver (sha256 : String → List UInt8) (s : Custody) (ev : Event) : Custody :=
  match extractLifecycleEvent ev with
  | .error _ => s
  | .ok lcs => lcs.foldl (apply sha256 ev.agentID) s

theorem apply_reducer (sha256 : String → List UInt8) (signer : PublicKey) (s : Custody) (lc : LifecycleEvent) :
    (s.apply sha256 signer lc).reducer = s.reducer.next sha256 lc := by
  unfold apply next
  cases s.reducer.apply sha256 lc with
  | mk result reducer => cases result <;> rfl

/-- The signer has the authority for what the event changes: of the keys of a seat, unless it joins the seat, and of a
    suspension by recovery key. -/
def Authorized (sha256 : String → List UInt8) (s : Custody) (signer : PublicKey) (lc : LifecycleEvent) : Prop :=
  ∀ id seat seat', s.reducer.seats.lookup id = some seat →
    (s.apply sha256 signer lc).reducer.seats.lookup id = some seat' → ¬ (lc.kind = .join ∧ id = joinSeatID sha256 lc) →
    (seat'.operatorKey ≠ seat.operatorKey →
      lc.kind = .rotateKey ∧ signer = seat.operatorKey ∨
      lc.kind = .recoveryRotate ∧ signer ∈ s.committed.getD id []) ∧
    (seat'.recoveryKey ≠ seat.recoveryKey → lc.kind = .recoveryKeySet ∧ signer = seat.operatorKey) ∧
    (lc.kind = .emergencySuspend → seat' ≠ seat → signer ∈ s.committed.getD id [])

/-- What is to hold of an event that passes the reducer's checks: the operator signs a rotation and a new commitment,
    and a recovery key that acts was committed to by the operator since the latest join. -/
structure Permitted (s : Custody) (signer : PublicKey) (lc : LifecycleEvent) (seat : ValidatorSeat) : Prop where
  rotateKey : lc.kind = .rotateKey → rotates lc seat = true → signer = seat.operatorKey
  recoveryKeySet : lc.kind = .recoveryKeySet → lc.recoveryKey ≠ "" → seat.status.isTerminal = false →
    lc.recoveryKey ≠ seat.recoveryKey → signer = seat.operatorKey
  recoveryRotate : lc.kind = .recoveryRotate → recovers lc seat = true →
    seat.recoveryKey ∈ s.committed.getD lc.seatID []
  emergencySuspend : lc.kind = .emergencySuspend → suspends lc seat = true →
    seat.recoveryKey ∈ s.committed.getD lc.seatID []

theorem Authorized.permitted (h : Authorized sha256 s signer lc)
    (hsigner : lc.kind.byRecoveryKey = true → signer = lc.recoveryKey) {seat : ValidatorSeat}
    (hlookup : s.reducer.seats.lookup lc.seatID = some seat) : Permitted s signer lc seat where
  rotateKey hkind hrotates := by
    have hnext := apply_reducer sha256 signer s lc
    rw [next_of_rotates hkind hlookup hrotates] at hnext
    obtain ⟨hkeys, -⟩ := h lc.seatID seat _ hlookup (by rw [hnext, Finmap.lookup_insert]) (by simp [hkind])
    simp only [rotates, Bool.and_eq_true, decide_eq_true_eq] at hrotates
    rcases hkeys (Ne.symm hrotates.1.2) with ⟨-, hoperator⟩ | ⟨hother, -⟩
    · exact hoperator
    · cases hkind.symm.trans hother
  recoveryKeySet hkind hkey hlive hnew := by
    have hnext := apply_reducer sha256 signer s lc
    rw [next_of_commits hkind hlookup hkey hlive] at hnext
    obtain ⟨-, hrecovery, -⟩ := h lc.seatID seat _ hlookup (by rw [hnext, Finmap.lookup_insert]) (by simp [hkind])
    exact (hrecovery hnew).2
  recoveryRotate hkind hrecovers := by
    have hnext := apply_reducer sha256 signer s lc
    rw [next_of_recovers hkind hlookup hrecovers] at hnext
    obtain ⟨hkeys, -⟩ := h lc.seatID seat _ hlookup (by rw [hnext, Finmap.lookup_insert]) (by simp [hkind])
    simp only [recovers, Bool.and_eq_true, decide_eq_true_eq] at hrecovers
    rcases hkeys (Ne.symm hrecovers.2) with ⟨hother, -⟩ | ⟨-, hcommitted⟩
    · cases hkind.symm.trans hother
    · rwa [hsigner (by rw [hkind]; rfl), hrecovers.1.1.2] at hcommitted
  emergencySuspend hkind hsuspends := by
    have hnext := apply_reducer sha256 signer s lc
    rw [next_of_suspends hkind hlookup hsuspends] at hnext
    obtain ⟨-, -, hsuspended⟩ := h lc.seatID seat _ hlookup (by rw [hnext, Finmap.lookup_insert]) (by simp [hkind])
    simp only [suspends, Bool.and_eq_true, decide_eq_true_eq] at hsuspends
    have hmoved : seat.status ≠ .suspended := by
      intro hstatus
      have htransition := hsuspends.2
      rw [hstatus] at htransition
      cases htransition
    have hcommitted := hsuspended hkind fun hsame => hmoved (congrArg ValidatorSeat.status hsame).symm
    rwa [hsigner (by rw [hkind]; rfl), hsuspends.1.2] at hcommitted

theorem authorized_of_permitted (hsigner : lc.kind.byRecoveryKey = true → signer = lc.recoveryKey)
    (h : ∀ seat, s.reducer.seats.lookup lc.seatID = some seat → Permitted s signer lc seat) :
    Authorized sha256 s signer lc := by
  intro id seat seat' hlookup hlookup' hjoin
  rw [apply_reducer] at hlookup'
  obtain ⟨seat'', hnext, hcases⟩ := next_seat sha256 lc hlookup
  obtain rfl := Option.some.inj (hlookup'.symm.trans hnext)
  obtain rfl | ⟨hkind, hid, -⟩ | ⟨rfl, bump, hedit⟩ := hcases
  · exact ⟨fun hne => absurd rfl hne, fun hne => absurd rfl hne, fun _ hne => absurd rfl hne⟩
  · exact absurd ⟨hkind, hid⟩ hjoin
  · have hpermitted := h seat hlookup
    cases hedit with
    | move hmoved =>
      refine ⟨fun hne => absurd hmoved.operatorKey hne, fun hne => absurd hmoved.recoveryKey hne, fun hkind _ => ?_⟩
      have hsuspends := hmoved.recovery hkind
      have hcommitted := hpermitted.emergencySuspend hkind hsuspends
      simp only [suspends, Bool.and_eq_true, decide_eq_true_eq] at hsuspends
      rwa [hsigner (by rw [hkind]; rfl), hsuspends.1.2]
    | rekey hchecks =>
      refine ⟨fun _ => ?_, fun hne => absurd rfl hne, fun hkind => ?_⟩
      · rcases hchecks with ⟨hkind, -, hrotates⟩ | ⟨hkind, -, hrecovers⟩
        · exact .inl ⟨hkind, hpermitted.rotateKey hkind hrotates⟩
        · refine .inr ⟨hkind, ?_⟩
          have hcommitted := hpermitted.recoveryRotate hkind hrecovers
          simp only [recovers, Bool.and_eq_true, decide_eq_true_eq] at hrecovers
          rwa [hsigner (by rw [hkind]; rfl), hrecovers.1.1.2]
      · rcases hchecks with ⟨hother, -⟩ | ⟨hother, -⟩ <;> cases hkind.symm.trans hother
    | restake hkind | charge hkind | cancel hkind =>
      refine ⟨fun hne => absurd rfl hne, fun hne => absurd rfl hne, fun hother => ?_⟩
      cases hkind.symm.trans hother
    | commit hkind hkey hlive =>
      refine ⟨fun hne => absurd rfl hne, fun hne => ⟨hkind, ?_⟩, fun hother => ?_⟩
      · exact hpermitted.recoveryKeySet hkind hkey hlive hne
      · cases hkind.symm.trans hother

/-- Every change the DAG event makes is authorized by its signer. -/
def AuthorizedBy (sha256 : String → List UInt8) (s : Custody) (ev : Event) : Prop :=
  ∀ lcs, extractLifecycleEvent ev = .ok lcs →
    MeetsAlong (apply sha256 ev.agentID) (fun s lc => Authorized sha256 s ev.agentID lc) s lcs

/-- The condition on a DAG event and the state it meets. -/
def PermittedBy (sha256 : String → List UInt8) (s : Custody) (ev : Event) : Prop :=
  ∀ lcs, extractLifecycleEvent ev = .ok lcs →
    MeetsAlong (apply sha256 ev.agentID) (fun s lc => ∀ seat, s.reducer.seats.lookup lc.seatID = some seat →
      Permitted s ev.agentID lc seat) s lcs

theorem authorizedBy_iff (sha256 : String → List UInt8) (s : Custody) (ev : Event) :
    AuthorizedBy sha256 s ev ↔ PermittedBy sha256 s ev := by
  refine forall₂_congr fun lcs hextract => ?_
  refine meetsAlong_congr fun s lc hlc => ?_
  have hsigner := signer_of_extract hextract lc hlc
  exact ⟨fun h seat hlookup => h.permitted hsigner hlookup, fun h => authorized_of_permitted hsigner h⟩

/-- Along every sequence of DAG events, the keys of the seats change and seats are suspended by recovery keys with
    authority only, exactly if each event is permitted. -/
theorem authorized_along_iff (sha256 : String → List UInt8) (events : List Event) :
    MeetsAlong (deliver sha256) (AuthorizedBy sha256) {} events ↔
      MeetsAlong (deliver sha256) (PermittedBy sha256) {} events :=
  meetsAlong_congr fun s ev _ => authorizedBy_iff sha256 s ev

/-- The operator key and the recovery key of a seat. -/
def keysOf (s : Custody) (id : ValidatorID) : Option (PublicKey × PublicKey) :=
  (s.reducer.seats.lookup id).map fun seat => (seat.operatorKey, seat.recoveryKey)

theorem not_authorizedBy {ev : Event} (kind : LifecycleEventKind) {id : ValidatorID}
    {keys keys' : PublicKey × PublicKey}
    (hkinds : (extractLifecycleEvent ev).toOption.map (fun lcs => lcs.map (·.kind)) = some [kind])
    (hkind : kind ≠ .join)
    (hkeys : s.keysOf id = some keys) (hkeys' : (s.deliver sha256 ev).keysOf id = some keys') (hchanged : keys' ≠ keys)
    (hoperator : ev.agentID ≠ keys.1) (hrecovery : ev.agentID ∉ s.committed.getD id []) :
    ¬ AuthorizedBy sha256 s ev := by
  intro hauthorized
  unfold deliver at hkeys'
  cases hextract : extractLifecycleEvent ev with
  | error err => simp [hextract, Except.toOption] at hkinds
  | ok lcs =>
    simp only [hextract, Except.toOption, Option.map_some, Option.some.injEq] at hkinds hkeys'
    obtain ⟨lc, rfl, rfl⟩ := List.map_eq_singleton_iff.mp hkinds
    obtain ⟨seat, hlookup, rfl⟩ := Option.map_eq_some_iff.mp hkeys
    obtain ⟨seat', hlookup', rfl⟩ := Option.map_eq_some_iff.mp hkeys'
    obtain ⟨hop, hrec, -⟩ := (hauthorized _ hextract).1 id seat seat' hlookup hlookup' fun hjoin => hkind hjoin.1
    by_cases hsame : seat'.operatorKey = seat.operatorKey
    · have hrec := hrec fun hsameRecovery => hchanged (Prod.ext hsame hsameRecovery)
      exact hoperator hrec.2
    · rcases hop hsame with ⟨-, hsigner⟩ | ⟨-, hcommitted⟩
      · exact hoperator hsigner
      · exact hrecovery hcommitted

section Sample

def sampleKey (digit : Char) : PublicKey := String.ofList (List.replicate 64 digit)

/-- A signed event on the seat `seat`. -/
def seatEvent (type : EventType) (signer : PublicKey) (causalTimestamp : UInt64) (fields : List (String × Json)) :
    Event where
  id := "event"
  type := type
  payload := .document (.obj ([("validator_id", .str "seat"), ("effective_from_version", .num "1")] ++ fields))
  agentID := signer
  signature := List.replicate 64 0
  causalTimestamp := causalTimestamp

/-- The operator of a key joins the seat. -/
def joinEvent (key : PublicKey) (causalTimestamp : UInt64) : Event :=
  seatEvent .validatorJoin key causalTimestamp
    [("operator_agent_id", .str key), ("consensus_public_key", .str key), ("key_epoch", .num "1"),
      ("bonded_stake", .num "10000000000")]

def recoveryKeySetEvent (signer recoveryKey : PublicKey) : Event :=
  seatEvent .validatorRecoveryKeySet signer 2
    [("recovery_public_key", .str recoveryKey), ("requested_at", .num "1")]

/-- An operator commits to a recovery key, serves and exits; then another operator joins the seat. -/
def handover : List Event :=
  [joinEvent (sampleKey 'a') 1, recoveryKeySetEvent (sampleKey 'a') (sampleKey 'b'),
    seatEvent .validatorResume (sampleKey 'a') 3 [], seatEvent .validatorActivate (sampleKey 'a') 4 [],
    seatEvent .validatorExit (sampleKey 'a') 5 [("phase", .str "begin_cooldown"), ("cooldown_duration", .num "1")],
    seatEvent .validatorExit (sampleKey 'a') 6 [("phase", .str "complete_exit")], joinEvent (sampleKey 'c') 7]

/-- The recovery key of the first operator rotates the key of the seat. -/
def staleRotate : Event :=
  seatEvent .validatorRecoveryRotate (sampleKey 'b') 8
    [("recovery_public_key", .str (sampleKey 'b')), ("new_public_key", .str (sampleKey 'd')),
      ("requested_at", .num "1"), ("effective_after", .num "1")]

/-- A stranger rotates the key of the seat. -/
def strangerRotate : Event :=
  seatEvent .validatorKeyRotate (sampleKey 'e') 8
    [("old_consensus_key", .str (sampleKey 'c')), ("new_consensus_key", .str (sampleKey 'e')),
      ("old_key_epoch", .num "1"), ("new_key_epoch", .num "2")]

/-- The run through these events. -/
def custodyAfter (events : List Event) : Custody := events.foldl (deliver sampleCrypto.sha256) {}

/-- A stranger plants a recovery key. -/
def strangerCommit : Event := recoveryKeySetEvent (sampleKey 'e') (sampleKey 'e')

/-- The recovery key of the first operator commits the seat to itself. -/
def staleCommit : Event := recoveryKeySetEvent (sampleKey 'b') (sampleKey 'b')

/-- After the handover the recovery key of the first operator takes over the seat of the second, also when it has signed
    a commitment to itself first; a stranger does so with a rotation it signs itself, or plants a recovery key. -/
theorem keys_changed_without_authority :
    (∀ ev ∈ handover ++ [staleCommit, staleRotate, strangerRotate, strangerCommit], crypto.verifyEvent
      sampleCrypto ev = true) ∧
    (custodyAfter handover).keysOf "seat" = some (sampleKey 'c', sampleKey 'b') ∧
    ((custodyAfter handover).deliver sampleCrypto.sha256 staleRotate).keysOf "seat" =
      some (sampleKey 'd', sampleKey 'b') ∧
    (custodyAfter (handover ++ [staleCommit])).keysOf "seat" = some (sampleKey 'c', sampleKey 'b') ∧
    ((custodyAfter (handover ++ [staleCommit])).deliver sampleCrypto.sha256 staleRotate).keysOf "seat" =
      some (sampleKey 'd', sampleKey 'b') ∧
    ((custodyAfter handover).deliver sampleCrypto.sha256 strangerRotate).keysOf "seat" =
      some (sampleKey 'e', sampleKey 'b') ∧
    ((custodyAfter handover).deliver sampleCrypto.sha256 strangerCommit).keysOf "seat" =
      some (sampleKey 'c', sampleKey 'e') ∧
    ¬ AuthorizedBy sampleCrypto.sha256 (custodyAfter handover) staleRotate ∧
    ¬ AuthorizedBy sampleCrypto.sha256 (custodyAfter (handover ++ [staleCommit])) staleRotate ∧
    ¬ AuthorizedBy sampleCrypto.sha256 (custodyAfter handover) strangerRotate ∧
    ¬ AuthorizedBy sampleCrypto.sha256 (custodyAfter handover) strangerCommit := by
  have hruns : ((custodyAfter handover).keysOf "seat",
      ((custodyAfter handover).deliver sampleCrypto.sha256 staleRotate).keysOf "seat",
      ((custodyAfter handover).deliver sampleCrypto.sha256 strangerRotate).keysOf "seat",
      ((custodyAfter handover).deliver sampleCrypto.sha256 strangerCommit).keysOf "seat",
      (custodyAfter handover).committed.getD "seat" []) =
      (some (sampleKey 'c', sampleKey 'b'), some (sampleKey 'd', sampleKey 'b'), some (sampleKey 'e', sampleKey 'b'),
        some (sampleKey 'c', sampleKey 'e'), []) := by decide +kernel
  have hself : ((custodyAfter (handover ++ [staleCommit])).keysOf "seat",
      ((custodyAfter (handover ++ [staleCommit])).deliver sampleCrypto.sha256 staleRotate).keysOf "seat",
      (custodyAfter (handover ++ [staleCommit])).committed.getD "seat" []) =
      (some (sampleKey 'c', sampleKey 'b'), some (sampleKey 'd', sampleKey 'b'), []) := by decide +kernel
  simp only [Prod.mk.injEq] at hruns hself
  obtain ⟨hhandover, hstale, hrotated, hplanted, hnone⟩ := hruns
  obtain ⟨hcommitted, hself, hnone'⟩ := hself
  refine ⟨by decide +kernel, hhandover, hstale, hcommitted, hself, hrotated, hplanted, ?_, ?_, ?_, ?_⟩
  · exact not_authorizedBy .recoveryRotate (by decide +kernel) (by decide) hhandover hstale (by decide +kernel)
      (by decide +kernel) (by simp [hnone])
  · exact not_authorizedBy .recoveryRotate (by decide +kernel) (by decide) hcommitted hself (by decide +kernel)
      (by decide +kernel) (by simp [hnone'])
  · exact not_authorizedBy .rotateKey (by decide +kernel) (by decide) hhandover hrotated (by decide +kernel)
      (by decide +kernel) (by simp [hnone])
  · exact not_authorizedBy .recoveryKeySet (by decide +kernel) (by decide) hhandover hplanted (by decide +kernel)
      (by decide +kernel) (by simp [hnone])

end Sample

end Custody

end aethernet.validatorlifecycle
