import Aethernet.Auth.TxVerify
import Aethernet.Transition.Invariant

open golang transition

namespace aethernet.auth

/-- The two stores of the API server. -/
structure Stores where
  nonces : Store := ∅
  txIDs : Store := ∅

/-- What happens at the server: a request, with the keys that the registry has by then, a nonce check of the older
    signing scheme, and the two cleanups. -/
inductive Occurrence where
  | request (lookupPubKey : String → Except Error (List UInt8)) (r : Request) (allowed inDag : Bool)
  | nonce (agentID nonce : String)
  | cleanupNonces
  | cleanupTxIDs

variable (v : Verifier)

/-- One occurrence at the time `now`: the transaction it accepts, if any, and the stores after it. -/
def step (now : Int64) (s : Stores) : Occurrence → Option Transaction × Stores
  | .request lookupPubKey r allowed inDag => match ({ v with lookupPubKey }).serve r allowed inDag now s.txIDs with
    | (.accepted vtx, txIDs) => (some vtx.tx, { s with txIDs })
    | (_, txIDs) => (none, { s with txIDs })
  | .nonce agentID nonce => (none, { s with nonces := (checkAndStore agentID nonce now s.nonces).2 })
  | .cleanupNonces => (none, { s with nonces := s.nonces.cleanup nonceTTL now })
  | .cleanupTxIDs => (none, { s with txIDs := s.txIDs.cleanup txidTTL now })

/-- The transactions a run accepts, with the times of acceptance. -/
def accepted : Stores → List (Int64 × Occurrence) → List (Int64 × Transaction)
  | _, [] => []
  | s, (now, o) :: run => match step v now s o with
    | (some tx, s') => (now, tx) :: accepted s' run
    | (none, s') => accepted s' run

/-- The wall clock does not go back. -/
def Ordered (run : List (Int64 × Occurrence)) : Prop := run.Pairwise fun a b => a.1 ≤ b.1

instance (run : List (Int64 × Occurrence)) : Decidable (Ordered run) :=
  inferInstanceAs (Decidable (run.Pairwise fun a b => a.1 ≤ b.1))

/-- The difference of the times is too large for an `int64`, while the expiry leaves room for the clock skew. -/
def Transaction.LifetimeWraps (tx : Transaction) : Prop :=
  2 ^ 63 ≤ tx.expiresAt.toInt - tx.createdAt.toInt ∧ tx.expiresAt.toInt + 60 < 2 ^ 63

instance (tx : Transaction) : Decidable tx.LifetimeWraps :=
  inferInstanceAs (Decidable (2 ^ 63 ≤ tx.expiresAt.toInt - tx.createdAt.toInt ∧ tx.expiresAt.toInt + 60 < 2 ^ 63))

section TimeWindow

variable {createdAt expiresAt now : Int64} {tx : Transaction}

theorem checkTimes_eq_ok_iff : checkTimes createdAt expiresAt now = .ok () ↔
    (expiresAt.toInt - createdAt.toInt).bmod (2 ^ 64) ≤ 120 ∧ now.toInt ≤ (expiresAt.toInt + 60).bmod (2 ^ 64) ∧
      createdAt.toInt ≤ (now.toInt + 60).bmod (2 ^ 64) := by
  have hlifetime : expiresAt - createdAt > TxMaxLifetimeSecs ↔
      ¬(expiresAt.toInt - createdAt.toInt).bmod (2 ^ 64) ≤ 120 := by
    rw [gt_iff_lt, Int64.lt_iff_toInt_lt, Int64.toInt_sub, not_le]
    rfl
  have hexpired : now > expiresAt + TxClockSkewSecs ↔ ¬now.toInt ≤ (expiresAt.toInt + 60).bmod (2 ^ 64) := by
    rw [gt_iff_lt, Int64.lt_iff_toInt_lt, Int64.toInt_add, not_le]
    rfl
  have hfuture : createdAt > now + TxClockSkewSecs ↔ ¬createdAt.toInt ≤ (now.toInt + 60).bmod (2 ^ 64) := by
    rw [gt_iff_lt, Int64.lt_iff_toInt_lt, Int64.toInt_add, not_le]
    rfl
  unfold checkTimes
  split_ifs with h₁ h₂ h₃ <;> simp_all

theorem lifetimeWraps_of_checkTimes {t₁ t₂ : Int64}
    (h₁ : checkTimes tx.createdAt tx.expiresAt t₁ = .ok ()) (h₂ : checkTimes tx.createdAt tx.expiresAt t₂ = .ok ())
    (hlate : t₁.toInt + txidTTL < t₂.toInt) : tx.LifetimeWraps := by
  obtain ⟨hlife, hexp₁, hcre₁⟩ := checkTimes_eq_ok_iff.mp h₁
  obtain ⟨-, hexp₂, hcre₂⟩ := checkTimes_eq_ok_iff.mp h₂
  have hcre := tx.createdAt.toInt_lt
  have hcre' := tx.createdAt.le_toInt
  have hexp := tx.expiresAt.toInt_lt
  have hexp' := tx.expiresAt.le_toInt
  have ht₁ := t₁.le_toInt
  have ht₂ := t₂.toInt_lt
  unfold Transaction.LifetimeWraps
  simp only [txidTTL, Int.bmod] at *
  omega

theorem checkTimes_of_lifetimeWraps (h : tx.LifetimeWraps) :
    ∃ t₁ t₂ : Int64, t₁.toInt + txidTTL < t₂.toInt ∧ checkTimes tx.createdAt tx.expiresAt t₁ = .ok () ∧
      checkTimes tx.createdAt tx.expiresAt t₂ = .ok () := by
  obtain ⟨hwrap, hroom⟩ := h
  have hcre := tx.createdAt.toInt_lt
  have hcre' := tx.createdAt.le_toInt
  have hexp := tx.expiresAt.toInt_lt
  have hexp' := tx.expiresAt.le_toInt
  -- the window contains zero, and reaches far to one side of it
  have hlow : (-1000 : Int64).toInt = -1000 := by decide
  have hzero : (0 : Int64).toInt = 0 := by decide
  have hhigh : (1000 : Int64).toInt = 1000 := by decide
  by_cases hside : tx.createdAt.toInt ≤ -940
  · refine ⟨-1000, 0, ?_, checkTimes_eq_ok_iff.mpr ?_, checkTimes_eq_ok_iff.mpr ?_⟩
    all_goals
      simp only [hlow, hzero, txidTTL, Int.bmod]
      omega
  · refine ⟨0, 1000, ?_, checkTimes_eq_ok_iff.mpr ?_, checkTimes_eq_ok_iff.mpr ?_⟩
    all_goals
      simp only [hzero, hhigh, txidTTL, Int.bmod]
      omega

end TimeWindow

variable {v} {r : Request} {allowed inDag : Bool} {now now' : Int64} {vtx : VerifiedTx}

theorem verifyTransaction_eq_ok_iff : v.verifyTransaction r now = .ok vtx ↔
    ∃ createdAt expiresAt, v.readTimes r = .ok (createdAt, expiresAt) ∧ checkTimes createdAt expiresAt now = .ok () ∧
      v.verifyEnvelope r createdAt expiresAt = .ok vtx := by
  unfold Verifier.verifyTransaction
  simp [bind_eq_ok_iff, Unique.exists_iff]

theorem verifyEnvelope_ok {createdAt expiresAt : Int64} (h : v.verifyEnvelope r createdAt expiresAt = .ok vtx) :
    vtx.tx = r.transaction v.crypto createdAt expiresAt ∧ vtx.tx.txID v.crypto = .ok vtx.txID := by
  obtain ⟨_, -, h⟩ := bind_eq_ok_iff.mp h
  dsimp only at h
  split at h
  · cases h
  · split at h
    · cases h
    · obtain ⟨txID, htxID, h⟩ := bind_eq_ok_iff.mp h
      cases h
      refine ⟨rfl, ?_⟩
      unfold wrapError at htxID
      split at htxID
      · rename_i hok
        exact hok.trans htxID
      · cases htxID

theorem verifyTransaction_ok (h : v.verifyTransaction r now = .ok vtx) :
    checkTimes vtx.tx.createdAt vtx.tx.expiresAt now = .ok () ∧ vtx.tx.txID v.crypto = .ok vtx.txID := by
  obtain ⟨createdAt, expiresAt, -, htimes, henvelope⟩ := verifyTransaction_eq_ok_iff.mp h
  obtain ⟨htx, hid⟩ := verifyEnvelope_ok henvelope
  rw [htx] at hid ⊢
  exact ⟨htimes, hid⟩

theorem verifyTransaction_at (h : v.verifyTransaction r now = .ok vtx)
    (htimes : checkTimes vtx.tx.createdAt vtx.tx.expiresAt now' = .ok ()) : v.verifyTransaction r now' = .ok vtx := by
  obtain ⟨createdAt, expiresAt, hread, -, henvelope⟩ := verifyTransaction_eq_ok_iff.mp h
  rw [(verifyEnvelope_ok henvelope).1] at htimes
  exact verifyTransaction_eq_ok_iff.mpr ⟨createdAt, expiresAt, hread, htimes, henvelope⟩

theorem checkTxIDSeen_eq (txID : String) (inDag : Bool) (now : Int64) (s : Store) :
    checkTxIDSeen txID inDag now s = (isSeen txID s || inDag, (markSeen txID now s).2) := by
  unfold checkTxIDSeen
  split_ifs with hseen hdag
  · have hmem : "txid:" ++ txID ∈ s := of_decide_eq_true hseen
    simp [hseen, markSeen, Seen.mark, hmem]
  · simp [hdag]
  · simp [hseen, hdag]

theorem serve_cases (v : Verifier) (r : Request) (allowed inDag : Bool) (now : Int64) (s : Store) :
    (∃ vtx, v.verifyTransaction r now = .ok vtx ∧ s.lookup ("txid:" ++ vtx.txID) = none ∧
        v.serve r allowed inDag now s = (.accepted vtx, (markSeen vtx.txID now s).2)) ∨
      (∀ vtx, (v.serve r allowed inDag now s).1 ≠ .accepted vtx) ∧
        ((v.serve r allowed inDag now s).2 = s ∨ ∃ txID, (v.serve r allowed inDag now s).2 =
          (markSeen txID now s).2) := by
  unfold Verifier.serve
  split
  · exact .inr ⟨nofun, .inl rfl⟩
  · split
    · exact .inr ⟨nofun, .inl rfl⟩
    · rename_i vtx hverify
      split
      · exact .inr ⟨nofun, .inl rfl⟩
      · rw [checkTxIDSeen_eq]
        cases hold : isSeen vtx.txID s || inDag with
        | true => exact .inr ⟨nofun, .inr ⟨vtx.txID, rfl⟩⟩
        | false =>
          have hnew : "txid:" ++ vtx.txID ∉ s := of_decide_eq_false (Bool.or_eq_false_iff.mp hold).1
          exact .inl ⟨vtx, hverify, Finmap.lookup_eq_none.mpr hnew, rfl⟩

theorem serve_of_verifyTransaction {s : Store} (hversion : r.header "X-AetherNet-Version" = TxVersion)
    (hverify : v.verifyTransaction r now = .ok vtx) (hnew : s.lookup ("txid:" ++ vtx.txID) = none) :
    v.serve r true false now s = (.accepted vtx, (markSeen vtx.txID now s).2) := by
  have hseen : isSeen vtx.txID s = false := decide_eq_false (Finmap.lookup_eq_none.mp hnew)
  simp [Verifier.serve, hversion, hverify, checkTxIDSeen_eq, hseen]

/-- What an occurrence at the time `now` does to the stored IDs. -/
inductive StoreStep (v : Verifier) (now : Int64) (s : Store) : Option Transaction → Store → Prop
  | accept (vtx : VerifiedTx) (lookupPubKey : String → Except Error (List UInt8)) (r : Request)
      (hverify : ({ v with lookupPubKey }).verifyTransaction r now = .ok vtx)
      (hnew : s.lookup ("txid:" ++ vtx.txID) = none) : StoreStep v now s (some vtx.tx) (markSeen vtx.txID now s).2
  | mark (txID : String) : StoreStep v now s none (markSeen txID now s).2
  | leave : StoreStep v now s none s
  | cleanup : StoreStep v now s none (s.cleanup txidTTL now)

theorem step_cases (v : Verifier) (now : Int64) (s : Stores) (o : Occurrence) :
    StoreStep v now s.txIDs (step v now s o).1 (step v now s o).2.txIDs := by
  cases o with
  | request lookupPubKey r allowed inDag =>
    unfold step
    obtain ⟨vtx, hverify, hnew, hserve⟩ | ⟨hrefused, hstore⟩ :=
      serve_cases { v with lookupPubKey } r allowed inDag now s.txIDs
    · simp only [hserve]
      exact .accept vtx lookupPubKey r hverify hnew
    · cases hserve : ({ v with lookupPubKey } : Verifier).serve r allowed inDag now s.txIDs with
      | mk answer txIDs =>
        simp only [hserve] at hrefused hstore
        have hnone : StoreStep v now s.txIDs none txIDs := by
          obtain rfl | ⟨txID, rfl⟩ := hstore
          · exact .leave
          · exact .mark txID
        cases answer with
        | accepted vtx => exact absurd rfl (hrefused vtx)
        | _ => simpa only [hserve] using hnone
  | nonce agentID nonce => exact .leave
  | cleanupNonces => exact .leave
  | cleanupTxIDs => exact .cleanup

variable {t : Int64}

theorem StoreStep.lookup_or_late {s s' : Store} {tx : Option Transaction} (h : StoreStep v now s tx s') {key : String}
    (hstored : s.lookup key = some t) : s'.lookup key = some t ∨ t.toInt + txidTTL < now.toInt := by
  cases h with
  | accept vtx lookupPubKey r hverify hnew | mark txID => exact .inl (Seen.lookup_mark_of_some hstored)
  | leave => exact .inl hstored
  | cleanup =>
    by_cases hstale : t.toInt < now.toInt - txidTTL
    · exact .inr (by omega)
    · refine .inl (Seen.lookup_purge _ |>.trans ?_)
      simp [hstored, Option.filter, hstale]

theorem StoreStep.accepted {s s' : Store} {tx : Transaction} (h : StoreStep v now s (some tx) s') :
    ∃ txID, tx.txID v.crypto = .ok txID ∧ checkTimes tx.createdAt tx.expiresAt now = .ok () ∧
      s.lookup ("txid:" ++ txID) = none ∧ s'.lookup ("txid:" ++ txID) = some now := by
  cases h with
  | accept vtx lookupPubKey r hverify hnew =>
    obtain ⟨htimes, hid⟩ := verifyTransaction_ok hverify
    refine ⟨vtx.txID, hid, htimes, hnew, ?_⟩
    exact Seen.lookup_mark.trans (if_pos ⟨rfl, Finmap.lookup_eq_none.mp hnew⟩)

variable {s : Stores} {o : Occurrence} {run : List (Int64 × Occurrence)}

theorem accepted_cons : accepted v s ((now, o) :: run)
    = ((step v now s o).1.map fun tx => (now, tx)).toList ++ accepted v (step v now s o).2 run := by
  rw [accepted]
  cases step v now s o with
  | mk tx s' => cases tx <;> rfl

variable {p : Int64 × Transaction}

theorem mem_accepted_cons : p ∈ accepted v s ((now, o) :: run) ↔
    (step v now s o).1 = some p.2 ∧ now = p.1 ∨ p ∈ accepted v (step v now s o).2 run := by
  obtain ⟨t, tx⟩ := p
  rw [accepted_cons, List.mem_append, Option.mem_toList, Option.map_eq_some_iff]
  refine or_congr_left ⟨?_, fun ⟨htx, htime⟩ => ⟨tx, htx, by rw [htime]⟩⟩
  rintro ⟨tx', htx', heq⟩
  obtain ⟨rfl, rfl⟩ := Prod.mk.inj heq
  exact ⟨htx', rfl⟩

theorem time_mem_of_mem_accepted (hp : p ∈ accepted v s run) : ∃ q ∈ run, q.1 = p.1 := by
  induction run generalizing s with
  | nil => cases hp
  | cons q run ih =>
    obtain ⟨now, o⟩ := q
    obtain ⟨-, htime⟩ | htail := mem_accepted_cons.mp hp
    · exact ⟨(now, o), List.mem_cons_self, htime⟩
    · obtain ⟨q, hq, heq⟩ := ih htail
      exact ⟨q, List.mem_cons_of_mem _ hq, heq⟩

theorem late_of_stored {txID : String} (hordered : Ordered run)
    (hstored : s.txIDs.lookup ("txid:" ++ txID) = some t ∨ ∀ q ∈ run, t.toInt + txidTTL < q.1.toInt)
    (hp : p ∈ accepted v s run) (hid : p.2.txID v.crypto = .ok txID) : t.toInt + txidTTL < p.1.toInt := by
  induction run generalizing s with
  | nil => cases hp
  | cons q run ih =>
    obtain hstored | hlate := hstored
    swap
    · obtain ⟨q', hq', heq⟩ := time_mem_of_mem_accepted hp
      exact heq ▸ hlate q' hq'
    obtain ⟨now, o⟩ := q
    obtain ⟨hfirst, hrest⟩ := List.pairwise_cons.mp hordered
    obtain ⟨htx, -⟩ | htail := mem_accepted_cons.mp hp
    · -- the ID is stored, so it is not accepted now
      have hstep := step_cases v now s o
      rw [htx] at hstep
      obtain ⟨txID', hid', -, hnew, -⟩ := hstep.accepted
      obtain rfl : txID' = txID := Except.ok.inj (hid'.symm.trans hid)
      rw [hstored] at hnew
      cases hnew
    · refine ih hrest ?_ htail
      refine (step_cases v now s o).lookup_or_late hstored |>.imp_right fun hlate q hq => ?_
      exact hlate.trans_le (Int64.le_iff_toInt_le.mp (hfirst q hq))

theorem accepted_apart (hordered : Ordered run) :
    (accepted v s run).Pairwise fun a b => a.2 = b.2 → a.1.toInt + txidTTL < b.1.toInt := by
  induction run generalizing s with
  | nil => exact .nil
  | cons q run ih =>
    obtain ⟨now, o⟩ := q
    rw [accepted_cons]
    have hrest := (List.pairwise_cons.mp hordered).2
    have hstep := step_cases v now s o
    cases htx : (step v now s o).1 with
    | none => exact ih hrest
    | some tx =>
      rw [htx] at hstep
      obtain ⟨txID, hid, -, -, hstored⟩ := hstep.accepted
      refine List.pairwise_cons.mpr ⟨fun p hp heq => ?_, ih hrest⟩
      exact late_of_stored hrest (.inl hstored) hp (heq ▸ hid)

theorem checkTimes_of_mem_accepted (hp : p ∈ accepted v s run) :
    checkTimes p.2.createdAt p.2.expiresAt p.1 = .ok () := by
  induction run generalizing s with
  | nil => cases hp
  | cons q run ih =>
    obtain ⟨now, o⟩ := q
    obtain ⟨htx, htime⟩ | htail := mem_accepted_cons.mp hp
    · have hstep := step_cases v now s o
      rw [htx] at hstep
      obtain ⟨-, -, htimes, -⟩ := hstep.accepted
      exact htime ▸ htimes
    · exact ih htail

theorem count_le_one_of_pairwise {A : Type} [DecidableEq A] {l : List A} {a : A}
    (h : l.Pairwise fun b c => ¬(b = a ∧ c = a)) : l.count a ≤ 1 := by
  induction l with
  | nil => exact Nat.zero_le 1
  | cons b l ih =>
    obtain ⟨hhead, htail⟩ := List.pairwise_cons.mp h
    rw [List.count_cons]
    split_ifs with heq
    · have hb : b = a := eq_of_beq heq
      have hnone : l.count a = 0 := List.count_eq_zero.mpr fun hmem => hhead a hmem ⟨hb, rfl⟩
      omega
    · exact ih htail

def replay (v : Verifier) (r : Request) (t₁ t₂ : Int64) : List (Int64 × Occurrence) :=
  [(t₁, .request v.lookupPubKey r true false), (t₂, .cleanupTxIDs), (t₂, .request v.lookupPubKey r true false)]

theorem accepted_replay {t₁ t₂ : Int64} (hversion : r.header "X-AetherNet-Version" = TxVersion)
    (h₁ : v.verifyTransaction r t₁ = .ok vtx) (h₂ : v.verifyTransaction r t₂ = .ok vtx)
    (hlate : t₁.toInt + txidTTL < t₂.toInt) :
    accepted v {} (replay v r t₁ t₂) = [(t₁, vtx.tx), (t₂, vtx.tx)] := by
  have hfirst : v.serve r true false t₁ ∅ = (.accepted vtx, (markSeen vtx.txID t₁ ∅).2) :=
    serve_of_verifyTransaction hversion h₁ (Finmap.lookup_empty _)
  have hforgotten : ((markSeen vtx.txID t₁ ∅).2.cleanup txidTTL t₂).lookup ("txid:" ++ vtx.txID) = none := by
    have hstored : (markSeen vtx.txID t₁ ∅).2.lookup ("txid:" ++ vtx.txID) = some t₁ :=
      Seen.lookup_mark.trans (if_pos ⟨rfl, Finmap.notMem_empty⟩)
    have hstale : t₁.toInt < t₂.toInt - txidTTL := by omega
    refine (Seen.lookup_purge _).trans ?_
    simp [hstored, Option.filter, hstale]
  have hsecond := serve_of_verifyTransaction hversion h₂ hforgotten
  simp [replay, accepted, step, hfirst, hsecond]

/-- A transaction that verifies at some time is accepted at most once in every run exactly when its lifetime
    does not wrap. -/
theorem accepted_once_iff (v : Verifier) (tx : Transaction)
    (hsigned : ∃ r now vtx, r.header "X-AetherNet-Version" = TxVersion ∧ v.verifyTransaction r now = .ok vtx ∧
      vtx.tx = tx) :
    (∀ run, Ordered run → ((accepted v {} run).map Prod.snd).count tx ≤ 1) ↔ ¬tx.LifetimeWraps := by
  constructor
  · intro honce hwraps
    obtain ⟨r, now, vtx, hversion, hverify, rfl⟩ := hsigned
    obtain ⟨t₁, t₂, hlate, h₁, h₂⟩ := checkTimes_of_lifetimeWraps hwraps
    have hordered : Ordered (replay v r t₁ t₂) := by
      have hle : t₁ ≤ t₂ := Int64.le_iff_toInt_le.mpr (by unfold txidTTL at hlate; omega)
      simp [Ordered, replay, hle]
    have htwice := accepted_replay hversion (verifyTransaction_at hverify h₁) (verifyTransaction_at hverify h₂) hlate
    have hcount := honce _ hordered
    rw [htwice] at hcount
    simp at hcount
  · intro hbounded run hordered
    refine count_le_one_of_pairwise (List.pairwise_map.mpr ?_)
    refine (accepted_apart hordered).imp_of_mem fun {a b} ha hb hapart => ?_
    rintro ⟨heqa, heqb⟩
    have hfirst : checkTimes tx.createdAt tx.expiresAt a.1 = .ok () := heqa ▸ checkTimes_of_mem_accepted ha
    have hsecond : checkTimes tx.createdAt tx.expiresAt b.1 = .ok () := heqb ▸ checkTimes_of_mem_accepted hb
    exact hbounded (lifetimeWraps_of_checkTimes hfirst hsecond (hapart (heqa.trans heqb.symm)))

section Sample

def sampleVerifier : Verifier where
  crypto := sampleCrypto
  chainID := "aethernet-testnet-1"
  lookupPubKey _ := .ok (List.replicate 32 0)

def sampleRequest (created expires : String) : Request where
  method := "POST"
  path := "/v1/transfer"
  header
    | "X-AetherNet-Version" => TxVersion
    | "X-AetherNet-Chain-ID" => "aethernet-testnet-1"
    | "X-AetherNet-Actor" => "alice"
    | "X-AetherNet-Created" => created
    | "X-AetherNet-Expires" => expires
    | "X-AetherNet-Nonce" => "00112233445566778899aabbccddeeff"
    | "X-AetherNet-Signature" => hexEncode (List.replicate 64 0)
    | _ => ""
  body := ""
  document := .error (.new "unexpected end of JSON input")

def sampleTransaction (createdAt expiresAt : Int64) : Transaction where
  version := TxVersion
  chainID := "aethernet-testnet-1"
  actor := "alice"
  method := "POST"
  path := "/v1/transfer"
  bodySHA256 := ""
  createdAt := createdAt
  expiresAt := expiresAt
  nonce := "00112233445566778899aabbccddeeff"

end Sample

/-- A transfer with ordinary times is accepted at most once. -/
theorem sample_accepted_once : ¬(sampleTransaction 1760000000 1760000120).LifetimeWraps ∧ ∀ run, Ordered run →
    ((accepted sampleVerifier {} run).map Prod.snd).count (sampleTransaction 1760000000 1760000120) ≤ 1 := by
  have hkept : ¬(sampleTransaction 1760000000 1760000120).LifetimeWraps := by decide +kernel
  refine ⟨hkept, (accepted_once_iff sampleVerifier _ ⟨sampleRequest "1760000000" "1760000120", 1760000000,
    { txID := "", actor := "alice", tx := sampleTransaction 1760000000 1760000120,
      signature := hexEncode (List.replicate 64 0) }, rfl, ?_, rfl⟩).mpr hkept⟩
  decide +kernel

/-- An envelope created at the least `int64` and good until 2096 is accepted again eleven minutes later. -/
theorem wrapped_lifetime_accepted_twice :
    let r := sampleRequest "-9223372036854775808" "4000000000"
    let request := Occurrence.request sampleVerifier.lookupPubKey r true false
    let run : List (Int64 × Occurrence) :=
      [(1760000000, request), (1760000600, .cleanupNonces), (1760000600, .cleanupTxIDs), (1760000601, .cleanupTxIDs),
        (1760000660, request)]
    Ordered run ∧ (accepted sampleVerifier {} run).map Prod.snd
      = [sampleTransaction (-9223372036854775808) 4000000000, sampleTransaction (-9223372036854775808) 4000000000] := by
  decide +kernel

end aethernet.auth
