import Aethernet.Golang.Map

instance Int64.addCommGroup : AddCommGroup Int64 where
  add_assoc := Int64.add_assoc
  zero_add := Int64.zero_add
  add_zero := Int64.add_zero
  add_comm := Int64.add_comm
  neg_add_cancel := Int64.add_left_neg
  sub_eq_add_neg := Int64.sub_eq_add_neg
  nsmul := nsmulRec
  zsmul := zsmulRec

namespace golang

/-- The conversion `int64(x)` of a `uint64` commutes with the wrapping additions. -/
def toInt64Hom : UInt64 →+ Int64 where
  toFun := UInt64.toInt64
  map_zero' := rfl
  map_add' := UInt64.toInt64_add

variable (x : UInt64)

@[simp]
theorem toInt64Hom_apply : toInt64Hom x = x.toInt64 := rfl

theorem toInt_toInt64 : x.toInt64.toInt = (x.toNat : ℤ).bmod (2 ^ 64) :=
  BitVec.toInt_eq_toNat_bmod _

theorem toNat_sumBy {K V : Type} [DecidableEq K] (m : Map K V) (f : V → UInt64) :
    (m.sumBy f).toNat = (m.sumBy fun v => (f v).toNat) % 2 ^ 64 := by
  induction m using Finmap.insert_induction with
  | hempty => rfl
  | hinsert m k v hfresh ih =>
    rw [Finmap.sumBy_insert_of_notMem f v hfresh, Finmap.sumBy_insert_of_notMem _ v hfresh,
      UInt64.toNat_add, ih, Nat.add_mod_mod]

theorem toNat_sumBy_of_lt {K V : Type} [DecidableEq K] (m : Map K V) (f : V → UInt64)
    (hlt : (m.sumBy fun v => (f v).toNat) < 2 ^ 64) :
    (m.sumBy f).toNat = m.sumBy fun v => (f v).toNat := by
  rw [toNat_sumBy, Nat.mod_eq_of_lt hlt]

theorem toNat_sum_map_of_lt {A : Type} (l : List A) (f : A → UInt64)
    (hlt : (l.map fun a => (f a).toNat).sum < 2 ^ 64) :
    (l.map f).sum.toNat = (l.map fun a => (f a).toNat).sum := by
  induction l with
  | nil => rfl
  | cons a l ih =>
    simp only [List.map_cons, List.sum_cons] at hlt ⊢
    rw [UInt64.toNat_add, ih (by omega), Nat.mod_eq_of_lt hlt]

theorem toNat_sum_map_le {A : Type} (l : List A) (f : A → UInt64) :
    (l.map f).sum.toNat ≤ (l.map fun a => (f a).toNat).sum := by
  induction l with
  | nil => rfl
  | cons a l ih =>
    exact (Nat.mod_le _ _).trans (Nat.add_le_add_left ih _)

theorem toInt_add_sub (a : Int64) (x y : UInt64) :
    (a + x.toInt64 - y.toInt64).toInt = (a.toInt + x.toNat - y.toNat).bmod (2 ^ 64) := by
  rw [Int64.toInt_sub, Int64.toInt_add, toInt_toInt64, toInt_toInt64, Int.add_bmod_bmod,
    Int.bmod_sub_bmod, Int.sub_bmod_bmod]

theorem bmod_eq_self {z : ℤ} (hlo : -2 ^ 63 ≤ z) (hhi : z < 2 ^ 63) : z.bmod (2 ^ 64) = z := by
  apply Int.bmod_eq_of_le <;> norm_num <;> omega

theorem toNat_toUInt64_of_pos {a : Int64} (hpos : 0 < a) : (a.toUInt64.toNat : ℤ) = a.toInt := by
  have hle : (0 : Int64) ≤ a := Int64.le_of_lt hpos
  rw [Int64.toNat_toUInt64_of_le hle, Int64.toNatClampNeg]
  exact Int.toNat_of_nonneg (by simpa using Int64.le_iff_toInt_le.mp hle)

/-- `binary.BigEndian.PutUint64`. -/
def putUint64 : List UInt8 :=
  [x >>> 56, x >>> 48, x >>> 40, x >>> 32, x >>> 24, x >>> 16, x >>> 8, x].map UInt64.toUInt8

variable (bytes : List UInt8)

/-- `binary.BigEndian.Uint64`. -/
def uint64 : UInt64 := UInt64.ofNat (bytes.foldl (fun n b => 2 ^ 8 * n + b.toNat) 0)

theorem uint64_putUint64 : uint64 (putUint64 x) = x := by
  have hdigit : ∀ k, 2 ^ 8 * (x.toNat / 2 ^ (k + 8)) + x.toNat / 2 ^ k % 2 ^ 8 = x.toNat / 2 ^ k := fun k => by
    rw [Nat.pow_add, ← Nat.div_div_eq_div_mul, Nat.div_add_mod]
  have htop : x.toNat / 2 ^ 56 % 2 ^ 8 = x.toNat / 2 ^ 56 :=
    Nat.mod_eq_of_lt (Nat.div_lt_of_lt_mul (by rw [← Nat.pow_add]; exact x.toNat_lt))
  refine UInt64.toNat_inj.mp ?_
  simp only [uint64, putUint64, List.map_cons, List.map_nil, List.foldl_cons, List.foldl_nil, UInt64.toNat_toUInt8,
    UInt64.toNat_shiftRight, UInt64.toNat_ofNat', Nat.shiftRight_eq_div_pow, UInt64.reduceToNat, Nat.reduceMod,
    Nat.mul_zero, Nat.zero_add]
  rw [htop, hdigit 48, hdigit 40, hdigit 32, hdigit 24, hdigit 16, hdigit 8, Nat.div_add_mod,
    Nat.mod_eq_of_lt x.toNat_lt]

/-- `hex.EncodeToString`. -/
def hexEncode : String :=
  String.ofList (bytes.flatMap fun b => [Nat.digitChar (b.toNat / 16), Nat.digitChar (b.toNat % 16)])

/-- The value of a hexadecimal digit. -/
def hexDigit (c : Char) : Option ℕ :=
  if '0' ≤ c ∧ c ≤ '9' then some (c.toNat - '0'.toNat)
  else if 'a' ≤ c ∧ c ≤ 'f' then some (c.toNat - 'a'.toNat + 10)
  else if 'A' ≤ c ∧ c ≤ 'F' then some (c.toNat - 'A'.toNat + 10)
  else none

/-- The bytes pairs of hexadecimal digits spell. -/
def hexPairs : List Char → Option (List UInt8)
  | [] => some []
  | [_] => none
  | hi :: lo :: rest => do
    let h ← hexDigit hi
    let l ← hexDigit lo
    let bytes ← hexPairs rest
    return UInt8.ofNat (16 * h + l) :: bytes

/-- `hex.DecodeString`, with its errors as `none`. -/
def hexDecode (s : String) : Option (List UInt8) := hexPairs s.toList

theorem hexDigit_digitChar : ∀ d < 16, hexDigit (Nat.digitChar d) = some d := by
  decide

@[simp]
theorem hexDecode_hexEncode : hexDecode (hexEncode bytes) = some bytes := by
  unfold hexDecode hexEncode
  rw [String.toList_ofList]
  induction bytes with
  | nil => rfl
  | cons b bytes ih =>
    have hb := b.toNat_lt
    have hbyte : UInt8.ofNat (16 * (b.toNat / 16) + b.toNat % 16) = b := by
      rw [Nat.div_add_mod, UInt8.ofNat_toNat]
    simp only [List.flatMap_cons, List.cons_append, List.nil_append, hexPairs, ih,
      hexDigit_digitChar (b.toNat / 16) (by omega), hexDigit_digitChar (b.toNat % 16) (by omega), Option.bind_eq_bind,
      Option.bind_some, hbyte]
    rfl

theorem toString_eq_repr (n : UInt64) : toString n = n.toNat.repr := rfl

theorem toString_inj {n m : UInt64} (h : toString n = toString m) : n = m := by
  rw [toString_eq_repr, toString_eq_repr] at h
  have hdigits := congrArg String.toList h
  rw [Nat.toList_repr, Nat.toList_repr] at hdigits
  have hvalue := congrArg (Nat.ofDigitChars 10 · 0) hdigits
  simp only [Nat.ofDigitChars_ten_toDigits] at hvalue
  exact UInt64.toNat_inj.mp hvalue

theorem colon_notMem_toString (n : UInt64) : ':' ∉ (toString n).toList := by
  rw [toString_eq_repr, Nat.toList_repr]
  intro hmem
  exact absurd (Nat.isDigit_of_mem_toDigits (by decide) (by decide) hmem) (by decide)

theorem append_cons_inj {A : Type} {c : A} {xs xs' ys ys' : List A} (h : xs ++ c :: ys = xs' ++ c :: ys')
    (hys : c ∉ ys) (hys' : c ∉ ys') : xs = xs' ∧ ys = ys' := by
  obtain ⟨zs, rfl, htail⟩ | ⟨zs, rfl, htail⟩ := List.append_eq_append_iff.mp h
  all_goals
    cases zs with
    | nil => simp_all
    | cons z zs => simp_all

theorem append_colon_toString_inj {s s' : String} {n m : UInt64}
    (h : s ++ ":" ++ toString n = s' ++ ":" ++ toString m) :
    s = s' ∧ n = m := by
  have hlist := congrArg String.toList h
  simp only [String.toList_append, List.append_assoc] at hlist
  obtain ⟨hleft, hright⟩ :=
    append_cons_inj hlist (colon_notMem_toString n) (colon_notMem_toString m)
  exact ⟨String.toList_inj.mp hleft, toString_inj (String.toList_inj.mp hright)⟩

end golang
