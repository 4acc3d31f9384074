import Mathlib

namespace golang

inductive Error where
  | new (text : String)
  | wrap (before : String) (inner : Error) (after : String)
  deriving DecidableEq, Repr

/-- The `Error()` text. -/
def Error.text : Error → String
  | new text => text
  | wrap before inner after => before ++ inner.text ++ after

/-- `errors.Is`: the target is the error itself or one of the errors it wraps. -/
def Error.is (e target : Error) : Bool :=
  match e with
  | new _ => e = target
  | wrap _ inner _ => e = target || inner.is target

@[simp]
theorem Error.is_self (e : Error) : e.is e = true := by
  cases e <;> simp [Error.is]

theorem bind_eq_ok_iff {A B : Type} {x : Except Error A} {f : A → Except Error B} {b : B} :
    x >>= f = .ok b ↔ ∃ a, x = .ok a ∧ f a = .ok b := by
  cases x <;> simp [bind, Except.bind]

/-- The escape of one character in a `%q` text, for the characters that have one below `U+0080`. -/
def quoteChar (c : Char) : String :=
  if c = '"' then "\\\""
  else if c = '\\' then "\\\\"
  else if c = '\n' then "\\n"
  else if c = '\r' then "\\r"
  else if c = '\t' then "\\t"
  else if c.val = 7 then "\\a"
  else if c.val = 8 then "\\b"
  else if c.val = 11 then "\\v"
  else if c.val = 12 then "\\f"
  else if c.val < 32 ∨ c.val = 127 then
    "\\x" ++ String.ofList [Nat.digitChar (c.toNat / 16), Nat.digitChar (c.toNat % 16)]
  else c.toString

/-- `fmt`'s `%q` verb. -/
def quote (s : String) : String :=
  "\"" ++ String.join (s.toList.map quoteChar) ++ "\""

end golang
