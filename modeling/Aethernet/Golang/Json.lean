import Aethernet.Golang.Errors
import Aethernet.Golang.Map

namespace golang

/-- A JSON document. A number keeps its literal, an object its members in order with repetitions. -/
inductive Json where
  | null
  | bool (b : Bool)
  | num (literal : String)
  | str (s : String)
  | arr (elems : List Json)
  | obj (members : List (String × Json))

/-- A `json.RawMessage`: nil, bytes that are not a JSON document (with the text of the decoder's
    syntax error), or the document the bytes spell. -/
inductive RawMessage where
  | absent
  | malformed (syntaxError : String)
  | document (value : Json)

namespace json

/-- The `Value` text of an `UnmarshalTypeError` about this document. -/
def kind : Json → String
  | .null => "null"
  | .bool _ => "bool"
  | .num _ => "number"
  | .str _ => "string"
  | .arr _ => "array"
  | .obj _ => "object"

/-- The text of an `UnmarshalTypeError`; `context` is `Struct.field`, or empty at the root. -/
def typeError (context value goType : String) : Error :=
  .new ("json: cannot unmarshal " ++ value ++ " into Go "
    ++ (if context = "" then "value" else "struct field " ++ context) ++ " of type " ++ goType)

/-- How a Go type is decoded: its zero value, and what a document does to an existing value. -/
structure Decoder (A : Type) where
  zero : A
  decode : (context : String) → A → Json → Except Error A

/-- The decoder of a type whose documents either give a value or are of the wrong kind. -/
def Decoder.scalar {A : Type} (goType : String) (zero : A) (read : Json → Except String A) : Decoder A where
  zero := zero
  decode context old
    | .null => .ok old
    | j => match read j with
      | .ok value => .ok value
      | .error value => .error (typeError context value goType)

def stringAs (goType : String) : Decoder String :=
  .scalar goType "" fun
    | .str s => .ok s
    | j => .error (kind j)

def string : Decoder String := stringAs "string"

def bool : Decoder Bool :=
  .scalar "bool" false fun
    | .bool b => .ok b
    | j => .error (kind j)

/-- `strconv.ParseUint` on a JSON number: digits only, and below `2 ^ bits`. -/
def parseUint (bits : Nat) (literal : String) : Option Nat :=
  if literal.toList.all Char.isDigit then
    let n := literal.toList.foldl (fun n c => 10 * n + (c.toNat - '0'.toNat)) 0
    if n < 2 ^ bits then some n else none
  else none

def uint (bits : Nat) (literal : String) : Except String Nat :=
  match parseUint bits literal with
  | some n => .ok n
  | none => .error ("number " ++ literal)

def uint8 : Decoder UInt8 :=
  .scalar "uint8" 0 fun
    | .num literal => (uint 8 literal).map UInt8.ofNat
    | j => .error (kind j)

def uint64 : Decoder UInt64 :=
  .scalar "uint64" 0 fun
    | .num literal => (uint 64 literal).map UInt64.ofNat
    | j => .error (kind j)

def uint32 : Decoder UInt32 :=
  .scalar "uint32" 0 fun
    | .num literal => (uint 32 literal).map UInt32.ofNat
    | j => .error (kind j)

/-- `strconv.ParseInt` on a JSON number: an optional sign and digits, in the range of `int64`. -/
def parseInt64 (literal : String) : Option ℤ :=
  match literal.toList with
  | '-' :: digits =>
    (parseUint 64 (String.ofList digits)).bind fun n => if n ≤ 2 ^ 63 then some (-(n : ℤ)) else none
  | _ => (parseUint 63 literal).map fun n => (n : ℤ)

/-- A signed 64-bit type under its name. -/
def intAs (goType : String) : Decoder Int64 :=
  .scalar goType 0 fun
    | .num literal => match parseInt64 literal with
      | some n => .ok (Int64.ofInt n)
      | none => .error ("number " ++ literal)
    | j => .error (kind j)

def int64 : Decoder Int64 := intAs "int64"

/-- A slice: `null` gives nil, every element starts from the zero value. -/
def slice {A : Type} (goType : String) (elem : Decoder A) : Decoder (List A) where
  zero := []
  decode context _
    | .null => .ok []
    | .arr elems => elems.mapM (elem.decode context elem.zero)
    | j => .error (typeError context (kind j) ("[]" ++ goType))

/-- A map with string keys: `null` gives nil, members are added to what is there. -/
def mapOf {A : Type} (goType : String) (elem : Decoder A) : Decoder (Map String A) where
  zero := ∅
  decode context old
    | .null => .ok ∅
    | .obj members =>
      members.foldlM (fun m member => (elem.decode context elem.zero member.2).map (m.insert member.1)) old
    | j => .error (typeError context (kind j) ("map[string]" ++ goType))

def foldChar (c : Char) : Char :=
  if c.toNat = 0x17F then 's' else if c.toNat = 0x212A then 'k' else c.toLower

def foldName (s : String) : String := String.ofList (s.toList.map foldChar)

/-- A field of a Go struct under its JSON name. -/
structure Field (S : Type) where
  name : String
  decode : (context : String) → S → Json → Except Error S

def field {S A : Type} (name : String) (d : Decoder A) (get : S → A) (put : S → A → S) : Field S where
  name := name
  decode context s j := (d.decode context (get s) j).map (put s)

/-- Decode one member of an object into the field its key names. -/
def decodeMember {S : Type} (path : String) (fields : List (Field S)) (s : S) (member : String × Json) :
    Except Error S :=
  match fields.find? fun f => foldName f.name = foldName member.1 with
  | none => .ok s
  | some f => f.decode (path ++ "." ++ f.name) s member.2

/-- The decoder of a struct; `name` is the struct's name and `goType` its name with the package. -/
def struct {S : Type} (name goType : String) (zero : S) (fields : List (Field S)) : Decoder S where
  zero := zero
  decode context old
    | .null => .ok old
    | .obj members => members.foldlM (decodeMember (if context = "" then name else context) fields) old
    | j => .error (typeError context (kind j) goType)

/-- `json.Unmarshal` into a fresh value. Keys match the names of fields up to case, other keys are skipped, `null`
    leaves a field as it was, and the first value of the wrong type is reported. -/
def unmarshal {A : Type} (d : Decoder A) : RawMessage → Except Error A
  | .absent => .error (.new "unexpected end of JSON input")
  | .malformed syntaxError => .error (.new syntaxError)
  | .document value => d.decode "" d.zero value

end json

end golang
