import Mathlib.Tactic

/-!
# JSON values and their canonical encoding

The JSON values the protocol serializes, with the two functions the size budgets
are computed from: `canonicalize` orders the keys of every object by their UTF-8
bytes, and `encode` writes the compact form.  Object members are kept as a list,
in whatever order they were inserted; a number keeps the text it is written with.

## Main definitions

* `Json` — the values.
* `canonicalize` — objects sorted by key bytes at every depth.
* `canonicalJsonBytes` — the number of bytes of the canonical compact encoding.
-/

namespace PgMcp

/-- A JSON value. -/
inductive Json where
  | null : Json
  | bool (b : Bool) : Json
  /-- A number, by the text it is written with. -/
  | num (text : String) : Json
  | str (s : String) : Json
  | arr (items : List Json) : Json
  | obj (members : List (String × Json)) : Json
  deriving Repr, Inhabited

namespace Json

/-- A number from a counter. -/
def nat (n : ℕ) : Json := .num (toString n)

/-- A string or `null`. -/
def optStr : Option String → Json
  | none => .null
  | some s => .str s

/-! ### Canonical key order -/

/-- The UTF-8 bytes of a string. -/
def utf8 (s : String) : List UInt8 := s.toUTF8.data.toList

/-- Keys compare by their UTF-8 bytes. -/
def keyLe (a b : String × Json) : Bool := decide (utf8 a.1 ≤ utf8 b.1)

/-- The members of an object, sorted by key. -/
def sortMembers (members : List (String × Json)) : List (String × Json) :=
  members.insertionSort fun a b => keyLe a b

mutual

/-- Objects sorted by key at every depth; array order and scalars are kept. -/
def canonicalize : Json → Json
  | .arr items => .arr (canonicalizeItems items)
  | .obj members => .obj (sortMembers (canonicalizeMembers members))
  | scalar => scalar

/-- `canonicalize` on the items of an array. -/
def canonicalizeItems : List Json → List Json
  | [] => []
  | v :: items => canonicalize v :: canonicalizeItems items

/-- `canonicalize` on the values of an object. -/
def canonicalizeMembers : List (String × Json) → List (String × Json)
  | [] => []
  | (key, v) :: members => (key, canonicalize v) :: canonicalizeMembers members

end

/-! ### Compact encoding -/

/-- The two lower-case hexadecimal digits of a control character. -/
def hexByte (n : ℕ) : String :=
  String.ofList [Nat.digitChar (n / 16), Nat.digitChar (n % 16)]

/-- A character inside a JSON string, escaped where serde_json escapes it. -/
def escape (c : Char) : String :=
  if c = '"' then "\\\""
  else if c = '\\' then "\\\\"
  else if c.toNat = 8 then "\\b"
  else if c.toNat = 9 then "\\t"
  else if c.toNat = 10 then "\\n"
  else if c.toNat = 12 then "\\f"
  else if c.toNat = 13 then "\\r"
  else if c.toNat < 32 then "\\u00" ++ hexByte c.toNat
  else String.ofList [c]

/-- A JSON string literal. -/
def quote (s : String) : String := "\"" ++ String.join (s.toList.map escape) ++ "\""

mutual

/-- The compact text of a value. -/
def encode : Json → String
  | .null => "null"
  | .bool true => "true"
  | .bool false => "false"
  | .num text => text
  | .str s => quote s
  | .arr items => "[" ++ encodeItems items ++ "]"
  | .obj members => "\x7b" ++ encodeMembers members ++ "\x7d"

/-- Array items, separated by commas. -/
def encodeItems : List Json → String
  | [] => ""
  | [v] => encode v
  | v :: w :: items => encode v ++ "," ++ encodeItems (w :: items)

/-- Object members, separated by commas. -/
def encodeMembers : List (String × Json) → String
  | [] => ""
  | [(key, v)] => quote key ++ ":" ++ encode v
  | (key, v) :: m :: members => quote key ++ ":" ++ encode v ++ "," ++ encodeMembers (m :: members)

end

/-- The canonical compact text. -/
def canonicalJson (v : Json) : String := (canonicalize v).encode

/-- The length in bytes of the canonical compact text. -/
def canonicalJsonBytes (v : Json) : ℕ := (canonicalJson v).utf8ByteSize

example : canonicalJson (.obj [("b", .arr [.null, .str "a\"c"]), ("a", .bool true)])
    = "\x7b\"a\":true,\"b\":[null,\"a\\\"c\"]\x7d" := by decide

end Json

end PgMcp
