import ScanAudit.Text.Layout

/-!
# JSON texts

The exports are JSON. A value is written over several lines: each element of an array
and each member of an object stands on a line of its own, indented by two blanks per
level, an empty array or object stands on one line, and nothing follows the last
bracket. Members are kept in the order of their keys (`ScanAudit.Json.ofMembers`), so
one value has one text.

A text is produced as the list of its pieces (`ScanAudit.Json.pieces`), in the order in
which they are written.
-/

namespace ScanAudit

/-- **A JSON value**, with natural numbers as its only numbers. -/
inductive Json
  /-- No value. -/
  | null
  /-- A truth value. -/
  | bool (value : Bool)
  /-- A number. -/
  | number (value : Nat)
  /-- A text. -/
  | string (value : String)
  /-- A sequence of values. -/
  | array (items : List Json)
  /-- Values under keys. -/
  | object (members : List (String × Json))

namespace Json

/-! ### Members in key order -/

/-- A member put at its place among members in key order; it takes the place of a member
with the same key. -/
def insertMember (key : String) (value : Json) : List (String × Json) → List (String × Json)
  | [] => [(key, value)]
  | (k, v) :: rest =>
    if key < k then (key, value) :: (k, v) :: rest
    else if key = k then (key, value) :: rest
    else (k, v) :: insertMember key value rest

/-- **An object** with the given members, whatever their order. -/
def ofMembers (members : List (String × Json)) : Json :=
  object (members.foldl (fun sorted m => insertMember m.1 m.2 sorted) [])

/-! ### Strings -/

/-- A control character by its code, in four hexadecimal digits. -/
def controlEscape (c : Char) : List Char :=
  let digits := Nat.toDigits 16 c.toNat
  '\\' :: 'u' :: (List.replicate (4 - digits.length) '0' ++ digits)

/-- **The spelling of a character** in a JSON string: the quote, the backslash and the
controls below the blank are escaped, by a letter where there is one. -/
def spell (c : Char) : List Char :=
  match c with
  | '"' => ['\\', '"']
  | '\\' => ['\\', '\\']
  | '\x08' => ['\\', 'b']
  | '\t' => ['\\', 't']
  | '\n' => ['\\', 'n']
  | '\x0c' => ['\\', 'f']
  | '\r' => ['\\', 'r']
  | c => if c.toNat < 0x20 then controlEscape c else [c]

/-- A text as a JSON string. -/
def quote (text : String) : String :=
  "\"" ++ String.ofList (text.toList.flatMap spell) ++ "\""

/-! ### Values over several lines -/

/-- What comes before an element: the first one follows the opening bracket, each other
one a comma, and all stand on a new line. -/
def separator (first : Bool) (depth : Nat) : String :=
  (if first then "\n" else ",\n") ++ Layout.blanks (2 * depth)

/-- What comes before the closing bracket of a nonempty value at the given depth. -/
def lastBreak (depth : Nat) : String :=
  "\n" ++ Layout.blanks (2 * depth)

mutual

/-- **The pieces of a value's text**, in order; `depth` is the level at which its own
closing bracket stands. -/
def pieces (depth : Nat) : Json → List String
  | null => ["null"]
  | bool value => [if value then "true" else "false"]
  | number value => [Decimal.plain value]
  | string value => [quote value]
  | array [] => ["[]"]
  | array (x :: xs) => "[" :: itemPieces true (depth + 1) (x :: xs) ++ [lastBreak depth, "]"]
  | object [] => ["\x7b\x7d"]
  | object (m :: ms) =>
    "\x7b" :: memberPieces true (depth + 1) (m :: ms) ++ [lastBreak depth, "\x7d"]

/-- The pieces of the elements of an array. -/
def itemPieces (first : Bool) (depth : Nat) : List Json → List String
  | [] => []
  | x :: xs => separator first depth :: pieces depth x ++ itemPieces false depth xs

/-- The pieces of the members of an object. -/
def memberPieces (first : Bool) (depth : Nat) : List (String × Json) → List String
  | [] => []
  | (key, value) :: ms =>
    separator first depth :: quote key :: ": " :: pieces depth value ++
      memberPieces false depth ms

end

/-- **The text of a value.** -/
def text (value : Json) : String :=
  String.join (value.pieces 0)

end Json

end ScanAudit
