import ScanAudit.Json

/-!
# Reading JSON texts

A text is read in two walks, both from the left and without a look ahead. The first one cuts
it into tokens (`ScanAudit.Json.lex`), the second one puts the tokens together with a stack
of the brackets that are open (`ScanAudit.Json.assemble`).

The reader takes more texts than are written here: there may be blanks, tabs and line breaks
between any two tokens, members may come in any order, and a character of a string may be
escaped whether it has to be or not. It knows no other numbers than `ScanAudit.Json` has, so
a sign, a fraction and an exponent are refused, and so is the escape of half a surrogate
pair. Members are kept as they come, also when two of them have the same key.
-/

namespace ScanAudit.Json

/-! ### Tokens -/

/-- **A token** of a JSON text. -/
inductive Token
  /-- The bracket that opens an array. -/
  | openArray
  /-- The bracket that closes an array. -/
  | closeArray
  /-- The brace that opens an object. -/
  | openObject
  /-- The brace that closes an object. -/
  | closeObject
  /-- A comma. -/
  | comma
  /-- A colon. -/
  | colon
  /-- The word for no value. -/
  | null
  /-- One of the words for a truth value. -/
  | bool (value : Bool)
  /-- A numeral. -/
  | number (value : Nat)
  /-- A quoted text. -/
  | string (value : String)

/-- **Where a walk over the characters stands.** What has been read of a token is kept with
the latest character first. -/
inductive Lexing
  /-- Between two tokens. -/
  | between
  /-- In one of the three words: the letter to come, what is left after it, and the token. -/
  | word (next : Char) (left : List Char) (token : Token)
  /-- In a numeral. -/
  | number (digits : List Char)
  /-- In a string. -/
  | string (read : List Char)
  /-- In a string, after a backslash. -/
  | escape (read : List Char)
  /-- In a string, in an escape by code: how many digits are left after the next one, and the
  value of the digits so far. -/
  | code (read : List Char) (left value : Nat)

/-- The value of a numeral, which must be the plain one of its number. -/
def numeral? (digits : List Char) : Option Nat :=
  let n := Nat.ofDigitChars 10 digits 0
  if Nat.toDigits 10 n = digits then some n else none

/-- The value of a hexadecimal digit. -/
def hexValue? (c : Char) : Option Nat :=
  if c.isDigit then some (c.toNat - '0'.toNat)
  else if 'a' ≤ c ∧ c ≤ 'f' then some (c.toNat - 'a'.toNat + 10)
  else if 'A' ≤ c ∧ c ≤ 'F' then some (c.toNat - 'A'.toNat + 10)
  else none

/-- The character with the given code, unless the code is half a surrogate pair. -/
def char? (code : Nat) : Option Char :=
  if code.isValidChar then some (Char.ofNat code) else none

/-- What a letter after a backslash stands for; the letter `u` is not one of these. -/
def unescape? : Char → Option Char
  | '"' => some '"'
  | '\\' => some '\\'
  | '/' => some '/'
  | 'b' => some '\x08'
  | 'f' => some '\x0c'
  | 'n' => some '\n'
  | 'r' => some '\r'
  | 't' => some '\t'
  | _ => none

namespace Lexing

/-- A character between two tokens: the token it is, and where it leads. -/
def start : Char → Option (List Token × Lexing)
  | ' ' | '\t' | '\n' | '\r' => some ([], between)
  | '[' => some ([.openArray], between)
  | ']' => some ([.closeArray], between)
  | '\x7b' => some ([.openObject], between)
  | '\x7d' => some ([.closeObject], between)
  | ',' => some ([.comma], between)
  | ':' => some ([.colon], between)
  | '"' => some ([], string [])
  | 'n' => some ([], word 'u' ['l', 'l'] .null)
  | 't' => some ([], word 'r' ['u', 'e'] (.bool true))
  | 'f' => some ([], word 'a' ['l', 's', 'e'] (.bool false))
  | c => if c.isDigit then some ([], number [c]) else none

/-- **One character of a walk**: the tokens it ends, and where it leads. A numeral is ended by
the first character that is no digit. -/
def step : Lexing → Char → Option (List Token × Lexing)
  | between, c => start c
  | word next left token, c =>
    if c = next then
      match left with
      | [] => some ([token], between)
      | next :: left => some ([], word next left token)
    else none
  | number digits, c =>
    if c.isDigit then some ([], number (c :: digits))
    else
      match numeral? digits.reverse, start c with
      | some n, some (tokens, next) => some (.number n :: tokens, next)
      | _, _ => none
  | string read, c =>
    if c = '"' then some ([.string (String.ofList read.reverse)], between)
    else if c = '\\' then some ([], escape read)
    else if c.toNat < 0x20 then none
    else some ([], string (c :: read))
  | escape read, c =>
    if c = 'u' then some ([], code read 3 0)
    else (unescape? c).map fun d => ([], string (d :: read))
  | code read left value, c =>
    match hexValue? c, left with
    | some d, left + 1 => some ([], code read left (16 * value + d))
    | some d, 0 => (char? (16 * value + d)).map fun e => ([], string (e :: read))
    | none, _ => none

/-- Where a text may end, and the token that is ended by that. -/
def finish : Lexing → Option (List Token)
  | between => some []
  | number digits => (numeral? digits.reverse).map fun n => [.number n]
  | _ => none

end Lexing

/-- **The tokens of a text.** -/
def lex : Lexing → List Char → Option (List Token)
  | state, [] => state.finish
  | state, c :: cs =>
    match state.step c with
    | some (tokens, next) => (lex next cs).map (tokens ++ ·)
    | none => none

/-! ### Values -/

/-- **A bracket that is open**, with what has been read behind it, the latest first. -/
inductive Frame
  /-- An array. -/
  | array (items : List Json)
  /-- An object, and the key of the value that is being read. -/
  | object (members : List (String × Json)) (key : String)

/-- **Where a walk over the tokens stands**, always with the brackets that are open, the
innermost first. -/
inductive Place
  /-- Where a value has to come. -/
  | value (frames : List Frame)
  /-- Behind the bracket that opens an array. -/
  | firstItem (frames : List Frame)
  /-- Behind the brace that opens an object. -/
  | firstKey (frames : List Frame)
  /-- Where a key has to come. -/
  | key (members : List (String × Json)) (frames : List Frame)
  /-- Where a colon has to come. -/
  | colon (members : List (String × Json)) (key : String) (frames : List Frame)
  /-- Behind a value. -/
  | behind (value : Json) (frames : List Frame)

namespace Place

/-- A token where a value has to come. -/
def begin (frames : List Frame) : Token → Option Place
  | .null => some (behind .null frames)
  | .bool b => some (behind (.bool b) frames)
  | .number n => some (behind (.number n) frames)
  | .string s => some (behind (.string s) frames)
  | .openArray => some (firstItem frames)
  | .openObject => some (firstKey frames)
  | _ => none

/-- **One token of a walk**, and where it leads. -/
def step : Place → Token → Option Place
  | value frames, t => begin frames t
  | firstItem frames, .closeArray => some (behind (.array []) frames)
  | firstItem frames, t => begin (.array [] :: frames) t
  | firstKey frames, .closeObject => some (behind (.object []) frames)
  | firstKey frames, .string k => some (colon [] k frames)
  | key members frames, .string k => some (colon members k frames)
  | colon members k frames, .colon => some (value (.object members k :: frames))
  | behind v (.array items :: frames), .comma => some (value (.array (v :: items) :: frames))
  | behind v (.array items :: frames), .closeArray =>
    some (behind (.array (v :: items).reverse) frames)
  | behind v (.object members k :: frames), .comma => some (key ((k, v) :: members) frames)
  | behind v (.object members k :: frames), .closeObject =>
    some (behind (.object ((k, v) :: members).reverse) frames)
  | _, _ => none

end Place

/-- **The value of a sequence of tokens**, when nothing is left open and nothing is left
over. -/
def assemble : Place → List Token → Option Json
  | .behind v [], [] => some v
  | _, [] => none
  | place, t :: ts =>
    match place.step t with
    | some next => assemble next ts
    | none => none

/-- **Reading a text**: the value it stands for, and nothing if it is no JSON text. -/
def read? (text : String) : Option Json :=
  (lex .between text.toList).bind (assemble (.value []))

end ScanAudit.Json
