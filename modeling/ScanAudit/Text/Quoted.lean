import ScanAudit.Text.Glyphless

/-!
# Quoted text

A text quoted in a message stands between double quotes. Three kinds of characters
inside it are spelled by more than themselves, all of them starting with a backslash:

| character | spelling |
|---|---|
| the double quote and the backslash | a backslash before the character |
| NUL, tab, line feed, carriage return | a backslash and one of `0`, `t`, `n`, `r` |
| any other character without a glyph | `\u`, and the code in hexadecimal between braces |

The table of glyphless characters is a parameter of the spelling
(`ScanAudit.Quoted.spell`), because nothing that makes the spelling readable depends on
which characters are in it.
-/

namespace ScanAudit.Quoted

/-- **The spelling of a character by its code**: lower-case hexadecimal digits without
leading zeros, between braces. -/
def byCode (c : Char) : List Char :=
  '\\' :: 'u' :: '{' :: (Nat.toDigits 16 c.toNat ++ ['}'])

/-- **The letter of a named escape**, for the six characters that have one. -/
def named? : Char → Option Char
  | '"' => some '"'
  | '\\' => some '\\'
  | '\x00' => some '0'
  | '\t' => some 't'
  | '\n' => some 'n'
  | '\r' => some 'r'
  | _ => none

/-- **The spelling of one character** inside quotes. -/
def spell (glyphless : Char → Bool) (c : Char) : List Char :=
  match named? c with
  | some letter => ['\\', letter]
  | none => if glyphless c then byCode c else [c]

/-- The spellings of all characters of a text, in order. -/
def body (glyphless : Char → Bool) (cs : List Char) : List Char :=
  cs.flatMap (spell glyphless)

/-- **A text between quotes**, on one line whatever the text holds. -/
def quote (text : String) : String :=
  "\"" ++ String.ofList (body Glyphless.glyphless text.toList) ++ "\""

end ScanAudit.Quoted
