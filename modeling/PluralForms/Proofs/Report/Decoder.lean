/-
# Decoding JSON

A decoder for all of JSON, as any reader of a report would use one.  Whitespace may
stand around every value and every punctuation mark.  A literal holds no raw control character; its
escapes are the eight short ones and the code units, of which two may make one character.
Numerals have no leading zero.  The entries of an object are kept in the order in which they
stand.

The nesting of values has no bound in the language, so a decoder is given steps, one more
than the text has characters.
-/

import PluralForms.Number.Decimal
import PluralForms.Text.Json

namespace PluralForms.Text.Json

open Number

/-- What a JSON text stands for. -/
inductive Value
  | null
  | truth (value : Bool)
  | number (value : Decimal)
  | text (value : String)
  | array (elements : List Value)
  | object (entries : List (String × Value))
  deriving Repr

/-- Reads a part of a text and leaves the rest of it, or fails. -/
abbrev Decoder := StateT (List Char) Option

namespace Decoder

variable {α : Type}

/-- Reads the next character, whatever it is. -/
def next : Decoder Char
  | [] => none
  | c :: rest => some (c, rest)

/-- Looks at the next character and leaves it there. -/
def ahead : Decoder (Option Char) :=
  fun text => some (text.head?, text)

/-- Reads this very text. -/
def verbatim (expected : List Char) : Decoder Unit :=
  fun text =>
    if expected.isPrefixOf text then some ((), text.drop expected.length) else none

def isWhitespace (c : Char) : Bool :=
  c == ' ' || c == '\t' || c == '\n' || c == '\r'

def whitespace : Decoder Unit :=
  fun text => some ((), text.dropWhile isWhitespace)

/-- The value of a hexadecimal digit, which may be a small or a capital letter. -/
def hexDigitValue? (c : Char) : Option Nat :=
  if 48 ≤ c.toNat ∧ c.toNat ≤ 57 then some (c.toNat - 48)
  else if 97 ≤ c.toNat ∧ c.toNat ≤ 102 then some (c.toNat - 87)
  else if 65 ≤ c.toNat ∧ c.toNat ≤ 70 then some (c.toNat - 55)
  else none

/-- Reads a code unit of four hexadecimal digits. -/
def codeUnit : Decoder Nat :=
  fun text =>
    if (text.take 4).length = 4 then
      ((text.take 4).mapM hexDigitValue?).map fun digits =>
        (digits.foldl (fun value digit => 16 * value + digit) 0, text.drop 4)
    else none

/-- Reads a character given by its code unit, or by two of them that make a pair. -/
def codePoint : Decoder Char := do
  let high ← codeUnit
  if high < 0xD800 ∨ 0xE000 ≤ high then return Char.ofNat high
  guard (high < 0xDC00)
  verbatim ['\\', 'u']
  let low ← codeUnit
  guard (0xDC00 ≤ low ∧ low < 0xE000)
  return Char.ofNat (0x10000 + (high - 0xD800) * 0x400 + (low - 0xDC00))

/-- Reads what an escape stands for, behind its backslash. -/
def escape : Decoder Char := do
  match ← next with
  | '"' => return '"'
  | '\\' => return '\\'
  | '/' => return '/'
  | 'b' => return '\x08'
  | 'f' => return '\x0c'
  | 'n' => return '\n'
  | 'r' => return '\r'
  | 't' => return '\t'
  | 'u' => codePoint
  | _ => failure

/-- Reads a character of a literal, or the quotation mark that ends it. -/
def character : Decoder (Option Char) := do
  let c ← next
  if c = '"' then return none
  if c = '\\' then return some (← escape)
  guard (0x20 ≤ c.toNat)
  return some c

/-- Reads a literal behind its first quotation mark. -/
def characters : Nat → Decoder (List Char)
  | 0 => failure
  | steps + 1 => do
      match ← character with
      | none => return []
      | some c =>
          let others ← characters steps
          return c :: others

/-- Reads a literal. -/
def literal (steps : Nat) : Decoder String := do
  verbatim ['"']
  let text ← characters steps
  return String.ofList text

/-- Reads a minus sign, if there is one. -/
def minus : Decoder Bool :=
  fun text => some (spanMinus text)

/-- Reads one digit or more. -/
def digits : Decoder (List Char) :=
  fun text => if (spanDigits text).1.isEmpty then none else some (spanDigits text)

/-- Reads the digits behind a decimal point, if there is one. -/
def fraction : Decoder (List Char) := do
  match ← ahead with
  | some '.' => verbatim ['.']; digits
  | _ => return []

/-- Reads an exponent, if there is one. -/
def exponent : Decoder Int := do
  match ← ahead with
  | some 'e' => verbatim ['e']; signedDigits
  | some 'E' => verbatim ['E']; signedDigits
  | _ => return 0
where
  signedDigits : Decoder Int := do
    match ← ahead with
    | some '+' => verbatim ['+']; return (numeralValue (← digits) : Int)
    | some '-' => verbatim ['-']; return -(numeralValue (← digits) : Int)
    | _ => return (numeralValue (← digits) : Int)

/-- Reads a number.  Its whole part is zero or starts with another digit. -/
def number : Decoder Value := do
  let negative ← minus
  let whole ← digits
  guard (whole.head? = some '0' → whole.length = 1)
  let fraction ← fraction
  let exponent ← exponent
  return .number
    (.finite negative (numeralValue (whole ++ fraction)) (exponent - fraction.length))

/-- Reads one item or more, with commas between them, and the mark that closes them. -/
def items (item : Decoder α) (close : Char) : Nat → Decoder (List α)
  | 0 => failure
  | steps + 1 => do
      whitespace
      let first ← item
      whitespace
      let mark ← next
      if mark = close then return [first]
      guard (mark = ',')
      let others ← items item close steps
      return first :: others

/-- Reads items up to the mark that closes them, none if it comes at once. -/
def enclosed (item : Decoder α) (close : Char) (steps : Nat) : Decoder (List α) := do
  whitespace
  if (← ahead) = some close then
    verbatim [close]
    return []
  items item close steps

/-- Reads a name, a colon and a value. -/
def member (steps : Nat) (value : Decoder Value) : Decoder (String × Value) := do
  let name ← literal steps
  whitespace
  verbatim [':']
  whitespace
  let found ← value
  return (name, found)

/-- Reads a value. -/
def value : Nat → Decoder Value
  | 0 => failure
  | steps + 1 => do
      match ← ahead with
      | some '"' => return .text (← literal steps)
      | some '\x7b' =>
          verbatim ['\x7b']
          return .object (← enclosed (member steps (value steps)) '\x7d' steps)
      | some '[' =>
          verbatim ['[']
          return .array (← enclosed (value steps) ']' steps)
      | some 't' => verbatim ['t', 'r', 'u', 'e']; return .truth true
      | some 'f' => verbatim ['f', 'a', 'l', 's', 'e']; return .truth false
      | some 'n' => verbatim ['n', 'u', 'l', 'l']; return .null
      | _ => number

end Decoder

end PluralForms.Text.Json
