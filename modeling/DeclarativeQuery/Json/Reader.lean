import DeclarativeQuery.Decimal
import DeclarativeQuery.Json.Basic
import DeclarativeQuery.Text.Numeral

/-!
Reading a value from its text. Containers may be nested one hundred and twenty-seven deep. Of two
entries with one key the later value stands, in the place of the earlier. Control characters
inside strings, unpaired surrogates, superfluous zeros in front of a number and anything but
blanks after the value are refused.
-/

namespace DeclarativeQuery.Json

abbrev Reader (α : Type) := List Char → Option (α × List Char)

def isGap (c : Char) : Bool := c == ' ' || c == '\n' || c == '\t' || c == '\r'

def skipGap (text : List Char) : List Char := text.dropWhile isGap

/-! Numbers. -/

def spanDigits (text : List Char) : List Char × List Char := text.span Char.isDigit

def appendDigit? (significand : Nat) (digit : Char) : Option Nat :=
  let next := 10 * significand + (digit.toNat - '0'.toNat)
  if next ≤ Text.maxNat64 then some next else none

/-- Takes digits in as long as the significand fits into 64 bits; the second part counts them. -/
def takeDigits (significand count : Nat) : List Char → Nat × Nat
  | [] => (significand, count)
  | digit :: rest =>
      match appendDigit? significand digit with
      | some next => takeDigits next (count + 1) rest
      | none => (significand, count)

structure NumberParts where
  isNegative : Bool
  whole : List Char
  fraction : List Char
  exponentNegative : Bool
  exponent : List Char

def readWholePart : Reader (List Char) := fun text =>
  match spanDigits text with
  | ([], _) => none
  | (['0'], rest) => some (['0'], rest)
  | ('0' :: _, _) => none
  | (digits, rest) => some (digits, rest)

def readFractionPart : Reader (List Char)
  | '.' :: rest =>
      match spanDigits rest with
      | ([], _) => none
      | (digits, rest) => some (digits, rest)
  | text => some ([], text)

def readExponentPart : Reader (Bool × List Char) := fun text =>
  match text with
  | c :: rest =>
      if c = 'e' ∨ c = 'E' then
        let (isNegative, rest) := match rest with
          | '+' :: rest => (false, rest)
          | '-' :: rest => (true, rest)
          | _ => (false, rest)
        match spanDigits rest with
        | ([], _) => none
        | (digits, rest) => some ((isNegative, digits), rest)
      else some ((false, []), text)
  | [] => some ((false, []), text)

def readNumberParts : Reader NumberParts := fun text => do
  let (isNegative, text) := match text with
    | '-' :: rest => (true, rest)
    | _ => (false, text)
  let (whole, text) ← readWholePart text
  let (fraction, text) ← readFractionPart text
  let ((exponentNegative, exponent), text) ← readExponentPart text
  return (⟨isNegative, whole, fraction, exponentNegative, exponent⟩, text)

namespace NumberParts

/-- Digits past a 64-bit significand count as zeros before the point and are dropped after it. -/
def toDouble? (parts : NumberParts) : Option Decimal.Binary64 :=
  let (whole, taken) := takeDigits 0 0 parts.whole
  let (significand, places) := takeDigits whole 0 parts.fraction
  let written : Int := ((Text.readDigits parts.exponent).getD 0 : Nat)
  let exponent := if parts.exponentNegative then -written else written
  Decimal.ofScaled? parts.isNegative significand.toUInt64
    (exponent + (parts.whole.length - taken : Nat) - places)

/-- Without fraction and exponent, and within 64 bits, the number is whole; minus zero is not. -/
def toWhole? (parts : NumberParts) : Option Int :=
  if parts.fraction.isEmpty && parts.exponent.isEmpty then
    match Text.readDigits parts.whole with
    | some value =>
        if parts.isNegative then
          if value ≠ 0 ∧ Text.minInt64 ≤ -(value : Int) then some (-(value : Int)) else none
        else if value ≤ Text.maxNat64 then some value else none
    | none => none
  else none

def toNumber? (parts : NumberParts) : Option Number :=
  match parts.toWhole? with
  | some value => some (.whole value)
  | none => parts.toDouble?.map .double

end NumberParts

def readNumber : Reader Number := fun text => do
  let (parts, rest) ← readNumberParts text
  return (← parts.toNumber?, rest)

/-! Strings. -/

def hexValue? (c : Char) : Option Nat :=
  if c.isDigit then some (c.toNat - '0'.toNat)
  else if 'a' ≤ c ∧ c ≤ 'f' then some (c.toNat - 'a'.toNat + 10)
  else if 'A' ≤ c ∧ c ≤ 'F' then some (c.toNat - 'A'.toNat + 10)
  else none

def readHexQuad : Reader Nat
  | a :: b :: c :: d :: rest => do
      let a ← hexValue? a
      let b ← hexValue? b
      let c ← hexValue? c
      let d ← hexValue? d
      return (((a * 16 + b) * 16 + c) * 16 + d, rest)
  | _ => none

def readUnicodeEscape : Reader Char := fun text => do
  let (code, rest) ← readHexQuad text
  if 0xd800 ≤ code ∧ code ≤ 0xdbff then
    match rest with
    | '\\' :: 'u' :: rest => do
        let (low, rest) ← readHexQuad rest
        if 0xdc00 ≤ low ∧ low ≤ 0xdfff then
          return (Char.ofNat (0x10000 + (code - 0xd800) * 0x400 + (low - 0xdc00)), rest)
        else none
    | _ => none
  else if 0xdc00 ≤ code ∧ code ≤ 0xdfff then none
  else return (Char.ofNat code, rest)

def readEscape : Reader Char
  | '"' :: rest => some ('"', rest)
  | '\\' :: rest => some ('\\', rest)
  | '/' :: rest => some ('/', rest)
  | 'b' :: rest => some ('\x08', rest)
  | 'f' :: rest => some ('\x0c', rest)
  | 'n' :: rest => some ('\n', rest)
  | 'r' :: rest => some ('\r', rest)
  | 't' :: rest => some ('\t', rest)
  | 'u' :: rest => readUnicodeEscape rest
  | _ => none

def readStringRest (seen : List Char) : Nat → Reader String
  | 0, _ => none
  | _ + 1, [] => none
  | fuel + 1, c :: rest =>
      if c = '"' then some (String.ofList seen.reverse, rest)
      else if c = '\\' then
        match readEscape rest with
        | some (decoded, rest) => readStringRest (decoded :: seen) fuel rest
        | none => none
      else if c.toNat < 0x20 then none
      else readStringRest (c :: seen) fuel rest

def readString (text : List Char) : Option (String × List Char) :=
  readStringRest [] (text.length + 1) text

/-! Values. -/

def readWord (word : String) (value : Json) : Reader Json := fun text =>
  if word.toList.isPrefixOf text then some (value, text.drop word.length) else none

def depthLimit : Nat := 128

mutual

/-- `depth` containers may still be opened; `fuel` bounds the number of steps. -/
def readValue (depth : Nat) : Nat → Reader Json
  | 0, _ => none
  | fuel + 1, text =>
      match skipGap text with
      | '"' :: rest => (readString rest).map fun (value, rest) => (.string value, rest)
      | '[' :: rest =>
          if depth ≤ 1 then none
          else match skipGap rest with
            | ']' :: rest => some (.array [], rest)
            | rest =>
                (readItems (depth - 1) fuel rest).map fun (items, rest) => (.array items, rest)
      | '{' :: rest =>
          if depth ≤ 1 then none
          else match skipGap rest with
            | '}' :: rest => some (.object [], rest)
            | rest => (readEntries (depth - 1) [] fuel rest).map fun (entries, rest) =>
                (.object entries, rest)
      | 'n' :: rest => readWord "null" .null ('n' :: rest)
      | 't' :: rest => readWord "true" (.bool true) ('t' :: rest)
      | 'f' :: rest => readWord "false" (.bool false) ('f' :: rest)
      | rest => (readNumber rest).map fun (value, rest) => (.number value, rest)

def readItems (depth : Nat) : Nat → Reader (List Json)
  | 0, _ => none
  | fuel + 1, text =>
      match readValue depth fuel text with
      | some (item, rest) =>
          match skipGap rest with
          | ',' :: rest =>
              (readItems depth fuel rest).map fun (items, rest) => (item :: items, rest)
          | ']' :: rest => some ([item], rest)
          | _ => none
      | none => none

def readEntries (depth : Nat) (seen : List (String × Json)) : Nat → Reader (List (String × Json))
  | 0, _ => none
  | fuel + 1, text =>
      match skipGap text with
      | '"' :: rest =>
          match readString rest with
          | some (key, rest) =>
              match skipGap rest with
              | ':' :: rest =>
                  match readValue depth fuel rest with
                  | some (value, rest) =>
                      let seen := Entries.put key value seen
                      match skipGap rest with
                      | ',' :: rest => readEntries depth seen fuel rest
                      | '}' :: rest => some (seen, rest)
                      | _ => none
                  | none => none
              | _ => none
          | none => none
      | _ => none

end

/-- A step takes a character or follows one that did, which bounds their number. -/
def read? (text : String) : Option Json :=
  let characters := text.toList
  match readValue depthLimit (2 * characters.length + 2) characters with
  | some (value, rest) => if (skipGap rest).isEmpty then some value else none
  | none => none

end DeclarativeQuery.Json
