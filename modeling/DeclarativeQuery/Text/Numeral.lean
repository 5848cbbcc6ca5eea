/-!
Decimal numerals of bounded integers, and points in time. A numeral is an optional sign and at least
one ASCII digit; leading zeros are allowed, blanks are not. A value outside the bounds is refused,
never wrapped.
-/

namespace DeclarativeQuery.Text

def digitValue? (c : Char) : Option Nat :=
  if c.isDigit then some (c.toNat - '0'.toNat) else none

def readDigitsFrom (start : Nat) : List Char → Option Nat
  | [] => some start
  | c :: rest =>
      match digitValue? c with
      | some value => readDigitsFrom (10 * start + value) rest
      | none => none

def readDigits : List Char → Option Nat
  | [] => none
  | text => readDigitsFrom 0 text

def maxInt64 : Int := 0x7fffffffffffffff

def minInt64 : Int := -0x8000000000000000

def maxNat64 : Nat := 0xffffffffffffffff

def readSigned : List Char → Option Int
  | '+' :: rest => (readDigits rest).map Int.ofNat
  | '-' :: rest => (readDigits rest).map fun value => -(value : Int)
  | text => (readDigits text).map Int.ofNat

def readInt64 (text : List Char) : Option Int :=
  match readSigned text with
  | some value => if minInt64 ≤ value ∧ value ≤ maxInt64 then some value else none
  | none => none

def readNat64 (text : List Char) : Option Nat :=
  let digits := match text with
    | '+' :: rest => rest
    | _ => text
  match readDigits digits with
  | some value => if value ≤ maxNat64 then some value else none
  | none => none

def natDigits (value : Nat) : List Char := Nat.toDigits 10 value

def intDigits (value : Int) : List Char :=
  if value < 0 then '-' :: natDigits value.natAbs else natDigits value.natAbs

def natText (value : Nat) : String := String.ofList (natDigits value)

def intText (value : Int) : String := String.ofList (intDigits value)

/-!
Points in time and their RFC 3339 text in universal time. Days are counted in the Gregorian
calendar, extended to all years; in it four hundred years have 146097 days, and counting years from
the first of March puts the leap day at the end of the year.
-/

/-- Seconds since the start of 1970 and nanoseconds into that second. A billion nanoseconds or more
stand for the leap second that follows it. -/
structure Timestamp where
  seconds : Int
  nanoseconds : Nat := 0

structure Date where
  year : Int
  month : Nat
  day : Nat
  deriving DecidableEq

namespace Date

def daysInEra : Int := 146097

def epochOffset : Int := 719468

def ofDays (days : Int) : Date :=
  let shifted := days + epochOffset
  let era := shifted.fdiv daysInEra
  let dayOfEra := (shifted.fmod daysInEra).toNat
  let yearOfEra := (dayOfEra - dayOfEra / 1460 + dayOfEra / 36524 - dayOfEra / 146096) / 365
  let dayOfYear := dayOfEra - (365 * yearOfEra + yearOfEra / 4 - yearOfEra / 100)
  let fromMarch := (5 * dayOfYear + 2) / 153
  let month := if fromMarch < 10 then fromMarch + 3 else fromMarch - 9
  { year := yearOfEra + era * 400 + if month ≤ 2 then 1 else 0
    month
    day := dayOfYear - (153 * fromMarch + 2) / 5 + 1 }

end Date

namespace Timestamp

def padded (width value : Nat) : List Char :=
  let digits := natDigits value
  List.replicate (width - digits.length) '0' ++ digits

def yearDigits (year : Int) : List Char :=
  if 0 ≤ year ∧ year ≤ 9999 then padded 4 year.natAbs
  else (if year < 0 then '-' else '+') :: padded 4 year.natAbs

def fractionDigits (nanoseconds : Nat) : List Char :=
  if nanoseconds = 0 then []
  else if nanoseconds % 1000000 = 0 then '.' :: padded 3 (nanoseconds / 1000000)
  else if nanoseconds % 1000 = 0 then '.' :: padded 6 (nanoseconds / 1000)
  else '.' :: padded 9 nanoseconds

def characters (timestamp : Timestamp) : List Char :=
  let date := Date.ofDays (timestamp.seconds.fdiv 86400)
  let secondOfDay := (timestamp.seconds.fmod 86400).toNat
  let leap := timestamp.nanoseconds / 1000000000
  yearDigits date.year ++ '-' :: padded 2 date.month ++ '-' :: padded 2 date.day ++
    'T' :: padded 2 (secondOfDay / 3600) ++ ':' :: padded 2 (secondOfDay / 60 % 60) ++
    ':' :: padded 2 (secondOfDay % 60 + leap) ++
    fractionDigits (timestamp.nanoseconds % 1000000000) ++ ['+', '0', '0', ':', '0', '0']

def text (timestamp : Timestamp) : String := String.ofList timestamp.characters

end Timestamp

end DeclarativeQuery.Text
