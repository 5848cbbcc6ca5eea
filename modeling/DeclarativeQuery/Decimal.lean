import DeclarativeQuery.Text.Case
import DeclarativeQuery.Text.Numeral

/-!
Doubles, how they are read from decimal numerals, and how they are written with the fewest digits
that read back as the same double. They are kept as their 64 bits, so that two of them are equal
exactly when they are the same: zero and minus zero differ. A finite one is a whole significand
times a power of two.
-/

namespace DeclarativeQuery.Decimal

structure Binary64 where
  bits : UInt64
  deriving DecidableEq

namespace Binary64

def ofFloat (value : Float) : Binary64 := ⟨value.toBits⟩

def toFloat (value : Binary64) : Float := Float.ofBits value.bits

def isNegative (value : Binary64) : Bool := 0x8000000000000000 ≤ value.bits.toNat

def leadingBit : Nat := 0x10000000000000

def fractionField (value : Binary64) : Nat := value.bits.toNat % leadingBit

def exponentField (value : Binary64) : Nat := value.bits.toNat / leadingBit % 0x800

def significand (value : Binary64) : Nat :=
  if value.exponentField = 0 then value.fractionField else leadingBit + value.fractionField

def scale (value : Binary64) : Int :=
  if value.exponentField = 0 then -1074 else value.exponentField - 1075

def opensBinade (value : Binary64) : Bool :=
  value.fractionField == 0 && 1 < value.exponentField

end Binary64

/-!
Reading a decimal number of the form significand times a power of ten. The significand is rounded to
a double once and then multiplied or divided by the double nearest to the power of ten; powers
below what a double can hold are divided off in steps.
-/

def greatestPower : Nat := 308

def powerOfTen (exponent : Nat) : Float := Float.ofScientific 1 false exponent

def dividedByPower (value : Float) (exponent : Nat) : Float :=
  if exponent ≤ greatestPower then value / powerOfTen exponent
  else if value == 0 then value
  else dividedByPower (value / powerOfTen greatestPower) (exponent - greatestPower)
termination_by exponent
decreasing_by simp [greatestPower] at *; omega

def ofScaled? (isNegative : Bool) (significand : UInt64) (exponent : Int) : Option Binary64 :=
  let start := significand.toFloat
  let magnitude :=
    if exponent < 0 then some (dividedByPower start exponent.natAbs)
    else if exponent ≤ greatestPower then
      let product := start * powerOfTen exponent.natAbs
      if product.isInf then none else some product
    else if start == 0 then some start else none
  magnitude.map fun value => Binary64.ofFloat (if isNegative then -value else value)

/-!
Numerals of doubles as settings write them: digits with or without a point and an exponent, or one
of the words for infinity and for what is no number, in any case. A sign may come first.
-/

/-- Beyond these a number is certainly infinite or zero as a double. -/
def exponentBound : Int := 400

def nearestDouble (significand : Nat) (exponent : Int) : Float :=
  let leading := exponent + (Nat.toDigits 10 significand).length
  if significand = 0 ∨ leading < -exponentBound then 0
  else if exponentBound < leading then Float.ofScientific 1 false exponentBound.toNat
  else Float.ofScientific significand (exponent < 0) exponent.natAbs

def readExponent : List Char → Option Int
  | [] => some 0
  | mark :: rest => if mark = 'e' ∨ mark = 'E' then Text.readSigned rest else none

def readMagnitude (text : List Char) : Option Float :=
  let (whole, rest) := text.span Char.isDigit
  let (fraction, rest) := match rest with
    | '.' :: rest => rest.span Char.isDigit
    | _ => ([], rest)
  match Text.readDigits (whole ++ fraction), readExponent rest with
  | some significand, some exponent => some (nearestDouble significand (exponent - fraction.length))
  | _, _ => none

def infinityWords : List String := ["inf", "infinity"]

def readUnsigned (text : List Char) : Option Float :=
  let word := String.ofList text
  if infinityWords.any (Text.equalIgnoringCase word) then some (1.0 / 0.0)
  else if Text.equalIgnoringCase word "nan" then some (0.0 / 0.0)
  else readMagnitude text

def readDouble : List Char → Option Float
  | '+' :: rest => readUnsigned rest
  | '-' :: rest => (readUnsigned rest).map fun value => -value
  | text => readUnsigned text

/-!
The fewest decimal digits that read back as a given double. Reals between the midpoints to the two
neighbouring doubles read back as it, the midpoints themselves exactly when its significand is
even. On the grid of the multiples of each power of ten, coarsest first, the two grid points next
to the value are tried; the first grid with a hit wins, of two hits the nearer, of a tie the even.
-/

structure Digits where
  digits : Nat
  exponent : Int
  deriving DecidableEq

/-- A positive rational and the ends of the interval that reads back as it, over one denominator. -/
structure Interval where
  value : Nat
  low : Nat
  high : Nat
  denominator : Nat
  closed : Bool

namespace Interval

/-- Numerators are counted in quarters of the last binary place. -/
def ofBinary64 (double : Binary64) : Interval :=
  let quarters := double.scale - 2
  let up := Nat.pow 2 quarters.toNat
  let value := 4 * double.significand
  { value := value * up
    low := (if double.opensBinade then value - 1 else value - 2) * up
    high := (value + 2) * up
    denominator := Nat.pow 2 (-quarters).toNat
    closed := double.significand % 2 == 0 }

def leadingExponent (interval : Interval) : Int :=
  if interval.denominator ≤ interval.value then
    (Nat.toDigits 10 (interval.value / interval.denominator)).length - 1
  else
    let inverse := (interval.denominator + interval.value - 1) / interval.value
    let places := (Nat.toDigits 10 (inverse - 1)).length
    (-places : Int)

def scaled (interval : Interval) (exponent : Int) : Interval :=
  let up := Nat.pow 10 (-exponent).toNat
  { interval with
    value := interval.value * up
    low := interval.low * up
    high := interval.high * up
    denominator := interval.denominator * Nat.pow 10 exponent.toNat }

def contains (interval : Interval) (point : Nat) : Bool :=
  let point := point * interval.denominator
  if interval.closed then interval.low ≤ point && point ≤ interval.high
  else interval.low < point && point < interval.high

def nearest? (interval : Interval) : Option Nat :=
  let below := interval.value / interval.denominator
  let above := below + 1
  let pastBelow := interval.value % interval.denominator
  match interval.contains below, interval.contains above with
  | true, false => some below
  | false, true => some above
  | false, false => none
  | true, true =>
      if 2 * pastBelow < interval.denominator then some below
      else if interval.denominator < 2 * pastBelow then some above
      else if below % 2 = 0 then some below else some above

def search (interval : Interval) (exponent : Int) : Nat → Digits
  | 0 => ⟨0, 0⟩
  | fuel + 1 =>
      match (interval.scaled exponent).nearest? with
      | some digits => ⟨digits, exponent⟩
      | none => search interval (exponent - 1) fuel

end Interval

def enoughDigits : Nat := 18

def shortest (double : Binary64) : Digits :=
  let interval := Interval.ofBinary64 double
  interval.search interval.leadingExponent enoughDigits

/-!
How the digits of a double are written out. A layout fixes which exponents of the first digit are
written in place and whether a whole number keeps `.0`; any other exponent is written after an `e`,
with its sign and no padding.
-/

structure Layout where
  /-- Exponents of the first digit that are written in place; `none` admits all of them. -/
  inPlace : Option (Int × Int)
  keepsPoint : Bool

namespace Layout

def placesInline (layout : Layout) (exponent : Int) : Bool :=
  match layout.inPlace with
  | none => true
  | some (least, greatest) => least ≤ exponent && exponent ≤ greatest

def zeros (count : Nat) : List Char := List.replicate count '0'

def inlineText (layout : Layout) (digits : List Char) (exponent : Int) : List Char :=
  if exponent < 0 then
    '0' :: '.' :: zeros (-exponent - 1).toNat ++ digits
  else
    let whole := exponent.toNat + 1
    let fraction := digits.drop whole
    let padded := digits.take whole ++ zeros (whole - digits.length)
    if !fraction.isEmpty then padded ++ '.' :: fraction
    else if layout.keepsPoint then padded ++ ['.', '0'] else padded

def exponentText (digits : List Char) (exponent : Int) : List Char :=
  let fraction := digits.drop 1
  let mantissa := digits.take 1 ++ if fraction.isEmpty then [] else '.' :: fraction
  let sign := if exponent < 0 then '-' else '+'
  mantissa ++ 'e' :: sign :: Nat.toDigits 10 exponent.natAbs

def significantDigits (digits : Nat) : List Char :=
  ((Nat.toDigits 10 digits).reverse.dropWhile (· == '0')).reverse

def magnitudeText (layout : Layout) (double : Binary64) : List Char :=
  if double.significand = 0 then
    if layout.keepsPoint then ['0', '.', '0'] else ['0']
  else
    let found := shortest double
    let digits := significantDigits found.digits
    let exponent := found.exponent + (Nat.toDigits 10 found.digits).length - 1
    if layout.placesInline exponent then layout.inlineText digits exponent
    else exponentText digits exponent

def text (layout : Layout) (double : Binary64) : String :=
  let magnitude := layout.magnitudeText double
  String.ofList (if double.isNegative then '-' :: magnitude else magnitude)

end Layout

end DeclarativeQuery.Decimal
