/-
**The shortest numeral of a binary floating-point number.**

A finite number is `mantissa · 2 ^ exponent`. Every real in its interval of rounding reads back as
the number, the ends among them when the mantissa is even. Of the decimal grids with one digit,
two digits and so on, the first that has a point in the interval gives the numeral; of two such
points the nearer one.
-/

import GrokEvents.Text.Basic

namespace GrokEvents.Number

/-! ## Binary form -/

/-- A finite binary number without its sign. -/
structure Binary where
  mantissa : Nat
  exponent : Int
deriving DecidableEq, Repr

/-- What the sixty-four bits of a number stand for. -/
inductive Decoded where
  | nan
  | infinite (negative : Bool)
  | finite (negative : Bool) (value : Binary)
deriving DecidableEq, Repr

/-- The parts of a number with eleven exponent bits and fifty-two mantissa bits. -/
def decode (bits : Nat) : Decoded :=
  let negative := bits / Nat.pow 2 63 % 2 == 1
  let exponent : Nat := bits / Nat.pow 2 52 % Nat.pow 2 11
  let fraction := bits % Nat.pow 2 52
  if exponent = 2047 then
    if fraction = 0 then .infinite negative else .nan
  else if exponent = 0 then .finite negative ⟨fraction, -1074⟩
  else .finite negative ⟨Nat.pow 2 52 + fraction, (exponent : Int) - 1075⟩

/-! ## Decimal grids -/

/-- A power as a fraction: its numerator and its denominator. -/
def powerFraction (base : Nat) (exponent : Int) : Nat × Nat :=
  (Nat.pow base exponent.toNat, Nat.pow base (-exponent).toNat)

/-- A decimal numeral `digits · 10 ^ exponent`. -/
structure Numeral where
  digits : Nat
  exponent : Int
deriving DecidableEq, Repr

/-- The interval of rounding of a number, in quarters of its last place: the number itself, the
ends, and whether the ends belong to it. -/
structure Interval where
  value : Nat
  low : Nat
  high : Nat
  closed : Bool
  /-- The exponent of two of a quarter of the last place. -/
  unit : Int
deriving DecidableEq, Repr

/-- The interval of rounding. Below a power of two the numbers lie closer together. -/
def Binary.interval (number : Binary) : Interval :=
  let lower :=
    if number.mantissa = Nat.pow 2 52 && number.exponent != -1074 then 1 else 2
  ⟨4 * number.mantissa, 4 * number.mantissa - lower, 4 * number.mantissa + 2,
    number.mantissa % 2 == 0, number.exponent - 2⟩

/-- Whether a number of quarters, scaled by `scale`, lies in the interval. -/
def Interval.holds (interval : Interval) (scale point : Nat) : Bool :=
  if interval.closed then interval.low * scale ≤ point && point ≤ interval.high * scale
  else interval.low * scale < point && point < interval.high * scale

/-- The point of the grid with steps of `10 ^ step` that lies in the interval, the nearer one if
there are two, and the one with an even last digit if both are as near. -/
def Interval.pick? (interval : Interval) (step : Int) : Option Numeral :=
  let (twoUp, twoDown) := powerFraction 2 interval.unit
  let (tenUp, tenDown) := powerFraction 10 step
  let scale := twoUp * tenDown
  let grid := tenUp * twoDown
  let below := interval.value * scale / grid
  let belowHolds := interval.holds scale (below * grid)
  let aboveHolds := interval.holds scale ((below + 1) * grid)
  let toBelow := interval.value * scale - below * grid
  let toAbove := (below + 1) * grid - interval.value * scale
  if belowHolds && aboveHolds then
    if toBelow < toAbove || (toBelow == toAbove && below % 2 == 0) then some ⟨below, step⟩
    else some ⟨below + 1, step⟩
  else if belowHolds then some ⟨below, step⟩
  else if aboveHolds then some ⟨below + 1, step⟩
  else none

/-- The exponent of ten of the leading digit of a positive number, searched downwards. -/
def Interval.leading (interval : Interval) : Nat → Int → Int
  | 0, exponent => exponent
  | fuel + 1, exponent =>
    let (twoUp, twoDown) := powerFraction 2 interval.unit
    let (tenUp, tenDown) := powerFraction 10 exponent
    if tenUp * twoDown ≤ interval.value * twoUp * tenDown then exponent
    else interval.leading fuel (exponent - 1)

/-- The first of the grids with `count`, `count + 1`, … digits that has a point in the interval. -/
def Interval.shortestFrom (interval : Interval) (leading : Int) : Nat → Nat → Numeral
  | 0, count => ⟨interval.value, leading - count⟩
  | fuel + 1, count =>
    match interval.pick? (leading - count + 1) with
    | some numeral => numeral
    | none => interval.shortestFrom leading fuel (count + 1)

/-- A numeral less the zeros at its end. -/
def Numeral.trimmed : Nat → Numeral → Numeral
  | 0, numeral => numeral
  | fuel + 1, numeral =>
    if numeral.digits % 10 = 0 && numeral.digits != 0 then
      Numeral.trimmed fuel ⟨numeral.digits / 10, numeral.exponent + 1⟩
    else numeral

/-- The shortest numeral that reads back as a number. -/
def Binary.shortest (number : Binary) : Numeral :=
  if number.mantissa = 0 then ⟨0, 0⟩
  else
    let interval := number.interval
    let guess : Int := (Nat.log2 number.mantissa + 1 : Int) + number.exponent
    let top : Int := if guess ≤ 0 then guess * 3 / 10 + 1 else guess / 3 + 1
    (interval.shortestFrom (interval.leading 700 top) 17 1).trimmed 20

/-! ## Written form -/

/-- How numbers are written. -/
structure Style where
  /-- The least exponent of the leading digit that is written without an exponent. -/
  leastPositional : Int
  /-- The greatest exponent of the leading digit that is written without an exponent. -/
  mostPositional : Int
  nan : Text
  infinity : Text

/-- Positional between a ten-thousandth and ten quadrillion, with `.0` after a whole number; else
one digit before the point, and a signed exponent of at least two digits. -/
def Style.write (style : Style) (numeral : Numeral) : Text :=
  let digits := Text.ofNat numeral.digits
  let leading := numeral.exponent + digits.length - 1
  if style.leastPositional ≤ leading && leading ≤ style.mostPositional then
    if 0 ≤ numeral.exponent then
      digits ++ List.replicate numeral.exponent.toNat '0' ++ ['.', '0']
    else if 0 ≤ leading then
      digits.take (leading.toNat + 1) ++ '.' :: digits.drop (leading.toNat + 1)
    else
      ['0', '.'] ++ List.replicate (-leading - 1).toNat '0' ++ digits
  else
    let tail := if digits.length = 1 then [] else '.' :: digits.drop 1
    let sign := if leading < 0 then '-' else '+'
    digits.take 1 ++ tail ++ 'e' :: sign :: Text.padded 2 leading.natAbs

/-- The text of a number given by its bits. -/
def Style.ofBits (style : Style) (bits : Nat) : Text :=
  match decode bits with
  | .nan => style.nan
  | .infinite negative => (if negative then ['-'] else []) ++ style.infinity
  | .finite negative value =>
    (if negative then ['-'] else []) ++ style.write value.shortest

/-- Numbers inside messages. -/
def messageStyle : Style :=
  ⟨-4, 15, "nan".toList, "inf".toList⟩

/-- Numbers inside documents of objects and arrays. -/
def documentStyle : Style :=
  ⟨-4, 15, "NaN".toList, "Infinity".toList⟩

/-! ## Reading -/

/-- The number nearest to `digits · 10 ^ exponent`; magnitudes beyond all numbers are infinite,
those below all numbers zero. -/
def ofDecimal (digits : Nat) (exponent : Int) : Float :=
  let leading : Int := exponent + (Text.ofNat digits).length
  if digits = 0 || leading < -400 then 0.0
  else if 400 < leading then 1.0 / 0.0
  else if exponent < 0 then Float.ofScientific digits true (-exponent).toNat
  else Float.ofScientific digits false exponent.toNat

end GrokEvents.Number
