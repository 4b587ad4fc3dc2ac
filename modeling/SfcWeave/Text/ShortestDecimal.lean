/-!
# Shortest decimals

A binary floating-point number stands for all reals that round to it. `shortest?` finds, among the
decimals in that interval, the ones with the fewest digits, and of these the nearest to the number;
of two at the same distance the one with an even last digit. The search runs down the powers of
ten and is exact.
-/

namespace SfcWeave.Text

/-- The numbers that round to `mantissa * 2 ^ exponent`, in quarters of the last place. -/
structure RoundingInterval where
  low : Nat
  value : Nat
  high : Nat
  /-- Do the ends belong to the interval? -/
  closed : Bool
  /-- The power of two that a quarter stands for. -/
  exponent : Int

namespace RoundingInterval

/-- The interval of a number; below a power of two the neighbours are half as far apart. -/
def ofBinary (mantissa : Nat) (exponent : Int) (atPower : Bool) : RoundingInterval where
  low := 4 * mantissa - (if atPower then 1 else 2)
  value := 4 * mantissa
  high := 4 * mantissa + 2
  closed := mantissa % 2 = 0
  exponent := exponent - 2

/-- Two numbers in the proportion of `2 ^ exponent` to `10 ^ power`. -/
def proportion (exponent power : Int) : Nat × Nat :=
  (Nat.pow 2 exponent.toNat * Nat.pow 10 (-power).toNat,
    Nat.pow 2 (-exponent).toNat * Nat.pow 10 power.toNat)

/-- Is `digits * 10 ^ power` in the interval? -/
def contains (interval : RoundingInterval) (digits : Nat) (power : Int) : Bool :=
  let (unit, ten) := proportion interval.exponent power
  let point := digits * ten
  let low := interval.low * unit
  let high := interval.high * unit
  if interval.closed then low ≤ point && point ≤ high else low < point && point < high

/-- The best decimal with `power` as its last place, if there is one in the interval. -/
def at? (interval : RoundingInterval) (power : Int) : Option Nat :=
  let (unit, ten) := proportion interval.exponent power
  let value := interval.value * unit
  let below := value / ten
  let above := below + 1
  match decide (below ≠ 0) && interval.contains below power, interval.contains above power with
  | true, true =>
    let twice := 2 * (value - below * ten)
    some (if twice < ten || (twice = ten && below % 2 = 0) then below else above)
  | true, false => some below
  | false, true => some above
  | false, false => none

/-- The decimal with the greatest last place at most `power`, among the next `count` places. -/
def search (interval : RoundingInterval) : (count : Nat) → (power : Int) → Nat × Int
  | 0, power => (0, power)
  | count + 1, power =>
    match interval.at? power with
    | some digits => (digits, power)
    | none => interval.search count (power - 1)

end RoundingInterval

/-- The digits and the power of ten of the shortest decimal for a finite positive number. -/
def shortest (bits : UInt64) : Nat × Int :=
  let fraction := (bits &&& 0xFFFFFFFFFFFFF).toNat
  let biased := ((bits >>> 52) &&& 0x7FF).toNat
  let interval :=
    if biased = 0 then RoundingInterval.ofBinary fraction (-1074) false
    else RoundingInterval.ofBinary (0x10000000000000 + fraction) ((biased : Int) - 1075)
      (fraction = 0 && decide (1 < biased))
  interval.search 700 310

/-- The digits with a point: positional when the leading digit is between the fifth place after
the point and the sixteenth before it, otherwise with an exponent. -/
def pointed (digits : Nat) (power : Int) : String :=
  let text := Nat.toDigits 10 digits
  let lead : Int := (text.length : Int) - 1 + power
  let fraction (after : List Char) : List Char := if after = [] then ['0'] else after
  if -5 ≤ lead ∧ lead ≤ 15 then
    if 0 ≤ power then String.ofList (text ++ List.replicate power.toNat '0' ++ ['.', '0'])
    else if 0 ≤ lead then
      let (before, after) := text.splitAt (lead.toNat + 1)
      String.ofList (before ++ '.' :: fraction after)
    else String.ofList ('0' :: '.' :: List.replicate (-lead - 1).toNat '0' ++ text)
  else
    let mantissa := match text with
      | [] => []
      | [d] => [d]
      | d :: ds => d :: '.' :: ds
    String.ofList mantissa ++ "e" ++ (if lead < 0 then "-" else "+") ++ toString lead.natAbs

/-- The text of a finite number. -/
def decimalText (value : Float) : String :=
  let bits := value.toBits
  let sign := if bits >>> 63 = 1 then "-" else ""
  let magnitude := bits &&& 0x7FFFFFFFFFFFFFFF
  if magnitude = 0 then sign ++ "0.0"
  else
    let (digits, power) := shortest magnitude
    sign ++ pointed digits power

end SfcWeave.Text
