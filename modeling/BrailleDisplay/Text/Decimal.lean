import BrailleDisplay.Text.Layout

/-!
# Decimal text of binary fractions

A double is `m · 2 ^ e` for two integers, and both of its decimal texts are found exactly from
these, in natural-number arithmetic.

* `Binary.ofFloat` — the magnitude of a finite double;
* `Binary.fixed` — a fixed number of places, the nearest decimal, a half going to the even digit;
* `Binary.shortest` — the fewest digits that read back as the same double and, among decimals with
  so few, the nearest, a half going to the even digit;
* `Binary.plain` — the shortest digits written out: positional between `10 ^ -5` and `10 ^ 16`, with
  an exponent elsewhere, and always with a fraction or an exponent.
-/

namespace BrailleDisplay.Text

/-- The magnitude `mantissa * 2 ^ exponent` of a finite double. -/
structure Binary where
  /-- At most 53 bits. -/
  mantissa : Nat
  /-- The power of two it is scaled by. -/
  exponent : Int
  deriving DecidableEq, Repr

/-- Quotient to the nearest integer, a half to the even one. -/
def roundDiv (num den : Nat) : Nat :=
  let quotient := num / den
  let twice := 2 * (num % den)
  if twice < den then quotient
  else if den < twice then quotient + 1
  else quotient + quotient % 2

namespace Binary

/-- The magnitude of a finite double, from its bits. -/
def ofFloat (x : Float) : Binary :=
  let bits := x.toBits.toNat
  let fraction := bits % Nat.pow 2 52
  let biased : Nat := bits / Nat.pow 2 52 % Nat.pow 2 11
  if biased = 0 then ⟨fraction, -1074⟩
  else ⟨Nat.pow 2 52 + fraction, (biased : Int) - 1075⟩

/-- The magnitude times four, as a fraction of two natural numbers. -/
def quadrupled (x : Binary) : Nat × Nat :=
  (4 * x.mantissa * Nat.pow 2 x.exponent.toNat, Nat.pow 2 (-x.exponent).toNat)

/-- The magnitude with `places` digits behind the point. -/
def fixed (places : Nat) (x : Binary) : String :=
  let (num, den) := x.quadrupled
  let scaled := roundDiv (num * Nat.pow 10 places) (4 * den)
  let whole := toString (scaled / Nat.pow 10 places)
  if places = 0 then whole
  else whole ++ "." ++ padLeft places '0' (toString (scaled % Nat.pow 10 places))

/-! ### The shortest digits -/

/-- A decimal `digits * 10 ^ exponent`. -/
structure Decimal where
  /-- The digits, as a number. -/
  digits : Nat
  /-- The power of ten they are scaled by. -/
  exponent : Int
  deriving DecidableEq, Repr

/-- The least `j` with `den ≤ num * 10 ^ j`, searched from `j` on. -/
def scaleUp (num den : Nat) : Nat → Nat → Nat
  | 0, j => j
  | fuel + 1, j => if den ≤ num * Nat.pow 10 j then j else scaleUp num den fuel (j + 1)

/-- The power of ten of the leading digit of `num / den`, for a positive fraction. -/
def leadingPower (num den : Nat) : Int :=
  if den ≤ num then ((toString (num / den)).length : Int) - 1
  else -(scaleUp num den 400 0 : Nat)

/-- The decimal nearest to the magnitude on the grid of multiples of `10 ^ power`, if one of its two
neighbours there reads back as the same double. -/
def onGrid? (x : Binary) (power : Int) : Option Decimal :=
  let (num, den) := x.quadrupled
  let below := if x.mantissa = Nat.pow 2 52 then 1 else 2
  let unit := Nat.pow 2 x.exponent.toNat
  let up := Nat.pow 10 (-power).toNat
  let down := 4 * den * Nat.pow 10 power.toNat
  let value := num * up
  let low := (num - below * unit) * up
  let high := (num + 2 * unit) * up
  let reads := fun (c : Nat) =>
    let here := c * down
    if x.mantissa % 2 = 0 then low ≤ here && here ≤ high else low < here && here < high
  let floor := value / down
  let ceil := floor + 1
  match 0 < floor && reads floor, reads ceil with
  | true, true => some ⟨roundDiv value down, power⟩
  | true, false => some ⟨floor, power⟩
  | false, true => some ⟨ceil, power⟩
  | false, false => none

/-- The decimal with the fewest digits that reads back, trying `count` digits and more. -/
def fewest (x : Binary) (leading : Int) : Nat → Nat → Decimal
  | 0, count => ⟨0, leading - count⟩
  | fuel + 1, count =>
    match x.onGrid? (leading - count + 1) with
    | some d => d
    | none => fewest x leading fuel (count + 1)

/-- The decimal with the zeros at its end moved into the exponent. -/
def Decimal.trimmed (d : Decimal) : Nat → Decimal
  | 0 => d
  | fuel + 1 =>
    if d.digits ≠ 0 ∧ d.digits % 10 = 0 then
      Decimal.trimmed ⟨d.digits / 10, d.exponent + 1⟩ fuel
    else d

/-- The shortest decimal that reads back as the same double, for a magnitude above zero. -/
def shortest (x : Binary) : Decimal :=
  let (num, den) := x.quadrupled
  (x.fewest (leadingPower num (4 * den)) 17 1).trimmed 20

/-- The shortest decimal written out. -/
def plain (x : Binary) : String :=
  if x.mantissa = 0 then "0.0"
  else
    let d := x.shortest
    let digits := (toString d.digits).toList
    let point := (digits.length : Int) + d.exponent
    if 0 ≤ d.exponent ∧ point ≤ 16 then
      String.ofList (digits ++ List.replicate d.exponent.toNat '0' ++ ['.', '0'])
    else if 0 < point ∧ point ≤ 16 then
      String.ofList (digits.take point.toNat ++ ['.'] ++ digits.drop point.toNat)
    else if -5 < point ∧ point ≤ 0 then
      String.ofList (['0', '.'] ++ List.replicate (-point).toNat '0' ++ digits)
    else
      let fraction := if digits.length = 1 then [] else '.' :: digits.drop 1
      String.ofList (digits.take 1 ++ fraction ++ ['e']) ++ toString (point - 1)

end Binary

end BrailleDisplay.Text
