import ScriptWindows.Number.Binary64

/-!
# Writing numbers in decimal

A number is written with the fewest digits that read back as that number, of those the nearest
ones. Which of two equally near decimals is taken, where the point stands and when an exponent is
written is told by records, one for each form of text in which numbers appear.

Main results:

* `stripZeros_value`: dropping zeros at the end of the digits keeps the value.
* `layout_whole`: a whole number within the limits is written as its digits.
-/

namespace ScriptWindows

/-- A positive number as digits and a power of ten. -/
structure Decimal where
  digits : Nat
  exponent : Int
deriving DecidableEq, Repr

namespace Decimal

/-- Move zeros at the end of at most `fuel` digits into the exponent. -/
def stripZeros (fuel : Nat) (d : Decimal) : Decimal :=
  match fuel with
  | 0 => d
  | fuel + 1 =>
    if d.digits ≠ 0 ∧ d.digits % 10 = 0 then stripZeros fuel ⟨d.digits / 10, d.exponent + 1⟩ else d

/-- The exponent of the highest power of ten that is not above a ratio. -/
def decimalOrder (num den : Nat) : Int :=
  let guess : Int := ((Nat.toDigits 10 num).length : Int) - (Nat.toDigits 10 den).length
  let reached :=
    if 0 ≤ guess then den * Nat.pow 10 guess.toNat ≤ num
    else den ≤ num * Nat.pow 10 (-guess).toNat
  if reached then guess else guess - 1

/-- Reals that round to a number, as a pair of bounds over one denominator, and whether the
bounds themselves do. -/
structure Interval where
  value : Nat
  low : Nat
  high : Nat
  denominator : Nat
  closed : Bool
deriving Repr

/-- The reals that round to `mantissa * 2 ^ exponent`. Below the smallest mantissa of a power of
two the numbers lie twice as dense. -/
def Interval.of (mantissa : Nat) (exponent : Int) : Interval :=
  let scale := Nat.pow 2 exponent.toNat
  -- bounds lie half a step away, so in units of a quarter step
  let below := if mantissa = Nat.pow 2 (Binary64.precision - 1) ∧ Binary64.minExponent < exponent
    then 1 else 2
  { value := 4 * mantissa * scale
    low := (4 * mantissa - below) * scale
    high := (4 * mantissa + 2) * scale
    denominator := 4 * Nat.pow 2 (-exponent).toNat
    closed := mantissa % 2 = 0 }

/-- Whether a ratio lies in the interval. -/
def Interval.holds (i : Interval) (num den : Nat) : Bool :=
  let n := num * i.denominator
  if i.closed then i.low * den ≤ n && n ≤ i.high * den else i.low * den < n && n < i.high * den

/-- Which decimals may stand for a number. -/
structure Choice where
  /-- Of two equally near decimals take the even one, and else the upper one. -/
  tieToEven : Bool
  /-- A decimal that reads back may stand for the number although another one of as many digits
  is nearer and does not read back. Such a one exists only beside a power of two, where the
  numbers below lie closer than those above. -/
  farther : Bool
deriving DecidableEq, Repr

/-- The point of the grid of multiples of `10 ^ order` that stands for the interval: of the two
points around its value the nearer one that lies in it. -/
def Interval.pointAt? (c : Choice) (i : Interval) (order : Int) : Option Nat :=
  let up := Nat.pow 10 order.toNat
  let down := Nat.pow 10 (-order).toNat
  let num := i.value * down
  let den := i.denominator * up
  let lower := num / den
  let inside (q : Nat) := i.holds (q * up) down
  let twice := 2 * (num % den)
  -- the value is `lower` and a remainder, compared with one half
  let preferUpper := den < twice || (twice == den && (!c.tieToEven || lower % 2 == 1))
  let nearer := if preferUpper then lower + 1 else lower
  let other := if preferUpper then lower else lower + 1
  if nearer ≠ 0 ∧ inside nearer then some nearer
  else if c.farther ∧ other ≠ 0 ∧ inside other then some other
  else none

/-- The first of the grids from `order` down, at most `fuel` of them, that has a point for the
interval. -/
def Interval.shortest (c : Choice) (i : Interval) (order : Int) : Nat → Decimal
  | 0 => ⟨i.value / i.denominator, 0⟩
  | fuel + 1 =>
    match i.pointAt? c order with
    | some digits => stripZeros 20 ⟨digits, order⟩
    | none => i.shortest c (order - 1) fuel

/-- The fewest digits that read back as `mantissa * 2 ^ exponent`, for a positive mantissa. -/
def shortest (c : Choice) (mantissa : Nat) (exponent : Int) : Decimal :=
  let i := Interval.of mantissa exponent
  i.shortest c (decimalOrder i.value i.denominator) 18

/-! ## Layouts -/

/-- How a number is laid out as text. -/
structure Layout where
  /-- Which decimal is laid out. -/
  choice : Choice
  /-- Fewer digits before the point than this, or as few, call for an exponent. -/
  lowest : Int
  /-- More digits before the point than this call for an exponent. -/
  highest : Int
  /-- Whether a positive exponent has a sign. -/
  signedExponent : Bool
  /-- Whether a whole number is written with a zero behind the point. -/
  pointInWhole : Bool
deriving DecidableEq, Repr

def zeros (n : Nat) : List Char := List.replicate n '0'

/-- The digits of an exponent with its sign. -/
def exponentText (l : Layout) (e : Int) : List Char :=
  'e' :: (if e < 0 then ['-'] else if l.signedExponent then ['+'] else []) ++
    Nat.toDigits 10 e.natAbs

/-- A decimal as text. -/
def layout (l : Layout) (d : Decimal) : List Char :=
  let ds := Nat.toDigits 10 d.digits
  let point : Int := ds.length + d.exponent
  if l.lowest < point ∧ point ≤ l.highest then
    if 0 ≤ d.exponent then
      ds ++ zeros d.exponent.toNat ++ (if l.pointInWhole then ['.', '0'] else [])
    else if 0 < point then ds.take point.toNat ++ '.' :: ds.drop point.toNat
    else '0' :: '.' :: zeros (-point).toNat ++ ds
  else
    let mantissa := match ds with
      | first :: second :: rest => first :: '.' :: second :: rest
      | single => single
    mantissa ++ exponentText l (point - 1)

/-! ## Laws -/

/-- Dropping zeros at the end of the digits keeps the value. -/
theorem stripZeros_value (fuel : Nat) (d : Decimal) :
    ∃ n : Nat, (stripZeros fuel d).digits * Nat.pow 10 n = d.digits ∧
      (stripZeros fuel d).exponent = d.exponent + n := by
  induction fuel generalizing d with
  | zero => exact ⟨0, by simp [stripZeros]⟩
  | succ fuel ih =>
    unfold stripZeros
    split
    next divisible =>
      obtain ⟨n, digits, exponent⟩ := ih ⟨d.digits / 10, d.exponent + 1⟩
      refine ⟨n + 1, ?_, ?_⟩
      · show _ * (Nat.pow 10 n * 10) = d.digits
        rw [← Nat.mul_assoc, digits]
        exact Nat.div_mul_cancel (Nat.dvd_of_mod_eq_zero divisible.2)
      · rw [exponent]
        simp only [Int.natCast_add, Int.natCast_one]
        omega
    next => exact ⟨0, by simp⟩

/-- A whole number within the limits of a layout that writes no point is its digits. -/
theorem layout_whole {l : Layout} {n : Nat} (plain : l.pointInWhole = false)
    (low : l.lowest < (Nat.toDigits 10 n).length) (high : (Nat.toDigits 10 n).length ≤ l.highest) :
    layout l ⟨n, 0⟩ = Nat.toDigits 10 n := by
  simp [layout, low, high, plain, zeros]

end Decimal

end ScriptWindows
