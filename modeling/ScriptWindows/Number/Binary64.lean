/-!
# Binary floating point numbers of 64 bits

A finite number is a sign, a whole mantissa below `2 ^ 53` and a power of two. Every operation
is carried out exactly on ratios and rounded once, to the nearest number, a tie to the even
mantissa.

Main result: `roundRatio_mul_right`, a whole quotient is not rounded.
-/

namespace ScriptWindows

/-- A floating point number: not a number, an infinity, or `± mantissa * 2 ^ exponent`. -/
inductive Binary64
  | nan
  | infinite (negative : Bool)
  | finite (negative : Bool) (mantissa : Nat) (exponent : Int)
deriving DecidableEq, Repr

namespace Binary64

/-- The exponent of the smallest numbers. -/
def minExponent : Int := -1074

/-- The exponent of the largest finite numbers. -/
def maxExponent : Int := 971

/-- Bits of a mantissa. -/
def precision : Nat := 53

/-- The largest whole number up to which every whole number is kept exactly. -/
def maxWhole : Nat := Nat.pow 2 precision

/-- The whole number nearest to a ratio, a tie to the even one. -/
def roundRatio (num den : Nat) : Nat :=
  let down := num / den
  let twice := 2 * (num % den)
  if den < twice then down + 1
  else if twice = den ∧ down % 2 = 1 then down + 1
  else down

/-- The exponent of the highest power of two that is not above a ratio. -/
def binaryOrder (num den : Nat) : Int :=
  let guess : Int := (num.log2 : Int) - den.log2
  let reached :=
    if 0 ≤ guess then den * Nat.pow 2 guess.toNat ≤ num
    else den ≤ num * Nat.pow 2 (-guess).toNat
  if reached then guess else guess - 1

/-- The number nearest to a ratio. -/
def ofRatio (negative : Bool) (num den : Nat) : Binary64 :=
  if num = 0 then .finite negative 0 minExponent
  else
    let exponent := max (binaryOrder num den - (precision - 1)) minExponent
    let mantissa :=
      if 0 ≤ exponent then roundRatio num (den * Nat.pow 2 exponent.toNat)
      else roundRatio (num * Nat.pow 2 (-exponent).toNat) den
    let (mantissa, exponent) :=
      if mantissa = Nat.pow 2 precision then (Nat.pow 2 (precision - 1), exponent + 1)
      else (mantissa, exponent)
    if maxExponent < exponent then .infinite negative else .finite negative mantissa exponent

/-- The numerator of `mantissa * 2 ^ exponent`. -/
def numerator (mantissa : Nat) (exponent : Int) : Nat := mantissa * Nat.pow 2 exponent.toNat

/-- The denominator of `mantissa * 2 ^ exponent`. -/
def denominator (exponent : Int) : Nat := Nat.pow 2 (-exponent).toNat

/-- The number nearest to a natural number. Those of up to 53 bits are kept exactly, as a whole
mantissa. -/
def ofNat (n : Nat) : Binary64 := ofRatio false n 1

/-- The number nearest to a whole number. -/
def ofInt (n : Int) : Binary64 := ofRatio (decide (n < 0)) n.natAbs 1

def isZero : Binary64 → Bool
  | .finite _ 0 _ => true
  | _ => false

/-- The number with the opposite sign. -/
def neg : Binary64 → Binary64
  | .nan => .nan
  | .infinite s => .infinite !s
  | .finite s m e => .finite (!s) m e

/-- The product, rounded. -/
def mul : Binary64 → Binary64 → Binary64
  | .nan, _ | _, .nan => .nan
  | .infinite s, .infinite t => .infinite (s != t)
  | .infinite s, .finite t m _ | .finite t m _, .infinite s =>
    if m = 0 then .nan else .infinite (s != t)
  | .finite s m e, .finite t n f =>
    ofRatio (s != t) (numerator m e * numerator n f) (denominator e * denominator f)

/-- The quotient, rounded. -/
def div : Binary64 → Binary64 → Binary64
  | .nan, _ | _, .nan => .nan
  | .infinite _, .infinite _ => .nan
  | .infinite s, .finite t _ _ => .infinite (s != t)
  | .finite s _ _, .infinite t => .finite (s != t) 0 minExponent
  | .finite s m e, .finite t n f =>
    if n = 0 then if m = 0 then .nan else .infinite (s != t)
    else ofRatio (s != t) (numerator m e * denominator f) (denominator e * numerator n f)

/-- The number as a whole number, when it is one of at most `2 ^ 53` in size. -/
def toInt? : Binary64 → Option Int
  | .finite s m e =>
    let num := numerator m e
    let den := denominator e
    if num % den = 0 ∧ num / den ≤ maxWhole then
      some (if s then -((num / den : Nat) : Int) else (num / den : Nat))
    else none
  | _ => none

/-! ## Laws -/

/-- A whole quotient is not rounded. -/
theorem roundRatio_mul_right (q : Nat) {den : Nat} (h : 0 < den) :
    roundRatio (q * den) den = q := by
  have exact : q * den % den = 0 := Nat.mul_mod_left q den
  have quotient : q * den / den = q := Nat.mul_div_cancel q h
  have : ¬ den < 0 := by omega
  have nonzero : ¬ 0 = den := by omega
  simp [roundRatio, exact, quotient, this, nonzero]

end Binary64

end ScriptWindows
