import ScriptWindows.Number.Decimal

/-!
# Numbers of JSON texts

A number without point and exponent that fits 64 bits is whole; every other one is a floating
point number. Reading works on the first digits that fit 64 bits and multiplies or divides once
by a power of ten, each step rounded, so that a number of many digits may read as a neighbour of
the nearest one.

Main results:

* `length_readDigits`: reading digits takes nothing away from what follows them.
* `text_whole`: a whole number is written as its digits.
-/

namespace ScriptWindows.Json

/-- A number of a JSON text. -/
inductive Number
  | whole (value : Int)
  | double (value : Binary64)
deriving DecidableEq, Repr

/-! ## Writing -/

/-- Floating point numbers in JSON texts: positional from 0.00001 up to 17 digits, and always
with a point. -/
def doubleLayout : Decimal.Layout := ⟨⟨true, true⟩, -5, 16, true, true⟩

/-- A finite floating point number as text; any other one has none in JSON. -/
def doubleText (l : Decimal.Layout) (negative : Bool) (mantissa : Nat) (exponent : Int) :
    List Char :=
  (if negative then ['-'] else []) ++
    Decimal.layout l (if mantissa = 0 then ⟨0, 0⟩ else Decimal.shortest l.choice mantissa exponent)

/-- A whole number as text. -/
def wholeText (n : Int) : List Char :=
  (if n < 0 then ['-'] else []) ++ Nat.toDigits 10 n.natAbs

def Number.text : Number → List Char
  | .whole n => wholeText n
  | .double (.finite s m e) => doubleText doubleLayout s m e
  | .double _ => "null".toList

/-! ## Reading -/

/-- What ends the reading of a number early, and the text at which it does. `ahead` tells how
many more characters the fault has looked at. -/
inductive NumberFault
  | bad (rest : List Char) (ahead : Nat)
  | ended (rest : List Char)
  | tooLarge (rest : List Char)
deriving Repr

/-- The number after the largest that 64 bits hold. -/
def wordLimit : Nat := Nat.pow 2 64

/-- The largest exponent that is told apart. -/
def exponentLimit : Nat := Nat.pow 2 31

def digitOf (c : Char) : Nat := c.toNat - '0'.toNat

/-- Read digits as long as the value stays below a limit: the value, the number of digits read,
and what follows. -/
def readDigits (limit value count : Nat) : List Char → Nat × Nat × List Char
  | [] => (value, count, [])
  | c :: cs =>
    if c.isDigit ∧ value * 10 + digitOf c < limit then
      readDigits limit (value * 10 + digitOf c) (count + 1) cs
    else (value, count, c :: cs)

/-- Powers of ten that are kept ready. -/
def maxPower : Nat := 308

/-- Divide by the largest power kept ready until the exponent is in reach. -/
def scaleDown (fuel : Nat) (value : Binary64) (exponent : Int) : Binary64 × Int :=
  match fuel with
  | 0 => (value, exponent)
  | fuel + 1 =>
    if exponent < -(maxPower : Int) ∧ value.isZero = false then
      scaleDown fuel (value.div (.ofNat (Nat.pow 10 maxPower))) (exponent + maxPower)
    else (value, exponent)

/-- The floating point number of some digits and a power of ten; `none` when it is beyond all
finite ones. -/
def ofParts (negative : Bool) (digits : Nat) (exponent : Int) : Option Binary64 :=
  let (value, exponent) := scaleDown 4 (.ofNat digits) exponent
  let scaled? : Option Binary64 :=
    if value.isZero then some value
    else if exponent < -(maxPower : Int) then some (.ofNat 0)
    else if exponent < 0 then some (value.div (.ofNat (Nat.pow 10 exponent.natAbs)))
    else if (maxPower : Int) < exponent then none
    else match value.mul (.ofNat (Nat.pow 10 exponent.natAbs)) with
      | .infinite _ => none
      | product => some product
  scaled?.map fun v => if negative then v.neg else v

/-- Read from the character after an exponent mark. -/
def readExponent (negative : Bool) (digits : Nat) (exponent : Int) (cs : List Char) :
    Except NumberFault (Number × List Char) :=
  let (down, signed) := match cs with
    | '+' :: rest => (false, rest)
    | '-' :: rest => (true, rest)
    | _ => (false, cs)
  match signed with
  | [] => .error (.ended [])
  | c :: rest =>
    if !c.isDigit then .error (.bad signed 1)
    else
      let (size, _, after) := readDigits exponentLimit (digitOf c) 1 rest
      if (after.head?.map Char.isDigit).getD false then
        if digits ≠ 0 ∧ !down then .error (.tooLarge (after.drop 1))
        else .ok (.double (.finite negative 0 Binary64.minExponent), after.dropWhile Char.isDigit)
      else
        match ofParts negative digits (if down then exponent - size else exponent + size) with
        | some value => .ok (.double value, after)
        | none => .error (.tooLarge after)

/-- Finish a number that is no whole one after its digits: with its exponent, if it has one. -/
def finishDouble (negative : Bool) (digits : Nat) (exponent : Int) (cs : List Char) :
    Except NumberFault (Number × List Char) :=
  match cs with
  | c :: rest =>
    if c = 'e' ∨ c = 'E' then readExponent negative digits exponent rest
    else match ofParts negative digits exponent with
      | some value => .ok (.double value, cs)
      | none => .error (.tooLarge cs)
  | [] =>
    match ofParts negative digits exponent with
    | some value => .ok (.double value, [])
    | none => .error (.tooLarge [])

/-- Read from the character after a point. Digits beyond 64 bits do not count. -/
def readFraction (negative : Bool) (digits : Nat) (exponent : Int) (cs : List Char) :
    Except NumberFault (Number × List Char) :=
  let (digits, count, after) := readDigits wordLimit digits 0 cs
  if count = 0 ∧ (after.head?.map Char.isDigit).getD false = false then
    match cs with
    | [] => .error (.ended cs)
    | _ => .error (.bad cs 1)
  else finishDouble negative digits (exponent - count) (after.dropWhile Char.isDigit)

/-- Read what follows the digits before a point. -/
def readAfterWhole (negative : Bool) (digits : Nat) (cs : List Char) :
    Except NumberFault (Number × List Char) :=
  match cs with
  | '.' :: rest => readFraction negative digits 0 rest
  | c :: rest =>
    if c = 'e' ∨ c = 'E' then readExponent negative digits 0 rest else .ok (finish, cs)
  | [] => .ok (finish, [])
where
  /-- A whole number of 64 bits, or the nearest floating point number below them. -/
  finish : Number :=
    if !negative then .whole digits
    else if digits = 0 ∨ Nat.pow 2 63 < digits then .double (.neg (.ofNat digits))
    else .whole (-digits)

/-- Read a number from its first digit on. Digits beyond 64 bits only count as powers of ten. -/
def readUnsigned (negative : Bool) (cs : List Char) : Except NumberFault (Number × List Char) :=
  match cs with
  | [] => .error (.ended [])
  | '0' :: rest =>
    if (rest.head?.map Char.isDigit).getD false then .error (.bad rest 1)
    else readAfterWhole negative 0 rest
  | c :: rest =>
    if !c.isDigit then .error (.bad cs 1)
    else
      let (digits, _, after) := readDigits wordLimit (digitOf c) 1 rest
      let more := after.takeWhile Char.isDigit
      if more = [] then readAfterWhole negative digits after
      else match after.dropWhile Char.isDigit with
        | '.' :: rest => readFraction negative digits more.length rest
        | rest => finishDouble negative digits more.length rest

/-- Read a number. -/
def readNumber (cs : List Char) : Except NumberFault (Number × List Char) :=
  match cs with
  | '-' :: rest => readUnsigned true rest
  | _ => readUnsigned false cs

/-! ## Laws -/

/-- Reading digits takes nothing away from what follows them. -/
theorem length_readDigits (limit value count : Nat) (cs : List Char) :
    (readDigits limit value count cs).2.2.length ≤ cs.length := by
  induction cs generalizing value count with
  | nil => simp [readDigits]
  | cons c cs ih =>
    unfold readDigits
    split
    · have := ih (value * 10 + digitOf c) (count + 1)
      simp only [List.length_cons]
      omega
    · simp

/-- A natural number is written as its digits. -/
theorem text_whole (n : Nat) : (Number.whole n).text = Nat.toDigits 10 n := by
  have : ¬ (n : Int) < 0 := by omega
  simp [Number.text, wholeText, this]

end ScriptWindows.Json
