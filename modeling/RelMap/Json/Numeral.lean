import RelMap.Number.Binary

/-!
# Numbers as documents write them

A number is an integer if it is written as one and fits 64 bits, and a double otherwise. The double
is taken from as many digits as fit 64 bits, multiplied or divided by a power of ten; a number too
great for a double is none.
-/

namespace RelMap.Json

/-- A number as it is written, digit by digit. -/
structure Numeral where
  /-- Whether a minus sign stands before it. -/
  negative : Bool
  /-- The digits before the point. -/
  whole : List Nat
  /-- The digits after the point, if there is one. -/
  fraction : Option (List Nat) := none
  /-- Whether the exponent is negative, and its digits, if there is one. -/
  exponent : Option (Bool × List Nat) := none
  deriving DecidableEq, Repr

/-- What a number is read as. -/
inductive Number where
  | integer (i : Int)
  | float (x : Binary64)

/-- The natural number of some digits. -/
def ofDigits (ds : List Nat) : Nat := ds.foldl (fun n d => 10 * n + d) 0

/-- Digits taken into a number as long as it fits 64 bits; how many were taken and were not. -/
def absorb (n : Nat) : List Nat → Nat × Nat × Nat
  | [] => (n, 0, 0)
  | d :: ds =>
    if 10 * n + d < 0x10000000000000000 then
      let (m, taken, left) := absorb (10 * n + d) ds
      (m, taken + 1, left)
    else (n, 0, ds.length + 1)

/-- The double nearest to a power of ten. -/
def powerOfTen (k : Nat) : Binary64 := Binary64.ofInt (Nat.pow 10 k)

/-- Whether a double is zero. -/
def isZero (x : Binary64) : Bool := x.compare (Binary64.ofInt 0) == some .eq

/-- A double divided by a power of ten, in steps that have a divisor. -/
def scaleDown (x : Binary64) (k : Nat) : Binary64 :=
  if k ≤ 308 then x.div (powerOfTen k)
  else if isZero x then x
  else scaleDown (x.div (powerOfTen 308)) (k - 308)
termination_by k
decreasing_by omega

/-- A double multiplied by a power of ten, unless that is too great. -/
def scaleUp (x : Binary64) (k : Nat) : Option Binary64 :=
  if k ≤ 308 then
    let y := x.mul (powerOfTen k)
    match y.datum with
    | .infinite _ => none
    | _ => some y
  else if isZero x then some x
  else none

/-- A double times a power of ten. -/
def scale (x : Binary64) (e : Int) : Option Binary64 :=
  if 0 ≤ e then scaleUp x e.toNat else some (scaleDown x (-e).toNat)

namespace Numeral

/-- The power of ten that is written, limited to 32 bits, or nothing where it is beyond them. -/
def writtenExponent (n : Numeral) : Option Int :=
  match n.exponent with
  | none => some 0
  | some (negative, ds) =>
    let e := ofDigits ds
    if e < 0x80000000 then some (if negative then -(e : Int) else e) else none

/-- Whether the written exponent is negative. -/
def shrinks (n : Numeral) : Bool :=
  match n.exponent with
  | some (negative, _) => negative
  | none => false

/-- The size of a number as a double. -/
def float? (n : Numeral) : Option Binary64 :=
  let (significand, _, left) := absorb 0 n.whole
  let (significand, taken, _) := absorb significand (n.fraction.getD [])
  match n.writtenExponent with
  | some e => scale (Binary64.ofInt significand) ((left : Int) - taken + e)
  | none => if significand = 0 || n.shrinks then some (Binary64.ofInt 0) else none

/-- Whether a number is written without a point and an exponent. -/
def isWhole (n : Numeral) : Bool := n.fraction.isNone && n.exponent.isNone

/-- What a number is read as; a negative zero is a double. -/
def read (n : Numeral) : Option Number :=
  let size := ofDigits n.whole
  if n.isWhole && !n.negative && decide (size < 0x10000000000000000) then some (.integer size)
  else if n.isWhole && n.negative && size != 0 && decide (size ≤ 0x8000000000000000) then
    some (.integer (-(size : Int)))
  else n.float?.map fun x => .float (if n.negative then x.neg else x)

end Numeral

end RelMap.Json
