/-!
Double-precision numbers as exact values. A finite number is a whole number of units of 2 ^ -1074,
so comparing two numbers is comparing integers, and every operation is the exact result rounded once
to 53 significant bits, a tie going to the even neighbour.
-/
namespace Scriptlet

inductive Binary64 where
  | nan
  | infinite (negative : Bool)
  | finite (negative : Bool) (units : Nat)
  deriving DecidableEq, Repr, Inhabited

namespace Binary64

/-- The number of units in one: 2 ^ 1074. -/
def unitsPerOne : Nat := Nat.pow 2 1074

/-- The quotient of two naturals rounded to the nearest, a tie to the even one. -/
def roundDiv (num den : Nat) : Nat :=
  let quotient := num / den
  let twice := 2 * (num % den)
  if den < twice || (twice = den && quotient % 2 = 1) then quotient + 1 else quotient

def spacing (units : Nat) : Nat := Nat.pow 2 (units.log2 + 1 - 53)

def ofRatio (negative : Bool) (num den : Nat) : Binary64 :=
  let step := spacing (num / den)
  let units := roundDiv num (den * step) * step
  if units < Nat.pow 2 1024 * unitsPerOne then finite negative units else infinite negative

def zero : Binary64 := finite false 0
def one : Binary64 := finite false unitsPerOne

def ofDecimal (negative : Bool) (digits : Nat) (exponent : Int) : Binary64 :=
  let places := (Nat.toDigits 10 digits).length + exponent
  if digits = 0 || places < -400 then finite negative 0
  else if 400 < places then infinite negative
  else if 0 ≤ exponent then ofRatio negative (digits * Nat.pow 10 exponent.toNat * unitsPerOne) 1
  else ofRatio negative (digits * unitsPerOne) (Nat.pow 10 (-exponent).toNat)

def ofInt (n : Int) : Binary64 := ofDecimal (n < 0) n.natAbs 0

def signedUnits (negative : Bool) (units : Nat) : Int := if negative then -units else units

def lt : Binary64 → Binary64 → Bool
  | nan, _ | _, nan => false
  | infinite a, infinite b => a && !b
  | infinite a, finite _ _ => a
  | finite _ _, infinite b => !b
  | finite a m, finite b n => signedUnits a m < signedUnits b n

def le : Binary64 → Binary64 → Bool
  | nan, _ | _, nan => false
  | infinite a, infinite b => a || !b
  | infinite a, finite _ _ => a
  | finite _ _, infinite b => !b
  | finite a m, finite b n => signedUnits a m ≤ signedUnits b n

instance : LT Binary64 := ⟨fun x y => lt x y = true⟩
instance : LE Binary64 := ⟨fun x y => le x y = true⟩
instance (x y : Binary64) : Decidable (x < y) := inferInstanceAs (Decidable (lt x y = true))
instance (x y : Binary64) : Decidable (x ≤ y) := inferInstanceAs (Decidable (le x y = true))

def same (x y : Binary64) : Bool := x ≤ y && y ≤ x

/-- The second operand if it is less than the first, and the first otherwise. -/
def least (x y : Binary64) : Binary64 := if y < x then y else x

def neg : Binary64 → Binary64
  | nan => nan
  | infinite negative => infinite !negative
  | finite negative units => finite (!negative) units

def add : Binary64 → Binary64 → Binary64
  | nan, _ | _, nan => nan
  | infinite a, infinite b => if a = b then infinite a else nan
  | infinite a, finite _ _ => infinite a
  | finite _ _, infinite b => infinite b
  | finite a m, finite b n =>
    let sum := signedUnits a m + signedUnits b n
    if sum = 0 then finite (a && b) 0 else ofRatio (sum < 0) sum.natAbs 1

def mul : Binary64 → Binary64 → Binary64
  | nan, _ | _, nan => nan
  | infinite a, infinite b => infinite (a != b)
  | infinite a, finite b n | finite b n, infinite a => if n = 0 then nan else infinite (a != b)
  | finite a m, finite b n => ofRatio (a != b) (m * n) unitsPerOne

instance : Neg Binary64 := ⟨neg⟩
instance : Add Binary64 := ⟨add⟩
instance : Mul Binary64 := ⟨mul⟩

def toInt? : Binary64 → Option Int
  | finite negative units =>
    if units % unitsPerOne = 0 then some (signedUnits negative (units / unitsPerOne)) else none
  | _ => none

def isFinite : Binary64 → Bool
  | finite _ _ => true
  | _ => false

end Binary64
end Scriptlet
