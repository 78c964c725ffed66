import Scriptlet.Number.Binary64

/-!
Decimal text of doubles. The shortest form has the fewest digits that read back as the number, and of
those the nearest to it; it is positional for exponents from -4 to 15 and always shows a point or an
exponent. The fixed form rounds the exact value to a given number of places.
-/
namespace Scriptlet.Binary64

/-- The value of a decimal: `digits * 10 ^ exponent`. -/
structure DecimalForm where
  digits : Nat
  exponent : Int

/-- The point of the grid `10 ^ exponent` that is nearest to a number of units and reads back as it. -/
def gridPoint? (units : Nat) (exponent : Int) : Option DecimalForm :=
  let step := spacing units
  let even := units / step % 2 = 0
  -- Distances are compared in quarter units times the scale of the grid.
  let below := if units = Nat.pow 2 units.log2 && 1 < step then step else 2 * step
  let above := 2 * step
  let up := Nat.pow 10 exponent.toNat
  let down := Nat.pow 10 (-exponent).toNat
  let value := units * down
  let grid := unitsPerOne * up
  let low := value / grid
  let readsBack (point : Nat) : Bool :=
    let there := point * grid
    if there ≤ value then
      let gap := 4 * (value - there)
      gap < below * down || (even && gap = below * down)
    else
      let gap := 4 * (there - value)
      gap < above * down || (even && gap = above * down)
  let lowFits := readsBack low
  let highFits := readsBack (low + 1)
  let toLow := value - low * grid
  let toHigh := (low + 1) * grid - value
  if lowFits && (!highFits || toLow < toHigh || (toLow = toHigh && low % 2 = 0)) then
    some ⟨low, exponent⟩
  else if highFits then some ⟨low + 1, exponent⟩
  else none

/-- The least `e` near `guess` with `units` below `10 ^ e`. -/
def magnitudeFrom (units : Nat) (guess : Int) : Nat → Int
  | 0 => guess
  | tries + 1 =>
    if units * Nat.pow 10 (-guess).toNat < unitsPerOne * Nat.pow 10 guess.toNat then guess
    else magnitudeFrom units (guess + 1) tries

/-- The exponent `e` with `10 ^ (e - 1) ≤ value < 10 ^ e`. -/
def magnitude (units : Nat) : Int :=
  magnitudeFrom units (((units.log2 : Int) - 1074) * 30103 / 100000 - 1) 4

def shortestFrom (units : Nat) (top : Int) (count : Nat) : Nat → DecimalForm
  | 0 => ⟨units, 0⟩
  | more + 1 =>
    match gridPoint? units (top - count) with
    | some form => form
    | none => shortestFrom units top (count + 1) more

def shortest (units : Nat) : DecimalForm := shortestFrom units (magnitude units) 1 17

private def zeros (count : Nat) : List Char := List.replicate count '0'

/-- Writes `0.d₁d₂d₃… * 10 ^ point` without an exponent. -/
def positional (digits : List Char) (point : Int) : List Char :=
  if point ≤ 0 then '0' :: '.' :: zeros (-point).toNat ++ digits
  else
    let whole := digits.take point.toNat ++ zeros (point.toNat - digits.length)
    let places := digits.drop point.toNat
    whole ++ '.' :: (if places.isEmpty then ['0'] else places)

/-- Writes `d₁.d₂d₃… * 10 ^ exponent` with an exponent of at least two digits. -/
def scientific (digits : List Char) (exponent : Int) : List Char :=
  let power := Nat.toDigits 10 exponent.natAbs
  let places := digits.drop 1
  digits.take 1 ++ (if places.isEmpty then [] else '.' :: places)
    ++ 'e' :: (if exponent < 0 then '-' else '+') :: zeros (2 - power.length) ++ power

private def dropTrailingZeros (digits : List Char) : List Char :=
  (digits.reverse.dropWhile (· = '0')).reverse

def unitsText (units : Nat) : List Char :=
  if units = 0 then ['0', '.', '0']
  else
    let form := shortest units
    let written := Nat.toDigits 10 form.digits
    let point : Int := written.length + form.exponent
    let digits := dropTrailingZeros written
    if -4 < point && point ≤ 16 then positional digits point else scientific digits (point - 1)

def text : Binary64 → String
  | nan => "nan"
  | infinite negative => if negative then "-inf" else "inf"
  | finite negative units =>
    String.ofList (if negative then '-' :: unitsText units else unitsText units)

/-- The number with exactly `places` digits after the point; a half goes to the even neighbour. -/
def fixed (places : Nat) : Binary64 → String
  | nan => "nan"
  | infinite negative => if negative then "-inf" else "inf"
  | finite negative units =>
    let digits := Nat.toDigits 10 (roundDiv (units * Nat.pow 10 places) unitsPerOne)
    let padded := zeros (places + 1 - digits.length) ++ digits
    let whole := padded.take (padded.length - places)
    let written := if places = 0 then whole else whole ++ '.' :: padded.drop (padded.length - places)
    String.ofList (if negative then '-' :: written else written)

end Scriptlet.Binary64
