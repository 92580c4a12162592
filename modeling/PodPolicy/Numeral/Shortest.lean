import PodPolicy.Numeral.Double

/-!
# Shortest text of a double

A finite double is written with the fewest digits that read back as it. Of two
such numerals of that length the nearer one is taken, and the even one of two
that are equally near. Digits, then layout: the layout is data.
-/

namespace PodPolicy.Numeral

/-- Digits `d₁d₂…` with a leading exponent: the number `d₁.d₂… · 10 ^ leading`. -/
structure Scientific where
  digits : Nat
  leading : Int
deriving DecidableEq, Repr

/-- The exponent of the leading digit of `num / den`. -/
def leadingExponent (num den : Nat) : Int :=
  let shift := digitCount den - digitCount num + 1
  digitCount (num * Nat.pow 10 shift / den) - 1 - shift

namespace Double

/-- The neighbours of `num / den` on the grid `10 ^ unit`, nearest first. -/
def gridNeighbours (num den : Nat) (unit : Int) : List Nat :=
  let scaled := num * Nat.pow 10 (-unit).toNat
  let step := den * Nat.pow 10 unit.toNat
  let low := scaled / step
  let nearest := divHalfEven scaled step
  if nearest = low then [low, low + 1] else [low + 1, low]

def shortestOfLength (mantissa : Nat) (exponent : Int) (count : Nat) : Option Scientific :=
  let (num, den) := ratio mantissa exponent
  let unit := leadingExponent num den - count + 1
  let hit := (gridNeighbours num den unit).find? fun n =>
    ofScientific false n unit = .finite false mantissa exponent
  hit.map fun n => ⟨n, digitCount n - 1 + unit⟩

/-- Seventeen digits always suffice. -/
def shortestDigits (mantissa : Nat) (exponent : Int) : Scientific :=
  ((List.range 17).findSome? fun i => shortestOfLength mantissa exponent (i + 1)).getD ⟨0, 0⟩

end Double

/-- Where the point stands and how an exponent is written. -/
structure DoubleLayout where
  minPositional : Int
  maxPositional : Int
  exponentMark : Char
  exponentDigits : Nat
  nan : String
  infinity : String

/-- From `0.0001` to below `10 ^ 16` the point is written where it falls, and
an integer keeps a fraction of zero. -/
def doubleLayout : DoubleLayout :=
  ⟨-4, 15, 'e', 2, "nan", "inf"⟩

namespace DoubleLayout

def significant (digits : Nat) : List Char :=
  let kept := ((Nat.toDigits 10 digits).reverse.dropWhile (· == '0')).reverse
  if kept.isEmpty then ['0'] else kept

def positional (digits : List Char) (leading : Int) : List Char :=
  if leading < 0 then
    "0.".toList ++ List.replicate (-leading - 1).toNat '0' ++ digits
  else
    let size := leading.toNat + 1
    let whole := digits.take size ++ List.replicate (size - digits.length) '0'
    let fraction := digits.drop size
    whole ++ '.' :: (if fraction.isEmpty then ['0'] else fraction)

def withExponent (layout : DoubleLayout) (digits : List Char) (leading : Int) : List Char :=
  let power := Nat.toDigits 10 leading.natAbs
  digits.take 1 ++ (if digits.length ≤ 1 then [] else '.' :: digits.drop 1) ++
    layout.exponentMark :: (if leading < 0 then '-' else '+') ::
      (List.replicate (layout.exponentDigits - power.length) '0' ++ power)

def magnitude (layout : DoubleLayout) (mantissa : Nat) (exponent : Int) : List Char :=
  if mantissa = 0 then "0.0".toList
  else
    let shortest := Double.shortestDigits mantissa exponent
    let digits := significant shortest.digits
    if layout.minPositional ≤ shortest.leading ∧ shortest.leading ≤ layout.maxPositional then
      positional digits shortest.leading
    else withExponent layout digits shortest.leading

end DoubleLayout

def Double.toText : Double → String
  | .nan => doubleLayout.nan
  | .infinite negative => (if negative then "-" else "") ++ doubleLayout.infinity
  | .finite negative mantissa exponent =>
    (if negative then "-" else "") ++
      String.ofList (doubleLayout.magnitude mantissa exponent)

end PodPolicy.Numeral
