import ClassAtlas.Value

/-
  ClassAtlas.Text.Decimal — the fewest decimal digits that read back as the same number.

  A finite number of a binary format is `m * 2 ^ q`. The reals that round to it fill the
  interval between the two midpoints to its neighbours; the ends belong to it when `m` is
  even. For one digit, two digits and so on, the two decimals of that many digits around
  the number are tried, and the first count of digits with one inside the interval wins;
  of two inside, the nearer. All of it is done with whole numbers: a positive rational is a
  numerator and a denominator.

  How the digits are laid out is a `Layout`: which exponents are written without one.
-/

namespace ClassAtlas.Text

structure Ratio where
  num : Nat
  den : Nat
  deriving DecidableEq, Repr

namespace Ratio

def lt (a b : Ratio) : Bool := a.num * b.den < b.num * a.den

def le (a b : Ratio) : Bool := a.num * b.den ≤ b.num * a.den

/-- `n * base ^ e`. -/
def scaled (n base : Nat) (e : Int) : Ratio :=
  if 0 ≤ e then ⟨n * Nat.pow base e.toNat, 1⟩ else ⟨n, Nat.pow base (-e).toNat⟩

/-- The distance between two numbers. -/
def gap (a b : Ratio) : Ratio := ⟨(a.num * b.den - b.num * a.den) + (b.num * a.den - a.num * b.den), a.den * b.den⟩

/-- The greatest `e` for which `10 ^ e` is not above `a`. -/
def decimalExponent (a : Ratio) : Int :=
  if a.den ≤ a.num then (toString (a.num / a.den)).length - 1
  else -(((List.range 1100).find? fun k => a.den ≤ a.num * Nat.pow 10 k).getD 0 : Nat)

end Ratio

/-- `digits * 10 ^ exponent`, where the digits do not end in a zero. -/
structure Decimal where
  digits : Nat
  exponent : Int
  deriving DecidableEq, Repr

namespace Decimal

/-- Move the zeros at the end of the digits, up to `fuel` of them, into the exponent. -/
def normalize : Nat → Nat → Int → Decimal
  | 0, d, e => ⟨d, e⟩
  | fuel + 1, d, e => if d % 10 = 0 then normalize fuel (d / 10) (e + 1) else ⟨d, e⟩

/-- A positive number of a binary format with the interval of the reals that round to it. -/
structure Interval where
  low : Ratio
  value : Ratio
  high : Ratio
  closed : Bool

def Interval.contains (i : Interval) (x : Ratio) : Bool :=
  if i.closed then i.low.le x && x.le i.high else i.low.lt x && x.lt i.high

/-- The interval of the number with these bits. Below a power of two the numbers are twice as dense. -/
def intervalOf (f : FloatFormat) (bits : Nat) : Interval :=
  let e := f.exponentOf bits
  let fraction := f.fractionOf bits
  let m := if e = 0 then fraction else fraction + Nat.pow 2 f.fraction
  let q : Int := (max e 1 : Nat) - (Nat.pow 2 (f.exponent - 1) - 1 : Nat) - (f.fraction : Nat)
  let below := if fraction = 0 && 1 < e then 1 else 2
  ⟨.scaled (4 * m - below) 2 (q - 2), .scaled (4 * m) 2 (q - 2), .scaled (4 * m + 2) 2 (q - 2), m % 2 == 0⟩

/-- Which of two decimals at the same distance is taken. -/
inductive Tie where
  | toEven
  | up
  deriving DecidableEq, Repr

/-- Of two neighbours on a grid, with their distances and the digits of the lower one, the nearer. -/
def nearer (tie : Tie) (lowerDigits : Nat) (below above : Ratio × Decimal) : Decimal :=
  if below.1.lt above.1 then below.2
  else if above.1.lt below.1 then above.2
  else if tie = .toEven && lowerDigits % 2 = 0 then below.2
  else above.2

/-- The decimal of `count` digits inside the interval that is nearest to its number. -/
def ofCount? (tie : Tie) (i : Interval) (count : Nat) : Option Decimal :=
  let e := i.value.decimalExponent - (count - 1 : Nat)
  let unit := Ratio.scaled 1 10 e
  let lower := i.value.num * unit.den / (i.value.den * unit.num)
  let at? (d : Nat) : Option (Ratio × Decimal) :=
    let x := Ratio.scaled d 10 e
    if d ≠ 0 && i.contains x then some (x.gap i.value, normalize 400 d e) else none
  match at? lower, at? (lower + 1) with
  | some a, some b => some (nearer tie lower a b)
  | some (_, a), none => some a
  | none, some (_, b) => some b
  | none, none => none

/-- The shortest decimal of a finite number other than zero, without its sign. -/
def shortest (tie : Tie) (f : FloatFormat) (bits : Nat) : Decimal :=
  let i := intervalOf f bits
  ((List.range 20).findSome? fun k => ofCount? tie i (k + 1)).getD ⟨0, 0⟩

end Decimal

/-! ## Laying digits out -/

structure Layout where
  /-- The exponents (of the first digit) that are written without one; `none` writes all so. -/
  positional : Option (Int × Int)
  /-- A whole number written without exponent ends in `.0`. -/
  pointZero : Bool
  tie : Decimal.Tie
  nan : String
  infinity : String
  deriving Repr

namespace Layout

def zeros (n : Nat) : String := String.ofList (List.replicate n '0')

/-- The digits with the point behind the first `place` of them. -/
def withPoint (pointZero : Bool) (digits : String) (place : Int) : String :=
  let n := digits.length
  if place ≤ 0 then "0." ++ zeros (-place).toNat ++ digits
  else if (n : Int) ≤ place then digits ++ zeros (place.toNat - n) ++ (if pointZero then ".0" else "")
  else (digits.take place.toNat).toString ++ "." ++ (digits.drop place.toNat).toString

def withExponent (digits : String) (exponent : Int) : String :=
  let tail := (digits.drop 1).toString
  (digits.take 1).toString ++ (if tail = "" then "" else "." ++ tail) ++ "e" ++ (if exponent < 0 then "-" else "+") ++
    toString exponent.natAbs

def unsigned (l : Layout) (d : Decimal) : String :=
  let digits := toString d.digits
  let lead : Int := d.exponent + digits.length - 1
  match l.positional with
  | none => withPoint l.pointZero digits (lead + 1)
  | some (low, high) =>
    if low ≤ lead && lead ≤ high then withPoint l.pointZero digits (lead + 1) else withExponent digits lead

/-- The text of the number with these bits. -/
def write (l : Layout) (f : FloatFormat) (bits : Nat) : String :=
  let sign := if f.isNegative bits then "-" else ""
  if f.isNaN bits then l.nan
  else if f.isSpecial bits then sign ++ l.infinity
  else if f.isZero bits then sign ++ (if l.pointZero then "0.0" else "0")
  else sign ++ l.unsigned (Decimal.shortest l.tie f (bits % Nat.pow 2 (f.exponent + f.fraction)))

end Layout

end ClassAtlas.Text
