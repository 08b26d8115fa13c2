/-! The decimal with the fewest digits that reads back to a given binary floating-point value.
The reals that round to the value form an interval. Grids of 1, 2, ... 17 leading digits are tried
in turn, and the first that has a neighbour of the value inside the interval gives the digits. -/
namespace QueryTree.Decimal

structure Magnitude where
  mantissa : Nat
  exponent : Int
  /-- The gap to the next value below is half of the gap to the next value above. -/
  narrow : Bool
  deriving DecidableEq, Repr

def Magnitude.ofBits (bits : UInt64) : Magnitude :=
  let biased := ((bits >>> 52) &&& 0x7FF).toNat
  let fraction := (bits &&& 0xFFFFFFFFFFFFF).toNat
  if biased = 0 then ⟨fraction, -1074, false⟩
  else ⟨0x10000000000000 + fraction, biased - 1075, fraction = 0 ∧ 1 < biased⟩

structure GridPoint where
  digits : Nat
  exponent : Int
  deriving DecidableEq, Repr

inductive Tie where
  | toEven
  | away
  deriving DecidableEq, Repr

def twoTo (k : Int) : Nat := Nat.pow 2 k.toNat

def tenTo (k : Int) : Nat := Nat.pow 10 k.toNat

def compareScaled (a : Nat) (i : Int) (n : Nat) (j : Int) : Ordering :=
  compare (a * tenTo i * twoTo (-j)) (n * twoTo j * tenTo (-i))

/-- The decimal is one of the reals that round to `x`. The ends of the interval lie halfway to the
neighbouring values and belong to it when the mantissa is even. -/
def Magnitude.readsBack (x : Magnitude) (d : GridPoint) : Bool :=
  let low := compareScaled d.digits d.exponent
    (4 * x.mantissa - if x.narrow then 1 else 2) (x.exponent - 2)
  let high := compareScaled d.digits d.exponent (4 * x.mantissa + 2) (x.exponent - 2)
  if x.mantissa % 2 = 0 then low != .lt && high != .gt else low == .gt && high == .lt

def Magnitude.scale (x : Magnitude) : Int :=
  -- 30103 / 100000 is a little above the decimal logarithm of 2
  let guess := (x.mantissa.log2 + x.exponent) * 30103 / 100000
  let candidates := [guess - 1, guess, guess + 1, guess + 2]
  (candidates.find? fun k => compareScaled 1 k x.mantissa x.exponent == .gt).getD (guess + 3)

def Magnitude.floorAt (x : Magnitude) (exponent : Int) : Nat :=
  x.mantissa * twoTo x.exponent * tenTo (-exponent) / (twoTo (-x.exponent) * tenTo exponent)

def Magnitude.nearer (x : Magnitude) (tie : Tie) (below : GridPoint) : GridPoint :=
  let above : GridPoint := ⟨below.digits + 1, below.exponent⟩
  match compareScaled (2 * below.digits + 1) below.exponent (2 * x.mantissa) x.exponent, tie with
  | .gt, _ => below
  | .lt, _ => above
  | .eq, .toEven => if below.digits % 2 = 0 then below else above
  | .eq, .away => above

def Magnitude.onGrid? (x : Magnitude) (tie : Tie) (exponent : Int) : Option GridPoint :=
  let below : GridPoint := ⟨x.floorAt exponent, exponent⟩
  let above : GridPoint := ⟨below.digits + 1, exponent⟩
  match x.readsBack below, x.readsBack above with
  | true, true => some (x.nearer tie below)
  | true, false => some below
  | false, true => some above
  | false, false => none

def GridPoint.stripped : Nat → GridPoint → GridPoint
  | 0, d => d
  | fuel + 1, d =>
    if d.digits ≠ 0 ∧ d.digits % 10 = 0 then
      stripped fuel ⟨d.digits / 10, d.exponent + 1⟩
    else d

def Magnitude.shortest (x : Magnitude) (tie : Tie) : GridPoint :=
  if x.mantissa = 0 then ⟨0, 0⟩
  else
    let scale := x.scale
    let found := (List.range 17).findSome? fun n => x.onGrid? tie (scale - (n + 1 : Nat))
    let exact : GridPoint :=
      ⟨x.mantissa * twoTo x.exponent * Nat.pow 5 (-x.exponent).toNat, min x.exponent 0⟩
    let chosen := found.getD exact
    chosen.stripped chosen.digits.log2

end QueryTree.Decimal
