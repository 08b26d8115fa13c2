import QueryTree.Json.Fault

/-! Numbers as they stand in a JSON text, and their values. -/
namespace QueryTree.Json

structure Numeral where
  negative : Bool
  whole : List Char
  fraction : Option (List Char)
  exponent : Option (Bool × List Char)
  deriving DecidableEq, Repr

inductive Number where
  | integer (n : Int)
  | real (x : Float)
  deriving Repr

def digitValue (c : Char) : Nat := c.toNat - '0'.toNat

def extend : Nat → List Char → Nat × List Char
  | significand, [] => (significand, [])
  | significand, c :: rest =>
    let next := 10 * significand + digitValue c
    if next < UInt64.size then extend next rest else (significand, c :: rest)

def powerOfTen (n : Nat) : Float := Float.ofScientific 1 false n

def scaleBy (x : Float) (exponent : Int) : Option Float :=
  if exponent.natAbs ≤ 308 then
    if 0 ≤ exponent then
      let scaled := x * powerOfTen exponent.toNat
      if scaled.isInf then none else some scaled
    else some (x / powerOfTen exponent.natAbs)
  else if x == 0 then some x
  else if 0 ≤ exponent then none
  else scaleBy (x / powerOfTen 308) (exponent + 308)
termination_by exponent.natAbs
decreasing_by omega

def exponentBound : Nat := 2147483647

def digitsValue (digits : List Char) : Nat :=
  digits.foldl (fun value c => 10 * value + digitValue c) 0

def Numeral.real? (n : Numeral) : Option Float :=
  let (significand, dropped) := extend 0 n.whole
  let fraction := n.fraction.getD []
  let (significand, unread) := extend significand fraction
  -- digits that were dropped raise the exponent, digits of the fraction that were taken lower it
  let start : Int := dropped.length - (fraction.length - unread.length : Nat)
  let magnitude :=
    match n.exponent with
    | none => scaleBy significand.toUInt64.toFloat start
    | some (down, digits) =>
      let size := digitsValue digits
      if exponentBound < size then
        if significand ≠ 0 ∧ !down then none else some 0
      else
        let sum := if down then start - size else start + size
        scaleBy significand.toUInt64.toFloat (max (-exponentBound - 1) (min exponentBound sum))
  magnitude.map fun x => if n.negative then -x else x

/-- A numeral without fraction and exponent is a whole number when it fits into 64 bits, unsigned
or, after a minus sign, signed. Minus zero and all others are floating-point numbers. -/
def Numeral.value (n : Numeral) : Except Fault Number :=
  let size := digitsValue n.whole
  let isWhole := n.fraction.isNone && n.exponent.isNone
  if isWhole ∧ !n.negative ∧ size < UInt64.size then .ok (.integer size)
  else if isWhole ∧ n.negative ∧ 0 < size ∧ size ≤ 9223372036854775808 then .ok (.integer (-size))
  else
    match n.real? with
    | some x => .ok (.real x)
    | none => .error .malformed

end QueryTree.Json
