import QueryTree.Decimal.Shortest

/-! How a floating-point number is written: which digits are taken, when they are written
positionally, and what stands for the values that have no digits. -/
namespace QueryTree.Decimal

structure Layout where
  positional : Int → Bool
  pointZero : Bool
  tie : Tie
  nan : String
  infinity : String

def Layout.plain (layout : Layout) (digits : List Char) (lead : Int) : List Char :=
  if lead < 0 then
    '0' :: '.' :: List.replicate (-lead - 1).toNat '0' ++ digits
  else
    let whole := lead.toNat + 1
    let left := digits.take whole ++ List.replicate (whole - digits.length) '0'
    match digits.drop whole with
    | [] => if layout.pointZero then left ++ ['.', '0'] else left
    | fraction => left ++ '.' :: fraction

def scientific (digits : List Char) (lead : Int) : List Char :=
  let mark := if lead < 0 then ['e', '-'] else ['e', '+']
  let power := mark ++ Nat.toDigits 10 lead.natAbs
  match digits with
  | [] => power
  | [d] => d :: power
  | d :: more => d :: '.' :: more ++ power

def Layout.write (layout : Layout) (d : GridPoint) : List Char :=
  let digits := Nat.toDigits 10 d.digits
  let lead := d.exponent + digits.length - 1
  if layout.positional lead then layout.plain digits lead else scientific digits lead

def isNegative (x : Float) : Bool := x.toBits >>> 63 == 1

def Layout.render (layout : Layout) (x : Float) : String :=
  if x.isNaN then layout.nan
  else
    let sign := if isNegative x then "-" else ""
    if x.isInf then sign ++ layout.infinity
    else sign ++ String.ofList (layout.write ((Magnitude.ofBits x.toBits).shortest layout.tie))

end QueryTree.Decimal
