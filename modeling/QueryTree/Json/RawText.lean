import QueryTree.Json.Fault
import QueryTree.Text.Bytes

/-! Strings as they stand in a JSON text. Passing over a string asks less than reading it: escapes
that are no whole character matter only to a reader. -/
namespace QueryTree.Json

inductive Piece where
  | char (c : Char)
  | unit (n : Nat)
  deriving DecidableEq, Repr

structure RawText where
  pieces : List Piece
  fault : Option Fault
  deriving DecidableEq, Repr

def isLeading (n : Nat) : Bool := 0xD800 ≤ n && n ≤ 0xDBFF

def isTrailing (n : Nat) : Bool := 0xDC00 ≤ n && n ≤ 0xDFFF

def joinUnits (high low : Nat) : Char :=
  Char.ofNat (0x10000 + (high - 0xD800) * 0x400 + (low - 0xDC00))

def readPieces (fault : Option Fault) : List Piece → Except Fault (List Char)
  | [] =>
    match fault with
    | none => .ok []
    | some f => .error f
  | .char c :: rest => return c :: (← readPieces fault rest)
  | .unit n :: rest =>
    if isTrailing n then .error .malformed
    else if isLeading n then
      match rest with
      | .unit m :: rest =>
        if isTrailing m then return joinUnits n m :: (← readPieces fault rest)
        else .error .malformed
      | .char _ :: _ => .error .malformed
      | [] => .error (fault.getD .malformed)
    else return Char.ofNat n :: (← readPieces fault rest)

def RawText.read (t : RawText) : Except Fault String :=
  (readPieces t.fault t.pieces).map String.ofList

def RawText.skip (t : RawText) : Except Fault Unit :=
  match t.fault with
  | none => .ok ()
  | some f => .error f

def hexValue? (c : Char) : Option Nat :=
  if '0' ≤ c ∧ c ≤ '9' then some (c.toNat - '0'.toNat)
  else if 'a' ≤ c ∧ c ≤ 'f' then some (c.toNat - 'a'.toNat + 10)
  else if 'A' ≤ c ∧ c ≤ 'F' then some (c.toNat - 'A'.toNat + 10)
  else none

def unit? (a b c d : Char) : Option Nat := do
  return 4096 * (← hexValue? a) + 256 * (← hexValue? b) + 16 * (← hexValue? c) + (← hexValue? d)

def escape? (c : Char) : Option Char :=
  if c = '"' ∨ c = '\\' ∨ c = '/' then some c
  else if c = 'b' then some '\x08'
  else if c = 'f' then some '\x0c'
  else if c = 'n' then some '\n'
  else if c = 'r' then some '\r'
  else if c = 't' then some '\t'
  else none

/-- A unit takes four bytes of the text, whatever characters they belong to. -/
def lacksUnit (text : List Char) : Bool := Text.byteLength (text.take 4) < 4

def splitText : List Char → RawText × List Char
  | [] => (⟨[], some .truncated⟩, [])
  | '"' :: rest => (⟨[], none⟩, rest)
  | '\\' :: [] => (⟨[], some .truncated⟩, [])
  | '\\' :: 'u' :: rest =>
    if lacksUnit rest then (⟨[], some .truncated⟩, [])
    else
      match rest with
      | a :: b :: c :: d :: rest =>
        match unit? a b c d with
        | some n =>
          let (text, rest) := splitText rest
          (⟨.unit n :: text.pieces, text.fault⟩, rest)
        | none => (⟨[], some .malformed⟩, [])
      | _ => (⟨[], some .malformed⟩, [])
  | '\\' :: e :: rest =>
    match escape? e with
    | some c =>
      let (text, rest) := splitText rest
      (⟨.char c :: text.pieces, text.fault⟩, rest)
    | none => (⟨[], some .malformed⟩, [])
  | c :: rest =>
    if c.toNat < 0x20 then (⟨[], some .malformed⟩, [])
    else
      let (text, rest) := splitText rest
      (⟨.char c :: text.pieces, text.fault⟩, rest)

theorem splitTextLength (text : List Char) : (splitText text).2.length ≤ text.length := by
  fun_induction splitText text <;> simp_all <;> omega

end QueryTree.Json
