import QueryTree.Text.Bytes
import QueryTree.Text.Letter

/-! The strict form of field references: an identifier, a table and an identifier, or a wildcard in
place of the column or of the whole. -/
namespace QueryTree

structure Reference where
  table : Option String
  name : String
  deriving DecidableEq, Repr

inductive ReferenceFault where
  | empty
  | noIdentifier (found : Char)
  | unexpected (found : Char) (position : Nat)
  deriving DecidableEq, Repr

def ReferenceFault.message : ReferenceFault → String
  | .empty => "empty reference"
  | .noIdentifier found => "expected an identifier or '*', found '" ++ found.toString ++ "'"
  | .unexpected found position =>
    "unexpected '" ++ found.toString ++ "' at position " ++ toString position

namespace Reference

def startsIdentifier (c : Char) : Bool := Text.isLetter c || c == '_'

def continuesIdentifier (c : Char) : Bool := Text.isLetterOrNumeral c || c == '_' || c == '$'

def identifier? : List Char → Option (List Char × List Char)
  | [] => none
  | c :: rest =>
    if startsIdentifier c then
      some (c :: rest.takeWhile continuesIdentifier, rest.dropWhile continuesIdentifier)
    else none

def longest? : List Char → Option (Reference × List Char)
  | '*' :: rest => some (⟨none, "*"⟩, rest)
  | text => do
    let (first, rest) ← identifier? text
    match rest with
    | '.' :: '*' :: after => return (⟨some (String.ofList first), "*"⟩, after)
    | '.' :: more =>
      match identifier? more with
      | some (name, after) => return (⟨some (String.ofList first), String.ofList name⟩, after)
      | none => return (⟨none, String.ofList first⟩, rest)
    | _ => return (⟨none, String.ofList first⟩, rest)

def parse (text : String) : Except ReferenceFault Reference :=
  match text.toList with
  | [] => .error .empty
  | c :: rest =>
    match longest? (c :: rest) with
    | none => .error (.noIdentifier c)
    | some (reference, []) => .ok reference
    | some (_, d :: after) =>
      .error (.unexpected d (Text.byteLength (c :: rest) - Text.byteLength (d :: after)))

end Reference
end QueryTree
