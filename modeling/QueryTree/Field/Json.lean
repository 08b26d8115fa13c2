import QueryTree.Field.Basic
import QueryTree.Json.Record

/-! Fields as JSON. -/
namespace QueryTree

open Json (Reader Record Result)

namespace Field

def members (f : Field) : List (String × Json) :=
  Json.optional "table" .string f.table ++ [("name", .string f.name)]

def toJson (f : Field) : Json := .object f.members

inductive Key where
  | table
  | name
  deriving DecidableEq, Repr

def record : Record Key where
  Entry
    | .table => Option String
    | .name => String
  keys := [.table, .name]
  name
    | .table => "table"
    | .name => "name"
  aliases _ := []
  optional key := key == .table
  exact := false
  read
    | .table => Json.readOption Json.readString
    | .name => Json.readString

def ofDraft (draft : record.Draft) : Result Field := do
  let name ← draft.require .name
  return ⟨(draft .table).getD none, name⟩

def read : Reader Field := record.reader ofDraft

end Field

end QueryTree
