import QueryTree.Filter.Compile
import QueryTree.Json.Record

/-! Settings of the compiler, and their JSON form. -/
namespace QueryTree

structure Config where
  maxFilterDepth : Nat
  maxFilterNodes : Option Nat
  strictFieldRefs : Bool
  honorConditionOperators : Bool
  deriving DecidableEq, Repr

namespace Config

open Json (Reader Record Result)

def standard : Config := ⟨256, none, false, false⟩

def filterSettings (c : Config) : Filter.Settings :=
  ⟨c.maxFilterDepth, c.maxFilterNodes, c.honorConditionOperators⟩

inductive Step where
  | maxFilterDepth (depth : Nat)
  | maxFilterNodes (nodes : Nat)
  | strict (on : Bool)
  | honorOperators (on : Bool)
  deriving DecidableEq, Repr

def apply (c : Config) : Step → Config
  | .maxFilterDepth depth => { c with maxFilterDepth := depth }
  | .maxFilterNodes nodes => { c with maxFilterNodes := some nodes }
  | .strict on => { c with strictFieldRefs := on }
  | .honorOperators on => { c with honorConditionOperators := on }

def build (steps : List Step) : Config := steps.foldl apply standard

def toJson (c : Config) : Json :=
  .object [("max_filter_depth", .integer c.maxFilterDepth),
    ("max_filter_nodes", match c.maxFilterNodes with
      | some nodes => .integer nodes
      | none => .null),
    ("strict_field_refs", .bool c.strictFieldRefs),
    ("honor_condition_operators", .bool c.honorConditionOperators)]

inductive Key where
  | maxFilterDepth
  | maxFilterNodes
  | strictFieldRefs
  | honorConditionOperators
  deriving DecidableEq, Repr

def Key.name : Key → String
  | .maxFilterDepth => "max_filter_depth"
  | .maxFilterNodes => "max_filter_nodes"
  | .strictFieldRefs => "strict_field_refs"
  | .honorConditionOperators => "honor_condition_operators"

def record : Record Key where
  Entry
    | .maxFilterDepth => UInt64
    | .maxFilterNodes => Option UInt64
    | .strictFieldRefs => Bool
    | .honorConditionOperators => Bool
  keys := [.maxFilterDepth, .maxFilterNodes, .strictFieldRefs, .honorConditionOperators]
  name := Key.name
  aliases _ := []
  optional _ := true
  exact := true
  read
    | .maxFilterDepth => Json.readNatural
    | .maxFilterNodes => Json.readOption Json.readNatural
    | .strictFieldRefs => Json.readBool
    | .honorConditionOperators => Json.readBool

def ofDraft (draft : record.Draft) : Result Config :=
  return ⟨((draft .maxFilterDepth).map UInt64.toNat).getD standard.maxFilterDepth,
    ((draft .maxFilterNodes).map (Option.map UInt64.toNat)).getD standard.maxFilterNodes,
    (draft .strictFieldRefs).getD standard.strictFieldRefs,
    (draft .honorConditionOperators).getD standard.honorConditionOperators⟩

def read : Reader Config := record.reader ofDraft

end Config
end QueryTree
