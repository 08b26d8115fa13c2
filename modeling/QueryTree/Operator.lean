import QueryTree.Text.Blank

/-! Operators: connectives of conditions and comparisons of a field with a value. -/
namespace QueryTree

inductive Connective where
  | and
  | or
  | not
  deriving DecidableEq, Repr, Inhabited

inductive Comparison where
  | eq
  | ne
  | gt
  | gte
  | lt
  | lte
  | oneOf
  | noneOf
  | like
  deriving DecidableEq, Repr, Inhabited

inductive Operator where
  | connective (c : Connective)
  | comparison (c : Comparison)
  deriving DecidableEq, Repr

namespace Connective

def symbol : Connective → String
  | .and => "and"
  | .or => "or"
  | .not => "not"

def ofSymbol? (name : String) : Option Connective :=
  [.and, .or, .not].find? fun c => c.symbol == name

def keyword : Connective → String
  | .and => "AND"
  | .or => "OR"
  | .not => "NOT"

end Connective

namespace Comparison

def all : List Comparison := [.eq, .ne, .gt, .gte, .lt, .lte, .oneOf, .noneOf, .like]

def symbol : Comparison → String
  | .eq => "="
  | .ne => "!="
  | .gt => ">"
  | .gte => ">="
  | .lt => "<"
  | .lte => "<="
  | .oneOf => "in"
  | .noneOf => "nin"
  | .like => "like"

def keyword : Comparison → String
  | .oneOf => "IN"
  | .noneOf => "NOT IN"
  | .like => "LIKE"
  | c => c.symbol

def aliases : Comparison → List String
  | .eq => ["eq", "=="]
  | .ne => ["ne", "<>"]
  | .gt => ["gt"]
  | .gte => ["gte"]
  | .lt => ["lt"]
  | .lte => ["lte"]
  | .oneOf => []
  | .noneOf => ["not in"]
  | .like => ["contains"]

def ofSpelling? (spelling : String) : Option Comparison :=
  all.find? fun c => c.symbol == spelling || c.aliases.contains spelling

def ofWord? : String → Option Comparison
  | "=" | "==" | "eq" => some .eq
  | "!=" | "<>" | "ne" => some .ne
  | ">" | "gt" => some .gt
  | ">=" | "gte" => some .gte
  | "<" | "lt" => some .lt
  | "<=" | "lte" => some .lte
  | "in" => some .oneOf
  | "nin" | "not in" => some .noneOf
  | "like" | "contains" => some .like
  | _ => none

def ofDeclared? (text : String) : Option Comparison := ofWord? (Text.trim text).toLower

def unknownMessage (text : String) : String := "unknown comparison operator '" ++ text ++ "'"

end Comparison

namespace Operator

def symbol : Operator → String
  | .connective c => c.symbol
  | .comparison c => c.symbol

def keyword : Operator → String
  | .connective c => c.keyword
  | .comparison c => c.keyword

def isConnective : Operator → Bool
  | .connective _ => true
  | .comparison _ => false

def all : List Operator :=
  [.connective .and, .connective .or, .connective .not] ++ Comparison.all.map .comparison

def ofSymbol? (name : String) : Option Operator := all.find? fun o => o.symbol == name

end Operator

inductive SortOrder where
  | asc
  | desc
  deriving DecidableEq, Repr, Inhabited

namespace SortOrder

def name : SortOrder → String
  | .asc => "asc"
  | .desc => "desc"

def keyword : SortOrder → String
  | .asc => "ASC"
  | .desc => "DESC"

def ofSpelling? : String → Option SortOrder
  | "asc" | "ascending" | "ASC" => some .asc
  | "desc" | "descending" | "DESC" => some .desc
  | _ => none

end SortOrder
end QueryTree
