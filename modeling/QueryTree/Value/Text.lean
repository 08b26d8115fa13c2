import QueryTree.Value.Json
import QueryTree.Text.Quoted

/-! Values as literals of a query text. -/
namespace QueryTree.Value

def floatLayout : Decimal.Layout where
  positional _ := true
  pointZero := false
  tie := .away
  nan := "NaN"
  infinity := "inf"

mutual

def text : Value → String
  | .null => "NULL"
  | .bool b => if b then "true" else "false"
  | .int n => String.ofList (Json.integerText n.toInt)
  | .float x => floatLayout.render x
  | .string s => Text.quoted s
  | .date t => Text.quoted t.text
  | .array items => "(" ++ itemsText items ++ ")"
  | .object entries => Text.quoted (Json.compact (.object (entriesToJson entries)))

def itemsText : List Value → String
  | [] => ""
  | [item] => item.text
  | item :: rest => item.text ++ ", " ++ itemsText rest

end

end QueryTree.Value
