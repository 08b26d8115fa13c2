import QueryTree.Statement.Text

/-! Statements as an outline, one node a line, each level indented by two spaces. -/
namespace QueryTree

structure OutlineLine where
  level : Nat
  text : String
  deriving DecidableEq, Repr

def OutlineLine.render (line : OutlineLine) : String :=
  String.ofList (List.replicate (2 * line.level) ' ') ++ line.text ++ "\n"

def renderOutline (lines : List OutlineLine) : String :=
  String.join (lines.map OutlineLine.render)

mutual

def Operand.outline (level : Nat) : Operand → List OutlineLine
  | .operation operator operands =>
    ⟨level, "operator " ++ operator.symbol⟩ :: outlines (level + 1) operands
  | .field f => [⟨level, "field " ++ f.text⟩]
  | .literal l => [⟨level, "literal " ++ l.value.text ++ " : " ++ l.type.name⟩]

def Operand.outlines (level : Nat) : List Operand → List OutlineLine
  | [] => []
  | operand :: rest => operand.outline level ++ outlines level rest

end

def Operation.outline (level : Nat) (o : Operation) : List OutlineLine := o.asOperand.outline level

namespace Statement

def Column.outline : Column → OutlineLine
  | .field f => ⟨1, "field " ++ f.text⟩
  | .aggregate a => ⟨1, "aggregate " ++ a.text⟩

def Join.outline (j : Join) : List OutlineLine :=
  ⟨0, "join " ++ j.kind ++ " " ++ j.table ++ (match j.aliasName with
    | some name => " as " ++ name
    | none => "")⟩ :: ⟨1, "on"⟩ :: j.on.outline 2

def OrderItem.outline (item : OrderItem) : OutlineLine := ⟨1, "field " ++ item.text⟩

def outline (s : Statement) : List OutlineLine :=
  ⟨0, "select"⟩ :: s.columns.map Column.outline ++ ⟨0, "from " ++ s.table⟩ ::
    (match s.condition with
      | some o => ⟨0, "where"⟩ :: o.outline 1
      | none => []) ++
    (s.joins.getD []).flatMap Join.outline ++
    (match s.groupBy with
      | some fs => ⟨0, "group_by"⟩ :: fs.map fun f => ⟨1, "field " ++ f.text⟩
      | none => []) ++
    (match s.orderBy with
      | some items => ⟨0, "order_by"⟩ :: items.map OrderItem.outline
      | none => []) ++
    (s.limit.map fun n => OutlineLine.mk 0 ("limit " ++ toString n.toNat)).toList ++
    (s.offset.map fun n => OutlineLine.mk 0 ("offset " ++ toString n.toNat)).toList

def outlineText (s : Statement) : String := renderOutline s.outline

end Statement

inductive FormatError where
  | refused
  deriving DecidableEq, Repr

def FormatError.message : FormatError → String
  | .refused => "an error occurred when formatting an argument"

/-- Writes behind what is written already. A text in memory takes everything. -/
def writeText (written text : String) : Except FormatError String := .ok (written ++ text)

structure Page where
  level : Nat
  written : String
  deriving DecidableEq, Repr

abbrev Drawing := StateT Page (Except FormatError) Unit

namespace Drawing

def write (text : String) : Drawing := do
  let page ← get
  set { page with written := ← writeText page.written text }

def indent : Drawing := do
  (List.replicate (← get).level "  ").forM write

def line (text : String) : Drawing := do
  indent
  write (text ++ "\n")

def under (heading : String) (inner : Drawing) : Drawing := do
  line heading
  modify fun page => { page with level := page.level + 1 }
  inner
  modify fun page => { page with level := page.level - 1 }

def optional {α : Type} (draw : α → Drawing) : Option α → Drawing
  | some a => draw a
  | none => pure ()

end Drawing

open Drawing (line under optional)

mutual

def Operand.draw : Operand → Drawing
  | .operation operator operands => under ("operator " ++ operator.symbol) (drawAll operands)
  | .field f => line ("field " ++ f.text)
  | .literal l => line ("literal " ++ l.value.text ++ " : " ++ l.type.name)

def Operand.drawAll : List Operand → Drawing
  | [] => pure ()
  | operand :: rest => do
    operand.draw
    drawAll rest

end

def Operation.draw (o : Operation) : Drawing := o.asOperand.draw

namespace Statement

def Column.draw : Column → Drawing
  | .field f => line ("field " ++ f.text)
  | .aggregate a => line ("aggregate " ++ a.text)

def Join.draw (j : Join) : Drawing :=
  under ("join " ++ j.kind ++ " " ++ j.table ++ (match j.aliasName with
    | some name => " as " ++ name
    | none => "")) (under "on" j.on.draw)

def draw (s : Statement) : Drawing := do
  under "select" (s.columns.forM Column.draw)
  line ("from " ++ s.table)
  optional (fun o : Operation => under "where" o.draw) s.condition
  (s.joins.getD []).forM Join.draw
  optional (fun fs => under "group_by" (fs.forM fun f => line ("field " ++ f.text))) s.groupBy
  optional (fun items => under "order_by" (items.forM fun item => line ("field " ++ item.text)))
    s.orderBy
  optional (fun n : UInt64 => line ("limit " ++ toString n.toNat)) s.limit
  optional (fun n : UInt64 => line ("offset " ++ toString n.toNat)) s.offset

def format (s : Statement) : Except FormatError String := do
  let (_, page) ← s.draw.run ⟨0, ""⟩
  return page.written

end Statement
end QueryTree
