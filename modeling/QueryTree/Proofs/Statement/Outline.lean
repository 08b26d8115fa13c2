import QueryTree.Statement.Outline

/-! Drawing an outline. What is drawn is the outline's lines at the level of the page, behind what is
written already, and the page has the same level again afterwards. -/
namespace QueryTree

@[simp] theorem renderOutlineCons (line : OutlineLine) (rest : List OutlineLine) :
    renderOutline (line :: rest) = line.render ++ renderOutline rest := by
  apply String.ext
  simp [renderOutline, String.toList_join]

@[simp] theorem renderOutlineAppend (before after : List OutlineLine) :
    renderOutline (before ++ after) = renderOutline before ++ renderOutline after := by
  induction before with
  | nil => simp [renderOutline]
  | cons line rest ih =>
    rw [List.cons_append, renderOutlineCons, renderOutlineCons, ih, String.append_assoc]

namespace Drawing

def Draws (drawing : Drawing) (level : Nat) (lines : List OutlineLine) : Prop :=
  ∀ written, drawing.run ⟨level, written⟩ = .ok ((), ⟨level, written ++ renderOutline lines⟩)

theorem indented (count : Nat) (page : Page) : ((List.replicate count "  ").forM write).run page =
    .ok ((), { page with
      written := page.written ++ String.ofList (List.replicate (2 * count) ' ') }) := by
  induction count generalizing page with
  | zero =>
    simp only [Nat.mul_zero, List.replicate_zero, String.ofList_nil, String.append_empty]
    rfl
  | succ count ih =>
    have spaces : String.ofList (List.replicate (2 * (count + 1)) ' ') =
        "  " ++ String.ofList (List.replicate (2 * count) ' ') := by
      apply String.ext
      simp [Nat.mul_succ, List.replicate_succ]
    rw [spaces, ← String.append_assoc]
    exact ih { page with written := page.written ++ "  " }

theorem lineDraws (text : String) (level : Nat) : (line text).Draws level [⟨level, text⟩] := by
  intro written
  have indents := indented level ⟨level, written⟩
  have drawn : (line text).run ⟨level, written⟩ =
      (do let (_, page) ← ((List.replicate level "  ").forM write).run ⟨level, written⟩
          (write (text ++ "\n")).run page) := rfl
  rw [drawn, indents]
  have shown : renderOutline [⟨level, text⟩] =
      String.ofList (List.replicate (2 * level) ' ') ++ (text ++ "\n") := by
    simp [OutlineLine.render, renderOutline, String.append_assoc]
  rw [shown, ← String.append_assoc]
  rfl

theorem nothingDraws (level : Nat) : Draws (pure ()) level [] := by
  intro written
  simp [renderOutline]
  rfl

theorem thenDraws {first second : Drawing} {level : Nat} {lines more : List OutlineLine}
    (one : first.Draws level lines) (other : second.Draws level more) :
    Draws (do first; second) level (lines ++ more) := by
  intro written
  rw [renderOutlineAppend, ← String.append_assoc, ← other, StateT.run_bind, one]
  rfl

theorem underDraws {inner : Drawing} {level : Nat} {lines : List OutlineLine} (heading : String)
    (drawn : inner.Draws (level + 1) lines) :
    (under heading inner).Draws level (⟨level, heading⟩ :: lines) := by
  intro written
  have steps : (under heading inner).run ⟨level, written⟩ =
      (do let headed ← (line heading).run ⟨level, written⟩
          let drawn ← inner.run { headed.2 with level := headed.2.level + 1 }
          pure ((), { drawn.2 with level := drawn.2.level - 1 })) := rfl
  rw [steps, lineDraws]
  have goesOn := drawn (written ++ renderOutline [⟨level, heading⟩])
  have whole : renderOutline (⟨level, heading⟩ :: lines) =
      renderOutline [⟨level, heading⟩] ++ renderOutline lines :=
    renderOutlineAppend [⟨level, heading⟩] lines
  rw [whole, ← String.append_assoc]
  simp only [bind, Except.bind, goesOn]
  rfl

theorem eachDraws {α : Type} {draw : α → Drawing} {level : Nat} {lines : α → List OutlineLine}
    (each : ∀ a, (draw a).Draws level (lines a)) (all : List α) :
    Draws (all.forM draw) level (all.flatMap lines) := by
  induction all with
  | nil => exact nothingDraws level
  | cons a rest ih => exact thenDraws (each a) ih

theorem linesDraw {α : Type} {draw : α → Drawing} {level : Nat} {outline : α → OutlineLine}
    (each : ∀ a, (draw a).Draws level [outline a]) (all : List α) :
    Draws (all.forM draw) level (all.map outline) := by
  rw [List.map_eq_flatMap]
  exact eachDraws each all

theorem optionalDraws {α : Type} {draw : α → Drawing} {lines : α → List OutlineLine}
    (each : ∀ a, (draw a).Draws 0 (lines a)) (clause : Option α) :
    (optional draw clause).Draws 0 ((clause.map lines).getD []) := by
  cases clause with
  | none => exact nothingDraws 0
  | some a => exact each a

end Drawing

open Drawing (line under optional lineDraws nothingDraws thenDraws underDraws eachDraws linesDraw
  optionalDraws)

namespace Operand

mutual

theorem draws (level : Nat) : (operand : Operand) → operand.draw.Draws level (operand.outline level)
  | .operation _ operands => underDraws _ (allDraw (level + 1) operands)
  | .field _ => lineDraws _ level
  | .literal _ => lineDraws _ level

theorem allDraw (level : Nat) : (operands : List Operand) →
    (drawAll operands).Draws level (outlines level operands)
  | [] => nothingDraws level
  | operand :: rest => thenDraws (draws level operand) (allDraw level rest)

end

end Operand

theorem Operation.draws (level : Nat) (o : Operation) : o.draw.Draws level (o.outline level) :=
  Operand.draws level o.asOperand

namespace Statement

theorem columnDraws (c : Column) : c.draw.Draws 1 [c.outline] := by
  cases c <;> exact lineDraws _ 1

theorem fieldDraws (f : Field) :
    (line ("field " ++ f.text)).Draws 1 [⟨1, "field " ++ f.text⟩] := lineDraws _ 1

theorem orderItemDraws (item : OrderItem) :
    (line ("field " ++ item.text)).Draws 1 [item.outline] := lineDraws _ 1

theorem joinDraws (j : Join) : j.draw.Draws 0 j.outline :=
  underDraws _ (underDraws _ (Operation.draws 2 j.on))

theorem outlineClauses (s : Statement) : s.outline =
    ⟨0, "select"⟩ :: (s.columns.map Column.outline ++ ⟨0, "from " ++ s.table⟩ ::
      ((s.condition.map fun o => ⟨0, "where"⟩ :: o.outline 1).getD [] ++
      ((s.joins.getD []).flatMap Join.outline ++
      ((s.groupBy.map fun fs => ⟨0, "group_by"⟩ :: fs.map fun f => ⟨1, "field " ++ f.text⟩).getD [] ++
      ((s.orderBy.map fun items => ⟨0, "order_by"⟩ :: items.map OrderItem.outline).getD [] ++
      ((s.limit.map fun n => ⟨0, "limit " ++ toString n.toNat⟩).toList ++
      (s.offset.map fun n => ⟨0, "offset " ++ toString n.toNat⟩).toList)))))) := by
  obtain ⟨columns, table, condition, joins, groupBy, orderBy, limit, offset⟩ := s
  cases condition <;> cases groupBy <;> cases orderBy <;> simp [outline]

theorem draws (s : Statement) : s.draw.Draws 0 s.outline := by
  have condition := optionalDraws (fun o => underDraws "where" (Operation.draws 1 o)) s.condition
  have groupBy := optionalDraws (fun fs => underDraws "group_by" (linesDraw fieldDraws fs)) s.groupBy
  have orderBy := optionalDraws (fun items => underDraws "order_by" (linesDraw orderItemDraws items))
    s.orderBy
  have bound (name : String) (n : Option UInt64) :
      Drawing.Draws (optional (fun n : UInt64 => line (name ++ toString n.toNat)) n) 0
        (n.map fun n => OutlineLine.mk 0 (name ++ toString n.toNat)).toList := by
    cases n with
    | none => exact nothingDraws 0
    | some n => exact lineDraws _ 0
  have drawn := thenDraws (underDraws "select" (linesDraw columnDraws s.columns)) <|
    thenDraws (lineDraws ("from " ++ s.table) 0) <| thenDraws condition <|
    thenDraws (eachDraws joinDraws (s.joins.getD [])) <| thenDraws groupBy <| thenDraws orderBy <|
    thenDraws (bound "limit " s.limit) (bound "offset " s.offset)
  rw [List.cons_append, List.singleton_append] at drawn
  rw [outlineClauses]
  exact drawn

theorem formatWritten (s : Statement) : s.format = .ok s.outlineText := by
  rw [format, draws, String.empty_append]
  rfl

end Statement
end QueryTree
