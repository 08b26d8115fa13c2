import QueryTree.Proofs.Operand.Json
import QueryTree.Proofs.Statement.Outline
import QueryTree.Proofs.Text.Cancel

/-! What the outline of an operation shows: a line for each of its nodes, and of the tree all but how
the parts of a field or of a constant are put together. The shape is told by the indentation alone,
since no caption starts with a blank. -/
namespace QueryTree

namespace Operand

def caption : Operand → String
  | .operation operator _ => "operator " ++ operator.symbol
  | .field f => "field " ++ f.text
  | .literal l => "literal " ++ l.value.text ++ " : " ++ l.type.name

mutual

def nodes (depth : Nat) : Operand → List (Nat × Operand)
  | .operation operator operands =>
    (depth, .operation operator operands) :: nodesAll (depth + 1) operands
  | .field f => [(depth, .field f)]
  | .literal l => [(depth, .literal l)]

def nodesAll (depth : Nat) : List Operand → List (Nat × Operand)
  | [] => []
  | operand :: rest => operand.nodes depth ++ nodesAll depth rest

end

mutual

def Unbroken : Operand → Prop
  | .operation _ operands => AllUnbroken operands
  | .field f => '\n' ∉ f.text.toList
  | .literal l => '\n' ∉ l.value.text.toList

def AllUnbroken : List Operand → Prop
  | [] => True
  | operand :: rest => operand.Unbroken ∧ AllUnbroken rest

end

mutual

def Alike : Operand → Operand → Prop
  | .operation operator operands, .operation other others =>
    operator = other ∧ AllAlike operands others
  | .field f, .field g => f.text = g.text
  | .literal l, .literal m => l.value.text = m.value.text ∧ l.type = m.type
  | _, _ => False

def AllAlike : List Operand → List Operand → Prop
  | [], [] => True
  | operand :: rest, other :: others => operand.Alike other ∧ AllAlike rest others
  | _, _ => False

end

end Operand

namespace OutlineLine

def characters (line : OutlineLine) : List Char :=
  List.replicate (2 * line.level) ' ' ++ line.text.toList

def Starts (line : OutlineLine) : Prop := ∃ c rest, line.text.toList = c :: rest ∧ c ≠ ' '

theorem renderCharacters (line : OutlineLine) : line.render.toList = line.characters ++ ['\n'] := by
  simp [render, characters]

theorem charactersUnbroken {line : OutlineLine} (unbroken : '\n' ∉ line.text.toList) :
    '\n' ∉ line.characters := by
  simp [characters, unbroken]

theorem charactersSame {line other : OutlineLine} (starts : line.Starts) (others : other.Starts)
    (same : line.characters = other.characters) : line = other := by
  obtain ⟨level, text⟩ := line
  obtain ⟨otherLevel, otherText⟩ := other
  obtain ⟨c, rest, shape, apart⟩ := starts
  obtain ⟨d, after, otherShape, otherApart⟩ := others
  have blanks (count : Nat) : ∀ c ∈ List.replicate count ' ', (c != ' ') = false := by simp
  obtain ⟨indented, texts⟩ := Text.wordCancels (blanks _) (blanks _)
    (shape ▸ Text.stopsAtCons (by simpa using apart))
    (otherShape ▸ Text.stopsAtCons (by simpa using otherApart)) same
  have levels := congrArg List.length indented
  simp only [List.length_replicate] at levels
  rw [OutlineLine.mk.injEq]
  exact ⟨by omega, String.toList_inj.mp texts⟩

theorem linesSame {lines others : List OutlineLine} (starts : ∀ line ∈ lines, line.Starts)
    (othersStart : ∀ line ∈ others, line.Starts)
    (same : lines.map characters = others.map characters) : lines = others := by
  induction lines generalizing others with
  | nil => exact (List.map_eq_nil_iff.mp same.symm).symm
  | cons line rest ih =>
    cases others with
    | nil => contradiction
    | cons other others =>
      obtain ⟨first, later⟩ := List.cons.inj same
      have head := charactersSame (starts line List.mem_cons_self)
        (othersStart other List.mem_cons_self) first
      have tail := ih (fun l h => starts l (List.mem_cons_of_mem _ h))
        (fun l h => othersStart l (List.mem_cons_of_mem _ h)) later
      rw [head, tail]

theorem linesSplit {lines : List OutlineLine} (unbroken : ∀ line ∈ lines, '\n' ∉ line.text.toList) :
    (renderOutline lines).toList.splitOn '\n' = lines.map characters ++ [[]] := by
  induction lines with
  | nil => rfl
  | cons line rest ih =>
    have inside : ∀ c ∈ line.characters, (c == '\n') = false := by
      intro c member
      have whole := charactersUnbroken (unbroken line List.mem_cons_self)
      simpa using fun same : c = '\n' => whole (same ▸ member)
    have later := ih fun l h => unbroken l (List.mem_cons_of_mem _ h)
    rw [renderOutlineCons, String.toList_append, renderCharacters, List.append_assoc,
      List.singleton_append, List.splitOn, List.splitOnP_append_cons_of_forall_mem inside _ (by rfl),
      ← List.splitOn, later]
    rfl

end OutlineLine

namespace Operand

def lineOf (level : Nat) (node : Nat × Operand) : OutlineLine := ⟨level + node.1, node.2.caption⟩

mutual

theorem outlineNodes (level depth : Nat) : (operand : Operand) →
    operand.outline (level + depth) = (operand.nodes depth).map (lineOf level)
  | .operation operator operands => by
    rw [outline, nodes, List.map_cons, ← outlinesNodes level (depth + 1) operands]
    rfl
  | .field _ => rfl
  | .literal _ => rfl

theorem outlinesNodes (level depth : Nat) : (operands : List Operand) →
    outlines (level + depth) operands = (nodesAll depth operands).map (lineOf level)
  | [] => rfl
  | operand :: rest => by
    rw [outlines, nodesAll, List.map_append, outlineNodes level depth operand,
      outlinesNodes level depth rest]

end

/- The first letter of a caption tells the kind of its node. -/
def initial : Operand → Char
  | .operation _ _ => 'o'
  | .field _ => 'f'
  | .literal _ => 'l'

theorem captionInitial (operand : Operand) :
    ∃ rest, operand.caption.toList = operand.initial :: rest := by
  cases operand <;>
    exact ⟨_, by simp only [caption, String.append_assoc, String.toList_append]; rfl⟩

theorem captionStarts (level : Nat) (operand : Operand) :
    OutlineLine.Starts ⟨level, operand.caption⟩ := by
  obtain ⟨rest, shape⟩ := captionInitial operand
  refine ⟨operand.initial, rest, shape, ?_⟩
  cases operand <;> simp [initial]

theorem symbolUnbroken (operator : Operator) : '\n' ∉ operator.symbol.toList := by
  cases operator with
  | connective c => cases c <;> decide
  | comparison c => cases c <;> decide

theorem typeUnspaced (type : LiteralType) : ' ' ∉ type.name.toList := by cases type <;> decide

theorem typeUnbroken (type : LiteralType) : '\n' ∉ type.name.toList := by cases type <;> decide

mutual

theorem nodesUnbroken (depth : Nat) : (operand : Operand) → operand.Unbroken →
    ∀ node ∈ operand.nodes depth, '\n' ∉ node.2.caption.toList
  | .operation operator operands, unbroken, node, member => by
    rcases List.mem_cons.mp member with rfl | below
    · simp [caption, symbolUnbroken]
    · exact allNodesUnbroken (depth + 1) operands unbroken node below
  | .field f, unbroken, node, member => by
    cases List.mem_singleton.mp member
    have text : '\n' ∉ f.text.toList := unbroken
    simp [caption, text]
  | .literal l, unbroken, node, member => by
    cases List.mem_singleton.mp member
    have text : '\n' ∉ l.value.text.toList := unbroken
    simp [caption, text, typeUnbroken]

theorem allNodesUnbroken (depth : Nat) : (operands : List Operand) → AllUnbroken operands →
    ∀ node ∈ nodesAll depth operands, '\n' ∉ node.2.caption.toList
  | [], _, _, member => by contradiction
  | operand :: rest, ⟨first, later⟩, node, member => by
    rcases List.mem_append.mp member with here | there
    · exact nodesUnbroken depth operand first node here
    · exact allNodesUnbroken depth rest later node there

end

theorem typedSame {text other : String} {type otherType : LiteralType}
    (same : text ++ " : " ++ type.name = other ++ " : " ++ otherType.name) :
    text = other ∧ type = otherType := by
  -- Read from the end, the text begins with the type, up to the first blank.
  have backwards := congrArg (fun t => t.toList.reverse) same
  have mark : " : ".toList.reverse = [' ', ':', ' '] := by rfl
  simp only [String.toList_append, List.reverse_append, mark, List.cons_append, List.nil_append]
    at backwards
  have unspaced (t : LiteralType) : ∀ c ∈ t.name.toList.reverse, (c == ' ') = false := by
    intro c inside
    rw [beq_eq_false_iff_ne]
    rintro rfl
    exact typeUnspaced t (List.mem_reverse.mp inside)
  obtain ⟨names, rests⟩ := Text.wordCancels (unspaced type) (unspaced otherType)
    (Text.stopsAtCons (by rfl)) (Text.stopsAtCons (by rfl)) backwards
  have named : type.name = otherType.name := String.toList_inj.mp (List.reverse_inj.mp names)
  have types := congrArg LiteralType.ofName? named
  rw [LiteralType.ofNameBack, LiteralType.ofNameBack] at types
  simp only [List.cons.injEq, true_and] at rests
  exact ⟨String.toList_inj.mp (List.reverse_inj.mp rests), Option.some.inj types⟩

theorem symbolSame {operator other : Operator} (same : operator.symbol = other.symbol) :
    operator = other := by
  have operators := congrArg Operator.ofSymbol? same
  rw [Operator.ofSymbolBack, Operator.ofSymbolBack] at operators
  exact Option.some.inj operators

def operands : Operand → List Operand
  | .operation _ operands => operands
  | .field _ | .literal _ => []

theorem outlineStart (level : Nat) (operand : Operand) :
    operand.outline level = ⟨level, operand.caption⟩ :: outlines (level + 1) operand.operands := by
  cases operand <;> rfl

theorem captionSame {operand other : Operand} (same : operand.caption = other.caption)
    (under : AllAlike operand.operands other.operands) : operand.Alike other := by
  obtain ⟨_, shape⟩ := captionInitial operand
  obtain ⟨_, otherShape⟩ := captionInitial other
  have kinds : operand.initial = other.initial := by
    rw [same, otherShape] at shape
    exact (List.cons.inj shape).1.symm
  cases operand <;> cases other <;> simp [initial] at kinds
  · exact ⟨symbolSame ((String.append_right_inj _).mp same), under⟩
  · exact (String.append_right_inj _).mp same
  · simp only [caption, String.append_assoc, String.append_right_inj] at same
    exact typedSame (by simpa only [String.append_assoc] using same)

def Ends (level : Nat) (rest : List OutlineLine) : Prop := ∀ line ∈ rest.head?, line.level < level

theorem outlinesStart (level : Nat) (operand : Operand) (others : List Operand)
    (rest : List OutlineLine) : outlines level (operand :: others) ++ rest =
      ⟨level, operand.caption⟩ ::
        (outlines (level + 1) operand.operands ++ (outlines level others ++ rest)) := by
  rw [outlines, outlineStart, List.append_assoc, List.cons_append]

theorem outlinesEnd (level : Nat) (operands : List Operand) {rest : List OutlineLine}
    (ends : Ends level rest) : Ends (level + 1) (outlines level operands ++ rest) := by
  cases operands with
  | nil => exact fun line first => Nat.lt_succ_of_lt (ends line first)
  | cons operand others =>
    rw [outlinesStart]
    rintro line ⟨⟩
    exact Nat.lt_succ_self level

theorem endsApart {level : Nat} {rest : List OutlineLine} (ends : Ends level rest) (operand : Operand)
    (others : List Operand) (after : List OutlineLine) :
    rest ≠ outlines level (operand :: others) ++ after := by
  rintro rfl
  rw [outlinesStart] at ends
  exact Nat.lt_irrefl level (ends _ rfl)

theorem operandsSmaller (operand : Operand) : sizeOf operand.operands ≤ sizeOf operand := by
  cases operand with
  | operation operator below =>
    rw [operands, operation.sizeOf_spec]
    omega
  | field f => simp [operands]
  | literal l => simp [operands]

theorem outlinesCancel (level : Nat) : (operands others : List Operand) →
    {rest after : List OutlineLine} → Ends level rest → Ends level after →
    outlines level operands ++ rest = outlines level others ++ after →
    AllAlike operands others ∧ rest = after
  | [], [], _, _, _, _, same => ⟨trivial, same⟩
  | [], other :: others, _, after, ends, _, same => absurd same (endsApart ends other others after)
  | operand :: operands, [], rest, _, _, ends, same =>
    absurd same.symm (endsApart ends operand operands rest)
  | operand :: operands, other :: others, rest, after, ends, otherEnds, same => by
    rw [outlinesStart, outlinesStart] at same
    obtain ⟨line, below⟩ := List.cons.inj same
    have smaller := operandsSmaller operand
    -- The lines under the node lie deeper than it, and end where the next line does not.
    obtain ⟨under, beside⟩ := outlinesCancel (level + 1) operand.operands other.operands
      (outlinesEnd level operands ends) (outlinesEnd level others otherEnds) below
    obtain ⟨later, rests⟩ := outlinesCancel level operands others ends otherEnds beside
    exact ⟨⟨captionSame (OutlineLine.mk.inj line).2 under, later⟩, rests⟩
termination_by operands => sizeOf operands

mutual

theorem alikeOutline (level : Nat) : (operand other : Operand) → operand.Alike other →
    operand.outline level = other.outline level
  | .operation _ operands, .operation _ others, ⟨rfl, under⟩ => by
    rw [outline, outline, alikeOutlines (level + 1) operands others under]
  | .field _, .field _, texts => by
    have texts : _ = _ := texts
    rw [outline, outline, texts]
  | .literal _, .literal _, ⟨texts, types⟩ => by rw [outline, outline, texts, types]

theorem alikeOutlines (level : Nat) : (operands others : List Operand) → AllAlike operands others →
    outlines level operands = outlines level others
  | [], [], _ => rfl
  | operand :: operands, other :: others, ⟨first, later⟩ => by
    rw [outlines, outlines, alikeOutline level operand other first,
      alikeOutlines level operands others later]

end

theorem outlineLines (level : Nat) (operand : Operand) :
    operand.outline level = (operand.nodes 0).map (lineOf level) := outlineNodes level 0 operand

theorem outlineSame (level : Nat) (operand other : Operand) :
    operand.outline level = other.outline level ↔ operand.Alike other := by
  refine ⟨fun same => ?_, alikeOutline level operand other⟩
  have none : Ends level [] := fun _ first => by contradiction
  have listed : outlines level [operand] ++ [] = outlines level [other] ++ [] := by
    simp only [outlines, same]
  exact (outlinesCancel level [operand] [other] none none listed).1.1

theorem outlineUnbroken (level : Nat) {operand : Operand} (unbroken : operand.Unbroken) :
    ∀ line ∈ operand.outline level, '\n' ∉ line.text.toList := by
  intro line member
  rw [outlineLines] at member
  obtain ⟨node, inside, rfl⟩ := List.mem_map.mp member
  exact nodesUnbroken 0 operand unbroken node inside

theorem outlineStarts (level : Nat) (operand : Operand) :
    ∀ line ∈ operand.outline level, line.Starts := by
  intro line member
  rw [outlineLines] at member
  obtain ⟨node, _, rfl⟩ := List.mem_map.mp member
  exact captionStarts _ node.2

end Operand

namespace Operation

def outlineText (level : Nat) (o : Operation) : String := renderOutline (o.outline level)

theorem outlineTextSplit (level : Nat) {o : Operation} (unbroken : o.asOperand.Unbroken) :
    (o.outlineText level).toList.splitOn '\n' = (o.outline level).map OutlineLine.characters ++ [[]] :=
  OutlineLine.linesSplit (Operand.outlineUnbroken level unbroken)

theorem outlineTextSame (level : Nat) {o p : Operation} (unbroken : o.asOperand.Unbroken)
    (other : p.asOperand.Unbroken) :
    o.outlineText level = p.outlineText level ↔ o.asOperand.Alike p.asOperand := by
  rw [← Operand.outlineSame level]
  constructor
  · intro same
    have splits := congrArg (fun text => text.toList.splitOn '\n') same
    simp only [outlineTextSplit level unbroken, outlineTextSplit level other] at splits
    exact OutlineLine.linesSame (Operand.outlineStarts level _) (Operand.outlineStarts level _)
      (List.append_cancel_right splits)
  · intro same
    exact congrArg renderOutline same

/-- Drawing an operation writes one line for each node, its operator, field or constant behind two
spaces for each level, and leaves the level of the page as it was. Two operations are drawn alike on
pages of the same level just when they have the same operators over the same operands in the same
order, down to the texts of fields and constants and the types of constants. -/
theorem outlineFaithful {o p : Operation} (unbroken : o.asOperand.Unbroken)
    (other : p.asOperand.Unbroken) (level : Nat) :
    (∀ written, o.draw.run ⟨level, written⟩ = .ok ((), ⟨level, written ++ o.outlineText level⟩)) ∧
    (o.outlineText level).toList.splitOn '\n' = ((o.asOperand.nodes 0).map fun (depth, node) =>
      List.replicate (2 * (level + depth)) ' ' ++ node.caption.toList) ++ [[]] ∧
    (o.outlineText level = p.outlineText level ↔ o.asOperand.Alike p.asOperand) := by
  refine ⟨Operand.draws level o.asOperand, ?_, outlineTextSame level unbroken other⟩
  rw [outlineTextSplit level unbroken, outline, Operand.outlineLines, List.map_map]
  rfl

/- Texts that look like other lines, with a group under a comparison and with it beside that. -/
def misleading : Operation :=
  ⟨.connective .not, [.operation (.comparison .noneOf) [.field ⟨some "literal a", "b : number"⟩,
    .literal ⟨.string "x' : null", .date⟩, .operation (.connective .or) []]]⟩

def misplaced : Operation :=
  ⟨.connective .not, [.operation (.comparison .noneOf) [.field ⟨some "literal a", "b : number"⟩,
    .literal ⟨.string "x' : null", .date⟩], .operation (.connective .or) []]⟩

theorem misleadingFaithful : misleading.asOperand.Unbroken ∧ misplaced.asOperand.Unbroken ∧
    (∀ written, misleading.draw.run ⟨3, written⟩ =
      .ok ((), ⟨3, written ++ misleading.outlineText 3⟩)) ∧
    ((misleading.outlineText 3).toList.splitOn '\n').map String.ofList =
      ["      operator not", "        operator nin", "          field literal a.b : number",
        "          literal 'x'' : null' : date", "          operator or", ""] ∧
    misleading.outlineText 3 ≠ misplaced.outlineText 3 := by
  have field : '\n' ∉ "literal a.b : number".toList := by decide
  have literal : '\n' ∉ "'x'' : null'".toList := by decide
  have unbroken : misleading.asOperand.Unbroken := ⟨⟨field, literal, trivial, trivial⟩, trivial⟩
  have other : misplaced.asOperand.Unbroken := ⟨⟨field, literal, trivial⟩, trivial, trivial⟩
  obtain ⟨drawn, split, same⟩ := outlineFaithful unbroken other 3
  refine ⟨unbroken, other, drawn, ?_, fun texts => ?_⟩
  · rw [split]
    decide
  · exact (same.mp texts).2.1.2.2.2

end Operation
end QueryTree
