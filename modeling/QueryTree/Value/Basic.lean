import QueryTree.Time.Instant

/-! The constants that conditions compare with. -/
namespace QueryTree

inductive Value where
  | null
  | bool (b : Bool)
  | int (n : Int64)
  | float (x : Float)
  | string (s : String)
  | date (t : Time.Instant)
  | array (items : List Value)
  /-- Entries in ascending order of their names, each name once. -/
  | object (entries : List (String × Value))
  deriving Repr, Inhabited

namespace Value

def isNull : Value → Bool
  | .null => true
  | _ => false

mutual

/-- Equality of constants. Numbers of the two kinds differ, a NaN differs from itself, and the two
zeros are equal. -/
def beq : Value → Value → Bool
  | .null, .null => true
  | .bool a, .bool b => a == b
  | .int m, .int n => m == n
  | .float x, .float y => x == y
  | .string s, .string t => s == t
  | .date t, .date u => decide (t = u)
  | .array a, .array b => beqItems a b
  | .object a, .object b => beqEntries a b
  | _, _ => false

def beqItems : List Value → List Value → Bool
  | [], [] => true
  | a :: as, b :: bs => beq a b && beqItems as bs
  | _, _ => false

def beqEntries : List (String × Value) → List (String × Value) → Bool
  | [], [] => true
  | (m, a) :: as, (n, b) :: bs => m == n && beq a b && beqEntries as bs
  | _, _ => false

end

instance : BEq Value := ⟨beq⟩

def Ascending (entries : List (String × Value)) : Prop := entries.Pairwise fun a b => a.1 < b.1

instance (entries : List (String × Value)) : Decidable (Ascending entries) :=
  inferInstanceAs (Decidable (entries.Pairwise fun a b => a.1 < b.1))

def insertEntry (name : String) (value : Value) : List (String × Value) → List (String × Value)
  | [] => [(name, value)]
  | (other, held) :: rest =>
    if name < other then (name, value) :: (other, held) :: rest
    else if name = other then (name, value) :: rest
    else (other, held) :: insertEntry name value rest

theorem insertInside {name : String} {value : Value} {sorted : List (String × Value)}
    {entry : String × Value} (inside : entry ∈ insertEntry name value sorted) :
    entry = (name, value) ∨ entry ∈ sorted := by
  fun_induction insertEntry name value sorted with
  | case1 => exact .inl (List.mem_singleton.mp inside)
  | case2 => exact List.mem_cons.mp inside
  | case3 =>
    rcases List.mem_cons.mp inside with same | inside
    · exact .inl same
    · exact .inr (List.mem_cons_of_mem _ inside)
  | case4 other held rest _ _ ih =>
    rcases List.mem_cons.mp inside with same | inside
    · exact .inr (List.mem_cons.mpr (.inl same))
    · rcases ih inside with same | inside
      · exact .inl same
      · exact .inr (List.mem_cons_of_mem _ inside)

theorem insertAscending (name : String) (value : Value) {sorted : List (String × Value)}
    (ascending : Ascending sorted) : Ascending (insertEntry name value sorted) := by
  induction sorted with
  | nil => exact List.pairwise_singleton _ _
  | cons entry rest ih =>
    obtain ⟨other, held⟩ := entry
    obtain ⟨before, later⟩ := List.pairwise_cons.mp ascending
    rw [insertEntry]
    split
    · rename_i less
      refine List.pairwise_cons.mpr ⟨fun entry inside => ?_, ascending⟩
      rcases List.mem_cons.mp inside with rfl | inside
      · exact less
      · exact String.lt_trans less (before entry inside)
    · split
      · rename_i same
        subst same
        exact List.pairwise_cons.mpr ⟨before, later⟩
      · rename_i notLess differs
        have greater : other < name :=
          String.not_le.mp fun most => differs (String.le_antisymm (String.not_lt.mp notLess) most).symm
        refine List.pairwise_cons.mpr ⟨fun entry inside => ?_, ih later⟩
        rcases insertInside inside with rfl | inside
        · exact greater
        · exact before entry inside

structure Entries where
  items : List (String × Value)
  ascending : Ascending items

namespace Entries

def none : Entries := ⟨[], .nil⟩

def insert (entries : Entries) (name : String) (value : Value) : Entries :=
  ⟨insertEntry name value entries.items, insertAscending name value entries.ascending⟩

def insertAll (entries : Entries) (others : List (String × Value)) : Entries :=
  others.foldl (fun sorted entry => sorted.insert entry.1 entry.2) entries

end Entries

def sortEntries (entries : List (String × Value)) : Entries := .insertAll .none entries

end Value

inductive LiteralType where
  | string
  | number
  | boolean
  | date
  | null
  deriving DecidableEq, Repr

namespace LiteralType

def name : LiteralType → String
  | .string => "string"
  | .number => "number"
  | .boolean => "boolean"
  | .date => "date"
  | .null => "null"

def all : List LiteralType := [.string, .number, .boolean, .date, .null]

def ofName? (name : String) : Option LiteralType := all.find? fun t => t.name == name

end LiteralType

def Value.type : Value → LiteralType
  | .null => .null
  | .int _ | .float _ => .number
  | .bool _ => .boolean
  | .date _ => .date
  | .string _ | .array _ | .object _ => .string

end QueryTree
