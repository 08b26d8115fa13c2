import QueryTree.Proofs.Json.Holds
import QueryTree.Proofs.Json.Written

/-! Readers that give back what was written, wherever a node comes from and however many levels are
left beyond the ones that it needs. -/
namespace QueryTree.Json

structure Reads {α : Type} (read : Reader α) (json : Json) (a : α) : Prop where
  exact : json.Exact
  back : ∀ (source : Source) {levels : Nat} {node : Node}, node.Holds json → json.depth ≤ levels →
    read source levels node = .ok a

variable {α : Type}

theorem ofFaultOk {x : Except Fault α} {a : α} (done : x = .ok a) : ofFault x = .ok a := by
  rw [done, ofFault]

theorem ofFaultRead {x : Except Fault α} {a : α} (done : ofFault x = .ok a) : x = .ok a := by
  cases x with
  | error fault => contradiction
  | ok b => cases done; rfl

theorem documentRead {read : Reader α} {json : Json} {a : α} {levels : Nat} {document : Document}
    (reads : Reads read json a) (held : document.Holds json) (within : json.depth ≤ levels) :
    readDocument read levels document = .ok a := by
  rw [readDocument, reads.back _ held.root within]
  simp only [bind, Except.bind, held.ended, Bool.false_eq_true, if_false]
  rfl

theorem parsedRead {read : Reader α} {levels : Nat} {document : Document} {a : α} (root : Node)
    (parsed : document = ⟨root, false⟩) (made : read .text levels root = .ok a) :
    readDocument read levels document = .ok a := by
  rw [parsed, readDocument, made]
  rfl

theorem writtenRead {read : Reader α} {json : Json} {a : α} {levels : Nat}
    (reads : Reads read json a) (within : json.depth ≤ levels) :
    readDocument read levels (.ofText json.compact) = .ok a ∧
    readDocument read levels (.ofText json.pretty) = .ok a :=
  ⟨documentRead reads (compactHolds reads.exact) within,
    documentRead reads (prettyHolds reads.exact) within⟩

theorem readsString (s : String) : Reads readString (.string s) s where
  exact := trivial
  back _ _ _ held _ := by
    cases held with
    | string read => exact ofFaultOk read

theorem readsBool (b : Bool) : Reads readBool (.bool b) b where
  exact := trivial
  back _ _ _ held _ := by
    cases held with
    | bool b => rfl

theorem readsNatural (n : UInt64) : Reads readNatural (natural n) n where
  exact := by
    have bound := n.toNat_lt_size
    exact ⟨by omega, by exact_mod_cast bound⟩
  back _ _ _ held _ := by
    cases held with
    | integer value =>
      simp only [readNatural, ofFaultOk value, bind, Except.bind]
      simp

theorem readsVariant {ofName? : String → Option α} {name : String} {a : α}
    (named : ofName? name = some a) : Reads (readVariant ofName?) (.string name) a where
  exact := trivial
  back _ _ _ held _ := by
    cases held with
    | string read =>
      simp only [readVariant, variantNamed, ofFaultOk read, bind, Except.bind, named]

theorem variantHeld {ofName? : String → Option α} {document : Document} {name : String}
    {levels : Nat} {a : α} (held : document.Holds (.string name)) :
    readDocument (readVariant ofName?) levels document = .ok a ↔ ofName? name = some a := by
  constructor
  · intro read
    obtain ⟨b, found, done⟩ := bindOk read
    rw [held.ended] at done
    cases done
    have root := held.root
    generalize document.root = node at root found
    cases root with
    | string text =>
      simp only [readVariant, variantNamed, ofFaultOk text, bind, Except.bind] at found
      cases named : ofName? name with
      | none => rw [named] at found; contradiction
      | some b => rw [named] at found; cases found; rfl
  · intro named
    exact documentRead (readsVariant named) held (Nat.zero_le levels)

theorem readsSome {read : Reader α} {json : Json} {a : α} (reads : Reads read json a)
    (present : json ≠ .null) : Reads (readOption read) json (some a) where
  exact := reads.exact
  back source levels node held within := by
    have found := reads.back source held within
    cases held with
    | null => contradiction
    | _ => simp only [readOption, found]; rfl

theorem readsMap {β : Type} {read : Reader α} {json : Json} {a : α} (f : α → β)
    (reads : Reads read json a) :
    Reads (fun source levels node => f <$> read source levels node) json (f a) where
  exact := reads.exact
  back source _ _ held within := by
    simp only [reads.back source held within]
    rfl

def orNull (encode : α → Json) (entry : Option α) : Json := entry.elim .null encode

theorem readsPresent {read : Reader α} {encode : α → Json} {option entry : Option α}
    (set : option.map some = some entry) (present : ∀ a, encode a ≠ .null)
    (reads : ∀ a, option = some a → Reads read (encode a) a) :
    Reads (readOption read) (orNull encode entry) entry := by
  cases option with
  | none => contradiction
  | some a =>
    cases set
    exact readsSome (reads a rfl) (present a)

theorem itemsReadBack {read : Reader α} {encode : α → Json} {values : List α} {items : Items}
    {source : Source} {levels : Nat} (reads : ∀ a ∈ values, Reads read (encode a) a)
    (held : items.Holds (values.map encode)) (within : depthItems (values.map encode) ≤ levels) :
    readItems (read source levels) items = .ok values := by
  induction values generalizing items with
  | nil =>
    cases held with
    | closed => rfl
  | cons a values ih =>
    obtain ⟨here, others⟩ := Nat.max_le.mp within
    cases held with
    | cons head tail =>
      have first := (reads a List.mem_cons_self).back source head here
      have later := ih (fun b inside => reads b (List.mem_cons_of_mem _ inside)) tail others
      simp only [readItems, first, later, bind, Except.bind]
      rfl

theorem exactItems {encode : α → Json} {values : List α} (exact : ∀ a ∈ values, (encode a).Exact) :
    ExactItems (values.map encode) := by
  induction values with
  | nil => trivial
  | cons a values ih =>
    exact ⟨exact a List.mem_cons_self, ih fun b inside => exact b (List.mem_cons_of_mem _ inside)⟩

theorem readsList {read : Reader α} {encode : α → Json} {values : List α}
    (reads : ∀ a ∈ values, Reads read (encode a) a) :
    Reads (readList read) (list encode values) values where
  exact := exactItems fun a inside => (reads a inside).exact
  back source levels node held within := by
    obtain ⟨left, rfl, inner⟩ := levelsLeft within
    cases held with
    | array held => exact itemsReadBack reads held inner

end QueryTree.Json
