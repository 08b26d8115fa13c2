import QueryTree.Proofs.Filter.Visits

/-! Which limit stops a filter, told from the list of its nodes: the first group that lies too deep
and the number of nodes before it, or the number of all nodes. -/
namespace QueryTree.Filter

def firstTooDeep (maxDepth : Nat) (nodes : List Visit) : Option Nat :=
  (nodes.findIdx? (Visit.exceeds maxDepth)).map (· + 1)

def Settings.Fits (s : Settings) (count : Nat) : Prop :=
  ∀ limit, s.maxNodes = some limit → count ≤ limit

/- The depth stops the walk when the nodes before the first group that lies too deep are few enough
to be counted. -/
def Settings.StoppedByDepth (s : Settings) (nodes : List Visit) : Prop :=
  ∃ position, firstTooDeep s.maxDepth nodes = some position ∧ s.Fits (position - 1)

theorem firstTooDeepNone {maxDepth : Nat} {nodes : List Visit} :
    firstTooDeep maxDepth nodes = none ↔ ∀ node ∈ nodes, node.exceeds maxDepth = false := by
  simp [firstTooDeep]

theorem firstTooDeepBound {maxDepth position : Nat} {nodes : List Visit}
    (found : firstTooDeep maxDepth nodes = some position) :
    0 < position ∧ position ≤ nodes.length := by
  obtain ⟨index, at_, rfl⟩ := Option.map_eq_some_iff.mp found
  have inside := (List.findIdx?_eq_some_iff_findIdx_eq.mp at_).1
  omega

theorem visitFits {s : Settings} {visited : Nat} (fits : s.Fits (visited + 1)) :
    s.visit visited = .ok (visited + 1) := by
  unfold Settings.visit
  cases h : s.maxNodes with
  | none => rfl
  | some limit =>
    have := fits limit h
    exact if_neg (by omega)

theorem visitExceeds {s : Settings} {visited limit : Nat} (limited : s.maxNodes = some limit)
    (exceeds : limit < visited + 1) : s.visit visited = .error (.tooLarge limit) := by
  simp only [Settings.visit, limited]
  exact if_pos exceeds

theorem walkTooDeep {s : Settings} {visited index : Nat} {nodes : List Visit}
    (found : nodes.findIdx? (Visit.exceeds s.maxDepth) = some index)
    (fits : s.Fits (visited + index)) :
    s.walk visited nodes = .error (.tooDeep s.maxDepth) := by
  induction nodes generalizing visited index with
  | nil => simp at found
  | cons node rest ih =>
    rw [List.findIdx?_cons] at found
    unfold Settings.walk
    split at found
    · rename_i deep
      exact if_pos deep
    · rename_i shallow
      obtain ⟨before, later, rfl⟩ := Option.map_eq_some_iff.mp found
      -- What fits up to the node that is too deep fits up to this one.
      have counted : s.Fits (visited + 1) := fun limit h => by have := fits limit h; omega
      rw [if_neg shallow, visitFits counted]
      exact ih later fun limit h => by have := fits limit h; omega

theorem walkAll {s : Settings} {visited : Nat} {nodes : List Visit}
    (shallow : ∀ node ∈ nodes, node.exceeds s.maxDepth = false)
    (fits : s.Fits (visited + nodes.length)) :
    s.walk visited nodes = .ok (visited + nodes.length) := by
  induction nodes generalizing visited with
  | nil => rfl
  | cons node rest ih =>
    have total : visited + (node :: rest).length = visited + 1 + rest.length := by
      simp only [List.length_cons]
      omega
    rw [total] at fits ⊢
    have counted : s.Fits (visited + 1) := fun limit h => by have := fits limit h; omega
    simp only [Settings.walk, shallow node List.mem_cons_self, visitFits counted,
      Bool.false_eq_true, if_false]
    exact ih (fun n h => shallow n (List.mem_cons_of_mem _ h)) fits

theorem walkTooLarge {s : Settings} {visited limit : Nat} {nodes : List Visit}
    (limited : s.maxNodes = some limit) (room : visited ≤ limit)
    (exceeds : limit < visited + nodes.length)
    (first : ∀ index, nodes.findIdx? (Visit.exceeds s.maxDepth) = some index →
      limit < visited + index) :
    s.walk visited nodes = .error (.tooLarge limit) := by
  induction nodes generalizing visited with
  | nil => simp only [List.length_nil] at exceeds; omega
  | cons node rest ih =>
    -- a node that is too deep here would come before the one that exceeds the limit
    have shallow : ¬ node.exceeds s.maxDepth = true := fun deep => by
      have := first 0 (by rw [List.findIdx?_cons, if_pos deep])
      omega
    simp only [Settings.walk, if_neg shallow]
    by_cases full : limit < visited + 1
    · rw [visitExceeds limited full]
      rfl
    · have counted : s.Fits (visited + 1) := fun other h => by
        cases Option.some.inj (limited.symm.trans h)
        omega
      rw [visitFits counted]
      refine ih (by omega) (by simp only [List.length_cons] at exceeds; omega) ?_
      intro index found
      have := first (index + 1) (by rw [List.findIdx?_cons, if_neg shallow, found]; rfl)
      omega

def Settings.StoppedByCount (s : Settings) (nodes : List Visit) (limit : Nat) : Prop :=
  s.maxNodes = some limit ∧ ¬ s.StoppedByDepth nodes ∧ limit < nodes.length

def Settings.Accepts (s : Settings) (nodes : List Visit) : Prop :=
  (∀ node ∈ nodes, node.exceeds s.maxDepth = false) ∧ s.Fits nodes.length

theorem acceptsNotDepth {s : Settings} {nodes : List Visit} (accepts : s.Accepts nodes) :
    ¬ s.StoppedByDepth nodes := by
  rintro ⟨position, found, _⟩
  rw [firstTooDeepNone.mpr accepts.1] at found
  contradiction

theorem acceptsNotCount {s : Settings} {nodes : List Visit} (accepts : s.Accepts nodes)
    (limit : Nat) : ¬ s.StoppedByCount nodes limit := by
  rintro ⟨limited, _, exceeds⟩
  have := accepts.2 limit limited
  omega

theorem guardCases (s : Settings) (nodes : List Visit) :
    s.StoppedByDepth nodes ∨ (∃ limit, s.StoppedByCount nodes limit) ∨ s.Accepts nodes := by
  by_cases deep : s.StoppedByDepth nodes
  · exact .inl deep
  by_cases fits : s.Fits nodes.length
  · refine .inr (.inr ⟨?_, fits⟩)
    cases found : firstTooDeep s.maxDepth nodes with
    | none => exact firstTooDeepNone.mp found
    | some position =>
      have bound := firstTooDeepBound found
      exact absurd ⟨position, found, fun limit h => by have := fits limit h; omega⟩ deep
  · obtain ⟨limit, notFits⟩ := Classical.not_forall.mp fits
    obtain ⟨limited, exceeds⟩ := Classical.not_imp.mp notFits
    exact .inr (.inl ⟨limit, limited, deep, Nat.not_le.mp exceeds⟩)

theorem compileByDepth {s : Settings} {f : Filter} (deep : s.StoppedByDepth f.visits) :
    f.compile s = .error (.tooDeep s.maxDepth) := by
  obtain ⟨position, found, fits⟩ := deep
  obtain ⟨index, at_, rfl⟩ := Option.map_eq_some_iff.mp found
  rw [compileWalked, walkTooDeep at_ (by simpa using fits)]
  rfl

theorem compileByCount {s : Settings} {f : Filter} {limit : Nat}
    (large : s.StoppedByCount f.visits limit) : f.compile s = .error (.tooLarge limit) := by
  obtain ⟨limited, notDeep, exceeds⟩ := large
  have first : ∀ index, f.visits.findIdx? (Visit.exceeds s.maxDepth) = some index →
      limit < 0 + index := by
    intro index found
    refine Nat.lt_of_not_le fun early =>
      notDeep ⟨index + 1, by rw [firstTooDeep, found]; rfl, ?_⟩
    intro other h
    cases Option.some.inj (limited.symm.trans h)
    omega
  rw [compileWalked, walkTooLarge limited (Nat.zero_le limit) (by omega) first]
  rfl

theorem compileAccepted {s : Settings} {f : Filter} (accepts : s.Accepts f.visits) :
    f.compile s = .ok (f.operation s) := by
  rw [compileWalked, walkAll accepts.1 (by simpa using accepts.2)]
  rfl

/- The operation stands before the limits: all limits that accept the filter give the same one. -/
theorem guardsExact (f : Filter) (honorOperators : Bool) :
    ∃ operation : Operation, ∀ (maxDepth : Nat) (maxNodes : Option Nat),
      let s : Settings := ⟨maxDepth, maxNodes, honorOperators⟩
      (∀ e, f.compile s = .error e ↔
        e = .tooDeep maxDepth ∧ s.StoppedByDepth f.visits ∨
        ∃ limit, e = .tooLarge limit ∧ s.StoppedByCount f.visits limit) ∧
      (f.compile s = .ok operation ↔ s.Accepts f.visits) ∧
      ((∃ compiled, f.compile s = .ok compiled) ↔ s.Accepts f.visits) := by
  refine ⟨f.operation ⟨0, none, honorOperators⟩, fun maxDepth maxNodes => ?_⟩
  intro s
  have same : f.operation s = f.operation ⟨0, none, honorOperators⟩ :=
    operationSame (by rfl) f
  rcases guardCases s f.visits with deep | ⟨limit, large⟩ | accepts
  · have notAccepts : ¬ s.Accepts f.visits := fun accepts => acceptsNotDepth accepts deep
    have notLarge : ∀ limit, ¬ s.StoppedByCount f.visits limit := fun _ large => large.2.1 deep
    simp [compileByDepth deep, deep, notAccepts, notLarge, eq_comm, s]
  · have notAccepts : ¬ s.Accepts f.visits := fun accepts => acceptsNotCount accepts limit large
    have only : ∀ other, s.StoppedByCount f.visits other → other = limit := fun other h =>
      Option.some.inj (h.1.symm.trans large.1)
    refine ⟨fun e => ?_, by simp [compileByCount large, notAccepts], by
      simp [compileByCount large, notAccepts]⟩
    rw [compileByCount large]
    constructor
    · intro h
      cases h
      exact .inr ⟨limit, rfl, large⟩
    · rintro (⟨_, deep⟩ | ⟨other, rfl, h⟩)
      · exact absurd deep large.2.1
      · rw [only other h]
  · have notDeep := acceptsNotDepth accepts
    have notLarge := acceptsNotCount accepts
    simp [compileAccepted accepts, same, accepts, notDeep, notLarge]

end QueryTree.Filter
