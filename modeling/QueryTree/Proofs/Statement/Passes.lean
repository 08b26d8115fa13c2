import QueryTree.Proofs.Query.Fields

/-! Passes in chains. However chains lie in each other, their passes run one after the other, and they
run on a statement that is compiled without them. -/
namespace QueryTree

namespace Pass

mutual

def parts : Pass → List Pass
  | .chain passes => partsOf passes
  | .identity => [.identity]
  | .custom f => [.custom f]

def partsOf : List Pass → List Pass
  | [] => []
  | pass :: rest => pass.parts ++ partsOf rest

end

def inTurn (passes : List Pass) (s : Statement) : Statement :=
  passes.foldl (fun s pass => pass.run s) s

@[simp] theorem inTurnAppend (before after : List Pass) (s : Statement) :
    inTurn (before ++ after) s = inTurn after (inTurn before s) :=
  List.foldl_append

theorem runInTurn (passes : List Pass) (s : Statement) : runAll passes s = inTurn passes s := by
  induction passes generalizing s with
  | nil => rfl
  | cons pass rest ih => exact ih (pass.run s)

mutual

theorem partsRun : (pass : Pass) → (s : Statement) → inTurn pass.parts s = pass.run s
  | .identity, _ => rfl
  | .custom _, _ => rfl
  | .chain passes, s => by rw [parts, run, runInTurn, partsInTurn passes s]

theorem partsInTurn : (passes : List Pass) → (s : Statement) →
    inTurn (partsOf passes) s = inTurn passes s
  | [], _ => rfl
  | pass :: rest, s => by
    rw [partsOf, inTurnAppend, partsRun pass s, partsInTurn rest (pass.run s)]
    rfl

end

theorem registered (passes : List Pass) : passes.foldl register [] = passes := by
  have behind (before : List Pass) : passes.foldl register before = before ++ passes := by
    induction passes generalizing before with
    | nil => rw [List.foldl_nil, List.append_nil]
    | cons pass rest ih => rw [List.foldl_cons, ih, register, List.append_assoc, List.singleton_append]
  exact behind []

def chainOf (passes : List Pass) : Pass := .chain (passes.foldl register [])

theorem chainRuns (passes : List Pass) (s : Statement) : (chainOf passes).run s = inTurn passes s := by
  rw [chainOf, registered, run, runInTurn]

theorem regroupedRuns {passes regrouped : List Pass} (same : partsOf regrouped = partsOf passes) :
    (chainOf regrouped).run = (chainOf passes).run := by
  funext s
  rw [chainRuns, chainRuns, ← partsInTurn regrouped, same, partsInTurn]

end Pass

namespace Compiler

theorem buildRuns (config : Config) (pass : Pass) (q : Query) :
    build ⟨config, pass⟩ q = (build ⟨config, .identity⟩ q).map pass.run := by
  rw [Query.buildIdentity]
  rfl

theorem passesLast (config : Config) (q : Query) (passes : List Pass) :
    (∀ s, build ⟨config, Pass.chainOf passes⟩ q = .ok s ↔
      ∃ plain, build ⟨config, .identity⟩ q = .ok plain ∧ s = Pass.inTurn passes plain) ∧
    (∀ e, build ⟨config, Pass.chainOf passes⟩ q = .error e ↔
      build ⟨config, .identity⟩ q = .error e) ∧
    ∀ regrouped, Pass.partsOf regrouped = Pass.partsOf passes →
      build ⟨config, Pass.chainOf regrouped⟩ q = build ⟨config, Pass.chainOf passes⟩ q := by
  refine ⟨fun s => ?_, fun e => ?_, fun regrouped same => ?_⟩
  · rw [buildRuns]
    cases build ⟨config, .identity⟩ q with
    | error e => simp [Except.map]
    | ok plain => simp [Except.map, Pass.chainRuns, eq_comm]
  · rw [buildRuns]
    cases build ⟨config, .identity⟩ q <;> simp [Except.map]
  · rw [buildRuns, buildRuns config (Pass.chainOf passes), Pass.regroupedRuns same]

def limited : Pass := .custom fun s => { s with limit := some 3 }

def scaled : Pass := .custom fun s => { s with limit := s.limit.map (10 * ·) }

def nestedPasses : List Pass := [.chain [], .chain [limited, .chain [.chain []]], .chain [.chain [scaled]]]

theorem limitedThenScaled : Pass.partsOf nestedPasses = Pass.partsOf [limited, scaled] ∧
    ∃ s, build ⟨.standard, Pass.chainOf nestedPasses⟩ (Query.new "t") = .ok s ∧ s.limit = some 30 := by
  have same : Pass.partsOf nestedPasses = Pass.partsOf [limited, scaled] := by rfl
  obtain ⟨built, -, grouped⟩ := passesLast .standard (Query.new "t") [limited, scaled]
  refine ⟨same, Pass.inTurn [limited, scaled] ((Query.new "t").statement .standard), ?_, by rfl⟩
  rw [grouped nestedPasses same]
  exact (built _).mpr ⟨_, rfl, rfl⟩

end Compiler
end QueryTree
