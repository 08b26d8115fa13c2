import QueryTree.Compiler
import QueryTree.Text.Escaped

/-! Passes over compiled statements, and chains of them. -/
namespace QueryTree

inductive Pass where
  | identity
  | custom (f : Statement → Statement)
  | chain (passes : List Pass)

namespace Pass

def name : Pass → String
  | .identity => "identity"
  | .custom _ => "custom"
  | .chain _ => "chain"

mutual

def run : Pass → Statement → Statement
  | .identity, s => s
  | .custom f, s => f s
  | .chain passes, s => runAll passes s

def runAll : List Pass → Statement → Statement
  | [], s => s
  | pass :: rest, s => runAll rest (pass.run s)

end

def register (passes : List Pass) (pass : Pass) : List Pass := passes ++ [pass]

def describeAll (passes : List Pass) : String :=
  "OptimizerChain \x7b passes: [" ++
    ", ".intercalate (passes.map fun pass => Text.escaped pass.name) ++ "] \x7d"

end Pass

structure Compiler where
  config : Config
  pass : Pass

namespace Compiler

def build (compiler : Compiler) (q : Query) : Except CompileError Statement :=
  compiler.pass.run <$> q.compile compiler.config

def describe (compiler : Compiler) : String :=
  let nodes := match compiler.config.maxFilterNodes with
    | some n => "Some(" ++ toString n ++ ")"
    | none => "None"
  let shown (b : Bool) := if b then "true" else "false"
  "QueryCompiler \x7b config: CompilerConfig \x7b max_filter_depth: " ++
    toString compiler.config.maxFilterDepth ++ ", max_filter_nodes: " ++ nodes ++
    ", strict_field_refs: " ++ shown compiler.config.strictFieldRefs ++
    ", honor_condition_operators: " ++ shown compiler.config.honorConditionOperators ++
    " \x7d, optimizer: " ++ Text.escaped compiler.pass.name ++ " \x7d"

end Compiler
end QueryTree
