import QueryTree.CommandLine.Run
import QueryTree.Proofs.Filter.Guards
import QueryTree.Proofs.Query.FirstRejected
import QueryTree.Proofs.Query.Json
import QueryTree.Proofs.Statement.Outline

/-! A run ends with the first of its stages that fails, and has written nothing by then. -/
namespace QueryTree

def CompileError.IsGuard : CompileError → Prop
  | .tooDeep _ | .tooLarge _ => True
  | .badReference _ _ _ => False

theorem Filter.compileGuarded {s : Settings} {f : Filter} {e : CompileError}
    (fails : f.compile s = .error e) : e.IsGuard := by
  rcases guardCases s f.visits with deep | ⟨limit, large⟩ | accepts
  · cases (compileByDepth deep).symm.trans fails
    trivial
  · cases (compileByCount large).symm.trans fails
    trivial
  · cases (compileAccepted accepts).symm.trans fails

namespace Query

theorem checkNotGuarded {q : Query} {e : CompileError} (fails : q.checkReferences = .error e) :
    ¬ e.IsGuard := by
  rw [checkReferencesPlaces, firstRejectedPlace] at fails
  obtain ⟨_, _, _, _, _, _, _, rfl⟩ := fails
  exact id

theorem filterGuarded {config : Config} {q : Query} {e : CompileError}
    (fails : q.compileFilter config = .error e) : e.IsGuard := by
  unfold compileFilter at fails
  split at fails
  · rename_i f _
    cases compiled : f.compile config.filterSettings with
    | ok o => rw [compiled] at fails; cases fails
    | error reason =>
      rw [compiled] at fails
      cases fails
      exact Filter.compileGuarded compiled
  · cases fails

theorem laxGuarded {config : Config} (lax : config.strictFieldRefs = false) {q : Query}
    {e : CompileError} (fails : q.compile config = .error e) : e.IsGuard := by
  rw [compileLax lax] at fails
  cases filtered : q.compileFilter config with
  | ok condition => rw [filtered] at fails; cases fails
  | error reason =>
    rw [filtered] at fails
    cases fails
    exact filterGuarded filtered

theorem checkedOrGuarded {config : Config} (strict : config.strictFieldRefs = true) (q : Query) :
    q.checkReferences = .ok () ↔ (∃ s, Compiler.build ⟨config, .identity⟩ q = .ok s) ∨
      ∃ e, Compiler.build ⟨config, .identity⟩ q = .error e ∧ e.IsGuard := by
  rw [buildIdentity, compileStrict strict]
  cases checked : q.checkReferences with
  | error e =>
    have stops : ∀ next : Except CompileError Statement,
      (do (.error e : Except CompileError Unit); next) = .error e := fun _ => rfl
    simpa [stops] using checkNotGuarded checked
  | ok u =>
    have goesOn : ∀ next : Except CompileError Statement,
      (do (.ok u : Except CompileError Unit); next) = next := fun _ => rfl
    rw [goesOn]
    cases compiled : q.compile { config with strictFieldRefs := false } with
    | ok s => simp
    | error e => simpa using laxGuarded rfl compiled

end Query

namespace CommandLine

def Session.Finishes (session : Session Unit) : Prop :=
  ∀ written, ∃ more, session.run.run written = (.ok (), written ++ more)

theorem printFinishes (text : String) : Session.Finishes (print text) := fun _ => ⟨text, rfl⟩

theorem nothingFinishes : Session.Finishes (pure ()) := fun written => ⟨"", by simp; rfl⟩

theorem thenFinishes {first second : Session Unit} (one : first.Finishes) (other : second.Finishes) :
    Session.Finishes (do first; second) := by
  intro written
  obtain ⟨more, done⟩ := one written
  obtain ⟨last, finished⟩ := other (written ++ more)
  refine ⟨more ++ last, ?_⟩
  rw [← String.append_assoc, ← finished]
  simp only [ExceptT.run_bind, StateT.run_bind, done]
  rfl

theorem liftRun {α β : Type} (x : Except RunError α) (next : α → Session β) (written : String) :
    (do let a ← (liftM x : Session α); next a : Session β).run.run written =
      match x with
      | .ok a => (next a).run.run written
      | .error e => (.error e, written) := by
  cases x <;> rfl

theorem liftOk {α β : Type} (a : α) (next : α → Session β) :
    (do let b ← (liftM (.ok a : Except RunError α) : Session α); next b : Session β) = next a := rfl

theorem textsFinish (texts : List String) : Session.Finishes (texts.forM print) := by
  induction texts with
  | nil => exact nothingFinishes
  | cons text rest ih => exact thenFinishes (printFinishes text) ih

theorem explanationFinishes (q : Query) (s : Statement) : (writeExplanation q s).Finishes := by
  rw [writeExplanation, Statement.formatWritten, Except.mapError, liftOk]
  exact thenFinishes (textsFinish _) (textsFinish _)

theorem renderFinishes (format : Format) (s : Statement) : Session.Finishes (do
    print (← (format.render s).mapError RunError.format)) := by
  cases format with
  | json | sql => exact printFinishes _
  | tree =>
    rw [Format.render, Statement.formatWritten]
    exact printFinishes _

def Invocation.configure (run : Invocation) (base : Config) : Config :=
  { base with
    strictFieldRefs := base.strictFieldRefs || run.strict
    honorConditionOperators := base.honorConditionOperators || run.honorOperators
    maxFilterDepth := run.maxDepth.getD base.maxFilterDepth }

namespace Command

def attempt (config : Config) (q : Query) : Command → Except CompileError Unit
  | .compile _ _ | .explain _ => (fun _ => ()) <$> Compiler.build ⟨config, .identity⟩ q
  | .check _ => q.checkReferences

theorem attemptBuild {config : Config} {q : Query} :
    (∀ e, (fun _ => ()) <$> Compiler.build ⟨config, .identity⟩ q = .error e ↔
      Compiler.build ⟨config, .identity⟩ q = .error e) ∧
    ((fun _ => ()) <$> Compiler.build ⟨config, .identity⟩ q = .ok () ↔
      ∃ s, Compiler.build ⟨config, .identity⟩ q = .ok s) := by
  cases Compiler.build ⟨config, .identity⟩ q <;> simp

theorem performFails {config : Config} {q : Query} {command : Command} {e : CompileError}
    (fails : command.attempt config q = .error e) (written : String) :
    (command.perform config q).run.run written = (.error (.compile e), written) := by
  cases command with
  | compile input format | explain input =>
    rw [perform, liftRun, (attemptBuild.1 e).mp fails]
    rfl
  | check input =>
    rw [perform, liftRun, show q.checkReferences = .error e from fails]
    rfl

theorem performFinishes {config : Config} {q : Query} {command : Command}
    (done : command.attempt config q = .ok ()) : (command.perform config q).Finishes := by
  cases command with
  | compile input format =>
    obtain ⟨s, built⟩ := attemptBuild.2.mp done
    rw [perform, built, Except.mapError, liftOk]
    exact renderFinishes format s
  | explain input =>
    obtain ⟨s, built⟩ := attemptBuild.2.mp done
    rw [perform, built, Except.mapError, liftOk]
    exact explanationFinishes q s
  | check input =>
    rw [perform, show q.checkReferences = .ok () from done, Except.mapError, liftOk]
    exact printFinishes _

end Command

namespace Host

variable (host : Host) (run : Invocation)

structure Configures (base : Config) : Prop where
  loaded : host.baseConfig run.config = .ok base
  depth : run.maxDepth ≠ some 0

structure Reads (base : Config) (text : String) : Prop extends Configures host run base where
  input : host.readInput run.command.input = .ok text

structure Decodes (base : Config) (q : Query) : Prop where
  text : ∃ text, Reads host run base text ∧ Query.ofText text = .ok q

def Succeeds : Prop :=
  ∃ base q, Decodes host run base q ∧ run.command.attempt (run.configure base) q = .ok ()

/-- The error of the first stage that fails. -/
inductive FailsWith : RunError → Prop
  | config {e : ConfigError} (unloaded : host.baseConfig run.config = .error e) : FailsWith (.config e)
  | zeroDepth {base : Config} (loaded : host.baseConfig run.config = .ok base)
      (zero : run.maxDepth = some 0) : FailsWith .zeroDepth
  | input {base : Config} {fault : FileFault} (configures : Configures host run base)
      (named : run.command.input ≠ "-") (unread : host.fileText run.command.input = .error fault) :
      FailsWith (.unreadable run.command.input fault)
  | query {base : Config} {text : String} {refusal : Json.Refusal} (reads : Reads host run base text)
      (refused : Query.ofText text = .error refusal) :
      FailsWith (.undecodable run.command.input refusal)
  | command {base : Config} {q : Query} {e : CompileError} (decodes : Decodes host run base q)
      (fails : run.command.attempt (run.configure base) q = .error e) : FailsWith (.compile e)

variable {host run}

theorem configured {base : Config} (configures : Configures host run base) :
    host.effectiveConfig run = .ok (run.configure base) := by
  obtain ⟨loaded, depth⟩ := configures
  unfold effectiveConfig Invocation.configure
  rw [loaded]
  cases asked : run.maxDepth with
  | none => rfl
  | some n =>
    cases n with
    | zero => exact absurd asked depth
    | succ n => rfl

theorem inputUnread {input : String} {fault : FileFault} (named : input ≠ "-")
    (unread : host.fileText input = .error fault) :
    host.readInput input = .error (.unreadable input fault) := by
  rw [readInput, if_neg named, unread]
  rfl

theorem inputCases (host : Host) (input : String) : (∃ text, host.readInput input = .ok text) ∨
    ∃ fault, input ≠ "-" ∧ host.fileText input = .error fault := by
  unfold readInput
  split
  · exact .inl ⟨_, rfl⟩
  · rename_i named
    cases found : host.fileText input with
    | ok text => exact .inl ⟨text, rfl⟩
    | error fault => exact .inr ⟨fault, named, rfl⟩

theorem failsOrSucceeds : Succeeds host run ∨ ∃ e, FailsWith host run e := by
  cases loaded : host.baseConfig run.config with
  | error e => exact .inr ⟨_, .config loaded⟩
  | ok base =>
    by_cases zero : run.maxDepth = some 0
    · exact .inr ⟨_, .zeroDepth loaded zero⟩
    have configures : Configures host run base := ⟨loaded, zero⟩
    rcases host.inputCases run.command.input with ⟨text, input⟩ | ⟨fault, named, unread⟩
    · cases decoded : Query.ofText text with
      | error refusal => exact .inr ⟨_, .query ⟨configures, input⟩ decoded⟩
      | ok q =>
        have decodes : Decodes host run base q := ⟨text, ⟨configures, input⟩, decoded⟩
        cases attempted : run.command.attempt (run.configure base) q with
        | error e => exact .inr ⟨_, .command decodes attempted⟩
        | ok _ => exact .inl ⟨base, q, decodes, attempted⟩
    · exact .inr ⟨_, .input configures named unread⟩

theorem queryRead {base : Config} {q : Query} (decodes : Decodes host run base q) :
    host.readQuery run.command.input = .ok q := by
  obtain ⟨text, reads, decoded⟩ := decodes
  rw [readQuery, reads.input]
  simp only [bind, Except.bind, decoded]
  rfl

theorem runDecoded {base : Config} {q : Query} (decodes : Decodes host run base q)
    (written : String) : (host.run run).run.run written =
      (run.command.perform (run.configure base) q).run.run written := by
  obtain ⟨text, reads, _⟩ := id decodes
  rw [Host.run, configured reads.toConfigures, liftOk, queryRead decodes, liftOk]

theorem runFails {e : RunError} (fails : FailsWith host run e) (written : String) :
    (host.run run).run.run written = (.error e, written) := by
  cases fails with
  | config unloaded =>
    rw [Host.run, effectiveConfig, unloaded]
    rfl
  | zeroDepth loaded zero =>
    rw [Host.run, effectiveConfig, loaded, zero]
    rfl
  | input configures named unread =>
    rw [Host.run, configured configures, liftOk, readQuery, inputUnread named unread]
    rfl
  | query reads refused =>
    rw [Host.run, configured reads.toConfigures, liftOk, readQuery, reads.input]
    simp only [bind, Except.bind, refused]
    rfl
  | command decodes fails => rw [runDecoded decodes, Command.performFails fails]

theorem runSucceeds (succeeds : Succeeds host run) : (host.run run).Finishes := by
  obtain ⟨base, q, decodes, done⟩ := succeeds
  intro written
  rw [runDecoded decodes]
  exact Command.performFinishes done written

section

variable {arguments : List String} {environment : Option String}

theorem failedOutcome (parsed : Invocation.parse arguments environment = .ok run) {e : RunError}
    (fails : FailsWith host run e) :
    host.outcome arguments environment = ⟨1, "", "Error: " ++ e.message ++ "\n"⟩ := by
  rw [outcome, parsed]
  simp only [runFails fails]

theorem succeededOutcome (parsed : Invocation.parse arguments environment = .ok run)
    (succeeds : Succeeds host run) :
    ∃ output, host.outcome arguments environment = ⟨0, output, ""⟩ := by
  obtain ⟨output, finished⟩ := runSucceeds succeeds ""
  refine ⟨"" ++ output, ?_⟩
  rw [outcome, parsed]
  simp only [finished]

theorem succeedsExact (parsed : Invocation.parse arguments environment = .ok run) :
    (host.outcome arguments environment).code = 0 ↔ Succeeds host run := by
  constructor
  · intro zero
    refine failsOrSucceeds.resolve_right fun ⟨e, fails⟩ => ?_
    rw [failedOutcome parsed fails] at zero
    contradiction
  · intro succeeds
    obtain ⟨output, same⟩ := succeededOutcome parsed succeeds
    rw [same]

end

theorem strictAgrees {compiling : Invocation} {input : String} {format : Format}
    (checks : run.command = .check input) (compiles : compiling.command = .compile input format)
    (strict : compiling.strict = true) (config : compiling.config = run.config)
    (depth : compiling.maxDepth = run.maxDepth) :
    Succeeds host run ↔ Succeeds host compiling ∨
      ∃ e, FailsWith host compiling (.compile e) ∧ e.IsGuard := by
  have same (base : Config) (q : Query) : Decodes host run base q ↔ Decodes host compiling base q := by
    have inputs : compiling.command.input = run.command.input := by rw [checks, compiles]; rfl
    constructor
    · rintro ⟨text, ⟨⟨loaded, positive⟩, read⟩, decoded⟩
      exact ⟨text, ⟨⟨config ▸ loaded, depth ▸ positive⟩, inputs ▸ read⟩, decoded⟩
    · rintro ⟨text, ⟨⟨loaded, positive⟩, read⟩, decoded⟩
      exact ⟨text, ⟨⟨config ▸ loaded, depth ▸ positive⟩, inputs ▸ read⟩, decoded⟩
  have under (base : Config) : (compiling.configure base).strictFieldRefs = true := by
    simp [Invocation.configure, strict]
  have checked (base : Config) (q : Query) := Query.checkedOrGuarded (under base) q
  constructor
  · rintro ⟨base, q, decodes, done⟩
    rw [checks] at done
    rcases (checked base q).mp done with built | ⟨e, fails, guarded⟩
    · refine .inl ⟨base, q, (same base q).mp decodes, ?_⟩
      rw [compiles]
      exact Command.attemptBuild.2.mpr built
    · refine .inr ⟨e, .command ((same base q).mp decodes) ?_, guarded⟩
      rw [compiles]
      exact (Command.attemptBuild.1 e).mpr fails
  · rintro (⟨base, q, decodes, done⟩ | ⟨e, fails, guarded⟩)
    · rw [compiles] at done
      refine ⟨base, q, (same base q).mpr decodes, ?_⟩
      rw [checks]
      exact (checked base q).mpr (.inl (Command.attemptBuild.2.mp done))
    · obtain _ | _ | _ | _ | ⟨decodes, fails⟩ := fails
      rename_i base q
      rw [compiles] at fails
      refine ⟨base, q, (same base q).mpr decodes, ?_⟩
      rw [checks]
      exact (checked base q).mpr (.inr ⟨e, (Command.attemptBuild.1 e).mp fails, guarded⟩)

/- An explanation is begun before its last step that could fail. This step does not fail, so that
all failures come before the first text. -/
theorem outcomeExact {arguments : List String} {environment : Option String} {run : Invocation}
    (parsed : Invocation.parse arguments environment = .ok run) (host : Host) :
    ((host.outcome arguments environment).code = 0 ↔ Succeeds host run) ∧
    (¬ Succeeds host run ↔ ∃ e, FailsWith host run e) ∧
    (∀ e, FailsWith host run e →
      host.outcome arguments environment = ⟨1, "", "Error: " ++ e.message ++ "\n"⟩) ∧
    ∀ others setting compiling input format, Invocation.parse others setting = .ok compiling →
      run.command = .check input → compiling.command = .compile input format →
      compiling.strict = true → compiling.config = run.config →
      compiling.maxDepth = run.maxDepth →
      ((host.outcome arguments environment).code = 0 ↔ (host.outcome others setting).code = 0 ∨
        ∃ e, FailsWith host compiling (.compile e) ∧ e.IsGuard) := by
  have zeroExact : (host.outcome arguments environment).code = 0 ↔ Succeeds host run :=
    succeedsExact parsed
  refine ⟨zeroExact, ⟨failsOrSucceeds.resolve_left, fun ⟨e, fails⟩ succeeds => ?_⟩,
    fun e => failedOutcome parsed, ?_⟩
  · have zero := zeroExact.mpr succeeds
    rw [failedOutcome parsed fails] at zero
    contradiction
  · intro others setting compiling input format parsedToo checks compiles strict config depth
    rw [zeroExact, succeedsExact parsedToo]
    exact strictAgrees checks compiles strict config depth

def nestedHost : Host where
  fileText _ := .error .missing
  isFile _ := false
  standardInput := "\x7b\"target\":\"orders\",\"filter\":\x7b\"groups\":[\x7b\x7d]\x7d\x7d"
  userConfig := none

def nestedRoot : Json.Node :=
  .object (.ofList .closed [(.ofChars "target".toList, .text (.ofChars "orders".toList)),
    (.ofChars "filter".toList, .object (.ofList .closed [(.ofChars "groups".toList,
      .array (.ofList .closed [.object .closed]))]))])

def nestedCheck : Invocation := ⟨none, false, some 1, false, .check "-"⟩

def nestedCompile : Invocation := ⟨none, true, some 1, false, .compile "-" .sql⟩

set_option maxRecDepth 20000 in
theorem nestedOutcome :
    (nestedHost.outcome ["--max-depth=1", "check"] none).code = 0 ∧
    nestedHost.outcome ["--max-depth=1", "compile", "-fsql", "--strict"] none =
      ⟨1, "", "Error: Filter nesting exceeds the maximum depth of 1\n"⟩ := by
  have checking : Invocation.parse ["--max-depth=1", "check"] none = .ok nestedCheck := by rfl
  have compiling : Invocation.parse ["--max-depth=1", "compile", "-fsql", "--strict"] none =
      .ok nestedCompile := by rfl
  have decoded : Query.ofText nestedHost.standardInput =
      .ok ⟨"orders", [], some (.group ⟨.and, [], [⟨.and, [], []⟩]⟩), [], [], [], none, none, []⟩ :=
    Query.ofTextParsed nestedRoot (by decide +kernel) rfl
  have fails : FailsWith nestedHost nestedCompile (.compile (.tooDeep 1)) :=
    .command ⟨_, ⟨⟨rfl, by decide⟩, rfl⟩, decoded⟩ (by decide +kernel)
  obtain ⟨-, -, -, agrees⟩ := outcomeExact checking nestedHost
  obtain ⟨-, -, reported, -⟩ := outcomeExact compiling nestedHost
  exact ⟨(agrees _ _ _ _ _ compiling rfl rfl rfl rfl rfl).mpr (.inr ⟨_, fails, trivial⟩),
    reported _ fails⟩

end Host

end CommandLine
end QueryTree
