import QueryTree.Proofs.CommandLine.Outcome
import QueryTree.Proofs.Filter.Counted

/-! What an explanation says of a filter: the number of conditions in it, which is the number of
comparisons that it is compiled to. -/
namespace QueryTree
namespace CommandLine

def Session.Shows (session : Session Unit) (text : String) : Prop :=
  ∀ written, ∃ before after,
    session.run.run written = (.ok (), written ++ before ++ text ++ after)

theorem printShows (text : String) : Session.Shows (print text) text :=
  fun written => ⟨"", "", by rw [String.append_empty, String.append_empty]; rfl⟩

theorem thenShows {first second : Session Unit} {text : String} (finishes : first.Finishes)
    (shows : second.Shows text) : Session.Shows (do first; second) text := by
  intro written
  obtain ⟨more, done⟩ := finishes written
  obtain ⟨before, after, shown⟩ := shows (written ++ more)
  refine ⟨more ++ before, after, ?_⟩
  rw [← String.append_assoc, ← shown]
  simp only [ExceptT.run_bind, StateT.run_bind, done]
  rfl

theorem showsThen {first second : Session Unit} {text : String} (shows : first.Shows text)
    (finishes : second.Finishes) : Session.Shows (do first; second) text := by
  intro written
  obtain ⟨before, after, shown⟩ := shows written
  obtain ⟨more, done⟩ := finishes (written ++ before ++ text ++ after)
  refine ⟨before, after ++ more, ?_⟩
  rw [← String.append_assoc, ← done]
  simp only [ExceptT.run_bind, StateT.run_bind, shown]
  rfl

theorem textsShow {texts : List String} {text : String} (listed : text ∈ texts) :
    Session.Shows (texts.forM print) text := by
  induction texts with
  | nil => contradiction
  | cons first rest ih =>
    rcases List.mem_cons.mp listed with rfl | later
    · exact showsThen (printShows text) (textsFinish rest)
    · exact thenShows (printFinishes first) (ih later)

theorem explanationShows {q : Query} {text : String} (listed : text ∈ summary q) (s : Statement) :
    (writeExplanation q s).Shows text := by
  rw [writeExplanation, Statement.formatWritten, Except.mapError, liftOk]
  exact showsThen (textsShow listed) (textsFinish _)

theorem explainShows {config : Config} {q : Query} {s : Statement} {text : String}
    (compiled : q.compile config = .ok s) (listed : text ∈ summary q) (input : String) :
    ((Command.explain input).perform config q).Shows text := by
  have built : Compiler.build ⟨config, .identity⟩ q = .ok s := by rw [Query.buildIdentity, compiled]
  rw [Command.perform, built, Except.mapError, liftOk]
  exact explanationShows listed s

theorem countListed {q : Query} {f : Filter} (filtered : q.filter = some f) :
    "  Filter: " ++ toString f.countConditions ++ " condition(s)\n" ∈ summary q := by
  simp [summary, filtered]

end CommandLine

namespace Filter

open CommandLine (Command)

theorem compiledCondition {config : Config} {q : Query} {f : Filter} {s : Statement}
    (filtered : q.filter = some f) (compiled : q.compile config = .ok s) :
    s.condition = some (f.operation config.filterSettings) := by
  rw [Query.compiledStatement compiled, Query.statement, filtered]
  rfl

theorem conditionsCounted {settings : Settings} {f : Filter} {o : Operation}
    (compiled : f.compile settings = .ok o) :
    f.countConditions = o.comparisons.length ∧
    (∀ g, f = .group g → Tally.after g.size ⟨0, [g]⟩ = some ⟨o.comparisons.length, []⟩) ∧
    (settings.honorOperators = false → f.countConditions = o.equalities) ∧
    ∀ config q s, config.filterSettings = settings → q.filter = some f →
      q.compile config = .ok s → s.condition = some o ∧
      ∀ input, ((Command.explain input).perform config q).Shows
        ("  Filter: " ++ toString o.comparisons.length ++ " condition(s)\n") := by
  have same := compiledOperation compiled
  have counted : f.countConditions = o.comparisons.length := by
    rw [same, comparedConditions, countedConditions]
  refine ⟨counted, ?_, fun plain => ?_, ?_⟩
  · rintro g rfl
    rw [same, comparedConditions, countedAfter]
  · rw [same, plainEqualities plain, countedConditions]
  · rintro config q s rfl filtered built
    refine ⟨same ▸ compiledCondition filtered built, fun input => ?_⟩
    rw [← counted]
    exact CommandLine.explainShows built (CommandLine.countListed filtered) input

def scatteredGroup : Group :=
  ⟨.or, [⟨"a", .int 1, some ">"⟩],
    [⟨.and, [], []⟩, ⟨.not, [⟨"b", .null, none⟩], [⟨.or, [], []⟩]⟩, ⟨.and, [⟨"c", .null, none⟩], []⟩]⟩

def scattered : Filter := .group scatteredGroup

def scatteredQuery : Query := { Query.new "t" with filter := some scattered }

theorem scatteredCounted : ∃ o s,
    scattered.compile Config.standard.filterSettings = .ok o ∧
    scatteredQuery.compile Config.standard = .ok s ∧
    scattered.countConditions = 3 ∧ Tally.after 5 ⟨0, [scatteredGroup]⟩ = some ⟨3, []⟩ ∧
    o.equalities = 3 ∧ s.condition = some o ∧
    ((Command.explain "-").perform Config.standard scatteredQuery).Shows
      "  Filter: 3 condition(s)\n" := by
  have compiled : scattered.compile Config.standard.filterSettings =
      .ok (scattered.operation Config.standard.filterSettings) := by rfl
  have built : scatteredQuery.compile Config.standard =
      .ok (scatteredQuery.statement Config.standard) := by rfl
  have three : (scattered.operation Config.standard.filterSettings).comparisons.length = 3 := by rfl
  obtain ⟨counted, visits, plain, explained⟩ := conditionsCounted compiled
  obtain ⟨condition, shown⟩ := explained Config.standard scatteredQuery _ rfl rfl built
  have ends := visits scatteredGroup rfl
  have line := shown "-"
  rw [three] at counted ends line
  exact ⟨_, _, compiled, built, counted, ends, (plain rfl).symm.trans counted, condition, line⟩

end Filter
end QueryTree
