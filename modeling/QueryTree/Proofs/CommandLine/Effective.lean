import QueryTree.Proofs.CommandLine.Options
import QueryTree.Proofs.CommandLine.Outcome

/-! The configuration that a run goes on with: the one it starts from, with what the arguments say
over it. Its depth limit is never 0, so that only a group in a group can be too deep. -/
namespace QueryTree

namespace Config

def SetsZeroDepth (text : String) : Prop :=
  ∃ settings, Toml.settings? (Text.lineParts (Toml.dropMark text.toList)) = some settings ∧
    (Key.name .maxFilterDepth, .integer 0) ∈ settings

theorem nameOfKey {name : String} {key : Key} (named : record.ofName? name = some key) :
    key.name = name := by
  have leads := List.find?_some named
  simpa [record] using leads

theorem keyOfName {key other : Key} (same : key.name = other.name) : key = other := by
  cases key <;> cases other <;> simp [Key.name] at same <;> rfl

theorem setDepth {c set : Config} {value : TomlValue}
    (done : c.set? .maxFilterDepth value = some set) :
    ∃ n : Nat, value = .integer n ∧ set.maxFilterDepth = n := by
  cases value with
  | boolean b => contradiction
  | integer n =>
    simp only [set?] at done
    split at done
    · rename_i positive
      cases done
      exact ⟨n.toNat, by rw [Int.toNat_of_nonneg positive], rfl⟩
    · contradiction

theorem setOther {c set : Config} {key : Key} {value : TomlValue} (other : key ≠ .maxFilterDepth)
    (done : c.set? key value = some set) : set.maxFilterDepth = c.maxFilterDepth := by
  cases key <;> cases value <;> simp only [set?] at done <;> try contradiction
  · split at done
    · cases done
      rfl
    · contradiction
  · cases done
    rfl
  · cases done
    rfl

theorem depthApart {name : String} {key : Key} (named : record.ofName? name = some key)
    (other : key ≠ .maxFilterDepth) : name ≠ Key.name .maxFilterDepth := by
  rintro rfl
  exact other (keyOfName (nameOfKey named))

theorem settingApplied {given : List Key} {c final : Config} {name : String} {value : TomlValue}
    {rest : List (String × TomlValue)}
    (done : ofSettings? given c ((name, value) :: rest) = some final) :
    ∃ key set, record.ofName? name = some key ∧ key ∉ given ∧ c.set? key value = some set ∧
      ofSettings? (key :: given) set rest = some final := by
  simp only [ofSettings?, bind, Option.bind_eq_some_iff] at done
  obtain ⟨key, named, done⟩ := done
  split at done
  · contradiction
  · rename_i fresh
    obtain ⟨set, applied, more⟩ := Option.bind_eq_some_iff.mp done
    exact ⟨key, set, named, by simpa using fresh, applied, more⟩

theorem depthKept {given : List Key} {c final : Config} {settings : List (String × TomlValue)}
    (done : ofSettings? given c settings = some final) (known : Key.maxFilterDepth ∈ given) :
    final.maxFilterDepth = c.maxFilterDepth ∧
      ∀ value, (Key.name .maxFilterDepth, value) ∉ settings := by
  induction settings generalizing given c with
  | nil =>
    cases done
    exact ⟨rfl, fun _ => List.not_mem_nil⟩
  | cons setting rest ih =>
    obtain ⟨key, set, named, fresh, applied, more⟩ := settingApplied done
    obtain ⟨kept, absent⟩ := ih more (List.mem_cons_of_mem _ known)
    have other : key ≠ .maxFilterDepth := fun same => fresh (same ▸ known)
    refine ⟨kept.trans (setOther other applied), fun value inside => ?_⟩
    rcases List.mem_cons.mp inside with same | later
    · exact depthApart named other (congrArg Prod.fst same).symm
    · exact absent value later

theorem depthZero {given : List Key} {c final : Config} {settings : List (String × TomlValue)}
    (done : ofSettings? given c settings = some final) (positive : c.maxFilterDepth ≠ 0) :
    final.maxFilterDepth = 0 ↔ (Key.name .maxFilterDepth, .integer 0) ∈ settings := by
  induction settings generalizing given c with
  | nil =>
    cases done
    simp [positive]
  | cons setting rest ih =>
    obtain ⟨name, value⟩ := setting
    obtain ⟨key, set, named, _, applied, more⟩ := settingApplied done
    rw [List.mem_cons, Prod.mk.injEq]
    by_cases depth : key = .maxFilterDepth
    · subst depth
      obtain ⟨n, rfl, limit⟩ := setDepth applied
      obtain ⟨kept, absent⟩ := depthKept more List.mem_cons_self
      obtain rfl := nameOfKey named
      simp [kept, limit, absent, eq_comm]
    · have apart := depthApart named depth
      have still : set.maxFilterDepth ≠ 0 := by rwa [setOther depth applied]
      simp [ih more still, apart.symm]

theorem zeroDepthSet {text : String} {c : Config} (parsed : ofToml? text = some c) :
    c.maxFilterDepth = 0 ↔ SetsZeroDepth text := by
  obtain ⟨settings, read, applied⟩ := Option.bind_eq_some_iff.mp parsed
  rw [depthZero applied (by decide)]
  constructor
  · exact fun inside => ⟨settings, read, inside⟩
  · rintro ⟨others, readToo, inside⟩
    cases read.symm.trans readToo
    exact inside

end Config

def Filter.Flat : Filter → Prop
  | .leaf _ => True
  | .group g => g.groups = []

theorem Filter.flatVisits {f : Filter} (flat : f.Flat) {maxDepth : Nat} (positive : 1 ≤ maxDepth) :
    ∀ node ∈ f.visits, node.exceeds maxDepth = false := by
  cases f with
  | leaf c => simp [visits, Visit.exceeds]
  | group g =>
    obtain ⟨operator, conditions, groups⟩ := g
    obtain rfl : groups = [] := flat
    simp [visits, Group.visits, Group.visitsAll, Visit.exceeds]
    omega

theorem Filter.flatShallow {s : Settings} {f : Filter} (flat : f.Flat) (positive : 1 ≤ s.maxDepth)
    (depth : Nat) : f.compile s ≠ .error (.tooDeep depth) := by
  rcases guardCases s f.visits with ⟨position, found, _⟩ | ⟨limit, large⟩ | accepts
  · rw [firstTooDeepNone.mpr (flatVisits flat positive)] at found
    contradiction
  · rw [compileByCount large]
    nofun
  · rw [compileAccepted accepts]
    nofun

theorem Query.tooDeepFilter {config : Config} {q : Query} {depth : Nat}
    (fails : q.compile config = .error (.tooDeep depth)) :
    ∃ f, q.filter = some f ∧ f.compile config.filterSettings = .error (.tooDeep depth) := by
  have unchecked : q.compile { config with strictFieldRefs := false } = .error (.tooDeep depth) := by
    cases strict : config.strictFieldRefs with
    | false =>
      have same : { config with strictFieldRefs := false } = config := by rw [← strict]
      rwa [same]
    | true =>
      rw [compileStrict strict] at fails
      cases checked : q.checkReferences with
      | error e =>
        rw [checked] at fails
        cases fails
        exact absurd trivial (checkNotGuarded checked)
      | ok _ =>
        rw [checked] at fails
        exact fails
  rw [compileLax rfl] at unchecked
  unfold compileFilter at unchecked
  split at unchecked
  · rename_i f present
    have settings : { config with strictFieldRefs := false }.filterSettings = config.filterSettings :=
      rfl
    rw [settings] at unchecked
    refine ⟨f, present, ?_⟩
    cases compiled : f.compile config.filterSettings with
    | ok o => rw [compiled] at unchecked; contradiction
    | error e => rw [compiled] at unchecked; cases unchecked; rfl
  · contradiction

namespace CommandLine
namespace Host

inductive Chooses (host : Host) (named : Option String) : Option String → Prop
  | named {path : String} (given : named = some path) : Chooses host named (some path)
  | here (unnamed : named = none) (file : host.isFile "qast.toml" = true) :
      Chooses host named (some "qast.toml")
  | user {path : String} (unnamed : named = none) (absent : host.isFile "qast.toml" = false)
      (place : host.userConfig = some path) (file : host.isFile path = true) :
      Chooses host named (some path)
  | nowhere (unnamed : named = none) (absent : host.isFile "qast.toml" = false)
      (elsewhere : ∀ path, host.userConfig = some path → host.isFile path = false) :
      Chooses host named none

def Accepts (host : Host) (path : String) (base : Config) : Prop :=
  ∃ text, host.fileText path = .ok text ∧ Config.ofToml? text = some base ∧
    ¬ Config.SetsZeroDepth text

inductive Refuses (host : Host) (path : String) : ConfigError → Prop
  | unreadable {fault : FileFault} (unread : host.fileText path = .error fault) :
      Refuses host path (.unreadable path fault)
  | unparsable {text : String} (read : host.fileText path = .ok text)
      (unparsed : Config.ofToml? text = none) : Refuses host path .unparsable
  | zeroDepth {text : String} {base : Config} (read : host.fileText path = .ok text)
      (parsed : Config.ofToml? text = some base) (zero : Config.SetsZeroDepth text) :
      Refuses host path .zeroDepth

inductive StartsFrom (host : Host) (named : Option String) : Config → Prop
  | file {path : String} {base : Config} (chosen : host.Chooses named (some path))
      (accepted : host.Accepts path base) : StartsFrom host named base
  | standard (chosen : host.Chooses named none) : StartsFrom host named .standard

variable {host : Host}

theorem chosenExact {named path : Option String} :
    host.Chooses named path ↔ path = (named <|> host.searchPaths.find? host.isFile) := by
  constructor
  · rintro (given | ⟨unnamed, file⟩ | ⟨unnamed, absent, place, file⟩ | ⟨unnamed, absent, elsewhere⟩)
    · rw [given]
      rfl
    · simp [unnamed, searchPaths, localConfig, file]
    · simp [unnamed, searchPaths, localConfig, absent, place, file]
    · cases place : host.userConfig with
      | none => simp [unnamed, searchPaths, localConfig, absent, place]
      | some path => simp [unnamed, searchPaths, localConfig, absent, place, elsewhere path place]
  · rintro rfl
    cases unnamed : named with
    | some path => exact .named rfl
    | none =>
      cases here : host.isFile "qast.toml" with
      | true => simpa [searchPaths, localConfig, here] using Chooses.here rfl here
      | false =>
        cases place : host.userConfig with
        | none =>
          simpa [searchPaths, localConfig, here, place] using Chooses.nowhere rfl here (by simp [place])
        | some path =>
          cases file : host.isFile path with
          | true =>
            simpa [searchPaths, localConfig, here, place, file] using Chooses.user rfl here place file
          | false =>
            simpa [searchPaths, localConfig, here, place, file] using
              Chooses.nowhere rfl here (by simp [place, file])

theorem loadedExact {path : String} {base : Config} :
    loadConfig host path = .ok base ↔ host.Accepts path base := by
  unfold loadConfig Accepts
  cases read : host.fileText path with
  | error fault => simp
  | ok text =>
    simp only [Except.ok.injEq, exists_eq_left']
    unfold Config.ofToml
    cases parsed : Config.ofToml? text with
    | none => simp
    | some c =>
      rw [← Config.zeroDepthSet parsed]
      by_cases zero : c.maxFilterDepth = 0
      · simp [zero]
      · simp [zero]

theorem refusedExact {path : String} {e : ConfigError} (refused : host.Refuses path e) :
    loadConfig host path = .error e := by
  unfold loadConfig
  cases refused with
  | unreadable unread => rw [unread]
  | unparsable read unparsed => simp only [read, Config.ofToml, unparsed]
  | zeroDepth read parsed zero =>
    simp only [read, Config.ofToml, parsed]
    exact if_pos ((Config.zeroDepthSet parsed).mpr zero)

theorem baseFile {named : Option String} {path : String} (chosen : host.Chooses named (some path)) :
    host.baseConfig named = loadConfig host path := by
  have same := chosenExact.mp chosen
  unfold baseConfig
  cases named with
  | some other =>
    cases same
    rfl
  | none =>
    have found : host.searchPaths.find? host.isFile = some path := same.symm
    simp only [found]

theorem baseStandard {named : Option String} (chosen : host.Chooses named none) :
    host.baseConfig named = .ok .standard := by
  have same := chosenExact.mp chosen
  unfold baseConfig
  cases named with
  | some other => contradiction
  | none =>
    have found : host.searchPaths.find? host.isFile = none := same.symm
    simp only [found]

theorem startsExact {named : Option String} {base : Config} :
    host.baseConfig named = .ok base ↔ host.StartsFrom named base := by
  constructor
  · intro loaded
    cases found : named <|> host.searchPaths.find? host.isFile with
    | some path =>
      have chosen := chosenExact.mpr found.symm
      rw [baseFile chosen] at loaded
      exact .file chosen (loadedExact.mp loaded)
    | none =>
      have chosen := chosenExact.mpr found.symm
      rw [baseStandard chosen] at loaded
      cases loaded
      exact .standard chosen
  · rintro (⟨chosen, accepted⟩ | chosen)
    · rw [baseFile chosen]
      exact loadedExact.mpr accepted
    · exact baseStandard chosen

theorem startsPositive {named : Option String} {base : Config} (starts : host.StartsFrom named base) :
    base.maxFilterDepth ≠ 0 := by
  cases starts with
  | standard => decide
  | file chosen accepted =>
    obtain ⟨text, _, parsed, positive⟩ := accepted
    exact fun zero => positive ((Config.zeroDepthSet parsed).mp zero)

end Host

structure Overrides (arguments : List String) (base config : Config) : Prop where
  strict : config.strictFieldRefs = true ↔ base.strictFieldRefs = true ∨ uses "strict" arguments ≠ []
  honorOperators : config.honorConditionOperators = true ↔
    base.honorConditionOperators = true ∨ uses "honor-operators" arguments ≠ []
  unlimited : lastUse "max-depth" arguments = none → config.maxFilterDepth = base.maxFilterDepth
  limited (text : String) : lastUse "max-depth" arguments = some text →
    natural? text = some config.maxFilterDepth ∧ config.maxFilterDepth ≠ 0
  nodes : config.maxFilterNodes = base.maxFilterNodes

section

variable {host : Host} {arguments : List String} {environment : Option String} {run : Invocation}

theorem configureOverrides (asked : run.Asked arguments environment) (depth : run.maxDepth ≠ some 0)
    (base : Config) : Overrides arguments base (run.configure base) where
  strict := by simp [Invocation.configure, ← asked.strict]
  honorOperators := by simp [Invocation.configure, ← asked.honorOperators]
  unlimited unused := by simp [Invocation.configure, asked.unlimited unused]
  limited text used := by
    obtain ⟨n, read, same⟩ := asked.limited text used
    have positive : n ≠ 0 := fun zero => depth (by rw [same, zero])
    simpa [Invocation.configure, same, read] using positive
  nodes := rfl

theorem overridesOnce {base config other : Config} (one : Overrides arguments base config)
    (two : Overrides arguments base other) : config = other := by
  have depth : config.maxFilterDepth = other.maxFilterDepth := by
    cases used : lastUse "max-depth" arguments with
    | none => rw [one.unlimited used, two.unlimited used]
    | some text => exact Option.some.inj ((one.limited text used).1.symm.trans (two.limited text used).1)
  obtain ⟨configDepth, configNodes, configStrict, configOperators⟩ := config
  obtain ⟨otherDepth, otherNodes, otherStrict, otherOperators⟩ := other
  have strict : configStrict = otherStrict := Bool.eq_iff_iff.mpr (one.strict.trans two.strict.symm)
  have operators : configOperators = otherOperators :=
    Bool.eq_iff_iff.mpr (one.honorOperators.trans two.honorOperators.symm)
  rw [Config.mk.injEq]
  exact ⟨depth, one.nodes.trans two.nodes.symm, strict, operators⟩

theorem depthPositive (asked : run.Asked arguments environment) {base config : Config}
    (overrides : Overrides arguments base config) : run.maxDepth ≠ some 0 := by
  intro zero
  cases used : lastUse "max-depth" arguments with
  | none =>
    rw [asked.unlimited used] at zero
    contradiction
  | some text =>
    obtain ⟨n, read, same⟩ := asked.limited text used
    obtain ⟨readToo, positive⟩ := overrides.limited text used
    obtain rfl : n = 0 := Option.some.inj (same.symm.trans zero)
    exact positive (Option.some.inj (readToo.symm.trans read))

theorem configuredExact {config : Config} : host.effectiveConfig run = .ok config ↔
    ∃ base, Host.Configures host run base ∧ config = run.configure base := by
  constructor
  · intro effective
    cases loaded : host.baseConfig run.config with
    | error e =>
      rw [Host.effectiveConfig, loaded] at effective
      contradiction
    | ok base =>
      by_cases zero : run.maxDepth = some 0
      · rw [Host.effectiveConfig, loaded, zero] at effective
        contradiction
      · have configures : Host.Configures host run base := ⟨loaded, zero⟩
        rw [Host.configured configures] at effective
        cases effective
        exact ⟨base, configures, rfl⟩
  · rintro ⟨base, configures, rfl⟩
    exact Host.configured configures

theorem effectiveStarts (asked : run.Asked arguments environment) {config : Config} :
    host.effectiveConfig run = .ok config ↔
      ∃ base, host.StartsFrom (lastUse "config" arguments <|> environment) base ∧
        Overrides arguments base config := by
  rw [configuredExact, ← asked.config]
  constructor
  · rintro ⟨base, ⟨loaded, depth⟩, rfl⟩
    exact ⟨base, Host.startsExact.mp loaded, configureOverrides asked depth base⟩
  · rintro ⟨base, starts, overrides⟩
    have depth := depthPositive asked overrides
    exact ⟨base, ⟨Host.startsExact.mpr starts, depth⟩,
      overridesOnce overrides (configureOverrides asked depth base)⟩

theorem effectivePositive (asked : run.Asked arguments environment) {config : Config}
    (effective : host.effectiveConfig run = .ok config) : 1 ≤ config.maxFilterDepth := by
  obtain ⟨base, starts, overrides⟩ := (effectiveStarts asked).mp effective
  refine Nat.one_le_iff_ne_zero.mpr ?_
  cases used : lastUse "max-depth" arguments with
  | none =>
    rw [overrides.unlimited used]
    exact Host.startsPositive starts
  | some text => exact (overrides.limited text used).2

theorem flatAttempted {config : Config} (positive : 1 ≤ config.maxFilterDepth) {q : Query}
    (flat : ∀ f, q.filter = some f → f.Flat) (command : Command) (depth : Nat) :
    command.attempt config q ≠ .error (.tooDeep depth) := by
  have built : Compiler.build ⟨config, .identity⟩ q ≠ .error (.tooDeep depth) := by
    rw [Query.buildIdentity]
    intro fails
    obtain ⟨f, present, deep⟩ := Query.tooDeepFilter fails
    exact Filter.flatShallow (flat f present) positive depth deep
  cases command with
  | compile input format | explain input => exact fun fails => built ((Command.attemptBuild.1 _).mp fails)
  | check input => exact fun fails => Query.checkNotGuarded fails trivial

theorem flatNotTooDeep (asked : run.Asked arguments environment) {q : Query}
    (read : host.readQuery run.command.input = .ok q) (flat : ∀ f, q.filter = some f → f.Flat)
    (depth : Nat) : ¬ Host.FailsWith host run (.compile (.tooDeep depth)) := by
  intro fails
  obtain _ | _ | _ | _ | ⟨decodes, fails⟩ := fails
  obtain ⟨text, reads, decoded⟩ := id decodes
  cases read.symm.trans (Host.queryRead decodes)
  have positive := effectivePositive asked (Host.configured reads.toConfigures)
  exact flatAttempted positive flat run.command depth fails

end

/-- The configuration of a run is the one in the file that is named last, or else in the file that the
environment names, or else in the first of two files that is there, or else the standard one, with what
the arguments say over it. The file is the only one tried: if it is not accepted, the run fails. As
neither the file nor the arguments may set the depth limit to 0, a filter without groups in groups is
never too deep. -/
theorem effectiveExact {arguments : List String} {environment : Option String} {run : Invocation}
    (parsed : Invocation.parse arguments environment = .ok run) (host : Host) :
    (∀ config, host.effectiveConfig run = .ok config ↔
      ∃ base, host.StartsFrom (lastUse "config" arguments <|> environment) base ∧
        Overrides arguments base config) ∧
    (∀ path e, host.Chooses (lastUse "config" arguments <|> environment) (some path) →
      host.Refuses path e → host.effectiveConfig run = .error (.config e)) ∧
    (∀ config, host.effectiveConfig run = .ok config → 1 ≤ config.maxFilterDepth) ∧
    ∀ q, host.readQuery run.command.input = .ok q → (∀ f, q.filter = some f → f.Flat) →
      ∀ written depth output,
        (host.run run).run.run written ≠ (.error (.compile (.tooDeep depth)), output) := by
  have asked := parsedAsked parsed
  refine ⟨fun config => effectiveStarts asked, fun path e chosen refused => ?_,
    fun config => effectivePositive asked, fun q read flat written depth output ended => ?_⟩
  · rw [← asked.config] at chosen
    rw [Host.effectiveConfig, Host.baseFile chosen, Host.refusedExact refused]
    rfl
  · rcases Host.failsOrSucceeds with succeeds | ⟨e, fails⟩
    · obtain ⟨more, finished⟩ := Host.runSucceeds succeeds written
      cases finished.symm.trans ended
    · cases (Host.runFails fails written).symm.trans ended
      exact flatNotTooDeep asked read flat depth fails

/- The local file is not accepted and stands before the one of the user. -/
def shadowingHost : Host where
  fileText path := .ok (if path = "qast.toml" then "max_filter_depth = 0" else "max_filter_nodes = 9")
  isFile _ := true
  standardInput := ""
  userConfig := some "config.toml"

theorem shadowingEffective :
    Invocation.parse ["check", "--strict"] none = .ok ⟨none, true, none, false, .check "-"⟩ ∧
    shadowingHost.effectiveConfig ⟨none, true, none, false, .check "-"⟩ =
      .error (.config .zeroDepth) ∧
    Invocation.parse ["--strict", "--config=a.toml", "check", "--max-depth", "3"] (some "b.toml") =
      .ok ⟨some "a.toml", true, some 3, false, .check "-"⟩ ∧
    shadowingHost.effectiveConfig ⟨some "a.toml", true, some 3, false, .check "-"⟩ =
      .ok ⟨3, some 9, true, false⟩ := by
  have plain : Invocation.parse ["check", "--strict"] none =
      .ok ⟨none, true, none, false, .check "-"⟩ := by rfl
  have given : Invocation.parse ["--strict", "--config=a.toml", "check", "--max-depth", "3"]
      (some "b.toml") = .ok ⟨some "a.toml", true, some 3, false, .check "-"⟩ := by rfl
  have zero : Config.ofToml? "max_filter_depth = 0" = some ⟨0, none, false, false⟩ := by rfl
  have nodes : Config.ofToml? "max_filter_nodes = 9" = some ⟨256, some 9, false, false⟩ := by rfl
  have accepted : shadowingHost.Accepts "a.toml" ⟨256, some 9, false, false⟩ :=
    ⟨_, rfl, nodes, (Config.zeroDepthSet nodes).not.mp (by decide)⟩
  obtain ⟨-, refused, -, -⟩ := effectiveExact plain shadowingHost
  obtain ⟨effective, -, -, -⟩ := effectiveExact given shadowingHost
  refine ⟨plain, refused "qast.toml" _ (.here (by decide) rfl) ?_, given, (effective _).mpr ?_⟩
  · exact .zeroDepth rfl zero ((Config.zeroDepthSet zero).mp rfl)
  · refine ⟨_, .file (.named (by decide)) accepted, ?_⟩
    exact ⟨by decide, by decide, by decide, by decide, rfl⟩

end CommandLine
end QueryTree
