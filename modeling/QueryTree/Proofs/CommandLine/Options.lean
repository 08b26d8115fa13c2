import Mathlib.Tactic.SplitIfs
import QueryTree.CommandLine.Arguments
import QueryTree.Proofs.Json.Holds
import QueryTree.Proofs.Text.Cancel

/-! What the arguments say of an option. An option is used where its long name stands as an argument,
and what it is given is attached to that argument or stands behind it. -/
namespace QueryTree.CommandLine

def marked (name : String) : List Char := ("--" ++ name ++ "=").toList

def uses (name : String) : List String → List (Option String)
  | [] => []
  | argument :: rest =>
    if argument = "--" then []
    else if argument = "--" ++ name then rest.head? :: uses name rest
    else if marked name <+: argument.toList then
      some (String.ofList (argument.toList.drop (marked name).length)) :: uses name rest
    else uses name rest

/- The last use counts: options behind the command are read over those before it. -/
def lastUse (name : String) (arguments : List String) : Option String :=
  (uses name arguments).getLast?.join

theorem markedName (name : String) : marked name = '-' :: '-' :: (name.toList ++ ['=']) := by
  simp [marked]

theorem usesPlain {argument : String} (plain : ∀ text, argument.toList ≠ '-' :: '-' :: text)
    (name : String) (rest : List String) : uses name (argument :: rest) = uses name rest := by
  have double : argument ≠ "--" := fun same => plain [] (by rw [same]; rfl)
  have named : argument ≠ "--" ++ name := fun same =>
    plain name.toList (by rw [same, String.toList_append]; rfl)
  have attached : ¬ marked name <+: argument.toList := by
    rintro ⟨value, same⟩
    refine plain (name.toList ++ '=' :: value) ?_
    rw [← same, markedName]
    simp
  rw [uses, if_neg double, if_neg named, if_neg attached]

theorem notOption {argument : String} (plain : ¬ isOption argument = true) :
    ∀ text, argument.toList ≠ '-' :: '-' :: text := by
  intro text shape
  simp [isOption, shape] at plain

theorem notLong {argument : String} {c : Char} {letters : List Char} (single : c ≠ '-')
    (shape : argument.toList = '-' :: c :: letters) :
    ∀ text, argument.toList ≠ '-' :: '-' :: text := by
  intro text same
  rw [shape, List.cons.injEq, List.cons.injEq] at same
  exact single same.2.1

theorem usesNamed {name word : String} (filled : word ≠ "") (apart : '=' ∉ word.toList)
    (rest : List String) : uses name (("--" ++ word) :: rest) =
      (if word = name then [rest.head?] else []) ++ uses name rest := by
  have double : "--" ++ word ≠ "--" := fun same => filled (by simpa using same)
  rw [uses, if_neg double]
  by_cases same : word = name
  · rw [if_pos (by rw [same]), if_pos same, List.singleton_append]
  · have named : "--" ++ word ≠ "--" ++ name := fun equal => same ((String.append_right_inj _).mp equal)
    have attached : ¬ marked name <+: ("--" ++ word).toList := by
      intro begins
      have inside : '=' ∈ ("--" ++ word).toList := begins.subset (by simp [markedName])
      simp [apart] at inside
    rw [if_neg named, if_neg attached, if_neg same, List.nil_append]

theorem usesAttached {name word : String} (apart : '=' ∉ word.toList) (apartName : '=' ∉ name.toList)
    (value : String) (rest : List String) : uses name (("--" ++ word ++ "=" ++ value) :: rest) =
      (if word = name then [some value] else []) ++ uses name rest := by
  have written : ("--" ++ word ++ "=" ++ value).toList = marked word ++ value.toList := by
    rw [String.toList_append, marked]
  have inside : '=' ∈ ("--" ++ word ++ "=" ++ value).toList := by simp [written, markedName]
  have double : "--" ++ word ++ "=" ++ value ≠ "--" := by
    intro same
    rw [same] at inside
    revert inside
    decide
  have named : "--" ++ word ++ "=" ++ value ≠ "--" ++ name := by
    intro same
    rw [same] at inside
    simp [apartName] at inside
  rw [uses, if_neg double, if_neg named, written]
  by_cases same : word = name
  · subst same
    rw [if_pos (List.prefix_append ..), if_pos rfl, List.drop_left, String.ofList_toList,
      List.singleton_append]
  · have begins : ¬ marked name <+: marked word ++ value.toList := by
      rintro ⟨others, equal⟩
      rw [markedName, markedName] at equal
      simp only [List.cons_append, List.append_assoc, List.nil_append, List.cons.injEq, true_and]
        at equal
      have outside (text : String) (apart : '=' ∉ text.toList) : ∀ c ∈ text.toList, (c == '=') = false :=
        fun c member => by simpa using fun same : c = '=' => apart (same ▸ member)
      have names := (Text.wordCancels (outside name apartName) (outside word apart)
        (Text.stopsAtCons rfl) (Text.stopsAtCons rfl) equal).1
      exact same (String.toList_inj.mp names.symm)
    rw [if_neg begins, if_neg same, List.nil_append]

namespace OptionName

def longName : OptionName → String
  | .config => "config"
  | .strict => "strict"
  | .maxDepth => "max-depth"
  | .honorOperators => "honor-operators"
  | .verbose => "verbose"
  | .format => "format"
  | .help => "help"
  | .version => "version"

theorem ofLongExact (text : String) (o : OptionName) : ofLong? text = some o ↔ text = o.longName := by
  constructor
  · intro named
    unfold ofLong? at named
    split at named <;> cases named <;> rfl
  · rintro rfl
    cases o <;> rfl

theorem longNameApart (o : OptionName) : '=' ∉ o.longName.toList := by cases o <;> decide

end OptionName

structure Slot (β : Type) where
  option : OptionName
  get : Given → Option β
  read : Option String → Option β

namespace Slot

variable {β : Type} (s : Slot β)

def log (g : Given) : List (Option β) := (s.get g).toList.map some

def uses (arguments : List String) : List (Option β) :=
  (CommandLine.uses s.option.longName arguments).map s.read

def due (waiting : Option OptionName) (arguments : List String) : List (Option β) :=
  (if waiting = some s.option then [s.read arguments.head?] else []) ++ s.uses arguments

structure Sound : Prop where
  fresh : s.get Given.none = none
  short (c : Char) : OptionName.ofShort? c ≠ some s.option
  flag {g g' : Given} {o : OptionName} (done : g.setFlag o = .ok g') (behind : Option String) :
    s.log g' = s.log g ++ if o = s.option then [s.read behind] else []
  value {g g' : Given} {o : OptionName} {value : String} (done : g.setValue value o = .ok g') :
    s.log g' = s.log g ++ if o = s.option then [s.read (some value)] else []
  input {g g' : Given} {input : String} (done : g.setInput input = .ok g') : s.log g' = s.log g

variable {s} {place : Option CommandName} {g g' : Given} {waiting : Option OptionName}

theorem dueNone (arguments : List String) : s.due none arguments = s.uses arguments := rfl

theorem optionLogged (sound : s.Sound) {o : OptionName} {attached : Option String}
    (done : g.option place (some o) attached = .ok (g', waiting)) (rest : List String) :
    s.log g' ++ s.due waiting rest = s.log g ++
      ((if o = s.option then [s.read (attached <|> rest.head?)] else []) ++ s.uses rest) := by
  simp only [Given.option] at done
  split at done
  · contradiction
  split at done
  · cases attached with
    | some value =>
      obtain ⟨set, recorded, same⟩ := Json.bindOk done
      cases same
      rw [sound.value recorded, dueNone, List.append_assoc]
      rfl
    | none =>
      cases done
      rw [due]
      simp
  · cases attached with
    | some value => contradiction
    | none =>
      obtain ⟨set, recorded, same⟩ := Json.bindOk done
      cases same
      rw [sound.flag recorded rest.head?, dueNone, List.append_assoc]
      rfl

theorem optionNamed {name? : Option OptionName} {attached : Option String}
    (done : g.option place name? attached = .ok (g', waiting)) : ∃ o, name? = some o := by
  cases name? with
  | none => contradiction
  | some o => exact ⟨o, rfl⟩

theorem wordBefore (text : List Char) : ∃ word : List Char, text.takeWhile (· ≠ '=') = word ∧
    '=' ∉ word ∧ (text.dropWhile (· ≠ '=') = [] ∧ text = word ∨
      ∃ value, text.dropWhile (· ≠ '=') = '=' :: value ∧ text = word ++ '=' :: value) := by
  refine ⟨_, rfl, fun inside => ?_, ?_⟩
  · simpa using List.all_eq_true.mp List.all_takeWhile _ inside
  have split := List.takeWhile_append_dropWhile (p := (· ≠ '=')) (l := text)
  cases behind : text.dropWhile (· ≠ '=') with
  | nil =>
    rw [behind, List.append_nil] at split
    exact .inl ⟨rfl, split.symm⟩
  | cons c value =>
    have mark := List.head?_dropWhile_not (· ≠ '=') text
    rw [behind] at mark split
    obtain rfl : c = '=' := by simpa using mark
    exact .inr ⟨value, rfl, split.symm⟩

theorem longLogged (sound : s.Sound) {argument : String} {text : List Char} (filled : text ≠ [])
    (shape : argument.toList = '-' :: '-' :: text)
    (done : g.long place text = .ok (g', waiting)) (rest : List String) :
    s.log g' ++ s.due waiting rest = s.log g ++ s.uses (argument :: rest) := by
  simp only [Given.long] at done
  obtain ⟨o, named⟩ := optionNamed done
  rw [named] at done
  obtain ⟨word, taken, apart, cases⟩ := wordBefore text
  have same : o = s.option ↔ String.ofList word = s.option.longName := by
    rw [← OptionName.ofLongExact, ← taken, named, Option.some.injEq]
  have outside : '=' ∉ (String.ofList word).toList := by rwa [String.toList_ofList]
  rw [optionLogged sound done rest]
  simp only [same]
  rcases cases with ⟨dropped, rfl⟩ | ⟨value, dropped, rfl⟩
  · have written : argument = "--" ++ String.ofList text := by
      apply String.ext
      simp [shape]
    have word : String.ofList text ≠ "" := by simpa using filled
    rw [dropped, written, uses, uses, usesNamed word outside]
    split_ifs <;> rfl
  · have written : argument = "--" ++ String.ofList word ++ "=" ++ String.ofList value := by
      apply String.ext
      simp [shape]
    rw [dropped, written, uses, uses, usesAttached outside s.option.longNameApart]
    split_ifs <;> rfl

theorem shortLogged (sound : s.Sound) {letter : Char} {attached : Option String}
    (done : g.option place (OptionName.ofShort? letter) attached = .ok (g', waiting)) :
    s.log g' = s.log g ∧ waiting ≠ some s.option := by
  obtain ⟨o, named⟩ := optionNamed done
  have other : o ≠ s.option := fun same => sound.short letter (same ▸ named)
  rw [named] at done
  have logged := optionLogged sound done []
  have kept : waiting ≠ some s.option := by
    rintro rfl
    simp only [Given.option] at done
    split at done
    · contradiction
    split at done
    · cases attached with
      | some value => obtain ⟨_, _, same⟩ := Json.bindOk done; cases same
      | none => cases done; exact other rfl
    · cases attached with
      | some value => contradiction
      | none => obtain ⟨_, _, same⟩ := Json.bindOk done; cases same
  rw [if_neg other, due, if_neg kept] at logged
  exact ⟨by simpa [uses, CommandLine.uses] using logged, kept⟩

theorem shortsLogged (sound : s.Sound) {letters : List Char}
    (done : g.shorts place letters = .ok (g', waiting)) :
    s.log g' = s.log g ∧ waiting ≠ some s.option := by
  induction letters generalizing g with
  | nil =>
    cases done
    exact ⟨rfl, nofun⟩
  | cons c rest ih =>
    simp only [Given.shorts] at done
    split at done
    · split at done
      all_goals exact shortLogged sound done
    · obtain ⟨⟨flagged, _⟩, flag, more⟩ := Json.bindOk done
      obtain ⟨same, kept⟩ := ih more
      exact ⟨same.trans (shortLogged sound flag).1, kept⟩

end Slot

inductive Scanned (place : Option CommandName) : Given → Option OptionName → List String →
    Given → Option (CommandName × List String) → Prop
  | ends {g : Given} : Scanned place g none [] g none
  | value {g set g' : Given} {o : OptionName} {argument : String} {rest : List String}
      {stop : Option (CommandName × List String)} (plain : ¬ isOption argument = true)
      (recorded : g.setValue argument o = .ok set) (next : Scanned place set none rest g' stop) :
      Scanned place g (some o) (argument :: rest) g' stop
  | dashes {g g' : Given} {rest : List String} (behind : place.isSome = true)
      (recorded : g' = g ∨ ∃ input, g.setInput input = .ok g') :
      Scanned place g none ("--" :: rest) g' none
  | long {g set g' : Given} {waiting : Option OptionName} {argument : String} {text : List Char}
      {rest : List String} {stop : Option (CommandName × List String)} (filled : text ≠ [])
      (shape : argument.toList = '-' :: '-' :: text)
      (recorded : g.long place text = .ok (set, waiting))
      (next : Scanned place set waiting rest g' stop) :
      Scanned place g none (argument :: rest) g' stop
  | shorts {g set g' : Given} {waiting : Option OptionName} {argument : String} {c : Char}
      {text : List Char} {rest : List String} {stop : Option (CommandName × List String)}
      (single : c ≠ '-') (shape : argument.toList = '-' :: c :: text)
      (recorded : g.shorts place (c :: text) = .ok (set, waiting))
      (next : Scanned place set waiting rest g' stop) :
      Scanned place g none (argument :: rest) g' stop
  | input {g set g' : Given} {argument : String} {rest : List String}
      {stop : Option (CommandName × List String)}
      (plain : ∀ text, argument.toList ≠ '-' :: '-' :: text)
      (recorded : g.setInput argument = .ok set) (next : Scanned place set none rest g' stop) :
      Scanned place g none (argument :: rest) g' stop
  | command {g : Given} {argument : String} {rest : List String} {name : CommandName}
      (before : place = none) (plain : ∀ text, argument.toList ≠ '-' :: '-' :: text) :
      Scanned place g none (argument :: rest) g (some (name, rest))

section

variable {place : Option CommandName} {g g' : Given} {waiting : Option OptionName}
  {arguments : List String} {stop : Option (CommandName × List String)}

theorem helpOnFails (names : List String) : ∃ early, scan.helpOn names = .error early := by
  unfold scan.helpOn
  split
  · exact ⟨_, rfl⟩
  · split <;> exact ⟨_, rfl⟩
  · exact ⟨_, rfl⟩

theorem scanned (done : scan place g waiting arguments = .ok (g', stop)) :
    Scanned place g waiting arguments g' stop := by
  induction arguments generalizing g waiting with
  | nil =>
    rw [scan] at done
    split at done
    · contradiction
    · rename_i idle
      cases done
      cases waiting with
      | none => exact .ends
      | some o => exact absurd rfl idle
  | cons argument rest ih =>
    cases waiting with
    | some o =>
      simp only [scan] at done
      split at done
      · contradiction
      · rename_i plain
        obtain ⟨set, recorded, more⟩ := Json.bindOk done
        exact .value plain recorded (ih more)
    | none =>
      simp only [scan] at done
      split at done
      · rename_i shape
        obtain rfl : argument = "--" := String.toList_inj.mp shape
        split at done
        · contradiction
        · cases done
          exact .dashes rfl (.inl rfl)
        · obtain ⟨set, recorded, same⟩ := Json.bindOk done
          cases same
          exact .dashes rfl (.inr ⟨_, recorded⟩)
        · contradiction
      · rename_i filled shape
        obtain ⟨⟨set, next⟩, recorded, more⟩ := Json.bindOk done
        exact .long filled shape recorded (ih more)
      · rename_i single shape
        obtain ⟨⟨set, next⟩, recorded, more⟩ := Json.bindOk done
        exact .shorts single shape recorded (ih more)
      · rename_i plain _
        split at done
        · obtain ⟨set, recorded, more⟩ := Json.bindOk done
          exact .input plain recorded (ih more)
        · split at done
          · cases done
            exact .command rfl plain
          · split at done
            · obtain ⟨early, fails⟩ := helpOnFails rest
              rw [fails] at done
              contradiction
            · contradiction

theorem scannedBehind (scanned : Scanned place g waiting arguments g' stop)
    (behind : place.isSome = true) : stop = none := by
  induction scanned with
  | ends | dashes => rfl
  | command before => rw [before] at behind; contradiction
  | value _ _ _ ih | long _ _ _ _ ih | shorts _ _ _ _ ih | input _ _ _ ih => exact ih

def left (stop : Option (CommandName × List String)) : List String := (stop.map Prod.snd).getD []

theorem scannedLog {β : Type} {s : Slot β} (sound : s.Sound)
    (scanned : Scanned place g waiting arguments g' stop) :
    s.log g' ++ s.uses (left stop) = s.log g ++ s.due waiting arguments := by
  -- What is recorded and what is still due make up one list, which no step changes.
  induction scanned with
  | ends => rfl
  | @value g set g' o argument rest stop plain recorded _ ih =>
    rw [ih, sound.value recorded, Slot.dueNone, Slot.due, Slot.uses, Slot.uses,
      usesPlain (notOption plain)]
    by_cases same : o = s.option <;> simp [same]
  | dashes _ recorded =>
    have kept : s.log _ = s.log _ := recorded.elim (congrArg s.log) fun ⟨_, set⟩ => sound.input set
    rw [kept]
    rfl
  | long filled shape recorded _ ih => rw [ih, Slot.dueNone, Slot.longLogged sound filled shape recorded]
  | shorts single shape recorded _ ih =>
    obtain ⟨same, kept⟩ := Slot.shortsLogged sound recorded
    rw [ih, same, Slot.due, if_neg kept, Slot.dueNone, Slot.uses, Slot.uses,
      usesPlain (notLong single shape)]
    rfl
  | input plain recorded _ ih =>
    rw [ih, sound.input recorded, Slot.dueNone, Slot.dueNone, Slot.uses, Slot.uses, usesPlain plain]
  | command _ plain => rw [Slot.dueNone, Slot.uses, Slot.uses, usesPlain plain]; rfl

end

namespace Given

variable {g g' : Given} {o : OptionName}

theorem flagCases (done : g.setFlag o = .ok g') :
    (o = .strict ∧ g.strict = false ∧ g' = { g with strict := true }) ∨
    (o = .honorOperators ∧ g.honorOperators = false ∧ g' = { g with honorOperators := true }) ∨
    (o = .verbose ∧ g' = { g with verbose := true }) := by
  cases o <;> simp only [setFlag] at done <;> try contradiction
  all_goals
    split at done
    · contradiction
    · cases done
      simp_all

theorem valueCases {value : String} (done : g.setValue value o = .ok g') :
    (o = .config ∧ g.config = .none ∧ g' = { g with config := some value }) ∨
    (o = .maxDepth ∧ g.maxDepth = .none ∧
      ∃ n, natural? value = some n ∧ g' = { g with maxDepth := some n }) ∨
    (o = .format ∧ ∃ format, g' = { g with format := some format }) := by
  cases o <;> simp only [setValue] at done <;> try contradiction
  all_goals
    split at done
  all_goals try contradiction
  all_goals cases done
  all_goals simp_all

theorem inputKept {input : String} (done : g.setInput input = .ok g') :
    g' = { g with input := some input } := by
  unfold setInput at done
  split at done
  · contradiction
  · cases done
    rfl

end Given

def configSlot : Slot String := ⟨.config, Given.config, id⟩

def depthSlot : Slot Nat := ⟨.maxDepth, Given.maxDepth, fun text => text.bind natural?⟩

def flagSlot (option : OptionName) (get : Given → Bool) : Slot Unit :=
  ⟨option, fun g => if get g then some () else none, fun _ => some ()⟩

theorem configSound : configSlot.Sound where
  fresh := rfl
  short c := by unfold OptionName.ofShort?; split <;> simp [configSlot]
  flag done behind := by
    rcases Given.flagCases done with ⟨rfl, _, rfl⟩ | ⟨rfl, _, rfl⟩ | ⟨rfl, rfl⟩ <;>
      simp [configSlot, Slot.log]
  value done := by
    rcases Given.valueCases done with ⟨rfl, none, rfl⟩ | ⟨rfl, none, _, _, rfl⟩ | ⟨rfl, _, rfl⟩ <;>
      simp [configSlot, Slot.log, *]
  input done := by rw [Given.inputKept done]; rfl

theorem depthSound : depthSlot.Sound where
  fresh := rfl
  short c := by unfold OptionName.ofShort?; split <;> simp [depthSlot]
  flag done behind := by
    rcases Given.flagCases done with ⟨rfl, _, rfl⟩ | ⟨rfl, _, rfl⟩ | ⟨rfl, rfl⟩ <;>
      simp [depthSlot, Slot.log]
  value done := by
    rcases Given.valueCases done with ⟨rfl, none, rfl⟩ | ⟨rfl, none, _, _, rfl⟩ | ⟨rfl, _, rfl⟩ <;>
      simp [depthSlot, Slot.log, *]
  input done := by rw [Given.inputKept done]; rfl

theorem strictSound : (flagSlot .strict Given.strict).Sound where
  fresh := rfl
  short c := by unfold OptionName.ofShort?; split <;> simp [flagSlot]
  flag done behind := by
    rcases Given.flagCases done with ⟨rfl, off, rfl⟩ | ⟨rfl, _, rfl⟩ | ⟨rfl, rfl⟩ <;>
      simp [flagSlot, Slot.log, *]
  value done := by
    rcases Given.valueCases done with ⟨rfl, _, rfl⟩ | ⟨rfl, _, _, _, rfl⟩ | ⟨rfl, _, rfl⟩ <;>
      simp [flagSlot, Slot.log]
  input done := by rw [Given.inputKept done]; rfl

theorem operatorsSound : (flagSlot .honorOperators Given.honorOperators).Sound where
  fresh := rfl
  short c := by unfold OptionName.ofShort?; split <;> simp [flagSlot]
  flag done behind := by
    rcases Given.flagCases done with ⟨rfl, _, rfl⟩ | ⟨rfl, off, rfl⟩ | ⟨rfl, rfl⟩ <;>
      simp [flagSlot, Slot.log, *]
  value done := by
    rcases Given.valueCases done with ⟨rfl, _, rfl⟩ | ⟨rfl, _, _, _, rfl⟩ | ⟨rfl, _, rfl⟩ <;>
      simp [flagSlot, Slot.log]
  input done := by rw [Given.inputKept done]; rfl

structure Invocation.Asked (arguments : List String) (environment : Option String)
    (run : Invocation) : Prop where
  config : run.config = (lastUse "config" arguments <|> environment)
  strict : run.strict = true ↔ uses "strict" arguments ≠ []
  honorOperators : run.honorOperators = true ↔ uses "honor-operators" arguments ≠ []
  unlimited : lastUse "max-depth" arguments = none → run.maxDepth = none
  limited (text : String) : lastUse "max-depth" arguments = some text →
    ∃ depth, natural? text = some depth ∧ run.maxDepth = some depth

section

variable {arguments : List String} {environment : Option String} {run : Invocation}

theorem parsedGiven (parsed : Invocation.parse arguments environment = .ok run) :
    ∃ before after : Given,
      (∀ {β : Type} {s : Slot β}, s.Sound → s.uses arguments = s.log before ++ s.log after) ∧
      run.config = ((after.config <|> before.config) <|> environment) ∧
      run.strict = (before.strict || after.strict) ∧
      run.maxDepth = (after.maxDepth <|> before.maxDepth) ∧
      run.honorOperators = (before.honorOperators || after.honorOperators) := by
  obtain ⟨⟨before, command?⟩, first, parsed⟩ := Json.bindOk parsed
  cases command? with
  | none => contradiction
  | some command =>
    obtain ⟨⟨after, stop⟩, second, made⟩ := Json.bindOk parsed
    refine ⟨before, after, fun {β s} sound => ?_, ?_⟩
    · have nothing : s.log Given.none = [] := by rw [Slot.log, sound.fresh]; rfl
      have upTo := scannedLog sound (scanned first)
      have behind := scannedLog sound (scanned second)
      rw [scannedBehind (scanned second) rfl, nothing] at behind
      rw [nothing] at upTo
      have rest : s.log after = s.uses command.2 := by
        simpa [left, Slot.dueNone, Slot.uses, uses] using behind
      rw [rest]
      exact upTo.symm
    · dsimp only at made
      split at made
      · contradiction
      · cases made
        exact ⟨rfl, rfl, rfl, rfl⟩

theorem lastRead {β : Type} {s : Slot β} (unread : s.read none = none) {before after : Given}
    (both : s.uses arguments = s.log before ++ s.log after) :
    (lastUse s.option.longName arguments).map (fun text => s.read (some text)) =
      (s.get after <|> s.get before).map some := by
  have last : (uses s.option.longName arguments).getLast?.map s.read =
      (s.get after <|> s.get before).map some := by
    rw [← List.getLast?_map, ← Slot.uses, both, Slot.log, Slot.log]
    cases s.get before <;> cases s.get after <;> rfl
  rw [← last, lastUse]
  cases used : (uses s.option.longName arguments).getLast? with
  | none => rfl
  | some given =>
    cases given with
    | some text => rfl
    | none =>
      rw [used, Option.map_some, unread] at last
      obtain ⟨_, _, same⟩ := Option.map_eq_some_iff.mp last.symm
      contradiction

theorem flagAsked {option : OptionName} {get : Given → Bool} {before after : Given}
    (both : (flagSlot option get).uses arguments =
      (flagSlot option get).log before ++ (flagSlot option get).log after) :
    (get before || get after) = true ↔ uses option.longName arguments ≠ [] := by
  have nowhere : uses option.longName arguments = [] ↔
      (flagSlot option get).log before ++ (flagSlot option get).log after = [] := by
    rw [← both]
    exact List.map_eq_nil_iff.symm
  rw [ne_eq, nowhere]
  simp only [Slot.log, flagSlot]
  cases get before <;> cases get after <;> simp

theorem parsedAsked (parsed : Invocation.parse arguments environment = .ok run) :
    run.Asked arguments environment := by
  obtain ⟨before, after, logged, config, strict, maxDepth, honorOperators⟩ := parsedGiven parsed
  have named : (lastUse "config" arguments).map some = (after.config <|> before.config).map some :=
    lastRead rfl (logged configSound)
  have limit : (lastUse "max-depth" arguments).map natural? =
      (after.maxDepth <|> before.maxDepth).map some := lastRead rfl (logged depthSound)
  rw [← maxDepth] at limit
  refine ⟨?_, ?_, ?_, fun unused => ?_, fun text used => ?_⟩
  · rw [config, Option.map_injective (fun _ _ => Option.some.inj) named]
  · rw [strict]
    exact flagAsked (logged strictSound)
  · rw [honorOperators]
    exact flagAsked (logged operatorsSound)
  · rw [unused] at limit
    exact Option.map_eq_none_iff.mp limit.symm
  · rw [used] at limit
    obtain ⟨depth, same, read⟩ := Option.map_eq_some_iff.mp limit.symm
    exact ⟨depth, read.symm, same⟩

end

end QueryTree.CommandLine
