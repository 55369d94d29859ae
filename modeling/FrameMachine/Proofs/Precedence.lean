import FrameMachine.Settings.Resolve

namespace FrameMachine

/-!
# Precedence of settings

Settings have four sources: defaults, a settings file, the environment and the flags of a
command.  Each may leave any entry open, and what the later source says wins.  Layers are
merged in place, section by section, and the two sections are not treated alike.  Seen through
the entries none of this shows: merging is the choice of the later entry where there is one.

A path in a settings file starts from the directory of that file, and a path in the environment
from the working directory.  Both end up in the same entry, and only the first must be joined
to the directory of the file.  The second is not, because the working directory is absolute and
so is every path that starts from it.
-/

namespace Path

variable {base path : Path}

theorem join_of_isAbsolute (absolute : path.isAbsolute = true) : base.join path = path := by
  rw [join, if_pos absolute]

/-- What starts from an absolute path is absolute. -/
theorem isAbsolute_join (absolute : base.isAbsolute = true) : (base.join path).isAbsolute = true := by
  by_cases away : path.isAbsolute = true
  · rw [join_of_isAbsolute away, away]
  · have first : base.text.toList.head? = some '/' := beq_iff_eq.mp absolute
    rw [join, if_neg away]
    split <;> simp [isAbsolute, String.toList_append, first]

end Path

/-! ## Merging layers -/

namespace Layer

variable (earlier later first second third : Layer)

theorem debugOutput_merge :
    (earlier.merge later).debugOutput = later.debugOutput.or earlier.debugOutput := by
  rcases earlier with ⟨run, streams⟩
  rcases later with ⟨laterRun, laterStreams⟩
  cases run <;> cases laterRun <;> simp [debugOutput, merge, mergeRun]

theorem statistics_merge :
    (earlier.merge later).statistics = later.statistics.or earlier.statistics := by
  rcases earlier with ⟨run, streams⟩
  rcases later with ⟨laterRun, laterStreams⟩
  cases run <;> cases laterRun <;> simp [statistics, merge, mergeRun]

theorem input_merge : (earlier.merge later).input = later.input.or earlier.input := by
  rw [input, merge]
  cases later.input <;> rfl

/-- A section about streams is replaced by one that names a file, and by no other. -/
theorem streams_merge :
    (earlier.merge later).streams =
      (later.input.map fun path => ⟨some path⟩).or earlier.streams := by
  rw [merge]
  cases later.input <;> rfl

theorem eq_of_sections {first second : Layer} (run : first.run = second.run)
    (streams : first.streams = second.streams) : first = second := by
  cases first
  cases second
  cases run
  cases streams
  rfl

theorem mergeRun_assoc (first second third : Option RunSection) :
    mergeRun (mergeRun first second) third = mergeRun first (mergeRun second third) := by
  cases third with
  | none => rfl
  | some last =>
      cases second with
      | none => simp [mergeRun]
      | some middle => simp [mergeRun, Option.or_assoc]

/-- It does not matter which two of three layers are merged first. -/
theorem merge_assoc : (first.merge second).merge third = first.merge (second.merge third) := by
  have streams : ((first.merge second).merge third).streams =
      (first.merge (second.merge third)).streams := by
    rw [streams_merge, streams_merge, streams_merge, input_merge, Option.map_or, Option.or_assoc]
  exact eq_of_sections (mergeRun_assoc first.run second.run third.run) streams

/-- Layers that cannot be told apart through their entries. -/
structure SameEntries : Prop where
  debugOutput : first.debugOutput = second.debugOutput
  statistics : first.statistics = second.statistics
  input : first.input = second.input

/-- The layer that says nothing changes no entry, whether it comes first or last. -/
theorem sameEntries_merge_empty (layer : Layer) :
    (layer.merge empty).SameEntries layer ∧ (empty.merge layer).SameEntries layer := by
  constructor
  · constructor
    · rw [debugOutput_merge]
      rfl
    · rw [statistics_merge]
      rfl
    · rw [input_merge]
      rfl
  · constructor
    · rw [debugOutput_merge]
      exact Option.or_none
    · rw [statistics_merge]
      exact Option.or_none
    · rw [input_merge]
      exact Option.or_none

end Layer

/-! ## The environment -/

namespace Environment

variable {environment : Environment} {name : String}

/-- A text without the blanks around it and in lower case. -/
def word (text : String) : String :=
  String.ofList (Text.lower (Text.trim text.toList))

/-- The variable is set, but to none of the words that stand for a truth value. -/
def Refuses (environment : Environment) (name : String) : Prop :=
  ∃ text ∈ environment.value? name, word text ∉ trueWords ∧ word text ∉ falseWords

instance (environment : Environment) (name : String) : Decidable (environment.Refuses name) :=
  inferInstanceAs (Decidable (∃ text ∈ environment.value? name, _))

/-- The truth value that a variable stands for, if it is set. -/
def truth? (environment : Environment) (name : String) : Option Bool :=
  (environment.value? name).map fun text => decide (word text ∈ trueWords)

theorem boolean_eq (name text : String) :
    boolean name text =
      if word text ∈ trueWords then .ok true
      else if word text ∈ falseWords then .ok false
      else .error (.badValue (.notBoolean name (word text))) :=
  rfl

theorem boolean?_of_refuses (refuses : environment.Refuses name) :
    ∃ text, environment.boolean? name = .error (.badValue (.notBoolean name text)) := by
  rcases refuses with ⟨text, member, notTrue, notFalse⟩
  have set : environment.value? name = some text := member
  refine ⟨word text, ?_⟩
  rw [boolean?, set]
  simp only [boolean_eq, if_neg notTrue, if_neg notFalse]

theorem boolean?_of_not_refuses (accepts : ¬environment.Refuses name) :
    environment.boolean? name = .ok (environment.truth? name) := by
  rw [boolean?, truth?]
  cases set : environment.value? name with
  | none => rfl
  | some text =>
      have read : boolean name text = .ok (decide (word text ∈ trueWords)) := by
        by_cases isTrue : word text ∈ trueWords
        · rw [boolean_eq, decide_eq_true isTrue, if_pos isTrue]
        · have isFalse : word text ∈ falseWords :=
            Decidable.byContradiction fun notFalse => accepts ⟨text, set, isTrue, notFalse⟩
          rw [boolean_eq, decide_eq_false isTrue, if_neg isTrue, if_pos isFalse]
      simp only [read, Option.map_some]

/-- The path in a variable that is set and not empty, from the working directory. -/
theorem path?_eq (environment : Environment) (name : String) :
    environment.path? name =
      ((environment.value? name).filter (· != "")).map fun text =>
        environment.workingDirectory.join ⟨text⟩ := by
  unfold path?
  cases environment.value? name with
  | none => rfl
  | some text =>
      by_cases empty : text = ""
      · subst empty
        rfl
      · simp [empty, Option.filter]

/-- A refused variable spoils the layer. -/
theorem layer_of_refuses
    (refuses : environment.Refuses debugOutputName ∨ environment.Refuses statisticsName) :
    ∃ value, environment.layer = .error (.badValue value) := by
  unfold layer
  by_cases first : environment.Refuses debugOutputName
  · rcases boolean?_of_refuses first with ⟨text, refused⟩
    exact ⟨_, by rw [refused]⟩
  · rcases boolean?_of_refuses (refuses.resolve_left first) with ⟨text, refused⟩
    exact ⟨_, by rw [boolean?_of_not_refuses first, refused]⟩

/-- Without a refused variable the layer has an entry for each variable that is set. -/
theorem exists_layer (first : ¬environment.Refuses debugOutputName)
    (second : ¬environment.Refuses statisticsName) :
    ∃ layer, environment.layer = .ok layer ∧
      layer.debugOutput = environment.truth? debugOutputName ∧
      layer.statistics = environment.truth? statisticsName ∧
      layer.input = environment.path? inputName := by
  rw [layer, boolean?_of_not_refuses first, boolean?_of_not_refuses second]
  refine ⟨_, rfl, ?_, ?_, ?_⟩
  · cases environment.truth? debugOutputName <;> cases environment.truth? statisticsName <;> rfl
  · cases environment.truth? debugOutputName <;> cases environment.truth? statisticsName <;> rfl
  · cases environment.path? inputName <;> rfl

end Environment

/-! ## Settings of a run -/

namespace Settings

/-- A path of the settings file.  A relative one starts from the directory of the file. -/
def locate (settings : Settings) (path : Path) : Path :=
  match settings.root with
  | some root => if path.isAbsolute then path else root.join path
  | none => path

theorem inputPath_eq (settings : Settings) :
    settings.inputPath = settings.layer.input.map settings.locate := by
  rw [inputPath]
  apply Option.map_congr
  intro path _
  unfold locate
  cases settings.root with
  | none => rfl
  | some root =>
      by_cases absolute : path.isAbsolute = true
      · exact (Path.join_of_isAbsolute absolute).trans (if_pos absolute).symm
      · exact (if_neg absolute).symm

theorem locate_of_isAbsolute (settings : Settings) {path : Path}
    (absolute : path.isAbsolute = true) : settings.locate path = path := by
  unfold locate
  cases settings.root with
  | none => rfl
  | some root => exact if_pos absolute

theorem withEnvironment_of_ok {environment : Environment} {layer : Layer} (settings : Settings)
    (said : environment.layer = .ok layer) :
    settings.withEnvironment environment =
      .ok { settings with layer := settings.layer.merge layer } := by
  rw [withEnvironment, said]

theorem withEnvironment_of_error {environment : Environment} {error : SettingsError}
    (settings : Settings) (failed : environment.layer = .error error) :
    settings.withEnvironment environment = .error error := by
  rw [withEnvironment, failed]

end Settings

namespace RunFlags

variable {flags : RunFlags} {environment : Environment} {file : Settings}

/-- Once the settings file is read, the environment and then the flags are applied to it. -/
theorem resolve_of_ofSource {files : FileSystem}
    (read : Settings.ofSource files (flags.source environment) = .ok file) :
    flags.resolve files environment = (file.withEnvironment environment).map flags.apply := by
  rw [resolve, Settings.load, read]
  simp only
  cases file.withEnvironment environment <;> rfl

/-- The environment and the flags applied to the settings of a file, when no variable is
refused. -/
theorem apply_withEnvironment (absolute : environment.workingDirectory.isAbsolute = true)
    (first : ¬environment.Refuses Environment.debugOutputName)
    (second : ¬environment.Refuses Environment.statisticsName) :
    (file.withEnvironment environment).map flags.apply = .ok {
      debugOutput := !flags.quiet &&
        ((environment.truth? Environment.debugOutputName).or file.layer.debugOutput).getD true
      statistics := flags.statistics ||
        ((environment.truth? Environment.statisticsName).or file.layer.statistics).getD false
      input := flags.input.or
        ((environment.path? Environment.inputName).or (file.layer.input.map file.locate)) } := by
  rcases Environment.exists_layer first second with ⟨layer, said, debugOutput, statistics, input⟩
  -- The directory of the file is not joined to a path of the environment.
  have kept : layer.input.map file.locate = layer.input := by
    rw [input, Environment.path?_eq, Option.map_map]
    apply Option.map_congr
    intro text _
    exact file.locate_of_isAbsolute (Path.isAbsolute_join absolute)
  have path : (Settings.mk (file.layer.merge layer) file.root).inputPath =
      layer.input.or (file.layer.input.map file.locate) := by
    rw [Settings.inputPath_eq, Layer.input_merge, Option.map_or]
    exact congrArg (Option.or · _) kept
  rw [file.withEnvironment_of_ok said, Except.map, apply, path, Settings.debugOutput,
    Settings.statistics, Layer.debugOutput_merge, Layer.statistics_merge, debugOutput, statistics,
    input, Bool.and_comm, Bool.or_comm]

/-- Later sources win.  Take any settings that a file has given, with the directory of the file,
any environment with an absolute working directory, and any flags.  Resolving them fails exactly
if one of the two variables for truth values is set to a text that, trimmed and in lower case, is
none of the accepted words, and it fails then because of a bad value.  Otherwise diagnostics are
written unless the flag silences them, as the first of environment and file says, and by default.
Statistics are kept if the flag asks for them, else as the first of environment and file says,
and not by default.  Input is read from the path of the flag as it is given, else from the path
in the environment, unless that is empty, starting from the working directory and never from
that of the file, else from the path of the file, starting from the directory of the file if it
is relative.  Merging layers is associative.  Through the entries it is the choice of the later
entry, and a layer that says nothing makes no difference on either side. -/
theorem later_sources_win (file : Settings) (environment : Environment) (flags : RunFlags)
    (absolute : environment.workingDirectory.isAbsolute = true) :
    let answer := (file.withEnvironment environment).map flags.apply
    let refused := environment.Refuses Environment.debugOutputName ∨
      environment.Refuses Environment.statisticsName
    (∀ files, Settings.ofSource files (flags.source environment) = .ok file →
      flags.resolve files environment = answer) ∧
    ((∃ value, answer = .error (.badValue value)) ↔ refused) ∧
    (¬refused → answer = .ok {
      debugOutput := !flags.quiet &&
        ((environment.truth? Environment.debugOutputName).or file.layer.debugOutput).getD true
      statistics := flags.statistics ||
        ((environment.truth? Environment.statisticsName).or file.layer.statistics).getD false
      input := flags.input.or
        ((((environment.value? Environment.inputName).filter (· != "")).map fun text =>
          environment.workingDirectory.join ⟨text⟩).or (file.layer.input.map file.locate)) }) ∧
    (∀ first second third : Layer,
      (first.merge second).merge third = first.merge (second.merge third)) ∧
    (∀ earlier later : Layer,
      (earlier.merge later).debugOutput = later.debugOutput.or earlier.debugOutput ∧
      (earlier.merge later).statistics = later.statistics.or earlier.statistics ∧
      (earlier.merge later).input = later.input.or earlier.input) ∧
    ∀ layer : Layer,
      (layer.merge .empty).SameEntries layer ∧ (Layer.empty.merge layer).SameEntries layer := by
  intro answer refused
  have accepted (accepts : ¬refused) : answer = .ok _ :=
    apply_withEnvironment absolute (fun first => accepts (Or.inl first))
      fun second => accepts (Or.inr second)
  refine ⟨fun files read => resolve_of_ofSource read, ⟨?_, ?_⟩, ?_, Layer.merge_assoc, ?_,
    Layer.sameEntries_merge_empty⟩
  · rintro ⟨value, failed⟩
    apply Classical.byContradiction
    intro accepts
    rw [accepted accepts] at failed
    cases failed
  · intro refuses
    rcases Environment.layer_of_refuses refuses with ⟨value, failed⟩
    exact ⟨value, congrArg (Except.map flags.apply) (file.withEnvironment_of_error failed)⟩
  · intro accepts
    rw [accepted accepts, Environment.path?_eq]
  · intro earlier later
    exact ⟨earlier.debugOutput_merge later, earlier.statistics_merge later,
      earlier.input_merge later⟩

/-- A settings file in another directory, with diagnostics switched off by the environment, an
input named by both of them and statistics asked for by the flag.  A word that is not accepted
makes the same settings fail. -/
theorem later_sources_win_elsewhere :
    let text := "[runtime]\ndebug_output = true\n[io]\ninput = \"in.txt\"\n"
    let files : FileSystem := ⟨fun path =>
      if path.text = "/conf/ippvm.toml" then .ok (.regular (.ok text.toUTF8.data.toList))
      else .error .notFound⟩
    let file : Settings := ⟨⟨some ⟨some true, none⟩, some ⟨some ⟨"in.txt"⟩⟩⟩, some ⟨"/conf"⟩⟩
    let flags : RunFlags := ⟨none, true, false, some ⟨"/conf/ippvm.toml"⟩⟩
    let environment : Environment :=
      ⟨⟨"/work"⟩, [("IPPVM_DEBUG_OUTPUT", " Off\t"), ("IPPVM_INPUT", "data")]⟩
    let spoiled : Environment := ⟨⟨"/work"⟩, [("IPPVM_STATS", "maybe")]⟩
    environment.workingDirectory.isAbsolute = true ∧
      Settings.ofSource files (flags.source environment) = .ok file ∧
      flags.resolve files environment = .ok ⟨false, true, some ⟨"/work/data"⟩⟩ ∧
      spoiled.Refuses Environment.statisticsName ∧
      ∃ value, flags.resolve files spoiled = .error (.badValue value) := by
  intro text files file flags environment spoiled
  have absolute : environment.workingDirectory.isAbsolute = true := by
    decide +kernel
  have found : (Settings.ofSource files (flags.source environment)).toOption = some file := by
    decide +kernel
  have read : Settings.ofSource files (flags.source environment) = .ok file := by
    cases ending : Settings.ofSource files (flags.source environment) with
    | error error =>
        rw [ending] at found
        cases found
    | ok settings =>
        rw [ending] at found
        exact congrArg Except.ok (Option.some.inj found)
  have unspoiled : ¬(environment.Refuses Environment.debugOutputName ∨
      environment.Refuses Environment.statisticsName) := by
    decide +kernel
  have refuses : spoiled.Refuses Environment.statisticsName := by
    decide +kernel
  rcases later_sources_win file environment flags absolute with ⟨resolved, -, answered, -⟩
  rcases later_sources_win file spoiled flags absolute with ⟨alsoResolved, failed, -⟩
  refine ⟨absolute, read, ?_, refuses, ?_⟩
  · rw [resolved files read, answered unspoiled]
    apply congrArg Except.ok
    decide +kernel
  · rw [alsoResolved files read]
    exact failed.mpr (Or.inr refuses)

end RunFlags
end FrameMachine
