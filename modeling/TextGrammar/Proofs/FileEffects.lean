import TextGrammar.Command.Session
import TextGrammar.Pattern.Standard
import TextGrammar.Random.ChaCha
import Mathlib.Logic.Function.Basic

set_option autoImplicit false

namespace TextGrammar

section

variable {ε ε' α β : Type}

theorem bind_ok_iff (first : Except ε α) (rest : α → Except ε β) (result : β) :
    (first >>= rest) = .ok result ↔ ∃ value, first = .ok value ∧ rest value = .ok result := by
  cases first <;> simp [bind, Except.bind]

theorem map_error_ok_iff (first : Except ε α) (change : ε → ε') (result : α) :
    first.mapError change = .ok result ↔ first = .ok result := by
  constructor <;> intro succeeds <;> cases first <;> cases succeeds <;> rfl

end

section

variable {Place α β : Type}

def Session.after (session : Session (StateM (World Place)) α) (world : World Place) :
    Except Failure α × World Place := session.run.run world

namespace Session

variable (session : Session (StateM (World Place)) α) (rest : α → Session (StateM (World Place)) β)
  (world : World Place)

theorem after_bind :
    (session >>= rest).after world =
      match session.after world with
      | (.ok value, between) => (rest value).after between
      | (.error failure, between) => (.error failure, between) := by
  simp only [after, ExceptT.run_bind, StateT.run_bind]
  generalize session.run.run world = ran
  obtain ⟨result, between⟩ := ran
  cases result <;> rfl

section

variable [DecidableEq Place]

theorem after_is_present (path : String) :
    (isPresent path).after world = (.ok (world.disk.isPresent path), world) := rfl

theorem after_read_file (path : String) :
    (readFile path).after world = ((world.disk.read path).mapError .file, world) := rfl

theorem after_write_file (path text : String) :
    (writeFile path text).after world =
      match world.disk.write path text with
      | .error fault => (.error (.file fault), world)
      | .ok disk => (.ok (), { world with disk := disk }) := by
  have step : (writeFile path text).after world =
      ((world.write path text).1.mapError .file, (world.write path text).2) := rfl
  rw [step, World.write]
  cases world.disk.write path text <;> rfl

end

def KeepsFiles : Prop := ∀ world, (session.after world).2.disk = world.disk

theorem keeps_pure (value : α) : (pure value : Session (StateM (World Place)) α).KeepsFiles :=
  fun _ => rfl

theorem keeps_of_except (result : Except Failure α) :
    (ofExcept result : Session (StateM (World Place)) α).KeepsFiles := fun _ => rfl

theorem keeps_print [DecidableEq Place] (text : String) :
    (print text : Session (StateM (World Place)) Unit).KeepsFiles := fun _ => rfl

theorem keeps_input [DecidableEq Place] :
    (input : Session (StateM (World Place)) (List UInt8)).KeepsFiles := fun _ => rfl

variable {session rest}

theorem KeepsFiles.bind (first : session.KeepsFiles) (later : ∀ value, (rest value).KeepsFiles) :
    (session >>= rest).KeepsFiles := by
  intro world
  have kept := first world
  rw [after_bind]
  cases ran : session.after world with
  | mk result between =>
      rw [ran] at kept
      cases result with
      | error failure => exact kept
      | ok value => exact (later value between).trans kept

end Session

end

namespace Disk

variable {Place : Type}

def grammarAt (disk : Disk Place) (settings : Settings) (path : String) : Except Failure Grammar := do
  let bytes ← (disk.read path).mapError .file
  settings.readGrammar bytes

def generatorAt [Pattern.Engine] (disk : Disk Place) (settings : Settings) (path : String) :
    Except Failure Generator := do
  let grammar ← disk.grammarAt settings path
  grammar.compile.mapError .compiling

theorem grammar_at_ok (disk : Disk Place) (settings : Settings) (path : String) (grammar : Grammar) :
    disk.grammarAt settings path = .ok grammar ↔
      ∃ bytes source, disk.read path = .ok bytes ∧ settings.encoding.decode bytes = .ok source ∧
        Grammar.read source = .ok grammar := by
  unfold grammarAt Settings.readGrammar
  simp only [bind_ok_iff, map_error_ok_iff]
  exact ⟨fun ⟨bytes, found, source, rest⟩ => ⟨bytes, source, found, rest⟩,
    fun ⟨bytes, source, found, rest⟩ => ⟨bytes, found, source, rest⟩⟩

theorem generator_at_ok [Pattern.Engine] (disk : Disk Place) (settings : Settings) (path : String)
    (generator : Generator) :
    disk.generatorAt settings path = .ok generator ↔
      ∃ grammar, disk.grammarAt settings path = .ok grammar ∧ grammar.compile = .ok generator := by
  unfold generatorAt
  simp only [bind_ok_iff, map_error_ok_iff]

theorem write_cases [DecidableEq Place] (disk : Disk Place) (path text : String) :
    (∃ fault, disk.write path text = .error fault) ∨ disk.write path text = .ok disk ∨
      ∃ place onReading, disk.destination path = .place place onReading none ∧
        disk.write path text = .ok (disk.put place text.toUTF8.data.toList) := by
  unfold write
  cases disk.destination path with
  | other isPresent onReading onWriting => exact .inl ⟨onWriting, rfl⟩
  | device reading onWriting =>
      cases onWriting with
      | some fault => exact .inl ⟨fault, rfl⟩
      | none => exact .inr (.inl rfl)
  | place place onReading onWriting =>
      cases onWriting with
      | some fault => exact .inl ⟨fault, rfl⟩
      | none => exact .inr (.inr ⟨place, onReading, rfl, rfl⟩)

theorem put_changes [DecidableEq Place] (disk : Disk Place) (stored : Place) (bytes : List UInt8)
    (place : Place) (changed : (disk.put stored bytes).content place ≠ disk.content place) :
    place = stored := by
  by_contra other
  exact changed (if_neg other)

end Disk

def Uninformed (arguments : List String) : Prop := ∀ word ∈ versionWords ++ helpWords, word ∉ arguments

-- A grammar that the arguments ask to be compiled and can be, and whose output is not there or may be
-- overwritten.
structure CompileJob [Pattern.Engine] {Place : Type} (disk : Disk Place) (arguments : List String) where
  path : String
  output : String
  settings : Settings
  bytes : List UInt8
  source : String
  grammar : Grammar
  generator : Generator
  uninformed : Uninformed arguments
  asked : (Arguments.ofList arguments).operands = ["compile", path, output]
  settled : Settings.ofArguments (Arguments.ofList arguments) = .ok settings
  permitted : disk.isPresent output = false ∨ "--overwrite" ∈ arguments
  found : disk.read path = .ok bytes
  decoded : settings.encoding.decode bytes = .ok source
  parsed : Grammar.read source = .ok grammar
  compiled : grammar.compile = .ok generator

theorem mem_take_first {α : Type} (test : String → Option α) (arguments : List String)
    (argument : String) (other : test argument = none) :
    argument ∈ (takeFirst test arguments).2 ↔ argument ∈ arguments := by
  induction arguments with
  | nil => rfl
  | cons first rest ih =>
      rw [takeFirst]
      cases tested : test first with
      | none => simp only [List.mem_cons, ih]
      | some value =>
          have differs : argument ≠ first := by
            rintro rfl
            cases other.symm.trans tested
          simp only [List.mem_cons, differs, false_or]

theorem take_first_found {α : Type} (test : String → Option α) (arguments : List String) :
    (takeFirst test arguments).1.isSome ↔ ∃ argument ∈ arguments, (test argument).isSome := by
  induction arguments with
  | nil => simp [takeFirst]
  | cons first rest ih =>
      rw [takeFirst]
      cases tested : test first with
      | none =>
          refine ih.trans ⟨fun ⟨argument, later, passes⟩ => ⟨argument, .tail first later, passes⟩, ?_⟩
          rintro ⟨argument, member, passes⟩
          cases member with
          | head => simp [tested] at passes
          | tail _ later => exact ⟨argument, later, passes⟩
      | some value => simp [tested]

theorem word_found (words arguments : List String) :
    (takeFirst (isWord words) arguments).1.isSome ↔ ∃ word ∈ words, word ∈ arguments := by
  rw [take_first_found]
  refine exists_congr fun argument => ?_
  by_cases member : argument ∈ words <;> simp [isWord, member]

theorem not_a_word (words : List String) (argument : String) (other : argument ∉ words) :
    isWord words argument = none := by
  simp [isWord, other]

theorem version_given (arguments : List String) :
    (Arguments.ofList arguments).version ↔ ∃ word ∈ versionWords, word ∈ arguments :=
  word_found versionWords arguments

theorem help_given (arguments : List String) :
    (Arguments.ofList arguments).help ↔ ∃ word ∈ helpWords, word ∈ arguments := by
  refine (word_found helpWords _).trans (exists_congr fun word => and_congr_right fun asks => ?_)
  have other : word ∉ versionWords := (by decide : ∀ word ∈ helpWords, word ∉ versionWords) word asks
  exact mem_take_first _ _ _ (not_a_word _ _ other)

theorem overwrite_given (arguments : List String) :
    (Arguments.ofList arguments).overwrite ↔ "--overwrite" ∈ arguments := by
  have notHelp := not_a_word helpWords "--overwrite" (by decide)
  have notVersion := not_a_word versionWords "--overwrite" (by decide)
  refine (word_found ["--overwrite"] _).trans ?_
  simp only [List.mem_singleton, exists_eq_left]
  exact (mem_take_first _ _ _ notHelp).trans (mem_take_first _ _ _ notVersion)

theorem operands_compile (operands : List String) (path output : String) :
    Command.ofOperands? operands = some (.compile path output) ↔ operands = ["compile", path, output] := by
  constructor
  · intro asked
    unfold Command.ofOperands? at asked
    split at asked <;> cases asked
    rfl
  · rintro rfl
    rfl

theorem uninformed_iff (arguments : List String) :
    Uninformed arguments ↔
      (Arguments.ofList arguments).version = false ∧ (Arguments.ofList arguments).help = false := by
  rw [← Bool.not_eq_true, ← Bool.not_eq_true, version_given, help_given, Uninformed]
  simp only [List.forall_mem_append, not_exists, not_and]

theorem settings_overwrite (arguments : Arguments) (settings : Settings)
    (settled : Settings.ofArguments arguments = .ok settings) :
    settings.overwrite = arguments.overwrite := by
  unfold Settings.ofArguments at settled
  obtain ⟨seed, -, settled⟩ := (bind_ok_iff _ _ _).mp settled
  obtain ⟨count, -, settled⟩ := (bind_ok_iff _ _ _).mp settled
  obtain ⟨encoding, -, settled⟩ := (bind_ok_iff _ _ _).mp settled
  cases settled
  rfl

theorem may_overwrite (arguments : List String) (settings : Settings)
    (settled : Settings.ofArguments (Arguments.ofList arguments) = .ok settings) :
    settings.overwrite = true ↔ "--overwrite" ∈ arguments := by
  rw [settings_overwrite _ settings settled, overwrite_given]

theorem permitted_iff (arguments : List String) (settings : Settings) (present : Bool)
    (settled : Settings.ofArguments (Arguments.ofList arguments) = .ok settings) :
    (present = false ∨ "--overwrite" ∈ arguments) ↔ ¬ (settings.overwrite = false ∧ present = true) := by
  rw [← may_overwrite arguments settings settled]
  cases settings.overwrite <;> simp

theorem job_of_loaded [Pattern.Engine] {Place : Type} (disk : Disk Place) (arguments : List String)
    (path output : String) (settings : Settings) (generator : Generator)
    (uninformed : Uninformed arguments)
    (settled : Settings.ofArguments (Arguments.ofList arguments) = .ok settings)
    (asked : Command.ofOperands? (Arguments.ofList arguments).operands = some (.compile path output))
    (allowed : ¬ (settings.overwrite = false ∧ disk.isPresent output = true))
    (loaded : disk.generatorAt settings path = .ok generator) :
    Nonempty (CompileJob disk arguments) := by
  obtain ⟨grammar, loadedGrammar, compiled⟩ := (disk.generator_at_ok _ _ _).mp loaded
  obtain ⟨bytes, source, found, decoded, parsed⟩ := (disk.grammar_at_ok _ _ _).mp loadedGrammar
  have operands := (operands_compile _ path output).mp asked
  have permitted := (permitted_iff arguments settings (disk.isPresent output) settled).mpr allowed
  exact ⟨⟨path, output, settings, bytes, source, grammar, generator, uninformed, operands, settled,
    permitted, found, decoded, parsed, compiled⟩⟩

section

variable {Place : Type} [DecidableEq Place]

theorem after_load_grammar (settings : Settings) (path : String) (world : World Place) :
    (loadGrammar settings path).after world = (world.disk.grammarAt settings path, world) := by
  rw [loadGrammar, Session.after_bind, Session.after_read_file, Disk.grammarAt]
  cases world.disk.read path <;> rfl

variable [Pattern.Engine]

theorem after_load_generator (settings : Settings) (path : String) (world : World Place) :
    (loadGenerator settings path).after world = (world.disk.generatorAt settings path, world) := by
  rw [loadGenerator, Session.after_bind, after_load_grammar, Disk.generatorAt]
  cases world.disk.grammarAt settings path <;> rfl

theorem sample_lines_keep (grammar : Grammar) (setting : Setting) (count drawn : Nat) :
    (sampleLines grammar setting count drawn : Session (StateM (World Place)) Unit).KeepsFiles := by
  induction count generalizing drawn with
  | zero => exact Session.keeps_pure ()
  | succ count ih =>
      refine (Session.keeps_of_except _).bind fun production => ?_
      exact (Session.keeps_print _).bind fun _ => ih _

theorem generate_lines_keep (generator : Generator) (feed : Feed) (count drawn : Nat) :
    (generateLines generator feed count drawn : Session (StateM (World Place)) Unit).KeepsFiles := by
  induction count generalizing drawn with
  | zero => exact Session.keeps_pure ()
  | succ count ih => exact (Session.keeps_print _).bind fun _ => ih _

theorem answer_lines_keep (grammar : Grammar) (words : Words) (drawn : Nat) (events : List LineEvent) :
    (answerLines grammar words drawn events : Session (StateM (World Place)) Unit).KeepsFiles := by
  induction events generalizing drawn with
  | nil => exact Session.keeps_pure ()
  | cons event events ih =>
      cases event with
      | line text => exact (Session.keeps_print _).bind fun _ => ih _
      | interrupted | ended => exact Session.keeps_pure ()
      | failed message => exact Session.keeps_of_except (.error (.line message))

variable (surroundings : Surroundings) (settings : Settings) (world : World Place)

theorem perform_keeps (command : Command)
    (other : ∀ path output, command ≠ .compile path output) :
    (surroundings.perform settings command : Session (StateM (World Place)) Unit).KeepsFiles := by
  have loads (path : String) :
      (loadGrammar settings path : Session (StateM (World Place)) Grammar).KeepsFiles := by
    intro world
    rw [after_load_grammar]
  have compiles (path : String) :
      (loadGenerator settings path : Session (StateM (World Place)) Generator).KeepsFiles := by
    intro world
    rw [after_load_generator]
  cases command with
  | run path input => exact (loads path).bind fun grammar => sample_lines_keep grammar _ _ _
  | generate path input =>
      exact (compiles path).bind fun generator => generate_lines_keep generator _ _ _
  | disassemble path => exact (compiles path).bind fun generator => Session.keeps_print _
  | compile path output => exact absurd rfl (other path output)
  | repl path =>
      refine (loads path).bind fun grammar => Session.keeps_input.bind fun input => ?_
      exact answer_lines_keep grammar _ _ _

theorem after_compile (path output : String) :
    (surroundings.perform settings (.compile path output)).after world =
      if settings.overwrite = false ∧ world.disk.isPresent output = true then
        (.error (.outputExists output), world)
      else
        match world.disk.generatorAt settings path with
        | .error failure => (.error failure, world)
        | .ok generator => (Session.writeFile output generator.rustSource).after world := by
  have stores : (loadGenerator settings path >>= fun generator =>
      Session.writeFile output generator.rustSource).after world =
        match world.disk.generatorAt settings path with
        | .error failure => (.error failure, world)
        | .ok generator => (Session.writeFile output generator.rustSource).after world := by
    rw [Session.after_bind, after_load_generator]
    cases world.disk.generatorAt settings path <;> rfl
  rw [← stores, Surroundings.perform]
  cases overwrites : settings.overwrite with
  | true => rfl
  | false =>
      simp only [Bool.false_eq_true, if_false, true_and]
      rw [Session.after_bind, Session.after_is_present]
      cases world.disk.isPresent output <;> rfl

def Surroundings.outcome (arguments : List String) : Exit × World Place :=
  (surroundings.reply arguments : StateM (World Place) Exit).run world

theorem outcome_informed (arguments : List String) (informed : ¬ Uninformed arguments) :
    (surroundings.outcome world arguments).2.disk = world.disk := by
  rw [uninformed_iff] at informed
  simp only [Surroundings.outcome, Surroundings.reply]
  cases version : (Arguments.ofList arguments).version with
  | true => rfl
  | false =>
      cases help : (Arguments.ofList arguments).help with
      | true => rfl
      | false => exact absurd ⟨version, help⟩ informed

theorem outcome_uninformed (arguments : List String) (uninformed : Uninformed arguments) :
    surroundings.outcome world arguments =
      match Settings.ofArguments (Arguments.ofList arguments) with
      | .error failure => (.failure failure, world)
      | .ok settings =>
          match Command.ofOperands? (Arguments.ofList arguments).operands with
          | none => (.misuse, world)
          | some command =>
              let after := (surroundings.perform settings command).after world
              (.ofResult after.1, after.2) := by
  obtain ⟨version, help⟩ := (uninformed_iff arguments).mp uninformed
  unfold Surroundings.outcome Surroundings.reply
  simp only [version, help]
  cases Settings.ofArguments (Arguments.ofList arguments) with
  | error failure => rfl
  | ok settings =>
      cases Command.ofOperands? (Arguments.ofList arguments).operands with
      | none => rfl
      | some command => rfl

-- Without a job some step fails before the file is written, or none would write.
theorem outcome_idle (arguments : List String) (idle : ¬ Nonempty (CompileJob world.disk arguments)) :
    (surroundings.outcome world arguments).2.disk = world.disk := by
  by_cases uninformed : Uninformed arguments
  · rw [outcome_uninformed surroundings world arguments uninformed]
    cases settled : Settings.ofArguments (Arguments.ofList arguments) with
    | error failure => rfl
    | ok settings =>
        cases asked : Command.ofOperands? (Arguments.ofList arguments).operands with
        | none => rfl
        | some command =>
            by_cases compiles : ∃ path output, command = .compile path output
            · obtain ⟨path, output, rfl⟩ := compiles
              simp only [after_compile]
              by_cases refused : settings.overwrite = false ∧ world.disk.isPresent output = true
              · rw [if_pos refused]
              · rw [if_neg refused]
                cases loaded : world.disk.generatorAt settings path with
                | error failure => rfl
                | ok generator =>
                    exact absurd (job_of_loaded world.disk arguments path output settings generator
                      uninformed settled asked refused loaded) idle
            · refine perform_keeps surroundings settings command ?_ world
              exact fun path output same => compiles ⟨path, output, same⟩
  · exact outcome_informed surroundings world arguments uninformed

theorem outcome_job (arguments : List String) (job : CompileJob world.disk arguments) :
    surroundings.outcome world arguments =
      match world.disk.write job.output job.generator.rustSource with
      | .error fault => (.failure (.file fault), world)
      | .ok disk => (.success, { world with disk := disk }) := by
  have loadedGrammar := (world.disk.grammar_at_ok _ _ _).mpr ⟨_, _, job.found, job.decoded, job.parsed⟩
  have loaded := (world.disk.generator_at_ok _ _ _).mpr ⟨_, loadedGrammar, job.compiled⟩
  have allowed := (permitted_iff arguments job.settings _ job.settled).mp job.permitted
  have asked := (operands_compile _ _ _).mpr job.asked
  rw [outcome_uninformed surroundings world arguments job.uninformed, job.settled]
  simp only [asked, after_compile, if_neg allowed, loaded, Session.after_write_file]
  cases world.disk.write job.output job.generator.rustSource <;> rfl

theorem outcome_stored (arguments : List String) (job : CompileJob world.disk arguments) (place : Place)
    (onReading : Option FileFault) (leads : world.disk.destination job.output = .place place onReading none) :
    surroundings.outcome world arguments =
      (.success, { world with
        disk := world.disk.put place job.generator.rustSource.toUTF8.data.toList }) := by
  rw [outcome_job surroundings world arguments job, Disk.write, leads]

theorem outcome_changes (arguments : List String) (place : Place)
    (changed : (surroundings.outcome world arguments).2.disk.content place ≠ world.disk.content place) :
    ∃ (job : CompileJob world.disk arguments) (onReading : Option FileFault),
      world.disk.destination job.output = .place place onReading none := by
  by_cases asked : Nonempty (CompileJob world.disk arguments)
  · obtain ⟨job⟩ := asked
    rcases world.disk.write_cases job.output job.generator.rustSource with fails | lost | stores
    · obtain ⟨fault, fails⟩ := fails
      rw [outcome_job surroundings world arguments job, fails] at changed
      exact absurd rfl changed
    · rw [outcome_job surroundings world arguments job, lost] at changed
      exact absurd rfl changed
    · obtain ⟨stored, onReading, leads, -⟩ := stores
      rw [outcome_stored surroundings world arguments job stored onReading leads] at changed
      obtain rfl := world.disk.put_changes stored _ place changed
      exact ⟨job, onReading, leads⟩
  · rw [outcome_idle surroundings world arguments asked] at changed
    exact absurd rfl changed

-- What changes is one file at most, and only where the command line asks for a grammar to be compiled and
-- every step up to the writing succeeds.
theorem command_leaves_files (arguments : List String) :
    let outcome := surroundings.outcome world arguments
    let before := world.disk.content
    let after := outcome.2.disk.content
    (∀ place other, after place ≠ before place → after other ≠ before other → place = other) ∧
    (∀ place, after place ≠ before place →
      ∃ job : CompileJob world.disk arguments,
        (∃ onReading, world.disk.destination job.output = .place place onReading none) ∧
        after place = some job.generator.rustSource.toUTF8.data.toList ∧ outcome.1.code = 0) ∧
    (¬ Nonempty (CompileJob world.disk arguments) → outcome.2.disk = world.disk) ∧
    (outcome.1.code ≠ 0 → outcome.2.disk = world.disk) ∧
    (∀ (job : CompileJob world.disk arguments) (fault : FileFault),
      world.disk.write job.output job.generator.rustSource = .error fault →
        outcome.1 = .failure (.file fault) ∧ outcome.2.disk = world.disk) ∧
    ∀ (job : CompileJob world.disk arguments) (place : Place) (onReading : Option FileFault),
      world.disk.destination job.output = .place place onReading none →
        outcome.1 = .success ∧ outcome.2.disk.destination = world.disk.destination ∧
          after = Function.update before place (some job.generator.rustSource.toUTF8.data.toList) := by
  intro outcome before after
  have changes := outcome_changes surroundings world arguments
  have stored := outcome_stored surroundings world arguments
  refine ⟨?_, ?_, outcome_idle surroundings world arguments, ?_, ?_, ?_⟩
  · intro place other changed changedOther
    obtain ⟨job, onReading, leads⟩ := changes place changed
    have written : after = (world.disk.put place _).content :=
      congrArg (fun outcome => outcome.2.disk.content) (stored job place onReading leads)
    rw [written] at changedOther
    exact (world.disk.put_changes place _ other changedOther).symm
  · intro place changed
    obtain ⟨job, onReading, leads⟩ := changes place changed
    have succeeds := stored job place onReading leads
    refine ⟨job, ⟨onReading, leads⟩, ?_, ?_⟩
    · simp only [after, outcome, succeeds, Disk.put, if_pos]
    · simp only [outcome, succeeds, Exit.code]
  · intro fails
    by_cases asked : Nonempty (CompileJob world.disk arguments)
    · obtain ⟨job⟩ := asked
      have run := outcome_job surroundings world arguments job
      cases written : world.disk.write job.output job.generator.rustSource with
      | error fault => simp only [outcome, run, written]
      | ok disk => simp [outcome, run, written, Exit.code] at fails
    · exact outcome_idle surroundings world arguments asked
  · intro job fault fails
    have run := outcome_job surroundings world arguments job
    rw [fails] at run
    exact ⟨congrArg Prod.fst run, congrArg (fun outcome => outcome.2.disk) run⟩
  · intro job place onReading leads
    have succeeds := stored job place onReading leads
    refine ⟨congrArg Prod.fst succeeds, congrArg (fun outcome => outcome.2.disk.destination) succeeds, ?_⟩
    funext other
    simp only [after, before, outcome, succeeds, Disk.put, Function.update_apply]

end

-- Two paths lead to the one file, which holds `()`. By the first it may only be read, by the second only
-- be written.
def guardedFile : World Bool where
  disk :=
    { content := fun place => if place then some [40, 41] else none
      destination := fun path =>
        if path = "g" then .place true none (some .permissionDenied)
        else if path = "./g" then .place true (some .permissionDenied) none
        else .other false .notFound .notFound }
  input := []
  output := ""

theorem command_leaves_files_guarded :
    let surroundings : Surroundings := ⟨Words.seeded, 0, fun _ => [], false⟩
    let refused := surroundings.outcome guardedFile ["compile", "g", "./g"]
    let faulty := surroundings.outcome guardedFile ["--overwrite", "compile", "g", "g"]
    let accepted := surroundings.outcome guardedFile ["compile", "g", "--overwrite", "./g"]
    refused.1.code ≠ 0 ∧ refused.2.disk = guardedFile.disk ∧
      faulty.1 = .failure (.file .permissionDenied) ∧ faulty.2.disk = guardedFile.disk ∧
      ∃ job : CompileJob guardedFile.disk ["compile", "g", "--overwrite", "./g"],
        job.output = "./g" ∧ job.generator = ⟨#[], .constant ""⟩ ∧ accepted.1 = .success ∧
          accepted.2.disk.content = Function.update guardedFile.disk.content true
            (some job.generator.rustSource.toUTF8.data.toList) := by
  intro surroundings refused faulty accepted
  have fails : refused.1.code ≠ 0 := by decide
  let faultyJob : CompileJob guardedFile.disk ["--overwrite", "compile", "g", "g"] :=
    { path := "g", output := "g", settings := ⟨true, none, 1, .utf8⟩, bytes := [40, 41], source := "()",
      grammar := ⟨⟨0, 1⟩, [], ⟨1, 1⟩⟩, generator := ⟨#[], .constant ""⟩,
      uninformed := by unfold Uninformed; decide, asked := by rfl, settled := by rfl,
      permitted := .inr (by decide), found := by rfl, decoded := by rfl, parsed := by rfl,
      compiled := by rfl }
  let job : CompileJob guardedFile.disk ["compile", "g", "--overwrite", "./g"] :=
    { faultyJob with
      output := "./g", uninformed := by unfold Uninformed; decide, asked := by rfl, settled := by rfl,
      permitted := .inr (by decide) }
  obtain ⟨-, -, -, failed, -⟩ := command_leaves_files surroundings guardedFile ["compile", "g", "./g"]
  obtain ⟨-, -, -, -, faulted, -⟩ :=
    command_leaves_files surroundings guardedFile ["--overwrite", "compile", "g", "g"]
  obtain ⟨-, -, -, -, -, stored⟩ :=
    command_leaves_files surroundings guardedFile ["compile", "g", "--overwrite", "./g"]
  obtain ⟨fault, kept⟩ := faulted faultyJob .permissionDenied rfl
  obtain ⟨succeeds, -, content⟩ := stored job true (some .permissionDenied) rfl
  exact ⟨fails, failed fails, fault, kept, job, rfl, rfl, succeeds, content⟩

end TextGrammar
