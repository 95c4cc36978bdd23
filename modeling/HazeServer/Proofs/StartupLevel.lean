import HazeServer.CommandLine.Help
import HazeServer.Proofs.CommandLine
import HazeServer.Startup

/-! # The log level at start-up

The level reaches the log by two ways. One that is given on the command line is checked, and the program
ends with a message if it is none of the five. One that comes from the environment is not checked. Where
the log does not know its name, or has something else than a level under it, the program breaks off; it
also does so where the words leave the place of the level vacant and where the file for the log cannot be
opened.
-/

namespace HazeServer

namespace Startup

open CommandLine

/-- The names of the five levels. Two of them have a second one. -/
def levelNames : List String := levels ++ ["WARN", "FATAL"]

/-- A number is that of one of the five levels. -/
def Proper (number : Nat) : Prop :=
  ∃ name ∈ levels, thresholds.lookup name = some (.level number)

/-- The value that words give to a switch. -/
def valueAsked (switch : Switch) (words : List String) : Option String :=
  match classifyAll words with
  | .ok classified => lastValue switch classified
  | .error _ => none

/-- Whether words ask for a server that is reached over the network. -/
def tcpAsked (words : List String) : Bool :=
  match classifyAll words with
  | .ok classified => classified.any (·.2.isFor .tcp)
  | .error _ => false

/-- The name of the level that is taken from the environment. -/
def environmentName (environment : Option String) : String :=
  Text.upper (environment.getD "WARNING")

/-- The words give no level, so that of the environment is taken, under its name. -/
def FromEnvironment (environment : Option String) (words : List String) (name : String) : Prop :=
  valueAsked .logLevel words = none ∧ environmentName environment = name

section Statement

variable (convention : Convention) (opening : String → Option Fault)
variable (environment : Option String) (words : List String)

/-- The command line can be read. -/
def CanBeRead : Prop :=
  ∃ options, Options.read convention environment words = .ok options

/-- The program ends with a code before anything is started, or it starts with a log from one of the five
levels on and the transport that was asked for. -/
def StartsSoundly : Prop :=
  (∃ exit, start convention opening environment words = .error (.exit exit) ∧
      (exit.code = 0 ∨ exit.code = 2)) ∨
    ∃ running, start convention opening environment words = .ok running ∧ Proper running.log.level ∧
      ((∃ host port, running.launch = .tcp host port) ↔ tcpAsked words = true)

/-- The words leave the place of the level vacant. -/
def LevelVacant : Prop :=
  ∃ value, valueAsked .logLevel words = some value ∧ convention.vacates value = true

/-- The level reaches the log unchecked and is none of the five. -/
inductive LevelUnchecked : Prop where
  | vacant (vacant : LevelVacant convention words)
  | environment (name : String) (taken : FromEnvironment environment words name)
      (other : name ∉ levelNames)

/-- The words name a file for the log, and it cannot be opened. -/
def FileRefused (fault : Fault) : Prop :=
  ∃ name, valueAsked .logFile words = some name ∧ convention.vacates name = false ∧ name ≠ "" ∧
    opening name = some fault

/-- Where the program breaks off. The level has to have a name that the log knows before a file is opened,
and to be a level after that. -/
inductive BreaksOff : Fault → Prop where
  | vacant (vacant : LevelVacant convention words) : BreaksOff .levelMissing
  | unknown (name : String) (taken : FromEnvironment environment words name)
      (other : thresholds.lookup name = none) : BreaksOff (.unknownLevel name)
  | file (fault : Fault) (filled : ¬ LevelVacant convention words)
      (known : ∀ name, FromEnvironment environment words name → thresholds.lookup name ≠ none)
      (refused : FileRefused convention opening words fault) : BreaksOff fault
  | template (taken : FromEnvironment environment words "BASIC_FORMAT")
      (opened : ∀ fault, ¬ FileRefused convention opening words fault) :
      BreaksOff (.noLevelName basicTemplate)
  | styles (taken : FromEnvironment environment words "_STYLES")
      (opened : ∀ fault, ¬ FileRefused convention opening words fault) : BreaksOff (.noLevel stylesText)

/-- How the log level is treated at start-up. -/
structure TreatsLevel : Prop where
  /-- Start-up is sound unless the level reaches the log unchecked or its file cannot be opened. -/
  sound : StartsSoundly convention opening environment words ↔
    (CanBeRead convention environment words →
      ¬ LevelUnchecked convention environment words ∧
        ∀ fault, ¬ FileRefused convention opening words fault)
  faults : ∀ fault, start convention opening environment words = .error (.fault fault) ↔
    CanBeRead convention environment words ∧ BreaksOff convention opening environment words fault
  /-- One of the five levels does the same in the words and in the environment. -/
  alike : ∀ level, convention.vacates level = false → Text.upper level ∈ levels →
    start convention opening environment (levelWord level :: words) =
      start convention opening (some level) words
  /-- Any other level is refused in the words and never in the environment. -/
  apart : ∀ level classified, convention.vacates level = false → Text.upper level ∉ levels →
    classifyAll words = .ok classified →
      start convention opening environment (levelWord level :: words) =
          .error (.exit (.usage (.unknownLevel (Text.upper level)))) ∧
        (CanBeRead convention (some level) words →
          ∀ exit, start convention opening (some level) words ≠ .error (.exit exit))

end Statement

section Names

variable {name : String} {found : LogThreshold} {fault : Fault}

theorem mem_thresholds (known : thresholds.lookup name = some found) : (name, found) ∈ thresholds := by
  obtain ⟨before, after, split, _⟩ := List.lookup_eq_some_iff.mp known
  rw [split]
  exact List.mem_append_right _ List.mem_cons_self

/-- All but two of the names stand for levels. -/
theorem lookup_cases (known : thresholds.lookup name = some found) :
    (∃ number, found = .level number) ∨ (name = "BASIC_FORMAT" ∧ found = .template basicTemplate) ∨
      (name = "_STYLES" ∧ found = .styles) := by
  have all : ∀ entry ∈ thresholds, (∃ number, entry.2 = .level number) ∨
      (entry.1 = "BASIC_FORMAT" ∧ entry.2 = .template basicTemplate) ∨
      (entry.1 = "_STYLES" ∧ entry.2 = .styles) := by
    simp [thresholds]
  exact all (name, found) (mem_thresholds known)

private theorem checkLevel_eq_error (known : thresholds.lookup name = some found) :
    checkLevel found = .error fault ↔
      (name = "BASIC_FORMAT" ∧ fault = .noLevelName basicTemplate) ∨
        (name = "_STYLES" ∧ fault = .noLevel stylesText) := by
  have template : thresholds.lookup "BASIC_FORMAT" = some (.template basicTemplate) := rfl
  have styles : thresholds.lookup "_STYLES" = some .styles := rfl
  rcases lookup_cases known with ⟨number, rfl⟩ | ⟨rfl, rfl⟩ | ⟨rfl, rfl⟩
  · refine iff_of_false nofun ?_
    rintro (⟨rfl, _⟩ | ⟨rfl, _⟩)
    · rw [template] at known
      cases known
    · rw [styles] at known
      cases known
  · have refused : checkLevel (.template basicTemplate) = .error (.noLevelName basicTemplate) := rfl
    simp [refused, eq_comm]
  · simp [checkLevel, eq_comm]

private theorem proper_iff {number : Nat} (known : thresholds.lookup name = some (.level number)) :
    Proper number ↔ name ∈ levelNames := by
  have all : ∀ entry ∈ thresholds,
      (∃ level ∈ levels, thresholds.lookup level = some entry.2) ↔ entry.1 ∈ levelNames := by decide
  exact all (name, .level number) (mem_thresholds known)

theorem threshold_eq_ok : threshold (.filled name) = .ok found ↔ thresholds.lookup name = some found := by
  cases known : thresholds.lookup name <;> simp [threshold, known]

private theorem threshold_eq_error :
    threshold (.filled name) = .error fault ↔ thresholds.lookup name = none ∧ fault = .unknownLevel name := by
  cases known : thresholds.lookup name <;> simp [threshold, known, eq_comm]

/-- The names of the five levels are those for which a log can be set up that has one of them. -/
theorem mem_levelNames : name ∈ levelNames ↔
    ∃ found number, threshold (.filled name) = .ok found ∧ checkLevel found = .ok number ∧
      Proper number := by
  simp only [threshold_eq_ok]
  constructor
  · intro listed
    have all : ∀ name ∈ levelNames, (thresholds.lookup name).isSome = true ∧
        name ≠ "BASIC_FORMAT" ∧ name ≠ "_STYLES" := by decide
    obtain ⟨known, noTemplate, noStyles⟩ := all name listed
    obtain ⟨found, known⟩ := Option.isSome_iff_exists.mp known
    rcases lookup_cases known with ⟨number, rfl⟩ | ⟨rfl, _⟩ | ⟨rfl, _⟩
    · exact ⟨_, number, known, rfl, (proper_iff known).mpr listed⟩
    · exact absurd rfl noTemplate
    · exact absurd rfl noStyles
  · rintro ⟨found, number, known, checked, proper⟩
    rcases lookup_cases known with ⟨number, rfl⟩ | ⟨_, rfl⟩ | ⟨_, rfl⟩
    · obtain rfl := Except.ok.inj checked
      exact (proper_iff known).mp proper
    · cases checked
    · cases checked

end Names

section Source

variable {convention : Convention} {environment : Option String} {words : List String} {value : String}

theorem not_fromEnvironment (asked : valueAsked .logLevel words = some value) (name : String) :
    ¬ FromEnvironment environment words name := by
  rintro ⟨unasked, _⟩
  rw [asked] at unasked
  cases unasked

theorem not_vacant_of_present (asked : valueAsked .logLevel words = some value)
    (present : convention.vacates value = false) : ¬ LevelVacant convention words := by
  rintro ⟨other, vacant, vacates⟩
  obtain rfl := Option.some.inj (asked.symm.trans vacant)
  rw [present] at vacates
  cases vacates

theorem not_vacant_of_unasked (unasked : valueAsked .logLevel words = none) :
    ¬ LevelVacant convention words := by
  rintro ⟨value, asked, _⟩
  rw [unasked] at asked
  cases asked

end Source

/-- Where the level of a command line comes from that can be read. -/
inductive LevelTaken (convention : Convention) (environment : Option String) (words : List String) :
    Slot String → Prop where
  | checked (value : String) (asked : valueAsked .logLevel words = some value)
      (present : convention.vacates value = false) (listed : Text.upper value ∈ levels) :
      LevelTaken convention environment words (.filled (Text.upper value))
  | vacant (value : String) (asked : valueAsked .logLevel words = some value)
      (vacates : convention.vacates value = true) : LevelTaken convention environment words .vacant
  | environment (unasked : valueAsked .logLevel words = none) :
      LevelTaken convention environment words (.filled (environmentName environment))

section Reading

variable {convention : Convention} {opening : String → Option Fault}
variable {environment : Option String} {words : List String} {options : Options} {fault : Fault}

theorem not_canBeRead {exit : Exit} (unread : Options.read convention environment words = .error exit) :
    ¬ CanBeRead convention environment words := by
  rintro ⟨options, read⟩
  rw [unread] at read
  cases read

theorem levelTaken (read : Options.read convention environment words = .ok options) :
    LevelTaken convention environment words options.logLevel := by
  obtain ⟨classified, sorted, reads⟩ := reads_read read
  have same : valueAsked .logLevel words = lastValue .logLevel classified := by
    simp only [valueAsked, sorted]
  rw [reads.level, ← same]
  cases asked : valueAsked .logLevel words with
  | none => exact .environment asked
  | some value =>
    rw [Option.map_some, Option.getD_some, Convention.slot]
    split
    · next vacates => exact .vacant value asked vacates
    · next present =>
      have present := Bool.eq_false_iff.mpr present
      exact .checked value asked present (reads.checked value (same ▸ asked) present)

private theorem tcp_of_read (read : Options.read convention environment words = .ok options) :
    options.tcp = tcpAsked words := by
  obtain ⟨classified, sorted, reads⟩ := reads_read read
  simp only [reads.tcp, tcpAsked, sorted, Bool.false_or]

private theorem logFile_of_read (read : Options.read convention environment words = .ok options) :
    options.logFile = (valueAsked .logFile words).map fun value => convention.slot value value := by
  obtain ⟨classified, sorted, reads⟩ := reads_read read
  simp only [reads.file, valueAsked, sorted, Option.or_none]

theorem targetFault?_eq_some (read : Options.read convention environment words = .ok options) :
    targetFault? opening (logTarget options.logFile) = some fault ↔
      FileRefused convention opening words fault := by
  rw [logFile_of_read read, FileRefused]
  cases valueAsked .logFile words with
  | none => simp [logTarget, targetFault?]
  | some name =>
    cases vacates : convention.vacates name with
    | true => simp [Convention.slot, vacates, logTarget, targetFault?]
    | false =>
      by_cases named : name = ""
      · subst named
        simp [Convention.slot, vacates, logTarget, targetFault?]
      · simp [Convention.slot, vacates, logTarget, named, targetFault?]

/-- What can be read is started once the log knows the level, has its file and finds a level. -/
theorem start_of_read (read : Options.read convention environment words = .ok options) :
    start convention opening environment words =
      match threshold options.logLevel, targetFault? opening (logTarget options.logFile) with
      | .error fault, _ => .error (.fault fault)
      | .ok _, some fault => .error (.fault fault)
      | .ok found, none =>
          match checkLevel found with
          | .error fault => .error (.fault fault)
          | .ok number =>
              .ok ⟨⟨logTarget options.logFile, number⟩,
                if options.tcp then .tcp options.host options.port else .stdio⟩ := by
  simp only [start, plan, read, ofOptions]
  cases threshold options.logLevel with
  | error fault => rfl
  | ok found =>
    simp only [setUpLog, bind, Except.bind, pure, Except.pure]
    cases targetFault? opening (logTarget options.logFile) with
    | some fault => rfl
    | none =>
      simp only
      cases checkLevel found <;> rfl

theorem start_ne_exit (read : Options.read convention environment words = .ok options) (exit : Exit) :
    start convention opening environment words ≠ .error (.exit exit) := by
  rw [start_of_read read]
  cases threshold options.logLevel with
  | error fault => simp
  | ok found =>
    cases targetFault? opening (logTarget options.logFile) with
    | some fault => simp
    | none => cases checked : checkLevel found <;> simp [checked]

private theorem start_eq_fault_of_read (read : Options.read convention environment words = .ok options) :
    start convention opening environment words = .error (.fault fault) ↔
      threshold options.logLevel = .error fault ∨
        ∃ found, threshold options.logLevel = .ok found ∧
          (FileRefused convention opening words fault ∨
            (∀ other, ¬ FileRefused convention opening words other) ∧ checkLevel found = .error fault) := by
  simp only [start_of_read read, ← targetFault?_eq_some read]
  cases threshold options.logLevel with
  | error fault => simp
  | ok found =>
    cases targetFault? opening (logTarget options.logFile) with
    | some fault => simp
    | none => cases checked : checkLevel found <;> simp [checked]

private theorem startsSoundly_of_read (read : Options.read convention environment words = .ok options) :
    StartsSoundly convention opening environment words ↔
      (∃ found number, threshold options.logLevel = .ok found ∧ checkLevel found = .ok number ∧
        Proper number) ∧ ∀ fault, ¬ FileRefused convention opening words fault := by
  have reached : (∃ host port, (if options.tcp then Launch.tcp options.host options.port else .stdio) =
      .tcp host port) ↔ tcpAsked words = true := by
    rw [← tcp_of_read read]
    cases options.tcp <;> simp
  simp only [StartsSoundly, start_ne_exit read, false_and, exists_false, false_or]
  simp only [start_of_read read, ← targetFault?_eq_some read]
  cases threshold options.logLevel with
  | error fault => simp
  | ok found =>
    cases targetFault? opening (logTarget options.logFile) with
    | some fault => simp
    | none =>
      cases checked : checkLevel found with
      | error fault => simp [checked]
      | ok number => simp [checked, reached]

/-- The level gives one of the five exactly if it does not reach the log unchecked. -/
theorem gives_level_iff (read : Options.read convention environment words = .ok options) :
    (∃ found number, threshold options.logLevel = .ok found ∧ checkLevel found = .ok number ∧
      Proper number) ↔ ¬ LevelUnchecked convention environment words := by
  have taken := levelTaken read
  generalize options.logLevel = slot at taken ⊢
  cases taken with
  | checked value asked present listed =>
    refine iff_of_true (mem_levelNames.mp (List.mem_append_left _ listed)) ?_
    rintro (vacant | ⟨name, taken, _⟩)
    · exact not_vacant_of_present asked present vacant
    · exact not_fromEnvironment asked name taken
  | vacant value asked vacates =>
    refine iff_of_false ?_ fun checked => checked (.vacant ⟨value, asked, vacates⟩)
    rintro ⟨found, _, known, _⟩
    cases known
  | environment unasked =>
    rw [← mem_levelNames]
    constructor
    · rintro listed (vacant | ⟨name, ⟨_, rfl⟩, other⟩)
      · exact not_vacant_of_unasked unasked vacant
      · exact other listed
    · intro checked
      exact Decidable.byContradiction fun other => checked (.environment _ ⟨unasked, rfl⟩ other)

end Reading

section Breaking

variable {convention : Convention} {opening : String → Option Fault}
variable {environment : Option String} {words : List String} {value : String} {fault : Fault}

/-- With a level from the words all that can fail is the file. -/
theorem breaksOff_of_present (asked : valueAsked .logLevel words = some value)
    (present : convention.vacates value = false) :
    BreaksOff convention opening environment words fault ↔ FileRefused convention opening words fault := by
  have filled := not_vacant_of_present asked present
  constructor
  · intro breaks
    cases breaks with
    | vacant vacant => exact absurd vacant filled
    | unknown name taken => exact absurd taken (not_fromEnvironment asked name)
    | file fault _ _ refused => exact refused
    | template taken => exact absurd taken (not_fromEnvironment asked _)
    | styles taken => exact absurd taken (not_fromEnvironment asked _)
  · exact .file fault filled fun name taken => absurd taken (not_fromEnvironment asked name)

private theorem breaksOff_of_vacant (asked : valueAsked .logLevel words = some value)
    (vacates : convention.vacates value = true) :
    BreaksOff convention opening environment words fault ↔ fault = .levelMissing := by
  have vacant : LevelVacant convention words := ⟨value, asked, vacates⟩
  constructor
  · intro breaks
    cases breaks with
    | vacant => rfl
    | unknown name taken => exact absurd taken (not_fromEnvironment asked name)
    | file fault filled => exact absurd vacant filled
    | template taken => exact absurd taken (not_fromEnvironment asked _)
    | styles taken => exact absurd taken (not_fromEnvironment asked _)
  · rintro rfl
    exact .vacant vacant

/-- The level of the environment has a name that the log knows, then a file is opened, and then the name
stands for a level. -/
theorem breaksOff_of_unasked (unasked : valueAsked .logLevel words = none) :
    BreaksOff convention opening environment words fault ↔
      threshold (.filled (environmentName environment)) = .error fault ∨
        ∃ found, threshold (.filled (environmentName environment)) = .ok found ∧
          (FileRefused convention opening words fault ∨
            (∀ other, ¬ FileRefused convention opening words other) ∧ checkLevel found = .error fault) := by
  have filled : ¬ LevelVacant convention words := not_vacant_of_unasked unasked
  simp only [threshold_eq_error, threshold_eq_ok]
  constructor
  · intro breaks
    cases breaks with
    | vacant vacant => exact absurd vacant filled
    | unknown name taken other =>
      obtain ⟨_, rfl⟩ := taken
      exact .inl ⟨other, rfl⟩
    | file fault _ known refused =>
      obtain ⟨found, same⟩ := Option.ne_none_iff_exists'.mp (known _ ⟨unasked, rfl⟩)
      exact .inr ⟨found, same, .inl refused⟩
    | template taken opened =>
      rw [taken.2]
      exact .inr ⟨_, rfl, .inr ⟨opened, rfl⟩⟩
    | styles taken opened =>
      rw [taken.2]
      exact .inr ⟨_, rfl, .inr ⟨opened, rfl⟩⟩
  · rintro (⟨other, rfl⟩ | ⟨found, known, refused | ⟨opened, broken⟩⟩)
    · exact .unknown _ ⟨unasked, rfl⟩ other
    · refine .file fault filled ?_ refused
      rintro name ⟨_, rfl⟩
      rw [known]
      exact Option.some_ne_none found
    · rcases (checkLevel_eq_error known).mp broken with ⟨named, rfl⟩ | ⟨named, rfl⟩
      · exact .template ⟨unasked, named⟩ opened
      · exact .styles ⟨unasked, named⟩ opened

end Breaking

section Results

variable (convention : Convention) (opening : String → Option Fault)
variable (environment : Option String) (words : List String)

private theorem startsSoundly_iff : StartsSoundly convention opening environment words ↔
    (CanBeRead convention environment words →
      ¬ LevelUnchecked convention environment words ∧
        ∀ fault, ¬ FileRefused convention opening words fault) := by
  cases read : Options.read convention environment words with
  | error exit =>
    have ended : start convention opening environment words = .error (.exit exit) := by
      simp only [start, plan, read]
    have code : exit.code = 0 ∨ exit.code = 2 := by cases exit <;> simp [Exit.code]
    exact iff_of_true (.inl ⟨exit, ended, code⟩) fun readable => absurd readable (not_canBeRead read)
  | ok options =>
    have readable : CanBeRead convention environment words := ⟨options, read⟩
    rw [startsSoundly_of_read read, gives_level_iff read]
    exact ⟨fun sound _ => sound, fun sound => sound readable⟩

private theorem start_eq_fault (fault : Fault) :
    start convention opening environment words = .error (.fault fault) ↔
      CanBeRead convention environment words ∧ BreaksOff convention opening environment words fault := by
  cases read : Options.read convention environment words with
  | error exit =>
    refine iff_of_false ?_ fun broken => not_canBeRead read broken.1
    simp [start, plan, read]
  | ok options =>
    have readable : CanBeRead convention environment words := ⟨options, read⟩
    have taken := levelTaken read
    rw [start_eq_fault_of_read read, and_iff_right readable]
    generalize options.logLevel = slot at taken ⊢
    cases taken with
    | checked value asked present listed =>
      obtain ⟨found, number, known, checked, _⟩ := mem_levelNames.mp (List.mem_append_left _ listed)
      rw [breaksOff_of_present asked present]
      simp [known, checked]
    | vacant value asked vacates =>
      rw [breaksOff_of_vacant asked vacates]
      simp [threshold, eq_comm]
    | environment unasked => exact (breaksOff_of_unasked unasked).symm

/-- Start-up is sound unless the level reaches the log unchecked or its file cannot be opened. -/
theorem level_checked_in_words_only : TreatsLevel convention opening environment words where
  sound := startsSoundly_iff convention opening environment words
  faults := start_eq_fault convention opening environment words
  alike level present listed := by
    simp only [start, plan, read_levelWord_of_listed present environment words listed]
  apart level classified present unlisted sorted := by
    refine ⟨?_, ?_⟩
    · simp only [start, plan, read_levelWord_of_unlisted present environment words sorted unlisted]
    · rintro ⟨options, read⟩
      exact start_ne_exit read

end Results

/-- A level that the log does not know breaks the program off where it comes from the environment, and so
does the name of something that is no level. -/
theorem verboseEnvironment_breaks :
    start .later (fun _ => none) (some "verbose") [] = .error (.fault (.unknownLevel "VERBOSE")) ∧
      start .later (fun _ => none) (some "basic_format") [] =
        .error (.fault (.noLevelName basicTemplate)) ∧
      start .later (fun _ => none) none [levelWord "verbose"] =
        .error (.exit (.usage (.unknownLevel "VERBOSE"))) ∧
      ¬ StartsSoundly .later (fun _ => none) (some "verbose") [] := by
  have taken : FromEnvironment (some "verbose") [] "VERBOSE" := ⟨rfl, rfl⟩
  have readable : CanBeRead .later (some "verbose") [] := ⟨_, rfl⟩
  have opened (fault : Fault) : ¬ FileRefused .later (fun _ => none) [] fault := by
    rintro ⟨name, asked, _⟩
    cases asked
  have treats := level_checked_in_words_only .later (fun _ => none) (some "verbose") []
  have template := level_checked_in_words_only .later (fun _ => none) (some "basic_format") []
  have checked := level_checked_in_words_only .later (fun _ => none) none []
  refine ⟨(treats.faults _).mpr ⟨readable, .unknown _ taken rfl⟩,
    (template.faults _).mpr ⟨⟨_, rfl⟩, .template ⟨rfl, rfl⟩ opened⟩,
    (checked.apart "verbose" [] rfl (by decide) rfl).1, ?_⟩
  intro sound
  exact (treats.sound.mp sound readable).1 (.environment _ taken (by decide))

-- the two forms of the rules differ where the separator is given as the level
example : start .earlier (fun _ => none) none ["--log-level=--"] = .error (.fault .levelMissing) := rfl

example : start .later (fun _ => none) none ["--log-level=--"] =
    .error (.exit (.usage (.unknownLevel "--"))) := rfl

end Startup

end HazeServer
