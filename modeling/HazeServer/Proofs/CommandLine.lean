import HazeServer.CommandLine.Options

/-! # What reading a command line comes to

Words are read from left to right, so of several values for a switch the last one counts. This is
followed here for the options that decide how the program starts: the transport, and the file and the
level of the log. A level that was read from the words is one of the five, unless its place was left
vacant.
-/

namespace HazeServer

namespace CommandLine

/-- Whether a word is a certain switch. -/
def Word.isFor (switch : Switch) : Word → Bool
  | .switch named _ => named == switch
  | _ => false

/-- The value in the word of a switch, or else in the word after it. -/
def Word.valueBefore (rest : List (String × Word)) : Word → String
  | .switch _ (.value text) => text
  | .switch _ (.joined _ text) => String.ofList text
  | _ => (rest.head?.map (·.1)).getD ""

/-- The value of the last switch of a kind. -/
def lastValue (switch : Switch) : List (String × Word) → Option String
  | [] => none
  | (_, word) :: rest =>
      (lastValue switch rest).or (if word.isFor switch then some (word.valueBefore rest) else none)

/-- What an option is set to by a value that is read as some text. -/
def Convention.slot (convention : Convention) (value text : String) : Slot String :=
  if convention.vacates value then .vacant else .filled text

/-- What a switch with a value does to the transport and the log. -/
structure Follows (convention : Convention) (switch : Switch) (value : String) (options later : Options) :
    Prop where
  tcp : later.tcp = (options.tcp || switch == .tcp)
  file : later.logFile =
    if switch = .logFile then some (convention.slot value value) else options.logFile
  level : later.logLevel =
    if switch = .logLevel then convention.slot value (Text.upper value) else options.logLevel
  checked : switch = .logLevel → convention.vacates value = false → Text.upper value ∈ levels

/-- What words do to the transport and the log. -/
structure Reads (convention : Convention) (words : List (String × Word)) (options later : Options) :
    Prop where
  tcp : later.tcp = (options.tcp || words.any (·.2.isFor .tcp))
  file : later.logFile =
    ((lastValue .logFile words).map fun value => convention.slot value value).or options.logFile
  level : later.logLevel =
    ((lastValue .logLevel words).map fun value => convention.slot value (Text.upper value)).getD
      options.logLevel
  checked : ∀ value, lastValue .logLevel words = some value → convention.vacates value = false →
    Text.upper value ∈ levels

theorem bind_eq_ok {ε α β : Type} {first : Except ε α} {next : α → Except ε β} {result : β} :
    first >>= next = .ok result ↔ ∃ value, first = .ok value ∧ next value = .ok result := by
  cases first with
  | error fault => simp [bind, Except.bind]
  | ok value => simp [bind, Except.bind]

section Switches

variable {convention : Convention} {options later : Options} {switch : Switch} {value : String}

theorem follows_of_other (tcp : switch ≠ .tcp) (file : switch ≠ .logFile) (level : switch ≠ .logLevel)
    (sameTcp : later.tcp = options.tcp) (sameFile : later.logFile = options.logFile)
    (sameLevel : later.logLevel = options.logLevel) : Follows convention switch value options later where
  tcp := by simp [sameTcp, tcp]
  file := by rw [if_neg file, sameFile]
  level := by rw [if_neg level, sameLevel]
  checked is := absurd is level

private theorem follows_vacate (takes : switch.takesValue = true)
    (vacates : convention.vacates value = true) :
    Follows convention switch value options (options.vacate switch) := by
  have vacant (text : String) : convention.slot value text = .vacant := if_pos vacates
  cases switch with
  | host => exact follows_of_other nofun nofun nofun rfl rfl rfl
  | port => exact follows_of_other nofun nofun nofun rfl rfl rfl
  | logFile => exact ⟨(Bool.or_false _).symm, congrArg some (vacant value).symm, rfl, nofun⟩
  | logLevel =>
    refine ⟨(Bool.or_false _).symm, rfl, (vacant _).symm, fun _ present => ?_⟩
    rw [vacates] at present
    cases present
  | _ => cases takes

private theorem follows_readValue (takes : switch.takesValue = true)
    (present : convention.vacates value = false)
    (read : options.readValue switch value = .ok later) :
    Follows convention switch value options later := by
  have filled (text : String) : convention.slot value text = .filled text :=
    if_neg (Bool.eq_false_iff.mp present)
  cases switch with
  | host =>
    cases read
    exact follows_of_other nofun nofun nofun rfl rfl rfl
  | port =>
    simp only [Options.readValue] at read
    split at read
    · cases read
      exact follows_of_other nofun nofun nofun rfl rfl rfl
    · cases read
  | logFile =>
    cases read
    exact ⟨(Bool.or_false _).symm, congrArg some (filled value).symm, rfl, nofun⟩
  | logLevel =>
    simp only [Options.readValue] at read
    split at read
    · next listed =>
      cases read
      exact ⟨(Bool.or_false _).symm, rfl, (filled _).symm, fun _ _ => listed⟩
    · cases read
  | _ => cases takes

theorem follows_setValue (takes : switch.takesValue = true)
    (set : options.setValue convention switch value = .ok later) :
    Follows convention switch value options later := by
  unfold Options.setValue at set
  split at set
  · next vacates =>
    obtain rfl := Except.ok.inj set
    exact follows_vacate takes vacates
  · next present => exact follows_readValue takes (Bool.eq_false_iff.mpr present) set

private theorem follows_give (given : options.give convention switch value = .ok later) :
    Follows convention switch value options later := by
  unfold Options.give at given
  split at given
  · next takes => exact follows_setValue takes given
  · cases given

private theorem follows_follow (plain : switch.takesValue = false)
    (followed : options.follow switch = .ok later) :
    Follows convention switch value options later := by
  cases switch with
  | tcp =>
    cases followed
    exact ⟨(Bool.or_true _).symm, rfl, rfl, nofun⟩
  | help => cases followed
  | version => cases followed
  | _ => cases plain

private theorem followed_all (switches : List Switch)
    (followed : switches.foldlM Options.follow options = .ok later) :
    later.logFile = options.logFile ∧ later.logLevel = options.logLevel ∧
      (options.tcp = true → later.tcp = true) := by
  induction switches generalizing options with
  | nil =>
    cases followed
    exact ⟨rfl, rfl, id⟩
  | cons switch rest step =>
    obtain ⟨middle, first, others⟩ := bind_eq_ok.mp followed
    obtain ⟨file, level, tcp⟩ := step others
    cases switch with
    | help => cases first
    | version => cases first
    | tcp =>
      cases first
      exact ⟨file, level, fun _ => tcp rfl⟩
    | _ =>
      cases first
      exact ⟨file, level, tcp⟩

private theorem endJoined_eq_ok {first : Char} {rest : List Char} {switches : List Switch}
    (ended : endJoined convention switch first rest = .ok switches) : switches = [switch] := by
  unfold endJoined at ended
  split at ended
  · cases ended
  · cases ended
  · exact (Except.ok.inj ended).symm
  · cases ended

private theorem joinedSwitches_head {joined : List Char} {switches : List Switch}
    (named : joinedSwitches convention switch joined = .ok switches) :
    ∃ rest, switches = switch :: rest := by
  cases joined with
  | nil =>
    cases named
    exact ⟨[], rfl⟩
  | cons character others =>
    simp only [joinedSwitches] at named
    split at named
    · exact ⟨[], endJoined_eq_ok named⟩
    · obtain ⟨rest, _, same⟩ := bind_eq_ok.mp named
      exact ⟨rest, (Except.ok.inj same).symm⟩

/-- Only the first of joined switches can be told from what comes of them. -/
theorem follows_followJoined {equals : Bool} {joined : List Char}
    (followed : options.followJoined convention switch equals joined = .ok later) :
    Follows convention switch (String.ofList joined) options later := by
  unfold Options.followJoined at followed
  split at followed
  · next takes => exact follows_setValue takes followed
  · next plain =>
    split at followed
    · cases followed
    · obtain ⟨switches, named, all⟩ := bind_eq_ok.mp followed
      obtain ⟨rest, rfl⟩ := joinedSwitches_head named
      obtain ⟨middle, first, others⟩ := bind_eq_ok.mp all
      obtain ⟨file, level, tcp⟩ := followed_all rest others
      cases switch with
      | tcp =>
        cases first
        exact ⟨(tcp rfl).trans (Bool.or_true _).symm, file, level, nofun⟩
      | help => cases first
      | version => cases first
      | _ => exact absurd rfl plain

end Switches

section Words

variable {convention : Convention} {options middle later : Options} {rest : List (String × Word)}

private theorem lastValue_skip {switch : Switch} (text : String) {word : Word}
    (other : word.isFor switch = false) :
    lastValue switch ((text, word) :: rest) = lastValue switch rest := by
  simp only [lastValue, other, Bool.false_eq_true, ↓reduceIte, Option.or_none]

/-- The value of a switch counts where no later word gives another one. -/
theorem lastValue_follow (kind switch : Switch) (text : String) (attached : Attached) :
    lastValue kind ((text, .switch switch attached) :: rest) =
      (lastValue kind rest).or
        (if switch = kind then some ((Word.switch switch attached).valueBefore rest) else none) := by
  simp only [lastValue, Word.isFor, beq_iff_eq]

private theorem Reads.skip (reads : Reads convention rest options later) (text : String) {word : Word}
    (other : ∀ switch, word.isFor switch = false) :
    Reads convention ((text, word) :: rest) options later where
  tcp := by rw [reads.tcp, List.any_cons, other, Bool.false_or]
  file := by rw [lastValue_skip text (other _), reads.file]
  level := by rw [lastValue_skip text (other _), reads.level]
  checked value last := reads.checked value (lastValue_skip text (other _) ▸ last)

/-- A switch that was followed counts, unless a later one takes its place. -/
theorem Reads.follow {switch : Switch} {attached : Attached}
    (follows : Follows convention switch ((Word.switch switch attached).valueBefore rest) options middle)
    (reads : Reads convention rest middle later) (text : String) :
    Reads convention ((text, .switch switch attached) :: rest) options later where
  tcp := by rw [reads.tcp, follows.tcp, List.any_cons, Word.isFor, Bool.or_assoc]
  file := by
    rw [reads.file, follows.file, lastValue_follow]
    cases lastValue .logFile rest with
    | some value => rfl
    | none => split <;> rfl
  level := by
    rw [reads.level, follows.level, lastValue_follow]
    cases lastValue .logLevel rest with
    | some value => rfl
    | none => split <;> rfl
  checked value found := by
    rw [lastValue_follow] at found
    cases last : lastValue .logLevel rest with
    | some later =>
      rw [last, Option.some_or] at found
      exact reads.checked value (last.trans found)
    | none =>
      rw [last, Option.none_or, Option.ite_none_right_eq_some, Option.some.injEq] at found
      obtain ⟨level, rfl⟩ := found
      exact follows.checked level

private theorem reads_readWords (words : List (String × Word)) (left unread : List String)
    (read : readWords convention options left words = .ok (later, unread)) :
    Reads convention words options later := by
  induction options, left, words using readWords.induct with
  | case1 options left =>
    cases read
    exact ⟨(Bool.or_false _).symm, rfl, rfl, nofun⟩
  | case2 options left word rest step => exact (step read).skip word fun _ => rfl
  | case3 options left word rest step => exact (step read).skip word fun _ => rfl
  | case4 options left word switch value rest step =>
    obtain ⟨middle, given, others⟩ := bind_eq_ok.mp read
    exact .follow (follows_give given) (step middle others) word
  | case5 options left word switch equals joined rest step =>
    obtain ⟨middle, followed, others⟩ := bind_eq_ok.mp read
    exact .follow (follows_followJoined followed) (step middle others) word
  | case6 options left word switch takes value rest step =>
    -- the plain word after the switch is its value
    simp only [readWords, takes, ↓reduceIte] at read
    obtain ⟨middle, set, others⟩ := bind_eq_ok.mp read
    exact .follow (follows_setValue takes set) ((step middle others).skip value fun _ => rfl) word
  | case7 options left word switch rest takes missing =>
    unfold readWords at read
    rw [if_pos takes] at read
    split at read
    · next value others => exact (missing value others rfl).elim
    · cases read
  | case8 options left word switch rest plain step =>
    unfold readWords at read
    rw [if_neg plain] at read
    obtain ⟨middle, followed, others⟩ := bind_eq_ok.mp read
    exact .follow (follows_follow (Bool.eq_false_iff.mpr plain) followed) (step middle others) word

/-- What a command line that can be read comes to. -/
theorem reads_read {environment : Option String} {words : List String}
    (read : Options.read convention environment words = .ok options) :
    ∃ classified, classifyAll words = .ok classified ∧
      Reads convention classified { logLevel := .filled (Text.upper (environment.getD "WARNING")) }
        options := by
  unfold Options.read at read
  cases sorted : classifyAll words with
  | error ambiguity =>
    rw [sorted] at read
    cases read
  | ok classified =>
    rw [sorted] at read
    obtain ⟨⟨later, unread⟩, all, done⟩ := bind_eq_ok.mp read
    dsimp only at done
    split at done
    · obtain rfl := Except.ok.inj done
      exact ⟨classified, rfl, reads_readWords classified [] unread all⟩
    · cases done

end Words

section LevelWord

/-- The word that gives a log level. -/
def levelWord (level : String) : String :=
  "--log-level=" ++ level

variable (level : String)

theorem toList_levelWord : (levelWord level).toList = "--log-level".toList ++ '=' :: level.toList := by
  rw [levelWord, String.toList_append]
  rfl

theorem ne_levelWord {text : String} (plain : '=' ∉ text.toList) : levelWord level ≠ text := by
  rintro rfl
  apply plain
  rw [toList_levelWord]
  simp

private theorem ofName?_levelWord : Switch.ofName? (levelWord level) = none := by
  have plain : ∀ entry ∈ switchNames, '=' ∉ entry.1.toList := by decide
  unfold Switch.ofName?
  rw [Option.map_eq_none_iff, List.find?_eq_none]
  intro entry listed same
  exact ne_levelWord level (plain entry listed) (beq_iff_eq.mp same).symm

private theorem classify_levelWord : classify (levelWord level) = .ok (.switch .logLevel (.value level)) := by
  have text : (levelWord level).toList = '-' :: '-' :: ("log-level".toList ++ '=' :: level.toList) :=
    toList_levelWord level
  have cut : cutAtEquals (levelWord level).toList = ("--log-level".toList, some level.toList) := by
    rw [toList_levelWord]
    rfl
  have named : Switch.ofName? (String.ofList "--log-level".toList) = some .logLevel := by decide
  unfold classify
  rw [text] at cut ⊢
  simp only [ofName?_levelWord, cut, named, attachedTo]
  simp

theorem classifyAll_levelWord (words : List String) :
    classifyAll (levelWord level :: words) =
      (classifyAll words).map ((levelWord level, .switch .logLevel (.value level)) :: ·) := by
  have other : levelWord level ≠ separator := ne_levelWord level (by decide)
  rw [classifyAll, if_neg other, classify_levelWord]
  cases classifyAll words <;> rfl

variable {level} {convention : Convention} (present : convention.vacates level = false)
variable (environment : Option String) (words : List String)
include present

theorem give_logLevel (options : Options) :
    options.give convention .logLevel level =
      if Text.upper level ∈ levels then .ok { options with logLevel := .filled (Text.upper level) }
      else .error (.usage (.unknownLevel (Text.upper level))) := by
  simp only [Options.give, Switch.takesValue, ↓reduceIte, Options.setValue, present, Bool.false_eq_true,
    Options.readValue]

/-- A level in the words does what it would do in the environment, if it is one of the five. -/
theorem read_levelWord_of_listed (listed : Text.upper level ∈ levels) :
    Options.read convention environment (levelWord level :: words) =
      Options.read convention (some level) words := by
  unfold Options.read
  rw [classifyAll_levelWord]
  cases classifyAll words with
  | error ambiguity => rfl
  | ok classified =>
    simp only [Except.map, readWords, give_logLevel present, if_pos listed]
    rfl

theorem read_levelWord_of_unlisted {classified : List (String × Word)}
    (sorted : classifyAll words = .ok classified) (unlisted : Text.upper level ∉ levels) :
    Options.read convention environment (levelWord level :: words) =
      .error (.usage (.unknownLevel (Text.upper level))) := by
  unfold Options.read
  simp only [classifyAll_levelWord, sorted, Except.map, readWords, give_logLevel present, if_neg unlisted]
  rfl

end LevelWord

end CommandLine

end HazeServer
