import KeyJoin.CommandRun
import KeyJoin.Proofs.CommaJoin
import KeyJoin.Proofs.ListPieces

/-!
# Statements given by their words

The words of a text, put together again with single spaces, have the tokens of
the text.  On the command line they are taken for words of a statement when
none of them looks like an option, and behind a double dash in any case.  The
command then answers as if it had found their statement on its standard input.
-/

namespace KeyJoin

/-! ## Words and tokens -/

theorem kindsOf_intercalate_space (pieces : List (List Char)) :
    kindsOf ([' '].intercalate pieces) = pieces.flatMap kindsOf := by
  induction pieces with
  | nil => rfl
  | cons piece rest ih =>
      cases rest with
      | nil => simp
      | cons next rest =>
          rw [List.intercalate_cons_cons, List.append_assoc,
            kindsOf_append_blank_append piece isBlankText_space (by simp), ih]
          rfl

theorem words_cut {before after : List Char} {c : Char}
    (hbefore : ∀ d ∈ before, isBlank d = false) (hc : isBlank c = true) :
    words (before ++ c :: after) = words before ++ words after := by
  rw [words, words, words, List.splitOnP_append_cons _ _ hc, List.splitOnP_eq_singleton hbefore,
    List.filter_append]

theorem words_of_not_blank {text : List Char} (htext : ∀ c ∈ text, isBlank c = false) :
    words text = if text = [] then [] else [text] := by
  rw [words, List.splitOnP_eq_singleton htext]
  cases text <;> rfl

theorem flatMap_kindsOf_words (text : List Char) : (words text).flatMap kindsOf = kindsOf text := by
  have hplain (text : List Char) (htext : ∀ c ∈ text, isBlank c = false) :
      (words text).flatMap kindsOf = kindsOf text := by
    rw [words_of_not_blank htext]
    split
    · rename_i hnil
      rw [hnil]
      rfl
    · simp
  -- cut at its first white space, as `words` does, not character by character
  induction text using cut_induction (p := isBlank) with
  | plain text htext => exact hplain text htext
  | cut before c after hbefore hc ih =>
      have hgap : IsBlankText [c] := by simpa [IsBlankText] using hc
      have hkinds : kindsOf (before ++ c :: after) = kindsOf before ++ kindsOf after :=
        kindsOf_append_blank_append before hgap (by simp) after
      rw [words_cut hbefore hc, List.flatMap_append, hplain before hbefore, ih, hkinds]

/-- The words of a text, as they stand on a command line. -/
def wordsOfText (text : String) : List String :=
  (words text.toList).map String.ofList

theorem kindsOf_intercalate_wordsOfText (text : String) :
    kindsOf (String.intercalate " " (wordsOfText text)).toList = kindsOf text.toList := by
  have hwords : (wordsOfText text).map String.toList = words text.toList := by
    rw [wordsOfText, List.map_map]
    simp [Function.comp_def]
  rw [String.toList_intercalate, hwords]
  exact (kindsOf_intercalate_space _).trans (flatMap_kindsOf_words text.toList)

/-! ## Arguments -/

theorem isWord_doubleDash : isWord "--" = false := by
  decide

theorem readArguments_nil (options : CommandOptions) :
    readArguments options [] = .run options := by
  unfold readArguments
  rfl

theorem readArguments_doubleDash (options : CommandOptions) (words : List String) :
    readArguments options ("--" :: words) = .run (options.addWords words) := by
  unfold readArguments
  simp only [isWord_doubleDash, Bool.false_eq_true, if_false, if_true]

theorem readArguments_word (options : CommandOptions) {word : String}
    (hword : isWord word = true) (rest : List String) :
    readArguments options (word :: rest) = readArguments (options.addWords [word]) rest := by
  conv_lhs => unfold readArguments
  simp only [hword, if_true]

theorem readArguments_of_isWord (options : CommandOptions) {words : List String}
    (hwords : ∀ word ∈ words, isWord word = true) :
    readArguments options words = .run (options.addWords words) := by
  induction words generalizing options with
  | nil => simp [readArguments_nil, CommandOptions.addWords]
  | cons word words ih =>
      have hrest : ∀ other ∈ words, isWord other = true :=
        fun other hother => hwords other (List.mem_cons_of_mem word hother)
      rw [readArguments_word options (hwords word List.mem_cons_self), ih _ hrest]
      simp [CommandOptions.addWords]

theorem CommandOptions.takesValue_of_setFlag {options found : CommandOptions} {name : OptionName}
    (h : options.setFlag name = some found) : name.takesValue = false := by
  cases name <;> first | rfl | cases h

theorem readArguments_flag {options next : CommandOptions} {argument : String}
    {name : OptionName} (hword : ¬ isWord argument = true) (hdash : ¬ argument = "--")
    (hhelp : ¬ isShortHelp argument = true) (hname : namedOption? argument = some (name, none))
    (hset : options.setFlag name = some next) (rest : List String) :
    readArguments options (argument :: rest) = readArguments next rest := by
  have htakes := CommandOptions.takesValue_of_setFlag hset
  have hnotHelp : name ≠ .help := by
    rintro rfl
    cases hset
  conv_lhs => unfold readArguments
  cases rest with
  | nil =>
      simp only [readArguments_nil, hword, hdash, hhelp, hname, hset, Bool.false_eq_true, if_false]
  | cons value rest =>
      simp only [hword, hdash, hhelp, hname, hset, htakes, Bool.false_eq_true, if_false]

/-- Options that are read to their end are read alike with further arguments behind them. -/
theorem readArguments_append {options found : CommandOptions} {flags : List String}
    (h : readArguments options flags = .run found) (hdash : "--" ∉ flags) (rest : List String) :
    readArguments options (flags ++ rest) = readArguments found rest := by
  fun_induction readArguments options flags with
  | case1 options =>
      cases h
      rfl
  | case2 options argument flags hword ih =>
      rw [List.cons_append, readArguments_word options hword]
      exact ih h fun hmem => hdash (List.mem_cons_of_mem argument hmem)
  | case3 options flags hword => exact absurd List.mem_cons_self hdash
  | case6 options argument hword hnotDash hhelp name value flags hname next hset ih =>
      -- a name with its value attached
      rw [List.cons_append]
      conv_lhs => unfold readArguments
      simp only [hword, hnotDash, hhelp, hname, hset, Bool.false_eq_true, if_false]
      exact ih h fun hmem => hdash (List.mem_cons_of_mem argument hmem)
  | case9 options argument hword hnotDash hhelp name hnotHelp hname next hset =>
      -- a flag that was the last argument and now has others behind it
      cases h
      rw [List.cons_append, List.nil_append]
      exact readArguments_flag hword hnotDash hhelp hname hset rest
  | case11 options argument hword hnotDash hhelp name value flags hnotHelp hname htakes hvalue
      next hset ih =>
      -- a name with its value in the next argument
      rw [List.cons_append, List.cons_append]
      conv_lhs => unfold readArguments
      simp only [hword, hnotDash, hhelp, hname, htakes, hvalue, hset, Bool.false_eq_true,
        if_false, if_true]
      exact ih h fun hmem => hdash (List.mem_cons_of_mem argument (List.mem_cons_of_mem value hmem))
  | case14 options argument hword hnotDash hhelp name value flags hnotHelp hname htakes next hset
      ih =>
      rw [List.cons_append, readArguments_flag hword hnotDash hhelp hname hset]
      exact ih h fun hmem => hdash (List.mem_cons_of_mem argument hmem)
  | _ => cases h

/-! ## Runs of the command -/

variable {system : CommandSystem} {call : CommandCall} {environment : Environment}
  {options : CommandOptions} {settings : Settings} {text : String}

theorem runOptions_of_error {failure : Failure}
    (h : layeredSettings (call.settingsFile system options).1 environment options.engine
      system.documentFault = .error failure) :
    runOptions system call environment options =
      ⟨1, "",
        causedReport ("Failed to load config from " ++ options.settingsFile.getD "")
          (failureChain failure)⟩ := by
  simp only [runOptions, h]

theorem runOptions_of_ok
    (h : layeredSettings (call.settingsFile system options).1 environment options.engine
      system.documentFault = .ok settings) :
    runOptions system call environment options =
      runSettings system call environment (call.settingsFile system options).2 options
        settings := by
  simp only [runOptions, h]

/-- The command finds the text on its standard input, and nothing else there, as a statement that
is to be run and answered in plain lines. -/
structure CommandCall.Asks (call : CommandCall) (system : CommandSystem)
    (options : CommandOptions) (text : String) : Prop where
  request : commandRequest call.arguments = .run options
  words : options.words = []
  script : options.scriptFile = none
  plain : options.json = false
  running : options.commaJoin = false
  text : decodeStrictly? call.standardInput = some text
  environment : system.LeavesInput ".env"
  settings : ∀ path ∈ options.settingsFile, system.LeavesInput path

/-- The two statements are routed alike for a run of the command, whatever its settings and its
engine are. -/
def CommandCall.RoutesAlike (call : CommandCall) (options : CommandOptions)
    (first second : String) : Prop :=
  ∀ settings engine,
    routeStatement settings (routeOptionsOf options) call.stamp engine first =
      routeStatement settings (routeOptionsOf options) call.stamp engine second

/-- The same run with other arguments and another standard input. -/
def CommandCall.withQuery (call : CommandCall) (arguments : List String)
    (standardInput : Bytes) : CommandCall :=
  { call with arguments := arguments, standardInput := standardInput }

@[simp] theorem CommandCall.environment_withQuery (call : CommandCall)
    (arguments : List String) (standardInput : Bytes) :
    (call.withQuery arguments standardInput).environment = call.environment := rfl

@[simp] theorem CommandCall.standardInput_withQuery (call : CommandCall)
    (arguments : List String) (standardInput : Bytes) :
    (call.withQuery arguments standardInput).standardInput = standardInput := rfl

@[simp] theorem CommandOptions.scriptFile_addWords (options : CommandOptions)
    (words : List String) : (options.addWords words).scriptFile = options.scriptFile := rfl

@[simp] theorem CommandOptions.settingsFile_addWords (options : CommandOptions)
    (words : List String) : (options.addWords words).settingsFile = options.settingsFile := rfl

@[simp] theorem CommandCall.settingsFile_addWords (call : CommandCall) (system : CommandSystem)
    (options : CommandOptions) (words : List String) :
    call.settingsFile system (options.addWords words) = call.settingsFile system options := rfl

@[simp] theorem CommandOptions.engine_addWords (options : CommandOptions)
    (words : List String) : (options.addWords words).engine = options.engine := rfl

@[simp] theorem routeOptionsOf_addWords (options : CommandOptions) (words : List String) :
    routeOptionsOf (options.addWords words) = routeOptionsOf options := rfl

theorem environmentOf?_withQuery (h : system.LeavesInput ".env") (arguments : List String)
    (standardInput : Bytes) :
    environmentOf? system (call.withQuery arguments standardInput) =
      environmentOf? system call := by
  unfold environmentOf?
  rw [CommandCall.environment_withQuery, CommandCall.standardInput_withQuery,
    h standardInput call.standardInput]

/-- The settings file is the same for every call, and reading it leaves the standard input. -/
theorem CommandCall.settingsFile_eq
    (h : ∀ path ∈ options.settingsFile, system.LeavesInput path) (call other : CommandCall) :
    call.settingsFile system options =
      ((other.settingsFile system options).1, call.standardInput) := by
  unfold CommandCall.settingsFile
  cases hsettings : options.settingsFile with
  | none => rfl
  | some path =>
      have hread := h path hsettings call.standardInput other.standardInput
      exact congrArg (fun found => (some found.1, found.2)) hread

theorem statementOf_addWords (h : call.Asks system options text) {words : List String}
    (hne : words ≠ []) (standardInput : Bytes) :
    statementOf (options.addWords words) standardInput =
      some (String.intercalate " " words) := by
  have hwords : words.isEmpty = false := by simpa using hne
  simp only [statementOf, CommandOptions.addWords, h.words, List.nil_append, hwords,
    Bool.false_eq_true, if_false]

theorem CommandCall.Asks.statementOf_eq (h : call.Asks system options text) :
    statementOf options call.standardInput = some text := by
  simp only [statementOf, h.words, List.isEmpty_nil, if_true, h.text]

theorem runSettings_withQuery (h : call.Asks system options text) {words : List String}
    (hne : words ≠ []) (arguments : List String) (standardInput other : Bytes)
    (environment : Environment) (settings : Settings)
    (halike : call.RoutesAlike options (String.intercalate " " words) text) :
    runSettings system (call.withQuery arguments standardInput) environment other
        (options.addWords words) settings =
      runSettings system call environment call.standardInput options settings := by
  simp only [runSettings, CommandOptions.scriptFile_addWords, h.script,
    statementOf_addWords h hne, h.statementOf_eq, routeOptionsOf_addWords]
  exact congrArg answerRouted (halike settings _)

theorem runOptions_withQuery (h : call.Asks system options text) {words : List String}
    (hne : words ≠ []) (arguments : List String) (standardInput : Bytes)
    (environment : Environment)
    (halike : call.RoutesAlike options (String.intercalate " " words) text) :
    runOptions system (call.withQuery arguments standardInput) environment
        (options.addWords words) =
      runOptions system call environment options := by
  have hfile : ((call.withQuery arguments standardInput).settingsFile system
      (options.addWords words)).1 = (call.settingsFile system options).1 := by
    rw [CommandCall.settingsFile_addWords, CommandCall.settingsFile_eq h.settings _ call]
  have hrest : (call.settingsFile system options).2 = call.standardInput := by
    rw [CommandCall.settingsFile_eq h.settings call call]
  have hsame : layeredSettings ((call.withQuery arguments standardInput).settingsFile system
        (options.addWords words)).1 environment (options.addWords words).engine
        system.documentFault =
      layeredSettings (call.settingsFile system options).1 environment options.engine
        system.documentFault := by
    rw [hfile, CommandOptions.engine_addWords]
  cases hlayers : layeredSettings (call.settingsFile system options).1 environment options.engine
      system.documentFault with
  | error failure =>
      rw [runOptions_of_error hlayers, runOptions_of_error (hsame.trans hlayers),
        CommandOptions.settingsFile_addWords]
  | ok settings =>
      rw [runOptions_of_ok hlayers, runOptions_of_ok (hsame.trans hlayers), hrest]
      exact runSettings_withQuery h hne arguments standardInput _ environment settings halike

theorem runCommand_withQuery (h : call.Asks system options text) {words : List String}
    (hne : words ≠ []) {arguments : List String}
    (hrequest : commandRequest arguments = .run (options.addWords words))
    (halike : call.RoutesAlike options (String.intercalate " " words) text)
    (standardInput : Bytes) :
    runCommand system (call.withQuery arguments standardInput) = runCommand system call := by
  have hworded : commandRequest (call.withQuery arguments standardInput).arguments =
      .run (options.addWords words) := hrequest
  unfold runCommand
  rw [environmentOf?_withQuery h.environment, hworded, h.request]
  cases environmentOf? system call with
  | none => rfl
  | some environment => exact runOptions_withQuery h hne arguments standardInput environment halike

end KeyJoin
