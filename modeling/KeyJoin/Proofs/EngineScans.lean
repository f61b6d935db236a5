import KeyJoin.EngineInvocation
import KeyJoin.Proofs.CommaJoin
import KeyJoin.Proofs.SimulationRun

/-!
# Scans by the engine

The engine yields a table when it could be started, ended by itself with status
zero and printed a text that is accepted.  Any other answer fails the scan, and
it is a scan failure of that relation whatever the engine did.  What a scan
hands to the engine is a statement of five tokens, too short for a join: no
scan asks the engine for a statement that is simulated.
-/

namespace KeyJoin

variable {markers : LineMarkers} {settings : Settings} {engine : Engine}
  {earlier : List String} {name : String}

/-! ## Answers to a scan -/

/-- The answer of the engine is no table, for the given reason. -/
inductive AnswerFails (markers : LineMarkers) :
    Except SystemFault EngineOutput → ScanFault → Prop
  | notInvoked (fault : SystemFault) : AnswerFails markers (.error fault) (.notInvoked fault)
  | terminated (out err : String) : AnswerFails markers (.ok ⟨out, err, none⟩) .terminatedBySignal
  | exitStatus (out err : String) {status : Nat} (failed : status ≠ 0) :
      AnswerFails markers (.ok ⟨out, err, some status⟩) (.exitStatus status)
  | noTable {out : String} (err : String) {fault : ScanFault}
      (rejected : checkScan markers out = .error fault) :
      AnswerFails markers (.ok ⟨out, err, some 0⟩) fault

/-- The answer of the engine is a table with these rows. -/
inductive AnswerYields (markers : LineMarkers) :
    Except SystemFault EngineOutput → List Row → Prop
  | table {out : String} (err : String) (accepted : checkScan markers out = .ok ()) :
      AnswerYields markers (.ok ⟨out, err, some 0⟩) (parseRows markers.discard out)

/-- What the engine answers to the scan of a relation after the scans of the earlier ones. -/
def Engine.scanAnswer (engine : Engine) (settings : EngineSettings) (earlier : List String)
    (name : String) : Except SystemFault EngineOutput :=
  engine (earlier.map (scanInput settings)) (scanInput settings name)

theorem engineScanner_eq (settings : EngineSettings) (engine : Engine) (earlier : List String)
    (name : String) :
    engineScanner settings engine earlier name =
      (tableOfInvocation (engine.scanAnswer settings earlier name)).mapError (.scan name) := by
  unfold engineScanner Engine.scanAnswer
  cases tableOfInvocation _ <;> rfl

theorem engineScanner_eq_ok_iff {text : String} :
    engineScanner settings.engine engine earlier name = .ok text ↔
      ∃ err, engine.scanAnswer settings.engine earlier name = .ok ⟨text, err, some 0⟩ := by
  rw [engineScanner_eq]
  rcases engine.scanAnswer settings.engine earlier name with fault | ⟨out, err, _ | _ | status⟩
  all_goals simp [tableOfInvocation, Except.mapError]

theorem scanFails_engineScanner_iff {failure : Failure} :
    ScanFails settings (engineScanner settings.engine engine) earlier name failure ↔
      ∃ fault, failure = .scan name fault ∧
        AnswerFails settings.markers (engine.scanAnswer settings.engine earlier name) fault := by
  constructor
  · intro h
    cases h with
    | refused answer =>
        rw [engineScanner_eq] at answer
        rcases hanswer : engine.scanAnswer settings.engine earlier name with
          fault | ⟨out, err, _ | _ | status⟩
        all_goals rw [hanswer] at answer; cases answer
        · exact ⟨_, rfl, .notInvoked fault⟩
        · exact ⟨_, rfl, .terminated out err⟩
        · exact ⟨_, rfl, .exitStatus out err (Nat.succ_ne_zero status)⟩
    | noTable answer rejected =>
        obtain ⟨err, hanswer⟩ := engineScanner_eq_ok_iff.mp answer
        rw [hanswer]
        exact ⟨_, rfl, .noTable err rejected⟩
  · rintro ⟨fault, rfl, h⟩
    have hscanner := engineScanner_eq settings.engine engine earlier name
    generalize hanswer : engine.scanAnswer settings.engine earlier name = answer at h hscanner
    cases h with
    | notInvoked fault => exact .refused hscanner
    | terminated out err => exact .refused hscanner
    | exitStatus out err failed =>
        obtain ⟨status, rfl⟩ := Nat.exists_eq_succ_of_ne_zero failed
        exact .refused hscanner
    | noTable err rejected => exact .noTable (engineScanner_eq_ok_iff.mpr ⟨err, hanswer⟩) rejected

theorem scanYields_engineScanner_iff {rows : List Row} :
    ScanYields settings (engineScanner settings.engine engine) earlier name rows ↔
      AnswerYields settings.markers (engine.scanAnswer settings.engine earlier name) rows := by
  constructor
  · intro h
    cases h with
    | table answer accepted =>
        obtain ⟨err, hanswer⟩ := engineScanner_eq_ok_iff.mp answer
        rw [hanswer]
        exact .table err accepted
  · intro h
    generalize hanswer : engine.scanAnswer settings.engine earlier name = answer at h
    cases h with
    | table err accepted => exact .table (engineScanner_eq_ok_iff.mpr ⟨err, hanswer⟩) accepted

/-! ## Statements of a scan -/

theorem relations_isLexeme_of_recognizeJoin? {columns : ColumnNames} {statement : String}
    {query : JoinQuery} (h : recognizeJoin? columns statement = some query) :
    (TokenKind.word query.leftRelation.toList).IsLexeme ∧
      (TokenKind.word query.rightRelation.toList).IsLexeme := by
  obtain ⟨index, left, right, parts, ending, hread, rfl⟩ := exists_read_of_recognizeJoin? h
  simpa [JoinStatement.toQuery] using And.intro hread.leftLexeme hread.rightLexeme

theorem kindsOf_scanStatement {relation : String}
    (hrelation : (TokenKind.word relation.toList).IsLexeme) :
    kindsOf (scanStatement relation).toList =
      [.word Keyword.select.letters, .star, .word Keyword.fromClause.letters,
        .word relation.toList, .semicolon] := by
  have htext : (scanStatement relation).toList =
      "SELECT * FROM".toList ++ ([' '] ++ (relation.toList ++ [';'])) := by
    simp [scanStatement, String.toList_append]
  have hfront : kindsOf "SELECT * FROM".toList =
      [.word Keyword.select.letters, .star, .word Keyword.fromClause.letters] := by
    decide +kernel
  have hsemicolon : kindsOf (relation.toList ++ [';']) = kindsOf relation.toList ++ [.semicolon] :=
    kindsOf_append_mark_cons relation.toList (by decide) (by decide) []
  rw [htext, kindsOf_append_blank_append _ isBlankText_space (by simp), hfront, hsemicolon,
    kindsOf_word hrelation]
  rfl

/-- `SELECT`, a select list, the six tokens of the clause and a condition take nine tokens. -/
theorem IsJoinStatement.length_le {kinds : List TokenKind} {index : Nat} {left right : List Char}
    (h : IsJoinStatement (bodyKinds kinds) index left right) : 9 ≤ kinds.length := by
  have hlength := (bodyKinds_isPrefix kinds).length_le
  have hcondition := h.joins.condition
  have hlist := h.selectList
  omega

theorem recognizeJoin?_scanStatement {relation : String}
    (hrelation : (TokenKind.word relation.toList).IsLexeme) (columns : ColumnNames) :
    recognizeJoin? columns (scanStatement relation) = none := by
  rw [← Option.not_isSome_iff_eq_none, recognizeJoin?_isSome_iff, kindsOf_scanStatement hrelation]
  rintro ⟨index, left, right, hstatement⟩
  simpa using hstatement.length_le

theorem statementInput_injective (settings : EngineSettings) :
    Function.Injective (statementInput settings) := by
  intro a b h
  simp only [statementInput, String.append_left_inj] at h
  exact h

/-- A statement that is simulated is not what the engine is given for its scans. -/
theorem statementInput_ne_scanInput {columns : ColumnNames} {statement relation : String}
    {query : JoinQuery} (h : recognizeJoin? columns statement = some query)
    (hrelation : (TokenKind.word relation.toList).IsLexeme) (settings : EngineSettings) :
    statementInput settings statement ≠ scanInput settings relation := by
  intro heq
  have hstatement : statement = scanStatement relation := statementInput_injective settings heq
  rw [hstatement, recognizeJoin?_scanStatement hrelation] at h
  cases h

end KeyJoin
