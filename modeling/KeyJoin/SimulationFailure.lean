import KeyJoin.Host.SystemFault
import KeyJoin.SimulatorSettings

/-!
# Failures of a simulation

A failure is recorded by its cause.  From the cause follow the indicator, a
fixed token that a caller can branch on, and the message for a reader.
-/

namespace KeyJoin

/-- Why an item of a select list names no column of the join. -/
inductive FieldFault
  | unsupportedExpression
  | foreignRelation (qualifier : String)
  | missingColumn (relation column : String)
  | ambiguousColumn (column left right : String)
  | unknownColumn (column : String)
  | described (reason : String)
  deriving DecidableEq, Repr

def FieldFault.message : FieldFault → String
  | unsupportedExpression => "unsupported select expression"
  | foreignRelation qualifier => s!"relation '{qualifier}' is not part of this join"
  | missingColumn relation column => s!"relation '{relation}' has no column '{column}'"
  | ambiguousColumn column left right =>
    s!"column '{column}' is ambiguous between '{left}' and '{right}'"
  | unknownColumn column => s!"no relation in this join has column '{column}'"
  | described reason => reason

/-- Why the scan of a relation gave no table. -/
inductive ScanFault
  | unknownRelation
  | notInvoked (fault : SystemFault)
  | exitStatus (status : Nat)
  | terminatedBySignal
  | noOutput
  | failureMarker (marker : String)
  | described (reason : String)
  deriving DecidableEq, Repr

def ScanFault.message : ScanFault → String
  | unknownRelation => "relation not found"
  | notInvoked fault => s!"engine invocation failed: IO error: {fault.message}"
  | exitStatus status => s!"engine exited with status {status}"
  | terminatedBySignal => "engine terminated by signal"
  | noOutput => "engine returned no output"
  | failureMarker marker => s!"engine output contains failure marker '{marker}'"
  | described reason => reason

inductive Failure
  | notAJoin (query : String)
  | fieldReference (field : String) (fault : FieldFault) (suggestion : Option String)
  | scan (relation : String) (fault : ScanFault)
  | settings (fault : SettingsFault)
  | system (fault : SystemFault)
  /-- The reason is in the words of whoever read the document, and only the message shows it. -/
  | malformedDocument {reason : String}
  deriving DecidableEq, Repr

def Failure.indicator : Failure → String
  | notAJoin _ => "NOT_A_JOIN_QUERY"
  | fieldReference .. => "FAILURE"
  | scan .. => "SCAN_FAILURE"
  | settings _ | system _ | malformedDocument => "INTERNAL_ERROR"

def suggestionText : Option String → String
  | none => ""
  | some suggestion => s!" (did you mean {suggestion}?)"

def Failure.message : Failure → String
  | notAJoin query => s!"Not a join query: {query}"
  | fieldReference field fault suggestion =>
    s!"Field reference error: {field}: {fault.message}{suggestionText suggestion}"
  | scan relation fault => s!"Scan of '{relation}' failed: {fault.message}"
  | settings fault => s!"Configuration error: {fault.message}"
  | system fault => s!"IO error: {fault.message}"
  | @malformedDocument reason => s!"JSON error: {reason}"

/-- What the system or the reader of a document says, where that is behind a failure. -/
def Failure.cause? : Failure → Option String
  | system fault => some fault.message
  | @malformedDocument reason => some reason
  | _ => none

end KeyJoin
