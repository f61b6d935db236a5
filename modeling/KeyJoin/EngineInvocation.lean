import KeyJoin.JoinSimulation

/-!
# Invocation of the engine

The engine is a program that reads statements and prints tables.  It is started
anew for every invocation and is given one text; what it answers may depend on
what it was given before.  A statement is followed by the statement that ends
the session, and a relation is scanned by selecting everything from it.
-/

namespace KeyJoin

/-- What a finished engine printed, and its exit status unless a signal ended it. -/
structure EngineOutput where
  out : String
  err : String
  status? : Option Nat
  deriving DecidableEq, Repr

def EngineOutput.succeeded (output : EngineOutput) : Bool :=
  output.status? == some 0

/-- Answers an input, given the earlier inputs. -/
abbrev Engine := List String → String → Except SystemFault EngineOutput

def statementInput (settings : EngineSettings) (statement : String) : String :=
  statement ++ "\n" ++ settings.exitCommand ++ "\n"

def scanStatement (relation : String) : String :=
  "SELECT * FROM " ++ relation ++ ";"

def scanInput (settings : EngineSettings) (relation : String) : String :=
  statementInput settings (scanStatement relation)

/-- The table an invocation gives, which it does only if it succeeded. -/
def tableOfInvocation : Except SystemFault EngineOutput → Except ScanFault String
  | .error fault => .error (.notInvoked fault)
  | .ok output =>
    match output.status? with
    | none => .error .terminatedBySignal
    | some 0 => .ok output.out
    | some status => .error (.exitStatus status)

def engineScanner (settings : EngineSettings) (engine : Engine) : Scanner :=
  fun earlier relation =>
    match tableOfInvocation
        (engine (earlier.map (scanInput settings)) (scanInput settings relation)) with
    | .ok text => .ok text
    | .error fault => .error (.scan relation fault)

end KeyJoin
