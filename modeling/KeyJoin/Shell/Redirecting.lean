import KeyJoin.Shell.Expansion

/-!
# Redirections

Redirections open files for the descriptors of a command.  What a descriptor
stood for is kept on a descriptor of the shell's own, and put back when the
command has run.
-/

namespace KeyJoin.Shell

inductive ReadyTarget
  | path (path : RawText)
  | descriptor (number : Nat)
  | closing
  | document (word : ShellWord)

/-- A redirection whose target has been expanded. -/
structure ReadyRedirection where
  number : Nat
  kind : RedirectionKind
  target : ReadyTarget

/-- What the shell says of a file that it cannot open. -/
def openFaultText (creates : Bool) (fault : SystemFault) : RawText :=
  match fault with
  | .notFound | .notADirectory => raw (if creates then "Directory nonexistent" else "No such file")
  | fault => raw fault.description

/-- What the shell says of a program that it cannot run. -/
def runFaultText (fault : SystemFault) : RawText :=
  match fault with
  | .notFound | .notADirectory => raw "not found"
  | fault => raw fault.description

def openOrFail (path : RawText) (mode : OpenMode) : Sh Nat := do
  match ← ask (.openFile path mode) with
  | .ok number => return number
  | .error fault =>
    Sh.fail (raw (if mode.creates then "cannot create " else "cannot open ") ++ path ++ raw ": " ++
      openFaultText mode.creates fault)

def readyTarget (capture : Command → Sh RawText) (redirection : Redirection) : Sh ReadyTarget := do
  match redirection.kind with
  | .document id =>
    match (← get).documents.lookup id with
    | some word => return .document word
    | none => return .document []
  | .copiedInput | .copiedOutput =>
    let texts ← expandFields capture redirection.target
    match texts.head? with
    | some ['-'] => return .closing
    | some [c] =>
      if c.isDigit then return .descriptor (digitValue c)
      Sh.fail (raw "Syntax error: Bad fd number")
    | _ => Sh.fail (raw "Syntax error: Bad fd number")
  | _ => return .path (← expandText capture { tilde := true } redirection.target)

def readyRedirections (capture : Command → Sh RawText) (redirections : List Redirection) :
    Sh (List ReadyRedirection) :=
  redirections.mapM fun redirection => do
    return ⟨redirection.number, redirection.kind, ← readyTarget capture redirection⟩

/-- Opens a file for output that may not replace a file. -/
def openUnused (path : RawText) : Sh Nat := do
  let refuse : Sh Nat :=
    Sh.fail (raw "cannot create " ++ path ++ raw ": " ++ raw SystemFault.alreadyExists.description)
  match ← ask (.statusOf path true) with
  | .error _ => openOrFail path { writes := true, creates := true, exclusive := true }
  | .ok status =>
    if status.kind == .regular then refuse else openOrFail path { writes := true }

/-- The descriptor that a redirection opens, if it opens one. -/
def openTarget (capture : Command → Sh RawText) (redirection : ReadyRedirection) :
    Sh (Option Nat) := do
  match redirection.target with
  | .descriptor number => return some number
  | .closing => return none
  | .document word =>
    let text ← expandText capture { isQuoted := true } word
    let (reader, writer) ← ask .openPipe
    let _ ← ask (.write writer text)
    let _ ← ask (.close writer)
    return some reader
  | .path path =>
    match redirection.kind with
    | .input => some <$> openOrFail path { reads := true }
    | .inputOutput => some <$> openOrFail path { reads := true, writes := true, creates := true }
    | .appended => some <$> openOrFail path { writes := true, creates := true, appends := true }
    | .output =>
      if ← Sh.hasOption 'C' then some <$> openUnused path
      else some <$> openOrFail path { writes := true, creates := true, truncates := true }
    | _ => some <$> openOrFail path { writes := true, creates := true, truncates := true }

/-- Keeps what a descriptor stands for in the innermost frame, unless that has been done. -/
def keepDescriptor (number : Nat) (opened : Option Nat) : Sh Unit := do
  match (← get).savedDescriptors with
  | [] => return
  | frame :: frames =>
    if (frame.lookup number).isSome then return
    let kept ←
      if opened == some number then pure none
      else
        match ← ask (.copyAbove number 10) with
        | .ok copy =>
          let _ ← ask (.close number)
          pure (some copy)
        | .error _ => pure none
    modify fun state => { state with savedDescriptors := ((number, kept) :: frame) :: frames }

/-- Carries out one redirection. -/
def redirect (capture : Command → Sh RawText) (keeps : Bool) (redirection : ReadyRedirection) :
    Sh Unit := do
  let number := redirection.number
  let opened ← openTarget capture redirection
  let copies :=
    match redirection.target with
    | .descriptor _ => true
    | _ => false
  if copies && opened == some number then return
  if keeps then keepDescriptor number opened
  match opened with
  | none =>
    let _ ← ask (.close number)
  | some source =>
    if source == number then return
    match ← ask (.copyTo source number) with
    | .ok () => if !copies then let _ ← ask (.close source)
    | .error fault => Sh.fail (naturalText source ++ raw ": " ++ raw fault.description)

def redirectAll (capture : Command → Sh RawText) (keeps : Bool)
    (redirections : List ReadyRedirection) : Sh Unit := do
  for redirection in redirections do
    redirect capture keeps redirection

/-- Carries out redirections, and tells whether that went well. -/
def redirectSafely (capture : Command → Sh RawText) (redirections : List ReadyRedirection) :
    Sh Bool :=
  tryCatch (do
      redirectAll capture true redirections
      return true)
    fun
      | .failure => return false
      | other => throw other

def pushSaved : Sh Unit :=
  modify fun state => { state with savedDescriptors := [] :: state.savedDescriptors }

/-- Leaves the innermost frame: puts back what it keeps, or drops it for good. -/
def popSaved (drops : Bool) : Sh Unit := do
  match (← get).savedDescriptors with
  | [] => return
  | frame :: frames =>
    modify fun state => { state with savedDescriptors := frames }
    for (number, kept) in frame do
      match kept with
      | none => if !drops then let _ ← ask (.close number)
      | some copy =>
        if !drops then let _ ← ask (.copyTo copy number)
        let _ ← ask (.close copy)

/-- Leaves all frames but the outermost `depth`. -/
def unwindSaved : Nat → Nat → Sh Unit
  | 0, _ => return
  | fuel + 1, depth => do
    if depth < (← get).savedDescriptors.length then
      popSaved false
      unwindSaved fuel depth

end KeyJoin.Shell
