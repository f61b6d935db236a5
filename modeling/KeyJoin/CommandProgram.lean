import KeyJoin.CommandRun
import KeyJoin.EngineHost

/-!
# The command

The command as a program of its own: it runs on the host of engines, in the
directory that holds the files it is given.
-/

namespace KeyJoin

/-- The host with these files. -/
def hostSystem (files : List (String × Bytes)) : CommandSystem where
  readFile := (hostOf files []).readFile
  engine environment := hostEngine (hostOf files environment)
  documentFault := plainDocumentFault

/-- The path names the standard input. -/
def Host.NamesInput (host : Host) (path : String) : Prop :=
  ∃ file place, host.tree.locate host.directory true (rawOfText path) = .ok (file, place) ∧
    (host.tree.node file).content = .device (.ownDescriptor 0)

/-- Nothing but the names of the standard input takes anything from it. -/
theorem hostSystem_leavesInput {files : List (String × Bytes)} {path : String}
    (h : ¬ (hostOf files []).NamesInput path) : (hostSystem files).LeavesInput path := by
  intro input other
  simp only [hostSystem, Host.readFile]
  cases hlocate : (hostOf files []).tree.locate (hostOf files []).directory true
      (rawOfText path) with
  | error fault => rfl
  | ok found =>
      obtain ⟨file, place⟩ := found
      have hcontent : ((hostOf files []).tree.node file).content ≠ .device (.ownDescriptor 0) :=
        fun hcontent => h ⟨file, place, hlocate, hcontent⟩
      dsimp only
      split <;> first | rfl | contradiction

/-- All that a run of the command can see. -/
structure CommandInput extends CommandCall where
  files : List (String × Bytes)

def runCommandLine (input : CommandInput) : CommandAnswer :=
  runCommand (hostSystem input.files) input.toCommandCall

end KeyJoin
