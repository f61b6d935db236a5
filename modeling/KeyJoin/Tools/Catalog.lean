import KeyJoin.Tools.Blocks
import KeyJoin.Tools.Calculation
import KeyJoin.Tools.Characters
import KeyJoin.Tools.Comparing
import KeyJoin.Tools.Counts
import KeyJoin.Tools.Dates.Telling
import KeyJoin.Tools.Differences.Telling
import KeyJoin.Tools.Digests
import KeyJoin.Tools.Dump
import KeyJoin.Tools.Editing.Running
import KeyJoin.Tools.Factors
import KeyJoin.Tools.Fields
import KeyJoin.Tools.Files
import KeyJoin.Tools.Finding.Visiting
import KeyJoin.Tools.Lines
import KeyJoin.Tools.Numbering
import KeyJoin.Tools.Ordering
import KeyJoin.Tools.Output
import KeyJoin.Tools.Portions
import KeyJoin.Tools.Processes
import KeyJoin.Tools.Records.Running
import KeyJoin.Tools.Search
import KeyJoin.Tools.Sorting
import KeyJoin.Tools.Widths

/-!
# The catalog of tools

The tools of the host by their names.
-/

namespace KeyJoin.Tools

def catalog : List (String × (List RawText → Tool Unit)) :=
  [("base64", runSixtyFour), ("basename", runLastPart), ("cat", runCat),
    ("chmod", runChangePermissions), ("cksum", runChecksum), ("cmp", runCompareBytes),
    ("comm", runCompareLines), ("cp", runCopy), ("cut", runCut), ("date", Dates.runDate),
    ("dd", runBlockCopy), ("diff", Differences.runDifferences), ("dirname", runFolderPart),
    ("echo", runEcho), ("egrep", runExtendedSearch), ("env", runEnvironment),
    ("expand", runExpand), ("expr", runCalculation), ("factor", runFactor), ("false", runFalse),
    ("fgrep", runFixedSearch), ("find", Finding.runFind), ("fold", runFold), ("grep", runSearch),
    ("head", runHead), ("id", runIdentity), ("join", runJoin), ("ln", runLink), ("ls", runList),
    ("mawk", Records.runRecords), ("md5sum", runDigest .md5), ("mkdir", runMakeDirectory),
    ("mktemp", runMakeTemporary), ("mv", runMove), ("nice", runNice), ("nl", runNumber),
    ("nohup", runDetached), ("od", runDump), ("paste", runPaste),
    ("printenv", runPrintEnvironment), ("printf", runFormat), ("pwd", runDirectory),
    ("readlink", runReadLink), ("realpath", runRealPath), ("rev", runReverseCharacters),
    ("rm", runRemove), ("rmdir", runRemoveDirectory), ("sed", Editing.runEdit),
    ("seq", runSequence), ("setsid", runInSession), ("sha1sum", runDigest .sha1),
    ("sha224sum", runDigest .sha224), ("sha256sum", runDigest .sha256),
    ("sha384sum", runDigest .sha384), ("sha512sum", runDigest .sha512), ("sleep", runSleep),
    ("sort", runSort), ("stat", runStatus), ("sum", runSum), ("tac", runReverseLines),
    ("tail", runTail), ("tee", runTee), ("timeout", runTimeout), ("touch", runTouch),
    ("tr", runTranslate), ("true", runTrue), ("truncate", runSetSize), ("tsort", runOrder),
    ("tty", runTerminalName), ("uname", runSystem), ("unexpand", runUnexpand), ("uniq", runUnique),
    ("unlink", runUnlink), ("wc", runCount), ("which.debianutils", runWhich), ("whoami", runUser),
    ("xargs", runArguments), ("yes", runYes)]

end KeyJoin.Tools
