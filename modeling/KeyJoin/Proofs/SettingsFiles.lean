import KeyJoin.Proofs.RecordFields

/-!
# Settings files

A settings file loads or it fails, for the first of four reasons: it cannot be
read, its bytes are no text, its text is no document of settings, or the
settings are refused.  The reasons are said of the file and of what stands in
it, and the program reports each of them exactly where it holds.
-/

namespace KeyJoin

/-! ## Bytes of a text -/

variable {documentFault : String → String}

end KeyJoin
