/-! # Document identifiers

A document is identified by a URI in normal form; two URIs name the same document when their texts
are equal. `Uri.parse` is the only way in from outside text.
-/

namespace CodeBridge

/-- A URI in normal form. -/
structure Uri where
  text : String
  deriving DecidableEq, Repr, Inhabited

end CodeBridge
