/-! # Completion candidates

What an engine proposes at the cursor, before it is put into the words of a completion list.
-/

namespace CodeBridge

/-- A parameter of a method. -/
structure Parameter where
  typeName : String
  name : String
  deriving DecidableEq, Repr, Inhabited

/-- The declaration behind a candidate. -/
inductive Declaration where
  | method (name : String) (parameters : List Parameter) (returnType doc : Option String)
  /-- `presentation` describes a class that has no qualified name. -/
  | classType (name : String) (qualifiedName : Option String) (presentation : String)
    (doc : Option String)
  | field (name typeName : String) (doc : Option String)
  | localVar (name typeName : String)
  | package (qualifiedName : String)
  /-- Anything else; it is never shown. -/
  | other
  deriving DecidableEq, Repr, Inhabited

/-- A proposal: the text that the engine looks it up by, and its declaration. -/
structure Candidate where
  rawLabel : String
  declaration : Declaration
  deriving DecidableEq, Repr, Inhabited

end CodeBridge
