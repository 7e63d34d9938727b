/-!
Tokens of YAML text.
-/

namespace IntegrationBuild.Yaml

/-- A directive before a document. -/
inductive Directive where
  | version (major minor : Nat)
  | tag (handle expansion : String)
  | other (name : String)
deriving DecidableEq, Repr, Inhabited

/-- A token.  A scalar is `plain` when it is written without quotes. -/
inductive Token where
  | directive (directive : Directive)
  | documentStart
  | documentEnd
  | streamEnd
  | blockSequenceStart
  | blockMappingStart
  | blockEnd
  | flowSequenceStart
  | flowSequenceEnd
  | flowMappingStart
  | flowMappingEnd
  | blockEntry
  | flowEntry
  | key
  | value
  | alias (name : String)
  | anchor (name : String)
  | tag (handle : Option String) (suffix : String)
  | scalar (text : String) (plain : Bool)
deriving DecidableEq, Repr, Inhabited

end IntegrationBuild.Yaml
