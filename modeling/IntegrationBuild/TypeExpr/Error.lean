/-!
What can be wrong with a field's type expression.
-/

namespace IntegrationBuild

/-- The reason a type expression is refused. -/
inductive TypeFault where
  | trailingPunctuation
  | empty
  | emptyMember
  | unterminatedLiteral (member : String)
  | arrayWithoutItem
  | unknownType (name : String)
  | recordArity
  | arrayArity
  | unsupportedGeneric (name : String)
  | malformed
deriving DecidableEq, Repr

/-- The end of the sentence that reports a fault. -/
def TypeFault.message : TypeFault → String
  | .trailingPunctuation => "ends with a comma or semicolon which is not allowed."
  | .empty => "is empty."
  | .emptyMember => "has an empty union member."
  | .unterminatedLiteral member => "has an unterminated literal " ++ member ++ "."
  | .arrayWithoutItem => "declares an array without an item type."
  | .unknownType name => "references an unknown type \"" ++ name ++ "\"."
  | .recordArity => "must give Record exactly two type arguments."
  | .arrayArity => "must give Array exactly one type argument."
  | .unsupportedGeneric name => "uses an unsupported generic type \"" ++ name ++ "\"."
  | .malformed => "is not a valid type expression."

/-- A field of a model that could not be read.  The message is the whole
sentence shown to the user. -/
structure FieldError where
  message : String
  model : String
  field : String
deriving DecidableEq, Repr

/-- The error for a fault in the expression `raw` of a field. -/
def FieldError.ofFault (raw model field : String) (fault : TypeFault) : FieldError :=
  { message := "Field \"" ++ raw ++ "\" in the model " ++ model ++ " " ++ fault.message
    model := model
    field := field }

end IntegrationBuild
