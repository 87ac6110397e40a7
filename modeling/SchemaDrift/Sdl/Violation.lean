import SchemaDrift.Sdl.Document

/-!
# Violations

What may be wrong with a document whose grammar is right.

* `Violation` — what may be wrong, with its message.
* `Violation.summary` — the message for several violations.
-/

namespace SchemaDrift.Sdl

/-- What may be wrong with a document. -/
inductive Violation where
  | secondSchema
  | secondOperation (operation : String)
  | secondType (name : String)
  | secondEnumValue (type value : String)
  | secondField (type field : String)
  /-- The owner is a directive with its at sign, or a type and a field. -/
  | secondArgument (owner arg : String)
  | secondDirective (name : String)
  | unknownType (name : String)
  | unknownDirective (name : String)
  | misplacedDirective (name : String) (place : Place)
  | repeatedDirective (name : String)
  | extendedNothing (name : String)
  /-- The words are those for the class of the extension. -/
  | extendedOther (words name : String)
  | unknownArgument (directive arg : String)
  | repeatedArgument (arg : String)
  | repeatedInputField (name : String)
  | missingArgument (directive arg : String) (type : TypeRef)
  deriving DecidableEq, Repr, Inhabited

/-- The message for a violation. -/
def Violation.message : Violation → String
  | .secondSchema => "Must provide only one schema definition."
  | .secondOperation operation => "There can be only one " ++ operation ++ " type in schema."
  | .secondType name => "There can be only one type named '" ++ name ++ "'."
  | .secondEnumValue type value =>
      "Enum value '" ++ type ++ "." ++ value ++ "' can only be defined once."
  | .secondField type field =>
      "Field '" ++ type ++ "." ++ field ++ "' can only be defined once."
  | .secondArgument owner arg =>
      "Argument '" ++ owner ++ "(" ++ arg ++ ":)' can only be defined once."
  | .secondDirective name => "There can be only one directive named '@" ++ name ++ "'."
  | .unknownType name => "Unknown type '" ++ name ++ "'."
  | .unknownDirective name => "Unknown directive '@" ++ name ++ "'."
  | .misplacedDirective name place =>
      "Directive '@" ++ name ++ "' may not be used on " ++ place.words ++ "."
  | .repeatedDirective name =>
      "The directive '@" ++ name ++ "' can only be used once at this location."
  | .extendedNothing name =>
      "Cannot extend type '" ++ name ++ "' because it is not defined."
  | .extendedOther words name =>
      "Cannot extend non-" ++ words ++ " type '" ++ name ++ "'."
  | .unknownArgument directive arg =>
      "Unknown argument '" ++ arg ++ "' on directive '@" ++ directive ++ "'."
  | .repeatedArgument arg => "There can be only one argument named '" ++ arg ++ "'."
  | .repeatedInputField name => "There can be only one input field named '" ++ name ++ "'."
  | .missingArgument directive arg type =>
      "Argument '@" ++ directive ++ "(" ++ arg ++ ":)' of type '" ++ type.text
        ++ "' is required, but it was not provided."

/-- The message for several violations. -/
def Violation.summary (violations : List Violation) : String :=
  String.intercalate "\n\n" (violations.map Violation.message)

end SchemaDrift.Sdl
