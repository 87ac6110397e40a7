import SchemaDrift.Sdl.Knowledge
import SchemaDrift.Sdl.Literal

/-!
# The meaning of standard directives

`@deprecated` and `@specifiedBy` say something of what they are applied to: the text
of their one argument.  Of several applications the first counts.

* `deprecationOf`, `specifiedByOf` — the texts that directives give.
* `Unfit` — an argument that is no text.
* `Document.unfitAddress?`, `Document.unfitReason?`, `Document.unfitField?`,
  `Content.unfitValue?` — the first such argument in each part of a document.
-/

namespace SchemaDrift.Sdl

/-! ## Directives that give a text -/

/-- A standard directive that gives a text. -/
structure Remark where
  directive : String
  arg : String
  /-- The text that is meant when none is given. -/
  standard : Option String := none
  deriving DecidableEq, Repr

/-- A part of a schema should not be used any more. -/
def Remark.deprecated : Remark :=
  { directive := "deprecated", arg := "reason", standard := some "No longer supported" }

/-- The values of a scalar are specified at an address. -/
def Remark.specifiedBy : Remark := { directive := "specifiedBy", arg := "url" }

namespace Remark

/-- The application that counts. -/
def application? (remark : Remark) (directives : List Applied) : Option Applied :=
  directives.find? fun applied => applied.name == remark.directive

/-- The argument that an application gives. -/
def argument? (remark : Remark) (applied : Applied) : Option Argument :=
  applied.args.find? fun arg => arg.name == remark.arg

end Remark

/-- The text of a string literal. -/
def Literal.stringValue? : Literal → Option String
  | .string value => some value
  | .block value => some value
  | _ => none

/-- The text that directives give for a remark, if it is among them. -/
def Remark.text? (remark : Remark) (directives : List Applied) : Option String :=
  (remark.application? directives).bind fun applied =>
    match remark.argument? applied with
    | none => remark.standard
    | some arg => arg.value.stringValue?

/-- The reason of a deprecation among applied directives. -/
def deprecationOf (directives : List Applied) : Option String :=
  Remark.deprecated.text? directives

/-- The address of a specification among applied directives. -/
def specifiedByOf (directives : List Applied) : Option String :=
  Remark.specifiedBy.text? directives

/-! ## Arguments that are no text -/

/-- Why an argument gives no text. -/
inductive UnfitCause where
  /-- It is not given, and nothing stands in for it. -/
  | missing
  | null
  /-- It is something else, written so. -/
  | notText (written : String)
  deriving DecidableEq, Repr, Inhabited

/-- An argument of a standard directive that gives no text, and where it is: at the
directive if it is missing.  Lists and objects have no place. -/
structure Unfit where
  arg : String
  cause : UnfitCause
  spot : Option Spot
  deriving DecidableEq, Repr, Inhabited

/-- The message about an argument that gives no text. -/
def Unfit.message (unfit : Unfit) : String :=
  let quoted := "Argument '" ++ unfit.arg ++ "' "
  match unfit.cause with
  | .missing => quoted ++ "of required type 'String!' was not provided."
  | .null => quoted
      ++ "has invalid value: Expected value of non-null type 'String!' not to be None."
  | .notText written => quoted
      ++ "has invalid value: String cannot represent a non string value: " ++ written

/-- Does a literal consist of others? -/
def Literal.isCompound : Literal → Bool
  | .list _ => true
  | .object _ => true
  | _ => false

/-- What is wrong with an argument as a text. -/
def Argument.unfit? (arg : Argument) : Option Unfit :=
  let fault (cause : UnfitCause) : Option Unfit := some ⟨arg.name, cause, some arg.spot⟩
  match arg.value with
  | .string _ => none
  | .block _ => none
  | .word "null" => fault .null
  | value =>
      if value.isCompound then some ⟨arg.name, .notText value.text, none⟩
      else fault (.notText value.text)

/-- What is wrong with the application of a remark that counts. -/
def Remark.unfit? (remark : Remark) (directives : List Applied) : Option Unfit :=
  (remark.application? directives).bind fun applied =>
    match remark.argument? applied with
    | some arg => arg.unfit?
    | none =>
        if remark.standard.isSome then none
        else some ⟨remark.arg, .missing, some applied.spot⟩

/-- What is wrong with a deprecation among applied directives. -/
def unfitReason? (directives : List Applied) : Option Unfit :=
  Remark.deprecated.unfit? directives

/-! ### Members -/

/-- What is wrong with the deprecations of arguments or input fields. -/
def InputNode.unfit? (nodes : List InputNode) : Option Unfit :=
  nodes.findSome? fun node => unfitReason? node.directives

/-- What is wrong with the deprecations in a field: those of its arguments first. -/
def FieldNode.unfit? (node : FieldNode) : Option Unfit :=
  (InputNode.unfit? node.args).or (unfitReason? node.directives)

/-- What is wrong with the deprecations of fields. -/
def Content.unfitField? : Content → Option Unfit
  | .object _ fields => fields.findSome? FieldNode.unfit?
  | .interface _ fields => fields.findSome? FieldNode.unfit?
  | .input fields => InputNode.unfit? fields
  | _ => none

/-- What is wrong with the deprecations of enum values. -/
def Content.unfitValue? : Content → Option Unfit
  | .enum values => values.findSome? fun node => unfitReason? node.directives
  | _ => none

/-! ### Documents -/

namespace Document

/-- The extensions of a type in order. -/
def extensionsOf (document : Document) (name : String) : List TypeNode :=
  (document.filterMap Statement.typeNode?).filter fun other =>
    other.extending && other.name == name

/-- The definitions of types in order, without those that every schema has, each with
its extensions behind it. -/
def typeGroups (document : Document) : List (TypeNode × List TypeNode) :=
  ((document.filterMap Statement.typeDefinition?).filter fun node =>
    !standardTypes.contains node.name).map fun node => (node, document.extensionsOf node.name)

/-- What is wrong first with the address of a scalar's specification. -/
def unfitAddress? (document : Document) : Option Unfit :=
  document.typeGroups.findSome? fun (node, extensions) =>
    match node.content with
    | .scalar => (node :: extensions).findSome? fun part =>
        Remark.specifiedBy.unfit? part.directives
    | _ => none

/-- What is wrong first with a deprecation in or of a directive. -/
def unfitReason? (document : Document) : Option Unfit :=
  (document.filterMap Statement.directiveNode?).findSome? fun node =>
    let extensions := (document.filterMap Statement.directiveExtension?).filter fun other =>
      other.name == node.name
    (InputNode.unfit? node.args).or <|
      (node.directives :: extensions.map DirectiveExtension.directives).findSome?
        Sdl.unfitReason?

/-- What is wrong first with a deprecation in a type, with the name of the type. -/
def unfitField? (document : Document) : Option (String × Unfit) :=
  document.typeGroups.findSome? fun (node, extensions) =>
    ((node :: extensions).findSome? fun part => part.content.unfitField?).map (node.name, ·)

end Document

end SchemaDrift.Sdl
