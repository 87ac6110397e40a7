import SchemaDrift.Change.Basic
import SchemaDrift.Compare.Members
import SchemaDrift.Compare.TypeChange
import SchemaDrift.Schema.Definition

/-!
# Rules on definitions

What is reported about a definition that both versions have.  Members come
first, the removed ones before the added ones before the shared ones; the
differences of a member come before those of its arguments.

* `quoted` — an optional text in messages.
* `textChange` — the three ways in which an optional text may change.
* `compareArguments`, `compareFields`, `compareEnumValues`,
  `compareInputFields` — the rules on members.
* `Definition.compare` — all rules on a pair of definitions.
-/

namespace SchemaDrift

/-! ## Words in messages -/

/-- An optional text in a message: in quotes, or the word for its absence. -/
def quoted : Option String → String
  | none => "none"
  | some text => "'" ++ text ++ "'"

/-- How an optional text changes. -/
inductive TextChange where
  | added (text : String)
  | removed (text : String)
  | changed (old new : String)
  deriving DecidableEq, Repr

/-- The change from one optional text to another; `none` if they are equal. -/
def textChange (old new : Option String) : Option TextChange :=
  match old, new with
  | none, none => none
  | none, some text => some (.added text)
  | some text, none => some (.removed text)
  | some before, some after => if before = after then none else some (.changed before after)

/-- The change between two texts in a message. -/
def fromTo (old new : Option String) : String :=
  "from " ++ quoted old ++ " to " ++ quoted new

/-- The change between two type references in a message. -/
def fromToType (old new : TypeRef) : String :=
  "from '" ++ old.text ++ "' to '" ++ new.text ++ "'"

/-! ## Values that become required -/

/-- Does a value turn required although no breaking change of its type reports
it?  Dropping the default of a value that may not be null does this. -/
def becomesRequired (old new : InputValue) (change : Option TypeChange) : Bool :=
  !old.isRequired && new.isRequired && (change == none || change == some .loosened)

/-! ## Arguments -/

/-- The rule under which a change of an argument's type is reported. -/
def TypeChange.argumentRule : TypeChange → Rule
  | tightened => .argumentNullabilityTightened
  | loosened => .argumentNullabilityLoosened
  | listWrapping => .argumentListWrappingChanged
  | retyped => .argumentTypeChanged

/-- The owner of arguments: the words for it in messages, and its path. -/
structure Owner where
  label : String
  path : String
  deriving DecidableEq, Repr

namespace Owner

/-- The path of a member of the owner. -/
def member (owner : Owner) (name : Name) : String := name.within owner.path

/-- An argument that is gone. -/
def argumentRemoved (owner : Owner) (arg : InputValue) : Detection where
  rule := .argumentRemoved
  path := owner.member arg.name
  message := "Argument '" ++ arg.name.text ++ "' was removed from " ++ owner.label

/-- An argument that is new. -/
def argumentAdded (owner : Owner) (arg : InputValue) : Detection :=
  let heading := arg.name.text ++ ": " ++ arg.type.text
  if arg.isRequired then
    { rule := .requiredArgumentAdded
      path := owner.member arg.name
      message := "Required argument '" ++ heading ++ "' was added to " ++ owner.label }
  else
    { rule := .optionalArgumentAdded
      path := owner.member arg.name
      message := "Argument '" ++ heading ++ "' was added to " ++ owner.label }

/-- The words for an argument of the owner. -/
def argumentLabel (owner : Owner) (name : Name) : String :=
  "argument '" ++ name.text ++ "' on " ++ owner.label

/-- What changed about the default of an argument. -/
def defaultMessage (owner : Owner) (name : Name) : TextChange → String
  | .added text =>
      "Default value '" ++ text ++ "' was added to " ++ owner.argumentLabel name
  | .removed _ => "Default value was removed from " ++ owner.argumentLabel name
  | .changed before after =>
      "Default value for " ++ owner.argumentLabel name ++ " changed from '" ++ before
        ++ "' to '" ++ after ++ "'"

/-- What changed about an argument that both versions have. -/
def compareArgument (owner : Owner) (old new : InputValue) : List Detection :=
  let path := owner.member new.name
  let change := TypeChange.between old.type new.type
  (change.toList.map fun c =>
    { rule := c.argumentRule
      path
      message := "Type for " ++ owner.argumentLabel new.name ++ " changed "
        ++ fromToType old.type new.type })
  ++ (if becomesRequired old new change then
      [{ rule := .argumentRequiredAdded
         path
         message := "Argument '" ++ new.name.text ++ ": " ++ new.type.text ++ "' on "
           ++ owner.label ++ " is now required" }]
    else [])
  ++ ((textChange old.defaultValue new.defaultValue).toList.map fun c =>
    { rule := .argumentDefaultChanged
      path
      message := owner.defaultMessage new.name c })
  ++ ((textChange old.description new.description).toList.map fun _ =>
    { rule := .argumentDescriptionChanged
      path
      message := "Description for " ++ owner.argumentLabel new.name ++ " changed "
        ++ fromTo old.description new.description })

/-- What changed about the arguments of the owner. -/
def compareArguments (owner : Owner) (old new : List InputValue) : List Detection :=
  let pairing := pairByName InputValue.name old new
  pairing.removed.map owner.argumentRemoved
    ++ pairing.added.map owner.argumentAdded
    ++ pairing.shared.flatMap fun pair => owner.compareArgument pair.1 pair.2

end Owner

/-! ## Fields of objects and interfaces -/

/-- The rule under which a change of a field's type is reported. -/
def TypeChange.fieldRule : TypeChange → Rule
  | tightened => .fieldNullabilityTightened
  | loosened => .fieldNullabilityLoosened
  | listWrapping => .fieldListWrappingChanged
  | retyped => .fieldTypeChanged

/-- What changed about the description of a field. -/
def fieldDescription (path : String) : TextChange → Detection
  | .added text =>
      { rule := .fieldDescriptionAdded
        path
        message := "Field '" ++ path ++ "' has description '" ++ text ++ "'" }
  | .removed _ =>
      { rule := .fieldDescriptionRemoved
        path
        message := "Description was removed from field '" ++ path ++ "'" }
  | .changed before after =>
      { rule := .fieldDescriptionChanged
        path
        message := "Field '" ++ path ++ "' description changed "
          ++ fromTo (some before) (some after) }

/-- The rules on deprecation, which fields and enum values have in common. -/
structure DeprecationRules where
  /-- The words for the member in messages. -/
  subject : String
  /-- The same words at the start of a message. -/
  title : String
  flagAdded : Rule
  flagRemoved : Rule
  reasonAdded : Rule
  reasonRemoved : Rule
  reasonChanged : Rule

/-- The deprecation rules of fields. -/
def DeprecationRules.field : DeprecationRules where
  subject := "field"
  title := "Field"
  flagAdded := .fieldDeprecationAdded
  flagRemoved := .fieldDeprecationRemoved
  reasonAdded := .fieldDeprecationReasonAdded
  reasonRemoved := .fieldDeprecationReasonRemoved
  reasonChanged := .fieldDeprecationReasonChanged

/-- The deprecation rules of enum values. -/
def DeprecationRules.enumValue : DeprecationRules where
  subject := "enum value"
  title := "Enum value"
  flagAdded := .enumValueDeprecationAdded
  flagRemoved := .enumValueDeprecationRemoved
  reasonAdded := .enumValueDeprecationReasonAdded
  reasonRemoved := .enumValueDeprecationReasonRemoved
  reasonChanged := .enumValueDeprecationReasonChanged

/-- What changed about a deprecation, which is there exactly if its reason is. -/
def DeprecationRules.compare (rules : DeprecationRules) (path : String)
    (old new : Option String) : List Detection :=
  let titled := rules.title ++ " '" ++ path ++ "'"
  let named := rules.subject ++ " '" ++ path ++ "'"
  match textChange old new with
  | none => []
  | some (.added reason) =>
      [{ rule := rules.flagAdded, path, message := titled ++ " is deprecated" },
       { rule := rules.reasonAdded, path,
         message := titled ++ " has deprecation reason '" ++ reason ++ "'" }]
  | some (.removed _) =>
      [{ rule := rules.flagRemoved, path, message := titled ++ " is no longer deprecated" },
       { rule := rules.reasonRemoved, path,
         message := "Deprecation reason was removed from " ++ named }]
  | some (.changed before after) =>
      [{ rule := rules.reasonChanged, path,
         message := "Deprecation reason on " ++ named ++ " has changed "
           ++ fromTo (some before) (some after) }]

/-- What changed about a field that both versions have. -/
def compareField (typeName : Name) (old new : Field) : List Detection :=
  let path := new.name.within typeName.text
  ((TypeChange.between old.type new.type).toList.map fun c =>
    { rule := c.fieldRule
      path
      message := "Field '" ++ path ++ "' changed type " ++ fromToType old.type new.type })
  ++ (textChange old.description new.description).toList.map (fieldDescription path)
  ++ DeprecationRules.field.compare path old.deprecation new.deprecation
  ++ Owner.compareArguments ⟨"field '" ++ path ++ "'", path⟩ old.args new.args

/-- What changed about the fields of a type with the given words for it. -/
def compareFields (typeName : Name) (label : String) (old new : List Field) : List Detection :=
  let pairing := pairByName Field.name old new
  (pairing.removed.map fun f =>
    { rule := .fieldRemoved
      path := f.name.within typeName.text
      message := "Field '" ++ f.name.text ++ "' was removed from " ++ label })
  ++ (pairing.added.map fun f =>
    { rule := .fieldAdded
      path := f.name.within typeName.text
      message := "Field '" ++ f.name.text ++ "' was added to " ++ label })
  ++ pairing.shared.flatMap fun pair => compareField typeName pair.1 pair.2

/-! ## Interfaces, unions and enums -/

/-- What changed about a list of names: those only on the old side, then those
only on the new side, each reported by a rule with a message. -/
def compareNames (path : Option String) (gone come : Rule)
    (goneText comeText : String → String) (old new : List Name) : List Detection :=
  ((namesLeft old new).map fun name => { rule := gone, path, message := goneText name.text })
  ++ (namesLeft new old).map fun name => { rule := come, path, message := comeText name.text }

/-- What changed about the interfaces of a type with the given words for its class. -/
def compareInterfaces (typeName : Name) (words : String) (old new : List Name) :
    List Detection :=
  let subject := "'" ++ typeName.text ++ "' " ++ words
  compareNames typeName .interfaceImplementationRemoved .interfaceImplementationAdded
    (fun name => subject ++ " no longer implements '" ++ name ++ "' interface")
    (fun name => subject ++ " implements '" ++ name ++ "' interface") old new

/-- What changed about the members of a union. -/
def compareUnionMembers (typeName : Name) (old new : List Name) : List Detection :=
  let label := "union type '" ++ typeName.text ++ "'"
  compareNames typeName .unionMemberRemoved .unionMemberAdded
    (fun name => "Member '" ++ name ++ "' was removed from " ++ label)
    (fun name => "Member '" ++ name ++ "' was added to " ++ label) old new

/-- What changed about an enum value that both versions have. -/
def compareEnumValue (typeName : Name) (old new : EnumValue) : List Detection :=
  let path := new.name.within typeName.text
  ((textChange old.description new.description).toList.map fun _ =>
    { rule := .enumValueDescriptionChanged
      path
      message := "Description for enum value '" ++ path ++ "' changed "
        ++ fromTo old.description new.description })
  ++ DeprecationRules.enumValue.compare path old.deprecation new.deprecation

/-- What changed about the values of an enum. -/
def compareEnumValues (typeName : Name) (old new : List EnumValue) : List Detection :=
  let pairing := pairByName EnumValue.name old new
  (pairing.removed.map fun v =>
    { rule := .enumValueRemoved
      path := v.name.within typeName.text
      message := "Enum value '" ++ v.name.text ++ "' was removed from enum '" ++ typeName.text
        ++ "'" })
  ++ (pairing.added.map fun v =>
    { rule := .enumValueAdded
      path := v.name.within typeName.text
      message := "Enum value '" ++ v.name.text ++ "' was added to enum '" ++ typeName.text
        ++ "'" })
  ++ pairing.shared.flatMap fun pair => compareEnumValue typeName pair.1 pair.2

/-! ## Input objects and scalars -/

/-- The rule under which a change of an input field's type is reported. -/
def TypeChange.inputFieldRule : TypeChange → Rule
  | tightened => .inputFieldNullabilityTightened
  | loosened => .inputFieldNullabilityLoosened
  | listWrapping => .inputFieldListWrappingChanged
  | retyped => .inputFieldTypeChanged

/-- What changed about the default of an input field. -/
def inputDefaultMessage (path : String) : TextChange → String
  | .added text => "Input field '" ++ path ++ "' default value '" ++ text ++ "' was added"
  | .removed _ => "Input field '" ++ path ++ "' default value was removed"
  | .changed before after =>
      "Input field '" ++ path ++ "' default value changed from '" ++ before ++ "' to '"
        ++ after ++ "'"

/-- What changed about an input field that both versions have. -/
def compareInputField (typeName : Name) (old new : InputValue) : List Detection :=
  let path := new.name.within typeName.text
  let change := TypeChange.between old.type new.type
  (change.toList.map fun c =>
    { rule := c.inputFieldRule
      path
      message := "Input field '" ++ path ++ "' changed type "
        ++ fromToType old.type new.type })
  ++ (if becomesRequired old new change then
      [{ rule := .inputFieldRequiredAdded
         path
         message := "Input field '" ++ path ++ ": " ++ new.type.text
           ++ "' is now required" }]
    else [])
  ++ ((textChange old.defaultValue new.defaultValue).toList.map fun c =>
    { rule := .inputFieldDefaultChanged, path, message := inputDefaultMessage path c })
  ++ ((textChange old.description new.description).toList.map fun _ =>
    { rule := .inputFieldDescriptionChanged
      path
      message := "Input field '" ++ path ++ "' description changed "
        ++ fromTo old.description new.description })

/-- An input field that is new. -/
def inputFieldAdded (typeName : Name) (label : String) (value : InputValue) : Detection :=
  let path := value.name.within typeName.text
  let heading := value.name.text ++ ": " ++ value.type.text
  if value.isRequired then
    { rule := .requiredInputFieldAdded
      path
      message := "Required input field '" ++ heading ++ "' was added to " ++ label }
  else
    { rule := .optionalInputFieldAdded
      path
      message := "Input field '" ++ heading ++ "' was added to " ++ label }

/-- What changed about the fields of an input object. -/
def compareInputFields (typeName : Name) (old new : List InputValue) : List Detection :=
  let pairing := pairByName InputValue.name old new
  let label := "input object type '" ++ typeName.text ++ "'"
  (pairing.removed.map fun f =>
    { rule := .inputFieldRemoved
      path := f.name.within typeName.text
      message := "Input field '" ++ f.name.text ++ "' was removed from " ++ label })
  ++ pairing.added.map (inputFieldAdded typeName label)
  ++ pairing.shared.flatMap fun pair => compareInputField typeName pair.1 pair.2

/-- What changed about the address of a scalar's specification. -/
def compareSpecifiedBy (typeName : Name) (old new : Option String) : List Detection :=
  (textChange old new).toList.map fun _ =>
    { rule := .scalarSpecifiedByChanged
      path := typeName
      message := "Scalar '" ++ typeName.text ++ "' specifiedBy URL changed " ++ fromTo old new }

/-! ## Directives -/

/-- What changed about the repeatable flag of a directive, which may be left open.
Unless it is set now, the directive is one that may no longer repeat. -/
def compareRepeatable (name : Name) (path : Option String) (old new : Option Bool) :
    List Detection :=
  if old = new then []
  else if new = some true then
    [{ rule := .directiveRepeatableAdded
       path
       message := "Directive '" ++ name.text ++ "' is now repeatable" }]
  else
    [{ rule := .directiveRepeatableRemoved
       path
       message := "Directive '" ++ name.text ++ "' is no longer repeatable" }]

/-- What changed about the description of a directive. -/
def compareDirectiveDescription (label : String) (path old new : Option String) :
    List Detection :=
  (textChange old new).toList.map fun _ =>
    { rule := .directiveDescriptionChanged
      path
      message := "Description of " ++ label ++ " changed " ++ fromTo old new }

/-- What changed about the locations of a directive. -/
def compareLocations (label : String) (path : Option String) (old new : List Name) :
    List Detection :=
  compareNames path .directiveLocationRemoved .directiveLocationAdded
    (fun name => "Location '" ++ name ++ "' was removed from " ++ label)
    (fun name => "Location '" ++ name ++ "' was added to " ++ label) old new

/-! ## Definitions -/

/-- What changed about the description of a type with the given words for it. -/
def typeDescription (typeName : Name) (label : String) : TextChange → Detection
  | .added text =>
      { rule := .typeDescriptionAdded
        path := typeName
        message := "Description '" ++ text ++ "' was added to " ++ label }
  | .removed _ =>
      { rule := .typeDescriptionRemoved
        path := typeName
        message := "Description was removed from " ++ label }
  | .changed before after =>
      { rule := .typeDescriptionChanged
        path := typeName
        message := "Description of " ++ label ++ " changed "
          ++ fromTo (some before) (some after) }

/-- A definition that is gone. -/
def definitionRemoved (kind : Kind) (name : Name) : Detection :=
  match kind with
  | .directive =>
      { rule := .directiveRemoved
        path := kind.key name
        message := "Directive '" ++ name.text ++ "' was removed" }
  | _ =>
      { rule := .typeRemoved
        path := kind.key name
        message := "Type '" ++ name.text ++ "' was removed" }

/-- A definition that is new. -/
def definitionAdded (kind : Kind) (name : Name) : Detection :=
  match kind with
  | .directive =>
      { rule := .directiveAdded
        path := kind.key name
        message := "Directive '" ++ name.text ++ "' was added" }
  | _ =>
      { rule := .typeAdded
        path := kind.key name
        message := "Type '" ++ name.text ++ "' was added" }

/-- A type of the given name whose class changed, with the words for both classes. -/
def kindChanged (name : Name) (old new : String) : Detection where
  rule := .typeKindChanged
  path := name
  message := "'" ++ name.text ++ "' kind changed from '" ++ old ++ "' to '" ++ new ++ "'"

namespace Definition

/-- What changed about the description of a type. -/
def compareDescription (old new : Definition) : List Detection :=
  (textChange old.description new.description).toList.map (typeDescription new.name new.label)

/-- What changed about a definition that both versions have. -/
def compare (old new : Definition) : List Detection :=
  match old.body, new.body with
  | .object oldFields oldInterfaces, .object newFields newInterfaces
  | .interface oldFields oldInterfaces, .interface newFields newInterfaces =>
      compareDescription old new
      ++ compareFields new.name new.label oldFields newFields
      ++ compareInterfaces new.name new.body.label oldInterfaces newInterfaces
  | .union oldMembers, .union newMembers =>
      compareDescription old new ++ compareUnionMembers new.name oldMembers newMembers
  | .enum oldValues, .enum newValues =>
      compareDescription old new ++ compareEnumValues new.name oldValues newValues
  | .input oldFields, .input newFields =>
      compareDescription old new ++ compareInputFields new.name oldFields newFields
  | .scalar oldUrl, .scalar newUrl =>
      compareDescription old new ++ compareSpecifiedBy new.name oldUrl newUrl
  | .directive oldLocations oldArgs oldRepeatable,
      .directive newLocations newArgs newRepeatable =>
      compareDirectiveDescription new.label new.key old.description new.description
      ++ Owner.compareArguments ⟨new.label, new.key.text⟩ oldArgs newArgs
      ++ compareLocations new.label new.key oldLocations newLocations
      ++ compareRepeatable new.name new.key oldRepeatable newRepeatable
  | _, _ => [kindChanged new.name old.body.label new.body.label]

end Definition

end SchemaDrift
