/-!
# Rules

Every detected difference is reported under one of a closed set of rules.

* `Rule` — the rules.
* `Rule.id` — the identifier of a rule in reports.
* `Rule.all` — the rules in catalog order.
* `Rule.ofId?` — the rule of an identifier.
-/

namespace SchemaDrift

/-- The rules under which differences are reported. -/
inductive Rule where
  -- types
  | typeAdded
  | typeRemoved
  | typeKindChanged
  | typeDescriptionAdded
  | typeDescriptionRemoved
  | typeDescriptionChanged
  -- fields of objects and interfaces
  | fieldAdded
  | fieldRemoved
  | fieldTypeChanged
  | fieldNullabilityTightened
  | fieldNullabilityLoosened
  | fieldListWrappingChanged
  | fieldDescriptionAdded
  | fieldDescriptionRemoved
  | fieldDescriptionChanged
  | fieldDeprecationAdded
  | fieldDeprecationRemoved
  | fieldDeprecationReasonAdded
  | fieldDeprecationReasonRemoved
  | fieldDeprecationReasonChanged
  -- arguments of fields and directives
  | argumentRemoved
  | requiredArgumentAdded
  | optionalArgumentAdded
  | argumentRequiredAdded
  | argumentTypeChanged
  | argumentNullabilityTightened
  | argumentNullabilityLoosened
  | argumentListWrappingChanged
  | argumentDefaultChanged
  | argumentDescriptionChanged
  -- enum values
  | enumValueAdded
  | enumValueRemoved
  | enumValueDescriptionChanged
  | enumValueDeprecationAdded
  | enumValueDeprecationRemoved
  | enumValueDeprecationReasonAdded
  | enumValueDeprecationReasonRemoved
  | enumValueDeprecationReasonChanged
  -- union members and interface lists
  | unionMemberAdded
  | unionMemberRemoved
  | interfaceImplementationAdded
  | interfaceImplementationRemoved
  -- fields of input objects
  | inputFieldRemoved
  | requiredInputFieldAdded
  | optionalInputFieldAdded
  | inputFieldRequiredAdded
  | inputFieldTypeChanged
  | inputFieldNullabilityTightened
  | inputFieldNullabilityLoosened
  | inputFieldListWrappingChanged
  | inputFieldDefaultChanged
  | inputFieldDescriptionChanged
  -- scalars
  | scalarSpecifiedByChanged
  -- directives
  | directiveAdded
  | directiveRemoved
  | directiveLocationAdded
  | directiveLocationRemoved
  | directiveRepeatableAdded
  | directiveRepeatableRemoved
  | directiveDescriptionChanged
  deriving DecidableEq, Repr, Inhabited

namespace Rule

/-- The identifier of a rule in reports. -/
def id : Rule → String
  | .typeAdded => "TYPE_ADDED"
  | .typeRemoved => "TYPE_REMOVED"
  | .typeKindChanged => "TYPE_KIND_CHANGED"
  | .typeDescriptionAdded => "TYPE_DESCRIPTION_ADDED"
  | .typeDescriptionRemoved => "TYPE_DESCRIPTION_REMOVED"
  | .typeDescriptionChanged => "TYPE_DESCRIPTION_CHANGED"
  | .fieldAdded => "FIELD_ADDED"
  | .fieldRemoved => "FIELD_REMOVED"
  | .fieldTypeChanged => "FIELD_TYPE_CHANGED"
  | .fieldNullabilityTightened => "FIELD_NULLABILITY_TIGHTENED"
  | .fieldNullabilityLoosened => "FIELD_NULLABILITY_LOOSENED"
  | .fieldListWrappingChanged => "FIELD_LIST_WRAPPING_CHANGED"
  | .fieldDescriptionAdded => "FIELD_DESCRIPTION_ADDED"
  | .fieldDescriptionRemoved => "FIELD_DESCRIPTION_REMOVED"
  | .fieldDescriptionChanged => "FIELD_DESCRIPTION_CHANGED"
  | .fieldDeprecationAdded => "FIELD_DEPRECATION_ADDED"
  | .fieldDeprecationRemoved => "FIELD_DEPRECATION_REMOVED"
  | .fieldDeprecationReasonAdded => "FIELD_DEPRECATION_REASON_ADDED"
  | .fieldDeprecationReasonRemoved => "FIELD_DEPRECATION_REASON_REMOVED"
  | .fieldDeprecationReasonChanged => "FIELD_DEPRECATION_REASON_CHANGED"
  | .argumentRemoved => "ARGUMENT_REMOVED"
  | .requiredArgumentAdded => "REQUIRED_ARGUMENT_ADDED"
  | .optionalArgumentAdded => "OPTIONAL_ARGUMENT_ADDED"
  | .argumentRequiredAdded => "ARGUMENT_REQUIRED_ADDED"
  | .argumentTypeChanged => "ARGUMENT_TYPE_CHANGED"
  | .argumentNullabilityTightened => "ARGUMENT_NULLABILITY_TIGHTENED"
  | .argumentNullabilityLoosened => "ARGUMENT_NULLABILITY_LOOSENED"
  | .argumentListWrappingChanged => "ARGUMENT_LIST_WRAPPING_CHANGED"
  | .argumentDefaultChanged => "ARGUMENT_DEFAULT_CHANGED"
  | .argumentDescriptionChanged => "ARGUMENT_DESCRIPTION_CHANGED"
  | .enumValueAdded => "ENUM_VALUE_ADDED"
  | .enumValueRemoved => "ENUM_VALUE_REMOVED"
  | .enumValueDescriptionChanged => "ENUM_VALUE_DESCRIPTION_CHANGED"
  | .enumValueDeprecationAdded => "ENUM_VALUE_DEPRECATION_ADDED"
  | .enumValueDeprecationRemoved => "ENUM_VALUE_DEPRECATION_REMOVED"
  | .enumValueDeprecationReasonAdded => "ENUM_VALUE_DEPRECATION_REASON_ADDED"
  | .enumValueDeprecationReasonRemoved => "ENUM_VALUE_DEPRECATION_REASON_REMOVED"
  | .enumValueDeprecationReasonChanged => "ENUM_VALUE_DEPRECATION_REASON_CHANGED"
  | .unionMemberAdded => "UNION_MEMBER_ADDED"
  | .unionMemberRemoved => "UNION_MEMBER_REMOVED"
  | .interfaceImplementationAdded => "INTERFACE_IMPLEMENTATION_ADDED"
  | .interfaceImplementationRemoved => "INTERFACE_IMPLEMENTATION_REMOVED"
  | .inputFieldRemoved => "INPUT_FIELD_REMOVED"
  | .requiredInputFieldAdded => "REQUIRED_INPUT_FIELD_ADDED"
  | .optionalInputFieldAdded => "OPTIONAL_INPUT_FIELD_ADDED"
  | .inputFieldRequiredAdded => "INPUT_FIELD_REQUIRED_ADDED"
  | .inputFieldTypeChanged => "INPUT_FIELD_TYPE_CHANGED"
  | .inputFieldNullabilityTightened => "INPUT_FIELD_NULLABILITY_TIGHTENED"
  | .inputFieldNullabilityLoosened => "INPUT_FIELD_NULLABILITY_LOOSENED"
  | .inputFieldListWrappingChanged => "INPUT_FIELD_LIST_WRAPPING_CHANGED"
  | .inputFieldDefaultChanged => "INPUT_FIELD_DEFAULT_CHANGED"
  | .inputFieldDescriptionChanged => "INPUT_FIELD_DESCRIPTION_CHANGED"
  | .scalarSpecifiedByChanged => "SCALAR_SPECIFIED_BY_CHANGED"
  | .directiveAdded => "DIRECTIVE_ADDED"
  | .directiveRemoved => "DIRECTIVE_REMOVED"
  | .directiveLocationAdded => "DIRECTIVE_LOCATION_ADDED"
  | .directiveLocationRemoved => "DIRECTIVE_LOCATION_REMOVED"
  | .directiveRepeatableAdded => "DIRECTIVE_REPEATABLE_ADDED"
  | .directiveRepeatableRemoved => "DIRECTIVE_REPEATABLE_REMOVED"
  | .directiveDescriptionChanged => "DIRECTIVE_DESCRIPTION_CHANGED"

/-- The rules in catalog order. -/
def all : List Rule :=
  [.typeAdded, .typeRemoved, .typeKindChanged, .typeDescriptionAdded, .typeDescriptionRemoved,
   .typeDescriptionChanged, .fieldAdded, .fieldRemoved, .fieldTypeChanged,
   .fieldNullabilityTightened, .fieldNullabilityLoosened, .fieldListWrappingChanged,
   .fieldDescriptionAdded, .fieldDescriptionRemoved, .fieldDescriptionChanged,
   .fieldDeprecationAdded, .fieldDeprecationRemoved, .fieldDeprecationReasonAdded,
   .fieldDeprecationReasonRemoved, .fieldDeprecationReasonChanged, .argumentRemoved,
   .requiredArgumentAdded, .optionalArgumentAdded, .argumentRequiredAdded, .argumentTypeChanged,
   .argumentNullabilityTightened, .argumentNullabilityLoosened, .argumentListWrappingChanged,
   .argumentDefaultChanged, .argumentDescriptionChanged, .enumValueAdded, .enumValueRemoved,
   .enumValueDescriptionChanged, .enumValueDeprecationAdded, .enumValueDeprecationRemoved,
   .enumValueDeprecationReasonAdded, .enumValueDeprecationReasonRemoved,
   .enumValueDeprecationReasonChanged, .unionMemberAdded, .unionMemberRemoved,
   .interfaceImplementationAdded, .interfaceImplementationRemoved, .inputFieldRemoved,
   .requiredInputFieldAdded, .optionalInputFieldAdded, .inputFieldRequiredAdded,
   .inputFieldTypeChanged, .inputFieldNullabilityTightened, .inputFieldNullabilityLoosened,
   .inputFieldListWrappingChanged, .inputFieldDefaultChanged, .inputFieldDescriptionChanged,
   .scalarSpecifiedByChanged, .directiveAdded, .directiveRemoved, .directiveLocationAdded,
   .directiveLocationRemoved, .directiveRepeatableAdded, .directiveRepeatableRemoved,
   .directiveDescriptionChanged]

/-- The rule of an identifier, if it is the identifier of one. -/
def ofId? (text : String) : Option Rule := all.find? fun rule => rule.id == text

end Rule

end SchemaDrift
