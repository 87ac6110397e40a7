import SchemaDrift.Keyed
import SchemaDrift.Change.Basic

/-!
# Criticality

Each rule has a fixed level and, unless it is harmless, a reason.

* `Criticality` — a level with its reason.
* `Rule.criticality` — the built-in level and reason of each rule.
* `Detection.classify` — the change a detection becomes.
* `Catalog` — a table of criticalities by rule identifier, which need not be
  the built-in one, and `Catalog.classify?` by it.
-/

namespace SchemaDrift

/-- A level with its reason. -/
structure Criticality where
  level : Level
  reason : Option String := none
  deriving DecidableEq, Repr, Inhabited

/-! ## Reasons shared by several rules -/

/-- Why a removal breaks clients. -/
def removalReason (what : String) : String :=
  "Removing " ++ what ++ " is a breaking change. "
    ++ "It is preferable to deprecate it before removing it."

/-- Why another type breaks clients. -/
def retypingReason (what : String) : String :=
  "Changing the type of " ++ what ++ " can break clients that rely on its shape."

/-- Why ruling out null for an input breaks requests. -/
def tighteningReason (what : String) : String :=
  "Making " ++ what ++ " non-null will break existing requests that omit it or pass null."

/-! ## The built-in table -/

namespace Criticality

/-- No harm. -/
def harmless : Criticality := ⟨.nonBreaking, none⟩

/-- A breaking difference for the given reason. -/
def breaking (reason : String) : Criticality := ⟨.breaking, some reason⟩

/-- A dangerous difference for the given reason. -/
def dangerous (reason : String) : Criticality := ⟨.dangerous, some reason⟩

end Criticality

/-- The built-in level and reason of each rule. -/
def Rule.criticality : Rule → Criticality
  | .typeAdded => .harmless
  | .typeRemoved => .breaking (removalReason "a type")
  | .typeKindChanged =>
      .breaking ("Changing the kind of a type is a breaking change because it can cause "
        ++ "existing queries to error.")
  | .typeDescriptionAdded => .harmless
  | .typeDescriptionRemoved => .harmless
  | .typeDescriptionChanged => .harmless
  | .fieldAdded => .harmless
  | .fieldRemoved => .breaking (removalReason "a field")
  | .fieldTypeChanged => .breaking (retypingReason "a field")
  | .fieldNullabilityTightened =>
      .breaking ("Changing the nullability of a field can break clients with generated "
        ++ "types that depend on it.")
  | .fieldNullabilityLoosened =>
      .breaking "Making a field nullable can break clients that do not expect null values."
  | .fieldListWrappingChanged => .breaking (retypingReason "a field")
  | .fieldDescriptionAdded => .harmless
  | .fieldDescriptionRemoved => .harmless
  | .fieldDescriptionChanged => .harmless
  | .fieldDeprecationAdded => .harmless
  | .fieldDeprecationRemoved => .harmless
  | .fieldDeprecationReasonAdded => .harmless
  | .fieldDeprecationReasonRemoved => .harmless
  | .fieldDeprecationReasonChanged => .harmless
  | .argumentRemoved => .breaking (removalReason "an argument")
  | .requiredArgumentAdded =>
      .dangerous ("Adding a required argument without a default value will fail requests "
        ++ "that do not provide it.")
  | .optionalArgumentAdded => .harmless
  | .argumentRequiredAdded =>
      .dangerous ("Removing the default value of a non-null argument makes it required; "
        ++ "requests that omit it will fail.")
  | .argumentTypeChanged => .breaking (retypingReason "an argument")
  | .argumentNullabilityTightened => .breaking (tighteningReason "an argument")
  | .argumentNullabilityLoosened => .harmless
  | .argumentListWrappingChanged => .breaking (retypingReason "an argument")
  | .argumentDefaultChanged =>
      .dangerous ("Changing the default value of an argument may change runtime "
        ++ "behaviour for clients that rely on it.")
  | .argumentDescriptionChanged => .harmless
  | .enumValueAdded => .harmless
  | .enumValueRemoved => .breaking (removalReason "an enum value")
  | .enumValueDescriptionChanged => .harmless
  | .enumValueDeprecationAdded => .harmless
  | .enumValueDeprecationRemoved => .harmless
  | .enumValueDeprecationReasonAdded => .harmless
  | .enumValueDeprecationReasonRemoved => .harmless
  | .enumValueDeprecationReasonChanged => .harmless
  | .unionMemberAdded => .harmless
  | .unionMemberRemoved =>
      .breaking "Removing a union member breaks queries that use it in a fragment spread."
  | .interfaceImplementationAdded => .harmless
  | .interfaceImplementationRemoved =>
      .breaking ("Removing an interface implementation breaks queries that use the "
        ++ "interface in a fragment spread.")
  | .inputFieldRemoved => .breaking (removalReason "an input field")
  | .requiredInputFieldAdded =>
      .breaking ("Adding a required input field will fail existing requests that do not "
        ++ "provide it.")
  | .optionalInputFieldAdded => .harmless
  | .inputFieldRequiredAdded =>
      .breaking ("Removing the default value of a non-null input field makes it "
        ++ "required; existing requests that omit it will fail.")
  | .inputFieldTypeChanged => .breaking (retypingReason "an input field")
  | .inputFieldNullabilityTightened => .breaking (tighteningReason "an input field")
  | .inputFieldNullabilityLoosened => .harmless
  | .inputFieldListWrappingChanged => .breaking (retypingReason "an input field")
  | .inputFieldDefaultChanged =>
      .dangerous ("Changing the default value of an input field may change runtime "
        ++ "behaviour for clients that rely on it.")
  | .inputFieldDescriptionChanged => .harmless
  | .scalarSpecifiedByChanged => .harmless
  | .directiveAdded => .harmless
  | .directiveRemoved => .breaking (removalReason "a directive")
  | .directiveLocationAdded => .harmless
  | .directiveLocationRemoved =>
      .breaking "Removing a directive location breaks documents that use the directive there."
  | .directiveRepeatableAdded => .harmless
  | .directiveRepeatableRemoved =>
      .breaking ("Making a directive non-repeatable breaks documents that apply it more "
        ++ "than once.")
  | .directiveDescriptionChanged => .harmless

/-- The change a detection becomes under the built-in table. -/
def Detection.classify (detection : Detection) : Change where
  rule := .known detection.rule
  level := .known detection.rule.criticality.level
  message := .text detection.message
  path := .ofOption detection.path
  reason := .ofOption detection.rule.criticality.reason

/-! ## Tables other than the built-in one -/

/-- What a table holds for an identifier: a word for the level, and a reason. -/
structure CatalogEntry where
  level : Label Level
  reason : Option String
  deriving DecidableEq, Repr, Inhabited

/-- A table of levels and reasons by rule identifier. -/
abbrev Catalog := Keyed String CatalogEntry

/-- The built-in table. -/
def Catalog.builtIn : Catalog :=
  Rule.all.map fun rule =>
    (rule.id, ⟨.known rule.criticality.level, rule.criticality.reason⟩)

/-- A difference reported under an identifier that need not be that of a rule. -/
structure Finding where
  ruleId : String
  message : String
  path : String
  deriving DecidableEq, Repr, Inhabited

/-- The change a finding becomes under a table; without an entry for its
identifier, the identifier. -/
def Catalog.classify (catalog : Catalog) (finding : Finding) : Except String Change :=
  match catalog.get? finding.ruleId with
  | none => .error finding.ruleId
  | some entry => .ok {
      rule := .other finding.ruleId
      level := entry.level
      message := .text finding.message
      path := .text finding.path
      reason := .ofOption entry.reason }

end SchemaDrift
