import SchemaDrift.Compare.Rules
import SchemaDrift.Schema.Draft

/-!
# Comparing drafts

A pair of drafts can be compared if every part that a rule reads is there.
Equality alone needs no part: two members that both lack a type reference do
not differ in it.

* `Draft.kindChange?` — what is reported of two classes, if it can be read.
* `Draft.legible` — is every part there that the rules read?
* `Draft.compare?` — all that changed about a definition, or `none` if the
  drafts cannot be compared.
-/

namespace SchemaDrift

/-- Is every part there that the rules on arguments or input fields read?  New
members and members on both sides need their types. -/
def inputsLegible (old new : Holey InputValue) : Bool :=
  let pairing := pairByName InputValue.name old.present new.present
  old.isWhole && new.isWhole
    && pairing.added.all (fun value => value.type != .absent)
    && pairing.shared.all fun pair => pair.1.type != .absent && pair.2.type != .absent

/-- Is every part there that the rules on two fields of one name read? -/
def DraftField.legible (old new : DraftField) : Bool :=
  (old.type == new.type || (old.type != .absent && new.type != .absent))
    && inputsLegible old.args new.args

/-- Is every part there that the rules on fields read? -/
def fieldsLegible (old new : Holey DraftField) : Bool :=
  old.isWhole && new.isWhole
    && (pairByName DraftField.name old.present new.present).shared.all fun pair =>
      pair.1.legible pair.2

/-- Is every part there that the rules on two bodies of one class read? -/
def DraftBody.legible (old new : DraftBody) : Bool :=
  match old, new with
  | .object oldFields oldInterfaces, .object newFields newInterfaces
  | .interface oldFields oldInterfaces, .interface newFields newInterfaces =>
      fieldsLegible oldFields newFields && oldInterfaces.isSome && newInterfaces.isSome
  | .union oldMembers, .union newMembers => oldMembers.isSome && newMembers.isSome
  | .enum oldValues, .enum newValues => oldValues.isWhole && newValues.isWhole
  | .input oldFields, .input newFields => inputsLegible oldFields newFields
  | .scalar _, .scalar _ => true
  | .directive oldLocations oldArgs _, .directive newLocations newArgs _ =>
      inputsLegible oldArgs newArgs && oldLocations.isSome && newLocations.isSome
  | _, _ => false

namespace Draft

/-- What is reported of a type whose class changed, if its name and the words for both
classes can be read. -/
def kindChange? (old new : Draft) : Option Detection := do
  let name ← new.name?
  let before ← old.label?
  let after ← new.label?
  return kindChanged name before after

/-- Is every part there that the rules read?  Neither a directive and a type can be compared
nor two things of one class that is none of the known ones. -/
def legible (old new : Draft) : Bool :=
  if old.isAkin new then old.body.legible new.body
  else old.kind != .directive && new.kind != .directive && (old.kindChange? new).isSome

/-- All that changed about a definition that both versions have; `none` if the
drafts cannot be compared. -/
def compare? (old new : Draft) : Option (List Detection) :=
  if !old.legible new then none
  else if old.isAkin new then
    match old.settle?, new.settle? with
    | some before, some after => some (before.compare after)
    | _, _ => none
  else (old.kindChange? new).map fun change => [change]

end Draft

end SchemaDrift
