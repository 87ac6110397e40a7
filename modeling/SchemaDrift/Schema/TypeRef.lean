/-!
# Type references

A type reference names a type, possibly inside lists, and says at each level
whether null is allowed.

* `TypeRef` — references, with the two ways in which one may be incomplete.
* `TypeRef.text` — the notation of the schema language.
* `TypeRef.namedType`, `TypeRef.listDepth`, `TypeRef.nullability` — the three
  measures by which references are compared.
* `TypeRef.Proper` — the references that a schema document can write.
-/

namespace SchemaDrift

/-- A reference to a type. -/
inductive TypeRef where
  /-- No reference where one is expected. -/
  | absent
  /-- A reference to a type without a name. -/
  | unnamed
  /-- The type of the given name. -/
  | named (name : String)
  /-- A list of the given items. -/
  | list (item : TypeRef)
  /-- The given reference without null. -/
  | nonNull (inner : TypeRef)
  deriving DecidableEq, Repr, Inhabited

namespace TypeRef

/-- The notation of the schema language: brackets around the items of a list,
an exclamation mark after what may not be null. -/
def text : TypeRef → String
  | absent => "None"
  | unnamed => ""
  | named name => name
  | list item => "[" ++ item.text ++ "]"
  | nonNull inner => inner.text ++ "!"

/-- The name at the core, empty if there is none. -/
def namedType : TypeRef → String
  | absent => ""
  | unnamed => ""
  | named name => name
  | list item => item.namedType
  | nonNull inner => inner.namedType

/-- The number of lists around the core. -/
def listDepth : TypeRef → Nat
  | absent => 0
  | unnamed => 0
  | named _ => 0
  | list item => item.listDepth + 1
  | nonNull inner => inner.listDepth

/-- Is null ruled out at the outermost level? -/
def isNonNull : TypeRef → Bool
  | nonNull _ => true
  | _ => false

/-- For each level, outermost first, whether null is ruled out there. -/
def nullability : TypeRef → List Bool
  | absent => []
  | unnamed => [false]
  | named _ => [false]
  | list item => false :: item.nullability
  | nonNull (list item) => true :: item.nullability
  | nonNull _ => [true]

/-- The references that a schema document can write: a named core, and null
ruled out at most once at each level. -/
def Proper : TypeRef → Prop
  | absent => False
  | unnamed => False
  | named name => name ≠ ""
  | list item => item.Proper
  | nonNull inner => inner.isNonNull = false ∧ inner.Proper

end TypeRef

end SchemaDrift
