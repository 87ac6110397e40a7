import SchemaDrift.Keyed
import SchemaDrift.Schema.Draft

/-!
# Type maps

A type map registers definitions under their keys in declaration order.

* `TypeMap` — definitions by key.
* `DraftMap` — drafts by key; a key may also stand without a draft.
* `Snapshot` — the two versions of a schema that are compared.
-/

namespace SchemaDrift

/-- Definitions by key, in declaration order. -/
abbrev TypeMap := Keyed Name Definition

/-- Definitions registered under their own keys. -/
def TypeMap.ofDefinitions (definitions : List Definition) : TypeMap :=
  Keyed.ofList (definitions.map fun d => (d.key, d))

/-- Drafts by key, in declaration order; under a key the draft may be missing. -/
abbrev DraftMap := Keyed Name (Option Draft)

/-- Drafts registered under their own keys. -/
def DraftMap.ofDrafts (drafts : List Draft) : DraftMap :=
  Keyed.ofList (drafts.map fun d => (d.key, some d))

/-- A type map from which nothing is missing, as a map of drafts. -/
def TypeMap.toDrafts (types : TypeMap) : DraftMap :=
  types.map fun entry => (entry.1, some entry.2.toDraft)

/-- The old and the new version of a schema. -/
structure Snapshot where
  old : DraftMap := []
  new : DraftMap := []
  deriving DecidableEq, Repr, Inhabited

namespace Snapshot

/-- The snapshot of two complete versions. -/
def ofTypeMaps (old new : TypeMap) : Snapshot := ⟨old.toDrafts, new.toDrafts⟩

/-- What the two versions hold under a key. -/
def lookup (snapshot : Snapshot) (key : Name) : Option Draft × Option Draft :=
  ((snapshot.old.get? key).join, (snapshot.new.get? key).join)

end Snapshot

end SchemaDrift
