import SchemaDrift.Compare.Draft
import SchemaDrift.Schema.TypeMap

/-!
# Detecting the differences between two versions

The differences form one block for each key: first the keys only the old
version has, in its order, then the keys of the new version, in its order.  A
block whose definitions cannot be compared is empty, and its key is skipped.

* `Block` — what is reported under one key.
* `Snapshot.blocks` — the blocks in order.
* `Snapshot.detections`, `Snapshot.skipped` — what the blocks report, and the
  keys of those that could not be compared.
-/

namespace SchemaDrift

/-- What is reported under one key; `none` if it could not be compared. -/
structure Block where
  key : Name
  detections : Option (List Detection)
  deriving DecidableEq, Repr

/-- What is reported of a definition that is gone, if its name can be read. -/
def removalOf (draft : Option Draft) : Option (List Detection) := do
  let gone ← draft
  let name ← gone.name?
  return [definitionRemoved gone.kind name]

/-- What is reported of a definition that is new, if its name can be read. -/
def additionOf (draft : Option Draft) : Option (List Detection) := do
  let come ← draft
  let name ← come.name?
  return [definitionAdded come.kind name]

namespace Snapshot

/-- The blocks of the keys that only the old version has. -/
def removalBlocks (snapshot : Snapshot) : List Block :=
  (snapshot.old.filter fun entry => !snapshot.new.has entry.1).map fun entry =>
    ⟨entry.1, removalOf entry.2⟩

/-- The block of a key of the new version.  An old draft that is missing counts
as none at all. -/
def newBlock (snapshot : Snapshot) (key : Name) (draft : Option Draft) : Block :=
  match (snapshot.old.get? key).join with
  | none => ⟨key, additionOf draft⟩
  | some before => ⟨key, draft.bind before.compare?⟩

/-- The blocks in order. -/
def blocks (snapshot : Snapshot) : List Block :=
  snapshot.removalBlocks ++ snapshot.new.map fun entry => snapshot.newBlock entry.1 entry.2

/-- All that changed between the two versions. -/
def detections (snapshot : Snapshot) : List Detection :=
  snapshot.blocks.flatMap fun block => block.detections.getD []

/-- The keys whose definitions could not be compared. -/
def skipped (snapshot : Snapshot) : List Name :=
  (snapshot.blocks.filter fun block => block.detections.isNone).map Block.key

end Snapshot

end SchemaDrift
