import SchemaDrift.Keyed
import SchemaDrift.Toml.Basic

/-!
# Tables under construction

A document builds its tables in blocks: each header opens a block, in which keys
are assigned.  What a later block may still add to a table depends on how the
table came about.

* `Node` — a part of a document so far.
* `Node.assign` — a value put under a dotted key.
* `Node.declare`, `Node.append` — a table opened by a header, and one more table
  of a row of tables.
* `Node.settle` — the values that the nodes come to.
-/

namespace SchemaDrift.Toml

/-- A part of a document so far. -/
inductive Node where
  /-- An assigned value, to which nothing can be added. -/
  | value (value : Toml)
  /-- A table.  If it was named by a header or within a dotted key, the number of
  the block in which it was; a table that is only on the way to others has none. -/
  | table (block : Option Nat) (members : List (String × Node))
  /-- A row of tables, the last of which is still open. -/
  | row (closed : List (List (String × Node))) (last : List (String × Node))

namespace Node

/-- A value put under a name in the table to which dotted keys lead.  Tables on
the way have to be new, or without a block so far, or of the same block. -/
def assign (block : Nat) (name : String) (value : Toml) :
    List String → Keyed String Node → Option (Keyed String Node)
  | [], members => if members.has name then none else some (members.put name (.value value))
  | part :: rest, members =>
    match members.get? part with
    | none => do
        return members.put part (.table (some block) (← assign block name value rest []))
    | some (.table opened inner) =>
        if opened.all (· == block) then do
          return members.put part (.table (some block) (← assign block name value rest inner))
        else none
    | some _ => none

/-- A change of the table to which the names of a header lead.  Tables that are not
there are made; of a row of tables the last one counts. -/
def within (change : Keyed String Node → Option (Keyed String Node)) :
    List String → Keyed String Node → Option (Keyed String Node)
  | [], members => change members
  | part :: rest, members =>
    match members.get? part with
    | none => do return members.put part (.table none (← within change rest []))
    | some (.table block inner) => do
        return members.put part (.table block (← within change rest inner))
    | some (.row closed last) => do
        return members.put part (.row closed (← within change rest last))
    | some (.value _) => none

/-- The table of the given name opened by the header of a block.  It may be there
already, but not named before. -/
def declare (block : Nat) (name : String) (members : Keyed String Node) :
    Option (Keyed String Node) :=
  match members.get? name with
  | none => some (members.put name (.table (some block) []))
  | some (.table none inner) => some (members.put name (.table (some block) inner))
  | some _ => none

/-- One more table in the row of the given name. -/
def append (name : String) (members : Keyed String Node) : Option (Keyed String Node) :=
  match members.get? name with
  | none => some (members.put name (.row [] []))
  | some (.row closed last) => some (members.put name (.row (closed ++ [last]) []))
  | some _ => none

/-! ## What the nodes come to -/

mutual

/-- The value that a node comes to. -/
def settle : Node → Toml
  | value content => content
  | table _ members => .table (settleMembers members)
  | row closed last => .array (settleRow closed ++ [.table (settleMembers last)])

/-- The members that nodes come to. -/
def settleMembers : List (String × Node) → List (String × Toml)
  | [] => []
  | (name, node) :: rest => (name, settle node) :: settleMembers rest

/-- The tables that a row comes to. -/
def settleRow : List (List (String × Node)) → List Toml
  | [] => []
  | members :: rest => .table (settleMembers members) :: settleRow rest

end

end Node

end SchemaDrift.Toml
