import SchemaDrift.Toml.Document

/-!
# No table holds a name twice

A document that gives a name to two members of one table is refused, so the tables that are read
have none, however deep they are.

* `Unambiguous` — members of which no two have one name.
* `Distinct`, `Node.Distinct` — values and nodes all tables of which are unambiguous.
* `distinct_settle` — what nodes come to.
* `Unambiguous.assign`, `Unambiguous.within`, `Unambiguous.declare`, `Unambiguous.append` — one
  statement.
* `DistinctWithin`, `unambiguous_of_read` — values and documents.
-/

namespace SchemaDrift.Toml

/-! ## Steps that succeed -/

theorem exists_of_bind_eq_ok {ε α β : Type} {first : Except ε α} {next : α → Except ε β}
    {found : β} (h : first >>= next = .ok found) :
    ∃ value, first = .ok value ∧ next value = .ok found := by
  cases first with
  | error fault => exact absurd h nofun
  | ok value => exact ⟨value, rfl, h⟩

theorem eq_some_of_require {α : Type} {found : Option α} {value : α}
    (h : require found = .ok value) : found = some value := by
  cases found with
  | none => exact absurd h nofun
  | some other => rw [Except.ok.inj h]

/-! ## Members -/

/-- No two members have one name, and all are as they have to be. -/
structure Unambiguous {α : Type} (holds : α → Prop) (members : Keyed String α) : Prop where
  names : (Keyed.keys members).Nodup
  parts : ∀ member ∈ members, holds member.2

namespace Unambiguous

variable {α : Type} {holds : α → Prop} {members : Keyed String α} {name : String} {value : α}

theorem nil : Unambiguous holds [] := ⟨List.nodup_nil, nofun⟩

theorem of_get? (h : Unambiguous holds members) (hvalue : members.get? name = some value) :
    holds value :=
  h.parts (name, value) ((Keyed.get?_eq_some_iff h.names).1 hvalue)

theorem put (h : Unambiguous holds members) (hvalue : holds value) :
    Unambiguous holds (members.put name value) := by
  refine ⟨Keyed.nodup_keys_put h.names name value, ?_⟩
  obtain ⟨-, hparts⟩ := h
  induction members with
  | nil => exact List.forall_mem_singleton.2 hvalue
  | cons member rest ih =>
    obtain ⟨hmember, hrest⟩ := List.forall_mem_cons.1 hparts
    unfold Keyed.put
    split
    · exact List.forall_mem_cons.2 ⟨hvalue, hrest⟩
    · exact List.forall_mem_cons.2 ⟨hmember, ih hrest⟩

end Unambiguous

/-! ## Values and nodes -/

/-- No table in a value holds a name twice. -/
inductive Distinct : Toml → Prop where
  | bool (value : Bool) : Distinct (.bool value)
  | int (value : Int) : Distinct (.int value)
  | real (value : Double) : Distinct (.real value)
  | text (value : String) : Distinct (.text value)
  | moment (written : String) : Distinct (.moment written)
  | array {items : List Toml} (parts : ∀ item ∈ items, Distinct item) : Distinct (.array items)
  | table {members : Keyed String Toml} (names : (Keyed.keys members).Nodup)
      (parts : ∀ member ∈ members, Distinct member.2) : Distinct (.table members)

theorem distinct_table_iff {members : Keyed String Toml} :
    Distinct (.table members) ↔ Unambiguous Distinct members := by
  constructor
  · rintro (_ | _ | _ | _ | _ | _ | ⟨names, parts⟩)
    exact ⟨names, parts⟩
  · exact fun h => .table h.names h.parts

/-- No table that is made up so far holds a name twice. -/
inductive Node.Distinct : Node → Prop where
  | value {content : Toml} (h : content.Distinct) : Distinct (.value content)
  | table {block : Option Nat} {members : Keyed String Node} (names : (Keyed.keys members).Nodup)
      (parts : ∀ member ∈ members, Distinct member.2) : Distinct (.table block members)
  | row {closed : List (Keyed String Node)} {last : Keyed String Node}
      (names : ∀ members ∈ closed ++ [last], (Keyed.keys members).Nodup)
      (parts : ∀ members ∈ closed ++ [last], ∀ member ∈ members, Distinct member.2) :
      Distinct (.row closed last)

namespace Node

theorem distinct_table_iff {block : Option Nat} {members : Keyed String Node} :
    Distinct (.table block members) ↔ Unambiguous Distinct members := by
  constructor
  · rintro (_ | ⟨names, parts⟩ | _)
    exact ⟨names, parts⟩
  · exact fun h => .table h.names h.parts

theorem distinct_row_iff {closed : List (Keyed String Node)} {last : Keyed String Node} :
    Distinct (.row closed last) ↔
      ∀ members ∈ closed ++ [last], Unambiguous Distinct members := by
  constructor
  · rintro (_ | _ | ⟨names, parts⟩) members hmembers
    exact ⟨names members hmembers, parts members hmembers⟩
  · exact fun h => .row (fun members hmembers => (h members hmembers).names)
      fun members hmembers => (h members hmembers).parts

theorem settleMembers_eq (members : Keyed String Node) :
    settleMembers members = members.map fun member => (member.1, member.2.settle) := by
  induction members with
  | nil => rfl
  | cons member rest ih => rw [settleMembers, ih, List.map_cons]

theorem settleRow_eq (closed : List (Keyed String Node)) :
    settleRow closed = closed.map fun members => .table (settleMembers members) := by
  induction closed with
  | nil => rfl
  | cons members rest ih => rw [settleRow, ih, List.map_cons]

theorem keys_settleMembers (members : Keyed String Node) :
    Keyed.keys (settleMembers members) = Keyed.keys members := by
  rw [settleMembers_eq, Keyed.keys, List.map_map]
  rfl

/-- What a node comes to holds no name twice if the node does not. -/
theorem distinct_settle {node : Node} (h : node.Distinct) : node.settle.Distinct := by
  have hmembers : ∀ {members : Keyed String Node}, (Keyed.keys members).Nodup →
      (∀ member ∈ members, member.2.settle.Distinct) →
      (Toml.table (settleMembers members)).Distinct := by
    intro members hnames hparts
    refine .table ((keys_settleMembers members).symm ▸ hnames) fun member hmember => ?_
    rw [settleMembers_eq] at hmember
    obtain ⟨node, hnode, rfl⟩ := List.mem_map.1 hmember
    exact hparts node hnode
  induction h with
  | value h => exact h
  | table names _ ih => exact hmembers names ih
  | @row closed last names _ ih =>
    refine .array fun item hitem => ?_
    have hrow : settleRow closed ++ [.table (settleMembers last)] =
        (closed ++ [last]).map fun members => .table (settleMembers members) := by
      rw [settleRow_eq, List.map_append, List.map_singleton]
    rw [hrow] at hitem
    obtain ⟨members, hmem, rfl⟩ := List.mem_map.1 hitem
    exact hmembers (names members hmem) (ih members hmem)

theorem unambiguous_settleMembers {members : Keyed String Node}
    (h : Unambiguous Distinct members) : Unambiguous Toml.Distinct (settleMembers members) := by
  have htable : Distinct (.table none members) := distinct_table_iff.2 h
  exact Toml.distinct_table_iff.1 (distinct_settle htable)

end Node

/-! ## Statements -/

namespace Unambiguous

variable {block : Nat} {opened : Option Nat} {name : String} {value : Toml} {path : List String}
  {members found inner : Keyed String Node} {rows : List (Keyed String Node)}

theorem of_table (h : Unambiguous Node.Distinct members)
    (hpart : members.get? name = some (.table opened inner)) : Unambiguous Node.Distinct inner :=
  Node.distinct_table_iff.1 (h.of_get? hpart)

theorem put_table (h : Unambiguous Node.Distinct members) (hinner : Unambiguous Node.Distinct inner) :
    Unambiguous Node.Distinct (members.put name (.table opened inner)) :=
  h.put (Node.distinct_table_iff.2 hinner)

theorem of_row (h : Unambiguous Node.Distinct members)
    (hpart : members.get? name = some (.row rows inner)) :
    (∀ row ∈ rows, Unambiguous Node.Distinct row) ∧ Unambiguous Node.Distinct inner := by
  obtain ⟨hrows, hlast⟩ := List.forall_mem_append.1 (Node.distinct_row_iff.1 (h.of_get? hpart))
  exact ⟨hrows, List.forall_mem_singleton.1 hlast⟩

theorem put_row (h : Unambiguous Node.Distinct members)
    (hrows : ∀ row ∈ rows, Unambiguous Node.Distinct row)
    (hinner : Unambiguous Node.Distinct inner) :
    Unambiguous Node.Distinct (members.put name (.row rows inner)) :=
  h.put (Node.distinct_row_iff.2
    (List.forall_mem_append.2 ⟨hrows, List.forall_mem_singleton.2 hinner⟩))

theorem assign (h : Unambiguous Node.Distinct members) (hvalue : value.Distinct)
    (hassign : Node.assign block name value path members = some found) :
    Unambiguous Node.Distinct found := by
  induction path generalizing members found with
  | nil =>
    rw [Node.assign] at hassign
    split at hassign
    · cases hassign
    · rw [← Option.some.inj hassign]
      exact h.put (.value hvalue)
  | cons part rest ih =>
    rw [Node.assign] at hassign
    split at hassign
    case h_1 =>
      obtain ⟨inner, hinner, hput⟩ := Option.bind_eq_some_iff.1 hassign
      rw [← Option.some.inj hput]
      exact h.put_table (ih nil hinner)
    case h_2 opened inner hpart =>
      split at hassign
      case isTrue =>
        obtain ⟨next, hnext, hput⟩ := Option.bind_eq_some_iff.1 hassign
        rw [← Option.some.inj hput]
        exact h.put_table (ih (h.of_table hpart) hnext)
      case isFalse => cases hassign
    case h_3 => cases hassign

/-- What is reached through headers stays unambiguous if what is changed there does. -/
theorem within {change : Keyed String Node → Option (Keyed String Node)}
    (hchange : ∀ {members found}, Unambiguous Node.Distinct members → change members = some found →
      Unambiguous Node.Distinct found)
    (h : Unambiguous Node.Distinct members) (hwithin : Node.within change path members = some found) :
    Unambiguous Node.Distinct found := by
  induction path generalizing members found with
  | nil => exact hchange h hwithin
  | cons part rest ih =>
    rw [Node.within] at hwithin
    split at hwithin
    case h_1 =>
      obtain ⟨inner, hinner, hput⟩ := Option.bind_eq_some_iff.1 hwithin
      rw [← Option.some.inj hput]
      exact h.put_table (ih nil hinner)
    case h_2 block inner hpart =>
      obtain ⟨next, hnext, hput⟩ := Option.bind_eq_some_iff.1 hwithin
      rw [← Option.some.inj hput]
      exact h.put_table (ih (h.of_table hpart) hnext)
    case h_3 closed last hpart =>
      obtain ⟨next, hnext, hput⟩ := Option.bind_eq_some_iff.1 hwithin
      obtain ⟨hclosed, hlast⟩ := h.of_row hpart
      rw [← Option.some.inj hput]
      exact h.put_row hclosed (ih hlast hnext)
    case h_4 => cases hwithin

theorem declare (h : Unambiguous Node.Distinct members)
    (hdeclare : Node.declare block name members = some found) : Unambiguous Node.Distinct found := by
  rw [Node.declare] at hdeclare
  split at hdeclare
  case h_1 =>
    rw [← Option.some.inj hdeclare]
    exact h.put_table nil
  case h_2 inner hpart =>
    rw [← Option.some.inj hdeclare]
    exact h.put_table (h.of_table hpart)
  case h_3 => cases hdeclare

theorem append (h : Unambiguous Node.Distinct members)
    (happend : Node.append name members = some found) : Unambiguous Node.Distinct found := by
  rw [Node.append] at happend
  split at happend
  case h_1 =>
    rw [← Option.some.inj happend]
    exact h.put_row (List.forall_mem_nil _) nil
  case h_2 closed last hpart =>
    obtain ⟨hclosed, hlast⟩ := h.of_row hpart
    rw [← Option.some.inj happend]
    exact h.put_row (List.forall_mem_append.2 ⟨hclosed, List.forall_mem_singleton.2 hlast⟩) nil
  case h_3 => cases happend

end Unambiguous

/-! ## Reading values -/

theorem distinct_of_readInBase? {base : Nat} {input rest : List Char} {value : Toml}
    (h : readInBase? base input = some (value, rest)) : value.Distinct := by
  unfold readInBase? at h
  split at h
  · cases h
  · cases h
    exact .int _

theorem distinct_of_numberOf {numeral : Numeral} {value : Toml}
    (h : numberOf numeral = .ok value) : value.Distinct := by
  unfold numberOf at h
  split at h
  · cases h
    exact .real _
  · split at h
    · cases h
      exact .int _
    · cases h

theorem distinct_of_readSpecial? {input rest : List Char} {value : Toml}
    (h : readSpecial? input = some (value, rest)) : value.Distinct := by
  unfold readSpecial? at h
  dsimp only at h
  split at h
  · cases h
    exact .real _
  · cases h
    exact .real _
  · cases h

theorem distinct_of_readNumber {input rest : List Char} {value : Toml}
    (h : readNumber input = .ok (value, rest)) : value.Distinct := by
  unfold readNumber at h
  split at h
  case h_1 found hmarked =>
    cases h
    unfold readMarked? at hmarked
    split at hmarked
    · exact distinct_of_readInBase? hmarked
    · exact distinct_of_readInBase? hmarked
    · exact distinct_of_readInBase? hmarked
    · cases hmarked
  case h_2 =>
    split at h
    · obtain ⟨number, hnumber, h⟩ := exists_of_bind_eq_ok h
      cases h
      exact distinct_of_numberOf hnumber
    · exact distinct_of_readSpecial? (eq_some_of_require h)

theorem distinct_of_readText? {input rest : List Char} {value : Toml}
    (h : readText? input = some (value, rest)) : value.Distinct := by
  obtain ⟨found, -, hvalue⟩ := Option.map_eq_some_iff.1 h
  cases hvalue
  exact .text _

/-- What holds no other values is no table. -/
theorem distinct_of_readScalar {input rest : List Char} {value : Toml}
    (h : readScalar input = .ok (value, rest)) : value.Distinct := by
  unfold readScalar at h
  split at h
  · exact distinct_of_readText? (eq_some_of_require h)
  · exact distinct_of_readText? (eq_some_of_require h)
  · split at h
    case h_1 found hbool =>
      cases h
      obtain hyes | ⟨-, hno⟩ := Option.or_eq_some_iff.1 hbool
      · obtain ⟨_, -, hvalue⟩ := Option.map_eq_some_iff.1 hyes
        cases hvalue
        exact .bool true
      · obtain ⟨_, -, hvalue⟩ := Option.map_eq_some_iff.1 hno
        cases hvalue
        exact .bool false
    case h_2 =>
      unfold readPlain at h
      split at h
      · split at h
        · cases h
          exact .moment _
        · cases h
      · exact distinct_of_readNumber h

/-- Values, items and members that are read within a bound hold no name twice. -/
structure DistinctWithin (bound : Nat) : Prop where
  value : ∀ {room input value rest}, readValue bound room input = .ok (value, rest) →
    value.Distinct
  items : ∀ {room input items rest}, readItems bound room input = .ok (items, rest) →
    ∀ item ∈ items, item.Distinct
  members : ∀ {room members input found rest}, Unambiguous Node.Distinct members →
    readMembers bound room members input = .ok (found, rest) → Unambiguous Node.Distinct found

namespace DistinctWithin

variable {bound room : Nat} {input rest : List Char}

theorem value_succ (h : DistinctWithin bound) {value : Toml}
    (hread : readValue (bound + 1) room input = .ok (value, rest)) : value.Distinct := by
  unfold readValue at hread
  split at hread
  · obtain ⟨room, -, hread⟩ := exists_of_bind_eq_ok hread
    obtain ⟨⟨items, after⟩, hitems, hread⟩ := exists_of_bind_eq_ok hread
    cases hread
    exact .array (h.items hitems)
  · obtain ⟨room, -, hread⟩ := exists_of_bind_eq_ok hread
    split at hread
    · cases hread
      exact .table List.nodup_nil nofun
    · obtain ⟨⟨members, after⟩, hmembers, hread⟩ := exists_of_bind_eq_ok hread
      cases hread
      exact distinct_table_iff.2 (Node.unambiguous_settleMembers (h.members .nil hmembers))
  · exact distinct_of_readScalar hread

theorem items_succ (h : DistinctWithin bound) {items : List Toml}
    (hread : readItems (bound + 1) room input = .ok (items, rest)) :
    ∀ item ∈ items, item.Distinct := by
  unfold readItems at hread
  obtain ⟨after, -, hread⟩ := exists_of_bind_eq_ok hread
  split at hread
  · cases hread
    exact nofun
  · obtain ⟨⟨item, after⟩, hitem, hread⟩ := exists_of_bind_eq_ok hread
    obtain ⟨more, -, hread⟩ := exists_of_bind_eq_ok hread
    split at hread
    · obtain ⟨⟨others, last⟩, hothers, hread⟩ := exists_of_bind_eq_ok hread
      cases hread
      exact List.forall_mem_cons.2 ⟨h.value hitem, h.items hothers⟩
    · cases hread
      exact List.forall_mem_singleton.2 (h.value hitem)
    · cases hread

theorem members_succ (h : DistinctWithin bound) {members found : Keyed String Node}
    (hbefore : Unambiguous Node.Distinct members)
    (hread : readMembers (bound + 1) room members input = .ok (found, rest)) :
    Unambiguous Node.Distinct found := by
  unfold readMembers at hread
  obtain ⟨⟨key, after⟩, -, hread⟩ := exists_of_bind_eq_ok hread
  dsimp only at hread
  split at hread
  · obtain ⟨⟨value, after⟩, hvalue, hread⟩ := exists_of_bind_eq_ok hread
    obtain ⟨next, hassign, hread⟩ := exists_of_bind_eq_ok hread
    have hnext := hbefore.assign (h.value hvalue) (eq_some_of_require hassign)
    split at hread
    · exact h.members hnext hread
    · cases hread
      exact hnext
    · cases hread
  · cases hread

end DistinctWithin

/-- Whatever the bound is. -/
theorem distinctWithin (bound : Nat) : DistinctWithin bound := by
  induction bound with
  | zero => exact ⟨nofun, nofun, nofun⟩
  | succ bound ih => exact ⟨ih.value_succ, ih.items_succ, ih.members_succ⟩

/-! ## Documents -/

/-- What a statement says is unambiguous in itself. -/
def Statement.Distinct : Statement → Prop
  | .assign _ value => value.Distinct
  | _ => True

theorem Outline.unambiguous_add {outline next : Outline} {statement : Statement}
    (h : Unambiguous Node.Distinct outline.members) (hstatement : statement.Distinct)
    (hadd : outline.add statement = some next) : Unambiguous Node.Distinct next.members := by
  cases statement with
  | assign key value =>
    obtain ⟨members, hmembers, hnext⟩ := Option.bind_eq_some_iff.1 hadd
    cases hnext
    exact h.within (fun hinner hassign => hinner.assign hstatement hassign) hmembers
  | table key =>
    obtain ⟨members, hmembers, hnext⟩ := Option.bind_eq_some_iff.1 hadd
    cases hnext
    exact h.within (fun hinner hdeclare => hinner.declare hdeclare) hmembers
  | row key =>
    obtain ⟨members, hmembers, hnext⟩ := Option.bind_eq_some_iff.1 hadd
    cases hnext
    exact h.within (fun hinner happend => hinner.append happend) hmembers

theorem distinct_of_readStatement {input rest : List Char} {statement : Statement}
    (h : readStatement input = .ok (statement, rest)) : statement.Distinct := by
  unfold readStatement at h
  split at h
  · obtain ⟨⟨key, after⟩, -, h⟩ := Option.bind_eq_some_iff.1 (eq_some_of_require h)
    obtain ⟨last, -, h⟩ := Option.bind_eq_some_iff.1 h
    cases h
    trivial
  · obtain ⟨⟨key, after⟩, -, h⟩ := Option.bind_eq_some_iff.1 (eq_some_of_require h)
    obtain ⟨last, -, h⟩ := Option.bind_eq_some_iff.1 h
    cases h
    trivial
  · unfold readAssignment at h
    obtain ⟨⟨key, after⟩, -, h⟩ := exists_of_bind_eq_ok h
    obtain ⟨after, -, h⟩ := exists_of_bind_eq_ok h
    obtain ⟨⟨value, last⟩, hread, h⟩ := exists_of_bind_eq_ok h
    cases h
    exact (distinctWithin _).value hread

/-- Each statement keeps the document unambiguous, and so do all of them. -/
theorem unambiguous_of_readOutline {bound : Nat} {outline found : Outline} {input : List Char}
    (h : Unambiguous Node.Distinct outline.members)
    (hread : readOutline bound outline input = .ok found) :
    Unambiguous Node.Distinct found.members := by
  induction bound generalizing outline input with
  | zero => cases hread; exact h
  | succ bound ih =>
    rw [readOutline] at hread
    split at hread
    · cases hread
      exact h
    · split at hread
      · obtain ⟨rest, -, hread⟩ := exists_of_bind_eq_ok hread
        exact ih h hread
      · obtain ⟨⟨statement, after⟩, hstatement, hread⟩ := exists_of_bind_eq_ok hread
        obtain ⟨next, hadd, hread⟩ := exists_of_bind_eq_ok hread
        obtain ⟨rest, -, hread⟩ := exists_of_bind_eq_ok hread
        exact ih (Outline.unambiguous_add h (distinct_of_readStatement hstatement)
          (eq_some_of_require hadd)) hread

/-- No table of a document that is read holds a name twice. -/
theorem unambiguous_of_read {document : String} {members : List (String × Toml)}
    (h : read document = .ok members) : Unambiguous Distinct members := by
  obtain ⟨outline, houtline, h⟩ := exists_of_bind_eq_ok h
  cases h
  exact Node.unambiguous_settleMembers (unambiguous_of_readOutline .nil houtline)

end SchemaDrift.Toml
