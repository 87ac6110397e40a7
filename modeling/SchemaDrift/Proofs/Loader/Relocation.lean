import SchemaDrift.Proofs.Loader.Conversion
import SchemaDrift.Proofs.Sdl.TokenPlaces

/-!
# Texts of the same tokens

In texts of the same tokens everything may stand elsewhere, but what comes before something else
still does.  No more than this reaches a type map, so the texts are loaded as the same one.

* `TakesAlong.le_iff` — tokens that are taken along keep their order.
* `StartsWithToken`, `sortedByPlace_moved` — so what is built from nodes is sorted the same.
* `FrontEnd.typeDefinitions_moved` — a definition does not tell where it stands.
* `FrontEnd.typeMap_moved` — a schema at other places is converted to the same type map.
* `FrontEnd.Lawful.load_of_tokens_eq` — texts of the same tokens are loaded as the same map.
-/

namespace SchemaDrift

open Sdl

variable {Value : Type} {core : FrontEnd Value} {old new : String} {move : Nat → Nat}

/-! ## The order of tokens -/

/-- Tokens start one after the other. -/
theorem offset_le_iff {text : List Char} {one other : Nat} (hone : one < (lexemes text).length)
    (hother : other < (lexemes text).length) :
    (lexemes text)[one].offset ≤ (lexemes text)[other].offset ↔ one ≤ other := by
  have hlt := List.pairwise_iff_getElem.1 (pairwise_offset_lexemesFrom text 0 0 1)
  constructor
  · intro hle
    by_contra hlater
    exact Nat.not_lt.2 hle (hlt other one hother hone (Nat.not_le.1 hlater))
  · intro hle
    obtain hlater | rfl := Nat.lt_or_eq_of_le hle
    · exact (hlt one other hone hother hlater).le
    · exact Nat.le_refl _

/-- Tokens that are taken along keep their order. -/
theorem TakesAlong.le_iff (h : TakesAlong old new move)
    (hlength : (lexemes new.toList).length = (lexemes old.toList).length) {one other : Lexeme}
    (hone : one ∈ lexemes old.toList) (hother : other ∈ lexemes old.toList) :
    move one.offset ≤ move other.offset ↔ one.offset ≤ other.offset := by
  obtain ⟨index, hindex, rfl⟩ := List.mem_iff_getElem.1 hone
  obtain ⟨index', hindex', rfl⟩ := List.mem_iff_getElem.1 hother
  have hmoved {index : Nat} (hindex : index < (lexemes old.toList).length)
      (hnew : index < (lexemes new.toList).length) :
      move (lexemes old.toList)[index].offset = (lexemes new.toList)[index].offset :=
    h index _ _ (List.getElem?_eq_getElem hindex) (List.getElem?_eq_getElem hnew)
  rw [hmoved hindex (hlength ▸ hindex), hmoved hindex' (hlength ▸ hindex'), offset_le_iff,
    offset_le_iff]

/-! ## Sorting -/

/-- Something is built from a node that starts with a token of the text. -/
def StartsWithToken (text : String) (origin : Option SourceNode) : Prop :=
  ∃ lexeme ∈ lexemes text.toList, origin = some ⟨some lexeme.offset⟩

/-- What is built from nodes is sorted the same after it was moved. -/
theorem sortedByPlace_moved {α : Type} {origin : α → Option SourceNode} {moved : α → α}
    {members : List α} (h : TakesAlong old new move)
    (hlength : (lexemes new.toList).length = (lexemes old.toList).length)
    (hmoved : ∀ member, origin (moved member) = (origin member).map (SourceNode.moved move))
    (hstarts : ∀ member ∈ members, StartsWithToken old (origin member)) :
    sortedByPlace origin (members.map moved) = (sortedByPlace origin members).map moved := by
  refine (map_sortedByPlace fun one hone other hother => ?_).symm
  obtain ⟨lexeme, hlexeme, hstart⟩ := hstarts one hone
  obtain ⟨lexeme', hlexeme', hstart'⟩ := hstarts other hother
  rw [DeclaredNoLater, DeclaredNoLater, hmoved, hmoved, hstart, hstart']
  show decide _ = true ↔ decide _ = true
  rw [decide_eq_true_iff, decide_eq_true_iff]
  exact (h.le_iff hlength hlexeme hlexeme').symm

/-! ## Conversion -/

namespace FrontEnd

variable (core)

/-- A definition does not tell where it stands. -/
theorem typeDefinitions_moved (move : Nat → Nat) (types : List (BuiltType Value)) :
    core.typeDefinitions (types.map (BuiltType.moved move)) = core.typeDefinitions types := by
  induction types with
  | nil => rfl
  | cons first rest ih =>
    rw [List.map_cons, typeDefinitions, typeDefinitions, ih]
    rfl

variable {core} {tree : Tree} {schema : BuiltSchema Value}

/-- A schema at other places is converted to the same type map. -/
theorem typeMap_moved (h : TakesAlong old new move)
    (hlength : (lexemes new.toList).length = (lexemes old.toList).length)
    (hmerges : schema.Merges core tree)
    (hplaces : ∀ placed ∈ tree, ∃ lexeme ∈ lexemes old.toList, lexeme.offset = placed.offset) :
    core.typeMap (schema.moved move) = core.typeMap schema := by
  have hstarts {placed : PlacedStatement} (hplaced : placed ∈ tree) :
      StartsWithToken old (some ⟨some placed.offset⟩) := by
    obtain ⟨lexeme, hlexeme, hoffset⟩ := hplaces placed hplaced
    exact ⟨lexeme, hlexeme, by rw [hoffset]⟩
  have htypes : core.typesInOrder (schema.moved move) =
      (core.typesInOrder schema).map (BuiltType.moved move) := by
    rw [typesInOrder, BuiltSchema.moved, List.filter_map]
    refine sortedByPlace_moved h hlength (fun _ => rfl) fun type hmem => ?_
    obtain ⟨hmem, hown⟩ := List.mem_filter.1 hmem
    obtain ⟨placed, hplaced, horigin⟩ := hmerges.exists_origin_of_isOwnType hmem hown
    exact horigin ▸ hstarts hplaced
  have hdirectives : core.directivesInOrder (schema.moved move) =
      (core.directivesInOrder schema).map (BuiltDirective.moved move) := by
    rw [directivesInOrder, BuiltSchema.moved, List.filter_map]
    refine sortedByPlace_moved h hlength (fun _ => rfl) fun directive hmem => ?_
    obtain ⟨hmem, hown⟩ := List.mem_filter.1 hmem
    obtain ⟨placed, hplaced, horigin⟩ := hmerges.exists_origin_of_isOwnDirective hmem hown
    exact horigin ▸ hstarts hplaced
  rw [typeMap, typeMap, htypes, hdirectives, typeDefinitions_moved, List.map_map]
  rfl

end FrontEnd

/-- Texts of the same tokens are loaded as the same map, in the same order. -/
theorem FrontEnd.Lawful.load_of_tokens_eq (hcore : core.Lawful) {types : TypeMap}
    (htokens : (lexemes new.toList).map Lexeme.token = (lexemes old.toList).map Lexeme.token)
    (h : core.load old = .ok types) : core.load new = .ok types := by
  obtain ⟨schema, hschema, htypes⟩ := load_eq_ok_iff.1 h
  obtain ⟨tree, hparse, hcheck, hbuild⟩ := schema_eq_ok_iff.1 hschema
  obtain ⟨move, hmove, hparse'⟩ := hcore.tokens hparse htokens
  have hlength := congrArg List.length htokens
  rw [List.length_map, List.length_map] at hlength
  have hschema' : core.schema new = .ok (schema.moved move) :=
    schema_eq_ok_iff.2 ⟨_, hparse', (hcore.check_moved move tree).trans hcheck,
      hcore.build_moved move hbuild⟩
  refine load_eq_ok_iff.2 ⟨_, hschema', ?_⟩
  rw [typeMap_moved hmove hlength (hcore.merging hparse hcheck hbuild) (hcore.places hparse), htypes]

end SchemaDrift
