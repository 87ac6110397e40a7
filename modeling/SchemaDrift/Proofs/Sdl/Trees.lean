import SchemaDrift.Proofs.Loader.Laws
import SchemaDrift.Proofs.Locate.Definitions
import SchemaDrift.Proofs.Sdl.Findings

/-!
# The trees of texts

A statement stands where the token is that it is read from, and what stands in a statement depends
on the tokens only.

* `sound_of_treeOfText` — the statements of a text are such as the grammar has.
* `offset_lt_of_treeOfText`, `exists_lexeme_of_treeOfText` — they stand at tokens of the text, one
  after the other.
* `relocation`, `treeOfText_relocated` — texts of the same tokens have the same statements, at the
  places of the same tokens.
-/

namespace SchemaDrift.Sdl

variable {text : String} {tree : Tree}

/-! ## What is read -/

theorem ofText_of_treeOfText (h : Tree.ofText text = .ok tree) :
    Document.ofText text = .ok tree.document := by
  rw [Document.ofText, h]
  rfl

/-- The statements of a text have names and type references such as the grammar has. -/
theorem sound_of_treeOfText (h : Tree.ofText text = .ok tree) :
    ∀ statement ∈ tree.document, statement.Sound := by
  intro statement hmem
  have hdocument := ofText_of_treeOfText h
  obtain ⟨-, -, hread⟩ := readFrom_of_ofText hdocument
  obtain ⟨start, hstart⟩ := (hread statement).1 hmem
  have hfaultless := faultless_of_ofText hdocument
  have hclean : Clean (tokensOf text) := by
    refine ⟨fun fault hfault => ?_, fun name hname => ?_⟩
    · obtain ⟨lexeme, hlexeme, htoken⟩ := List.mem_map.1 hfault
      exact hfaultless lexeme hlexeme fault htoken
    · exact ⟨name, rfl, isName_of_mem_tokensOf hfaultless hname⟩
  exact (hstart.sound hclean (List.suffix_refl _)).1

/-- Statements are read from tokens that there are, each with fewer tokens left than those before
it. -/
theorem spots_of_statementsOf {tokens : List Token} {read : List (Statement × Spot)}
    (h : statementsOf tokens = .ok read) :
    (∀ found ∈ read, 0 < found.2 ∧ found.2 ≤ tokens.length) ∧
      read.Pairwise fun one other => other.2 < one.2 := by
  obtain ⟨huntroubled, -, placed, rfl, hmem, hplaced⟩ := exists_placed_of_statementsOf h
  refine ⟨List.forall_mem_map.2 fun found hfound => ?_, List.pairwise_map.2 <|
    hplaced.imp fun hlater => hlater.2⟩
  have hread := (hmem found.1 found.2).1 hfound
  obtain ⟨rest, hstatement⟩ := hread.exists_statement
  obtain ⟨passed, htokens⟩ := hread.advances huntroubled
  refine ⟨List.length_pos_iff.2 fun hnil => ?_, List.IsSuffix.length_le ⟨passed, htokens.symm⟩⟩
  rw [hnil] at hstatement
  exact statement_of_stop rfl hstatement

/-! ## Where it stands -/

section Offsets

variable {found : List Lexeme} {spot : Nat}

/-- A spot stands where the lexeme is from which that many are left. -/
theorem exists_lexeme_of_spot (hpos : 0 < spot) (hle : spot ≤ found.length) :
    ∃ lexeme, found[found.length - spot]? = some lexeme ∧ offsetOf found spot = lexeme.offset := by
  have hlt : found.length - spot < found.length := by omega
  refine ⟨found[found.length - spot], List.getElem?_eq_getElem hlt, ?_⟩
  rw [offsetOf, lexemeAt?, List.getElem?_eq_getElem hlt, Option.map_some, Option.getD_some]

/-- With fewer tokens left it comes later in the text. -/
theorem offsetOf_lt {later : Nat} (hlater : later < spot) (hpos : 0 < later)
    (hle : spot ≤ (lexemes text.toList).length) :
    offsetOf (lexemes text.toList) spot < offsetOf (lexemes text.toList) later := by
  obtain ⟨one, hone, hoffset⟩ := exists_lexeme_of_spot (Nat.lt_trans hpos hlater) hle
  obtain ⟨other, hother, hoffset'⟩ := exists_lexeme_of_spot hpos (hlater.le.trans hle)
  obtain ⟨hlt, rfl⟩ := List.getElem?_eq_some_iff.1 hone
  obtain ⟨hlt', rfl⟩ := List.getElem?_eq_some_iff.1 hother
  rw [hoffset, hoffset']
  exact List.pairwise_iff_getElem.1 (pairwise_offset_lexemesFrom text.toList 0 0 1) _ _ hlt hlt'
    (by omega)

end Offsets

/-- The statements of a text stand one after the other, -/
theorem offset_lt_of_treeOfText (h : Tree.ofText text = .ok tree) :
    tree.Pairwise fun one other => one.offset < other.offset := by
  obtain ⟨read, hread, rfl⟩ := exists_read_of_treeOfText h
  obtain ⟨hspots, horder⟩ := spots_of_statementsOf hread
  rw [List.length_map] at hspots
  exact List.pairwise_map.2 <| horder.imp_of_mem fun hone hother hlater =>
    offsetOf_lt hlater (hspots _ hother).1 (hspots _ hone).2

/-- and each of them stands at a token. -/
theorem exists_lexeme_of_treeOfText (h : Tree.ofText text = .ok tree) :
    ∀ placed ∈ tree, ∃ lexeme ∈ lexemes text.toList, lexeme.offset = placed.offset := by
  obtain ⟨read, hread, rfl⟩ := exists_read_of_treeOfText h
  refine List.forall_mem_map.2 fun found hfound => ?_
  obtain ⟨hpos, hle⟩ := (spots_of_statementsOf hread).1 found hfound
  rw [List.length_map] at hle
  obtain ⟨lexeme, hlexeme, hoffset⟩ := exists_lexeme_of_spot hpos hle
  exact ⟨lexeme, List.mem_of_getElem? hlexeme, hoffset.symm⟩

/-! ## Texts of the same tokens -/

/-- Where the token stands in the one text that stands at an offset in the other. -/
def relocation (old new : String) (offset : Nat) : Nat :=
  match (lexemes new.toList)[((lexemes old.toList).map Lexeme.offset).idxOf offset]? with
  | some lexeme => lexeme.offset
  | none => offset

theorem takesAlong_relocation (old new : String) : TakesAlong old new (relocation old new) := by
  intro index one other hone hother
  obtain ⟨hlt, rfl⟩ := List.getElem?_eq_some_iff.1 hone
  have hnodup : ((lexemes old.toList).map Lexeme.offset).Nodup :=
    List.pairwise_map.2 ((pairwise_offset_lexemesFrom old.toList 0 0 1).imp Nat.ne_of_lt)
  have hindex := hnodup.idxOf_getElem index (by rwa [List.length_map])
  rw [List.getElem_map] at hindex
  rw [relocation, hindex, hother]

/-- Texts of the same tokens have the same statements, and these stand at the same tokens. -/
theorem treeOfText_relocated {old new : String} (h : Tree.ofText old = .ok tree)
    (htokens : (lexemes new.toList).map Lexeme.token = (lexemes old.toList).map Lexeme.token) :
    Tree.ofText new = .ok (tree.moved (relocation old new)) := by
  obtain ⟨read, hread, rfl⟩ := exists_read_of_treeOfText h
  have hlength := congrArg List.length htokens
  rw [List.length_map, List.length_map] at hlength
  have hmoved : ∀ found ∈ read, offsetOf (lexemes new.toList) found.2 =
      relocation old new (offsetOf (lexemes old.toList) found.2) := by
    intro found hfound
    obtain ⟨hpos, hle⟩ := (spots_of_statementsOf hread).1 found hfound
    rw [List.length_map] at hle
    obtain ⟨one, hone, hoffset⟩ := exists_lexeme_of_spot hpos hle
    obtain ⟨other, hother, hoffset'⟩ := exists_lexeme_of_spot hpos (hlength ▸ hle)
    rw [hlength] at hother
    rw [hoffset, hoffset', takesAlong_relocation old new _ one other hone hother]
  unfold Tree.ofText
  dsimp only
  rw [htokens, hread, Tree.moved, List.map_map]
  refine congrArg Except.ok (List.map_congr_left fun found hfound => ?_)
  rw [Function.comp_apply, hmoved found hfound]

end SchemaDrift.Sdl
