import SchemaDrift.Locate.Locator
import SchemaDrift.Proofs.Sdl.Numbers
import SchemaDrift.Sdl.Document

/-!
# Layouts of definitions

A definition is written as pieces, with white space and commas between them.  Descriptions
and string values leave no piece, since masking blanks them.

* `Piece` — what a definition is written with.
* `Laid`, `Tidy` — pieces with what stands before each, so that no two run into each other.
* `Literal.pieces`, `InputNode.pieces`, `FieldNode.pieces`, … — what the parts of a document
  are written with.
* `TypeNode.bodyPieces` — what stands after the name of a type.
* `numbered`, `startOf` — where the parts of a layout start.
-/

namespace SchemaDrift

open Text Sdl

/-! ## Pieces -/

/-- A piece of a definition. -/
inductive Piece where
  /-- The name of a member, argument or directive where it is declared, with nothing but
  white space between it and the next piece. -/
  | label (name : List Char)
  /-- Any other name. -/
  | word (name : List Char)
  | number (text : List Char)
  | punct (mark : Punct)
  deriving DecidableEq, Repr

namespace Piece

/-- A piece as it is written. -/
def text : Piece → List Char
  | label name => name
  | word name => name
  | number text => text
  | punct mark => mark.text.toList

/-- Is a name a name, and a number a number? -/
def isProper : Piece → Bool
  | label name => isName name
  | word name => isName name
  | number text => isNumber text
  | punct _ => true

/-- Would a name character right after a piece go on with it? -/
def isOpenEnded : Piece → Bool
  | punct _ => false
  | _ => true

/-- Is a piece the name of something declared there? -/
def isLabel : Piece → Bool
  | label _ => true
  | _ => false

end Piece

/-! ## Layouts -/

/-- A piece with what stands before it. -/
structure Laid where
  gap : List Char
  piece : Piece
  deriving DecidableEq, Repr

/-- The text of a layout. -/
def laidText (laid : List Laid) : List Char :=
  laid.flatMap fun laid => laid.gap ++ laid.piece.text

@[simp]
theorem laidText_nil : laidText [] = [] := rfl

@[simp]
theorem laidText_cons (laid : Laid) (more : List Laid) :
    laidText (laid :: more) = laid.gap ++ (laid.piece.text ++ laidText more) := by
  rw [laidText, List.flatMap_cons, List.append_assoc, laidText]

@[simp]
theorem laidText_append (laid more : List Laid) :
    laidText (laid ++ more) = laidText laid ++ laidText more :=
  List.flatMap_append

/-- White space, or one of the characters that are passed over between tokens. -/
def isGap (c : Char) : Bool := isBlank c || isIgnored c

/-- A piece is one of its kind, has only gap characters before it, and does not go on in what
follows; nothing but white space follows a label. -/
structure Laid.Fits (laid : Laid) (more : List Laid) (rest : List Char) : Prop where
  gap : laid.gap.all isGap = true
  proper : laid.piece.isProper = true
  ends : laid.piece.isOpenEnded = true → startsWithNameChar (laidText more ++ rest) = false
  tight : laid.piece.isLabel = true → ∀ next ∈ more.head?, next.gap.all isBlank = true

instance (laid : Laid) (more : List Laid) (rest : List Char) : Decidable (laid.Fits more rest) :=
  decidable_of_iff
    (laid.gap.all isGap = true ∧ laid.piece.isProper = true ∧
      (laid.piece.isOpenEnded = true → startsWithNameChar (laidText more ++ rest) = false) ∧
      (laid.piece.isLabel = true → ∀ next ∈ more.head?, next.gap.all isBlank = true))
    ⟨fun ⟨gap, proper, ends, tight⟩ => ⟨gap, proper, ends, tight⟩,
      fun h => ⟨h.gap, h.proper, h.ends, h.tight⟩⟩

/-- All pieces of a layout fit where they stand, with the text after the layout. -/
def Tidy : List Laid → List Char → Prop
  | [], _ => True
  | laid :: more, rest => laid.Fits more rest ∧ Tidy more rest

instance decidableTidy : (laid : List Laid) → (rest : List Char) → Decidable (Tidy laid rest)
  | [], _ => .isTrue trivial
  | laid :: more, rest =>
    have := decidableTidy more rest
    inferInstanceAs (Decidable (laid.Fits more rest ∧ Tidy more rest))

theorem Tidy.append {laid more : List Laid} {rest : List Char} (h : Tidy (laid ++ more) rest) :
    Tidy laid (laidText more ++ rest) ∧ Tidy more rest := by
  induction laid with
  | nil => exact ⟨trivial, h⟩
  | cons first laid ih =>
    obtain ⟨hfirst, hmore⟩ := h
    refine ⟨⟨⟨hfirst.gap, hfirst.proper, fun hopen => ?_, fun hlabel next hnext => ?_⟩,
      (ih hmore).1⟩, (ih hmore).2⟩
    · rw [← List.append_assoc, ← laidText_append]
      exact hfirst.ends hopen
    · refine hfirst.tight hlabel next ?_
      cases laid with
      | nil => exact absurd hnext nofun
      | cons => exact hnext

/-! ## Parts of a document -/

/-- Words with a mark between neighbours. -/
def separatedBy (mark : Punct) : List String → List Piece
  | [] => []
  | [name] => [.word name.toList]
  | name :: more => .word name.toList :: .punct mark :: separatedBy mark more

/-- The pieces of parts between parentheses; there are none if there are no parts. -/
def inParens {α : Type} (pieces : α → List Piece) : List α → List Piece
  | [] => []
  | parts => .punct .parenOpen :: (parts.flatMap pieces ++ [.punct .parenClose])

/-- The pieces of a type reference. -/
def typePieces : TypeRef → List Piece
  | .absent => []
  | .unnamed => []
  | .named name => [.word name.toList]
  | .list item => .punct .bracketOpen :: (typePieces item ++ [.punct .bracketClose])
  | .nonNull inner => typePieces inner ++ [.punct .bang]

namespace Sdl

mutual

/-- The pieces of a value. -/
def Literal.pieces : Literal → List Piece
  | .number text => [.number text.toList]
  | .word text => [.word text.toList]
  | .string _ => []
  | .block _ => []
  | .reference name => [.punct .dollar, .word name.toList]
  | .list items => .punct .bracketOpen :: (itemPieces items ++ [.punct .bracketClose])
  | .object fields => .punct .braceOpen :: (entryPieces fields ++ [.punct .braceClose])

/-- The pieces of the items of a list. -/
def itemPieces : List Literal → List Piece
  | [] => []
  | item :: more => item.pieces ++ itemPieces more

/-- The pieces of the entries of an object. -/
def entryPieces : List (String × Literal) → List Piece
  | [] => []
  | (key, value) :: more =>
      [.word key.toList, .punct .colon] ++ (value.pieces ++ entryPieces more)

end

/-- The pieces of a value given to a parameter. -/
def Argument.pieces (argument : Argument) : List Piece :=
  [.word argument.name.toList, .punct .colon] ++ argument.value.pieces

/-- The pieces of an applied directive. -/
def Applied.pieces (applied : Applied) : List Piece :=
  .punct .atSign :: .word applied.name.toList :: inParens Argument.pieces applied.args

/-- The pieces of a default. -/
def defaultPieces : Option Literal → List Piece
  | none => []
  | some value => .punct .equals :: value.pieces

/-- The pieces after the colon of a member or argument. -/
def typedPieces (type : TypeRef) (default? : Option Literal) (directives : List Applied) :
    List Piece :=
  typePieces type ++ (defaultPieces default? ++ directives.flatMap Applied.pieces)

/-- The pieces of an argument or input field. -/
def InputNode.pieces (node : InputNode) : List Piece :=
  [.label node.name.toList, .punct .colon] ++
    typedPieces node.type node.defaultValue node.directives

/-- The pieces of a field. -/
def FieldNode.pieces (node : FieldNode) : List Piece :=
  .label node.name.toList :: (inParens InputNode.pieces node.args ++
    .punct .colon :: typedPieces node.type none node.directives)

/-- The pieces of an enum value. -/
def ValueNode.pieces (node : ValueNode) : List Piece :=
  .word node.name.toList :: node.directives.flatMap Applied.pieces

/-- The pieces of the definition of a directive; a mark may stand before its first place. -/
def DirectiveNode.pieces (node : DirectiveNode) (leading : Bool) : List Piece :=
  [.word "directive".toList, .punct .atSign, .label node.name.toList] ++
    (inParens InputNode.pieces node.args ++ (node.directives.flatMap Applied.pieces ++
      ((if node.repeatable then [.word "repeatable".toList] else []) ++ .word "on".toList ::
        ((if leading then [.punct .pipe] else []) ++
          separatedBy .pipe (node.locations.map Place.id)))))

/-- A member of a type. -/
inductive MemberNode where
  | field (node : FieldNode)
  | input (node : InputNode)
  | value (node : ValueNode)
  deriving Repr, Inhabited

namespace MemberNode

def name : MemberNode → String
  | field node => node.name
  | input node => node.name
  | value node => node.name

/-- Is it a value of an enum? -/
def isValue : MemberNode → Bool
  | value _ => true
  | _ => false

/-- The pieces of a member. -/
def pieces : MemberNode → List Piece
  | field node => node.pieces
  | input node => node.pieces
  | value node => node.pieces

end MemberNode

namespace Content

/-- The members of a type. -/
def members : Content → List MemberNode
  | .object _ fields => fields.map .field
  | .interface _ fields => fields.map .field
  | .enum values => values.map .value
  | .input fields => fields.map .input
  | .scalar => []
  | .union _ => []

/-- The interfaces of a type. -/
def interfaces : Content → List String
  | .object interfaces _ => interfaces
  | .interface interfaces _ => interfaces
  | _ => []

/-- Is it the content of an enum? -/
def isEnum : Content → Bool
  | .enum _ => true
  | _ => false

/-- Enums, and only they, have values as members. -/
theorem isValue_of_mem_members {content : Content} {node : MemberNode}
    (h : node ∈ content.members) : node.isValue = content.isEnum := by
  cases content with
  | scalar | union => exact absurd h List.not_mem_nil
  | object | interface | enum | input =>
    obtain ⟨_, -, rfl⟩ := List.mem_map.1 h
    rfl

end Content

/-- The pieces that list interfaces; a mark may stand before the first one. -/
def interfacePieces (leading : Bool) : List String → List Piece
  | [] => []
  | names =>
      .word "implements".toList ::
        ((if leading then [.punct .amp] else []) ++ separatedBy .amp names)

/-- The pieces between the name of a type and its body. -/
def TypeNode.headerPieces (node : TypeNode) (leading : Bool) : List Piece :=
  interfacePieces leading node.content.interfaces ++ node.directives.flatMap Applied.pieces

/-- The pieces after the name of a type that has a body. -/
def TypeNode.bodyPieces (node : TypeNode) (leading : Bool) : List Piece :=
  node.headerPieces leading ++ .punct .braceOpen ::
    (node.content.members.flatMap MemberNode.pieces ++ [.punct .braceClose])

end Sdl

/-! ## Where parts start -/

/-- The names of parts laid out one after the other, each with the number of pieces before
the part. -/
def numbered {α : Type} (name : α → String) (pieces : α → List Piece) :
    Nat → List α → List (List Char × Nat)
  | _, [] => []
  | before, part :: more =>
      ((name part).toList, before) ::
        numbered name pieces (before + (pieces part).length) more

/-- The members of a type with the number of pieces before each. -/
def Sdl.TypeNode.numberedMembers (node : TypeNode) (leading : Bool) : List (List Char × Nat) :=
  numbered MemberNode.name MemberNode.pieces ((node.headerPieces leading).length + 1)
    node.content.members

/-- Arguments with the number of pieces before each.  They follow a label of the given number
and a parenthesis. -/
def numberedArguments (label : Nat) (nodes : List InputNode) : List (List Char × Nat) :=
  numbered InputNode.name InputNode.pieces (label + 2) nodes

/-- The offset at which a piece of a layout starts, by its number. -/
def startOf (laid : List Laid) (number : Nat) : Nat :=
  (laidText (laid.take number)).length + ((laid[number]?).map (·.gap.length)).getD 0

/-- The offset after a piece of a layout, by its number. -/
def endOf (laid : List Laid) (number : Nat) : Nat :=
  (laidText (laid.take (number + 1))).length

theorem endOf_append_cons (front : List Laid) (first : Laid) (more : List Laid) :
    endOf (front ++ first :: more) front.length = (laidText (front ++ [first])).length := by
  have htake : (front ++ first :: more).take (front.length + 1) = front ++ [first] := by
    rw [List.take_append, List.take_of_length_le (Nat.le_succ _), Nat.add_sub_cancel_left]
    rfl
  rw [endOf, htake]

theorem startOf_append_cons (front : List Laid) (first : Laid) (more : List Laid) :
    startOf (front ++ first :: more) front.length =
      (laidText front).length + first.gap.length := by
  rw [startOf, List.take_left, List.getElem?_append_right (Nat.le_refl _), Nat.sub_self]
  rfl

end SchemaDrift
