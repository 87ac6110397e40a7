import SchemaDrift.Proofs.Locate.Scanning

/-!
# Members and arguments of a layout

However the definition of a type is laid out after its name, the search for a member finds the
first member of the name, and the search for an argument after the name of a field finds the
first argument of the name.  Types, values, applied directives and nested lists may hold any
names.

* `memberAmong_name`, `argumentAmong_name` — what the searches do with a name.
* `findMember_layout` — members of a type.
* `findArgument_layout` — arguments after the name of a field or directive.
* `searches_follow_layout` — both, for whole definitions.
-/

namespace SchemaDrift

open Text Sdl

/-! ## Names among marks -/

theorem ne_singleton_of_isName {name : List Char} (h : isName name = true) {c : Char}
    (hc : isNameStart c = false) : name ≠ [c] := by
  rintro rfl
  exact absurd (Bool.and_eq_true_iff.1 h).1 (Bool.eq_false_iff.1 hc)

/-- What the search for a member does with a name. -/
theorem memberAmong_name {name : List Char} (h : isName name = true) (sought : List Char)
    (isEnum : Bool) (search : MemberSearch) (start : Nat) (next : Option Char)
    (rest : List Mark) :
    memberAmong sought isEnum search (⟨start, name, next⟩ :: rest) =
      if search.parens ≤ 0 ∧ search.braces = 0 ∧ search.afterAt = false ∧
        definitionKeywords.contains name = true then none
      else if search.parens ≤ 0 ∧ search.braces = 1 ∧ search.afterAt = false ∧ name = sought ∧
        (isEnum = true ∨ next = some ':' ∨ next = some '(') then some start
      else memberAmong sought isEnum { search with afterAt := false } rest := by
  have hne {c : Char} (hc : isNameStart c = false) : name ≠ [c] := ne_singleton_of_isName h hc
  have hat : (name == ['@']) = false := beq_false_of_ne (hne (by decide))
  have hcolon : (name == [':']) = false := beq_false_of_ne (hne (by decide))
  rw [memberAmong, if_neg (hne (by decide)), if_neg (hne (by decide))]
  dsimp only
  rw [hat]
  by_cases hparens : search.parens > 0
  · have houtside : ¬search.parens ≤ 0 := by omega
    rw [if_pos hparens, if_neg (fun h => houtside h.1), if_neg (fun h => houtside h.1)]
  have houtside : search.parens ≤ 0 := by omega
  rw [if_neg hparens, if_neg (hne (by decide)), if_neg (hne (by decide))]
  simp only [bne, hat, hcolon, houtside, true_and, Mark.isMember, Bool.and_eq_true, Bool.not_false,
    Bool.not_eq_true', decide_eq_true_eq, beq_iff_eq, Bool.or_eq_true, and_true, and_assoc,
    or_assoc]
  by_cases hheader : search.braces = 0 ∧ search.afterAt = false
  · have hoff : ¬(search.braces = 1 ∧ search.afterAt = false ∧ name = sought ∧
        (isEnum = true ∨ next = some ':' ∨ next = some '(')) := by
      rintro ⟨hbody, -⟩
      omega
    rw [if_pos hheader, if_neg hoff]
    simp only [hheader, true_and]
  · have hoff : ¬(search.braces = 0 ∧ search.afterAt = false ∧
        definitionKeywords.contains name = true) := fun h => hheader ⟨h.1, h.2.1⟩
    rw [if_neg hheader, if_neg hoff]

/-- What the search for an argument does with a name. -/
theorem argumentAmong_name {name : List Char} (h : isName name = true) (sought : List Char)
    (search : ArgumentSearch) (start : Nat) (next : Option Char) (rest : List Mark) :
    argumentAmong sought search (⟨start, name, next⟩ :: rest) =
      if search.parens = 1 ∧ search.braces = 0 ∧ name = sought ∧ next = some ':' then some start
      else argumentAmong sought search rest := by
  have hne {c : Char} (hc : isNameStart c = false) : name ≠ [c] := ne_singleton_of_isName h hc
  rw [argumentAmong, if_neg (hne (by decide)), if_neg (hne (by decide)), if_neg (hne (by decide)),
    if_neg (hne (by decide))]
  simp only [Bool.and_eq_true, decide_eq_true_eq, beq_iff_eq, and_assoc]

/-! ## The search for a member -/

section Members

variable {sought : List Char} {isEnum : Bool}

/-- Inside parentheses the search for a member passes over everything. -/
theorem memberAmong_name_inParens {name : List Char} (h : isName name = true) {parens : Int}
    (hparens : 0 < parens) (braces start : Nat) (afterAt : Bool) (next : Option Char)
    (rest : List Mark) :
    memberAmong sought isEnum ⟨braces, parens, afterAt⟩ (⟨start, name, next⟩ :: rest) =
      memberAmong sought isEnum ⟨braces, parens, false⟩ rest := by
  have hinside : ¬parens ≤ 0 := by omega
  rw [memberAmong_name h, if_neg fun h => hinside h.1, if_neg fun h => hinside h.1]

/-- Inside parentheses the search for a member passes over everything. -/
theorem steady_member_inParens (braces : Nat) {parens : Int} (h : 0 < parens) :
    Steady (memberAmong sought isEnum) fun _ => ⟨braces, parens, false⟩ where
  word hname _ _ _ _ _ _ := memberAmong_name_inParens hname h _ _ _ _ _
  key hname _ _ _ _ := memberAmong_name_inParens hname h _ _ _ _ _
  colon _ _ _ _ := by simp [memberAmong, h]
  braceOpen _ _ _ _ := by simp [memberAmong, h]
  braceClose _ _ _ _ := by simp [memberAmong, h]

/-- Among fields and input fields the search for a member passes over what no colon and no
parenthesis follows, and over objects. -/
theorem steady_member (hsought : isName sought = true) :
    Steady (memberAmong sought false) fun braces => ⟨braces + 1, 0, false⟩ where
  word hname next hcolon hparen braces start rest := by
    rw [memberAmong_name hname, if_neg (fun h => absurd h.2.1 (by simp)), if_neg]
    rintro ⟨-, -, -, -, h | h | h⟩
    exacts [absurd h nofun, hcolon h, hparen h]
  key hname next braces start rest := by
    rw [memberAmong_name hname, if_neg (fun h => absurd h.2.1 (by simp)),
      if_neg (fun h => absurd h.2.1 (by simp))]
  colon next braces start rest := by
    have hne : sought ≠ [':'] := ne_singleton_of_isName hsought (by decide)
    simp [memberAmong, Mark.isMember, hne.symm]
  braceOpen _ _ _ _ := by simp [memberAmong]
  braceClose _ _ _ _ := by simp [memberAmong]

/-- Over applied directives the search for a member passes wherever it is. -/
theorem skipping_member (hsought : isName sought = true) (braces : Nat) {parens : Int}
    (h : 0 ≤ parens) :
    Skipping (memberAmong sought isEnum) ⟨braces, parens, false⟩ ⟨braces, parens, true⟩
      fun _ => ⟨braces, parens + 1, false⟩ where
  toSteady := steady_member_inParens braces (by omega)
  atSign next start rest := by
    have hne : sought ≠ ['@'] := ne_singleton_of_isName hsought (by decide)
    simp [memberAmong, Mark.isMember, hne.symm]
  directive hname _ _ _ _ := by
    rw [memberAmong_name hname, if_neg (fun h => absurd h.2.2.1 (by simp)),
      if_neg (fun h => absurd h.2.2.1 (by simp))]
  parenOpen _ _ _ := by simp [memberAmong]
  parenClose _ _ _ := by simp [memberAmong]
  parameter hname _ _ _ := memberAmong_name_inParens hname (by omega) _ _ _ _ _

theorem MemberNode.startsCalm_pieces (node : MemberNode) : startsCalm node.pieces = true := by
  cases node <;> rfl

theorem MemberNode.pieces_ne_nil (node : MemberNode) : node.pieces ≠ [] := by
  cases node <;> exact List.cons_ne_nil _ _

/-- A member of another name is passed over. -/
theorem passes_member (hsought : isName sought = true) {node : MemberNode}
    (hkind : node.isValue = isEnum) (hname : node.name.toList ≠ sought) :
    Passes Calm (memberAmong sought isEnum) ⟨1, 0, false⟩ ⟨1, 0, false⟩ node.pieces := by
  have hother {name : List Char} (hproper : isName name = true) (hne : name ≠ sought)
      (start : Nat) (next : Option Char) (rest : List Mark) :
      memberAmong sought isEnum ⟨1, 0, false⟩ (⟨start, name, next⟩ :: rest) =
        memberAmong sought isEnum ⟨1, 0, false⟩ rest := by
    rw [memberAmong_name hproper, if_neg (fun h => absurd h.2.1 (by simp)),
      if_neg (fun h => hne h.2.2.2.1)]
  have hskip : Skipping (memberAmong sought isEnum) ⟨1, 0, false⟩ _ _ :=
    skipping_member hsought 1 (Int.le_refl 0)
  cases node with
  | field node =>
    obtain rfl : isEnum = false := hkind.symm
    have hlabel : Passes Anything (memberAmong sought false) ⟨1, 0, false⟩ ⟨1, 0, false⟩
        [.label node.name.toList] :=
      .mark rfl fun hproper start _ rest _ => hother hproper hname start _ rest
    have hinputs := hskip.passes_inputs (skipping_member hsought 1 Int.one_nonneg) node.args
    have htyped := hskip.passes_typed (steady_member hsought) node.type none node.directives
    have hcolon := ((steady_member hsought).passes_colon 0).cons htyped (precedes_anything _)
    exact hlabel.cons (hinputs.append hcolon (precedes_anything _)) (precedes_anything _)
  | input node =>
    obtain rfl : isEnum = false := hkind.symm
    have hlabel : Passes Anything (memberAmong sought false) ⟨1, 0, false⟩ ⟨1, 0, false⟩
        [.label node.name.toList] :=
      .mark rfl fun hproper start _ rest _ => hother hproper hname start _ rest
    have htyped := hskip.passes_typed (steady_member hsought) node.type node.defaultValue
      node.directives
    have hcolon := ((steady_member hsought).passes_colon 0).cons htyped (precedes_anything _)
    exact hlabel.cons hcolon (precedes_anything _)
  | value node =>
    have hword : Passes Anything (memberAmong sought isEnum) ⟨1, 0, false⟩ ⟨1, 0, false⟩
        [.word node.name.toList] :=
      .mark rfl fun hproper start _ rest _ => hother hproper hname start _ rest
    exact hword.cons (hskip.passes_directives node.directives) (precedes_anything _)

/-- A mark of the name with a colon or parenthesis next is found, among the values of an enum
whatever comes next. -/
theorem memberAmong_of_mark (hsought : isName sought = true) {first : Laid} {more : List Laid}
    {rest : List Char} (hfits : first.Fits more rest) (hmark : first.piece.isMark = true)
    (htext : first.piece.text = sought)
    (hnext : isEnum = true ∨ (skipBlanks (laidText more ++ rest)).head? = some ':' ∨
      (skipBlanks (laidText more ++ rest)).head? = some '(') (offset : Nat) :
    memberAmong sought isEnum ⟨1, 0, false⟩ (marks offset (laidText (first :: more) ++ rest)) =
      some (offset + first.gap.length) := by
  rw [marks_cons_of_isMark hfits hmark, htext, memberAmong_name hsought,
    if_neg (fun h => absurd h.2.1 (by simp)), if_pos ⟨Int.le_refl 0, rfl, rfl, rfl, hnext⟩]

/-- A colon or a parenthesis follows the name of a field. -/
theorem exists_next_of_inParens {α : Type} {pieces : α → List Piece} {parts : List α}
    {after : List Piece} {laid : List Laid}
    (h : laid.map Laid.piece = inParens pieces parts ++ .punct .colon :: after) :
    ∃ next more, laid = next :: more ∧
      (next.piece = .punct .colon ∨ next.piece = .punct .parenOpen) := by
  cases parts with
  | nil =>
    obtain ⟨next, more, rfl, hnext, -⟩ := List.map_eq_cons_iff.1 h
    exact ⟨next, more, rfl, .inl hnext⟩
  | cons =>
    obtain ⟨next, more, rfl, hnext, -⟩ := List.map_eq_cons_iff.1 h
    exact ⟨next, more, rfl, .inr hnext⟩

/-- A label with a colon or parenthesis after it is found. -/
theorem memberAmong_of_label (hsought : isName sought = true) {first next : Laid}
    {more : List Laid} {rest : List Char} (hlabel : first.piece = .label sought)
    (hnext : next.piece = .punct .colon ∨ next.piece = .punct .parenOpen)
    (htidy : Tidy (first :: next :: more) rest) (offset : Nat) :
    memberAmong sought isEnum ⟨1, 0, false⟩
        (marks offset (laidText (first :: next :: more) ++ rest)) =
      some (offset + first.gap.length) := by
  have hhead := head?_skipBlanks_after_label htidy (by rw [hlabel]; rfl)
  refine memberAmong_of_mark hsought htidy.1 (by rw [hlabel]; rfl) (by rw [hlabel]; rfl) ?_ offset
  rcases hnext with hnext | hnext
  · rw [hnext] at hhead
    exact .inr (.inl hhead)
  · rw [hnext] at hhead
    exact .inr (.inr hhead)

/-- A member of the name is found where it starts. -/
theorem memberAmong_of_name (hsought : isName sought = true) {node : MemberNode}
    (hkind : node.isValue = isEnum) (hname : node.name.toList = sought) (offset : Nat)
    {first : Laid} {more : List Laid} {rest : List Char}
    (hlaid : (first :: more).map Laid.piece = node.pieces)
    (htidy : Tidy (first :: more) rest) :
    memberAmong sought isEnum ⟨1, 0, false⟩ (marks offset (laidText (first :: more) ++ rest)) =
      some (offset + first.gap.length) := by
  subst hname
  cases node with
  | field node =>
    obtain ⟨hfirst, hmore⟩ := List.cons_eq_cons.1 hlaid
    obtain ⟨next, more, rfl, hnext⟩ := exists_next_of_inParens hmore
    exact memberAmong_of_label hsought hfirst hnext htidy offset
  | input node =>
    obtain ⟨hfirst, hmore⟩ := List.cons_eq_cons.1 hlaid
    obtain ⟨next, more, rfl, hnext, -⟩ := List.map_eq_cons_iff.1 hmore
    exact memberAmong_of_label hsought hfirst (.inl hnext) htidy offset
  | value node =>
    obtain ⟨hfirst, -⟩ := List.cons_eq_cons.1 hlaid
    exact memberAmong_of_mark hsought htidy.1 (by rw [hfirst]; rfl) (by rw [hfirst]; rfl)
      (.inl hkind.symm) offset

/-- Before a body the search for a member passes over words that are no keywords. -/
theorem passes_headerWord {name : List Char} (h : name ∉ definitionKeywords) :
    Passes Anything (memberAmong sought isEnum) ⟨0, 0, false⟩ ⟨0, 0, false⟩ [.word name] := by
  refine .mark rfl fun hproper start text rest _ => ?_
  refine (memberAmong_name hproper sought isEnum _ start _ rest).trans ?_
  rw [if_neg fun hout => h (List.contains_iff_mem.1 hout.2.2.2),
    if_neg fun hin => absurd hin.2.1 (by simp)]

theorem passes_interfaces {names : List String}
    (h : ∀ name ∈ names, name.toList ∉ definitionKeywords) (leading : Bool) :
    Passes Anything (memberAmong sought isEnum) ⟨0, 0, false⟩ ⟨0, 0, false⟩
      (interfacePieces leading names) := by
  cases names with
  | nil => exact .nil _
  | cons name names =>
    have himplements : "implements".toList ∉ definitionKeywords := by decide
    have hamp : (Piece.punct .amp).isMark = false := by decide
    have hnames : Passes Anything (memberAmong sought isEnum) ⟨0, 0, false⟩ ⟨0, 0, false⟩
        (separatedBy .amp (name :: names)) :=
      .separatedBy hamp fun name hname => passes_headerWord (h name hname)
    refine (passes_headerWord himplements).cons ?_ (precedes_anything _)
    cases leading with
    | false => exact hnames
    | true => exact (Passes.punct _ hamp).cons hnames (precedes_anything _)

/-- Between the name of a type and its body the search for a member passes over interfaces
and directives. -/
theorem passes_header (hsought : isName sought = true) {node : TypeNode}
    (hnames : ∀ name ∈ node.content.interfaces, name.toList ∉ definitionKeywords)
    (leading : Bool) :
    Passes Anything (memberAmong sought isEnum) ⟨0, 0, false⟩ ⟨1, 0, false⟩
      (node.headerPieces leading ++ [.punct .braceOpen]) := by
  have hbrace : Passes Anything (memberAmong sought isEnum) ⟨0, 0, false⟩ ⟨1, 0, false⟩
      [.punct .braceOpen] := by
    have hstep (start : Nat) (next : Option Char) (rest : List Mark) :
        memberAmong sought isEnum ⟨0, 0, false⟩ (⟨start, ['{'], next⟩ :: rest) =
          memberAmong sought isEnum ⟨1, 0, false⟩ rest := by simp [memberAmong]
    exact .mark rfl fun _ start _ rest _ => hstep start _ rest
  have hdirectives : Passes Calm (memberAmong sought isEnum) ⟨0, 0, false⟩ ⟨0, 0, false⟩ _ :=
    (skipping_member hsought 0 (Int.le_refl 0)).passes_directives node.directives
  have hopened := hdirectives.append hbrace (precedes_calm_of_cons rfl [])
  rw [TypeNode.headerPieces, List.append_assoc]
  exact (passes_interfaces hnames leading).append hopened (precedes_anything _)

/-- However the definition of a type is laid out, the search for a member finds the first one
of the name. -/
theorem findMember_layout (hsought : isName sought = true) {node : TypeNode} {leading : Bool}
    {laid : List Laid} {rest : List Char}
    (hnames : ∀ name ∈ node.content.interfaces, name.toList ∉ definitionKeywords)
    (hlaid : laid.map Laid.piece = node.bodyPieces leading) (htidy : Tidy laid rest)
    (offset : Nat) :
    findMember sought node.content.isEnum offset (laidText laid ++ rest) =
      ((node.numberedMembers leading).lookup sought).map fun number =>
        offset + startOf laid number := by
  have hbody : node.bodyPieces leading = (node.headerPieces leading ++ [.punct .braceOpen]) ++
      (node.content.members.flatMap MemberNode.pieces ++ [.punct .braceClose]) := by
    rw [TypeNode.bodyPieces, List.append_assoc]
    rfl
  obtain ⟨front, laid, rfl, hfront, hmembers⟩ := List.map_eq_append_iff.1 (hlaid.trans hbody)
  obtain ⟨hfrontTidy, htidy⟩ := htidy.append
  have hkind {member : MemberNode} (h : member ∈ node.content.members) :
      member.isValue = node.content.isEnum := Content.isValue_of_mem_members h
  have hends (start : Nat) (next : Option Char) (rest : List Mark) :
      memberAmong sought node.content.isEnum ⟨1, 0, false⟩ (⟨start, ['}'], next⟩ :: rest) =
        none := by simp [memberAmong]
  have hnumber : front.length = (node.headerPieces leading).length + 1 := by
    have hlength := congrArg List.length hfront
    rwa [List.length_map, List.length_append, List.length_singleton] at hlength
  have hfirst : memberAmong sought node.content.isEnum ⟨1, 0, false⟩
      (marks (offset + (laidText front).length) (laidText laid ++ rest)) = _ :=
    run_first hmembers htidy
      (fun _ hmember hname _ _ offset _ => memberAmong_of_name hsought (hkind hmember) hname offset)
      (fun _ hmember hname => passes_member hsought (hkind hmember) hname)
      MemberNode.startsCalm_pieces MemberNode.pieces_ne_nil rfl rfl hends offset
  rw [findMember, laidText_append, List.append_assoc,
    passes_header hsought hnames leading front offset _ hfront hfrontTidy trivial, hfirst,
    TypeNode.numberedMembers, ← hnumber]

end Members

/-! ## The search for an argument -/

section Arguments

variable {sought : List Char}

/-- In a list of arguments the search for one passes over what no colon follows, and over
objects. -/
theorem steady_argument (hsought : isName sought = true) (parens : Nat) :
    Steady (argumentAmong sought) fun braces => ⟨parens, braces⟩ where
  word hname _ hcolon _ _ _ _ := by
    rw [argumentAmong_name hname, if_neg (fun h => hcolon h.2.2.2)]
  key hname _ braces _ _ := by
    rw [argumentAmong_name hname, if_neg (fun h => absurd h.2.1 (by simp; omega))]
  colon _ _ _ _ := by
    have hne : sought ≠ [':'] := ne_singleton_of_isName hsought (by decide)
    simp [argumentAmong, hne.symm]
  braceOpen _ _ _ _ := by simp [argumentAmong]
  braceClose _ _ _ _ := by simp [argumentAmong]

/-- Over applied directives the search for an argument passes in any list. -/
theorem skipping_argument (hsought : isName sought = true) {parens : Nat} (h : 0 < parens) :
    Skipping (argumentAmong sought) ⟨parens, 0⟩ ⟨parens, 0⟩ fun braces => ⟨parens + 1, braces⟩ where
  toSteady := steady_argument hsought (parens + 1)
  atSign next start rest := by
    have hne : sought ≠ ['@'] := ne_singleton_of_isName hsought (by decide)
    simp [argumentAmong, hne.symm]
  directive hname _ hcolon _ _ := by
    rw [argumentAmong_name hname, if_neg (fun h => hcolon h.2.2.2)]
  parenOpen _ _ _ := by simp [argumentAmong]
  parenClose _ _ _ := by simp [argumentAmong, Nat.ne_of_gt h]
  parameter hname _ _ _ := by
    rw [argumentAmong_name hname, if_neg (fun hin => absurd hin.1 (by simp; omega))]

/-- Another argument is passed over. -/
theorem passes_otherInput (hsought : isName sought = true) {node : InputNode}
    (hname : node.name.toList ≠ sought) :
    Passes Calm (argumentAmong sought) ⟨1, 0⟩ ⟨1, 0⟩ node.pieces := by
  have hsteady : Steady (argumentAmong sought) fun braces => ⟨1, braces⟩ :=
    steady_argument hsought 1
  have hlabel : Passes Anything (argumentAmong sought) ⟨1, 0⟩ ⟨1, 0⟩
      [.label node.name.toList] := by
    refine .mark rfl fun hproper start text rest _ => ?_
    refine (argumentAmong_name hproper sought _ start _ rest).trans ?_
    rw [if_neg fun h => hname h.2.2.1]
  have htyped : Passes Calm (argumentAmong sought) ⟨1, 0⟩ ⟨1, 0⟩ _ :=
    (skipping_argument hsought Nat.one_pos).passes_typed hsteady node.type node.defaultValue
      node.directives
  exact hlabel.cons ((hsteady.passes_colon 0).cons htyped (precedes_anything _))
    (precedes_anything _)

/-- An argument of the name is found where it starts. -/
theorem argumentAmong_of_name (hsought : isName sought = true) {node : InputNode}
    (hname : node.name.toList = sought) (offset : Nat) {first : Laid} {more : List Laid}
    {rest : List Char} (hlaid : (first :: more).map Laid.piece = node.pieces)
    (htidy : Tidy (first :: more) rest) :
    argumentAmong sought ⟨1, 0⟩ (marks offset (laidText (first :: more) ++ rest)) =
      some (offset + first.gap.length) := by
  subst hname
  obtain ⟨hfirst, hmore⟩ := List.cons_eq_cons.1 hlaid
  obtain ⟨next, more, rfl, hnext, -⟩ := List.map_eq_cons_iff.1 hmore
  have hhead := head?_skipBlanks_after_label htidy (by rw [hfirst]; rfl)
  rw [hnext] at hhead
  have hmark : first.piece.isMark = true := by rw [hfirst]; rfl
  have htext : first.piece.text = node.name.toList := by rw [hfirst]; rfl
  rw [marks_cons_of_isMark htidy.1 hmark, htext, argumentAmong_name hsought,
    if_pos ⟨rfl, rfl, rfl, hhead⟩]

/-- In a list of arguments the search finds the first one of the name. -/
theorem argumentAmong_layout (hsought : isName sought = true) {front laid : List Laid}
    {nodes : List InputNode} {after : List Piece} {rest : List Char}
    (hlaid : laid.map Laid.piece =
      nodes.flatMap InputNode.pieces ++ .punct .parenClose :: after)
    (htidy : Tidy laid rest) (offset : Nat) :
    argumentAmong sought ⟨1, 0⟩
        (marks (offset + (laidText front).length) (laidText laid ++ rest)) =
      ((numbered InputNode.name InputNode.pieces front.length nodes).lookup sought).map
        fun number => offset + startOf (front ++ laid) number := by
  have hends (start : Nat) (next : Option Char) (rest : List Mark) :
      argumentAmong sought ⟨1, 0⟩ (⟨start, [')'], next⟩ :: rest) = none := by
    simp [argumentAmong]
  exact run_first hlaid htidy
    (fun _ _ hname _ _ offset _ => argumentAmong_of_name hsought hname offset)
    (fun _ _ hname => passes_otherInput hsought hname) (fun _ => rfl)
    (fun _ => List.cons_ne_nil _ _) rfl rfl hends offset

/-- No list of arguments opens a layout that another piece opens. -/
theorem findArgument_of_ne (offset : Nat) {laid : List Laid} {next : Piece} {after : List Piece}
    {rest : List Char} (hlaid : laid.map Laid.piece = next :: after)
    (hnext : next ≠ .punct .parenOpen) (htidy : Tidy laid rest) :
    findArgument sought offset (laidText laid ++ rest) = none := by
  obtain ⟨first, more, rfl, rfl, -⟩ := List.map_eq_cons_iff.1 hlaid
  exact if_neg ((ne_of_head?_skipBlanks_laid htidy.1).2 hnext)

/-- After a parenthesis with nothing but white space before it, the search is in the list. -/
theorem findArgument_of_parenOpen (offset : Nat) {gap : List Char} {more : List Laid}
    {rest : List Char} (hgap : gap.all isBlank = true) :
    findArgument sought offset (laidText (⟨gap, .punct .parenOpen⟩ :: more) ++ rest) =
      argumentAmong sought ⟨1, 0⟩
        (marks (offset + (laidText [⟨gap, .punct .parenOpen⟩]).length)
          (laidText more ++ rest)) := by
  have htext : laidText (⟨gap, .punct .parenOpen⟩ :: more) ++ rest =
      gap ++ '(' :: (laidText more ++ rest) := by
    rw [laidText_cons, List.append_assoc]
    rfl
  have hopening : skipBlanks (gap ++ '(' :: (laidText more ++ rest)) =
      '(' :: (laidText more ++ rest) := by
    rw [skipBlanks, List.dropWhile_append_of_pos (List.all_eq_true.1 hgap),
      List.dropWhile_cons_of_neg (by decide)]
  have hlength : (laidText [⟨gap, .punct .parenOpen⟩]).length = gap.length + 1 := by
    rw [laidText_cons, List.length_append]
    rfl
  rw [htext, findArgument, hopening, if_pos List.head?_cons, List.length_append, Nat.add_sub_cancel,
    marks_cons_of_isMarkChar (by decide), argumentAmong, if_pos rfl, hlength, Nat.add_assoc]

/-- However a list of arguments is laid out after a label, the search for an argument finds the
first one of the name. -/
theorem findArgument_layout (hsought : isName sought = true) {front more : List Laid}
    {label : Laid} {nodes : List InputNode} {next : Piece} {after : List Piece}
    {rest : List Char} (hlabel : label.piece.isLabel = true)
    (hmore : more.map Laid.piece = inParens InputNode.pieces nodes ++ next :: after)
    (hnext : next ≠ .punct .parenOpen) (htidy : Tidy (front ++ label :: more) rest)
    (offset : Nat) :
    findArgument sought (offset + endOf (front ++ label :: more) front.length)
        ((laidText (front ++ label :: more) ++ rest).drop
          (endOf (front ++ label :: more) front.length)) =
      ((numberedArguments front.length nodes).lookup sought).map fun number =>
        offset + startOf (front ++ label :: more) number := by
  have hwhole : laidText (front ++ label :: more) ++ rest =
      laidText (front ++ [label]) ++ (laidText more ++ rest) := by
    rw [← List.append_assoc, ← laidText_append, List.append_assoc, List.singleton_append]
  obtain ⟨-, hlabelFits, htidy⟩ := htidy.append
  rw [endOf_append_cons, hwhole, List.drop_left]
  cases nodes with
  | nil => exact findArgument_of_ne _ hmore hnext htidy
  | cons node nodes =>
    obtain ⟨⟨gap, piece⟩, more, rfl, hopen, hinside⟩ := List.map_eq_cons_iff.1 hmore
    obtain rfl : piece = .punct .parenOpen := hopen
    have hgap : gap.all isBlank = true := hlabelFits.tight hlabel _ rfl
    have hlist : more.map Laid.piece =
        (node :: nodes).flatMap InputNode.pieces ++ .punct .parenClose :: next :: after :=
      hinside.trans (List.append_assoc ..)
    have hfront : front ++ label :: ⟨gap, .punct .parenOpen⟩ :: more =
        (front ++ [label] ++ [⟨gap, .punct .parenOpen⟩]) ++ more := by
      rw [List.append_assoc, List.append_assoc]
      rfl
    rw [findArgument_of_parenOpen _ hgap, Nat.add_assoc, ← List.length_append,
      ← laidText_append, argumentAmong_layout hsought hlist htidy.2, hfront, numberedArguments,
      List.length_append, List.length_append]
    rfl

end Arguments

/-! ## Whole definitions -/

/-- The number of pieces before a member of a type, by the members before it. -/
def Sdl.TypeNode.memberNumber (node : TypeNode) (leading : Bool) (before : List MemberNode) : Nat :=
  (node.headerPieces leading).length + 1 + (before.flatMap MemberNode.pieces).length

theorem findArgument_field {sought : List Char} (hsought : isName sought = true)
    {node : TypeNode} {leading : Bool} {laid : List Laid} {rest : List Char}
    (hlaid : laid.map Laid.piece = node.bodyPieces leading) (htidy : Tidy laid rest)
    {before after : List MemberNode} {field : FieldNode}
    (hmembers : node.content.members = before ++ .field field :: after) (offset : Nat) :
    findArgument sought (offset + endOf laid (node.memberNumber leading before))
        ((laidText laid ++ rest).drop (endOf laid (node.memberNumber leading before))) =
      ((numberedArguments (node.memberNumber leading before) field.args).lookup sought).map
        (offset + startOf laid ·) := by
  have hbody : node.bodyPieces leading =
      (node.headerPieces leading ++ .punct .braceOpen :: before.flatMap MemberNode.pieces) ++
        .label field.name.toList :: (inParens InputNode.pieces field.args ++ .punct .colon ::
          (typedPieces field.type none field.directives ++
            (after.flatMap MemberNode.pieces ++ [.punct .braceClose]))) := by
    rw [TypeNode.bodyPieces, hmembers, List.flatMap_append, List.flatMap_cons]
    simp only [MemberNode.pieces, FieldNode.pieces, List.append_assoc, List.cons_append]
  obtain ⟨front, laid, rfl, hfront, hmore⟩ := List.map_eq_append_iff.1 (hlaid.trans hbody)
  obtain ⟨label, more, rfl, hlabel, hmore⟩ := List.map_eq_cons_iff.1 hmore
  have hnumber : front.length = node.memberNumber leading before := by
    have hlength := congrArg List.length hfront
    rw [List.length_map, List.length_append, List.length_cons] at hlength
    rw [TypeNode.memberNumber, hlength, Nat.add_assoc, Nat.add_comm 1]
  rw [← hnumber]
  exact findArgument_layout hsought (by rw [hlabel]; rfl) hmore (by decide) htidy offset

/-- No parenthesis follows the arguments of a directive. -/
theorem Sdl.DirectiveNode.exists_after_arguments (node : DirectiveNode) (leading : Bool) :
    ∃ next after, next ≠ .punct .parenOpen ∧ node.pieces leading =
      [.word "directive".toList, .punct .atSign] ++ .label node.name.toList ::
        (inParens InputNode.pieces node.args ++ next :: after) := by
  rw [DirectiveNode.pieces]
  cases node.directives with
  | cons applied directives => exact ⟨.punct .atSign, _, by decide, rfl⟩
  | nil =>
    cases node.repeatable with
    | true => exact ⟨.word "repeatable".toList, _, by decide, rfl⟩
    | false => exact ⟨.word "on".toList, _, by decide, rfl⟩

theorem findArgument_directive {sought : List Char} (hsought : isName sought = true)
    {node : DirectiveNode} {leading : Bool} {laid : List Laid} {rest : List Char}
    (hlaid : laid.map Laid.piece = node.pieces leading) (htidy : Tidy laid rest) (offset : Nat) :
    findArgument sought (offset + endOf laid 2) ((laidText laid ++ rest).drop (endOf laid 2)) =
      ((numberedArguments 2 node.args).lookup sought).map (offset + startOf laid ·) := by
  obtain ⟨next, after, hnext, hpieces⟩ := node.exists_after_arguments leading
  obtain ⟨front, laid, rfl, hfront, hmore⟩ := List.map_eq_append_iff.1 (hlaid.trans hpieces)
  obtain ⟨label, more, rfl, hlabel, hmore⟩ := List.map_eq_cons_iff.1 hmore
  have hnumber : front.length = 2 := by
    have hlength := congrArg List.length hfront
    rwa [List.length_map] at hlength
  rw [← hnumber]
  exact findArgument_layout hsought (by rw [hlabel]; rfl) hmore hnext htidy offset

/-- **The searches follow the grammar.**  Let a definition be laid out in a masked text, with
white space and commas between its pieces as it pleases.  After the name of a type the search
for a member finds the first member of a name, and nothing if there is none.  After the name of
each field of it, and after that of a directive, the search for an argument does the same among
the arguments. -/
theorem searches_follow_layout :
    (∀ (node : TypeNode) (leading : Bool) (laid : List Laid) (rest : List Char) (offset : Nat),
      (∀ name ∈ node.content.interfaces, name.toList ∉ definitionKeywords) →
      laid.map Laid.piece = node.bodyPieces leading → Tidy laid rest →
      ∀ sought, isName sought = true →
        findMember sought node.content.isEnum offset (laidText laid ++ rest) =
            ((node.numberedMembers leading).lookup sought).map (offset + startOf laid ·) ∧
          ∀ before field after, node.content.members = before ++ .field field :: after →
            findArgument sought (offset + endOf laid (node.memberNumber leading before))
                ((laidText laid ++ rest).drop (endOf laid (node.memberNumber leading before))) =
              ((numberedArguments (node.memberNumber leading before) field.args).lookup
                sought).map (offset + startOf laid ·)) ∧
    (∀ (node : DirectiveNode) (leading : Bool) (laid : List Laid) (rest : List Char)
        (offset : Nat), laid.map Laid.piece = node.pieces leading → Tidy laid rest →
      ∀ sought, isName sought = true →
        findArgument sought (offset + endOf laid 2)
            ((laidText laid ++ rest).drop (endOf laid 2)) =
          ((numberedArguments 2 node.args).lookup sought).map (offset + startOf laid ·)) := by
  refine ⟨fun node leading laid rest offset hnames hlaid htidy sought hsought => ⟨?_, ?_⟩, ?_⟩
  · exact findMember_layout hsought hnames hlaid htidy offset
  · exact fun before field after hmembers =>
      findArgument_field hsought hlaid htidy hmembers offset
  · exact fun node leading laid rest offset hlaid htidy sought hsought =>
      findArgument_directive hsought hlaid htidy offset

/-- Pieces with a space before every name and number. -/
def spaced (pieces : List Piece) : List Laid :=
  pieces.map fun piece => ⟨if piece.isOpenEnded then [' '] else [], piece⟩

theorem map_piece_spaced (pieces : List Piece) : (spaced pieces).map Laid.piece = pieces := by
  rw [spaced, List.map_map]
  exact List.map_id pieces

/-- A directive with a parameter of its own name. -/
def echo : Applied := ⟨"e", [⟨"e", .number "1e5", 0⟩], 0⟩

/-- A field with its name in every other place, too. -/
def echoField : FieldNode where
  description := none
  name := "e"
  args :=
    [⟨none, "d", .list (.nonNull (.named "e")), some (.object [("e", .list [.word "e"])]), []⟩,
      ⟨none, "e", .named "d", none, [echo]⟩]
  type := .named "e"
  directives := [echo]

/-- A type in which a field of another name stands before that field. -/
def echoType : TypeNode where
  extending := false
  description := none
  name := "d"
  directives := [echo]
  content := .object ["e"] [{ echoField with name := "d" }, echoField]

/-- A directive with the arguments of that field. -/
def echoDirective : DirectiveNode := ⟨none, "e", echoField.args, [], false, [.query]⟩

/-- The field and the argument are found among all that is named like them. -/
theorem echoes_passed_over :
    let type := (" implements& e@ e( e: 1e5)\x7b d( d:[ e!]=\x7b e:[ e]\x7d e: d@ e( e: 1e5)): " ++
      "e@ e( e: 1e5) e( d:[ e!]=\x7b e:[ e]\x7d e: d@ e( e: 1e5)): e@ e( e: 1e5)\x7d").toList
    let directive := " directive@ e( d:[ e!]=\x7b e:[ e]\x7d e: d@ e( e: 1e5)) on| QUERY".toList
    findMember "e".toList false 6 type = some 88 ∧
      findMember "x".toList false 6 type = none ∧
      findArgument "e".toList 89 (type.drop 83) = some 109 ∧
      findArgument "e".toList 13 (directive.drop 13) = some 33 := by
  intro type directive
  have htype : type = laidText (spaced (echoType.bodyPieces true)) ++ [] := by decide +kernel
  have hdirective : directive = laidText (spaced (echoDirective.pieces true)) ++ [] := by
    decide +kernel
  have hnames : ∀ name ∈ echoType.content.interfaces, name.toList ∉ definitionKeywords := by
    decide
  obtain ⟨hmembers, harguments⟩ := searches_follow_layout
  have he := hmembers echoType true _ [] 6 hnames (map_piece_spaced _) (by decide) "e".toList
    (by decide)
  have hx := hmembers echoType true _ [] 6 hnames (map_piece_spaced _) (by decide) "x".toList
    (by decide)
  have hfield := he.2 [.field { echoField with name := "d" }] echoField [] rfl
  have hargument := harguments echoDirective true _ [] 0 (map_piece_spaced _) (by decide)
    "e".toList (by decide)
  rw [htype, hdirective]
  refine ⟨he.1.trans (by decide), hx.1.trans (by decide), ?_, ?_⟩
  · exact hfield.trans (by decide)
  · exact hargument.trans (by decide)

end SchemaDrift
