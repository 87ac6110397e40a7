import Mathlib.Tactic.ByContra
import SchemaDrift.Proofs.Locate.Declarations
import SchemaDrift.Proofs.Locate.Marks
import SchemaDrift.Proofs.Locate.Masking
import SchemaDrift.Proofs.Locate.Positions

/-!
# Locations are real

A location that is not the fallback is a line and column of one of the two sources, and what
the path names stands there.

* `ChangePath.DeclaredIn` — a source declares the definition that a path names.
* `ChangePath.NamedAt` — what a path names stands at a line and column of a source.
* `offsetIn_eq_none_iff`, `standsIn_of_offsetIn` — when an offset is found, and what stands
  there.
* `locate_is_real` — when the fallback is given, and what stands at every other location.
-/

namespace SchemaDrift

open Text

/-! ## What a path names -/

namespace ChangePath

/-- The keywords of the declarations of what a path names. -/
def keywords : ChangePath → List (List Char)
  | directive .. => ["directive".toList]
  | type .. => typeKeywords

/-- The name in the declarations of what a path names. -/
def declaredName : ChangePath → List Char
  | directive name _ => '@' :: name
  | type name .. => name

/-- The name of the member, or nothing. -/
def member : ChangePath → List Char
  | directive .. => []
  | type _ member _ => member

/-- The name of the argument, or nothing. -/
def argument : ChangePath → List Char
  | directive _ argument => argument
  | type _ _ argument => argument

/-- The source declares, after masking, the definition that the path names. -/
def DeclaredIn (path : ChangePath) (source : String) : Prop :=
  ∃ keyword ∈ path.keywords, ∃ offset,
    DeclaredAt keyword path.declaredName (maskedSource source) offset

/-- The location is a line and column of the source, and there stands the argument that the
path names, or the member, or the keyword that opens a declaration of the definition. -/
def NamedAt (path : ChangePath) (source : String) (location : Location) : Prop :=
  1 ≤ location.line ∧ location.line ≤ (lines source.toList).length ∧ 1 ≤ location.column ∧
    ∃ line, (lines source.toList)[location.line - 1]? = some line ∧
      ((path.argument ≠ [] ∧ path.argument <+: line.drop (location.column - 1)) ∨
        (path.member ≠ [] ∧ path.member <+: line.drop (location.column - 1)) ∨
          ∃ keyword ∈ path.keywords, keyword <+: line.drop (location.column - 1) ∧
            ∃ offset, DeclaredAt keyword path.declaredName (maskedSource source) offset ∧
              positionAt offset (maskedSource source) = (location.line, location.column))

/-- At an offset of a text stands the argument that the path names, or the member, or a
declaration of the definition. -/
def StandsIn (path : ChangePath) (text : List Char) (offset : Nat) : Prop :=
  (path.argument ≠ [] ∧ IsWritten path.argument ∧ path.argument <+: text.drop offset) ∨
    (path.member ≠ [] ∧ IsWritten path.member ∧ path.member <+: text.drop offset) ∨
      ∃ keyword ∈ path.keywords, DeclaredAt keyword path.declaredName text offset

theorem isWritten_of_mem_keywords {path : ChangePath} {keyword : List Char}
    (h : keyword ∈ path.keywords) : IsWritten keyword := by
  have hnames : ("directive".toList :: typeKeywords).all isName = true := by decide
  refine isWritten_of_isName (List.all_eq_true.1 hnames keyword ?_)
  cases path with
  | directive => exact List.mem_cons.2 (.inl (List.mem_singleton.1 h))
  | type => exact List.mem_cons_of_mem _ h

/-! ## Offsets in a masked text -/

/-- No offset is found exactly if the text does not declare the definition. -/
theorem offsetIn_eq_none_iff {path : ChangePath} {text : List Char} :
    path.offsetIn text = none ↔
      ∀ keyword ∈ path.keywords, ∀ offset, ¬DeclaredAt keyword path.declaredName text offset := by
  cases path with
  | directive name argument =>
    rw [offsetIn, Option.map_eq_none_iff, findDirective_eq_none_iff, keywords,
      List.forall_mem_singleton]
    rfl
  | type name member argument =>
    rw [offsetIn, Option.map_eq_none_iff, findType_eq_none_iff]
    rfl

/-- Searching for the argument leads from what stands there to the argument, if anywhere. -/
theorem StandsIn.argumentOr {path : ChangePath} {text : List Char} {start : Nat}
    (h : path.StandsIn text start) (hargument : path.argument.isEmpty ≠ true) (stop : Nat) :
    path.StandsIn text ((findArgument path.argument stop (text.drop stop)).getD start) := by
  cases hsearch : findArgument path.argument stop (text.drop stop) with
  | none => exact h
  | some inner =>
    obtain ⟨hwritten, hstands⟩ := stands_findArgument hsearch
    exact .inl ⟨fun hnil => hargument (List.isEmpty_iff.2 hnil), hwritten, hstands.prefix_drop⟩

/-- At the offset that is found stands what the path names. -/
theorem standsIn_of_offsetIn {path : ChangePath} {text : List Char} {offset : Nat}
    (h : path.offsetIn text = some offset) : path.StandsIn text offset := by
  cases path with
  | directive name argument =>
    obtain ⟨found, hfound, rfl⟩ := Option.map_eq_some_iff.1 h
    have hdeclared : (directive name argument).StandsIn text found.start :=
      .inr (.inr ⟨_, List.mem_singleton.2 rfl, declaredAt_findDirective hfound⟩)
    split
    case isTrue => exact hdeclared
    case isFalse hargument => exact hdeclared.argumentOr hargument found.stop
  | type name member argument =>
    obtain ⟨found, hfound, rfl⟩ := Option.map_eq_some_iff.1 h
    obtain ⟨keyword, hk, hat⟩ := declaredAt_findType hfound
    have hdeclared : (type name member argument).StandsIn text found.start :=
      .inr (.inr ⟨keyword, hk, hat⟩)
    split
    case isTrue => exact hdeclared
    case isFalse hmember =>
      split
      case h_1 => exact hdeclared
      case h_2 start hsearch =>
        obtain ⟨hwritten, hstands⟩ := stands_findMember hsearch
        have hthere : (type name member argument).StandsIn text start :=
          .inr (.inl ⟨fun hnil => hmember (List.isEmpty_iff.2 hnil), hwritten,
            hstands.prefix_drop⟩)
        split
        case isTrue => exact hthere
        case isFalse hargument => exact hthere.argumentOr hargument (start + member.length)

/-! ## Lines and columns of a source -/

variable {path : ChangePath} {source : String}

/-- What stands at an offset of the masked text stands at its line and column of the source. -/
theorem exists_line_of_mask (source : String) (offset : Nat) :
    ∃ line, (lines source.toList)[(positionAt offset (maskedSource source)).1 - 1]? = some line ∧
      ∀ word, IsWritten word → word <+: (maskedSource source).drop offset →
        word <+: line.drop ((positionAt offset (maskedSource source)).2 - 1) := by
  obtain ⟨line, hline, hrest⟩ := exists_line_at offset (unifyBreaks source.toList)
  rw [maskedSource, positionAt_mask]
  refine ⟨line, hline, fun word hwritten hword => ?_⟩
  obtain ⟨after, hafter⟩ := prefix_drop_of_mask hwritten.space_notMem hword
  rw [hrest, ← hafter, List.takeWhile_append_of_pos]
  · exact List.prefix_append word _
  · exact fun c hc => bne_iff_ne.2 fun hfeed => hwritten.feed_notMem (hfeed ▸ hc)

/-- The position of what stands in the masked text is a location of what the path names. -/
theorem StandsIn.namedAt {offset : Nat} (h : path.StandsIn (maskedSource source) offset)
    (origin : Origin) :
    path.NamedAt source ⟨(positionAt offset (maskedSource source)).1,
      (positionAt offset (maskedSource source)).2, origin⟩ := by
  obtain ⟨line, hline, hwords⟩ := exists_line_of_mask source offset
  obtain ⟨hlt, -⟩ := List.getElem?_eq_some_iff.1 hline
  have hone : 1 ≤ (positionAt offset (maskedSource source)).1 := Nat.le_add_left 1 _
  refine ⟨hone, by dsimp only; omega, Nat.le_add_left 1 _, line, hline, ?_⟩
  rcases h with ⟨hne, hwritten, hword⟩ | ⟨hne, hwritten, hword⟩ | ⟨keyword, hk, hat⟩
  · exact .inl ⟨hne, hwords _ hwritten hword⟩
  · exact .inr (.inl ⟨hne, hwords _ hwritten hword⟩)
  · obtain ⟨-, blanks, after, htext, -⟩ := id hat
    have hword : keyword <+: (maskedSource source).drop offset := ⟨_, htext.symm⟩
    exact .inr (.inr ⟨keyword, hk, hwords _ (isWritten_of_mem_keywords hk) hword, offset, hat,
      rfl⟩)

/-- There is no location in a source exactly if there is no source, or it does not declare
the definition. -/
theorem locateIn_eq_none_iff {origin : Origin} {text : Option String} :
    path.locateIn origin text = none ↔
      ∀ source, text = some source → ¬path.DeclaredIn source := by
  cases text with
  | none => exact iff_of_true rfl nofun
  | some source =>
    have hoffset : path.locateIn origin (some source) = none ↔
        path.offsetIn (maskedSource source) = none := by
      cases hsearch : path.offsetIn (maskedSource source) <;> simp [locateIn, hsearch]
    rw [hoffset, offsetIn_eq_none_iff]
    constructor
    · rintro h found hfound ⟨keyword, hk, offset, hat⟩
      exact h keyword hk offset (Option.some.inj hfound ▸ hat)
    · exact fun h keyword hk offset hat => h source rfl ⟨keyword, hk, offset, hat⟩

/-- The location in a source. -/
theorem namedAt_of_locateIn {origin : Origin} {text : Option String} {location : Location}
    (h : path.locateIn origin text = some location) :
    location.origin = origin ∧ ∃ source, text = some source ∧ path.DeclaredIn source ∧
      path.NamedAt source location := by
  obtain ⟨source, rfl, hsource⟩ := Option.bind_eq_some_iff.1 h
  have hdeclared : path.DeclaredIn source := by
    by_contra hnot
    have hnone : path.locateIn origin (some source) = none :=
      locateIn_eq_none_iff.2 fun found hfound => Option.some.inj hfound ▸ hnot
    exact absurd (hnone.symm.trans h) nofun
  obtain ⟨offset, hoffset, hlocation⟩ := Option.bind_eq_some_iff.1 hsource
  obtain rfl := Option.some.inj hlocation
  exact ⟨rfl, source, rfl, hdeclared, (standsIn_of_offsetIn hoffset).namedAt origin⟩

end ChangePath

/-! ## Locations in two sources -/

/-- The text of the source in which something was found. -/
def Sources.text? (sources : Sources) : Origin → Option String
  | .new => sources.new
  | .old => sources.old
  | .fallback => none

theorem ChangePath.ofText?_eq_none_iff {text : List Char} :
    ChangePath.ofText? text = none ↔ text = [] := by
  constructor
  · intro h
    unfold ChangePath.ofText? at h
    split at h
    · rfl
    · exact absurd h nofun
    · exact absurd h nofun
  · rintro rfl
    rfl

/-- The location is that in the new source, or else that in the old one, or else the
fallback. -/
theorem locate_cases (sources : Sources) {path : String} {parts : ChangePath}
    (hparts : ChangePath.ofText? path.toList = some parts) :
    parts.locateIn .new sources.new = some (sources.locate path) ∨
      (parts.locateIn .new sources.new = none ∧
        parts.locateIn .old sources.old = some (sources.locate path)) ∨
      (parts.locateIn .new sources.new = none ∧ parts.locateIn .old sources.old = none ∧
        sources.locate path = .fallback) := by
  have hlocate : sources.locate path = ((parts.locateIn .new sources.new).or
      (parts.locateIn .old sources.old)).getD .fallback := by
    rw [Sources.locate, hparts]
  rw [hlocate]
  cases parts.locateIn .new sources.new with
  | some location => exact .inl rfl
  | none =>
    cases parts.locateIn .old sources.old with
    | some location => exact .inr (.inl ⟨rfl, rfl⟩)
    | none => exact .inr (.inr ⟨rfl, rfl, rfl⟩)

/-- **A location is real.**  The fallback is given exactly if the path is empty or no source
declares the definition, and the old source is used only if the new one does not declare it.
Every other location is a line and column of the source it names, and what the path names
stands there. -/
theorem locate_is_real (sources : Sources) (path : String) :
    (sources.locate path = .fallback ↔
      path = "" ∨ ∀ parts, ChangePath.ofText? path.toList = some parts →
        ∀ origin source, sources.text? origin = some source → ¬parts.DeclaredIn source) ∧
    ((sources.locate path).origin = .old →
      ∀ parts, ChangePath.ofText? path.toList = some parts →
        ∀ source, sources.new = some source → ¬parts.DeclaredIn source) ∧
    (sources.locate path = .fallback ∨
      ∃ parts source, ChangePath.ofText? path.toList = some parts ∧
        sources.text? (sources.locate path).origin = some source ∧
        parts.DeclaredIn source ∧ parts.NamedAt source (sources.locate path)) := by
  cases hparts : ChangePath.ofText? path.toList with
  | none =>
    have hempty : path = "" := String.toList_eq_nil_iff.1 (ChangePath.ofText?_eq_none_iff.1 hparts)
    have hfallback : sources.locate path = .fallback := by rw [Sources.locate, hparts]
    exact ⟨iff_of_true hfallback (.inl hempty), nofun, .inl hfallback⟩
  | some parts =>
    have hnonempty : path ≠ "" := by
      rintro rfl
      exact absurd hparts nofun
    simp only [Option.some.injEq, forall_eq', hnonempty, false_or]
    rcases locate_cases sources hparts with hnew | ⟨hnew, hold⟩ | ⟨hnew, hold, hfallback⟩
    · obtain ⟨horigin, source, hsource, hdeclared, hnamed⟩ := ChangePath.namedAt_of_locateIn hnew
      refine ⟨iff_of_false (fun h => ?_) fun h => h .new source hsource hdeclared,
        fun h => ?_, .inr ⟨parts, source, rfl, ?_, hdeclared, hnamed⟩⟩
      · rw [h] at horigin
        exact absurd horigin nofun
      · rw [h] at horigin
        exact absurd horigin nofun
      · rw [horigin]
        exact hsource
    · obtain ⟨horigin, source, hsource, hdeclared, hnamed⟩ := ChangePath.namedAt_of_locateIn hold
      refine ⟨iff_of_false (fun h => ?_) fun h => h .old source hsource hdeclared,
        fun _ => ChangePath.locateIn_eq_none_iff.1 hnew,
        .inr ⟨parts, source, rfl, ?_, hdeclared, hnamed⟩⟩
      · rw [h] at horigin
        exact absurd horigin nofun
      · rw [horigin]
        exact hsource
    · refine ⟨iff_of_true hfallback fun origin source hsource => ?_,
        fun _ => ChangePath.locateIn_eq_none_iff.1 hnew, .inl hfallback⟩
      cases origin with
      | new => exact ChangePath.locateIn_eq_none_iff.1 hnew source hsource
      | old => exact ChangePath.locateIn_eq_none_iff.1 hold source hsource
      | fallback => exact absurd hsource nofun

end SchemaDrift
