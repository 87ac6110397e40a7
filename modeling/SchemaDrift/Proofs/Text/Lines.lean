import SchemaDrift.Text.Lines

/-!
# Lines and their ends

* `unifyBreaks_append_of_notMem`, `unifyBreaks_append_of_head` — line ends are written as line
  feeds in one part of a text after the other.
* `splitAtFeeds_append_feed`, `splitAtFeeds_of_notMem` — the lines of a text, one by one.
* `length_splitAtFeeds` — how many they are.
* `toList_intercalate_cons_cons` — lines put together.
* `EndedLine`, `endedLines` — the lines of a text, each with what ends it.
* `InLines` — a text made of such lines.
-/

namespace SchemaDrift.Text

/-! ## Line ends as line feeds -/

theorem unifyBreaks_cons {c : Char} (h : c ≠ '\r') (rest : List Char) :
    unifyBreaks (c :: rest) = c :: unifyBreaks rest := by
  rw [unifyBreaks]
  · exact fun _ hc _ => h hc
  · exact h

/-- A carriage return counts as a line feed, or not at all if one follows. -/
theorem unifyBreaks_return (rest : List Char) :
    unifyBreaks ('\r' :: rest) =
      if rest.head? = some '\n' then unifyBreaks rest else '\n' :: unifyBreaks rest := by
  cases rest with
  | nil => rfl
  | cons c rest =>
    by_cases hc : c = '\n'
    · subst hc
      rfl
    · rw [List.head?_cons, if_neg (fun h => hc (Option.some.inj h)), unifyBreaks]
      exact fun _ heq => hc (List.cons.inj heq).1

theorem head?_unifyBreaks_return (rest : List Char) :
    (unifyBreaks ('\r' :: rest)).head? = some '\n' := by
  rw [unifyBreaks_return]
  split
  case isFalse => rfl
  case isTrue h =>
    cases rest with
    | nil => exact absurd h nofun
    | cons c rest =>
      obtain rfl := Option.some.inj h
      rfl

/-- No carriage return is left. -/
theorem return_notMem_unifyBreaks (text : List Char) : '\r' ∉ unifyBreaks text := by
  fun_induction unifyBreaks text with
  | case1 => exact List.not_mem_nil
  | case2 rest ih => exact List.not_mem_cons_of_ne_of_not_mem (by decide) ih
  | case3 rest _ ih => exact List.not_mem_cons_of_ne_of_not_mem (by decide) ih
  | case4 c rest _ hreturn ih => exact List.not_mem_cons_of_ne_of_not_mem (Ne.symm hreturn) ih

theorem unifyBreaks_append_of_notMem {front : List Char} (h : '\r' ∉ front)
    (rest : List Char) : unifyBreaks (front ++ rest) = front ++ unifyBreaks rest := by
  induction front with
  | nil => rfl
  | cons c front ih =>
    rw [List.mem_cons, not_or] at h
    rw [List.cons_append, unifyBreaks_cons (Ne.symm h.1), ih h.2, List.cons_append]

theorem unifyBreaks_append_of_head {rest : List Char} (h : rest.head? ≠ some '\n')
    (front : List Char) : unifyBreaks (front ++ rest) = unifyBreaks front ++ unifyBreaks rest := by
  induction front with
  | nil => rfl
  | cons c front ih =>
    by_cases hc : c = '\r'
    · subst hc
      have hhead : (front ++ rest).head? = some '\n' ↔ front.head? = some '\n' := by
        cases front with
        | nil => exact iff_of_false h nofun
        | cons => rfl
      rw [List.cons_append, unifyBreaks_return, unifyBreaks_return, ih]
      simp only [hhead]
      split <;> rfl
    · rw [List.cons_append, unifyBreaks_cons hc, unifyBreaks_cons hc, ih, List.cons_append]

theorem unifyBreaks_append_congr {one other : List Char} (h : unifyBreaks one = unifyBreaks other)
    (hhead : one.head? = some '\n' ↔ other.head? = some '\n') (front : List Char) :
    unifyBreaks (front ++ one) = unifyBreaks (front ++ other) := by
  induction front with
  | nil => exact h
  | cons c front ih =>
    by_cases hc : c = '\r'
    · subst hc
      have hheads : (front ++ one).head? = some '\n' ↔ (front ++ other).head? = some '\n' := by
        cases front with
        | nil => exact hhead
        | cons => rfl
      rw [List.cons_append, List.cons_append, unifyBreaks_return, unifyBreaks_return, ih]
      simp only [hheads]
    · rw [List.cons_append, List.cons_append, unifyBreaks_cons hc, unifyBreaks_cons hc, ih]

/-- Writing line ends as line feeds brings nothing to the front that ends no line. -/
theorem prefix_of_prefix_unifyBreaks {opening text : List Char}
    (hopening : ∀ c ∈ opening, isBreak c = false) (h : opening <+: unifyBreaks text) :
    opening <+: text := by
  induction opening generalizing text with
  | nil => exact List.nil_prefix
  | cons c opening ih =>
    obtain ⟨hc, hmore⟩ := List.forall_mem_cons.1 hopening
    cases text with
    | nil => exact absurd (List.prefix_nil.1 h) nofun
    | cons d text =>
      by_cases hd : d = '\r'
      · subst hd
        obtain ⟨more, hmore⟩ := h
        have hhead := head?_unifyBreaks_return text
        rw [← hmore] at hhead
        exact absurd (Option.some.inj hhead ▸ hc) (by decide)
      · rw [unifyBreaks_cons hd, List.cons_prefix_cons] at h
        exact List.cons_prefix_cons.2 ⟨h.1, ih hmore h.2⟩

theorem head?_of_head?_unifyBreaks {text : List Char} {c : Char} (hc : isBreak c = false)
    (h : (unifyBreaks text).head? = some c) : text.head? = some c := by
  have hprefix : [c] <+: unifyBreaks text := List.singleton_prefix_iff_head?_eq_some.2 h
  exact List.singleton_prefix_iff_head?_eq_some.1
    (prefix_of_prefix_unifyBreaks (List.forall_mem_singleton.2 hc) hprefix)

/-- What starts with a line end or not at all still does so. -/
theorem forall_head?_unifyBreaks {text : List Char}
    (h : ∀ c, text.head? = some c → isBreak c = true) :
    ∀ c, (unifyBreaks text).head? = some c → isBreak c = true := by
  intro c hc
  cases hbreak : isBreak c with
  | true => rfl
  | false => exact hbreak ▸ h c (head?_of_head?_unifyBreaks hbreak hc)

/-! ## Lines one by one -/

/-- A text without line feeds is one line. -/
theorem splitAtFeeds_of_notMem {line : List Char} (h : '\n' ∉ line) :
    splitAtFeeds line = [line] := by
  induction line with
  | nil => rfl
  | cons c rest ih =>
    rw [List.mem_cons, not_or] at h
    rw [splitAtFeeds, if_neg (Ne.symm h.1), ih h.2]

/-- The lines before and after a line feed are those of the whole. -/
theorem splitAtFeeds_append_feed (before after : List Char) :
    splitAtFeeds (before ++ '\n' :: after) = splitAtFeeds before ++ splitAtFeeds after := by
  induction before with
  | nil => rfl
  | cons c rest ih =>
    rw [List.cons_append, splitAtFeeds, splitAtFeeds]
    by_cases hc : c = '\n'
    · rw [if_pos hc, if_pos hc, ih, List.cons_append]
    · rw [if_neg hc, if_neg hc, ih]
      cases hs : splitAtFeeds rest with
      | nil => exact absurd hs (splitAtFeeds_ne_nil rest)
      | cons line more => rfl

/-- There is one line more than line feeds. -/
theorem length_splitAtFeeds (text : List Char) :
    (splitAtFeeds text).length = text.count '\n' + 1 := by
  induction text with
  | nil => rfl
  | cons c rest ih =>
    rw [splitAtFeeds, List.count_cons]
    by_cases hc : c = '\n'
    · simp [hc, ih]
    · rw [if_neg hc]
      cases hs : splitAtFeeds rest with
      | nil => exact absurd hs (splitAtFeeds_ne_nil rest)
      | cons line more =>
        rw [hs] at ih
        simpa [hc] using ih

/-- What is put together from lines has a line feed after each but the last. -/
theorem toList_intercalate_cons_cons (line next : String) (rest : List String) :
    (String.intercalate "\n" (line :: next :: rest)).toList =
      line.toList ++ '\n' :: (String.intercalate "\n" (next :: rest)).toList := by
  rw [String.intercalate_cons_cons, String.toList_append, String.toList_append,
    List.append_assoc]
  rfl

/-! ## Lines with their ends -/

/-- A line with what ends it; nothing ends the last one. -/
structure EndedLine where
  content : List Char
  ending : List Char
  deriving DecidableEq, Repr

/-- The lines of a text, each with what ends it. -/
def endedLines : List Char → List EndedLine
  | [] => [⟨[], []⟩]
  | '\r' :: '\n' :: rest => ⟨[], ['\r', '\n']⟩ :: endedLines rest
  | c :: rest =>
    if isBreak c then ⟨[], [c]⟩ :: endedLines rest
    else match endedLines rest with
      | [] => [⟨[c], []⟩]
      | line :: more => ⟨c :: line.content, line.ending⟩ :: more

/-- The characters end a line, whatever follows them: a carriage return with a line feed after
it does so only together with that. -/
inductive EndsLine : List Char → List Char → Prop where
  | feed (rest : List Char) : EndsLine ['\n'] rest
  | lone {rest : List Char} (notFeed : rest.head? ≠ some '\n') : EndsLine ['\r'] rest
  | both (rest : List Char) : EndsLine ['\r', '\n'] rest

/-- A text consists of the lines, one after the other. -/
inductive InLines : List Char → List EndedLine → Prop where
  | last {content : List Char} (oneLine : ∀ c ∈ content, isBreak c = false) :
      InLines content [⟨content, []⟩]
  | cons {content ending rest : List Char} {lines : List EndedLine}
      (oneLine : ∀ c ∈ content, isBreak c = false) (ends : EndsLine ending rest)
      (more : InLines rest lines) :
      InLines (content ++ (ending ++ rest)) (⟨content, ending⟩ :: lines)

theorem return_notMem_of_isBreak {text : List Char} (h : ∀ c ∈ text, isBreak c = false) :
    '\r' ∉ text := fun hm => absurd (h '\r' hm) (by decide)

theorem EndsLine.isBreak_head {ending rest : List Char} (h : EndsLine ending rest)
    (more : List Char) : ∀ c, (ending ++ more).head? = some c → isBreak c = true := by
  cases h <;> (rintro c ⟨⟩; decide)

/-- Whatever ends a line is written as one line feed. -/
theorem EndsLine.unifyBreaks_append {ending rest : List Char} (h : EndsLine ending rest) :
    unifyBreaks (ending ++ rest) = '\n' :: unifyBreaks rest := by
  cases h with
  | feed => exact unifyBreaks_cons (by decide) rest
  | lone hfeed => exact (unifyBreaks_return rest).trans (if_neg hfeed)
  | both => rfl

theorem unifyBreaks_line_append {content ending rest : List Char} (hline : '\r' ∉ content)
    (ends : EndsLine ending rest) :
    unifyBreaks (content ++ (ending ++ rest)) = content ++ '\n' :: unifyBreaks rest := by
  rw [unifyBreaks_append_of_notMem hline, ends.unifyBreaks_append]

theorem InLines.prepend {c : Char} (hc : isBreak c = false) {rest : List Char} {line : EndedLine}
    {more : List EndedLine} (h : InLines rest (line :: more)) :
    InLines (c :: rest) (⟨c :: line.content, line.ending⟩ :: more) := by
  cases h with
  | last oneLine => exact .last (List.forall_mem_cons.2 ⟨hc, oneLine⟩)
  | cons oneLine ends more => exact .cons (List.forall_mem_cons.2 ⟨hc, oneLine⟩) ends more

theorem inLines_endedLines (text : List Char) : InLines text (endedLines text) := by
  fun_induction endedLines text with
  | case1 => exact .last (List.forall_mem_nil _)
  | case2 rest ih => exact .cons (List.forall_mem_nil _) (.both rest) ih
  | case3 c rest hboth hbreak ih =>
    show InLines ([] ++ ([c] ++ rest)) _
    refine .cons (List.forall_mem_nil _) ?_ ih
    have hc : c = '\n' ∨ c = '\r' := by simpa [isBreak] using hbreak
    rcases hc with rfl | rfl
    · exact .feed rest
    · refine .lone fun hhead => ?_
      cases rest with
      | nil => exact nomatch hhead
      | cons d more => exact hboth more rfl (congrArg (· :: more) (Option.some.inj hhead))
  | case4 c rest hboth hbreak hnil ih => rw [hnil] at ih; exact nomatch ih
  | case5 c rest hboth hbreak line more heq ih =>
    rw [heq] at ih
    exact ih.prepend (Bool.eq_false_iff.2 hbreak)

end SchemaDrift.Text
