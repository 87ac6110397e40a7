import SchemaDrift.Proofs.Text.Lines
import SchemaDrift.Text.Name

/-!
# Where names start and end

* `endsInName` — whether a text ends inside a name.
* `isQuiet` — texts in which no name starts.
* `endsInName_unifyBreaks`, `isQuiet_unifyBreaks` — line ends may be written as line feeds.
-/

namespace SchemaDrift.Text

/-! ## Names -/

theorem exists_of_isName {name : List Char} (h : isName name = true) :
    ∃ c more, name = c :: more ∧ isNameStart c = true ∧ ∀ d ∈ more, isNameChar d = true := by
  cases name with
  | nil => exact absurd h Bool.false_ne_true
  | cons c more =>
    rw [isName, Bool.and_eq_true, List.all_eq_true] at h
    exact ⟨c, more, rfl, h.1, h.2⟩

theorem forall_isNameChar_of_isName {name : List Char} (h : isName name = true) :
    ∀ c ∈ name, isNameChar c = true := by
  obtain ⟨c, more, rfl, hc, hmore⟩ := exists_of_isName h
  exact List.forall_mem_cons.2 ⟨isNameChar_of_isNameStart hc, hmore⟩

/-! ## Texts without names -/

/-- Is a name character the last, where `inName` tells this of what comes before the text? -/
def endsInName (inName : Bool) (text : List Char) : Bool :=
  text.foldl (fun _ c => isNameChar c) inName

/-- Does no name start in the text, where `inName` tells whether a name character comes
before it? -/
def isQuiet : Bool → List Char → Bool
  | _, [] => true
  | inName, c :: rest => (inName || !isNameStart c) && isQuiet (isNameChar c) rest

@[simp] theorem endsInName_nil (inName : Bool) : endsInName inName [] = inName := rfl

@[simp] theorem endsInName_cons (inName : Bool) (c : Char) (rest : List Char) :
    endsInName inName (c :: rest) = endsInName (isNameChar c) rest := rfl

theorem endsInName_append (inName : Bool) (front rest : List Char) :
    endsInName inName (front ++ rest) = endsInName (endsInName inName front) rest :=
  List.foldl_append

theorem endsInName_congr {text : List Char} (h : text ≠ []) (one other : Bool) :
    endsInName one text = endsInName other text := by
  cases text with
  | nil => exact absurd rfl h
  | cons => rfl

theorem isQuiet_append (inName : Bool) (front rest : List Char) :
    isQuiet inName (front ++ rest) =
      (isQuiet inName front && isQuiet (endsInName inName front) rest) := by
  induction front generalizing inName with
  | nil => simp [isQuiet]
  | cons c front ih => simp [isQuiet, ih, Bool.and_assoc]

theorem isQuiet_of_isQuiet_false {text : List Char} (h : isQuiet false text = true)
    (inName : Bool) : isQuiet inName text = true := by
  cases text with
  | nil => rfl
  | cons c rest =>
    simp only [isQuiet, Bool.false_or, Bool.and_eq_true] at h
    simp [isQuiet, h]

/-- Name characters after others start no name. -/
theorem isQuiet_true_of_nameChars {text : List Char} (h : ∀ c ∈ text, isNameChar c = true) :
    isQuiet true text = true ∧ endsInName true text = true := by
  induction text with
  | nil => exact ⟨rfl, rfl⟩
  | cons c rest ih =>
    obtain ⟨hc, hrest⟩ := List.forall_mem_cons.1 h
    simp [isQuiet, hc, ih hrest]

/-! ## Line ends -/

theorem endsInName_unifyBreaks (inName : Bool) (text : List Char) :
    endsInName inName (unifyBreaks text) = endsInName inName text := by
  fun_induction unifyBreaks text generalizing inName with
  | case1 => rfl
  | case2 rest ih => exact ih _
  | case3 rest _ ih => exact ih _
  | case4 c rest _ _ ih => exact ih _

theorem isQuiet_unifyBreaks {inName : Bool} {text : List Char} (h : isQuiet inName text = true) :
    isQuiet inName (unifyBreaks text) = true := by
  have hfeed (inName : Bool) (rest : List Char) :
      isQuiet inName ('\n' :: rest) = isQuiet false rest := by
    cases inName <;> rfl
  have hreturn (inName : Bool) (rest : List Char) :
      isQuiet inName ('\r' :: rest) = isQuiet false rest := by
    cases inName <;> rfl
  fun_induction unifyBreaks text generalizing inName with
  | case1 => rfl
  | case2 rest ih =>
    rw [hreturn, hfeed] at h
    rw [hfeed]
    exact ih h
  | case3 rest _ ih =>
    rw [hreturn] at h
    rw [hfeed]
    exact ih h
  | case4 c rest _ _ ih =>
    simp only [isQuiet, Bool.and_eq_true] at h ⊢
    exact ⟨h.1, ih h.2⟩

end SchemaDrift.Text
