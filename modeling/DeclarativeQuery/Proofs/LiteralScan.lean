import DeclarativeQuery.Sql.Condition

/-!
Query text as a database reads it, as far as literals go. A literal starts at a single quote; inside
it two quotes in a row stand for one, and the next quote by itself ends it. A literal that ends at a
quote goes on if another one follows, so what a part of a text holds depends on the character after
it. The laws of parts are therefore stated before any text that does not start with a quote.
-/

namespace DeclarativeQuery.Sql

/-- A character outside of literals, or a whole literal by the text that it stands for. -/
inductive Lexeme where
  | plain (c : Char)
  | literal (text : List Char)

namespace Lexeme

def text? : Lexeme → Option String
  | .plain _ => none
  | .literal text => some (String.ofList text)

def blanked : Lexeme → List Char
  | .plain c => [c]
  | .literal _ => ['\'', '\'']

end Lexeme

inductive Place where
  | outside
  | inside (text : List Char)
  /-- Behind a quote that ends the literal unless another one follows. -/
  | closing (text : List Char)

def scan : Place → List Char → Option (List Lexeme)
  | .outside, [] => some []
  | .inside _, [] => none
  | .closing text, [] => some [.literal text]
  | .outside, c :: rest =>
      if c = '\'' then scan (.inside []) rest else (scan .outside rest).map (.plain c :: ·)
  | .inside text, c :: rest =>
      if c = '\'' then scan (.closing text) rest else scan (.inside (text ++ [c])) rest
  | .closing text, c :: rest =>
      -- a second quote stands for one of the text, and the literal goes on
      if c = '\'' then scan (.inside (text ++ ['\''])) rest
      else (scan .outside rest).map fun lexemes => .literal text :: .plain c :: lexemes
termination_by structural _ text => text

def lexemes? (text : String) : Option (List Lexeme) := scan .outside text.toList

def literalTexts? (text : String) : Option (List String) :=
  (lexemes? text).map fun lexemes => lexemes.filterMap Lexeme.text?

def blanked? (text : String) : Option String :=
  (lexemes? text).map fun lexemes => String.ofList (lexemes.flatMap Lexeme.blanked)

def quoteFree (text : String) : Bool := !text.toList.contains '\''

theorem quoteFree_iff {text : String} : quoteFree text = true ↔ '\'' ∉ text.toList := by
  simp [quoteFree]

def Apart (text : List Char) : Prop := text.head? ≠ some '\''

theorem apart_append {first second : List Char} (before : Apart first) (after : Apart second) :
    Apart (first ++ second) := by
  cases first with
  | nil => exact after
  | cons c rest => exact before

theorem scan_plain {text : List Char} (clear : '\'' ∉ text) (rest : List Char) :
    scan .outside (text ++ rest) = (scan .outside rest).map (text.map Lexeme.plain ++ ·) := by
  induction text with
  | nil => simp
  | cons c text ih =>
      have onward := ih (List.not_mem_of_not_mem_cons clear)
      have plain : c ≠ '\'' := fun quote => clear (quote ▸ List.mem_cons_self)
      simp only [List.cons_append, scan, plain, ↓reduceIte, onward, Option.map_map, List.map_cons]
      rfl

theorem scan_doubleQuotes (seen text rest : List Char) :
    scan (.inside seen) (doubleQuotes text ++ rest) = scan (.inside (seen ++ text)) rest := by
  -- a doubled quote leads out of the literal and back into it, so two steps make one character
  induction text generalizing seen with
  | nil => simp [doubleQuotes]
  | cons c text ih =>
      have cut : doubleQuotes (c :: text) =
          (if c = '\'' then ['\'', '\''] else [c]) ++ doubleQuotes text := rfl
      have onward := ih (seen ++ [c])
      rw [List.append_assoc, List.singleton_append] at onward
      by_cases quote : c = '\''
      · subst quote
        rw [cut, ← onward]
        rfl
      · rw [cut, ← onward]
        simp [quote, scan]

/-- Behind its last quote a literal is over if no further quote comes next. -/
theorem scan_closing (text : List Char) {rest : List Char} (apart : Apart rest) :
    scan (.closing text) rest = (scan .outside rest).map (.literal text :: ·) := by
  cases rest with
  | nil => rfl
  | cons c rest =>
      have plain : c ≠ '\'' := by simpa [Apart] using apart
      simp only [scan, plain, ↓reduceIte, Option.map_map]
      rfl

theorem scan_quotedLiteral (text : String) {rest : List Char} (apart : Apart rest) :
    scan .outside ((quotedLiteral text).toList ++ rest) =
      (scan .outside rest).map (.literal text.toList :: ·) := by
  have spelled : (quotedLiteral text).toList ++ rest =
      '\'' :: (doubleQuotes text.toList ++ '\'' :: rest) := by
    simp [quotedLiteral]
  rw [spelled]
  calc scan .outside ('\'' :: (doubleQuotes text.toList ++ '\'' :: rest))
      = scan (.inside []) (doubleQuotes text.toList ++ '\'' :: rest) := rfl
    _ = scan (.inside text.toList) ('\'' :: rest) := scan_doubleQuotes [] text.toList _
    _ = scan (.closing text.toList) rest := rfl
    _ = (scan .outside rest).map (.literal text.toList :: ·) := scan_closing text.toList apart

/-- The text holds these literals wherever it stands, and `blank` is the rest of it. -/
def Marks (text : String) (literals : List String) (blank : String) : Prop :=
  ∃ lexemes : List Lexeme,
    (∀ rest, Apart rest →
      scan .outside (text.toList ++ rest) = (scan .outside rest).map (lexemes ++ ·)) ∧
    lexemes.filterMap Lexeme.text? = literals ∧
    String.ofList (lexemes.flatMap Lexeme.blanked) = blank

namespace Marks

variable {text first second blank firstBlank secondBlank : String}
variable {literals firstLiterals secondLiterals : List String}

theorem literalTexts?_eq (marks : Marks text literals blank) :
    literalTexts? text = some literals := by
  obtain ⟨lexemes, reads, same, _⟩ := marks
  have read := reads [] (by simp [Apart])
  rw [List.append_nil] at read
  simp [literalTexts?, lexemes?, read, scan, same]

theorem blanked?_eq (marks : Marks text literals blank) : blanked? text = some blank := by
  obtain ⟨lexemes, reads, _, same⟩ := marks
  have read := reads [] (by simp [Apart])
  rw [List.append_nil] at read
  simp [blanked?, lexemes?, read, scan, ← same]

theorem plain (clear : quoteFree text = true) : Marks text [] text := by
  refine ⟨text.toList.map Lexeme.plain, fun rest _ => scan_plain (quoteFree_iff.mp clear) rest,
    ?_, ?_⟩
  · simp [List.filterMap_map, Function.comp_def, Lexeme.text?]
  · simp [List.flatMap_map, Lexeme.blanked]

theorem quoted (text : String) : Marks (quotedLiteral text) [text] "''" := by
  refine ⟨[.literal text.toList], fun rest apart => scan_quotedLiteral text apart, ?_, rfl⟩
  simp [Lexeme.text?]

theorem append (before : Marks first firstLiterals firstBlank)
    (after : Marks second secondLiterals secondBlank) (apart : Apart second.toList) :
    Marks (first ++ second) (firstLiterals ++ secondLiterals) (firstBlank ++ secondBlank) := by
  rcases before with ⟨firstLexemes, firstReads, firstTexts, firstRest⟩
  rcases after with ⟨secondLexemes, secondReads, secondTexts, secondRest⟩
  refine ⟨firstLexemes ++ secondLexemes, ?_, ?_, ?_⟩
  · intro rest restApart
    rw [String.toList_append, List.append_assoc, firstReads _ (apart_append apart restApart),
      secondReads rest restApart, Option.map_map]
    simp only [Function.comp_def, List.append_assoc]
  · rw [List.filterMap_append, firstTexts, secondTexts]
  · rw [List.flatMap_append, String.ofList_append, firstRest, secondRest]

/-- Plain text never runs into a literal after it. -/
theorem after (clear : quoteFree first = true) (marks : Marks text literals blank) :
    Marks (first ++ text) literals (first ++ blank) := by
  rcases marks with ⟨lexemes, reads, texts, rest⟩
  refine ⟨first.toList.map Lexeme.plain ++ lexemes, ?_, ?_, ?_⟩
  · intro tail apart
    rw [String.toList_append, List.append_assoc, scan_plain (quoteFree_iff.mp clear),
      reads tail apart, Option.map_map]
    simp only [Function.comp_def, List.append_assoc]
  · rw [List.filterMap_append, texts, List.filterMap_map]
    simp [Function.comp_def, Lexeme.text?]
  · rw [List.flatMap_append, String.ofList_append, rest, List.flatMap_map]
    simp [Lexeme.blanked]

/-- Plain text may follow a literal. -/
theorem followed (marks : Marks text literals blank) (clear : quoteFree second = true) :
    Marks (text ++ second) literals (blank ++ second) := by
  have apart : Apart second.toList := by
    intro quote
    exact quoteFree_iff.mp clear (List.mem_of_head? quote)
  simpa using marks.append (plain clear) apart

/-- Plain text between two others keeps their literals apart. -/
theorem parted (before : Marks first firstLiterals firstBlank) (separator : String)
    (clear : quoteFree separator = true) (some : separator ≠ "")
    (next : Marks second secondLiterals secondBlank) :
    Marks (first ++ separator ++ second) (firstLiterals ++ secondLiterals)
      (firstBlank ++ separator ++ secondBlank) := by
  have apart : Apart (separator ++ second).toList := by
    rw [Apart, String.toList_append]
    cases spelled : separator.toList with
    | nil => exact absurd (String.toList_eq_nil_iff.mp spelled) some
    | cons c rest =>
        intro quote
        have clear := quoteFree_iff.mp clear
        rw [spelled] at clear
        exact clear (List.mem_of_head? quote)
  rw [String.append_assoc, String.append_assoc]
  exact before.append (next.after clear) apart

end Marks

end DeclarativeQuery.Sql
