import Mathlib.Data.List.Infix
import DeclarativeQuery.Filter

/-!
What the pattern of a search finds. A pattern is matched as LIKE matches it: `%` stands for any text
and `_` for any one character. The pattern of a search text asks for the words of the text, in their
order and apart from each other; a word that holds one of the two characters is found in more places
than its own.
-/

namespace DeclarativeQuery

namespace Text

/-! Words. -/

/-- The maximal runs of characters that are not blank. Before a run there are blanks only, and what
comes behind it begins with one. -/
inductive Runs : List Char → List (List Char) → Prop
  | blank {text : List Char} (blank : ∀ c ∈ text, isBlank c = true) : Runs text []
  | word {before word after : List Char} {words : List (List Char)}
      (blank : ∀ c ∈ before, isBlank c = true) (filled : word ≠ [])
      (solid : ∀ c ∈ word, isBlank c = false) (ends : ∀ c ∈ after.head?, isBlank c = true)
      (rest : Runs after words) : Runs (before ++ word ++ after) (word :: words)

theorem words_append_cons {c : Char} (blank : isBlank c = true) (before after : List Char) :
    words (before ++ c :: after) = words before ++ words after := by
  unfold words
  rw [List.splitOnP_append_cons before after blank, List.filter_append]

theorem words_append_of_blank {before : List Char} (blank : ∀ c ∈ before, isBlank c = true)
    (text : List Char) : words (before ++ text) = words text := by
  induction before with
  | nil => rfl
  | cons c before ih =>
      obtain ⟨first, others⟩ := List.forall_mem_cons.mp blank
      calc words (c :: before ++ text)
          = words [] ++ words (before ++ text) := words_append_cons first [] (before ++ text)
        _ = words (before ++ text) := by simp [words]
        _ = words text := ih others

theorem words_of_solid {word : List Char} (filled : word ≠ [])
    (solid : ∀ c ∈ word, isBlank c = false) : words word = [word] := by
  rw [words, List.splitOnP_eq_singleton solid]
  simp [filled]

theorem Runs.words_eq {text : List Char} {runs : List (List Char)} (cut : Runs text runs) :
    words text = runs := by
  induction cut with
  | blank blank => simpa [words] using words_append_of_blank blank []
  | @word before word after runs blank filled solid ends rest ih =>
      rw [List.append_assoc, words_append_of_blank blank]
      cases after with
      | nil =>
          have none : runs = [] := by simpa [words] using ih.symm
          rw [List.append_nil, words_of_solid filled solid, none]
      | cons c after =>
          have first : isBlank c = true := ends c rfl
          have onward := words_append_of_blank (List.forall_mem_singleton.mpr first) after
          rw [words_append_cons first, words_of_solid filled solid, ← onward]
          exact congrArg (word :: ·) ih

theorem Runs.cons_of_blank {c : Char} {text : List Char} {runs : List (List Char)}
    (blank : isBlank c = true) (cut : Runs text runs) : Runs (c :: text) runs := by
  cases cut with
  | blank others => exact .blank (List.forall_mem_cons.mpr ⟨blank, others⟩)
  | word others filled solid ends rest =>
      exact .word (List.forall_mem_cons.mpr ⟨blank, others⟩) filled solid ends rest

/-- A character that is not blank lengthens the run behind it, or makes one of its own. -/
theorem Runs.cons_of_solid {c : Char} {text : List Char} {runs : List (List Char)}
    (first : isBlank c = false) (cut : Runs text runs) : ∃ longer, Runs (c :: text) longer := by
  have alone : ∀ d ∈ [c], isBlank d = false := List.forall_mem_singleton.mpr first
  have none : ∀ d ∈ ([] : List Char), isBlank d = true := List.forall_mem_nil _
  cases cut with
  | blank blank =>
      have ends : ∀ d ∈ text.head?, isBlank d = true := fun d head =>
        blank d (List.mem_of_mem_head? head)
      exact ⟨_, .word none (List.cons_ne_nil c []) alone ends (.blank blank)⟩
  | @word before word after runs blank filled solid ends rest =>
      cases before with
      | nil =>
          have longer : ∀ d ∈ c :: word, isBlank d = false :=
            List.forall_mem_cons.mpr ⟨first, solid⟩
          exact ⟨_, .word none (List.cons_ne_nil c word) longer ends rest⟩
      | cons d before =>
          have parted : ∀ e ∈ (d :: before ++ word ++ after).head?, isBlank e = true := by
            rintro e ⟨⟩
            exact blank d List.mem_cons_self
          exact ⟨_, .word none (List.cons_ne_nil c []) alone parted
            (.word blank filled solid ends rest)⟩

theorem exists_runs (text : List Char) : ∃ runs, Runs text runs := by
  induction text with
  | nil => exact ⟨[], .blank (List.forall_mem_nil _)⟩
  | cons c text ih =>
      obtain ⟨runs, cut⟩ := ih
      cases first : isBlank c with
      | true => exact ⟨runs, cut.cons_of_blank first⟩
      | false => exact cut.cons_of_solid first

theorem runs_iff {text : List Char} {runs : List (List Char)} :
    Runs text runs ↔ runs = words text := by
  constructor
  · intro cut
    exact cut.words_eq.symm
  · intro same
    obtain ⟨known, cut⟩ := exists_runs text
    rwa [same, cut.words_eq]

theorem Runs.solid {text : List Char} {runs : List (List Char)} (cut : Runs text runs) :
    ∀ word ∈ runs, ∀ c ∈ word, isBlank c = false := by
  induction cut with
  | blank => exact List.forall_mem_nil _
  | word _ _ solid _ _ ih => exact List.forall_mem_cons.mpr ⟨solid, ih⟩

/-- The text has the words in this order, none of them reaching into the next. -/
def InOrder : List (List Char) → List Char → Prop
  | [], _ => True
  | word :: words, text => ∃ before after, text = before ++ word ++ after ∧ InOrder words after

end Text

namespace Sql

/-! Patterns. -/

def like : List Char → List Char → Bool
  | [], text => text.isEmpty
  | c :: pattern, text =>
      if c = '%' then text.tails.any (like pattern)
      else match text with
        | [] => false
        | d :: rest => (c == '_' || c == d) && like pattern rest
termination_by structural pattern => pattern

variable {pattern text word : List Char}

theorem like_percent :
    like ('%' :: pattern) text = true ↔
      ∃ before after, text = before ++ after ∧ like pattern after = true := by
  simp only [like, ↓reduceIte, List.any_eq_true, List.mem_tails]
  constructor
  · rintro ⟨after, ⟨before, same⟩, fits⟩
    exact ⟨before, after, same.symm, fits⟩
  · rintro ⟨before, after, same, fits⟩
    exact ⟨after, ⟨before, same.symm⟩, fits⟩

/-- Whatever its characters stand for, a word finds itself. -/
theorem like_append_self (fits : like pattern text = true) (word : List Char) :
    like (word ++ pattern) (word ++ text) = true := by
  induction word with
  | nil => exact fits
  | cons c word ih =>
      by_cases percent : c = '%'
      · subst percent
        exact like_percent.mpr ⟨['%'], word ++ text, rfl, ih⟩
      · simpa [like, percent] using ih

/-- A word that holds neither of the two characters finds nothing else. -/
theorem like_append_of_plain (plain : '%' ∉ word ∧ '_' ∉ word)
    (fits : like (word ++ pattern) text = true) :
    ∃ after, text = word ++ after ∧ like pattern after = true := by
  induction word generalizing text with
  | nil => exact ⟨text, rfl, fits⟩
  | cons c word ih =>
      simp only [List.mem_cons, not_or] at plain
      obtain ⟨⟨percent, noPercent⟩, underscore, noUnderscore⟩ := plain
      cases text with
      | nil => simp [like, Ne.symm percent] at fits
      | cons d text =>
          have other : (c == '_') = false := by simpa using Ne.symm underscore
          simp only [List.cons_append, like, Ne.symm percent, other, ↓reduceIte, Bool.false_or,
            Bool.and_eq_true, beq_iff_eq] at fits
          obtain ⟨same, fits⟩ := fits
          obtain ⟨after, split, fits⟩ := ih ⟨noPercent, noUnderscore⟩ fits
          exact ⟨after, by rw [same, split, List.cons_append], fits⟩

def gaps (words : List (List Char)) : List Char := words.flatMap ('%' :: ·) ++ ['%']

theorem like_gaps_of_inOrder {words : List (List Char)} (held : Text.InOrder words text) :
    like (gaps words) text = true := by
  induction words generalizing text with
  | nil => exact like_percent.mpr ⟨text, [], by simp, rfl⟩
  | cons word words ih =>
      obtain ⟨before, after, same, held⟩ := held
      have found := like_append_self (ih held) word
      rw [List.append_assoc] at same
      simpa [gaps] using like_percent.mpr ⟨before, _, same, found⟩

theorem inOrder_of_like_gaps {words : List (List Char)}
    (plain : ∀ word ∈ words, '%' ∉ word ∧ '_' ∉ word) (fits : like (gaps words) text = true) :
    Text.InOrder words text := by
  induction words generalizing text with
  | nil => trivial
  | cons word words ih =>
      obtain ⟨first, others⟩ := List.forall_mem_cons.mp plain
      have shape : gaps (word :: words) = '%' :: (word ++ gaps words) := by simp [gaps]
      rw [shape, like_percent] at fits
      obtain ⟨before, found, same, fits⟩ := fits
      obtain ⟨after, split, fits⟩ := like_append_of_plain first fits
      exact ⟨before, after, by rw [same, split, List.append_assoc], ih others fits⟩

end Sql

/-! Search texts. -/

theorem percent_intercalate (first : List Char) (rest : List (List Char)) :
    '%' :: ['%'].intercalate (first :: rest) ++ ['%'] = Sql.gaps (first :: rest) := by
  induction rest generalizing first with
  | nil => simp [Sql.gaps]
  | cons second rest ih =>
      have onward := ih second
      simp only [Sql.gaps, List.flatMap_cons, List.cons_append, List.append_assoc, List.cons.injEq,
        true_and, List.intercalate_cons_cons] at onward ⊢
      rw [onward, List.nil_append]

/-- Without words the pattern is `%%`, with words it is what asks for them. -/
theorem searchPattern_toList (text : String) :
    (Text.words text.toList = [] ∧ (searchPattern text).toList = ['%', '%']) ∨
      (searchPattern text).toList = Sql.gaps (Text.words text.toList) := by
  rw [searchPattern, String.toList_ofList]
  cases Text.words text.toList with
  | nil => exact .inl ⟨rfl, rfl⟩
  | cons first rest => exact .inr (percent_intercalate first rest)

theorem like_searchPattern (text : String) (subject : List Char) :
    Sql.like (searchPattern text).toList subject = true ↔
      Sql.like (Sql.gaps (Text.words text.toList)) subject = true := by
  rcases searchPattern_toList text with ⟨none, twice⟩ | same
  · -- once or twice, `%` finds everything
    have nothing : Text.InOrder [] subject := trivial
    have once : Sql.like ['%'] subject = true := Sql.like_gaps_of_inOrder nothing
    rw [none, twice]
    exact ⟨fun _ => once, fun _ => Sql.like_percent.mpr ⟨[], subject, rfl, once⟩⟩
  · rw [same]

theorem mem_searchPattern {text : String} {c : Char} (member : c ∈ (searchPattern text).toList) :
    c = '%' ∨ ∃ word ∈ Text.words text.toList, c ∈ word := by
  rcases searchPattern_toList text with ⟨_, twice⟩ | same
  · rw [twice] at member
    exact .inl (by simpa using member)
  · rw [same, Sql.gaps] at member
    simp only [List.mem_append, List.mem_flatMap, List.mem_cons, List.not_mem_nil,
      or_false] at member
    rcases member with ⟨word, listed, rfl | inside⟩ | percent
    · exact .inl rfl
    · exact .inr ⟨word, listed, inside⟩
    · exact .inl percent

/-- The pattern of a text finds every subject that holds the words of the text in their order, and
no other one if no word holds `%` or `_`. It has no blanks, and texts with the same words share
it. -/
theorem search_pattern_finds_words_in_order (text : String) :
    let words := Text.words text.toList
    let pattern := (searchPattern text).toList
    (∀ runs, Text.Runs text.toList runs ↔ runs = words) ∧
    (∀ subject, Text.InOrder words subject → Sql.like pattern subject = true) ∧
    ((∀ word ∈ words, '%' ∉ word ∧ '_' ∉ word) →
      ∀ subject, Sql.like pattern subject = true → Text.InOrder words subject) ∧
    (∀ c ∈ pattern, Text.isBlank c = false) ∧
    ∀ other : String, Text.Runs other.toList words → searchPattern other = searchPattern text := by
  intro words pattern
  refine ⟨fun runs => Text.runs_iff, ?_, ?_, ?_, ?_⟩
  · intro subject held
    exact (like_searchPattern text subject).mpr (Sql.like_gaps_of_inOrder held)
  · intro plain subject fits
    exact Sql.inOrder_of_like_gaps plain ((like_searchPattern text subject).mp fits)
  · have solid := (Text.runs_iff.mpr rfl : Text.Runs text.toList words).solid
    intro c member
    rcases mem_searchPattern member with rfl | ⟨word, listed, inside⟩
    · decide
    · exact solid word listed c inside
  · intro other cut
    rw [searchPattern, searchPattern, cut.words_eq]

/-- Blanks of several kinds; of two places for a word the later one counts. -/
theorem spaced_words_are_found_in_order :
    let text := "  joao\u3000da\t silva"
    let words := ["joao".toList, "da".toList, "silva".toList]
    let pattern := (searchPattern text).toList
    let subject := "silva, joao silva da costa silva".toList
    Text.words text.toList = words ∧ (∀ word ∈ words, '%' ∉ word ∧ '_' ∉ word) ∧
    pattern = "%joao%da%silva%".toList ∧ Sql.like pattern subject = true ∧
    Text.InOrder words subject ∧ Sql.like pattern "da joao silva".toList = false := by
  intro text words pattern subject
  have cut : Text.words text.toList = words := by decide
  have plain : ∀ word ∈ words, '%' ∉ word ∧ '_' ∉ word := by decide
  have fits : Sql.like pattern subject = true := by decide
  have law := search_pattern_finds_words_in_order text
  exact ⟨cut, plain, by decide, fits, cut ▸ law.2.2.1 (cut ▸ plain) subject fits, by decide⟩

end DeclarativeQuery
