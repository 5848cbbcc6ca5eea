import DeclarativeQuery.Proofs.HavingFilters
import DeclarativeQuery.Proofs.LiteralRendering

/-!
The text of a search. A database family with an operator for it compares the field as it stands; the
others get an expression with a mark for the pattern, and the mark is looked for only when the text
is written. A field with a mark of its own is then taken for the place of the pattern.
-/

namespace DeclarativeQuery

/-- The whole field against the whole pattern, as the database family writes a match that ignores
case. -/
def Dialect.searchSql (dialect : Dialect) (field pattern : String) : String :=
  match dialect with
  | .postgres => field ++ " ilike " ++ pattern
  | .mysql => field ++ " COLLATE utf8_general_ci LIKE " ++ pattern
  | .other => "LOWER(" ++ field ++ ") LIKE LOWER(" ++ pattern ++ ")"

namespace Sql

theorem bind_append {before : String} (first : '?' ∉ before.toList) (after : String)
    (value : Json) : bind (before ++ "?" ++ after) value = before ++ literal value ++ after := by
  apply String.toList_inj.mp
  simp [bind, fillFirst_append first]

end Sql

section Text
variable {dialect : Dialect} {field before : String}

/-- Without an operator the text is the one with a mark for the pattern, and the pattern bound. -/
theorem Dialect.searchCondition_sql (other : dialect ≠ .postgres) (field pattern : String) :
    (dialect.searchCondition field pattern).sql =
      Sql.bind (dialect.searchSql field "?") (.string pattern) := by
  cases dialect with
  | postgres => contradiction
  | mysql => simp [searchCondition, Condition.sql, searchSql, String.append_assoc]
  | other => simp [searchCondition, Condition.sql, searchSql, String.append_assoc]

theorem Dialect.bind_searchSql (whole : '?' ∉ field.toList) (dialect : Dialect) (value : Json) :
    Sql.bind (dialect.searchSql field "?") value = dialect.searchSql field (Sql.literal value) := by
  cases dialect with
  | postgres =>
      have clear : '?' ∉ (field ++ " ilike ").toList := by simp [whole]
      simpa [searchSql] using Sql.bind_append clear "" value
  | mysql =>
      have clear : '?' ∉ (field ++ " COLLATE utf8_general_ci LIKE ").toList := by simp [whole]
      simpa [searchSql] using Sql.bind_append clear "" value
  | other =>
      have clear : '?' ∉ ("LOWER(" ++ field ++ ") LIKE LOWER(").toList := by simp [whole]
      exact Sql.bind_append clear ")" value

theorem Dialect.searchCondition_sql_whole (whole : dialect = .postgres ∨ '?' ∉ field.toList)
    (pattern : String) :
    (dialect.searchCondition field pattern).sql =
      dialect.searchSql field (Sql.quotedLiteral pattern) := by
  by_cases operator : dialect = .postgres
  · subst operator
    simp [searchCondition, Condition.sql, searchSql, Sql.literal, String.append_assoc]
  · rw [searchCondition_sql operator]
    exact dialect.bind_searchSql (whole.resolve_left operator) _

theorem Dialect.bind_searchSql_marked (first : '?' ∉ before.toList) (dialect : Dialect)
    (after : String) (value : Json) :
    Sql.bind (dialect.searchSql (before ++ "?" ++ after) "?") value =
      dialect.searchSql (before ++ Sql.literal value ++ after) "?" := by
  cases dialect with
  | postgres => simpa [searchSql, String.append_assoc] using
      Sql.bind_append first (after ++ " ilike ?") value
  | mysql => simpa [searchSql, String.append_assoc] using
      Sql.bind_append first (after ++ " COLLATE utf8_general_ci LIKE ?") value
  | other =>
      have clear : '?' ∉ ("LOWER(" ++ before).toList := by simp [first]
      simpa [searchSql, String.append_assoc] using
        Sql.bind_append clear (after ++ ") LIKE LOWER(?)") value

/-- A text that ends with the mark is none that ends with a literal. -/
theorem Dialect.searchSql_mark_ne (dialect : Dialect) (field other pattern : String) :
    dialect.searchSql field "?" ≠ dialect.searchSql other (Sql.quotedLiteral pattern) := by
  intro same
  have backwards := congrArg (fun text => text.toList.reverse) same
  cases dialect <;> simp [searchSql, Sql.quotedLiteral] at backwards

end Text

namespace Condition

/-- The condition is a search in the field. It shows the field and the pattern whole if and only if
the dialect has an operator for it or the field holds no mark; otherwise the pattern stands where
the first mark of the field was, and the mark that was meant for it is left. -/
structure Searches (dialect : Dialect) (field text : String) (condition : Condition) : Prop where
  whole_iff : condition.sql = dialect.searchSql field (Sql.quotedLiteral (searchPattern text)) ↔
    dialect = .postgres ∨ '?' ∉ field.toList
  marked : ∀ before after, dialect ≠ .postgres → field = before ++ "?" ++ after →
    '?' ∉ before.toList → condition.sql =
      dialect.searchSql (before ++ Sql.quotedLiteral (searchPattern text) ++ after) "?"

/-- The condition that a search becomes in a dialect. -/
theorem searches (dialect : Dialect) (field text : String) :
    (dialect.searchCondition field (searchPattern text)).Searches dialect field text := by
  have bound (other : dialect ≠ .postgres) :
      (dialect.searchCondition field (searchPattern text)).sql =
        Sql.bind (dialect.searchSql field "?") (.string (searchPattern text)) :=
    Dialect.searchCondition_sql other field (searchPattern text)
  have marked (before after : String) (other : dialect ≠ .postgres)
      (cut : field = before ++ "?" ++ after) (first : '?' ∉ before.toList) :
      (dialect.searchCondition field (searchPattern text)).sql =
        dialect.searchSql (before ++ Sql.quotedLiteral (searchPattern text) ++ after) "?" := by
    rw [bound other, cut]
    exact Dialect.bind_searchSql_marked first dialect after _
  refine ⟨⟨?_, ?_⟩, marked⟩
  · intro same
    by_contra failing
    simp only [not_or, not_not] at failing
    obtain ⟨other, mark⟩ := failing
    obtain ⟨before, after, cut, first⟩ := List.eq_append_cons_of_mem mark
    have text := marked (String.ofList before) (String.ofList after) other
      (String.toList_inj.mp (by simp [cut])) (by simpa using first)
    exact dialect.searchSql_mark_ne _ _ _ (text.symm.trans same)
  · intro whole
    exact Dialect.searchCondition_sql_whole whole (searchPattern text)

end Condition

namespace FilterEntry

inductive Seeks (entry : FilterEntry) : String → Prop
  | text {text : String} (operand : entry.operand = .string text) : Seeks entry text
  | number {value : Number} (operand : entry.operand = .number value) : Seeks entry value.text

/-- What the condition of an entry says about a field: the condition itself, about the lower-cased
key, or the only one on the related records that the key names before its last dot. -/
inductive About (target : String → Relation) (entry : FilterEntry) (field : String)
    (inner : Condition) : Condition → Prop
  | own (dotless : '.' ∉ entry.key.toList) (lowered : field = Text.lower entry.key) :
      About target entry field inner inner
  | related {relation : String} (cut : entry.key = relation ++ "." ++ field)
      (last : '.' ∉ field.toList) :
      About target entry field inner
        (.related (Text.lower relation) (target (Text.lower relation)) [⟨inner, .and⟩])

def SearchedAs (dialect : Dialect) (target : String → Relation) (entry : FilterEntry)
    (condition : Condition) : Prop :=
  entry.operator? = some "search" → ∃ text field inner,
    entry.Seeks text ∧ entry.About target field inner condition ∧ inner.Searches dialect field text

def TotalSearchedAs (dialect : Dialect) (entry : FilterEntry) (condition : Condition) : Prop :=
  entry.operator? = some "search" → ∃ text,
    entry.Seeks text ∧ condition.Searches dialect (Text.lower entry.key) text

variable {dialect : Dialect} {target : String → Relation} {entry : FilterEntry} {field : String}
  {condition : Condition}

theorem Compares.searchedAs (compares : entry.Compares dialect field condition)
    (search : entry.operator? = some "search") :
    ∃ text, entry.Seeks text ∧ condition.Searches dialect field text := by
  cases compares with
  | searchText operator operand => exact ⟨_, .text operand, Condition.searches dialect field _⟩
  | searchNumber operator operand =>
      exact ⟨_, .number operand, Condition.searches dialect field _⟩
  | other stated plain =>
      rw [search] at stated
      cases stated
      simp at plain
  | bare operator | notNull operator | between operator | oneOfList operator
  | oneOfSingle operator | noneOfList operator | noneOfSingle operator =>
      simp [search] at operator

theorem Yields.searchedAs (yields : entry.Yields dialect target condition) :
    entry.SearchedAs dialect target condition := by
  intro search
  cases yields with
  | own dotless compares =>
      obtain ⟨text, sought, searches⟩ := compares.searchedAs search
      exact ⟨text, _, _, sought, .own dotless rfl, searches⟩
  | related cut last compares =>
      obtain ⟨text, sought, searches⟩ := compares.searchedAs search
      exact ⟨text, _, _, sought, .related cut last, searches⟩

end FilterEntry

namespace Query

open Outcome

/-- Every entry of an accepted filter that searches becomes a search for its text: on records in the
lower-cased key or in a field of related records, through all groups, and on grouped records in the
lower-cased key. The field and the pattern are whole except where the dialect has no operator and
the field holds a mark. -/
theorem search_compares_whole_field_without_mark (invoke : Invoker) (query : Query)
    (settings : Settings) :
    (∀ payload filters connective,
      Filter.read settings Directive.filter payload = .ok filters →
      ∃ appended,
        (query.ask invoke (.filter settings payload connective)).Reaches
          (query.addWheres appended) ∧
        List.Forall₂ (FilterEntry.SearchedAs query.dialect query.relationTarget)
          (FilterEntry.ofFilter settings payload) (Clause.leaves appended)) ∧
    (∀ payload terms, HavingTerm.read settings Directive.having payload = .ok terms →
      ∃ conditions,
        (performAll invoke query (terms.map HavingTerm.call)).Reaches
          { query with havings := query.havings ++ Connective.and.clauses conditions } ∧
        List.Forall₂ (FilterEntry.TotalSearchedAs query.dialect)
          (FilterEntry.ofFilter settings payload) conditions) := by
  constructor
  · intro payload filters connective accepted
    refine ⟨_, ask_filter_reaches invoke query settings payload filters connective accepted, ?_⟩
    rw [Clause.leaves_clauses]
    exact (FilterEntry.readLevel_yields payload accepted).imp
      fun entry condition yields => yields.searchedAs
  · intro payload terms accepted
    obtain ⟨entries, same, read⟩ := HavingTerm.read_ok accepted
    have reads : List.Forall₂ (HavingTerm.Reads query.dialect) _ terms :=
      HavingTerm.readEntries_reads read
    have reached : (performAll invoke query (terms.map HavingTerm.call)).Reaches _ :=
      havingCalls_reaches terms
    rw [HavingTerm.map_condition reads] at reached
    refine ⟨_, reached, ?_⟩
    rw [same, FilterEntry.ofFilter, List.forall₂_map_right_iff]
    exact reads.imp fun entry term read => read.compares.searchedAs

def authors : Query := { entity "authors" with
  dialect := .mysql
  relations := [("books", ⟨"books", some "books.author_id = authors.id"⟩)] }

def soughtFilter : Json := .object [
  ("OR", .object [
    ("Full Name", .object [("SEARCH", .string " o'hara  j "), ("nn", .null)]),
    ("books.Title", .object [("search", .whole 5)])])]

def soughtTotals : Json := .object [("Max.Name", .object [("search", .string "who?")])]

theorem nested_searches_compare_whole_fields :
    let found := authors.ask withoutScopes (.filter {} soughtFilter .and)
    let terms : List HavingTerm := [⟨"max.name", .search "%who?%"⟩]
    let counted := performAll withoutScopes authors (terms.map HavingTerm.call)
    Filter.read {} Directive.filter soughtFilter = .ok [.group .or [
      .leaf "full name" (.search "%o'hara%j%"), .leaf "full name" .notNull,
      .related "books" "Title" (.search "%5%")]] ∧
    HavingTerm.read {} Directive.having soughtTotals = .ok terms ∧
    (∃ appended, found.Reaches (authors.addWheres appended) ∧
      List.Forall₂ (FilterEntry.SearchedAs .mysql authors.relationTarget)
        (FilterEntry.ofFilter {} soughtFilter) (Clause.leaves appended)) ∧
    (∃ conditions,
      counted.Reaches { authors with havings := Connective.and.clauses conditions } ∧
      List.Forall₂ (FilterEntry.TotalSearchedAs .mysql)
        (FilterEntry.ofFilter {} soughtTotals) conditions) ∧
    Clause.listSql found.query.wheres =
      "(full name COLLATE utf8_general_ci LIKE '%o''hara%j%' OR full name IS NOT NULL OR " ++
      "EXISTS (SELECT 1 FROM books WHERE books.author_id = authors.id AND " ++
      "Title COLLATE utf8_general_ci LIKE '%5%'))" ∧
    Clause.listSql counted.query.havings = "max.name COLLATE utf8_general_ci LIKE '%who?%'" := by
  intro found terms counted
  have law := search_compares_whole_field_without_mark withoutScopes authors {}
  have read : Filter.read {} Directive.filter soughtFilter = .ok _ := rfl
  have totals : HavingTerm.read {} Directive.having soughtTotals = .ok terms := rfl
  exact ⟨read, totals, law.1 _ _ .and read, law.2 _ _ totals, by decide +kernel,
    by decide +kernel⟩

/-- The field holds a mark, and the dialect has no operator. -/
theorem pattern_takes_place_of_mark :
    let filter := Json.object [("known?", .object [("search", .string "ada")])]
    let found := (entity "users").apply {} (.object [(Directive.filter, filter)])
    found.failure = none ∧
    found.query.sql = "SELECT * FROM users WHERE LOWER(known'%ada%') LIKE LOWER(?)" ∧
    found.query.sql ≠ "SELECT * FROM users WHERE " ++
      Dialect.searchSql .other "known?" (Sql.quotedLiteral (searchPattern "ada")) := by
  intro filter found
  have read : Description.read {} (.object [(Directive.filter, filter)]) =
      .ok { filters := [.leaf "known?" (.search "%ada%")] } := rfl
  have reached : found.Reaches _ := apply_of_read read rfl rfl
  have text : found.query.sql =
      "SELECT * FROM users WHERE LOWER(known'%ada%') LIKE LOWER(?)" := by
    rw [reached.query_eq]
    decide +kernel
  refine ⟨reached.unfailing, text, ?_⟩
  rw [text]
  decide +kernel

end Query

end DeclarativeQuery
