import DeclarativeQuery.Proofs.FilterDepth
import DeclarativeQuery.Proofs.FilterGrammar
import DeclarativeQuery.Proofs.GroupedFilters

/-!
Filters on grouped records against filters on records. They have a reader and calls of their own,
and on the way to the query they lose their shape. What arrives is nevertheless what the other kind
of filter states about the same field; and where no key has a meaning of its own there, the two
readers accept the same mappings and read the same predicates.
-/

namespace DeclarativeQuery

namespace HavingTerm

variable {settings : Settings} {directive : String}

def leaf (term : HavingTerm) : Filter := .leaf term.field term.predicate

theorem map_leaf (field : String) (predicates : List Predicate) :
    (predicates.map (HavingTerm.mk field)).map leaf = predicates.map (.leaf field) := by
  simp [leaf, Function.comp_def]

/-- The keys are names of columns: none is a path, and none opens a group. -/
def NamesColumns (settings : Settings) (entries : List (String × Json)) : Prop :=
  ∀ key value, (key, value) ∈ entries → '.' ∉ key.toList ∧ ¬ settings.OpensGroup key

/-- Entry by entry the two readers do the same, faults included. -/
theorem filter_readEntries_eq (room : Nat) {entries : List (String × Json)}
    (plain : NamesColumns settings entries) :
    Filter.readEntries settings directive room entries =
      (readEntries settings directive entries).map (List.map leaf) := by
  induction entries with
  | nil => rfl
  | cons entry rest ih =>
      rcases entry with ⟨key, value⟩
      obtain ⟨⟨dotless, column⟩, others⟩ := Entries.forall_mem_cons.mp plain
      have group := (settings.groupKey?_eq_none_iff key).mpr column
      have path := Filter.relationPath?_eq_none_iff.mpr dotless
      rw [Filter.readEntries_cons, readEntries, ih others]
      simp only [Filter.readEntry, Filter.readField, group, path]
      by_cases null : value.isNull = true
      · simp only [null, ↓reduceIte]
        cases readEntries settings directive rest <;> rfl
      · -- the name comes first, then the predicates, then the entries after this one
        simp only [null, Bool.false_eq_true, ↓reduceIte]
        cases Filter.columnName directive key with
        | error fault => rfl
        | ok field =>
            cases read : Filter.readPredicates directive field value with
            | error fault => simp [read, bind, Except.bind, Except.map]
            | ok predicates =>
                cases readEntries settings directive rest with
                | error fault => simp [read, bind, Except.bind, pure, Except.pure, Except.map]
                | ok terms =>
                    simp [read, bind, Except.bind, pure, Except.pure, Except.map, ← map_leaf]

theorem filter_read_eq (levels : 0 < settings.maxNestingDepth) {entries : List (String × Json)}
    (plain : NamesColumns settings entries) :
    Filter.read settings directive (.object entries) =
      (read settings directive (.object entries)).map (List.map leaf) := by
  obtain ⟨below, room⟩ := Nat.exists_eq_succ_of_ne_zero (Nat.ne_of_gt levels)
  rw [Filter.read, room, Filter.readLevel]
  exact filter_readEntries_eq below plain

theorem filter_read_iff (levels : 0 < settings.maxNestingDepth) {entries : List (String × Json)}
    (plain : NamesColumns settings entries) (other : String) (filters : List Filter) :
    Filter.read settings other (.object entries) = .ok filters ↔
      ∃ terms, read settings directive (.object entries) = .ok terms ∧
        terms.map leaf = filters := by
  rw [← map_eq_ok_iff, ← filter_read_eq levels plain]
  exact ⟨fun accepted => Filter.read_under accepted directive,
    fun accepted => Filter.read_under accepted other⟩

theorem read_ok {payload : Json} {terms : List HavingTerm}
    (accepted : read settings directive payload = .ok terms) :
    ∃ entries, payload = .object entries ∧ readEntries settings directive entries = .ok terms := by
  cases payload with
  | object entries => exact ⟨entries, rfl, accepted⟩
  | _ => contradiction

end HavingTerm

namespace Query

open Outcome

/-- An accepted filter on grouped records always takes effect: it adds one clause for every term, in
their order and joined by AND, and the condition of each is the one that a filter on records adds
for the same field and predicate. A mapping from names of columns is accepted as one kind of filter
if and only if it is as the other, with the same fields and predicates in the same order. -/
theorem having_states_what_filter_states (invoke : Invoker) (query : Query) (settings : Settings)
    (directive : String) :
    (∀ payload terms, HavingTerm.read settings directive payload = .ok terms →
      ∃ conditions,
        (performAll invoke query (terms.map HavingTerm.call)).Reaches
          { query with havings := query.havings ++ Connective.and.clauses conditions } ∧
        List.Forall₂ (fun (term : HavingTerm) condition => ∀ connective,
          (performAll invoke query (term.predicate.calls term.field connective)).Reaches
            (query.addWhere condition connective)) terms conditions) ∧
    (0 < settings.maxNestingDepth → ∀ entries, HavingTerm.NamesColumns settings entries →
      ∀ other filters, Filter.read settings other (.object entries) = .ok filters ↔
        ∃ terms, HavingTerm.read settings directive (.object entries) = .ok terms ∧
          terms.map HavingTerm.leaf = filters) := by
  constructor
  · intro payload terms accepted
    obtain ⟨entries, _, read⟩ := HavingTerm.read_ok accepted
    have reached : (performAll invoke query (terms.map HavingTerm.call)).Reaches _ :=
      havingCalls_reaches terms
    -- no operator of a term that was read is taken for another one on arrival
    rw [HavingTerm.map_condition (HavingTerm.readEntries_reads read)] at reached
    refine ⟨_, reached, ?_⟩
    rw [List.forall₂_map_right_iff, List.forall₂_same]
    intro term _ connective
    exact predicate_calls_reaches invoke query term.field connective term.predicate
  · intro levels entries plain other filters
    exact HavingTerm.filter_read_iff levels plain other filters

def totals : List (String × Json) := [
  ("Total", .object [("between", .array [.whole 1, .whole 5]), (">", .string "2")]),
  ("OR", .object [("NotNull", .null)]),
  ("left", .null),
  ("kind", .object [("nin", .string "a")]),
  ("rank", .object [("In", .array [.whole 1, .whole 2])]),
  ("name", .object [("search", .string " a b ")])]

def totalTerms : List HavingTerm := [
  ⟨"total", .between (.whole 1) (.whole 5)⟩, ⟨"total", .compare ">" (.string "2")⟩,
  ⟨"or", .notNull⟩, ⟨"kind", .noneOf [.string "a"]⟩, ⟨"rank", .oneOf [.whole 1, .whole 2]⟩,
  ⟨"name", .search "%a%b%"⟩]

def grouped : Query := { entity "orders" with
  dialect := .postgres
  havings := [⟨.compare "n" "=" (.whole 1), .or⟩] }

theorem totals_state_what_filter_states :
    let settings : Settings := { maxNestingDepth := 1, literalColumns := ["or"] }
    0 < settings.maxNestingDepth ∧ HavingTerm.NamesColumns settings totals ∧
    HavingTerm.read settings Directive.having (.object totals) = .ok totalTerms ∧
    Filter.read settings Directive.filter (.object totals) =
      .ok (totalTerms.map HavingTerm.leaf) ∧
    ∃ conditions,
      (performAll withoutScopes grouped (totalTerms.map HavingTerm.call)).Reaches
        { grouped with havings := grouped.havings ++ Connective.and.clauses conditions } ∧
      Clause.listSql (grouped.havings ++ Connective.and.clauses conditions) =
        "n = 1 AND total BETWEEN 1 AND 5 AND total > '2' AND or IS NOT NULL AND " ++
        "kind NOT IN ('a') AND rank IN (1, 2) AND name ilike '%a%b%'" := by
  intro settings
  have law := having_states_what_filter_states withoutScopes grouped settings Directive.having
  have levels : 0 < settings.maxNestingDepth := by decide
  have plain : HavingTerm.NamesColumns settings totals := by
    intro key value member
    rw [← settings.groupKey?_eq_none_iff]
    simp only [totals, List.mem_cons, Prod.mk.injEq, List.not_mem_nil, or_false] at member
    rcases member with ⟨rfl, _⟩ | ⟨rfl, _⟩ | ⟨rfl, _⟩ | ⟨rfl, _⟩ | ⟨rfl, _⟩ | ⟨rfl, _⟩ <;>
      exact ⟨by decide, by decide +kernel⟩
  have accepted : HavingTerm.read settings Directive.having (.object totals) = .ok totalTerms := rfl
  obtain ⟨conditions, reached, _⟩ := law.1 _ _ accepted
  refine ⟨levels, plain, accepted, (law.2 levels totals plain _ _).mpr ⟨_, accepted, rfl⟩,
    conditions, reached, ?_⟩
  have arrived : _ = grouped.havings ++ Connective.and.clauses conditions :=
    congrArg Query.havings reached.query_eq
  rw [← arrived]
  decide +kernel

end Query

end DeclarativeQuery
