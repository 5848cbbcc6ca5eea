import Mathlib.Data.List.Forall2
import DeclarativeQuery.Proofs.FilterConditions
import DeclarativeQuery.Proofs.FilterReading

/-!
The predicates of a filter as its author wrote them, and the conditions that a query holds for them.
Entries are collected from the mapping itself, without reading it as a filter; conditions are
collected through the groups. The two lists agree entry by entry, in order.
-/

namespace DeclarativeQuery

/-- One predicate as written: a key, the token of an operator mapping or none before a bare value,
and the operand. -/
structure FilterEntry where
  key : String
  token : Option String
  operand : Json

namespace FilterEntry

def operator? (entry : FilterEntry) : Option String := entry.token.map Operator.resolve

/-- A null operand counts only where the operator disregards it. -/
def ofField (key : String) : Json → List FilterEntry
  | .object operators => operators.filterMap fun (token, operand) =>
      if operand.isNull && Operator.resolve token != "not null" then none
      else some ⟨key, some token, operand⟩
  | value => [⟨key, none, value⟩]

mutual

def ofFilter (settings : Settings) : Json → List FilterEntry
  | .object entries => ofEntries settings entries
  | _ => []
termination_by structural filter => filter

def ofEntries (settings : Settings) : List (String × Json) → List FilterEntry
  | [] => []
  | (key, value) :: rest =>
      (if value.isNull then []
        else match settings.groupKey? key with
          | some _ => ofFilter settings value
          | none => ofField key value) ++ ofEntries settings rest
termination_by structural entries => entries

end

inductive Compares (dialect : Dialect) (field : String) (entry : FilterEntry) : Condition → Prop
  | bare (operator : entry.operator? = none) :
      Compares dialect field entry (.compare field "=" entry.operand)
  | notNull (operator : entry.operator? = some "not null") :
      Compares dialect field entry (.notNull field)
  | between {lower upper : Json} (operator : entry.operator? = some "between")
      (operand : entry.operand = .array [lower, upper]) :
      Compares dialect field entry (.between field lower upper)
  | oneOfList {values : List Json} (operator : entry.operator? = some "in")
      (operand : entry.operand = .array values) :
      Compares dialect field entry (.oneOf field values)
  | oneOfSingle (operator : entry.operator? = some "in")
      (operand : ∀ values, entry.operand ≠ .array values) :
      Compares dialect field entry (.oneOf field [entry.operand])
  | noneOfList {values : List Json} (operator : entry.operator? = some "not in")
      (operand : entry.operand = .array values) :
      Compares dialect field entry (.noneOf field values)
  | noneOfSingle (operator : entry.operator? = some "not in")
      (operand : ∀ values, entry.operand ≠ .array values) :
      Compares dialect field entry (.noneOf field [entry.operand])
  | searchText {text : String} (operator : entry.operator? = some "search")
      (operand : entry.operand = .string text) :
      Compares dialect field entry (dialect.searchCondition field (searchPattern text))
  | searchNumber {value : Number} (operator : entry.operator? = some "search")
      (operand : entry.operand = .number value) :
      Compares dialect field entry (dialect.searchCondition field (searchPattern value.text))
  | other {operator : String} (stated : entry.operator? = some operator)
      (plain : operator ∉ ["not null", "between", "in", "not in", "search"]) :
      Compares dialect field entry (.compare field operator entry.operand)

/-- The condition that an entry of a filter leaves on the query: about the lower-cased key, or about
the related records that the key names before its last dot. -/
inductive Yields (dialect : Dialect) (target : String → Relation) (entry : FilterEntry) :
    Condition → Prop
  | own {condition : Condition} (dotless : '.' ∉ entry.key.toList)
      (compares : entry.Compares dialect (Text.lower entry.key) condition) :
      Yields dialect target entry condition
  | related {relation field : String} {condition : Condition}
      (cut : entry.key = relation ++ "." ++ field) (last : '.' ∉ field.toList)
      (compares : entry.Compares dialect field condition) :
      Yields dialect target entry
        (.related (Text.lower relation) (target (Text.lower relation)) [⟨condition, .and⟩])

end FilterEntry

mutual

def Condition.leaves : Condition → List Condition
  | .nested clauses => Clause.leaves clauses
  | condition => [condition]
termination_by structural condition => condition

def Clause.leaves : List Clause → List Condition
  | [] => []
  | ⟨condition, _⟩ :: rest => condition.leaves ++ Clause.leaves rest
termination_by structural clauses => clauses

end

theorem Clause.leaves_clauses (connective : Connective) (conditions : List Condition) :
    Clause.leaves (connective.clauses conditions) = conditions.flatMap Condition.leaves := by
  induction conditions with
  | nil => rfl
  | cons condition rest ih =>
      change condition.leaves ++ Clause.leaves (connective.clauses rest) = _
      rw [ih, List.flatMap_cons]

theorem Predicate.leaves_condition (dialect : Dialect) (field : String) (predicate : Predicate) :
    (predicate.condition dialect field).leaves = [predicate.condition dialect field] := by
  cases predicate with
  | search pattern => cases dialect <;> rfl
  | _ => rfl

namespace FilterEntry

section Fields
variable {dialect : Dialect} {directive field key token : String} {operand : Json}

/-- An operator that is read states what its entry says. -/
theorem readOperator_compares {predicate : Predicate}
    (accepted : Filter.readOperator directive field (Operator.resolve token) operand =
      .ok (some predicate)) :
    Compares dialect field ⟨key, some token, operand⟩ (predicate.condition dialect field) := by
  have stands : (FilterEntry.mk key (some token) operand).operator? =
      some (Operator.resolve token) := rfl
  have reads := Filter.readOperator_ok accepted
  cases reads with
  | notNull same => exact .notNull (by rw [stands, same])
  | between same range => exact .between (by rw [stands, same]) range
  | oneOf same present =>
      cases list : operand with
      | array values => exact .oneOfList (by rw [← list, stands, same]) rfl
      | _ => exact .oneOfSingle (by rw [← list, stands, same]) (by simp)
  | noneOf same present =>
      cases list : operand with
      | array values => exact .noneOfList (by rw [← list, stands, same]) rfl
      | _ => exact .noneOfSingle (by rw [← list, stands, same]) (by simp)
  | searchText same sought => exact .searchText (by rw [stands, same]) sought
  | searchNumber same sought => exact .searchNumber (by rw [stands, same]) sought
  | compare plain present => exact .other stands plain

/-- An operator is left out exactly where its entry is. -/
theorem readOperator_isNone {operator : String} {read : Option Predicate}
    (accepted : Filter.readOperator directive field operator operand = .ok read) :
    read.isNone = (operand.isNull && operator != "not null") := by
  have reads := Filter.readOperator_ok accepted
  cases reads with
  | notNull same => simp [same]
  | leftOut other null => simp [other, null]
  | between same range => simp [range, Json.isNull]
  | oneOf same present | noneOf same present | compare plain present => simp [present]
  | searchText same sought | searchNumber same sought => simp [sought, Json.isNull]

theorem ofField_cons (key token : String) (operand : Json) (rest : List (String × Json)) :
    ofField key (.object ((token, operand) :: rest)) =
      (if operand.isNull && Operator.resolve token != "not null" then []
        else [⟨key, some token, operand⟩]) ++ ofField key (.object rest) := by
  by_cases left : (operand.isNull && Operator.resolve token != "not null") = true
  · simp only [ofField, List.filterMap_cons, left, ↓reduceIte, List.nil_append]
  · simp only [ofField, List.filterMap_cons, left, Bool.false_eq_true, ↓reduceIte,
      List.singleton_append]

def Reads (dialect : Dialect) (field : String) (entry : FilterEntry) (predicate : Predicate) :
    Prop :=
  entry.Compares dialect field (predicate.condition dialect field)

theorem readOperators_reads {operators : List (String × Json)} {predicates : List Predicate}
    (accepted : Filter.readOperators directive field operators = .ok predicates) :
    List.Forall₂ (Reads dialect field) (ofField key (.object operators)) predicates := by
  induction operators generalizing predicates with
  | nil =>
      cases accepted
      exact .nil
  | cons operator rest ih =>
      rcases operator with ⟨token, operand⟩
      obtain ⟨first, others, head, tail, same⟩ := Filter.readOperators_cons_ok accepted
      subst same
      have onward := ih tail
      rw [ofField_cons, ← readOperator_isNone head]
      cases first with
      | none => exact onward
      | some predicate => exact .cons (readOperator_compares head) onward

theorem readPredicates_reads {value : Json} {predicates : List Predicate}
    (accepted : Filter.readPredicates directive field value = .ok predicates) :
    List.Forall₂ (Reads dialect field) (ofField key value) predicates := by
  cases value with
  | object operators => exact readOperators_reads accepted
  | array items => simp [Filter.readPredicates, Filter.invalid] at accepted
  | _ =>
      cases accepted
      exact .cons (.bare rfl) .nil

end Fields

/-! Reading keeps the correspondence through every level. -/

section Levels
variable {dialect : Dialect} {target : String → Relation} {directive : String}

theorem conditions_leaf (field : String) (predicates : List Predicate) :
    (Filter.conditions dialect target (predicates.map (.leaf field))).flatMap Condition.leaves =
      predicates.map (·.condition dialect field) := by
  induction predicates with
  | nil => rfl
  | cons predicate rest ih =>
      simp [Filter.conditions, Filter.condition?, Predicate.leaves_condition, ih]

theorem conditions_related (relation field : String) (predicates : List Predicate) :
    (Filter.conditions dialect target (predicates.map (.related relation field))).flatMap
        Condition.leaves =
      predicates.map (Filter.relatedCondition dialect target relation field) := by
  rw [Filter.conditions_map_related, List.flatMap_map, List.map_eq_flatMap]
  rfl

theorem conditions_group (connective : Connective) (members : List Filter) :
    (Filter.conditions dialect target [.group connective members]).flatMap Condition.leaves =
      (Filter.conditions dialect target members).flatMap Condition.leaves := by
  cases inside : Filter.conditions dialect target members with
  | nil => simp [Filter.conditions, Filter.condition?, inside]
  | cons condition rest =>
      simp [Filter.conditions, Filter.condition?, inside, Condition.leaves, Clause.leaves_clauses]

theorem conditions_append (first second : List Filter) :
    Filter.conditions dialect target (first ++ second) =
      Filter.conditions dialect target first ++ Filter.conditions dialect target second := by
  induction first with
  | nil => rfl
  | cons filter rest ih => simp [Filter.conditions, ih]

theorem ofField_key {key : String} {value : Json} {entry : FilterEntry}
    (member : entry ∈ ofField key value) : entry.key = key := by
  cases value with
  | object operators =>
      simp only [ofField, List.mem_filterMap] at member
      obtain ⟨operator, _, kept⟩ := member
      split at kept <;> cases kept
      rfl
  | _ =>
      simp only [ofField, List.mem_singleton] at member
      rw [member]

theorem readField_yields {key : String} {value : Json} {filters : List Filter}
    (accepted : Filter.readField directive key value = .ok filters) :
    List.Forall₂ (Yields dialect target) (ofField key value)
      ((Filter.conditions dialect target filters).flatMap Condition.leaves) := by
  rcases Filter.readField_ok accepted with
    ⟨path, _, predicates, read, same⟩ | ⟨relation, field, path, _, _, predicates, read, same⟩
  · have dotless := Filter.relationPath?_eq_none path
    have reads : List.Forall₂ (Reads dialect (Text.lower key)) (ofField key value) predicates :=
      readPredicates_reads read
    rw [same, conditions_leaf, List.forall₂_map_right_iff]
    have keyed := (List.forall₂_and_left _ _).mpr ⟨fun _ => ofField_key, reads⟩
    refine keyed.imp ?_
    rintro entry predicate ⟨named, compares⟩
    subst named
    exact .own dotless compares
  · obtain ⟨cut, last⟩ := Filter.relationPath?_eq_some path
    have reads : List.Forall₂ (Reads dialect field) (ofField key value) predicates :=
      readPredicates_reads read
    rw [same, conditions_related, List.forall₂_map_right_iff]
    have keyed := (List.forall₂_and_left _ _).mpr ⟨fun _ => ofField_key, reads⟩
    refine keyed.imp ?_
    rintro entry predicate ⟨named, compares⟩
    subst named
    exact .related cut last compares

mutual

theorem readLevel_yields {settings : Settings} : ∀ (payload : Json) {room : Nat}
    {filters : List Filter}, Filter.readLevel settings directive room payload = .ok filters →
    List.Forall₂ (Yields dialect target) (ofFilter settings payload)
      ((Filter.conditions dialect target filters).flatMap Condition.leaves)
  | .object entries, _, _, accepted => by
      obtain ⟨read, below, same, _, inside⟩ := Filter.readLevel_ok accepted
      cases same
      exact readEntries_yields entries inside
  | .null, _, _, accepted | .bool _, _, _, accepted | .number _, _, _, accepted
  | .string _, _, _, accepted | .array _, _, _, accepted => by
      obtain ⟨_, _, same, _⟩ := Filter.readLevel_ok accepted
      cases same
termination_by structural payload => payload

theorem readEntries_yields {settings : Settings} : ∀ (entries : List (String × Json)) {room : Nat}
    {filters : List Filter}, Filter.readEntries settings directive room entries = .ok filters →
    List.Forall₂ (Yields dialect target) (ofEntries settings entries)
      ((Filter.conditions dialect target filters).flatMap Condition.leaves)
  | [], _, _, accepted => by
      cases accepted
      exact .nil
  | (key, value) :: rest, room, filters, accepted => by
      obtain ⟨first, others, head, tail, same⟩ := Filter.readEntries_cons_ok accepted
      subst same
      have onward := readEntries_yields rest tail
      rw [conditions_append, List.flatMap_append]
      refine List.rel_append ?_ onward
      -- a null entry has no predicate, a group has those inside it, a field has its own
      rcases Filter.readEntry_ok head with
        ⟨null, none⟩ | ⟨connective, members, group, object, inside, one⟩ | ⟨field, some, read⟩
      · subst null
        subst none
        exact .nil
      · have notNull := Json.isNull_of_isObject object
        simp only [notNull, group, Bool.false_eq_true, ↓reduceIte]
        rw [one, conditions_group]
        exact readLevel_yields value inside
      · simp only [some, field, Bool.false_eq_true, ↓reduceIte]
        exact readField_yields read
termination_by structural entries => entries

end

end Levels

end FilterEntry

namespace Query

end Query

end DeclarativeQuery
