import DeclarativeQuery.Proofs.GroupedFilters
import DeclarativeQuery.Proofs.LiteralRendering

/-!
The literals of a filter, told from its entries alone. An entry and the condition that it leaves on
a query are written with the same literals, and the condition has no quotes outside of them if the
key and the token of the entry have none.
-/

namespace DeclarativeQuery

open Sql (quoteFree)

namespace FilterEntry

def searchTexts : Json → List String
  | .string text => [searchPattern text]
  | .number value => [searchPattern value.text]
  | _ => []

/-- What the operand is written as in quotes: the items of a list and the ends of a range one by
one, a search as its pattern, and anything else as it is. -/
def literalTexts (entry : FilterEntry) : List String :=
  if entry.operator? = some "not null" then []
  else if entry.operator? = some "search" then searchTexts entry.operand
  else if entry.operator? ∈ [some "between", some "in", some "not in"] then
    entry.operand.asSet.flatMap Json.literalTexts
  else entry.operand.literalTexts

def isQuoteFree (entry : FilterEntry) : Bool :=
  quoteFree entry.key && entry.token.all quoteFree

end FilterEntry

/-! Searches -/

namespace Dialect

theorem searchCondition_literalTexts (dialect : Dialect) (field pattern : String) :
    (dialect.searchCondition field pattern).literalTexts = [pattern] := by
  cases dialect <;> simp [searchCondition, Condition.literalTexts, Json.literalTexts]

theorem searchCondition_isQuoteFree (dialect : Dialect) {field : String}
    (named : quoteFree field = true) (pattern : String) :
    (dialect.searchCondition field pattern).isQuoteFree = true := by
  cases dialect <;>
    simp only [searchCondition, Condition.isQuoteFree, Sql.quoteFree_append, named] <;>
    rfl

end Dialect

theorem Operator.resolve_quoteFree {token : String} (clear : quoteFree token = true) :
    quoteFree (Operator.resolve token) = true := by
  have known : ∀ entry ∈ Operator.aliases, quoteFree entry.2 = true := by decide
  unfold Operator.resolve
  split
  next short operator found => exact known _ (List.mem_of_find?_eq_some found)
  next => exact Text.lower_quoteFree clear

/-! Conditions and their leaves -/

mutual

theorem Condition.literalTexts_leaves : ∀ condition : Condition,
    condition.literalTexts = condition.leaves.flatMap Condition.literalTexts
  | .nested clauses => Clause.literalTexts_leaves clauses
  | .compare .. | .oneOf .. | .noneOf .. | .between .. | .notNull _ | .raw .. | .related .. => by
      simp [Condition.leaves]
termination_by structural condition => condition

theorem Clause.literalTexts_leaves : ∀ clauses : List Clause,
    Clause.literalTexts clauses = (Clause.leaves clauses).flatMap Condition.literalTexts
  | [] => rfl
  | ⟨condition, _⟩ :: rest => by
      rw [Clause.literalTexts, Clause.leaves, List.flatMap_append,
        Condition.literalTexts_leaves condition, Clause.literalTexts_leaves rest]
termination_by structural clauses => clauses

end

mutual

theorem Condition.isQuoteFree_leaves : ∀ condition : Condition,
    condition.isQuoteFree = condition.leaves.all Condition.isQuoteFree
  | .nested clauses => Clause.isQuoteFree_leaves clauses
  | .compare .. | .oneOf .. | .noneOf .. | .between .. | .notNull _ | .raw .. | .related .. => by
      simp [Condition.leaves]
termination_by structural condition => condition

theorem Clause.isQuoteFree_leaves : ∀ clauses : List Clause,
    Clause.isQuoteFree clauses = (Clause.leaves clauses).all Condition.isQuoteFree
  | [] => rfl
  | ⟨condition, _⟩ :: rest => by
      rw [Clause.isQuoteFree, Clause.leaves, List.all_append,
        Condition.isQuoteFree_leaves condition, Clause.isQuoteFree_leaves rest]
termination_by structural clauses => clauses

end

namespace FilterEntry

variable {dialect : Dialect} {target : String → Relation} {field : String} {entry : FilterEntry}
variable {condition : Condition}

theorem Compares.literalTexts_eq (compares : entry.Compares dialect field condition) :
    condition.literalTexts = entry.literalTexts := by
  cases compares with
  | bare operator => simp [literalTexts, operator, Condition.literalTexts]
  | notNull operator => simp [literalTexts, operator, Condition.literalTexts]
  | between operator operand | oneOfList operator operand | noneOfList operator operand =>
      simp [literalTexts, operator, operand, Condition.literalTexts, Json.asSet]
  | oneOfSingle operator operand | noneOfSingle operator operand =>
      have single : entry.operand.asSet = [entry.operand] := by
        cases list : entry.operand with
        | array values => exact absurd list (operand values)
        | _ => rfl
      simp [literalTexts, operator, single, Condition.literalTexts]
  | searchText operator operand | searchNumber operator operand =>
      rw [Dialect.searchCondition_literalTexts]
      simp [literalTexts, operator, operand, searchTexts]
  | other stated plain =>
      simp only [List.mem_cons, List.not_mem_nil, or_false, not_or] at plain
      simp [literalTexts, stated, plain, Condition.literalTexts]

theorem Compares.isQuoteFree (compares : entry.Compares dialect field condition)
    (clear : entry.isQuoteFree = true) (named : quoteFree field = true) :
    condition.isQuoteFree = true := by
  cases compares with
  | bare operator =>
      rw [Condition.isQuoteFree, named]
      rfl
  | searchText operator operand => exact dialect.searchCondition_isQuoteFree named _
  | searchNumber operator operand => exact dialect.searchCondition_isQuoteFree named _
  | other stated plain =>
      obtain ⟨token, written, same⟩ := Option.map_eq_some_iff.mp stated
      simp only [FilterEntry.isQuoteFree, written, Option.all_some, Bool.and_eq_true] at clear
      rw [Condition.isQuoteFree, named, ← same, Operator.resolve_quoteFree clear.2]
      rfl
  | notNull | between | oneOfList | oneOfSingle | noneOfList | noneOfSingle => exact named

theorem Yields.literalTexts_eq (yields : entry.Yields dialect target condition) :
    condition.literalTexts = entry.literalTexts := by
  cases yields with
  | own dotless compares => exact compares.literalTexts_eq
  | related cut last compares =>
      simp [Condition.literalTexts, Clause.literalTexts, compares.literalTexts_eq]

/-- The relations that the key may name are described without quotes. -/
theorem Yields.isQuoteFree (yields : entry.Yields dialect target condition)
    (clear : entry.isQuoteFree = true)
    (targets : ∀ name, quoteFree name = true → (target name).isQuoteFree = true) :
    condition.isQuoteFree = true := by
  have keyed : quoteFree entry.key = true := by
    simp only [FilterEntry.isQuoteFree, Bool.and_eq_true] at clear
    exact clear.1
  cases yields with
  | own dotless compares => exact compares.isQuoteFree clear (Text.lower_quoteFree keyed)
  | related cut last compares =>
      rw [cut, Sql.quoteFree_append, Sql.quoteFree_append] at keyed
      simp only [Bool.and_eq_true] at keyed
      have reached := targets _ (Text.lower_quoteFree keyed.1.1)
      have inside := compares.isQuoteFree clear keyed.2
      simp [Condition.isQuoteFree, Clause.isQuoteFree, reached, inside]

/-! From entry by entry to the whole list -/

theorem literalTexts_of_forall₂ {States : FilterEntry → Condition → Prop}
    (each : ∀ entry condition, States entry condition →
      condition.literalTexts = entry.literalTexts)
    {entries : List FilterEntry} {conditions : List Condition}
    (states : List.Forall₂ States entries conditions) :
    conditions.flatMap Condition.literalTexts = entries.flatMap literalTexts := by
  induction states with
  | nil => rfl
  | cons first rest ih => rw [List.flatMap_cons, List.flatMap_cons, each _ _ first, ih]

theorem isQuoteFree_of_forall₂ {States : FilterEntry → Condition → Prop}
    (each : ∀ entry condition, States entry condition → entry.isQuoteFree = true →
      condition.isQuoteFree = true)
    {entries : List FilterEntry} {conditions : List Condition}
    (states : List.Forall₂ States entries conditions)
    (clear : ∀ entry ∈ entries, entry.isQuoteFree = true) :
    conditions.all Condition.isQuoteFree = true := by
  induction states with
  | nil => rfl
  | cons first rest ih =>
      have head := each _ _ first (clear _ List.mem_cons_self)
      have tail := ih fun entry member => clear entry (List.mem_cons_of_mem _ member)
      simp [head, tail]

end FilterEntry

end DeclarativeQuery
