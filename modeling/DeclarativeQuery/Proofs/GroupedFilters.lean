import DeclarativeQuery.Proofs.AppliedDescription
import DeclarativeQuery.Proofs.FilterEntries

/-!
Filters on grouped records. Their conditions travel as an operator and one value, and are told apart
by the operator on arrival. What was read from an entry arrives as the condition that the entry
states, because an operator with a condition of its own is never one that is compared with.
-/

namespace DeclarativeQuery.HavingTerm

variable {dialect : Dialect}

def statement (dialect : Dialect) (term : HavingTerm) : Condition :=
  term.predicate.condition dialect term.field

def Reads (dialect : Dialect) (entry : FilterEntry) (term : HavingTerm) : Prop :=
  term.field = Text.lower entry.key ∧ FilterEntry.Reads dialect term.field entry term.predicate

theorem havingCondition_plain {field operator : String} {value : Json}
    (plain : operator ∉ ["between", "in", "not in", "not null"]) :
    Query.havingCondition field operator value = .compare field operator value := by
  simp only [List.mem_cons, List.not_mem_nil, or_false, not_or] at plain
  unfold Query.havingCondition
  split <;> simp_all

theorem compares_plain {field operator : String} {value : Json} {entry : FilterEntry}
    (compares : entry.Compares dialect field (.compare field operator value)) :
    operator ∉ ["between", "in", "not in", "not null"] := by
  -- a search may become a comparison too, under an operator of the dialect
  generalize same : Condition.compare field operator value = condition at compares
  cases compares with
  | bare =>
      cases same
      decide
  | searchText | searchNumber =>
      cases dialect <;> cases same
      decide
  | other stated plain =>
      cases same
      simp only [List.mem_cons, List.not_mem_nil, or_false, not_or] at plain ⊢
      exact ⟨plain.2.1, plain.2.2.1, plain.2.2.2.1, plain.1⟩
  | notNull | between | oneOfList | oneOfSingle | noneOfList | noneOfSingle => cases same

theorem Reads.compares {entry : FilterEntry} {term : HavingTerm}
    (reads : Reads dialect entry term) :
    entry.Compares dialect (Text.lower entry.key) (term.statement dialect) :=
  reads.1 ▸ reads.2

theorem Reads.condition_eq {entry : FilterEntry} {term : HavingTerm}
    (reads : Reads dialect entry term) :
    term.condition dialect = term.statement dialect := by
  rcases term with ⟨field, predicate⟩
  cases predicate with
  | compare operator value => exact havingCondition_plain (compares_plain reads.2)
  | _ => rfl

theorem map_condition {entries : List FilterEntry} {terms : List HavingTerm}
    (reads : List.Forall₂ (Reads dialect) entries terms) :
    terms.map (condition dialect) = terms.map (statement dialect) := by
  induction reads with
  | nil => rfl
  | cons first rest ih => rw [List.map_cons, List.map_cons, first.condition_eq, ih]

/-- One term for every entry, in order. -/
theorem readEntries_reads {settings : Settings} {directive : String}
    {entries : List (String × Json)} {terms : List HavingTerm}
    (accepted : readEntries settings directive entries = .ok terms) :
    List.Forall₂ (Reads dialect) (FilterEntry.ofEntries settings entries) terms := by
  induction entries generalizing terms with
  | nil =>
      cases accepted
      exact .nil
  | cons entry rest ih =>
      rcases entry with ⟨key, value⟩
      rw [readEntries] at accepted
      rw [FilterEntry.ofEntries]
      by_cases null : value.isNull = true
      · simp only [null, ↓reduceIte] at accepted ⊢
        exact ih accepted
      · cases group : settings.groupKey? key with
        | some connective => simp [null, group, Filter.invalid] at accepted
        | none =>
            simp only [null, group, Bool.false_eq_true, ↓reduceIte] at accepted ⊢
            obtain ⟨field, named, accepted⟩ := bind_eq_ok_iff.mp accepted
            obtain ⟨predicates, read, accepted⟩ := bind_eq_ok_iff.mp accepted
            obtain ⟨others, tail, same⟩ := bind_eq_ok_iff.mp accepted
            cases same
            cases (Filter.columnName_ok named).1
            have reads : List.Forall₂ (FilterEntry.Reads dialect (Text.lower key))
                (FilterEntry.ofField key value) predicates := FilterEntry.readPredicates_reads read
            -- predicates of one field share its key, and the key gives the name of the field
            have keyed := (List.forall₂_and_left _ _).mpr ⟨fun _ => FilterEntry.ofField_key, reads⟩
            refine List.rel_append ?_ (ih tail)
            rw [List.forall₂_map_right_iff]
            refine keyed.imp ?_
            rintro entry predicate ⟨same, compares⟩
            exact ⟨by rw [same], compares⟩

end DeclarativeQuery.HavingTerm
