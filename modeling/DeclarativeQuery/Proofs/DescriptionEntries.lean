import DeclarativeQuery.Proofs.DescriptionReading
import DeclarativeQuery.Proofs.GroupedFilters

/-!
The entries of a description's two filters, and what the description becomes of them: the conditions
of the one and the terms of the other, entry by entry and in order.
-/

namespace DeclarativeQuery

namespace FilterEntry

def ofDirective (settings : Settings) (key : String) (description : Json) : List FilterEntry :=
  (description.field? key).elim [] (ofFilter settings)

def ofDescription (settings : Settings) (description : Json) : List FilterEntry :=
  ofDirective settings Directive.filter description ++
    ofDirective settings Directive.having description

theorem ofDirective_absent {settings : Settings} {key : String} {entries : List (String × Json)}
    (absent : Json.present? key entries = none) :
    ofDirective settings key (.object entries) = [] := by
  rw [ofDirective, Json.field?]
  rw [Json.present?, Option.filter_eq_none_iff] at absent
  cases found : entries.lookup key with
  | none => rfl
  | some value =>
      have null := absent value found
      cases value <;> simp_all [Json.isNull, ofFilter]

theorem ofDirective_present {settings : Settings} {key : String} {entries : List (String × Json)}
    {payload : Json} (present : Json.present? key entries = some payload) :
    ofDirective settings key (.object entries) = ofFilter settings payload := by
  rw [Json.present?, Option.filter_eq_some_iff] at present
  rw [ofDirective, Json.field?, present.1]
  rfl

end FilterEntry

namespace Description

variable {settings : Settings} {entries : List (String × Json)} {description : Description}

theorem Reads.filters_yield (reads : Reads settings entries description) (dialect : Dialect)
    (target : String → Relation) :
    List.Forall₂ (FilterEntry.Yields dialect target)
      (FilterEntry.ofDirective settings Directive.filter (.object entries))
      ((Filter.conditions dialect target description.filters).flatMap Condition.leaves) := by
  have filters := reads.filters
  rw [directive_single] at filters
  cases present : Json.present? Directive.filter entries with
  | none =>
      rw [present] at filters
      rw [FilterEntry.ofDirective_absent present, ← Except.ok.inj filters]
      exact .nil
  | some payload =>
      rw [present] at filters
      rw [FilterEntry.ofDirective_present present]
      exact FilterEntry.readLevel_yields payload filters

theorem Reads.having_reads {dialect : Dialect} (reads : Reads settings entries description) :
    List.Forall₂ (HavingTerm.Reads dialect)
      (FilterEntry.ofDirective settings Directive.having (.object entries))
      description.having := by
  have having := reads.having
  rw [directive_single] at having
  cases present : Json.present? Directive.having entries with
  | none =>
      rw [present] at having
      rw [FilterEntry.ofDirective_absent present, ← Except.ok.inj having]
      exact .nil
  | some payload =>
      rw [present] at having
      rw [FilterEntry.ofDirective_present present]
      cases payload with
      | object inside => exact HavingTerm.readEntries_reads having
      | _ => contradiction

theorem Reads.having_compares {dialect : Dialect} (reads : Reads settings entries description) :
    List.Forall₂ (fun entry condition => entry.Compares dialect (Text.lower entry.key) condition)
      (FilterEntry.ofDirective settings Directive.having (.object entries))
      (description.having.map (HavingTerm.statement dialect)) := by
  rw [List.forall₂_map_right_iff]
  exact reads.having_reads.imp fun entry term read => read.compares

end Description

end DeclarativeQuery
