import DeclarativeQuery.Query.Basic

/-!
How loads come together with those that a query has: a load takes the place of the first one that
was there for its relation, and what is new follows in its order. Merging loads one after the other
is merging what they come to by themselves.
-/

namespace DeclarativeQuery.Query

/-! One more load. -/

theorem find?_putLoad (load : EagerLoad) (wanted : String) (loads : List EagerLoad) :
    (putLoad load loads).find? (fun kept => kept.relation == wanted) =
      if wanted = load.relation then some load
      else loads.find? fun kept => kept.relation == wanted := by
  induction loads with
  | nil =>
      by_cases same : wanted = load.relation
      · simp [putLoad, same]
      · simp [putLoad, same, Ne.symm same]
  | cons first rest ih =>
      by_cases here : first.relation = load.relation
      · by_cases same : wanted = load.relation
        · simp [putLoad, here, same]
        · simp [putLoad, here, same, Ne.symm same]
      · by_cases found : first.relation = wanted
        · have other : wanted ≠ load.relation := fun same => here (found.trans same)
          simp [putLoad, found, other]
        · simp [putLoad, here, found, ih]

theorem filter_putLoad_same {load : EagerLoad} {relation : String}
    (same : load.relation = relation) (loads : List EagerLoad) :
    (putLoad load loads).filter (fun kept => kept.relation != relation) =
      loads.filter fun kept => kept.relation != relation := by
  induction loads with
  | nil => simp [putLoad, same]
  | cons first rest ih =>
      by_cases here : first.relation = load.relation
      · simp [putLoad, here, same]
      · simp [putLoad, here, List.filter_cons, ih]

theorem filter_putLoad_other {load : EagerLoad} {relation : String}
    (other : load.relation ≠ relation) (loads : List EagerLoad) :
    (putLoad load loads).filter (fun kept => kept.relation != relation) =
      putLoad load (loads.filter fun kept => kept.relation != relation) := by
  induction loads with
  | nil => simp [putLoad, other]
  | cons first rest ih =>
      by_cases here : first.relation = load.relation
      · simp [putLoad, here, other]
      · by_cases dropped : first.relation = relation
        · have apart : relation ≠ load.relation := Ne.symm other
          simp [putLoad, dropped, apart, ih]
        · simp [putLoad, here, dropped, ih]

/-! Many of them. -/

def latestLoad (present : EagerLoad) (more : List EagerLoad) : EagerLoad :=
  (more.find? fun load => load.relation == present.relation).getD present

/-- The old loads, each replaced where there is a new one for its relation, and then the new loads
for other relations. -/
def mergedLoads : List EagerLoad → List EagerLoad → List EagerLoad
  | [], more => more
  | first :: rest, more =>
      latestLoad first more ::
        mergedLoads rest (more.filter fun load => load.relation != first.relation)

theorem latestLoad_relation (present : EagerLoad) (more : List EagerLoad) :
    (latestLoad present more).relation = present.relation := by
  unfold latestLoad
  cases found : more.find? fun load => load.relation == present.relation with
  | none => rfl
  | some load => simpa using List.find?_some found

theorem mergedLoads_nil (loads : List EagerLoad) : mergedLoads loads [] = loads := by
  induction loads with
  | nil => rfl
  | cons first rest ih => simp [mergedLoads, latestLoad, ih]

theorem mergedLoads_putLoad (load : EagerLoad) (loads more : List EagerLoad) :
    mergedLoads loads (putLoad load more) = putLoad load (mergedLoads loads more) := by
  induction loads generalizing more with
  | nil => rfl
  | cons first rest ih =>
      rw [mergedLoads, mergedLoads, putLoad, latestLoad_relation]
      by_cases same : first.relation = load.relation
      · -- the load belongs to the first of the old ones, whatever has come for that before
        rw [if_pos same, filter_putLoad_same same.symm, latestLoad, find?_putLoad, if_pos same]
        rfl
      · rw [if_neg same, filter_putLoad_other (Ne.symm same), ih, latestLoad, find?_putLoad,
          if_neg same]
        rfl

/-- Loads that come to a query one after the other are merged with its own as what they come to on
a query that has none. -/
theorem addLoads_eq_mergedLoads (query fresh : Query) (none : fresh.loads = [])
    (loads : List EagerLoad) :
    (query.addLoads loads).loads = mergedLoads query.loads (fresh.addLoads loads).loads := by
  have onto : ∀ merged : List EagerLoad,
      loads.foldl (fun kept load => putLoad load kept) (mergedLoads query.loads merged) =
        mergedLoads query.loads (loads.foldl (fun kept load => putLoad load kept) merged) := by
    induction loads with
    | nil =>
        intro merged
        rfl
    | cons load rest ih =>
        intro merged
        rw [List.foldl_cons, List.foldl_cons, ← mergedLoads_putLoad]
        exact ih (putLoad load merged)
  simp only [addLoads, none]
  rw [← onto, mergedLoads_nil]

end DeclarativeQuery.Query
