import Mathlib.Data.List.Nodup
import DeclarativeQuery.Proofs.QueryEdits

/-!
What holds of every query, however it was built: each edit keeps it, so each run does. A query that
knows no relations loads none, one that does loads each relation once, no group among its conditions
is empty, grouped records are compared without groups or related sets, and bounds are there only if
one was given. A run that stays with its query changes neither the table nor whether relations are
known.
-/

namespace DeclarativeQuery

namespace Query

/-! Each relation is loaded once. -/

theorem putLoad_relations (load : EagerLoad) (loads : List EagerLoad) :
    (putLoad load loads).map EagerLoad.relation =
      if load.relation ∈ loads.map EagerLoad.relation then loads.map EagerLoad.relation
      else loads.map EagerLoad.relation ++ [load.relation] := by
  induction loads with
  | nil => rfl
  | cons first rest ih =>
      by_cases same : first.relation = load.relation
      · simp [putLoad, same]
      · have other : load.relation ≠ first.relation := fun equal => same equal.symm
        by_cases later : load.relation ∈ rest.map EagerLoad.relation
        · simp only [putLoad, same, ↓reduceIte, List.map_cons, ih, later, List.mem_cons, or_true]
        · simp only [putLoad, same, ↓reduceIte, List.map_cons, ih, later, List.mem_cons, other,
            or_self, List.cons_append]

theorem putLoad_nodup {loads : List EagerLoad} (load : EagerLoad)
    (distinct : (loads.map EagerLoad.relation).Nodup) :
    ((putLoad load loads).map EagerLoad.relation).Nodup := by
  rw [putLoad_relations]
  split
  · exact distinct
  next fresh =>
      have apart : List.Disjoint (loads.map EagerLoad.relation) [load.relation] :=
        List.disjoint_singleton.mpr fresh
      exact distinct.append (List.nodup_singleton load.relation) apart

theorem addLoads_nodup {query : Query} (loads : List EagerLoad)
    (distinct : (query.loads.map EagerLoad.relation).Nodup) :
    ((query.addLoads loads).loads.map EagerLoad.relation).Nodup := by
  unfold addLoads
  generalize query.loads = kept at distinct
  induction loads generalizing kept with
  | nil => exact distinct
  | cons load rest ih => exact ih (putLoad load kept) (putLoad_nodup load distinct)

/-! The invariant. -/

structure Sound (query : Query) : Prop where
  loaded_once : (query.loads.map EagerLoad.relation).Nodup
  loaded_aware : query.relationAware = false → query.loads = []
  wheres_filled : Clause.allFilled query.wheres = true
  havings_flat : ∀ clause ∈ query.havings, clause.condition.isFlat = true
  paging_bounded : ∀ paging, query.paging = some paging →
    paging.limit.isSome = true ∨ paging.offset.isSome = true

/-- A query on which nothing was built is sound. -/
theorem sound_of_fresh {query : Query} (loads : query.loads = []) (wheres : query.wheres = [])
    (havings : query.havings = []) (paging : query.paging = none) : query.Sound where
  loaded_once := by simp [loads]
  loaded_aware _ := loads
  wheres_filled := by simp [wheres, Clause.allFilled]
  havings_flat := by simp [havings]
  paging_bounded := by simp [paging]

variable {freedom : Freedom} {query edited : Query}

theorem Edit.sound (edit : Edit freedom query edited) (sound : query.Sound) : edited.Sound := by
  have filled := edit.wheres_filled sound.wheres_filled
  cases edit with
  | having flat connective =>
      refine ⟨sound.loaded_once, sound.loaded_aware, filled, ?_, sound.paging_bounded⟩
      intro clause member
      rcases List.mem_append.mp member with old | added
      · exact sound.havings_flat clause old
      · rw [List.mem_singleton.mp added]
        exact flat
  | limit bound =>
      refine ⟨sound.loaded_once, sound.loaded_aware, filled, sound.havings_flat, ?_⟩
      intro paging given
      cases given
      exact .inl rfl
  | offset bound =>
      refine ⟨sound.loaded_once, sound.loaded_aware, filled, sound.havings_flat, ?_⟩
      intro paging given
      cases given
      exact .inr rfl
  | loads aware loads =>
      refine ⟨addLoads_nodup loads sound.loaded_once, ?_, filled, sound.havings_flat,
        sound.paging_bounded⟩
      intro plain
      exact absurd aware (by simpa [addLoads] using plain)
  | enter allowed relation => exact sound_of_fresh rfl rfl rfl rfl
  | _ => exact ⟨sound.loaded_once, sound.loaded_aware, filled, sound.havings_flat,
      sound.paging_bounded⟩

theorem Edits.sound (edits : Edits freedom query edited) (sound : query.Sound) : edited.Sound :=
  edits.keep Edit.sound sound

def home : Freedom := { enter := false }

theorem Edit.same_home (edit : Edit home query edited) :
    edited.table = query.table ∧ edited.relationAware = query.relationAware := by
  cases edit with
  | enter allowed => cases allowed
  | _ => exact ⟨rfl, rfl⟩

theorem Edits.same_home (edits : Edits home query edited) :
    edited.table = query.table ∧ edited.relationAware = query.relationAware := by
  induction edits with
  | refl => exact ⟨rfl, rfl⟩
  | tail _ edit ih =>
      have last := edit.same_home
      exact ⟨last.1.trans ih.1, last.2.trans ih.2⟩

/-! Runs. -/

/-- Where a run begins: with a fresh query, or with the query over the records of a relation that
some query has loaded. -/
inductive Origin : Query → Prop
  | plain (table : String) : Origin (plain table)
  | entity (table : String) : Origin (entity table)
  | related {query start : Query} {relation : String}
      (materialized : query.relationQuery relation = .ok (some start)) : Origin start

theorem relationQuery_edits {start : Query} {relation : String}
    (materialized : query.relationQuery relation = .ok (some start)) :
    Edits freedom (query.relatedStart relation) start := by
  unfold relationQuery at materialized
  cases built : query.materialize relation with
  | none => simp [built] at materialized
  | some outcome =>
      simp only [built] at materialized
      split at materialized
      · contradiction
      · cases materialized
        exact materialize_edits built

theorem Origin.sound {start : Query} (origin : Origin start) : start.Sound := by
  cases origin with
  | plain table => exact sound_of_fresh rfl rfl rfl rfl
  | entity table => exact sound_of_fresh rfl rfl rfl rfl
  | related materialized =>
      have edits : Edits {} _ start := relationQuery_edits materialized
      exact edits.sound (sound_of_fresh rfl rfl rfl rfl)

/-- No scopes are known at first. -/
theorem Origin.scopes_within {start : Query} (origin : Origin start) (freedom : Freedom) :
    start.scopes.within freedom = true := by
  cases origin with
  | plain | entity => rfl
  | related materialized =>
      have edits : Edits freedom _ start := relationQuery_edits materialized
      exact edits.scopes_within rfl

/-- Every run leaves a sound query, whichever of its steps fail and whether failures end it or not;
and every run that stays with its query leaves the table and the awareness of relations as they
were. Going over to the query of a relation is not staying: it begins a run of its own. -/
theorem runs_leave_sound_queries {start : Query} (origin : Origin start) (depth : Nat)
    (policy : Policy) (steps : List Step) :
    (stepAll (invoker depth) policy start steps).query.Sound ∧
    (Step.listWithin home steps = true →
      (stepAll (invoker depth) policy start steps).query.table = start.table ∧
      (stepAll (invoker depth) policy start steps).query.relationAware = start.relationAware) := by
  have faithful := invoker_faithful depth
  constructor
  · have edits := stepAll_edits faithful policy steps {} start (Step.listWithin_all steps)
      (origin.scopes_within {})
    exact edits.sound origin.sound
  · intro stays
    have edits := stepAll_edits faithful policy steps home start stays (origin.scopes_within home)
    exact edits.same_home

def mixedSteps : List Step := [
  .setScopes [("recent", [
    Step.whereNested .or [Step.whereEq "a" (.whole 1), Step.orWhere "b" "=" (.whole 2)]])],
  .request (.loads {} (.array [.string "posts", .string "roles", .string "posts"])),
  .request (.description {} (.object [("scopes", .array [.string "recent", .string "gone"])])),
  .request (.description {} (.object [("scopes", .string "recent"), ("limit", .whole 3)])),
  Step.whereHas "posts" [Step.whereNested .and [], Step.whereNotNull "seen"]]

theorem mixed_steps_leave_sound_query :
    let reached := (stepAll (invoker 1) .persist (entity "users") mixedSteps).query
    Origin (entity "users") ∧ Step.listWithin home mixedSteps = true ∧
    reached.loads.map EagerLoad.relation = ["posts", "roles"] ∧ reached.wheres.length = 2 ∧
    reached.Sound ∧ reached.table = "users" ∧ reached.relationAware = true := by
  have sound := runs_leave_sound_queries (.entity "users") 1 .persist mixedSteps
  exact ⟨.entity "users", rfl, rfl, rfl, sound.1, sound.2 rfl⟩

end Query

end DeclarativeQuery
