import DeclarativeQuery.Proofs.LoadedRelations
import DeclarativeQuery.Proofs.SoundQueries
import DeclarativeQuery.Proofs.WaysOfAsking

/-!
What a sequence of loads comes to. A relation keeps the place where it was named first and takes the
configuration that was given for it last, and so does the query over its records. The invariant is
kept by one more load, hence by lists of loads, however they are given.
-/

namespace DeclarativeQuery

namespace EagerLoad

def last? (wanted : String) (loads : List EagerLoad) : Option EagerLoad :=
  loads.reverse.find? fun load => load.relation == wanted

theorem last?_append (wanted : String) (loads more : List EagerLoad) :
    last? wanted (loads ++ more) = (last? wanted more).or (last? wanted loads) := by
  simp [last?]

theorem last?_singleton (wanted : String) (load : EagerLoad) :
    last? wanted [load] = if wanted = load.relation then some load else none := by
  by_cases same : wanted = load.relation
  · simp [last?, same]
  · simp [last?, same, Ne.symm same]

theorem last?_eq_none_iff {wanted : String} {loads : List EagerLoad} :
    last? wanted loads = none ↔ wanted ∉ loads.map relation := by
  simp [last?]

/-- Each relation once, where it was named first, and as it was asked for last. -/
structure Settles (given kept : List EagerLoad) : Prop where
  names : kept.map relation = (given.map relation).eraseDups
  distinct : (kept.map relation).Nodup
  latest : ∀ wanted, kept.find? (fun load => load.relation == wanted) = last? wanted given

theorem find?_of_distinct {loads : List EagerLoad} (distinct : (loads.map relation).Nodup)
    {load : EagerLoad} (member : load ∈ loads) :
    loads.find? (fun other => other.relation == load.relation) = some load := by
  induction loads with
  | nil => contradiction
  | cons first rest ih =>
      rw [List.map_cons, List.nodup_cons] at distinct
      rcases List.mem_cons.mp member with here | later
      · simp [here]
      · have other : first.relation ≠ load.relation := fun same =>
          distinct.1 (same ▸ List.mem_map_of_mem later)
        simpa [other] using ih distinct.2 later

/-- Loads are known by their names and by what is found under each name. -/
theorem filterMap_find? {loads : List EagerLoad} (distinct : (loads.map relation).Nodup) :
    (loads.map relation).filterMap
      (fun name => loads.find? fun load => load.relation == name) = loads := by
  rw [List.filterMap_map]
  calc loads.filterMap (fun load => loads.find? fun other => other.relation == load.relation)
      = loads.filterMap some :=
        List.filterMap_congr fun load member => find?_of_distinct distinct member
    _ = loads := List.filterMap_some

namespace Settles

variable {given kept other : List EagerLoad}

theorem nothing : Settles [] [] := ⟨rfl, List.nodup_nil, fun _ => rfl⟩

theorem unique (settles : Settles given kept) (also : Settles given other) : kept = other := by
  calc kept
      = (kept.map relation).filterMap fun name => kept.find? fun load => load.relation == name :=
        (filterMap_find? settles.distinct).symm
    _ = (other.map relation).filterMap fun name =>
          other.find? fun load => load.relation == name := by
        simp only [settles.names, settles.latest, also.names, also.latest]
    _ = other := filterMap_find? also.distinct

/-- One more load. -/
theorem put (settles : Settles given kept) (load : EagerLoad) :
    Settles (given ++ [load]) (Query.putLoad load kept) := by
  have named : load.relation ∈ kept.map relation ↔ load.relation ∈ given.map relation := by
    rw [settles.names, List.mem_eraseDups]
  constructor
  case names =>
    rw [Query.putLoad_relations, List.map_append, List.eraseDups_append, settles.names.symm]
    -- only a name that is new makes the list of names longer
    by_cases known : load.relation ∈ kept.map relation
    · have nothing : [load.relation].removeAll (given.map relation) = [] := by
        simpa [List.removeAll] using named.mp known
      simp [known, nothing]
    · have itself : [load.relation].removeAll (given.map relation) = [load.relation] := by
        simpa [List.removeAll] using mt named.mpr known
      simp [known, itself, List.eraseDups_cons]
  case distinct => exact Query.putLoad_nodup load settles.distinct
  case latest =>
    intro wanted
    rw [Query.find?_putLoad, settles.latest, last?_append, last?_singleton]
    split <;> rfl

/-- Many of them. -/
theorem add (settles : Settles given kept) (more : List EagerLoad) :
    Settles (given ++ more) (more.foldl (fun kept load => Query.putLoad load kept) kept) := by
  induction more generalizing given kept with
  | nil => simpa using settles
  | cons load rest ih => simpa using ih (settles.put load)

/-- What was given last may be given again. -/
theorem again {more : List EagerLoad} (settles : Settles (given ++ more) kept) :
    Settles (given ++ more ++ more) kept := by
  constructor
  case names =>
    -- none of the names is new the second time
    have nothing : (more.map relation).removeAll ((given ++ more).map relation) = [] := by
      refine List.filter_eq_nil_iff.mpr fun name listed => ?_
      have known : name ∈ (given ++ more).map relation := by
        rw [List.map_append]
        exact List.mem_append_right _ listed
      rw [Bool.not_eq_true, Bool.not_eq_false', List.elem_eq_mem]
      exact decide_eq_true known
    have split : (given ++ more ++ more).map relation =
        (given ++ more).map relation ++ more.map relation := List.map_append
    rw [settles.names, split, List.eraseDups_append, nothing, List.eraseDups_nil,
      List.append_nil]
  case distinct => exact settles.distinct
  case latest =>
    intro wanted
    rw [settles.latest, last?_append, last?_append _ _ more, last?_append, ← Option.or_assoc,
      Option.or_self]

end Settles

end EagerLoad

inductive Loading where
  /-- Loads given to the query itself. -/
  | direct (loads : List EagerLoad)
  /-- Loads that are read before they are given to the query. -/
  | read (settings : Settings) (payload : Json)
  /-- An inclusion, asked of the compiler. -/
  | inclusion (settings : Settings) (payload : Json)
  /-- A whole description. -/
  | description (settings : Settings) (payload : Json)

namespace Loading

def step : Loading → Step
  | .direct loads => .call (.load loads)
  | .read settings payload => .request (.loads settings payload)
  | .inclusion settings payload => .request (.inclusion settings payload)
  | .description settings payload => .request (.description settings payload)

/-- The description that says the same; an empty one if what is asked is refused. -/
def effect : Loading → Description
  | .direct loads => { inclusion := some loads }
  | .read settings payload => { inclusion := (Inclusion.read settings payload).toOption }
  | .inclusion settings payload => { inclusion := (Inclusion.read settings payload).toOption }
  | .description settings payload => (Description.read settings payload).toOption.getD {}

def given (way : Loading) : List EagerLoad := way.effect.inclusion.getD []

end Loading

namespace Query

open Outcome

variable {invoke : Invoker} {query : Query}

theorem withDescription_nothing (query : Query) : query.withDescription {} = query :=
  withDescription_isEmpty rfl

theorem loads_step_query (aware : query.relationAware = true) {request : Request}
    {read : Except Error (List EagerLoad)}
    (planned : request.plan query.capabilities =
      Request.unreported (read.map fun loads => [.load loads])) :
    (query.ask invoke request).query = query.withDescription { inclusion := read.toOption } := by
  cases read with
  | error error =>
      rw [ask_query_of_refused planned]
      exact (withDescription_nothing query).symm
  | ok loads =>
      have reached : (query.ask invoke request).Reaches (query.addLoads loads) :=
        ask_load_reaches aware planned
      rw [reached.query_eq]
      exact (withDescription_loads query loads).symm

theorem loading_step_query (aware : query.relationAware = true) (way : Loading)
    (scopeless : way.effect.scopes = []) :
    (step invoke query way.step).query = query.withDescription way.effect := by
  cases way with
  | direct loads =>
      have reached : (performAll invoke query [.load loads]).Reaches (query.addLoads loads) :=
        performAll_cons_reaches (load_reaches aware loads) performAll_nil_reaches
      exact reached.query_eq.trans (withDescription_loads query loads).symm
  | read settings payload => exact loads_step_query aware rfl
  | inclusion settings payload =>
      refine loads_step_query aware ?_
      simp [Request.plan, capabilities, aware]
  | description settings payload =>
      rw [Loading.effect] at scopeless ⊢
      cases read : Description.read settings payload with
      | error error =>
          have refused := plan_of_unread (not_vain_of_aware aware) read
          exact (ask_query_of_refused refused).trans (withDescription_nothing query).symm
      | ok description =>
          rw [read] at scopeless
          exact (ask_of_read invoke read scopeless fun _ => aware).query_eq

/-- Loads that were given last change nothing when they are given once more. -/
theorem addLoads_again {before loads : List EagerLoad}
    (settles : EagerLoad.Settles (before ++ loads) query.loads) : query.addLoads loads = query := by
  have same : loads.foldl (fun kept load => putLoad load kept) query.loads = query.loads :=
    (settles.add loads).unique settles.again
  rw [addLoads, same]

/-- A sequence of loadings, from a query whose loads are settled. -/
theorem loadings_settle {before : List EagerLoad} (aware : query.relationAware = true)
    (settles : EagerLoad.Settles before query.loads) (ways : List Loading)
    (scopeless : ∀ way ∈ ways, way.effect.scopes = []) :
    let found := (stepAll invoke .persist query (ways.map Loading.step)).query
    EagerLoad.Settles (before ++ ways.flatMap Loading.given) found.loads ∧
      found.relationAware = true ∧
      ∀ relation, found.relatedStart relation = query.relatedStart relation := by
  induction ways generalizing query before with
  | nil => simpa [stepAll, done] using ⟨settles, aware⟩
  | cons way rest ih =>
      have here := scopeless way List.mem_cons_self
      have later := fun other member => scopeless other (List.mem_cons_of_mem way member)
      have first : (step invoke query way.step).query = query.withDescription way.effect :=
        loading_step_query aware way here
      have reached : (stepAll invoke .persist query ((way :: rest).map Loading.step)).query =
          (stepAll invoke .persist (query.withDescription way.effect)
            (rest.map Loading.step)).query := by
        rw [← first]
        rfl
      have onward := @ih (query.withDescription way.effect) _ aware (settles.add way.given) later
      rw [← reached, List.append_assoc, ← List.flatMap_cons] at onward
      -- a description leaves alone what the queries over related records begin with
      exact onward

/-- From a query that knows relations and loads none, however the loads are given: each relation
that was named is loaded once, in the order in which they were first named, and as it was asked for
last. Giving the last loads once more changes nothing. There is a query over the records of these
relations and of no others, and it is the one that the last configuration makes. -/
theorem loads_keep_first_place_and_last_configuration (invoke : Invoker) (query : Query)
    (aware : query.relationAware = true) (fresh : query.loads = []) (ways : List Loading)
    (scopeless : ∀ way ∈ ways, way.effect.scopes = []) :
    let found := (stepAll invoke .persist query (ways.map Loading.step)).query
    let given := ways.flatMap Loading.given
    EagerLoad.Settles given found.loads ∧
    (∀ earlier way, ways = earlier ++ [way] →
      (perform invoke found (.load way.given)).Reaches found) ∧
    ∀ relation,
      (relation ∉ given.map EagerLoad.relation → found.relationQuery relation = .ok none) ∧
      (relation ∈ given.map EagerLoad.relation → ∃ load built,
        EagerLoad.last? relation given = some load ∧
        (performAll invoke (query.relatedStart relation) load.configuration.calls).Reaches built ∧
        found.relationQuery relation = .ok (some built)) := by
  intro found given
  have start : EagerLoad.Settles [] query.loads := fresh ▸ .nothing
  obtain ⟨settles, foundAware, begins⟩ : EagerLoad.Settles ([] ++ given) found.loads ∧
      found.relationAware = true ∧
      ∀ relation, found.relatedStart relation = query.relatedStart relation :=
    loadings_settle aware start ways scopeless
  rw [List.nil_append] at settles
  refine ⟨settles, ?_, fun relation => ⟨?_, ?_⟩⟩
  · intro earlier way last
    have split : given = earlier.flatMap Loading.given ++ way.given := by
      simp [given, last]
    rw [split] at settles
    exact (load_reaches foundAware way.given).to (addLoads_again settles)
  · intro unnamed
    have absent := (settles.latest relation).trans (EagerLoad.last?_eq_none_iff.mpr unnamed)
    simp [relationQuery, materialize, absent]
  · intro named
    have loaded : EagerLoad.last? relation given ≠ none := fun absent =>
      EagerLoad.last?_eq_none_iff.mp absent named
    obtain ⟨load, last⟩ := Option.ne_none_iff_exists'.mp loaded
    have built := relationQuery_of_loaded ((settles.latest relation).trans last)
    rw [begins] at built
    exact ⟨load, _, last, config_calls_reaches load.configuration, built⟩

def fans : Query := { entity "users" with
  relations := [("posts", ⟨"articles", some "articles.user_id = users.id"⟩)]
  scopes := Registry.ofList [("active", Scope.notNull "seen")] }

def fanLoadings : List Loading := [
  .direct [{ relation := "posts" }, { relation := "roles" }, { relation := "posts" }],
  .read {} (.object [("0", .string "tags"), ("tags", .object [("fields", .string "name")])]),
  .inclusion {} (.array [.string "gone", .whole 3]),
  .description {} (.object [
    ("limit", .whole 5),
    ("include", .object [
      ("roles", .object [("order", .string "Rank desc")]),
      ("posts", .object [("where", .object [("Title", .string "a")])])])]),
  .inclusion {} (.string "roles")]

theorem fan_loads_settle :
    let found := (stepAll withoutScopes .persist fans (fanLoadings.map Loading.step)).query
    let given := fanLoadings.flatMap Loading.given
    fans.relationAware = true ∧ fans.loads = [] ∧
    (∀ way ∈ fanLoadings, way.effect.scopes = []) ∧
    given.map EagerLoad.relation =
      ["posts", "roles", "posts", "tags", "tags", "roles", "posts", "roles"] ∧
    found.loads.map (fun load => (load.relation, load.isPlain)) =
      [("posts", false), ("roles", true), ("tags", false)] ∧
    EagerLoad.Settles given found.loads ∧
    (perform withoutScopes found (.load [{ relation := "roles" }])).Reaches found ∧
    found.relationQuery "gone" = .ok none ∧
    ∃ load built, EagerLoad.last? "posts" given = some load ∧
      (performAll withoutScopes (fans.relatedStart "posts") load.configuration.calls).Reaches
        built ∧
      found.relationQuery "posts" = .ok (some built) ∧
      built.sql = "SELECT * FROM articles WHERE title = 'a'" := by
  intro found given
  have scopeless : ∀ way ∈ fanLoadings, way.effect.scopes = [] := by
    simp only [fanLoadings, List.forall_mem_cons]
    exact ⟨rfl, rfl, rfl, rfl, rfl, List.forall_mem_nil _⟩
  obtain ⟨settles, again, related⟩ :=
    loads_keep_first_place_and_last_configuration withoutScopes fans rfl rfl fanLoadings scopeless
  obtain ⟨load, built, last, carried, materialized⟩ := (related "posts").2 (by decide +kernel)
  have text : (found.relationQuery "posts").toOption.join.map Query.sql =
      some "SELECT * FROM articles WHERE title = 'a'" := by
    decide +kernel
  rw [materialized] at text
  exact ⟨rfl, rfl, scopeless, rfl, rfl, settles,
    again (fanLoadings.take 4) (.inclusion {} (.string "roles")) rfl,
    (related "gone").1 (by decide +kernel), load, built, last, carried, materialized,
    Option.some.inj text⟩

end Query

end DeclarativeQuery
