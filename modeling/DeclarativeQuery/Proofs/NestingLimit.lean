import DeclarativeQuery.Proofs.LoadedRelations

/-!
The nesting limit. It refuses what needs more levels than it allows, and makes no other difference:
a reading that succeeds under some limit gives the same result under every higher one. The filter of
a relation to load is read under the same limit. One that is void is not read at all, so that no
limit refuses it.
-/

namespace DeclarativeQuery

/-- What a reading gives with the limit out of its way: every limit gives it, from some limit on. -/
def WithoutLimit {α : Type} (read : Nat → Except Error α) (result : α) : Prop :=
  ∃ bound, ∀ limit, bound ≤ limit → read limit = .ok result

variable {columns : List String} {limit more : Nat}

namespace Filter

theorem read_limit_iff {directive : String} {payload : Json} {filters : List Filter} :
    read ⟨limit, columns⟩ directive payload = .ok filters ↔
      WithoutLimit (fun limit => read ⟨limit, columns⟩ directive payload) filters ∧
        1 + listGroupDepth filters ≤ limit := by
  constructor
  · intro accepted
    have fits : listGroupDepth filters < limit := readLevel_depth payload accepted
    refine ⟨⟨limit, ?_⟩, by omega⟩
    intro higher above
    have room : listGroupDepth filters < higher := by omega
    exact read_elsewhere accepted ⟨higher, columns⟩ rfl room directive
  · rintro ⟨⟨bound, beyond⟩, levels⟩
    have fits : listGroupDepth filters < limit := by omega
    have accepted := beyond bound (Nat.le_refl bound)
    exact read_elsewhere accepted ⟨limit, columns⟩ rfl fits directive

theorem read_raised (higher : limit ≤ more) {directive : String} {payload : Json}
    {filters : List Filter} (accepted : read ⟨limit, columns⟩ directive payload = .ok filters) :
    read ⟨more, columns⟩ directive payload = .ok filters := by
  obtain ⟨unlimited, fits⟩ := read_limit_iff.mp accepted
  exact read_limit_iff.mpr ⟨unlimited, Nat.le_trans fits higher⟩

end Filter

namespace RelationConfig

variable {entries : List (String × Json)} {config : RelationConfig}

def Fits (entries : List (String × Json)) (config : RelationConfig) (limit : Nat) : Prop :=
  (Payload.filled? "where" entries).isSome = true → 1 + Filter.listGroupDepth config.filters ≤ limit

theorem ofEntries_fits (accepted : ofEntries ⟨limit, columns⟩ entries = .ok config) :
    Fits entries config limit := by
  obtain ⟨filtered, _, _⟩ := ofEntries_eq_ok_iff.mp accepted
  intro said
  obtain ⟨payload, present⟩ := Option.isSome_iff_exists.mp said
  rw [present, Payload.reading] at filtered
  exact (Filter.read_limit_iff.mp filtered).2

theorem ofEntries_elsewhere (accepted : ofEntries ⟨limit, columns⟩ entries = .ok config)
    (fits : Fits entries config more) : ofEntries ⟨more, columns⟩ entries = .ok config := by
  obtain ⟨filtered, selected, ordered⟩ := ofEntries_eq_ok_iff.mp accepted
  refine ofEntries_eq_ok_iff.mpr ⟨?_, selected, ordered⟩
  -- columns and order know no limit
  unfold Fits at fits
  cases present : Payload.filled? "where" entries with
  | none => rwa [present] at filtered
  | some payload =>
      rw [present, Payload.reading] at filtered
      have sound := (Filter.read_limit_iff.mp filtered).1
      exact Filter.read_limit_iff.mpr ⟨sound, fits (by simp [present])⟩

theorem ofEntries_limit_iff :
    ofEntries ⟨limit, columns⟩ entries = .ok config ↔
      WithoutLimit (fun limit => ofEntries ⟨limit, columns⟩ entries) config ∧
        Fits entries config limit := by
  constructor
  · intro accepted
    have fits := ofEntries_fits accepted
    refine ⟨⟨limit, ?_⟩, fits⟩
    intro higher above
    exact ofEntries_elsewhere accepted fun said => Nat.le_trans (fits said) above
  · rintro ⟨⟨bound, beyond⟩, fits⟩
    exact ofEntries_elsewhere (beyond bound (Nat.le_refl bound)) fits

end RelationConfig

namespace Inclusion

theorem readRelation_raised (higher : limit ≤ more) {name : String} {payload : Json}
    {load : Option EagerLoad} (accepted : readRelation ⟨limit, columns⟩ name payload = .ok load) :
    readRelation ⟨more, columns⟩ name payload = .ok load := by
  cases payload with
  | object entries =>
      rw [readRelation] at accepted ⊢
      split at accepted
      next said =>
        rw [if_pos said]
        obtain ⟨config, read, same⟩ := bind_eq_ok_iff.mp accepted
        have fits := RelationConfig.ofEntries_fits read
        have again := RelationConfig.ofEntries_elsewhere read fun said =>
          Nat.le_trans (fits said) higher
        exact bind_eq_ok_iff.mpr ⟨config, again, same⟩
      next unsaid => rwa [if_neg unsaid]
  | bool value => cases value <;> exact accepted
  | _ => exact accepted

theorem readRelations_raised (higher : limit ≤ more) {relations : List (String × Json)}
    {loads : List EagerLoad} (accepted : readRelations ⟨limit, columns⟩ relations = .ok loads) :
    readRelations ⟨more, columns⟩ relations = .ok loads := by
  induction relations generalizing loads with
  | nil => exact accepted
  | cons relation rest ih =>
      rcases relation with ⟨name, payload⟩
      obtain ⟨first, head, accepted⟩ := bind_eq_ok_iff.mp accepted
      obtain ⟨others, tail, same⟩ := bind_eq_ok_iff.mp accepted
      exact bind_eq_ok_iff.mpr ⟨first, readRelation_raised higher head,
        bind_eq_ok_iff.mpr ⟨others, ih tail, same⟩⟩

theorem read_raised (higher : limit ≤ more) {payload : Json} {loads : List EagerLoad}
    (accepted : read ⟨limit, columns⟩ payload = .ok loads) :
    read ⟨more, columns⟩ payload = .ok loads := by
  cases payload with
  | object relations => exact readRelations_raised higher accepted
  | _ => exact accepted

end Inclusion

/-- A filter is read under a limit if and only if it is read as the same filter without any, and its
groups nest so deep that with the mapping itself they take no more levels than the limit allows.
That is so under every directive, and for the filter in the configuration of a relation to load,
provided there is a filter to read. Hence a higher limit gives the result that a lower one gave, of
filters and of inclusions. -/
theorem nesting_limit_is_exact (columns : List String) (limit : Nat) :
    (∀ directive payload filters,
      Filter.read ⟨limit, columns⟩ directive payload = .ok filters ↔
        WithoutLimit (fun limit => Filter.read ⟨limit, columns⟩ directive payload) filters ∧
          1 + Filter.listGroupDepth filters ≤ limit) ∧
    (∀ entries config,
      RelationConfig.ofEntries ⟨limit, columns⟩ entries = .ok config ↔
        WithoutLimit (fun limit => RelationConfig.ofEntries ⟨limit, columns⟩ entries) config ∧
          ((Payload.filled? "where" entries).isSome = true →
            1 + Filter.listGroupDepth config.filters ≤ limit)) ∧
    (∀ more, limit ≤ more →
      (∀ directive payload filters,
        Filter.read ⟨limit, columns⟩ directive payload = .ok filters →
          Filter.read ⟨more, columns⟩ directive payload = .ok filters) ∧
      ∀ payload loads, Inclusion.read ⟨limit, columns⟩ payload = .ok loads →
        Inclusion.read ⟨more, columns⟩ payload = .ok loads) := by
  refine ⟨?_, ?_, ?_⟩
  · intro directive payload filters
    exact Filter.read_limit_iff
  · intro entries config
    exact RelationConfig.ofEntries_limit_iff
  · intro more higher
    constructor
    · intro directive payload filters accepted
      exact Filter.read_raised higher accepted
    · intro payload loads accepted
      exact Inclusion.read_raised higher accepted

def nestedGroups : Json := .object [
  ("name", .string "ada"),
  ("AND", .object [("or", .null), ("Or", .object [("and", .object [])])])]

theorem three_groups_take_four_levels :
    let filters : List Filter := [
      .leaf "name" (.compare "=" (.string "ada")),
      .group .and [.group .or [.group .and []]]]
    Filter.read ⟨4, []⟩ Directive.filter nestedGroups = .ok filters ∧ 4 ≤ 9 ∧
    Filter.read ⟨9, []⟩ Directive.filter nestedGroups = .ok filters ∧
    ∀ others, Filter.read ⟨3, []⟩ Directive.filter nestedGroups ≠ .ok others := by
  intro filters
  have accepted : Filter.read ⟨4, []⟩ Directive.filter nestedGroups = .ok filters := rfl
  have raised := (nesting_limit_is_exact [] 4).2.2 9 (by decide)
  refine ⟨accepted, by decide, raised.1 _ _ _ accepted, ?_⟩
  intro others again
  -- under the limit that is one too low it would be the same filter, which is too deep for it
  have lower := nesting_limit_is_exact [] 3
  have same := (lower.2.2 4 (by decide)).1 _ _ _ again
  rw [accepted] at same
  cases same
  have levels := ((lower.1 _ _ _).mp again).2
  contradiction

end DeclarativeQuery
