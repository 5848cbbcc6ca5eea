import DeclarativeQuery.Proofs.FilterEntries
import DeclarativeQuery.Proofs.LowerCase

/-!
Operators that are resolved once and for all. Resolving what a token stands for changes nothing, but
for one token: `nlike` with the Kelvin sign for its k is no short name, yet its lower-case form is
one. The operators that an accepted filter compares with are therefore settled, unless it has that
token.
-/

namespace DeclarativeQuery

namespace Operator

def kelvinToken : String := "nli\u212ae"

def IsKelvinToken (token : String) : Prop := Text.equalIgnoringCase token kelvinToken = true

instance (token : String) : Decidable (IsKelvinToken token) := by
  unfold IsKelvinToken
  infer_instance

theorem resolve_congr {first second : String}
    (same : Text.equalIgnoringCase first second = true) : resolve first = resolve second := by
  simp only [resolve, Text.equalIgnoringCase_right same, Text.lower_congr same]

/-- A token is a short name, or is lowered. -/
theorem resolve_cases (token : String) :
    (∃ known ∈ aliases, Text.equalIgnoringCase known.1 token = true ∧ resolve token = known.2) ∨
    (∀ known ∈ aliases, Text.equalIgnoringCase known.1 token = false) ∧
      resolve token = Text.lower token := by
  unfold resolve
  split
  next short operator found =>
    left
    exact ⟨_, List.mem_of_find?_eq_some found, by simpa using List.find?_some found, rfl⟩
  next found =>
    right
    simpa using found

theorem resolve_kelvin {token : String} (kelvin : IsKelvinToken token) : resolve token = "nlike" :=
  (resolve_congr kelvin).trans (by decide)

/-- No operator is a short name. -/
theorem short_apart : ∀ known ∈ aliases, ∀ other ∈ aliases,
    Text.equalIgnoringCase other.1 known.2 = false := by
  decide

theorem resolve_operator : ∀ known ∈ aliases, resolve known.2 = known.2 := by
  have small : ∀ known ∈ aliases,
      (known.2.toList.all fun c => decide (c.toNat ≤ 0x7a) && !c.isUpper) = true := by decide
  intro known listed
  rcases resolve_cases known.2 with ⟨other, among, alike, _⟩ | ⟨_, lowered⟩
  · rw [short_apart known listed other among] at alike
    exact absurd alike Bool.false_ne_true
  · rw [lowered, Text.lower_of_small (small known listed)]

theorem equalIgnoringCase_short {known : String × String} (listed : known ∈ aliases)
    (token : String) :
    Text.equalIgnoringCase known.1 token = true ↔
      token.toList.map Char.toLower = known.1.toList := by
  have small : ∀ known ∈ aliases, known.1.toList.map Char.toLower = known.1.toList := by
    decide
  rw [Text.equalIgnoringCase, small known listed, beq_iff_eq, eq_comm]

theorem toLower_of_spelled {c d : Char} (spelled : Text.spelledLetter c = d) (other : d ≠ 'k') :
    c.toLower = d := by
  unfold Text.spelledLetter at spelled
  split at spelled
  · exact absurd spelled.symm other
  · exact spelled

theorem isKelvinToken_of_spelled {token : String}
    (spelled : token.toList.map Text.spelledLetter = ['n', 'l', 'i', 'k', 'e'])
    (kelvin : '\u212a' ∈ token.toList) : IsKelvinToken token := by
  simp only [List.map_eq_cons_iff, List.map_eq_nil_iff] at spelled
  obtain ⟨c₁, _, whole, n, c₂, _, rfl, l, c₃, _, rfl, i, c₄, _, rfl, k, c₅, _, rfl, e, rfl⟩ :=
    spelled
  have first := toLower_of_spelled n (by decide)
  have second := toLower_of_spelled l (by decide)
  have third := toLower_of_spelled i (by decide)
  have fifth := toLower_of_spelled e (by decide)
  -- the sign spells a k and nothing else
  have sign : c₄ = '\u212a' := by
    rw [whole] at kelvin
    simp only [List.mem_cons, List.not_mem_nil, or_false] at kelvin
    rcases kelvin with same | same | same | same | same
    · rw [← same] at first
      contradiction
    · rw [← same] at second
      contradiction
    · rw [← same] at third
      contradiction
    · exact same.symm
    · rw [← same] at fifth
      contradiction
  have folded : token.toList.map Char.toLower = kelvinToken.toList.map Char.toLower := by
    rw [whole, sign]
    simp only [List.map_cons, first, second, third, fifth]
    rfl
  rw [IsKelvinToken, Text.equalIgnoringCase, folded, beq_self_eq_true]

/-- One short name has a k, and the Kelvin sign may stand for it. -/
theorem short_of_lower {token : String} {known : String × String} (listed : known ∈ aliases)
    (lowered : Text.lower token = known.1) :
    Text.equalIgnoringCase known.1 token = true ∨ IsKelvinToken token := by
  have letters : ∀ known ∈ aliases, known.1.toList.all Char.isLower = true := by decide
  have spelled : token.toList.map Text.spelledLetter = known.1.toList := by
    apply Text.spelling_of_lowerAfter (List.all_eq_true.mp (letters known listed))
    rw [← lowered, Text.lower, String.toList_ofList]
  by_cases kelvin : '\u212a' ∈ token.toList
  · right
    have only : ∀ known ∈ aliases, 'k' ∈ known.1.toList →
        known.1.toList = ['n', 'l', 'i', 'k', 'e'] := by decide
    have present : 'k' ∈ known.1.toList := by
      rw [← spelled]
      exact List.mem_map_of_mem kelvin
    rw [only known listed present] at spelled
    exact isKelvinToken_of_spelled spelled kelvin
  · left
    rw [equalIgnoringCase_short listed, ← spelled]
    apply List.map_congr_left
    intro c member
    have other : c ≠ '\u212a' := ne_of_mem_of_not_mem member kelvin
    rw [Text.spelledLetter, if_neg other]

/-- What a token stands for is settled, unless the token is the one exception. -/
theorem resolve_resolve_iff (token : String) :
    resolve (resolve token) = resolve token ↔ ¬ IsKelvinToken token := by
  constructor
  · intro settled kelvin
    rw [resolve_kelvin kelvin] at settled
    revert settled
    decide
  · intro plain
    rcases resolve_cases token with ⟨known, listed, _, same⟩ | ⟨unknown, same⟩
    · rw [same]
      exact resolve_operator known listed
    rw [same]
    rcases resolve_cases (Text.lower token) with ⟨known, listed, alike, _⟩ | ⟨_, again⟩
    · -- the lower-case form is a short name, so the token is one or is the exception
      rw [equalIgnoringCase_short listed, Text.map_toLower_lower] at alike
      rcases short_of_lower listed (String.toList_inj.mp alike) with spelled | kelvin
      · rw [unknown known listed] at spelled
        exact absurd spelled Bool.false_ne_true
      · exact absurd kelvin plain
    · rw [again, Text.lower_lower]

/-- A settled operator is not a short name that could be resolved further. -/
theorem short_of_settled {operator : String} (settled : resolve operator = operator) :
    ∀ known ∈ aliases, Text.equalIgnoringCase known.1 operator = false := by
  rcases resolve_cases operator with ⟨known, listed, _, same⟩ | ⟨unknown, _⟩
  · rw [← settled, same]
    exact short_apart known listed
  · exact unknown

end Operator

/-! The operators of a filter. -/

def Predicate.operator? : Predicate → Option String
  | .compare operator _ => some operator
  | _ => none

namespace Filter

mutual

def operators : Filter → List String
  | .group _ filters => listOperators filters
  | .leaf _ predicate => predicate.operator?.toList
  | .related _ _ predicate => predicate.operator?.toList
termination_by structural filter => filter

def listOperators : List Filter → List String
  | [] => []
  | filter :: rest => filter.operators ++ listOperators rest
termination_by structural filters => filters

end

end Filter

/-- The operator that a condition compares with, in a dialect without an operator for searches. -/
def Condition.operator? : Condition → Option String
  | .compare _ operator _ => some operator
  | .related _ _ [⟨.compare _ operator _, _⟩] => some operator
  | _ => none

def FilterEntry.comparison? (entry : FilterEntry) : Option String :=
  match entry.operator? with
  | none => some "="
  | some operator =>
      if operator ∈ ["not null", "between", "in", "not in", "search"] then none else some operator

theorem Predicate.operator?_condition (field : String) (predicate : Predicate) :
    (predicate.condition .other field).operator? = predicate.operator? := by
  cases predicate <;> rfl

section Operators
variable {target : String → Relation}

theorem Predicate.operator?_relatedCondition (relation field : String) (predicate : Predicate) :
    (Filter.relatedCondition .other target relation field predicate).operator? =
      predicate.operator? := by
  cases predicate <;> rfl

mutual

theorem Filter.operators_condition? : ∀ filter : Filter,
    ((Filter.conditions .other target [filter]).flatMap Condition.leaves).filterMap
      Condition.operator? = filter.operators
  | .group connective filters => by
      rw [FilterEntry.conditions_group, Filter.listOperators_conditions, Filter.operators]
  | .leaf field predicate => by
      have one : (Filter.conditions .other target [.leaf field predicate]).flatMap _ = _ :=
        FilterEntry.conditions_leaf field [predicate]
      rw [one, List.map_singleton, List.filterMap_cons, predicate.operator?_condition,
        Filter.operators]
      cases predicate.operator? <;> rfl
  | .related relation field predicate => by
      have one : (Filter.conditions .other target [.related relation field predicate]).flatMap _ =
          _ := FilterEntry.conditions_related relation field [predicate]
      rw [one, List.map_singleton, List.filterMap_cons, predicate.operator?_relatedCondition,
        Filter.operators]
      cases predicate.operator? <;> rfl
termination_by structural filter => filter

theorem Filter.listOperators_conditions : ∀ filters : List Filter,
    ((Filter.conditions .other target filters).flatMap Condition.leaves).filterMap
      Condition.operator? = Filter.listOperators filters
  | [] => rfl
  | filter :: rest => by
      rw [← List.singleton_append, FilterEntry.conditions_append, List.flatMap_append,
        List.filterMap_append, Filter.operators_condition? filter,
        Filter.listOperators_conditions rest]
      rfl
termination_by structural filters => filters

end

theorem FilterEntry.Compares.operator?_eq {field : String} {entry : FilterEntry}
    {condition : Condition} (compares : entry.Compares .other field condition) :
    condition.operator? = entry.comparison? := by
  unfold FilterEntry.comparison?
  cases compares with
  | bare operator =>
      rw [operator]
      rfl
  | other stated plain =>
      rw [stated]
      exact (if_neg plain).symm
  | notNull stated | between stated _ | oneOfList stated _ | oneOfSingle stated _
  | noneOfList stated _ | noneOfSingle stated _ | searchText stated _ | searchNumber stated _ =>
      rw [stated]
      rfl

theorem FilterEntry.Yields.operator?_eq {entry : FilterEntry} {condition : Condition}
    (yields : entry.Yields .other target condition) :
    condition.operator? = entry.comparison? := by
  cases yields with
  | own dotless compares => exact compares.operator?_eq
  | related cut last compares =>
      rw [← compares.operator?_eq]
      cases compares <;> rfl

theorem FilterEntry.operators_of_forall₂ {entries : List FilterEntry} {conditions : List Condition}
    (yields : List.Forall₂ (FilterEntry.Yields .other target) entries conditions) :
    conditions.filterMap Condition.operator? = entries.filterMap FilterEntry.comparison? := by
  induction yields with
  | nil => rfl
  | cons head _ ih => rw [List.filterMap_cons, List.filterMap_cons, head.operator?_eq, ih]

/-- An accepted filter compares with what its entries say, in their order. -/
theorem Filter.read_operators {settings : Settings} {directive : String} {payload : Json}
    {filters : List Filter} (accepted : Filter.read settings directive payload = .ok filters) :
    Filter.listOperators filters =
      (FilterEntry.ofFilter settings payload).filterMap FilterEntry.comparison? := by
  have target : String → Relation := fun name => { table := name }
  have yields : List.Forall₂ (FilterEntry.Yields .other target) _ _ :=
    FilterEntry.readLevel_yields payload accepted
  rw [← Filter.listOperators_conditions, FilterEntry.operators_of_forall₂ yields]

end Operators

namespace Operator

theorem comparison_settled_iff (entry : FilterEntry) :
    (∀ operator, entry.comparison? = some operator → resolve operator = operator) ↔
      ∀ token, entry.token = some token → ¬ IsKelvinToken token := by
  rcases entry with ⟨key, token, operand⟩
  cases token with
  | none =>
      have bare : resolve "=" = "=" := resolve_operator ("eq", "=") (by decide)
      simp [FilterEntry.comparison?, FilterEntry.operator?, bare]
  | some token =>
      simp only [FilterEntry.comparison?, FilterEntry.operator?, Option.map_some,
        Option.some.injEq, forall_eq']
      by_cases special : resolve token ∈ ["not null", "between", "in", "not in", "search"]
      · -- the exception is read as a comparison
        have plain : ¬ IsKelvinToken token := by
          intro kelvin
          rw [resolve_kelvin kelvin] at special
          exact absurd special (by decide)
        simp [special, plain]
      · simp only [special, ↓reduceIte, Option.some.injEq, forall_eq']
        exact resolve_resolve_iff token

/-- Resolving what a token stands for changes nothing if and only if the token is not `nlike` with
the Kelvin sign for its k, in any case; otherwise a token never stands for a short name. An accepted
filter compares with settled operators only, at every depth, if and only if none of its entries has
that token. -/
theorem operators_settle_without_kelvin (settings : Settings) (directive : String) :
    (∀ token, (resolve (resolve token) = resolve token ↔ ¬ IsKelvinToken token) ∧
      (¬ IsKelvinToken token →
        ∀ known ∈ aliases, Text.equalIgnoringCase known.1 (resolve token) = false)) ∧
    ∀ payload filters, Filter.read settings directive payload = .ok filters →
      ((∀ operator ∈ Filter.listOperators filters, resolve operator = operator) ↔
        ∀ entry ∈ FilterEntry.ofFilter settings payload, ∀ token, entry.token = some token →
          ¬ IsKelvinToken token) := by
  constructor
  · intro token
    refine ⟨resolve_resolve_iff token, ?_⟩
    intro plain
    exact short_of_settled ((resolve_resolve_iff token).mpr plain)
  · intro payload filters accepted
    rw [Filter.read_operators accepted, List.forall_mem_filterMap]
    constructor
    · intro settled entry member
      exact (comparison_settled_iff entry).mp (settled entry member)
    · intro plain entry member
      exact (comparison_settled_iff entry).mpr (plain entry member)

def mixedOperators : Json := .object [
  ("age", .object [("GTE", .whole 18), ("Ilike", .string "a%"), ("nn", .null)]),
  ("or", .object [("posts.title", .object [("NLike", .string "b"), ("search", .string "c")])])]

theorem mixed_operators_are_settled :
    ¬ IsKelvinToken "GTE" ∧ resolve (resolve "GTE") = resolve "GTE" ∧
    ∃ filters, Filter.read {} "where" mixedOperators = .ok filters ∧
      Filter.listOperators filters = [">=", "ilike", "not like"] ∧
      ∀ operator ∈ Filter.listOperators filters, resolve operator = operator := by
  have law := operators_settle_without_kelvin {} "where"
  have plain : ¬ IsKelvinToken "GTE" := by decide
  have tokens : ∀ token ∈ (FilterEntry.ofFilter {} mixedOperators).filterMap FilterEntry.token,
      ¬ IsKelvinToken token := by decide +kernel
  obtain ⟨filters, accepted⟩ := exists_ok_of_isOk
    (show (Filter.read {} "where" mixedOperators).isOk = true by decide +kernel)
  refine ⟨plain, (law.1 "GTE").1.mpr plain, filters, accepted, ?_, ?_⟩
  · rw [Filter.read_operators accepted]
    decide +kernel
  · apply (law.2 _ _ accepted).mpr
    intro entry member token stated
    exact tokens token (List.mem_filterMap.mpr ⟨entry, member, stated⟩)

/-- It should stand for `not like` or for itself, and not for what stands for `not like`. -/
theorem kelvin_token_stands_for_short_name :
    let payload : Json := .object [("name", .object [("NLI\u212aE", .string "a")])]
    resolve "NLI\u212aE" = "nlike" ∧ resolve (resolve "NLI\u212aE") = "not like" ∧
    ∃ filters, Filter.read {} "where" payload = .ok filters ∧
      Filter.listOperators filters = ["nlike"] ∧ resolve "nlike" ≠ "nlike" := by
  intro payload
  obtain ⟨filters, accepted⟩ := exists_ok_of_isOk
    (show (Filter.read {} "where" payload).isOk = true by decide +kernel)
  refine ⟨by decide +kernel, by decide +kernel, filters, accepted, ?_, by decide +kernel⟩
  rw [Filter.read_operators accepted]
  decide +kernel

end Operator

end DeclarativeQuery
