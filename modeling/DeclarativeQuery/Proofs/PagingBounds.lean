import DeclarativeQuery.Proofs.DecimalNumerals
import DeclarativeQuery.Proofs.IndependentDescriptions
import DeclarativeQuery.Proofs.KnownScopes
import DeclarativeQuery.Proofs.QuoteFreeText
import DeclarativeQuery.Proofs.RestatedDescriptions
import DeclarativeQuery.Proofs.TrimmedText

/-!
Bounds on the records of a query, from the payload to the text. A payload states a bound of 64 bits
as a number or as its numeral; every other payload is refused. The two ways to state a bound may be
exchanged in any description, and the query prints the bound as it was stated.
-/

namespace DeclarativeQuery

namespace Text

theorem isBlank_of_numeral {c : Char} (numeral : isNumeral c = true) : isBlank c = false := by
  simp only [isNumeral, Bool.or_eq_true, decide_eq_true_eq] at numeral
  rcases numeral with (((digit | rfl) | rfl) | rfl) | rfl
  · -- between the two bounds of the digits there is no blank
    simp only [Char.isDigit, Bool.and_eq_true, decide_eq_true_eq] at digit
    have low : 0x30 ≤ c.toNat := digit.1
    have high : c.toNat ≤ 0x39 := digit.2
    rw [← Bool.not_eq_true]
    intro blank
    have code := mem_blankCodes blank
    simp [blankCodes] at code
    omega
  · decide
  · decide
  · decide
  · decide

theorem trim_intText (value : Int) : trim (intText value).toList = intDigits value := by
  have trimmed : Trimmed (intText value).toList := trimmed_of_solid fun c member =>
    isBlank_of_numeral (intText_numeral value c member)
  rw [trimmed.trim_eq, intText, String.toList_ofList]

end Text

namespace Payload

variable {directive : String} {payload first second : Json} {bound : Int}

/-- A number of 64 bits, or a numeral of one with any blanks around it. -/
inductive States : Json → Int → Prop
  | number {bound : Int} (within : Text.Within64 bound) : States (.whole bound) bound
  | numeral {text : String} {bound : Int} (within : Text.Within64 bound)
      (denoted : Text.Denotes (Text.trim text.toList) bound) : States (.string text) bound

theorem bound?_eq_some_iff : bound? payload = some bound ↔ States payload bound := by
  constructor
  · intro read
    unfold bound? at read
    split at read
    next value =>
      obtain ⟨within, same⟩ := Option.ite_none_right_eq_some.mp read
      exact Option.some.inj same ▸ .number within
    next text =>
      obtain ⟨denoted, within⟩ := Text.readInt64_eq_some_iff.mp read
      exact .numeral within denoted
    next => contradiction
  · intro states
    cases states with
    | number within => exact if_pos within
    | numeral within denoted => exact Text.readInt64_eq_some_iff.mpr ⟨denoted, within⟩

theorem readBound_eq_ok_iff : readBound directive payload = .ok bound ↔ States payload bound := by
  rw [← bound?_eq_some_iff, readBound]
  cases bound? payload with
  | none => simp [invalid]
  | some value => simp

theorem readBound_of_unstated (unstated : ∀ bound, ¬ States payload bound) :
    readBound directive payload = .error (.invalidArgument directive (.boundShape payload)) := by
  have none : bound? payload = none := by
    rw [Option.eq_none_iff_forall_ne_some]
    intro bound read
    exact unstated bound (bound?_eq_some_iff.mp read)
  rw [readBound, none, invalid]

theorem states_intText (within : Text.Within64 bound) :
    States (.string (Text.intText bound)) bound := by
  refine .numeral within ?_
  rw [Text.trim_intText]
  exact Text.intDigits_denotes bound

theorem States.present (states : States payload bound) : payload.isNull = false := by
  cases states <;> rfl

end Payload

/-! Exchanging values that state the same bound -/

namespace Json

variable {first second : Json}

/-- A value in a mapping is exchanged for another one. Under its own key one finds the one or the
other, unless an earlier entry has the key. -/
theorem present?_exchanged (firstGiven : first.isNull = false) (secondGiven : second.isNull = false)
    (before after : List (String × Json)) (key wanted : String) :
    present? wanted (before ++ (key, first) :: after) =
        present? wanted (before ++ (key, second) :: after) ∨
      wanted = key ∧ present? wanted (before ++ (key, first) :: after) = some first ∧
        present? wanted (before ++ (key, second) :: after) = some second := by
  simp only [present?, List.lookup_append]
  cases before.lookup wanted with
  | some earlier => exact .inl rfl
  | none =>
      by_cases here : wanted = key
      · right
        subst here
        simp [Option.filter, firstGiven, secondGiven]
      · left
        rw [Entries.lookup_cons_of_ne here, Entries.lookup_cons_of_ne here]

end Json

namespace Description

variable {settings : Settings} {entries others before after : List (String × Json)}

/-- A directive is read alike if it is found alike or what is found is read alike. -/
theorem directive_congr {α : Type} {keys : List String} {default : α}
    {read : String → Json → Except Error α}
    (alike : ∀ key ∈ keys, Json.present? key entries = Json.present? key others ∨
      ∃ first second, Json.present? key entries = some first ∧
        Json.present? key others = some second ∧ read key first = read key second) :
    directive entries keys default read = directive others keys default read := by
  unfold directive
  induction keys with
  | nil => rfl
  | cons key rest ih =>
      obtain ⟨here, later⟩ := List.forall_mem_cons.mp alike
      rcases here with same | ⟨first, second, found, exchanged, read⟩
      · rw [firstPresent?, firstPresent?, same]
        cases Json.present? key others with
        | none => exact ih later
        | some payload => rfl
      · simp only [firstPresent?, found, exchanged, read]

def boundKeys : List String := [Directive.limit, Directive.offset, Directive.skip]

theorem boundKeys_apart : ∀ key ∈ boundKeys, ∀ keys ∈ [[Directive.inclusion], [Directive.filter],
    [Directive.has], [Directive.scopes], [Directive.fields], [Directive.order],
    [Directive.groupBy, Directive.groupBySnake], [Directive.having]], key ∉ keys := by
  decide

section
variable {key : String} {first second : Json} {bound : Int}

/-- Other directives do not see that one value stands for another. -/
theorem directive_elsewhere (firstGiven : first.isNull = false)
    (secondGiven : second.isNull = false) {α : Type} {keys : List String} (apart : key ∉ keys)
    (before after : List (String × Json)) (default : α)
    (read : String → Json → Except Error α) :
    directive (before ++ (key, first) :: after) keys default read =
      directive (before ++ (key, second) :: after) keys default read := by
  refine directive_congr fun wanted among => ?_
  rcases Json.present?_exchanged firstGiven secondGiven before after key wanted
    with same | ⟨here, _⟩
  · exact .inl same
  · exact absurd (here ▸ among) apart

theorem directive_bound_exchanged (firstStates : Payload.States first bound)
    (secondStates : Payload.States second bound) (keys : List String)
    (before after : List (String × Json)) :
    directive (before ++ (key, first) :: after) keys none (fun key payload =>
        (Payload.readBound key payload).map some) =
      directive (before ++ (key, second) :: after) keys none (fun key payload =>
        (Payload.readBound key payload).map some) := by
  refine directive_congr fun wanted _ => ?_
  rcases Json.present?_exchanged firstStates.present secondStates.present before after key wanted
    with same | ⟨_, found, other⟩
  · exact .inl same
  · refine .inr ⟨first, second, found, other, ?_⟩
    rw [Payload.readBound_eq_ok_iff.mpr firstStates, Payload.readBound_eq_ok_iff.mpr secondStates]

theorem ofEntries_exchanged (bounding : key ∈ boundKeys) (firstStates : Payload.States first bound)
    (secondStates : Payload.States second bound) (before after : List (String × Json)) :
    ofEntries settings (before ++ (key, first) :: after) =
      ofEntries settings (before ++ (key, second) :: after) := by
  have bounds := @directive_bound_exchanged key first second bound firstStates secondStates
  have elsewhere {α : Type} {keys : List String} (apart : key ∉ keys) :=
    @directive_elsewhere key first second firstStates.present secondStates.present α keys apart
  have apart := boundKeys_apart key bounding
  simp only [List.forall_mem_cons] at apart
  obtain ⟨inclusion, filters, has, scopes, fields, order, groupBy, having, _⟩ := apart
  simp only [ofEntries, bounds, elsewhere inclusion, elsewhere filters, elsewhere has,
    elsewhere scopes, elsewhere fields, elsewhere order, elsewhere groupBy, elsewhere having]

end

/-- A description with nothing but a bound. -/
theorem read_bound_only {key : String} {value : Json} {bound : Int}
    (bounding : key ∈ boundKeys) (states : Payload.States value bound) :
    ∃ limit offset, read settings (.object [(key, value)]) = .ok { limit, offset } := by
  have stated (key : String) (describe : Option Int → Description) :
      ((Payload.readBound key value).map some >>= fun bound => .ok (describe bound)) =
        .ok (describe (some bound)) := by
    rw [Payload.readBound_eq_ok_iff.mpr states]
    rfl
  simp only [boundKeys, List.mem_cons, List.not_mem_nil, or_false] at bounding
  rcases bounding with rfl | rfl | rfl
  · refine ⟨some bound, none, .trans ?_ (stated Directive.limit fun limit => { limit })⟩
    cases states <;> rfl
  · refine ⟨none, some bound, .trans ?_ (stated Directive.offset fun offset => { offset })⟩
    cases states <;> rfl
  · refine ⟨none, some bound, .trans ?_ (stated Directive.skip fun offset => { offset })⟩
    cases states <;> rfl

/-- What a directive with a bound says, if the value that counts for it states one. -/
theorem directive_bound {keys : List String} {key : String} {value : Json} {bound : Int}
    {result : Option Int} (found : firstPresent? entries keys = some (key, value))
    (states : Payload.States value bound)
    (accepted : directive entries keys none (fun key payload =>
      (Payload.readBound key payload).map some) = .ok result) : result = some bound := by
  simp only [directive, found, Payload.readBound_eq_ok_iff.mpr states] at accepted
  exact (Except.ok.inj accepted).symm

end Description

namespace Query

open Outcome

variable {invoke : Invoker} {query : Query} {settings : Settings} {payload : Json}
  {description : Description}

theorem apply_exchanged {key : String} {first second : Json} {bound : Int}
    (bounding : key ∈ Description.boundKeys) (firstStates : Payload.States first bound)
    (secondStates : Payload.States second bound) (before after : List (String × Json)) :
    query.apply settings (.object (before ++ (key, first) :: after)) =
      query.apply settings (.object (before ++ (key, second) :: after)) := by
  have apart : Directive.inclusion ≠ key := by
    rintro rfl
    exact Description.boundKeys_apart _ bounding _ List.mem_cons_self List.mem_cons_self
  have wanted : Request.wantsInclusion (.object (before ++ (key, first) :: after)) =
      Request.wantsInclusion (.object (before ++ (key, second) :: after)) := by
    rcases Json.present?_exchanged firstStates.present secondStates.present before after key
      Directive.inclusion with same | ⟨here, _⟩
    · rw [Request.wantsInclusion, Request.wantsInclusion, same]
    · exact absurd here apart
  simp only [apply, ask, Request.plan, Request.planDescription, Description.read, wanted,
    Description.ofEntries_exchanged bounding firstStates secondStates before after]

theorem apply_bound_only {key : String} {value : Json} {bound : Int}
    (bounding : key ∈ Description.boundKeys) (states : Payload.States value bound) (query : Query)
    (settings : Settings) : (query.apply settings (.object [(key, value)])).failure = none := by
  obtain ⟨limit, offset, read⟩ := Description.read_bound_only bounding states
  have unasked : (Option.none : Option (List EagerLoad)).isSome = true →
      query.relationAware = true := by
    intro included
    contradiction
  exact (ask_of_read (invoker scopeDepth) read rfl unasked).unfailing

/-- The last calls of a run that succeeds are carried out. -/
theorem append_unfailing {before after : List Call}
    (accepted : (performAll invoke query (before ++ after)).failure = none) :
    ∃ middle, (performAll invoke query (before ++ after)).query =
      (performAll invoke middle after).query := by
  cases ended : (performAll invoke query before).failure with
  | none => exact ⟨_, (append_of_reaches ⟨rfl, ended⟩ after).2⟩
  | some error =>
      rw [append_of_failure ended, ended] at accepted
      contradiction

/-- Whatever the scopes of a description do, its bounds come after them. -/
theorem described_bounds (accepted : (performAll invoke query description.calls).failure = none)
    (bounded : description.isEmpty = false) :
    ∃ middle : Query, (performAll invoke query description.calls).query.paging =
      boundedPaging middle.paging description.limit description.offset := by
  rw [Description.calls, bounded, if_neg Bool.false_ne_true, Description.directiveCalls_eq_scopes,
    ← List.append_assoc] at accepted ⊢
  obtain ⟨middle, same⟩ := append_unfailing accepted
  have last : (performAll invoke middle description.callsAfterScopes).Reaches _ :=
    callsAfterScopes_reaches description
  refine ⟨middle, ?_⟩
  rw [same, last.query_eq]

theorem apply_bounds (accepted : (query.apply settings payload).failure = none) :
    ∃ description, Description.read settings payload = .ok description ∧
      (description.limit.isSome = true →
        (query.apply settings payload).query.limit? = description.limit) ∧
      (description.offset.isSome = true →
        (query.apply settings payload).query.offset? = description.offset) := by
  cases planned : Request.planDescription query.capabilities settings payload with
  | error rejection => simp [apply_of_refused planned] at accepted
  | ok calls =>
      obtain ⟨description, read, same, _⟩ := planDescription_ok planned
      rw [apply_of_planned planned, same] at accepted ⊢
      refine ⟨description, read, ?_, ?_⟩
      · intro given
        obtain ⟨bound, limit⟩ := Option.isSome_iff_exists.mp given
        obtain ⟨middle, paging⟩ := described_bounds accepted (by simp [Description.isEmpty, limit])
        rw [limit?, paging, boundedPaging_limit, limit, Option.some_or]
      · intro given
        obtain ⟨bound, offset⟩ := Option.isSome_iff_exists.mp given
        obtain ⟨middle, paging⟩ := described_bounds accepted (by simp [Description.isEmpty, offset])
        rw [offset?, paging, boundedPaging_offset, offset, Option.some_or]

def unbounded (query : Query) : Query := { query with paging := none }

/-- The bounds stand at the end of the text. -/
theorem sql_bounds (query : Query) :
    query.sql = query.unbounded.sql ++ (Paging.boundSql "LIMIT" query.limit? ++
      Paging.boundSql "OFFSET" query.offset?) := by
  have paged : pagingSql query.paging =
      Paging.boundSql "LIMIT" query.limit? ++ Paging.boundSql "OFFSET" query.offset? := by
    unfold limit? offset?
    cases query.paging <;> rfl
  have bare : ∀ text : String, text ++ "" ++ pagingSql query.paging =
      text ++ pagingSql query.paging := by
    intro text
    rw [String.append_empty]
  rw [← paged]
  exact (bare _).symm

structure Limits (query : Query) (bound : Int) : Prop where
  limit_eq : query.limit? = some bound
  printed : query.sql = query.unbounded.sql ++
    (" LIMIT " ++ Text.intText bound ++ Paging.boundSql "OFFSET" query.offset?)

structure Skips (query : Query) (bound : Int) : Prop where
  offset_eq : query.offset? = some bound
  printed : query.sql = query.unbounded.sql ++
    (Paging.boundSql "LIMIT" query.limit? ++ (" OFFSET " ++ Text.intText bound))

theorem limits_of_limit {bound : Int} (limit : query.limit? = some bound) : query.Limits bound := by
  refine ⟨limit, ?_⟩
  rw [sql_bounds, limit]
  rfl

theorem skips_of_offset {bound : Int} (offset : query.offset? = some bound) :
    query.Skips bound := by
  refine ⟨offset, ?_⟩
  rw [sql_bounds, offset]
  rfl

/-- A payload is read as a bound if and only if it states that bound, and refused if it states none.
For each bound of 64 bits the number and its text may be exchanged in any description, and every
query accepts a bound by itself. A query that accepts a description has the bounds that count there
and prints them as they were stated. -/
theorem bounds_are_read_and_printed_exactly :
    (∀ directive payload bound,
      Payload.readBound directive payload = .ok bound ↔ Payload.States payload bound) ∧
    (∀ directive payload, (∀ bound, ¬ Payload.States payload bound) →
      Payload.readBound directive payload =
        .error (.invalidArgument directive (.boundShape payload))) ∧
    ∀ bound, Text.Within64 bound →
      (∀ key ∈ Description.boundKeys, ∀ (before after : List (String × Json)) (query : Query)
        (settings : Settings),
        query.apply settings (.object (before ++ (key, .string (Text.intText bound)) :: after)) =
          query.apply settings (.object (before ++ (key, .whole bound) :: after))) ∧
      (∀ key ∈ Description.boundKeys, ∀ (value : Json), Payload.States value bound →
        ∀ (query : Query) (settings : Settings),
          (query.apply settings (.object [(key, value)])).failure = none) ∧
      ∀ (query : Query) (settings : Settings) (entries : List (String × Json)) (key : String)
        (value : Json), Payload.States value bound →
        (query.apply settings (.object entries)).failure = none →
        (Description.firstPresent? entries [Directive.limit] = some (key, value) →
          (query.apply settings (.object entries)).query.Limits bound) ∧
        (Description.firstPresent? entries [Directive.offset, Directive.skip] = some (key, value) →
          (query.apply settings (.object entries)).query.Skips bound) := by
  refine ⟨fun _ _ _ => Payload.readBound_eq_ok_iff,
    fun _ _ unstated => Payload.readBound_of_unstated unstated, ?_⟩
  intro bound within
  refine ⟨?_, ?_, ?_⟩
  · intro key bounding before after query settings
    exact apply_exchanged bounding (Payload.states_intText within) (.number within) before after
  · intro key bounding value states query settings
    exact apply_bound_only bounding states query settings
  · intro query settings entries key value states accepted
    obtain ⟨description, read, limited, skipped⟩ := apply_bounds accepted
    have reads := Description.ofEntries_eq_ok_iff.mp read
    constructor
    · intro found
      have limit : description.limit = some bound :=
        Description.directive_bound found states reads.limit
      exact limits_of_limit ((limited (by simp [limit])).trans limit)
    · intro found
      have offset : description.offset = some bound :=
        Description.directive_bound found states reads.offset
      exact skips_of_offset ((skipped (by simp [offset])).trans offset)

def leastBound : Int := -0x8000000000000000

def leastNumeral : Json := .string "\u3000-09223372036854775808\t"

def skippingEntries : List (String × Json) := [("offset", .null), ("skip", leastNumeral)]

theorem leastNumeral_states : Payload.States leastNumeral leastBound := by
  have digits : Text.Spells "09223372036854775808".toList 0x8000000000000000 :=
    ⟨by decide, List.all_eq_true.mp rfl, by decide⟩
  have trimmed : Text.trim "\u3000-09223372036854775808\t".toList =
      '-' :: "09223372036854775808".toList := by
    decide +kernel
  refine .numeral (by decide) ?_
  rw [trimmed]
  exact .minus digits

/-- One more than the greatest bound is refused. -/
theorem least_bound_is_read_and_printed :
    let after := (plain "users").apply {} (.object skippingEntries)
    Text.Within64 leastBound ∧ Payload.States leastNumeral leastBound ∧
    (∀ bound, ¬ Payload.States (.whole 0x8000000000000000) bound) ∧
    Payload.readBound "limit" leastNumeral = .ok leastBound ∧
    Payload.readBound "limit" (.whole 0x8000000000000000) =
      .error (.invalidArgument "limit" (.boundShape (.whole 0x8000000000000000))) ∧
    (plain "users").apply {} (.object [("limit", .string (Text.intText leastBound))]) =
      (plain "users").apply {} (.object [("limit", .whole leastBound)]) ∧
    ((plain "users").apply {} (.object [("limit", .whole leastBound)])).failure = none ∧
    after.failure = none ∧ after.query.offset? = some leastBound ∧
    after.query.sql = "SELECT * FROM users OFFSET -9223372036854775808" := by
  intro after
  have within : Text.Within64 leastBound := by decide
  have unstated : ∀ bound, ¬ Payload.States (.whole 0x8000000000000000) bound := by
    rintro _ ⟨⟨_, high⟩⟩
    exact absurd high (by decide)
  have accepted : after.failure = none := Option.isNone_iff_eq_none.mp (by decide +kernel)
  obtain ⟨read, refused, bounds⟩ := bounds_are_read_and_printed_exactly
  obtain ⟨exchanged, accepts, prints⟩ := bounds leastBound within
  have skips := (prints _ _ _ "skip" _ leastNumeral_states accepted).2 rfl
  refine ⟨within, leastNumeral_states, unstated, (read _ _ _).mpr leastNumeral_states,
    refused _ _ unstated, exchanged "limit" (by decide) [] [] _ _,
    accepts "limit" (by decide) _ (.number within) _ _, accepted, skips.offset_eq, ?_⟩
  rw [skips.printed]
  decide +kernel

end Query

end DeclarativeQuery
