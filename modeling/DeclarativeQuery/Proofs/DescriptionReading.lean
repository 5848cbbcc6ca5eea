import DeclarativeQuery.Proofs.Sequencing

/-!
An accepted description, directive by directive. Every directive is read from the first of its keys
that is present, whatever the other directives say.
-/

namespace DeclarativeQuery.Description

structure Reads (settings : Settings) (entries : List (String × Json))
    (description : Description) : Prop where
  inclusion : directive entries [Directive.inclusion] none (fun _ payload =>
    (Inclusion.read settings payload).map some) = .ok description.inclusion
  filters : directive entries [Directive.filter] [] (Filter.read settings) =
    .ok description.filters
  has : directive entries [Directive.has] [] Payload.readNames = .ok description.has
  scopes : directive entries [Directive.scopes] [] Payload.readNames = .ok description.scopes
  fields : directive entries [Directive.fields] none (fun key payload =>
    (Payload.readNames key payload).map some) = .ok description.fields
  order : directive entries [Directive.order] [] (fun _ payload => OrderTerm.readList payload) =
    .ok description.order
  limit : directive entries [Directive.limit] none (fun key payload =>
    (Payload.readBound key payload).map some) = .ok description.limit
  offset : directive entries [Directive.offset, Directive.skip] none (fun key payload =>
    (Payload.readBound key payload).map some) = .ok description.offset
  groupBy : directive entries [Directive.groupBy, Directive.groupBySnake] [] Payload.readNames =
    .ok description.groupBy
  having : directive entries [Directive.having] [] (HavingTerm.read settings) =
    .ok description.having

variable {settings : Settings} {entries : List (String × Json)} {description : Description}

theorem ofEntries_eq_ok_iff :
    ofEntries settings entries = .ok description ↔ Reads settings entries description := by
  unfold ofEntries
  simp only [bind_eq_ok_iff]
  constructor
  · rintro ⟨inclusion, included, filters, filtered, has, related, scopes, named, fields, selected,
      order, ordered, limit, limited, offset, skipped, groupBy, grouped, having, kept, same⟩
    rw [← Except.ok.inj same]
    exact ⟨included, filtered, related, named, selected, ordered, limited, skipped, grouped, kept⟩
  · rintro ⟨included, filtered, related, named, selected, ordered, limited, skipped, grouped, kept⟩
    exact ⟨_, included, _, filtered, _, related, _, named, _, selected, _, ordered, _, limited, _,
      skipped, _, grouped, _, kept, rfl⟩

theorem read_ok {payload : Json} (accepted : read settings payload = .ok description) :
    ∃ entries, payload = .object entries ∧ Reads settings entries description := by
  cases payload with
  | object entries => exact ⟨entries, rfl, ofEntries_eq_ok_iff.mp accepted⟩
  | _ => contradiction

/-- A directive with one key says what is read from the value under it. -/
theorem directive_single {α : Type} (entries : List (String × Json)) (key : String)
    (default : α) (read : String → Json → Except Error α) :
    directive entries [key] default read =
      Payload.reading default (Json.present? key entries) (read key) := by
  simp only [directive, firstPresent?]
  cases Json.present? key entries <;> rfl

theorem Reads.inclusion_isSome (reads : Reads settings entries description) :
    description.inclusion.isSome = (Json.present? Directive.inclusion entries).isSome := by
  have inclusion := reads.inclusion
  rw [directive_single] at inclusion
  cases present : Json.present? Directive.inclusion entries with
  | none =>
      rw [present] at inclusion
      rw [← Except.ok.inj inclusion]
      rfl
  | some payload =>
      rw [present] at inclusion
      obtain ⟨loads, _, same⟩ := map_eq_ok_iff.mp inclusion
      rw [← same]
      rfl

theorem directive_absent {α : Type} {keys : List String}
    (absent : ∀ key ∈ keys, Json.present? key entries = none) (default : α)
    (read : String → Json → Except Error α) :
    directive entries keys default read = .ok default := by
  have nowhere : firstPresent? entries keys = none := by
    induction keys with
    | nil => rfl
    | cons key rest ih =>
        obtain ⟨here, later⟩ := List.forall_mem_cons.mp absent
        rw [firstPresent?, here]
        exact ih later
  rw [directive, nowhere]

/-- What a directive says is its default or was read from the value under one of its keys. -/
theorem directive_ok {α : Type} {keys : List String} {default result : α}
    {read : String → Json → Except Error α}
    (accepted : directive entries keys default read = .ok result) :
    result = default ∨
      ∃ key ∈ keys, ∃ payload, Json.present? key entries = some payload ∧
        read key payload = .ok result := by
  unfold directive at accepted
  cases first : firstPresent? entries keys with
  | none =>
      rw [first] at accepted
      exact .inl (Except.ok.inj accepted).symm
  | some found =>
      rcases found with ⟨key, payload⟩
      rw [first] at accepted
      right
      induction keys with
      | nil => contradiction
      | cons head rest ih =>
          rw [firstPresent?] at first
          cases present : Json.present? head entries with
          | none =>
              simp only [present] at first
              obtain ⟨key, among, payload, there, said⟩ := ih first
              exact ⟨key, List.mem_cons_of_mem head among, payload, there, said⟩
          | some value =>
              simp only [present, Option.some.injEq, Prod.mk.injEq] at first
              obtain ⟨rfl, rfl⟩ := first
              exact ⟨head, List.mem_cons_self, value, present, accepted⟩

/-! A mapping with one directive: all others are absent. -/

variable {payload : Json}

theorem read_filter_only (given : payload ≠ .null) :
    read settings (.object [(Directive.filter, payload)]) =
      (Filter.read settings Directive.filter payload).map fun filters => { filters } := by
  have only : read settings (.object [(Directive.filter, payload)]) =
      (Filter.read settings Directive.filter payload >>= fun filters => .ok { filters }) := by
    cases payload <;> first | rfl | contradiction
  rw [only]
  cases Filter.read settings Directive.filter payload <;> rfl

theorem read_inclusion_only (given : payload ≠ .null) :
    read settings (.object [(Directive.inclusion, payload)]) =
      (Inclusion.read settings payload).map fun loads => { inclusion := loads } := by
  have only : read settings (.object [(Directive.inclusion, payload)]) =
      ((Inclusion.read settings payload).map Option.some >>= fun inclusion =>
        .ok { inclusion }) := by
    cases payload <;> first | rfl | contradiction
  rw [only]
  cases Inclusion.read settings payload <;> rfl

end DeclarativeQuery.Description
