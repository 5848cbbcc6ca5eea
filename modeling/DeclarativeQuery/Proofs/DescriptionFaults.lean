import DeclarativeQuery.Proofs.DescriptionReading
import DeclarativeQuery.Proofs.FilterRefusals

/-!
What is wrong with a description. Every directive has a reader of its own, and the readers refuse
invalid arguments and nothing else. They come in one fixed order, so that of several faults the
first in that order is the description's, wherever in the mapping it stands.
-/

namespace DeclarativeQuery

def fault? {α : Type} : Except Error α → Option Error
  | .ok _ => none
  | .error error => some error

section
variable {α β : Type} {result : Except Error α} {error : Error}

theorem fault?_eq_some_iff : fault? result = some error ↔ result = .error error := by
  cases result <;> simp [fault?]

theorem fault?_eq_none_iff : fault? result = none ↔ ∃ value, result = .ok value := by
  cases result <;> simp [fault?]

@[simp]
theorem fault?_map (f : α → β) : fault? (result.map f) = fault? result := by
  cases result <;> rfl

/-- If what follows has its first fault among the later items whatever it follows, the whole has its
first fault among all of them. -/
theorem fault?_bind {Item : Type} {next : α → Except Error β} {check : Item → Option Error}
    {item : Item} {later : List Item} (head : fault? result = check item)
    (tail : ∀ value, fault? (next value) = later.findSome? check) :
    fault? (result >>= next) = (item :: later).findSome? check := by
  rw [List.findSome?_cons, ← head]
  cases result with
  | error error => rfl
  | ok value => exact tail value

end

def RefusesArguments {α : Type} (result : Except Error α) : Prop :=
  ∀ error, result = .error error → error.isInvalidArgument = true

namespace RefusesArguments

variable {α β : Type} {result : Except Error α}

theorem ok (value : α) : RefusesArguments (.ok value) := by
  intro error refused
  cases refused

theorem argument (directive : String) (fault : Fault) :
    RefusesArguments (α := α) (.error (.invalidArgument directive fault)) := by
  intro error refused
  cases refused
  rfl

theorem bind {next : α → Except Error β} (head : RefusesArguments result)
    (tail : ∀ value, RefusesArguments (next value)) : RefusesArguments (result >>= next) := by
  intro error refused
  cases result with
  | error early =>
      exact head error (by cases refused; rfl)
  | ok value => exact tail value error refused

theorem map (head : RefusesArguments result) (f : α → β) : RefusesArguments (result.map f) := by
  intro error refused
  exact head error (map_eq_error_iff.mp refused)

theorem mapM {read : α → Except Error β} (each : ∀ item, RefusesArguments (read item))
    (items : List α) : RefusesArguments (items.mapM read) := by
  induction items with
  | nil => exact ok []
  | cons item rest ih =>
      rw [List.mapM_cons]
      exact (each item).bind fun _ => ih.bind fun _ => ok _

end RefusesArguments

/-! The readers of plain payloads. -/

theorem Payload.readNames_refuses (directive : String) (payload : Json) :
    RefusesArguments (readNames directive payload) := by
  cases payload with
  | string name => exact .ok _
  | array items =>
      refine .mapM ?_ items
      intro item
      cases item with
      | string name => exact .ok name
      | _ => exact .argument _ _
  | _ => exact .argument _ _

theorem Payload.readBound_refuses (directive : String) (payload : Json) :
    RefusesArguments (readBound directive payload) := by
  unfold readBound
  split
  · exact .ok _
  · exact .argument _ _

theorem Payload.reading_refuses {α : Type} {read : Json → Except Error α}
    (each : ∀ payload, RefusesArguments (read payload)) (default : α) (payload : Option Json) :
    RefusesArguments (reading default payload read) := by
  cases payload with
  | none => exact .ok default
  | some value => exact each value

namespace OrderTerm

theorem ofText_refuses (text : String) : RefusesArguments (ofText text) := by
  unfold ofText
  dsimp only
  split
  · exact .argument _ _
  · exact .ok _

theorem readDirection_refuses (direction : Option Json) :
    RefusesArguments (readDirection direction) := by
  unfold readDirection
  split
  · exact .ok _
  · exact .ok _
  · split
    · exact .ok _
    · exact .argument _ _
  · exact .argument _ _

theorem ofEntries_refuses (entries : List (String × Json)) :
    RefusesArguments (ofEntries entries) := by
  unfold ofEntries
  split
  · dsimp only
    split
    · exact .argument _ _
    · exact (readDirection_refuses _).bind fun _ => .ok _
  · exact .argument _ _

theorem read_refuses (payload : Json) : RefusesArguments (read payload) := by
  cases payload with
  | string text => exact ofText_refuses text
  | object entries => exact ofEntries_refuses entries
  | _ => exact .argument _ _

theorem readList_refuses (payload : Json) : RefusesArguments (readList payload) := by
  cases payload with
  | array items => exact .mapM read_refuses items
  | _ => exact (read_refuses _).bind fun _ => .ok _

end OrderTerm

/-! The readers of filters. -/

namespace Filter

theorem read_refuses (settings : Settings) (directive : String) (payload : Json) :
    RefusesArguments (read settings directive payload) := by
  intro error refused
  cases readLevel_refusal payload refused with
  | argument fault => rfl
  | arity member named range wrong => rfl

theorem readOperators_refuses (directive field : String) (operators : List (String × Json)) :
    RefusesArguments (readOperators directive field operators) := by
  induction operators with
  | nil => exact .ok []
  | cons operator rest ih =>
      rcases operator with ⟨token, operand⟩
      have head : RefusesArguments
          (readOperator directive field (Operator.resolve token) operand) := by
        intro error refused
        obtain ⟨_, ⟨fault, same⟩ | ⟨_, _, same⟩⟩ := readOperator_error refused
        · rw [same]
          rfl
        · rw [same]
          rfl
      exact head.bind fun _ => ih.bind fun _ => .ok _

theorem readPredicates_refuses (directive field : String) (value : Json) :
    RefusesArguments (readPredicates directive field value) := by
  cases value with
  | object operators => exact readOperators_refuses directive field operators
  | array items => exact .argument _ _
  | _ => exact .ok _

end Filter

namespace HavingTerm

theorem readEntries_refuses (settings : Settings) (directive : String)
    (entries : List (String × Json)) :
    RefusesArguments (readEntries settings directive entries) := by
  induction entries with
  | nil => exact .ok []
  | cons entry rest ih =>
      rcases entry with ⟨key, value⟩
      have column : RefusesArguments (Filter.columnName directive key) := by
        unfold Filter.columnName
        split
        · exact .argument _ _
        · exact .ok _
      unfold readEntries
      split
      · exact ih
      · split
        · exact .argument _ _
        · exact column.bind fun field =>
            (Filter.readPredicates_refuses directive field value).bind fun _ =>
              ih.bind fun _ => .ok _

theorem read_refuses (settings : Settings) (directive : String) (payload : Json) :
    RefusesArguments (read settings directive payload) := by
  cases payload with
  | object entries => exact readEntries_refuses settings directive entries
  | _ => exact .argument _ _

end HavingTerm

/-! The reader of inclusions. -/

theorem RelationConfig.ofEntries_refuses (settings : Settings) (entries : List (String × Json)) :
    RefusesArguments (ofEntries settings entries) := by
  have filters := Payload.reading_refuses (Filter.read_refuses settings Inclusion.directive) []
    (Payload.filled? "where" entries)
  have columns := Payload.reading_refuses
    (fun payload => (Payload.readNames_refuses Inclusion.directive payload).map some) none
    (Payload.filled? "fields" entries)
  have order := Payload.reading_refuses OrderTerm.readList_refuses []
    (Payload.filled? "order" entries)
  exact filters.bind fun _ => columns.bind fun _ => order.bind fun _ => .ok _

namespace Inclusion

theorem readRelation_refuses (settings : Settings) (name : String) (payload : Json) :
    RefusesArguments (readRelation settings name payload) := by
  unfold readRelation
  split
  · exact .ok _
  · exact .ok _
  · exact .ok _
  · split
    · exact .ok _
    · exact .argument _ _
  · split
    · exact (RelationConfig.ofEntries_refuses settings _).bind fun _ => .ok _
    · exact .ok _
  · exact .argument _ _

theorem readRelations_refuses (settings : Settings) (relations : List (String × Json)) :
    RefusesArguments (readRelations settings relations) := by
  induction relations with
  | nil => exact .ok []
  | cons relation rest ih =>
      rcases relation with ⟨name, payload⟩
      exact (readRelation_refuses settings name payload).bind fun _ => ih.bind fun _ => .ok _

theorem read_refuses (settings : Settings) (payload : Json) :
    RefusesArguments (read settings payload) := by
  cases payload with
  | string name => exact .ok _
  | array items =>
      refine .mapM ?_ items
      intro item
      cases item with
      | string name => exact .ok _
      | _ => exact .argument _ _
  | object relations => exact readRelations_refuses settings relations
  | _ => exact .argument _ _

end Inclusion

/-! The description as a whole. -/

namespace Description

variable {settings : Settings} {entries : List (String × Json)}

/-- The directives in the order in which they are checked: the keys that each goes by, and what is
wrong with a payload under one of them. -/
def checks (settings : Settings) : List (List String × (String → Json → Option Error)) := [
  ([Directive.inclusion], fun _ payload => fault? (Inclusion.read settings payload)),
  ([Directive.filter], fun key payload => fault? (Filter.read settings key payload)),
  ([Directive.has], fun key payload => fault? (Payload.readNames key payload)),
  ([Directive.scopes], fun key payload => fault? (Payload.readNames key payload)),
  ([Directive.fields], fun key payload => fault? (Payload.readNames key payload)),
  ([Directive.order], fun _ payload => fault? (OrderTerm.readList payload)),
  ([Directive.limit], fun key payload => fault? (Payload.readBound key payload)),
  ([Directive.offset, Directive.skip], fun key payload => fault? (Payload.readBound key payload)),
  ([Directive.groupBy, Directive.groupBySnake], fun key payload =>
    fault? (Payload.readNames key payload)),
  ([Directive.having], fun key payload => fault? (HavingTerm.read settings key payload))]

/-- What is wrong with a directive that may be absent. Of its keys the first one present counts. -/
def directiveFault? (entries : List (String × Json))
    (directive : List String × (String → Json → Option Error)) : Option Error :=
  (firstPresent? entries directive.1).bind fun (key, payload) => directive.2 key payload

def firstFault? (settings : Settings) (entries : List (String × Json)) : Option Error :=
  (checks settings).findSome? (directiveFault? entries)

theorem fault?_directive {α : Type} (keys : List String) (default : α)
    (read : String → Json → Except Error α) :
    fault? (directive entries keys default read) =
      directiveFault? entries (keys, fun key payload => fault? (read key payload)) := by
  unfold directive directiveFault?
  cases firstPresent? entries keys <;> rfl

theorem fault?_directive_map {α β : Type} (keys : List String) (default : β)
    (read : String → Json → Except Error α) (f : α → β) :
    fault? (directive entries keys default fun key payload => (read key payload).map f) =
      directiveFault? entries (keys, fun key payload => fault? (read key payload)) := by
  simp only [fault?_directive, fault?_map]

theorem fault?_ofEntries (settings : Settings) (entries : List (String × Json)) :
    fault? (ofEntries settings entries) = firstFault? settings entries := by
  unfold ofEntries firstFault? checks
  -- one step for each directive, in their order
  refine fault?_bind (fault?_directive_map _ _ _ _) fun inclusion => ?_
  refine fault?_bind (fault?_directive _ _ _) fun filters => ?_
  refine fault?_bind (fault?_directive _ _ _) fun has => ?_
  refine fault?_bind (fault?_directive _ _ _) fun scopes => ?_
  refine fault?_bind (fault?_directive_map _ _ _ _) fun fields => ?_
  refine fault?_bind (fault?_directive _ _ _) fun order => ?_
  refine fault?_bind (fault?_directive_map _ _ _ _) fun limit => ?_
  refine fault?_bind (fault?_directive_map _ _ _ _) fun offset => ?_
  refine fault?_bind (fault?_directive _ _ _) fun groupBy => ?_
  exact fault?_bind (fault?_directive _ _ _) fun having => rfl

theorem directive_refuses {α : Type} {read : String → Json → Except Error α}
    (each : ∀ key payload, RefusesArguments (read key payload)) (keys : List String)
    (default : α) : RefusesArguments (directive entries keys default read) := by
  unfold directive
  split
  · exact .ok default
  · exact each _ _

theorem ofEntries_refuses (settings : Settings) (entries : List (String × Json)) :
    RefusesArguments (ofEntries settings entries) := by
  have inclusion := fun (_ : String) payload => (Inclusion.read_refuses settings payload).map some
  have fields := fun key payload => (Payload.readNames_refuses key payload).map some
  have order := fun (_ : String) payload => OrderTerm.readList_refuses payload
  have bound := fun key payload => (Payload.readBound_refuses key payload).map some
  refine (directive_refuses inclusion _ _).bind fun _ => ?_
  refine (directive_refuses (Filter.read_refuses settings) _ _).bind fun _ => ?_
  refine (directive_refuses Payload.readNames_refuses _ _).bind fun _ => ?_
  refine (directive_refuses Payload.readNames_refuses _ _).bind fun _ => ?_
  refine (directive_refuses fields _ _).bind fun _ => ?_
  refine (directive_refuses order _ _).bind fun _ => ?_
  refine (directive_refuses bound _ _).bind fun _ => ?_
  refine (directive_refuses bound _ _).bind fun _ => ?_
  refine (directive_refuses Payload.readNames_refuses _ _).bind fun _ => ?_
  exact (directive_refuses (HavingTerm.read_refuses settings) _ _).bind fun _ => .ok _

end Description

end DeclarativeQuery
