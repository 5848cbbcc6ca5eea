import DeclarativeQuery.Proofs.AppliedDescription
import DeclarativeQuery.Proofs.DescriptionFaults

/-!
Which error a description fails with. What the query cannot do at all goes before what is wrong with
the description, the order of the directives decides among its faults, and only a description
without faults has its scopes looked up, in the order in which it lists them.
-/

namespace DeclarativeQuery

namespace Payload

def nameIn? : Json → Option String
  | .string name => some name
  | _ => none

def namesIn : Json → List String
  | .string name => [name]
  | .array items => items.filterMap nameIn?
  | _ => []

theorem readNames_namesIn {directive : String} {payload : Json} {names : List String}
    (accepted : readNames directive payload = .ok names) : names = namesIn payload := by
  cases payload with
  | string name => exact (Except.ok.inj accepted).symm
  | array items =>
      rw [readNames] at accepted
      rw [namesIn]
      induction items generalizing names with
      | nil => exact (Except.ok.inj accepted).symm
      | cons item rest ih =>
          obtain ⟨first, others, head, tail, same⟩ := mapM_cons_ok_iff.mp accepted
          cases same
          cases item with
          | string name =>
              cases head
              rw [ih tail]
              rfl
          | _ => cases head
  | _ => cases accepted

end Payload

namespace Description

variable {settings : Settings} {entries : List (String × Json)} {description : Description}

def listedScopes (entries : List (String × Json)) : List String :=
  (Json.present? Directive.scopes entries).elim [] Payload.namesIn

theorem Reads.scopes_eq (reads : Reads settings entries description) :
    description.scopes = listedScopes entries := by
  have scopes := reads.scopes
  rw [directive_single] at scopes
  unfold listedScopes
  cases present : Json.present? Directive.scopes entries with
  | none =>
      rw [present] at scopes
      exact (Except.ok.inj scopes).symm
  | some payload =>
      rw [present] at scopes
      exact Payload.readNames_namesIn scopes

end Description

namespace Query

open Outcome

variable {invoke : Invoker} {query : Query} {settings : Settings}

/-- The error of a request that does not pass the checks. -/
theorem ask_failure_of_refused {request : Request} {rejection : Rejection}
    (refused : request.plan query.capabilities = .error rejection) :
    (query.ask invoke request).failure = some rejection.error := by
  simp only [ask, refused]

theorem ask_query_of_refused {request : Request} {rejection : Rejection}
    (refused : request.plan query.capabilities = .error rejection) :
    (query.ask invoke request).query = query := by
  simp only [ask, refused]

/-- A mapping that asks for an inclusion, however malformed, of a query that knows no relations. -/
def AsksInVain (query : Query) (payload : Json) : Prop :=
  Request.wantsInclusion payload = true ∧ query.relationAware = false

theorem not_vain_of_unasked {payload : Json} (unasked : Request.wantsInclusion payload = false) :
    ¬ query.AsksInVain payload := by
  rintro ⟨wanted, _⟩
  rw [unasked] at wanted
  contradiction

theorem not_vain_of_aware {payload : Json} (aware : query.relationAware = true) :
    ¬ query.AsksInVain payload := by
  rintro ⟨_, plain⟩
  rw [aware] at plain
  contradiction

theorem supported_of_not_vain {payload : Json} (supported : ¬ query.AsksInVain payload) :
    (Request.wantsInclusion payload && !query.capabilities.inclusion) = false := by
  unfold AsksInVain at supported
  simpa [capabilities] using supported

theorem plan_in_vain {payload : Json} (vain : query.AsksInVain payload) :
    (Request.description settings payload).plan query.capabilities =
      .error { error := Request.inclusionUnsupported, reportedFor := some Directive.inclusion } := by
  simp [Request.plan, Request.planDescription, vain.1, vain.2, capabilities]

/-- Otherwise the description is read before anything else. -/
theorem plan_of_not_vain {payload : Json} (supported : ¬ query.AsksInVain payload) :
    (Request.description settings payload).plan query.capabilities =
      match Description.read settings payload with
      | .error error => .error { error, reportedFor := some Directive.description }
      | .ok description => description.plan query.capabilities := by
  rw [Request.plan, Request.planDescription, supported_of_not_vain supported]
  rfl

theorem plan_of_unread {payload : Json} {error : Error} (supported : ¬ query.AsksInVain payload)
    (unread : Description.read settings payload = .error error) :
    (Request.description settings payload).plan query.capabilities =
      .error { error, reportedFor := some Directive.description } := by
  rw [plan_of_not_vain supported, unread]

theorem plan_of_reads {entries : List (String × Json)} {description : Description}
    (supported : ¬ query.AsksInVain (.object entries))
    (reads : Description.Reads settings entries description) :
    (Request.description settings (.object entries)).plan query.capabilities =
      match (Description.listedScopes entries).find? fun name => !query.scopes.contains name with
      | some name =>
          .error { error := .unknownScope name, reportedFor := some Directive.scopes }
      | none => .ok description.calls := by
  have read : Description.read settings (.object entries) = .ok description :=
    Description.ofEntries_eq_ok_iff.mpr reads
  have included : (description.inclusion.isSome && !query.capabilities.inclusion) = false := by
    rw [reads.inclusion_isSome]
    exact supported_of_not_vain supported
  rw [plan_of_not_vain supported, read, ← reads.scopes_eq]
  simp only [Description.plan, included, Bool.false_eq_true, ↓reduceIte]
  rfl

/-- A description fails with the first of these that applies. It asks for an inclusion of a query
that knows no relations: then that is the error, whatever else is wrong with it. It is no mapping,
or a directive is malformed: then the error is the one of the first such directive, in the order of
the checks, and it is one for invalid arguments. It lists a scope that the query does not know: then the
error names the first of them. A description that lists no scopes does not fail for any other
reason. -/
theorem failure_follows_precedence (invoke : Invoker) (query : Query) (settings : Settings)
    (payload : Json) :
    let failure := (query.ask invoke (.description settings payload)).failure
    (query.AsksInVain payload →
      failure = some (.unsupportedCapability "relation inclusion")) ∧
    (¬ query.AsksInVain payload →
      (payload.isObject = false →
        ∃ fault, failure = some fault ∧ fault.isInvalidArgument = true) ∧
      ∀ entries, payload = .object entries →
        (∀ fault, Description.firstFault? settings entries = some fault →
          failure = some fault ∧ fault.isInvalidArgument = true) ∧
        (Description.firstFault? settings entries = none →
          (∀ name, (Description.listedScopes entries).find?
              (fun name => !query.scopes.contains name) = some name →
            failure = some (.unknownScope name)) ∧
          (Description.listedScopes entries = [] → failure = none))) := by
  intro failure
  constructor
  · intro vain
    exact ask_failure_of_refused (plan_in_vain vain)
  intro supported
  constructor
  · intro other
    cases payload with
    | object entries => cases other
    | _ => exact ⟨_, ask_failure_of_refused (plan_of_unread supported rfl), rfl⟩
  rintro entries rfl
  have faults := Description.fault?_ofEntries settings entries
  constructor
  · intro fault first
    have refused : Description.read settings (.object entries) = .error fault :=
      fault?_eq_some_iff.mp (faults.trans first)
    exact ⟨ask_failure_of_refused (plan_of_unread supported refused),
      Description.ofEntries_refuses settings entries fault refused⟩
  · intro none
    obtain ⟨description, checked⟩ := fault?_eq_none_iff.mp (faults.trans none)
    have reads := Description.ofEntries_eq_ok_iff.mp checked
    have read : Description.read settings (.object entries) = .ok description := checked
    constructor
    · intro name unknown
      have plan := plan_of_reads supported reads
      rw [unknown] at plan
      exact ask_failure_of_refused plan
    · intro scopeless
      have aware : description.inclusion.isSome = true → query.relationAware = true := by
        intro included
        rw [reads.inclusion_isSome] at included
        simpa using fun plain => supported ⟨included, plain⟩
      exact (ask_of_read invoke read (reads.scopes_eq.trans scopeless) aware).unfailing

def faultyEntries : List (String × Json) := [
  ("having", .array []),
  ("scopes", .string "gone"),
  ("skip", .string "many"),
  ("where", .object [("Age", .object [("between", .array [])])])]

def strayScopes : List (String × Json) := [
  ("limit", .whole 3),
  ("scopes", .array [.string "active", .string "lost", .string "gone"])]

theorem first_fault_goes_before_scopes :
    let members := { plain "users" with
      scopes := Registry.ofList [("active", Scope.notNull "seen")] }
    let failure := fun entries : List (String × Json) =>
      (members.ask withoutScopes (.description {} (.object entries))).failure
    members.AsksInVain (.object (("include", .whole 1) :: faultyEntries)) ∧
    failure (("include", .whole 1) :: faultyEntries) =
      some (.unsupportedCapability "relation inclusion") ∧
    ¬ members.AsksInVain (.object faultyEntries) ∧
    Description.firstFault? {} faultyEntries = some (.operatorArity "age" "between" 2 0) ∧
    failure faultyEntries = some (.operatorArity "age" "between" 2 0) ∧
    ¬ members.AsksInVain (.object strayScopes) ∧
    Description.firstFault? {} strayScopes = none ∧
    failure strayScopes = some (.unknownScope "lost") ∧
    failure [("limit", .whole 3)] = none := by
  intro members failure
  have vain : members.AsksInVain (.object (("include", .whole 1) :: faultyEntries)) := ⟨rfl, rfl⟩
  have faulty : ¬ members.AsksInVain (.object faultyEntries) := not_vain_of_unasked rfl
  have stray : ¬ members.AsksInVain (.object strayScopes) := not_vain_of_unasked rfl
  have sole : ¬ members.AsksInVain (.object [("limit", .whole 3)]) := not_vain_of_unasked rfl
  have first : Description.firstFault? {} faultyEntries =
      some (.operatorArity "age" "between" 2 0) := rfl
  have sound : Description.firstFault? {} strayScopes = none := rfl
  have law := failure_follows_precedence withoutScopes members {}
  refine ⟨vain, (law _).1 vain, faulty, first, ?_, stray, sound, ?_, ?_⟩
  · exact (((law _).2 faulty).2 _ rfl).1 _ first |>.1
  · exact (((law _).2 stray).2 _ rfl).2 sound |>.1 "lost" rfl
  · exact (((law _).2 sole).2 _ rfl).2 rfl |>.2 rfl

end Query

end DeclarativeQuery
