import DeclarativeQuery.Plan.Request

/-! Success and failure of a computation that goes on from another one. -/

namespace DeclarativeQuery

section Except
variable {Fault α β γ : Type}

theorem bind_eq_ok_iff {first : Except Fault α} {next : α → Except Fault β} {result : β} :
    first >>= next = .ok result ↔ ∃ value, first = .ok value ∧ next value = .ok result := by
  cases first <;> simp [bind, Except.bind]

theorem map_eq_ok_iff {first : Except Fault α} {f : α → β} {result : β} :
    first.map f = .ok result ↔ ∃ value, first = .ok value ∧ f value = result := by
  cases first <;> simp [Except.map]

theorem exists_ok_of_isOk {first : Except Fault α} (accepted : first.isOk = true) :
    ∃ value, first = .ok value := by
  cases first with
  | error fault => contradiction
  | ok value => exact ⟨value, rfl⟩

theorem map_ok_iff {first : Except Fault α} {f : α → β} :
    (∃ result, first.map f = .ok result) ↔ ∃ value, first = .ok value := by
  cases first <;> simp [Except.map]

theorem map_eq_error_iff {first : Except Fault α} {f : α → β} {fault : Fault} :
    first.map f = .error fault ↔ first = .error fault := by
  cases first <;> simp [Except.map]

/-- Two computations one after the other succeed if both do. -/
theorem both_ok_iff {first : Except Fault α} {second : Except Fault β} {join : α → β → γ} :
    (∃ result, (do let a ← first; let b ← second; return join a b) = Except.ok result) ↔
      (∃ a, first = .ok a) ∧ ∃ b, second = .ok b := by
  cases first <;> cases second <;> simp [bind, Except.bind, pure, Except.pure]

theorem both_eq_error {first : Except Fault α} {second : Except Fault β} {join : α → β → γ}
    {fault : Fault} (failed : (do let a ← first; let b ← second; return join a b) =
      Except.error fault) : first = .error fault ∨ second = .error fault := by
  cases first with
  | error early =>
      cases failed
      exact .inl rfl
  | ok a =>
      cases second with
      | error late =>
          cases failed
          exact .inr rfl
      | ok b => cases failed

theorem toOption_eq_some_iff {first : Except Fault α} {value : α} :
    first.toOption = some value ↔ first = .ok value := by
  cases first <;> simp [Except.toOption]

theorem toOption_map_congr {first other : Except Fault α} (same : first.toOption = other.toOption)
    (f : α → β) : (first.map f).toOption = (other.map f).toOption := by
  cases first with
  | error fault => cases other <;> simp_all [Except.toOption, Except.map]
  | ok value => cases other <;> simp_all [Except.toOption, Except.map]

theorem toOption_both_congr {first other : Except Fault α} {second otherSecond : Except Fault β}
    (sameFirst : first.toOption = other.toOption)
    (sameSecond : second.toOption = otherSecond.toOption) (join : α → β → γ) :
    (do let a ← first; let b ← second; return join a b).toOption =
      (do let a ← other; let b ← otherSecond; return join a b).toOption := by
  cases first with
  | error fault => cases other <;> simp_all [Except.toOption, bind, Except.bind]
  | ok a =>
      cases other with
      | error fault => simp [Except.toOption] at sameFirst
      | ok b =>
          simp only [Except.toOption, Option.some.injEq] at sameFirst
          subst sameFirst
          exact toOption_map_congr sameSecond (join a)

theorem unreported_eq_ok_iff {first : Except Error α} {result : α} :
    Request.unreported first = .ok result ↔ first = .ok result := by
  cases first with
  | error error => constructor <;> intro same <;> cases same
  | ok value => constructor <;> intro same <;> cases same <;> rfl

theorem mapM_cons_ok_iff {f : α → Except Fault β} {item : α} {rest : List α} {results : List β} :
    (item :: rest).mapM f = .ok results ↔
      ∃ first others, f item = .ok first ∧ rest.mapM f = .ok others ∧
        results = first :: others := by
  rw [List.mapM_cons]
  cases f item with
  | error fault => simp [bind, Except.bind]
  | ok first =>
      cases rest.mapM f <;> simp [bind, Except.bind, pure, Except.pure, eq_comm]

/-- Each result stems from one of the items. -/
theorem mapM_ok_mem {f : α → Except Fault β} {items : List α} {results : List β}
    (accepted : items.mapM f = .ok results) {result : β} (member : result ∈ results) :
    ∃ item ∈ items, f item = .ok result := by
  induction items generalizing results with
  | nil =>
      cases accepted
      contradiction
  | cons item rest ih =>
      obtain ⟨first, others, head, tail, same⟩ := mapM_cons_ok_iff.mp accepted
      cases same
      rcases List.mem_cons.mp member with here | later
      · exact ⟨item, List.mem_cons_self, here ▸ head⟩
      · obtain ⟨origin, among, read⟩ := ih tail later
        exact ⟨origin, List.mem_cons_of_mem item among, read⟩

/-- What accepts all that another accepts, with the same results, accepts its lists. -/
theorem mapM_ok_imp {f g : α → Except Fault β}
    (imp : ∀ item result, f item = .ok result → g item = .ok result) {items : List α}
    {results : List β} (accepted : items.mapM f = .ok results) : items.mapM g = .ok results := by
  induction items generalizing results with
  | nil => exact accepted
  | cons item rest ih =>
      obtain ⟨first, others, head, tail, same⟩ := mapM_cons_ok_iff.mp accepted
      exact mapM_cons_ok_iff.mpr ⟨first, others, imp item first head, ih tail, same⟩

end Except

end DeclarativeQuery
