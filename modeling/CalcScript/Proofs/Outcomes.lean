import CalcScript.Fault

/-!
# Outcomes

What is known of the parts of a computation that can fail when the outcome of the whole is known,
and what it is for two computations to come to the same.
-/

set_option autoImplicit false

namespace CalcScript

section Parts

variable {ε α β : Type}

theorem exists_of_map_eq_ok {outcome : Except ε α} {change : α → β} {result : β}
    (mapped : outcome.map change = .ok result) :
    ∃ value, outcome = .ok value ∧ change value = result := by
  cases outcome with
  | error error => cases mapped
  | ok value =>
      cases mapped
      exact ⟨value, rfl, rfl⟩

theorem error_of_map_eq_error {outcome : Except ε α} {change : α → β} {error : ε}
    (mapped : outcome.map change = .error error) : outcome = .error error := by
  cases outcome with
  | error other =>
      cases mapped
      rfl
  | ok value => cases mapped

theorem exists_of_bind_eq_ok {outcome : Except ε α} {next : α → Except ε β} {result : β}
    (bound : outcome.bind next = .ok result) :
    ∃ value, outcome = .ok value ∧ next value = .ok result := by
  cases outcome with
  | error error => cases bound
  | ok value => exact ⟨value, rfl, bound⟩

theorem ok_of_toOption_eq_some {outcome : Except ε α} {value : α}
    (present : outcome.toOption = some value) : outcome = .ok value := by
  cases outcome with
  | error error => cases present
  | ok result =>
      cases present
      rfl

theorem ok_of_mapError_eq_ok {outcome : Except ε α} {change : ε → β} {value : α}
    (mapped : outcome.mapError change = .ok value) : outcome = .ok value := by
  cases outcome with
  | error error => cases mapped
  | ok result =>
      cases mapped
      rfl

end Parts

/-! ## Two computations -/

/-- Outcomes of the same kind, which are related results or the same fault. -/
inductive SameOutcome {α β : Type} (Related : α → β → Prop) :
    Except Fault α → Except Fault β → Prop where
  | ok {first : α} {second : β} :
      Related first second → SameOutcome Related (.ok first) (.ok second)
  | error {fault : Fault} : SameOutcome Related (.error fault) (.error fault)

namespace SameOutcome

variable {α β γ δ : Type} {Related : α → β → Prop} {Further : γ → δ → Prop}
  {outcome : Except Fault α} {other : Except Fault β}

theorem map (same : SameOutcome Related outcome other) {change : α → γ} {changeToo : β → δ}
    (related : ∀ {first second}, Related first second → Further (change first) (changeToo second)) :
    SameOutcome Further (outcome.map change) (other.map changeToo) := by
  cases same with
  | ok results => exact .ok (related results)
  | error => exact .error

theorem fail_or_succeed (same : SameOutcome Related outcome other) :
    (∃ fault, outcome = .error fault ∧ other = .error fault) ∨
      ∃ first second, outcome = .ok first ∧ other = .ok second ∧ Related first second := by
  cases same with
  | ok results => exact .inr ⟨_, _, rfl, rfl, results⟩
  | error => exact .inl ⟨_, rfl, rfl⟩

theorem related (same : SameOutcome Related outcome other) {first : α} {second : β}
    (done : outcome = .ok first) (doneToo : other = .ok second) : Related first second := by
  subst done
  cases same with
  | ok results =>
      cases doneToo
      exact results

theorem failed (same : SameOutcome Related outcome other) {fault : Fault}
    (failed : outcome = .error fault ∨ other = .error fault) :
    outcome = .error fault ∧ other = .error fault := by
  cases same with
  | ok => rcases failed with failed | failed <;> cases failed
  | error =>
      rcases failed with failed | failed <;> cases failed <;> exact ⟨rfl, rfl⟩

end SameOutcome

end CalcScript
