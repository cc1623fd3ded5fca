/-!
# Chains of steps that may fail

A chain gives a result exactly if each of its steps does, and an error exactly if one
of them does after others that gave results.
-/

set_option autoImplicit false

namespace WebToken

theorem bind_eq_ok_iff {ε α β : Type} {step : Except ε α} {next : α → Except ε β} {result : β} :
    (step >>= next) = .ok result ↔ ∃ read, step = .ok read ∧ next read = .ok result := by
  cases step with
  | error error =>
      refine ⟨nofun, fun reads => ?_⟩
      obtain ⟨read, ok, -⟩ := reads
      cases ok
  | ok read =>
      constructor
      · intro rest
        exact ⟨read, rfl, rest⟩
      · intro reads
        obtain ⟨other, same, rest⟩ := reads
        cases same
        exact rest

theorem bind_eq_error_iff {ε α β : Type} {step : Except ε α} {next : α → Except ε β} {error : ε} :
    (step >>= next) = .error error ↔
      step = .error error ∨ ∃ read, step = .ok read ∧ next read = .error error := by
  cases step with
  | error other =>
      constructor
      · intro same
        cases same
        exact .inl rfl
      · intro refused
        rcases refused with same | ⟨read, ok, -⟩
        · cases same
          rfl
        · cases ok
  | ok read =>
      constructor
      · intro rest
        exact .inr ⟨read, rfl, rest⟩
      · intro refused
        rcases refused with same | ⟨other, same, rest⟩
        · cases same
        · cases same
          exact rest

theorem map_eq_ok_iff {ε α β : Type} {step : Except ε α} {next : α → β} {result : β} :
    step.map next = .ok result ↔ ∃ read, step = .ok read ∧ next read = result := by
  cases step with
  | error error => exact ⟨nofun, fun reads => nomatch reads⟩
  | ok read =>
      constructor
      · intro same
        exact ⟨read, rfl, Except.ok.inj same⟩
      · intro reads
        obtain ⟨other, same, rfl⟩ := reads
        cases same
        rfl

theorem map_eq_error_iff {ε α β : Type} {step : Except ε α} {next : α → β} {error : ε} :
    step.map next = .error error ↔ step = .error error := by
  cases step with
  | error other => exact ⟨fun same => congrArg _ (Except.error.inj same),
      fun same => congrArg _ (Except.error.inj same)⟩
  | ok read => exact ⟨nofun, nofun⟩

theorem exists_eq_ok_of_isOk {ε α : Type} {step : Except ε α} (succeeds : step.isOk = true) :
    ∃ result, step = .ok result := by
  cases step with
  | error error => cases succeeds
  | ok result => exact ⟨result, rfl⟩

end WebToken
