/-! Steps that can fail, done one after another. -/

namespace SatClient

/-- What succeeds in two parts succeeds in the first and goes on from there. -/
theorem exists_of_bind_eq_ok {ε α β : Type} {first : Except ε α} {next : α → Except ε β}
    {result : β} (done : first >>= next = .ok result)
    : ∃ middle, first = .ok middle ∧ next middle = .ok result := by
  cases first with
  | error fault => cases done
  | ok middle => exact ⟨middle, rfl, done⟩

theorem bind_eq_ok_iff {ε α β : Type} {first : Except ε α} {next : α → Except ε β}
    {result : β}
    : first >>= next = .ok result ↔ ∃ middle, first = .ok middle ∧ next middle = .ok result := by
  constructor
  · exact exists_of_bind_eq_ok
  · rintro ⟨middle, done, others⟩
    rw [done]
    exact others

@[simp] theorem mapError_ok {ε δ α : Type} (f : ε → δ) (result : α)
    : (Except.ok result : Except ε α).mapError f = .ok result :=
  rfl

/-- A fault told differently is a fault all the same. -/
theorem mapError_eq_ok_iff {ε δ α : Type} {f : ε → δ} {done : Except ε α} {result : α}
    : done.mapError f = .ok result ↔ done = .ok result := by
  cases done with
  | ok value => rw [mapError_ok, Except.ok.injEq, Except.ok.injEq]
  | error fault => exact ⟨nofun, nofun⟩

theorem eq_ok_of_toOption {ε α : Type} {done : Except ε α} {result : α}
    (found : done.toOption = some result)
    : done = .ok result := by
  cases done with
  | error fault => cases found
  | ok value => exact congrArg Except.ok (Option.some.inj found)

end SatClient
