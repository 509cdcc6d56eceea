-- SUMMARY: What went on in a fallible computation, told by how it ended.

/-!
# Fallible computations

A computation that can fail is put together from steps and from changes of what they give. From its
result it is told here which step has failed, or what each step has given.
-/

namespace HistorySearch

variable {ε δ α β : Type} {x : Except ε α}

theorem ok_of_bind {f : α → Except ε β} {b : β} (h : (x >>= f) = .ok b) :
    ∃ a, x = .ok a ∧ f a = .ok b := by
  cases x with
  | error e => cases h
  | ok a => exact ⟨a, rfl, h⟩

/-- What goes wrong in two steps goes wrong in the first, or in the second after it. -/
theorem error_of_bind {f : α → Except ε β} {e : ε} (h : (x >>= f) = .error e) :
    x = .error e ∨ ∃ a, x = .ok a ∧ f a = .error e := by
  cases x with
  | error d =>
    cases h
    exact .inl rfl
  | ok a => exact .inr ⟨a, rfl, h⟩

theorem ok_of_map {f : α → β} {b : β} (h : x.map f = .ok b) : ∃ a, x = .ok a ∧ f a = b := by
  cases x with
  | error e => cases h
  | ok a => exact ⟨a, rfl, Except.ok.inj h⟩

theorem ok_of_mapError {f : ε → δ} {a : α} (h : x.mapError f = .ok a) : x = .ok a := by
  cases x with
  | error e => cases h
  | ok b =>
    cases h
    rfl

theorem error_of_mapError {f : ε → δ} {d : δ} (h : x.mapError f = .error d) :
    ∃ e, x = .error e ∧ d = f e := by
  cases x with
  | error e =>
    cases h
    exact ⟨e, rfl, rfl⟩
  | ok a => cases h

end HistorySearch
