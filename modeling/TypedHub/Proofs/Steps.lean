import Mathlib.Data.List.Forall2

/-!
# Steps that may fail

A sequence of steps succeeds if and only if each of them does, on what the step before it has given,
and it fails with the error of the first one that fails.

* `bind_eq_ok_iff`, `bind_eq_error_iff` — one step after the other
* `check_bind_eq_ok_iff` — a step after a check, which gives nothing
* `forall₂_of_mapM_eq_ok`, `exists_mapM_eq_ok_iff`, `exists_of_mapM_eq_error`, `forM_eq_ok_iff` — the
  same step on each element of a list
-/

namespace TypedHub

variable {ε ε' α β γ : Type}

/-! ## One after the other -/

theorem bind_eq_ok_iff {first : Except ε α} {next : α → Except ε β} {b : β} :
    (first >>= next) = .ok b ↔ ∃ a, first = .ok a ∧ next a = .ok b := by
  cases first <;> simp [bind, Except.bind]

theorem bind_eq_error_iff {first : Except ε α} {next : α → Except ε β} {e : ε} :
    (first >>= next) = .error e ↔ first = .error e ∨ ∃ a, first = .ok a ∧ next a = .error e := by
  cases first <;> simp [bind, Except.bind]

theorem check_bind_eq_ok_iff {check : Except ε Unit} {next : Unit → Except ε β} {b : β} :
    (check >>= next) = .ok b ↔ check = .ok () ∧ next () = .ok b :=
  bind_eq_ok_iff.trans ⟨fun ⟨_, step⟩ => step, fun step => ⟨(), step⟩⟩

theorem map_eq_ok_iff {first : Except ε α} {f : α → β} {b : β} :
    first.map f = .ok b ↔ ∃ a, first = .ok a ∧ f a = b := by
  cases first <;> simp [Except.map]

theorem mapError_eq_ok_iff {first : Except ε α} {f : ε → ε'} {a : α} :
    first.mapError f = .ok a ↔ first = .ok a := by
  cases first <;> simp [Except.mapError]

theorem mapError_eq_error_iff {first : Except ε α} {f : ε → ε'} {e : ε'} :
    first.mapError f = .error e ↔ ∃ error, first = .error error ∧ f error = e := by
  cases first <;> simp [Except.mapError]

/-! ## One for each element of a list -/

theorem forall₂_of_mapM_eq_ok {f : α → Except ε β} {xs : List α} {ys : List β}
    (h : xs.mapM f = .ok ys) : List.Forall₂ (fun x y => f x = .ok y) xs ys := by
  induction xs generalizing ys with
  | nil =>
    cases h
    exact .nil
  | cons x xs ih =>
    rw [List.mapM_cons] at h
    obtain ⟨y, first, rest⟩ := bind_eq_ok_iff.1 h
    obtain ⟨ys, others, ⟨⟩⟩ := bind_eq_ok_iff.1 rest
    exact .cons first (ih others)

theorem exists_mapM_eq_ok_iff {f : α → Except ε β} {xs : List α} :
    (∃ ys, xs.mapM f = .ok ys) ↔ ∀ x ∈ xs, ∃ y, f x = .ok y := by
  induction xs with
  | nil => simp [pure, Except.pure]
  | cons x xs ih =>
    rw [List.mapM_cons, List.forall_mem_cons, ← ih]
    simp only [bind_eq_ok_iff]
    constructor
    · rintro ⟨_, y, first, ys, rest, -⟩
      exact ⟨⟨y, first⟩, ys, rest⟩
    · rintro ⟨⟨y, first⟩, ys, rest⟩
      exact ⟨y :: ys, y, first, ys, rest, rfl⟩

theorem exists_of_mapM_eq_error {f : α → Except ε β} {xs : List α} {e : ε}
    (h : xs.mapM f = .error e) : ∃ x ∈ xs, f x = .error e := by
  induction xs with
  | nil => cases h
  | cons x xs ih =>
    rw [List.mapM_cons] at h
    obtain first | ⟨y, -, rest⟩ := bind_eq_error_iff.1 h
    · exact ⟨x, List.mem_cons_self, first⟩
    · obtain later | ⟨ys, -, last⟩ := bind_eq_error_iff.1 rest
      · obtain ⟨x', mem, failed⟩ := ih later
        exact ⟨x', List.mem_cons_of_mem x mem, failed⟩
      · cases last

/-- What is done with the result of each step may as well be done after all steps. -/
theorem mapM_map_ok {f : α → Except ε β} {g : α → β → γ} (xs : List α) :
    xs.mapM (fun x => (f x).map (g x)) = (xs.mapM f).map (List.zipWith g xs) := by
  induction xs with
  | nil => rfl
  | cons x xs ih =>
    rw [List.mapM_cons, List.mapM_cons, ih]
    cases f x with
    | error e => rfl
    | ok y => cases xs.mapM f <;> rfl

theorem forM_eq_ok_iff {check : α → Except ε Unit} {list : List α} :
    list.forM check = .ok () ↔ ∀ a ∈ list, check a = .ok () := by
  induction list with
  | nil => simp [List.forM, pure, Except.pure]
  | cons a rest ih =>
    change (check a >>= fun _ => rest.forM check) = .ok () ↔ _
    rw [check_bind_eq_ok_iff, ih, List.forall_mem_cons]

end TypedHub
