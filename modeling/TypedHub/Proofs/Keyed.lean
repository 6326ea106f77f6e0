import Mathlib.Data.List.Nodup
import Mathlib.Data.List.Perm.Basic

/-!
# Lists with different keys

A list whose entries have different keys is as good as a map: an entry is found under its key, and
the order of the entries makes no difference to what is found.
-/

namespace TypedHub

variable {α κ : Type} [DecidableEq κ] {key : α → κ} {entries others : List α}

/-- What is found under a key is the entry that has it. -/
theorem find?_key_eq_some_iff (distinct : (entries.map key).Nodup) {k : κ} {entry : α} :
    entries.find? (key · = k) = some entry ↔ entry ∈ entries ∧ key entry = k := by
  constructor
  · intro found
    exact ⟨List.mem_of_find?_eq_some found, by simpa using List.find?_some found⟩
  · rintro ⟨mem, rfl⟩
    cases found : entries.find? (key · = key entry) with
    | none => simpa using List.find?_eq_none.1 found entry mem
    | some other =>
      have same : key other = key entry := by simpa using List.find?_some found
      rw [List.inj_on_of_nodup_map distinct (List.mem_of_find?_eq_some found) mem same]

/-- The order of the entries makes no difference. -/
theorem find?_key_eq_of_perm (perm : entries.Perm others) (distinct : (entries.map key).Nodup)
    (k : κ) : entries.find? (key · = k) = others.find? (key · = k) := by
  ext entry
  rw [find?_key_eq_some_iff distinct, find?_key_eq_some_iff ((perm.map key).nodup_iff.1 distinct),
    perm.mem_iff]

end TypedHub
