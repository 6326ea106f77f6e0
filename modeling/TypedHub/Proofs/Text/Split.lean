import TypedHub.Text.Split

/-!
# What the parts of a text are

A text without the separator is its own only part, and a separator divides the parts before it from
those behind it.
-/

namespace TypedHub.Text

variable {separator : Char} {text before behind : List Char}

theorem splitAt_of_not_mem (h : separator ∉ text) : splitAt separator text = [text] := by
  induction text with
  | nil => rfl
  | cons c rest ih =>
    rw [List.mem_cons, not_or] at h
    rw [splitAt, if_neg (Ne.symm h.1), ih h.2]

theorem splitAt_append_cons (separator : Char) (before behind : List Char) :
    splitAt separator (before ++ separator :: behind) =
      splitAt separator before ++ splitAt separator behind := by
  induction before with
  | nil => simp [splitAt]
  | cons c rest ih =>
    rw [List.cons_append, splitAt, splitAt, ih]
    split
    · rfl
    · cases parts : splitAt separator rest with
      | nil => exact absurd parts (splitAt_ne_nil separator rest)
      | cons part others => rfl

/-- Texts with a separator behind each are the parts again, and nothing stands behind the last
separator. -/
theorem splitAt_flatMap_concat {texts : List (List Char)} (h : ∀ text ∈ texts, separator ∉ text) :
    splitAt separator (texts.flatMap (· ++ [separator])) = texts ++ [[]] := by
  induction texts with
  | nil => rfl
  | cons first rest ih =>
    rw [List.forall_mem_cons] at h
    rw [List.flatMap_cons, List.append_assoc, List.singleton_append, splitAt_append_cons,
      splitAt_of_not_mem h.1, ih h.2]
    rfl

/-- No part has a separator. -/
theorem not_mem_of_mem_splitAt {part : List Char} (h : part ∈ splitAt separator text) :
    separator ∉ part := by
  induction text generalizing part with
  | nil =>
    obtain rfl := List.mem_singleton.1 h
    exact List.not_mem_nil
  | cons c rest ih =>
    rw [splitAt] at h
    split at h
    · rcases List.mem_cons.1 h with rfl | h
      · exact List.not_mem_nil
      · exact ih h
    · next other =>
      cases parts : splitAt separator rest with
      | nil => exact absurd parts (splitAt_ne_nil separator rest)
      | cons first others =>
        rw [parts] at h ih
        rcases List.mem_cons.1 h with rfl | h
        · rw [List.mem_cons, not_or]
          exact ⟨Ne.symm other, ih List.mem_cons_self⟩
        · exact ih (List.mem_cons_of_mem _ h)

/-! ## Strings -/

theorem parts_ne_nil (separator : Char) (text : String) : parts separator text ≠ [] :=
  fun nil => splitAt_ne_nil separator text.toList (List.map_eq_nil_iff.1 nil)

/-- The parts joined by the separator are the string. -/
theorem intercalate_parts (separator : Char) (text : String) :
    (String.singleton separator).intercalate (parts separator text) = text := by
  rw [← String.toList_inj, String.toList_intercalate, String.toList_singleton, parts, List.map_map]
  have same : String.toList ∘ String.ofList = id := funext fun _ => String.toList_ofList
  rw [same, List.map_id, intercalate_splitAt]

/-- Joined texts without the separator are the parts again. -/
theorem parts_intercalate {texts : List String} (nonempty : texts ≠ [])
    (h : ∀ text ∈ texts, separator ∉ text.toList) :
    parts separator ((String.singleton separator).intercalate texts) = texts := by
  induction texts with
  | nil => exact absurd rfl nonempty
  | cons first rest ih =>
    rw [List.forall_mem_cons] at h
    have alone := splitAt_of_not_mem h.1
    cases rest with
    | nil =>
      rw [String.intercalate_singleton, parts, alone, List.map_singleton, String.ofList_toList]
    | cons next more =>
      have others := ih (List.cons_ne_nil next more) h.2
      rw [parts] at others
      rw [String.intercalate_cons_cons, parts, String.append_assoc, String.toList_append,
        String.toList_append, String.toList_singleton, List.singleton_append, splitAt_append_cons,
        alone, List.map_append, others, List.map_singleton, String.ofList_toList,
        List.singleton_append]

end TypedHub.Text
