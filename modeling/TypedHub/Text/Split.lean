/-!
# Cutting texts at a separator

A text with `n` separators has `n + 1` parts, some of them perhaps empty. Main statement: joining
the parts again gives the text (`intercalate_splitAt`).
-/

namespace TypedHub.Text

/-- The parts of a text between the separators. -/
def splitAt (separator : Char) : List Char → List (List Char)
  | [] => [[]]
  | c :: rest =>
    if c = separator then [] :: splitAt separator rest
    else
      match splitAt separator rest with
      | part :: parts => (c :: part) :: parts
      | [] => [[c]]

theorem splitAt_ne_nil (separator : Char) (text : List Char) : splitAt separator text ≠ [] := by
  cases text with
  | nil => simp [splitAt]
  | cons c rest =>
    simp only [splitAt]
    split
    · simp
    · split <;> simp

/-- **The parts joined by the separator are the text.** -/
theorem intercalate_splitAt (separator : Char) (text : List Char) :
    List.intercalate [separator] (splitAt separator text) = text := by
  induction text with
  | nil => simp [splitAt]
  | cons c rest ih =>
    cases parts : splitAt separator rest with
    | nil => exact absurd parts (splitAt_ne_nil separator rest)
    | cons part others =>
      rw [parts] at ih
      by_cases h : c = separator
      · simp [splitAt, h, parts, List.intercalate_cons_cons, ih]
      · cases others with
        | nil =>
          simp only [List.intercalate_singleton] at ih
          simp [splitAt, h, parts, ih]
        | cons next more =>
          rw [List.intercalate_cons_cons] at ih
          simp only [splitAt, h, if_false, parts, List.intercalate_cons_cons, List.cons_append, ih]

/-- The parts of a string between the separators. -/
def parts (separator : Char) (text : String) : List String :=
  (splitAt separator text.toList).map String.ofList

end TypedHub.Text
