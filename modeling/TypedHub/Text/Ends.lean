/-!
# The beginning and the end of a text
-/

namespace TypedHub.Text

/-- What follows `front` in a text that begins with it. -/
def behind? : (front text : List Char) → Option (List Char)
  | [], text => some text
  | _ :: _, [] => none
  | c :: front, d :: text => if c = d then behind? front text else none

theorem behind?_eq_some_iff {front text rest : List Char} :
    behind? front text = some rest ↔ text = front ++ rest := by
  induction front generalizing text with
  | nil => simp [behind?, eq_comm]
  | cons c front ih =>
    cases text with
    | nil => simp [behind?]
    | cons d text =>
      by_cases h : c = d
      · simp [behind?, h, ih]
      · simp [behind?, h, Ne.symm h]

/-- What precedes `back` in a text that ends with it. -/
def before? (back text : List Char) : Option (List Char) :=
  (behind? back.reverse text.reverse).map List.reverse

theorem before?_eq_some_iff {back text rest : List Char} :
    before? back text = some rest ↔ text = rest ++ back := by
  simp only [before?, Option.map_eq_some_iff, behind?_eq_some_iff]
  constructor
  · rintro ⟨front, h, rfl⟩
    have := congrArg List.reverse h
    simpa using this
  · rintro rfl
    exact ⟨rest.reverse, by simp, by simp⟩

end TypedHub.Text
