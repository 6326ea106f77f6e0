import TypedHub.CSharp.Name
import TypedHub.Proofs.CSharp.Scan

/-!
# Names are plain

The rules for identifiers and type names admit no structural character. So a name that passes them
can neither end a declaration nor open a block or a literal, and no line ends in it.
-/

namespace TypedHub.CSharp

theorem plain_of_spelled {text : String} {chars : List Char} (spelled : text = String.ofList chars)
    (h : chars.all (fun c => decide (c ∉ structural)) = true) : Plain text :=
  forall_mem_of_spelled spelled h

/-! ## Characters of names -/

theorem not_structural_of_isTypeNamePart {c : Char} (h : isTypeNamePart c = true) :
    c ∉ structural := by
  have none : ∀ c ∈ structural, isTypeNamePart c = false :=
    forall_mem_of_all (by decide +kernel)
  exact fun mem => absurd h (by rw [none c mem]; decide)

theorem isTypeNamePart_of_isNamePart {c : Char} (h : isNamePart c = true) :
    isTypeNamePart c = true := by rw [isTypeNamePart, h, Bool.true_or]

/-- The marks of type names are brackets, separators, question marks, at signs and blanks. -/
theorem isTypeNamePart_of_mem {c : Char} (h : c ∈ "@.:<>[],?() ".toList) :
    isTypeNamePart c = true := by
  rw [isTypeNamePart, List.contains_iff_mem.2 h, Bool.or_true]

/-- What separates names, of spaces or of directories, is part of none. -/
theorem isNamePart_eq_false {c : Char} (h : c = '.' ∨ c = '/') : isNamePart c = false := by
  obtain rfl | rfl := h <;> decide +kernel

theorem isNamePart_of_isNameStart {c : Char} (h : isNameStart c = true) : isNamePart c = true := by
  rw [isNamePart, ← isNameStart, h, Bool.true_or]

theorem isTypeNamePart_of_isTypeNameStart {c : Char} (h : isTypeNameStart c = true) :
    isTypeNamePart c = true := by
  obtain first | special := Bool.or_eq_true_iff.1 h
  · exact isTypeNamePart_of_isNamePart (isNamePart_of_isNameStart first)
  · have among : ∀ c ∈ "@([".toList, c ∈ "@.:<>[],?() ".toList := forall_mem_of_all (by decide)
    exact isTypeNamePart_of_mem (among c (List.contains_iff_mem.1 special))

/-! ## Names -/

theorem forall_mem_of_isPlainIdentifier {name : List Char} (h : isPlainIdentifier name = true) :
    ∀ c ∈ name, isTypeNamePart c = true := by
  cases name with
  | nil => exact fun _ mem => absurd mem List.not_mem_nil
  | cons first rest =>
    obtain ⟨start, parts⟩ := Bool.and_eq_true_iff.1 h
    have later : ∀ c ∈ rest, isTypeNamePart c = true := fun c mem =>
      isTypeNamePart_of_isNamePart (List.all_eq_true.1 parts c mem)
    exact List.forall_mem_cons.2
      ⟨isTypeNamePart_of_isNamePart (isNamePart_of_isNameStart start), later⟩

/-- An identifier is made of letters, numerals and underscores, with an at sign perhaps. -/
theorem eq_at_or_isNamePart_of_isIdentifier {name : List Char} (h : isIdentifier name = true) :
    ∀ c ∈ name, c = '@' ∨ isNamePart c = true := by
  have plain : ∀ text, isPlainIdentifier text = true → ∀ c ∈ text, c = '@' ∨ isNamePart c = true
    | [], _ => fun _ mem => absurd mem List.not_mem_nil
    | first :: rest, h => by
      obtain ⟨start, parts⟩ := Bool.and_eq_true_iff.1 h
      exact List.forall_mem_cons.2 ⟨.inr (isNamePart_of_isNameStart start),
        fun c mem => .inr (List.all_eq_true.1 parts c mem)⟩
  unfold isIdentifier at h
  split at h
  · exact List.forall_mem_cons.2 ⟨.inl rfl, plain _ h⟩
  · exact plain _ h

theorem point_not_mem_of_isIdentifier {name : List Char} (h : isIdentifier name = true) :
    '.' ∉ name := by
  intro point
  rcases eq_at_or_isNamePart_of_isIdentifier h '.' point with sign | part
  · cases sign
  · rw [isNamePart_eq_false (.inl rfl)] at part
    cases part

theorem point_not_mem_escapeKeyword {name : String} (h : isIdentifier name.toList = true) :
    '.' ∉ (escapeKeyword name).toList := by
  have point := point_not_mem_of_isIdentifier h
  unfold escapeKeyword
  split
  · rw [String.toList_append, List.mem_append, not_or]
    exact ⟨by decide, point⟩
  · exact point

theorem forall_mem_of_isIdentifier {name : List Char} (h : isIdentifier name = true) :
    ∀ c ∈ name, isTypeNamePart c = true := by
  unfold isIdentifier at h
  split at h
  · exact List.forall_mem_cons.2
      ⟨isTypeNamePart_of_mem (by decide), forall_mem_of_isPlainIdentifier h⟩
  · exact forall_mem_of_isPlainIdentifier h

theorem plain_of_isIdentifier {name : String} (h : isIdentifier name.toList = true) : Plain name :=
  fun c mem => not_structural_of_isTypeNamePart (forall_mem_of_isIdentifier h c mem)

theorem plain_of_isTypeName {name : String} (h : isTypeName name.toList = true) : Plain name := by
  intro c mem
  cases chars : name.toList with
  | nil => rw [chars] at mem; exact absurd mem List.not_mem_nil
  | cons first rest =>
    rw [chars] at h mem
    simp only [isTypeName, Bool.and_eq_true, List.all_eq_true] at h
    obtain ⟨⟨start, parts⟩, -⟩ := h
    obtain rfl | mem := List.mem_cons.1 mem
    · exact not_structural_of_isTypeNamePart (isTypeNamePart_of_isTypeNameStart start)
    · exact not_structural_of_isTypeNamePart (parts c mem)

/-- Every character of joined parts stands in a separator or in one of the parts. -/
theorem mem_of_mem_intercalate {separator : List Char} {c : Char} {parts : List (List Char)}
    (mem : c ∈ separator.intercalate parts) : c ∈ separator ∨ ∃ part ∈ parts, c ∈ part := by
  match parts, mem with
  | [], mem => exact absurd mem List.not_mem_nil
  | [part], mem =>
    rw [List.intercalate_singleton] at mem
    exact .inr ⟨part, List.mem_cons_self, mem⟩
  | part :: next :: rest, mem =>
    rw [List.intercalate_cons_cons, List.mem_append, List.mem_append] at mem
    obtain (mem | mem) | mem := mem
    · exact .inr ⟨part, List.mem_cons_self, mem⟩
    · exact .inl mem
    · refine (mem_of_mem_intercalate mem).imp_right fun ⟨other, among, mem⟩ => ?_
      exact ⟨other, List.mem_cons_of_mem _ among, mem⟩

theorem forall_mem_of_parts {name : String}
    (h : ∀ part ∈ Text.parts '.' name, isIdentifier part.toList = true) :
    ∀ c ∈ name.toList, isTypeNamePart c = true := by
  intro c mem
  rw [← Text.intercalate_splitAt '.' name.toList] at mem
  obtain point | ⟨part, among, mem⟩ := mem_of_mem_intercalate mem
  · exact isTypeNamePart_of_mem (List.mem_singleton.1 point ▸ by decide)
  · have checked := h _ (List.mem_map_of_mem among)
    rw [String.toList_ofList] at checked
    exact forall_mem_of_isIdentifier checked c mem

theorem plain_of_parts {name : String}
    (h : ∀ part ∈ Text.parts '.' name, isIdentifier part.toList = true) : Plain name :=
  fun c mem => not_structural_of_isTypeNamePart (forall_mem_of_parts h c mem)

theorem plain_escapeKeyword {name : String} (plain : Plain name) : Plain (escapeKeyword name) := by
  unfold escapeKeyword
  split
  · exact plain_append_iff.2 ⟨plain_of_spelled rfl (by decide), plain⟩
  · exact plain

end TypedHub.CSharp
