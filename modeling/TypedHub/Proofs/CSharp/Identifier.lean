import TypedHub.CSharp.Unit
import TypedHub.CSharp.Name

/-!
# Names as identifiers

An at sign in front of a name only says that the name is no keyword: `@event` and `event` spell the
same identifier. Two names clash if their identifiers are equal, so escaping a keyword never makes
or removes a clash (`identifier_escapeKeyword`).
-/

namespace TypedHub.CSharp

/-- The identifier that a name spells. -/
def identifier (name : String) : String :=
  match name.toList with
  | '@' :: rest => String.ofList rest
  | _ => name

theorem identifier_at (name : String) : identifier ("@" ++ name) = name := by
  have h : ("@" ++ name).toList = '@' :: name.toList := by rw [String.toList_append]; rfl
  simp [identifier, h]

theorem identifier_of_mem_keywords {name : String} (h : name ∈ keywords ∨ name ∈ asyncKeywords) :
    identifier name = name := by
  have all : ∀ keyword ∈ keywords ++ asyncKeywords, identifier keyword = keyword := by decide
  exact all name (List.mem_append.2 h)

@[simp]
theorem identifier_escapeKeyword (name : String) :
    identifier (escapeKeyword name) = identifier name := by
  unfold escapeKeyword
  split
  · next h => rw [identifier_at, identifier_of_mem_keywords h]
  · rfl

/-- A name that is written without an at sign is spelled with and without one. -/
theorem identifier_eq_iff {name other : String} (plain : other.toList.head? ≠ some '@') :
    identifier name = other ↔ name = other ∨ name = "@" ++ other := by
  constructor
  · intro same
    unfold identifier at same
    split at same
    · next rest escaped =>
      refine .inr (String.toList_injective ?_)
      rw [String.toList_append, ← same]
      simpa using escaped
    · exact .inl same
  · rintro (rfl | rfl)
    · unfold identifier
      split
      · next rest escaped =>
        rw [escaped] at plain
        exact absurd rfl plain
      · rfl
    · exact identifier_at other

/-! ## Members -/

/-- The name that a member brings into its type. A constructor brings none: it is called by the name
of the type. -/
def Member.name? : Member → Option String
  | property p => some p.name
  | method m => some m.name
  | event e => some e.name
  | delegate d => some d.name
  | constructor _ => none

/-- Two members with the same identifier. -/
def Member.SharesName (a b : Member) : Prop :=
  ∃ name other, a.name? = some name ∧ b.name? = some other ∧ identifier name = identifier other

/-! ## Parameters -/

/-- No two of the parameters have the same identifier. -/
def NamesApart (params : List Param) : Prop := (params.map fun param => identifier param.name).Nodup

instance : DecidablePred NamesApart := fun _ => inferInstanceAs (Decidable (List.Nodup _))

end TypedHub.CSharp
