import TypedHub.Proofs.CSharp.Plain
import TypedHub.Stub.Contracts

/-!
# Texts of default values

The default of a parameter is written as a literal. A string is escaped, and all other literals are
words or numbers, which are plain.
-/

namespace TypedHub

open CSharp

/-! ## Numbers -/

theorem not_structural_of_isDigit {c : Char} (h : c.isDigit = true) : c ∉ structural := by
  have none : ∀ c ∈ structural, c.isDigit = false := forall_mem_of_all (by decide)
  exact fun mem => absurd h (by rw [none c mem]; decide)

theorem not_structural_of_mem_toDigits {n : Nat} {c : Char} (mem : c ∈ Nat.toDigits 10 n) :
    c ∉ structural :=
  not_structural_of_isDigit (Nat.isDigit_of_mem_toDigits (by decide) (by decide) mem)

namespace Decimal

theorem not_structural_of_mem_ofMultiple {d : Nat} {k : Int} {c : Char}
    (mem : c ∈ (Digits.ofMultiple d k).digits) : c ∉ structural := by
  have kept := (List.dropWhile_sublist _).subset (List.mem_reverse.1 mem)
  exact not_structural_of_mem_toDigits (List.mem_reverse.1 kept)

theorem not_structural_of_mem_shortest {bits : Nat} {c : Char}
    (mem : c ∈ (shortest bits).digits) : c ∉ structural := by
  rw [shortest, Binary.shortest] at mem
  cases found : (List.range' 1 17).findSome? (Binary.ofBits bits).withDigits? with
  | none =>
    rw [found] at mem
    rw [List.mem_singleton.1 mem]
    decide
  | some digits =>
    rw [found] at mem
    obtain ⟨n, -, found⟩ := List.exists_of_findSome?_eq_some found
    obtain ⟨d, -, rfl⟩ := Option.map_eq_some_iff.1 found
    exact not_structural_of_mem_ofMultiple mem

end Decimal

namespace Json

variable {number : Decimal.Digits}

theorem not_structural_of_mem_positional (digits : ∀ c ∈ number.digits, c ∉ structural) :
    ∀ c ∈ positional number, c ∉ structural := by
  have zeros (n : Nat) : ∀ c ∈ List.replicate n '0', c ∉ structural := by
    intro c mem
    rw [List.eq_of_mem_replicate mem]
    decide
  unfold positional
  split
  · next n _ =>
    rw [List.forall_mem_append, List.forall_mem_append]
    exact ⟨⟨forall_mem_of_all (by decide), zeros n⟩, digits⟩
  · next n _ =>
    refine List.forall_mem_append.2 ⟨List.forall_mem_append.2 ⟨?_, zeros _⟩, ?_⟩
    · exact fun c mem => digits c (List.mem_of_mem_take mem)
    · refine List.forall_mem_cons.2 ⟨by decide, ?_⟩
      split
      · exact forall_mem_of_all (by decide)
      · exact fun c mem => digits c (List.mem_of_mem_drop mem)

theorem not_structural_of_mem_scientific (digits : ∀ c ∈ number.digits, c ∉ structural) :
    ∀ c ∈ scientific number, c ∉ structural := by
  unfold scientific
  rw [List.forall_mem_append, List.forall_mem_append, List.forall_mem_append]
  refine ⟨⟨⟨?_, ?_⟩, ?_⟩, ?_⟩
  · exact fun c mem => digits c (List.mem_of_mem_take mem)
  · split
    · exact fun c mem => absurd mem List.not_mem_nil
    · refine List.forall_mem_cons.2 ⟨by decide, ?_⟩
      exact fun c mem => digits c (List.mem_of_mem_drop mem)
  · refine List.forall_mem_cons.2 ⟨by decide, List.forall_mem_singleton.2 ?_⟩
    split <;> decide
  · exact fun c mem => not_structural_of_mem_toDigits mem

theorem plain_floatText (x : Float) : Plain (floatText x) := by
  refine plain_ofList (List.forall_mem_append.2 ⟨?_, ?_⟩)
  · split <;> exact forall_mem_of_all (by decide)
  · split
    · exact forall_mem_of_all (by decide)
    · dsimp only
      split
      · exact not_structural_of_mem_positional fun c => Decimal.not_structural_of_mem_shortest
      · exact not_structural_of_mem_scientific fun c => Decimal.not_structural_of_mem_shortest

theorem Number.plain_text (number : Number) : Plain number.text := by
  cases number with
  | integer value =>
    have natural (n : Nat) : Plain n.repr := by
      rw [Plain, Nat.toList_repr]
      exact fun c mem => not_structural_of_mem_toDigits mem
    change Plain (toString value)
    rw [Int.toString_eq_repr, Int.repr_eq_if]
    split
    · exact natural _
    · exact plain_append_iff.2 ⟨plain_of_spelled rfl (by decide), natural _⟩
  | float x => exact plain_floatText x

end Json

/-! ## Defaults -/

/-- **A default is written plainly, or it is a string literal.** -/
theorem plain_or_eq_stringLiteral_of_defaultText {parameter : Metadata.ParameterSymbol}
    {text : String} (h : defaultText parameter = some text) :
    Plain text ∨ ∃ value, text = stringLiteral value := by
  have word : Plain "default" := plain_of_spelled rfl (by decide)
  unfold defaultText at h
  split at h
  · split at h
    · exact .inl (Option.some.inj h ▸ word)
    · exact nomatch h
  · split at h
    · exact .inl (Option.some.inj h ▸ word)
    · exact nomatch h
  · next value _ =>
    refine .inl (Option.some.inj h ▸ ?_)
    cases value <;> exact plain_of_spelled rfl (by decide)
  · next value _ => exact .inl (Option.some.inj h ▸ value.plain_text)
  · next value _ => exact .inr ⟨value, (Option.some.inj h).symm⟩
  · exact .inl (Option.some.inj h ▸ word)
  · exact .inl (Option.some.inj h ▸ word)

end TypedHub
