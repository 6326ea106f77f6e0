import Mathlib.Data.List.Basic
import TypedHub.CSharp.StringLiteral

/-!
# Marks and literals of a text

What a text of declarations does is decided by its semicolons and braces, as far as they stand
outside of string literals. A scan reads a text character by character and knows for each one
whether it stands in the code or in a literal. The marks of a text are the semicolons and braces
that it finds in the code.

Texts are put together from pieces, and a scan goes through piece by piece as long as each one
closes the literals that it opens. `Scans` says so of a text, together with its marks and with the
pieces that decide what stands in its literals.
-/

namespace TypedHub.CSharp

/-! ## The scan -/

/-- Where a character stands: in the code, in a string literal, or in one behind a backslash. -/
inductive Place where
  | code
  | literal
  | escaped
  deriving DecidableEq

/-- The place of the next character. A quote opens a literal and closes it again, unless it stands
behind a backslash. -/
def Place.next : Place → Char → Place
  | code, c => if c = '"' then literal else code
  | literal, c => if c = '"' then code else if c = '\\' then escaped else literal
  | escaped, _ => literal

/-- The place behind a text. -/
def Place.behind (place : Place) (text : List Char) : Place := text.foldl Place.next place

/-- The characters of a text with their places. -/
def placed (place : Place) : List Char → List (Place × Char)
  | [] => []
  | c :: rest => (place, c) :: placed (place.next c) rest

theorem Place.behind_append (place : Place) (front back : List Char) :
    place.behind (front ++ back) = (place.behind front).behind back := List.foldl_append

theorem placed_append (place : Place) (front back : List Char) :
    placed place (front ++ back) = placed place front ++ placed (place.behind front) back := by
  induction front generalizing place with
  | nil => rfl
  | cons c rest ih =>
    rw [List.cons_append, placed, ih, placed, List.cons_append]
    rfl

/-! ## Marks -/

/-- The characters that end a statement, or begin or end a block. -/
def isMark (c : Char) : Bool := c = ';' || c = '\x7b' || c = '\x7d'

/-- The characters of a text that stand in no literal. -/
def codeChars (text : String) : List Char :=
  ((placed .code text.toList).filter (·.1 = .code)).map (·.2)

/-- The marks of a text: those in its code. -/
def marks (text : String) : List Char := (codeChars text).filter isMark

/-- A character stands in a literal of the text. -/
def InLiteral (c : Char) (text : String) : Prop :=
  ∃ place ≠ Place.code, (place, c) ∈ placed .code text.toList

/-- A text that closes the literals that it opens. -/
def Closed (text : String) : Prop := Place.code.behind text.toList = .code

section Append

variable {front : String} (closed : Closed front) (back : String)

include closed

theorem placed_append_of_closed :
    placed .code (front ++ back).toList =
      placed .code front.toList ++ placed .code back.toList := by
  rw [String.toList_append, placed_append, closed]

theorem closed_append_iff : Closed (front ++ back) ↔ Closed back := by
  rw [Closed, String.toList_append, Place.behind_append, closed, Closed]

theorem marks_append : marks (front ++ back) = marks front ++ marks back := by
  rw [marks, codeChars, placed_append_of_closed closed, List.filter_append, List.map_append,
    List.filter_append]
  rfl

theorem inLiteral_append_iff (c : Char) :
    InLiteral c (front ++ back) ↔ InLiteral c front ∨ InLiteral c back := by
  simp only [InLiteral, placed_append_of_closed closed, List.mem_append, and_or_left, exists_or]

end Append

/-! ## Texts without quotes -/

theorem placed_of_unquoted {text : List Char} (h : '"' ∉ text) :
    Place.code.behind text = .code ∧ placed .code text = text.map (Place.code, ·) := by
  induction text with
  | nil => exact ⟨rfl, rfl⟩
  | cons c rest ih =>
    obtain ⟨first, others⟩ := not_or.1 (mt List.mem_cons.2 h)
    have stays : Place.code.next c = .code := if_neg (Ne.symm first)
    rw [Place.behind, List.foldl_cons, placed, stays, List.map_cons]
    exact ⟨(ih others).1, congrArg _ (ih others).2⟩

/-! ## Scanning in pieces -/

/-- The text closes its literals, has the marks, and has in its literals what the pieces have in
theirs. -/
structure Scans (text : String) (marked : List Char) (pieces : List String) : Prop where
  closed : Closed text
  marks_eq : marks text = marked
  inLiteral_iff : ∀ c, InLiteral c text ↔ ∃ piece ∈ pieces, InLiteral c piece

/-- A text that closes its literals and has no marks. -/
structure Quiet (text : String) : Prop where
  closed : Closed text
  marks_eq : marks text = []

theorem Quiet.scans {text : String} (quiet : Quiet text) : Scans text [] [text] :=
  ⟨quiet.closed, quiet.marks_eq, fun c => by simp⟩

theorem Scans.quiet {text : String} {pieces : List String} (scans : Scans text [] pieces) :
    Quiet text := ⟨scans.closed, scans.marks_eq⟩

/-- A text without quotes has its marks only, and nothing stands in a literal. -/
theorem scans_of_unquoted {text : String} (h : '"' ∉ text.toList) :
    Scans text (text.toList.filter isMark) [] := by
  obtain ⟨closed, places⟩ := placed_of_unquoted h
  refine ⟨closed, ?_, fun c => ?_⟩
  · have all : ∀ pair ∈ text.toList.map (Place.code, ·), decide (pair.1 = .code) = true :=
      List.forall_mem_map.2 fun _ _ => decide_eq_true rfl
    rw [marks, codeChars, places, List.filter_eq_self.2 all, List.map_map]
    exact congrArg _ (List.map_id _)
  · simp [InLiteral, places]

/-- A text of code that is known by its characters. -/
theorem scans_of_code {text : String} {chars marked : List Char}
    (spelled : text = String.ofList chars)
    (unquoted : '"' ∉ chars) (marked_eq : chars.filter isMark = marked) : Scans text marked [] := by
  have scans : Scans (String.ofList chars) _ [] :=
    scans_of_unquoted (by rwa [String.toList_ofList])
  rwa [String.toList_ofList, marked_eq, ← spelled] at scans

theorem Scans.append {front back : String} {markedFront markedBack : List Char}
    {piecesFront piecesBack : List String} (first : Scans front markedFront piecesFront)
    (second : Scans back markedBack piecesBack) :
    Scans (front ++ back) (markedFront ++ markedBack) (piecesFront ++ piecesBack) where
  closed := (closed_append_iff first.closed back).2 second.closed
  marks_eq := by rw [marks_append first.closed, first.marks_eq, second.marks_eq]
  inLiteral_iff c := by
    rw [inLiteral_append_iff first.closed, first.inLiteral_iff, second.inLiteral_iff]
    simp only [List.mem_append, or_and_right, exists_or]

/-- A text between texts of code. -/
theorem Scans.between {front text back : String} {marked : List Char} {pieces : List String}
    (scans : Scans text marked pieces) (before : Scans front [] []) (behind : Scans back [] []) :
    Scans (front ++ text ++ back) marked pieces := by
  have all := (before.append scans).append behind
  rwa [List.nil_append, List.nil_append, List.append_nil, List.append_nil] at all

theorem scans_empty : Scans "" [] [] := @scans_of_code "" [] [] rfl (by decide) rfl

/-- Texts with code between them. -/
theorem Scans.intercalate {α : Type} {separator : String} {text : α → String}
    {marks : α → List Char} {pieces : α → List String} (plain : Scans separator [] [])
    {list : List α} (h : ∀ a ∈ list, Scans (text a) (marks a) (pieces a)) :
    Scans (separator.intercalate (list.map text)) (list.flatMap marks) (list.flatMap pieces) := by
  match list, h with
  | [], _ => exact scans_empty
  | [a], h =>
    rw [List.map_singleton, String.intercalate_singleton, List.flatMap_singleton,
      List.flatMap_singleton]
    exact h a List.mem_cons_self
  | a :: b :: rest, h =>
    have first := h a List.mem_cons_self
    have others := Scans.intercalate plain fun other mem => h other (List.mem_cons_of_mem a mem)
    have all := (first.append plain).append others
    rw [List.append_nil, List.append_nil] at all
    rw [List.map_cons, List.map_cons, String.intercalate_cons_cons, List.flatMap_cons,
      List.flatMap_cons]
    exact all

/-- Texts without marks, with code between them. -/
theorem Scans.intercalate_unmarked {α : Type} {separator : String} {text : α → String}
    {pieces : α → List String} (plain : Scans separator [] []) {list : List α}
    (h : ∀ a ∈ list, Scans (text a) [] (pieces a)) :
    Scans (separator.intercalate (list.map text)) [] (list.flatMap pieces) := by
  have all := plain.intercalate h
  rwa [List.flatMap_eq_nil_iff.2 fun _ _ => rfl] at all

/-! ## Plain texts -/

/-- What is checked of each character in a list holds of each of them. -/
theorem forall_mem_of_all {p : Char → Prop} [DecidablePred p] {list : List Char}
    (h : list.all (fun c => decide (p c)) = true) : ∀ c ∈ list, p c :=
  fun c mem => of_decide_eq_true (List.all_eq_true.1 h c mem)

/-- The characters of a long text are quick to check once they are spelled out. -/
theorem forall_mem_of_spelled {p : Char → Prop} [DecidablePred p] {text : String}
    {chars : List Char} (spelled : text = String.ofList chars)
    (h : chars.all (fun c => decide (p c)) = true) : ∀ c ∈ text.toList, p c := by
  rw [spelled, String.toList_ofList]
  exact forall_mem_of_all h

/-- The characters that end a line. -/
def lineEnds : List Char := ['\n', '\r', '\u0085', '\u2028', '\u2029']

/-- The characters that names and types must not have: quotes, marks and ends of lines. -/
def structural : List Char := '"' :: ';' :: '\x7b' :: '\x7d' :: lineEnds

/-- A text without structural characters. -/
def Plain (text : String) : Prop := ∀ c ∈ text.toList, c ∉ structural

theorem plain_ofList {chars : List Char} (h : ∀ c ∈ chars, c ∉ structural) :
    Plain (String.ofList chars) := by rwa [Plain, String.toList_ofList]

theorem plain_append_iff {front back : String} :
    Plain (front ++ back) ↔ Plain front ∧ Plain back := by
  rw [Plain, String.toList_append]
  exact List.forall_mem_append

theorem Plain.scans {text : String} (plain : Plain text) : Scans text [] [] := by
  have none : text.toList.filter isMark = [] := List.filter_eq_nil_iff.2 fun c mem marked => by
    have marks : ∀ c, isMark c → c ∈ structural := by
      intro c marked
      simp only [isMark, Bool.or_eq_true, decide_eq_true_eq] at marked
      obtain (rfl | rfl) | rfl := marked <;> decide
    exact plain c mem (marks c marked)
  rw [← none]
  exact scans_of_unquoted fun mem => plain _ mem List.mem_cons_self

theorem Plain.quiet {text : String} (plain : Plain text) : Quiet text := plain.scans.quiet

theorem Plain.not_inLiteral {text : String} (plain : Plain text) (c : Char) :
    ¬ InLiteral c text := by
  rw [plain.scans.inLiteral_iff]
  exact fun ⟨_, mem, _⟩ => List.not_mem_nil mem

/-! ## String literals -/

/-- The line separator and the paragraph separator: the ends of lines that are no control
characters. -/
def separators : List Char := ['\u2028', '\u2029']

/-- Every literal of the text is closed on the line on which it begins. -/
def ClosesOnLine (text : String) : Prop := Closed text ∧ ∀ c ∈ lineEnds, ¬ InLiteral c text

/-- In a literal, characters that neither close it nor escape the next one stay in it. -/
theorem placed_of_unescaped {text : List Char} (h : ∀ c ∈ text, c ≠ '"' ∧ c ≠ '\\') :
    Place.literal.behind text = .literal ∧ ∀ pair ∈ placed .literal text, pair.1 ≠ .code := by
  induction text with
  | nil => exact ⟨rfl, fun _ mem => absurd mem List.not_mem_nil⟩
  | cons c rest ih =>
    obtain ⟨noQuote, noEscape⟩ := h c List.mem_cons_self
    obtain ⟨closed, places⟩ := ih fun other mem => h other (List.mem_cons_of_mem _ mem)
    have stays : Place.literal.next c = .literal := by
      rw [Place.next, if_neg noQuote, if_neg noEscape]
    rw [Place.behind, List.foldl_cons, placed, stays]
    refine ⟨closed, fun pair mem => ?_⟩
    obtain rfl | mem := List.mem_cons.1 mem
    · exact (nomatch ·)
    · exact places pair mem

theorem hexDigit_mem {n : Nat} (h : n < 16) : Text.hexDigit n ∈ "0123456789abcdef".toList := by
  have all : ∀ m ∈ List.range 16, Text.hexDigit m ∈ "0123456789abcdef".toList := by decide
  exact all n (List.mem_range.2 h)

theorem mem_of_mem_hexDigits {width n : Nat} {c : Char} (h : c ∈ Text.hexDigits width n) :
    c ∈ "0123456789abcdef".toList := by
  induction width generalizing n with
  | zero => exact absurd h List.not_mem_nil
  | succ width ih =>
    rw [Text.hexDigits, List.mem_append, List.mem_singleton] at h
    obtain h | rfl := h
    · exact ih h
    · exact hexDigit_mem (Nat.mod_lt _ (by decide))

/-- A character is written behind a backslash, by its code, or as it is. -/
theorem literalChar_cases (c : Char) :
    (∃ d, d ∉ lineEnds ∧ literalChar c = ['\\', d]) ∨
      literalChar c = ['\\', 'u'] ++ Text.hexDigits 4 c.toNat ∨
      literalChar c = [c] ∧ c ≠ '"' ∧ c ≠ '\\' ∧ isControl c = false := by
  unfold literalChar
  split
  · next special =>
    refine .inl ⟨c, ?_, rfl⟩
    simp only [Bool.or_eq_true, decide_eq_true_eq] at special
    obtain rfl | rfl := special <;> decide
  split
  · exact .inl ⟨'n', by decide, rfl⟩
  split
  · exact .inl ⟨'r', by decide, rfl⟩
  split
  · exact .inl ⟨'t', by decide, rfl⟩
  split
  · exact .inl ⟨'0', by decide, rfl⟩
  split
  · exact .inr (.inl rfl)
  · next plain _ _ _ _ control =>
    simp only [Bool.or_eq_true, decide_eq_true_eq, not_or] at plain
    exact .inr (.inr ⟨rfl, plain.1, plain.2, by simpa using control⟩)

/-- What is written for a character stays in the literal. -/
theorem placed_literalChar (c : Char) :
    Place.literal.behind (literalChar c) = .literal ∧
      ∀ pair ∈ placed .literal (literalChar c), pair.1 ≠ .code := by
  have escape (d : Char) : Place.literal.behind ['\\', d] = .literal ∧
      ∀ pair ∈ placed .literal ['\\', d], pair.1 ≠ .code := by
    refine ⟨rfl, fun pair mem => ?_⟩
    simp only [placed, List.mem_cons, List.not_mem_nil, or_false] at mem
    obtain rfl | rfl := mem <;> exact (nomatch ·)
  obtain ⟨d, -, eq⟩ | eq | ⟨eq, plain⟩ := literalChar_cases c
  · rw [eq]
    exact escape d
  · have digits : ∀ d ∈ Text.hexDigits 4 c.toNat, d ≠ '"' ∧ d ≠ '\\' := by
      intro d mem
      have all : ∀ d ∈ "0123456789abcdef".toList, d ≠ '"' ∧ d ≠ '\\' :=
        forall_mem_of_all (by decide)
      exact all d (mem_of_mem_hexDigits mem)
    obtain ⟨stays, places⟩ := placed_of_unescaped digits
    obtain ⟨-, front⟩ := escape 'u'
    rw [eq, Place.behind_append, placed_append]
    refine ⟨stays, fun pair mem => ?_⟩
    exact (List.mem_append.1 mem).elim (front pair) (places pair)
  · rw [eq]
    exact placed_of_unescaped fun d mem => List.mem_singleton.1 mem ▸ ⟨plain.1, plain.2.1⟩

theorem placed_flatMap_literalChar (text : List Char) :
    Place.literal.behind (text.flatMap literalChar) = .literal ∧
      ∀ pair ∈ placed .literal (text.flatMap literalChar), pair.1 ≠ .code := by
  induction text with
  | nil => exact ⟨rfl, fun _ mem => absurd mem List.not_mem_nil⟩
  | cons c rest ih =>
    obtain ⟨stays, places⟩ := placed_literalChar c
    rw [List.flatMap_cons, Place.behind_append, placed_append, stays]
    refine ⟨ih.1, fun pair mem => ?_⟩
    exact (List.mem_append.1 mem).elim (places pair) (ih.2 pair)

/-- The end of a line is written for a character only if it is that character and no control
character. -/
theorem mem_literalChar_iff {c d : Char} (h : d ∈ lineEnds) :
    d ∈ literalChar c ↔ d ∈ separators ∧ d = c := by
  constructor
  · intro mem
    obtain ⟨e, apart, eq⟩ | eq | ⟨eq, -, -, plain⟩ := literalChar_cases c
    · rw [eq, List.mem_pair] at mem
      obtain rfl | rfl := mem
      · exact absurd h (by decide)
      · exact absurd h apart
    · rw [eq, List.mem_append, List.mem_pair] at mem
      have apart : ∀ e ∈ '\\' :: 'u' :: "0123456789abcdef".toList, e ∉ lineEnds :=
        forall_mem_of_all (by decide)
      refine absurd h (apart d ?_)
      obtain (rfl | rfl) | mem := mem
      · exact List.mem_cons_self
      · exact List.mem_cons_of_mem _ List.mem_cons_self
      · exact List.mem_cons_of_mem _ (List.mem_cons_of_mem _ (mem_of_mem_hexDigits mem))
    · rw [eq, List.mem_singleton] at mem
      subst mem
      have controls : ∀ e ∈ lineEnds, isControl e = false → e ∈ separators :=
        forall_mem_of_all (by decide)
      exact ⟨controls d h plain, rfl⟩
  · rintro ⟨mem, rfl⟩
    have all : ∀ d ∈ separators, d ∈ literalChar d := forall_mem_of_all (by decide)
    exact all d mem

theorem toList_stringLiteral (value : String) :
    (stringLiteral value).toList = ['"'] ++ value.toList.flatMap literalChar ++ ['"'] := by
  rw [stringLiteral, String.toList_ofList]
  rfl

/-- The end of a line is written for a value only if the value has it and it is no control
character. -/
theorem mem_flatMap_literalChar_iff {c : Char} (lineEnd : c ∈ lineEnds) (value : List Char) :
    c ∈ value.flatMap literalChar ↔ c ∈ separators ∧ c ∈ value := by
  simp only [List.mem_flatMap, mem_literalChar_iff lineEnd]
  constructor
  · rintro ⟨_, mem, separator, rfl⟩
    exact ⟨separator, mem⟩
  · exact fun ⟨separator, mem⟩ => ⟨c, mem, separator, rfl⟩

theorem mem_stringLiteral_iff {c : Char} (lineEnd : c ∈ lineEnds) (value : String) :
    c ∈ (stringLiteral value).toList ↔ c ∈ separators ∧ c ∈ value.toList := by
  have noQuote : c ≠ '"' := by
    rintro rfl
    exact absurd lineEnd (by decide)
  rw [toList_stringLiteral, List.mem_append, List.mem_append, mem_flatMap_literalChar_iff lineEnd]
  simp [noQuote]

/-- A literal is closed behind its value, and all of it but the first quote stands in the
literal. -/
theorem placed_stringLiteral (value : String) :
    Closed (stringLiteral value) ∧
      placed .code (stringLiteral value).toList =
        (.code, '"') ::
          (placed .literal (value.toList.flatMap literalChar) ++ [(.literal, '"')]) := by
  obtain ⟨stays, -⟩ := placed_flatMap_literalChar value.toList
  have opened : Place.code.behind ['"'] = .literal := rfl
  rw [Closed, toList_stringLiteral, Place.behind_append, Place.behind_append, placed_append,
    placed_append, Place.behind_append, opened, stays]
  exact ⟨rfl, rfl⟩

theorem quiet_stringLiteral (value : String) : Quiet (stringLiteral value) where
  closed := (placed_stringLiteral value).1
  marks_eq := by
    obtain ⟨-, inside⟩ := placed_flatMap_literalChar value.toList
    have none : (placed .literal (value.toList.flatMap literalChar)).filter (·.1 = .code) = [] :=
      List.filter_eq_nil_iff.2 fun pair mem => mt of_decide_eq_true (inside pair mem)
    rw [marks, codeChars, (placed_stringLiteral value).2, List.filter_cons, List.filter_append,
      none]
    rfl

theorem map_snd_placed (place : Place) (text : List Char) :
    (placed place text).map (·.2) = text := by
  induction text generalizing place with
  | nil => rfl
  | cons c rest ih => rw [placed, List.map_cons, ih]

/-- **The end of a line stands in a literal if and only if the value has it and it is one of the two
separators.** -/
theorem inLiteral_stringLiteral_iff {c : Char} (h : c ∈ lineEnds) (value : String) :
    InLiteral c (stringLiteral value) ↔ c ∈ separators ∧ c ∈ value.toList := by
  obtain ⟨-, inside⟩ := placed_flatMap_literalChar value.toList
  have noQuote : c ≠ '"' := by
    rintro rfl
    exact absurd h (by decide)
  have written : (∃ pair ∈ placed .literal (value.toList.flatMap literalChar), pair.2 = c) ↔
      c ∈ separators ∧ c ∈ value.toList := by
    rw [← List.mem_map, map_snd_placed, mem_flatMap_literalChar_iff h]
  rw [InLiteral, (placed_stringLiteral value).2, ← written]
  constructor
  · rintro ⟨place, off, mem⟩
    obtain same | mem := List.mem_cons.1 mem
    · exact absurd (Prod.mk.inj same).1 off
    · obtain mem | same := List.mem_append.1 mem
      · exact ⟨_, mem, rfl⟩
      · exact absurd (Prod.mk.inj (List.mem_singleton.1 same)).2 noQuote
  · rintro ⟨⟨place, _⟩, mem, rfl⟩
    exact ⟨place, inside _ mem, List.mem_cons_of_mem _ (List.mem_append_left _ mem)⟩

end TypedHub.CSharp
