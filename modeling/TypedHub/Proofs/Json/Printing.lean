import Mathlib.Data.List.Forall2
import TypedHub.Json.Printer
import TypedHub.Proofs.Json.Extents

/-!
# Reading what was printed

A value in which no number stands is read from its text again, if it is not nested too deep
(`parseRaw_pretty`). So different values have different texts (`pretty_injective`).

The texts of strings, lists and objects end with themselves: whatever stands behind them, the same
is read (`ReadsBack`).
-/

namespace TypedHub.Json

variable {α : Type}

/-! ## Strings -/

theorem hexValue_hexDigit : ∀ n < 16, hexValue? (Text.hexDigit n) = some n := by decide

theorem outcome_hexQuad_hexDigits {n : Nat} (h : n < 0x10000) (rest : List Char) :
    outcome (hexQuad (Text.hexDigits 4 n ++ rest)) = some (n, rest) := by
  have digits : Text.hexDigits 4 n = [Text.hexDigit (n / 16 / 16 / 16 % 16),
      Text.hexDigit (n / 16 / 16 % 16), Text.hexDigit (n / 16 % 16), Text.hexDigit (n % 16)] := rfl
  have number : ((n / 16 / 16 / 16 % 16 * 16 + n / 16 / 16 % 16) * 16 + n / 16 % 16) * 16 + n % 16 =
      n := by omega
  have small : ∀ m, m % 16 < 16 := fun m => Nat.mod_lt m (by decide)
  rw [digits]
  simp only [List.cons_append, List.nil_append, hexQuad, hexValue_hexDigit _ (small _), outcome_ok,
    number]

/-- A control character is read from its escape. -/
theorem outcome_escape_hexDigits {c : Char} (control : c.toNat < 0x20) (rest : List Char) :
    outcome (escape ('u' :: (Text.hexDigits 4 c.toNat ++ rest))) = some (c, rest) := by
  have small : isTrailing c.toNat = false ∧ isLeading c.toNat = false := by
    simp only [isTrailing, isLeading, Bool.and_eq_false_iff, decide_eq_false_iff_not]
    omega
  rw [outcome_escape_unicode, outcome_unicodeEscape, outcome_hexQuad_hexDigits (by omega)]
  simp [escapeFrom?, small, Char.ofNat_toNat]

/-- A character is written by a letter, by its code, or as it is. -/
theorem escapedChar_cases (c : Char) :
    (∃ d, d ≠ 'u' ∧ simpleEscape? d = some c ∧ escapedChar c = ['\\', d]) ∨
    (c.toNat < 0x20 ∧ escapedChar c = '\\' :: 'u' :: Text.hexDigits 4 c.toNat) ∨
    (c ≠ '"' ∧ c ≠ '\\' ∧ isControl c = false ∧ escapedChar c = [c]) := by
  unfold escapedChar
  split
  · next special =>
    rw [Bool.or_eq_true, decide_eq_true_eq, decide_eq_true_eq] at special
    rcases special with rfl | rfl <;> exact .inl ⟨_, by decide, rfl, rfl⟩
  next special =>
  iterate 5
    split
    · next h => subst h; exact .inl ⟨_, by decide, rfl, rfl⟩
  split
  · next control => exact .inr (.inl ⟨control, rfl⟩)
  · next printable =>
    rw [Bool.or_eq_true, decide_eq_true_eq, decide_eq_true_eq, not_or] at special
    exact .inr (.inr ⟨special.1, special.2, decide_eq_false printable, rfl⟩)

/-- Each character is read from what is written for it. -/
theorem outcome_readString_escapedChar (done : List Char) (c : Char) (rest : List Char) :
    outcome (readString done (escapedChar c ++ rest)) = outcome (readString (c :: done) rest) := by
  rcases escapedChar_cases c with
    ⟨d, unicode, simple, written⟩ | ⟨control, written⟩ | ⟨unquoted, unescaped, printable, written⟩
  · rw [written, List.cons_append, List.singleton_append, outcome_readString, if_neg (by decide),
      if_pos rfl, outcome_escape_letter unicode, simple]
    rfl
  · rw [written, List.cons_append, List.cons_append, outcome_readString, if_neg (by decide),
      if_pos rfl, outcome_escape_hexDigits control]
    rfl
  · rw [written, List.singleton_append, outcome_readString, if_neg unquoted, if_neg unescaped,
      if_neg (by rw [printable]; decide)]

theorem outcome_readString_escaped (done text rest : List Char) :
    outcome (readString done (text.flatMap escapedChar ++ '"' :: rest)) =
      some (String.ofList (done.reverse ++ text), rest) := by
  induction text generalizing done with
  | nil => rw [List.flatMap_nil, List.nil_append, outcome_readString, if_pos rfl, List.append_nil]
  | cons c text ih =>
    rw [List.flatMap_cons, List.append_assoc, outcome_readString_escapedChar, ih,
      List.reverse_cons, List.append_assoc, List.singleton_append]

theorem toList_stringText (text : String) :
    (stringText text).toList = '"' :: (text.toList.flatMap escapedChar ++ ['"']) :=
  String.toList_ofList

theorem label_stringText {lead : List Char} (blank : Blank lead) (key : String)
    (rest : List Char) :
    label? (lead ++ ((stringText key).toList ++ ':' :: rest)) = some (key, rest) := by
  have front : skipBlanks (lead ++ ((stringText key).toList ++ ':' :: rest)) =
      '"' :: (key.toList.flatMap escapedChar ++ '"' :: ':' :: rest) := by
    rw [toList_stringText, List.cons_append, List.append_assoc]
    exact skipBlanks_lead blank rfl _
  simp only [label?, front, outcome_readString_escaped, Option.bind_some, List.reverse_nil,
    List.nil_append, String.ofList_toList, behindColon_eq_some_iff.2 (skipBlanks_cons rfl rest),
    Option.map_some]

/-! ## Entries -/

/-- The text begins neither with a blank nor like the end of a list or an object. -/
def Begins (text : List Char) : Prop :=
  ∃ c behind, text = c :: behind ∧ isBlank c = false ∧ ∀ bracket : Bracket, c ≠ bracket.closing

/-- The text is read as the value wherever it stands: behind blanks, and before anything. -/
structure ReadsBack (reader : TextReader α) (text : List Char) (a : α) : Prop where
  begins : Begins text
  read : ∀ lead rest, Blank lead → outcome (reader (lead ++ (text ++ rest))) = some (a, rest)

/-- Entries with commas between them, each behind the separator. -/
def entriesText (separator : List Char) (texts : List (List Char)) : List Char :=
  separator ++ (',' :: separator).intercalate texts

theorem entriesText_singleton (separator text : List Char) :
    entriesText separator [text] = separator ++ text := by
  rw [entriesText, List.intercalate_singleton]

theorem entriesText_cons_cons (separator text next : List Char) (texts : List (List Char)) :
    entriesText separator (text :: next :: texts) =
      separator ++ (text ++ ',' :: entriesText separator (next :: texts)) := by
  rw [entriesText, List.intercalate_cons_cons, entriesText, List.append_assoc, List.cons_append]

section

variable {texts : List (List Char)} {separator trail : List Char}

theorem exists_append_entriesText (separator text : List Char) (texts : List (List Char)) :
    ∃ others, entriesText separator (text :: texts) = separator ++ (text ++ others) := by
  cases texts with
  | nil => exact ⟨[], by rw [entriesText_singleton, List.append_nil]⟩
  | cons next texts => exact ⟨_, entriesText_cons_cons separator text next texts⟩

theorem skipBlanks_entriesText (blank : Blank separator) {text : List Char} (begins : Begins text)
    (texts : List (List Char)) (rest : List Char) :
    ∃ c behind, skipBlanks (entriesText separator (text :: texts) ++ rest) = c :: behind ∧
      ∀ bracket : Bracket, c ≠ bracket.closing := by
  obtain ⟨c, behind, rfl, unblank, notClosed⟩ := begins
  obtain ⟨others, same⟩ := exists_append_entriesText separator (c :: behind) texts
  refine ⟨c, behind ++ others ++ rest, ?_, notClosed⟩
  rw [same, List.append_assoc, List.cons_append, List.cons_append, skipBlanks_lead blank unblank]

/-- Behind a comma the entries go on. -/
theorem onward_entriesText (blank : Blank separator) {text : List Char} (begins : Begins text)
    (texts : List (List Char)) (rest : List Char) (bracket : Bracket) :
    onward? bracket.closing (',' :: (entriesText separator (text :: texts) ++ rest)) =
      some (.more (entriesText separator (text :: texts) ++ rest)) := by
  obtain ⟨c, behind, front, notClosed⟩ := skipBlanks_entriesText blank begins texts rest
  simp only [onward?, skipBlanks_cons (show isBlank ',' = false from rfl), front,
    notClosed bracket, bracket.closing_ne_comma.symm, if_true, if_false]

theorem outcome_readItems_printed {item : TextReader α} {values : List α}
    (blank : Blank separator) (blank' : Blank trail)
    (h : List.Forall₂ (ReadsBack item) texts values) (filled : texts ≠ []) (position : Nat)
    (rest : List Char) :
    outcome (readItems item position (entriesText separator texts ++ (trail ++ ']' :: rest))) =
        some (values, rest) := by
  induction h generalizing position with
  | nil => exact absurd rfl filled
  | @cons text a texts values first others ih =>
    rw [outcome_readItems]
    cases others with
    | nil =>
      rw [entriesText_singleton, List.append_assoc, first.read _ _ blank]
      exact congrArg (Option.bind · _) (onward_closed blank' .square rest)
    | @cons next b texts values second others =>
      have later := ih (List.cons_ne_nil _ _) (position + 1)
      have more := onward_entriesText blank second.begins texts (trail ++ ']' :: rest) .square
      rw [entriesText_cons_cons, List.append_assoc, List.append_assoc, first.read _ _ blank]
      refine (congrArg (Option.bind · _) more).trans ?_
      simp only [Option.bind_some]
      rw [later]
      rfl

/-- A member as it is printed. -/
def memberText (key : String) (text : List Char) : List Char :=
  (stringText key).toList ++ ':' :: ' ' :: text

theorem begins_memberText (key : String) (text : List Char) : Begins (memberText key text) := by
  rw [memberText, toList_stringText]
  exact ⟨'"', _, rfl, rfl, by rintro (_ | _) <;> decide⟩

/-- The first member is read, and then the object is closed or goes on. -/
theorem outcome_readMembers_memberText (blank : Blank separator) {value : TextReader Json}
    {text : List Char} {v : Json} (h : ReadsBack value text v) (key : String)
    (done : List (String × Json)) (behind : List Char) :
    outcome (readMembers (gather value) done (separator ++ (memberText key text ++ behind))) =
      (onward? '\x7d' behind).bind fun
        | .closed rest => some ((key, v) :: done, rest)
        | .more rest => outcome (readMembers (gather value) ((key, v) :: done) rest) := by
  have read := h.read [' '] behind (by simp [Blank])
  rw [outcome_readMembers, memberText, List.append_assoc, List.cons_append, List.cons_append,
    label_stringText blank]
  simp only [Option.bind_some, gather, Except.toOption, outcome_map]
  rw [← List.singleton_append, read]
  rfl

theorem outcome_readMembers_printed {value : TextReader Json} {members : List (String × Json)}
    (blank : Blank separator) (blank' : Blank trail)
    (h : List.Forall₂ (fun text (member : String × Json) =>
      ∃ own, text = memberText member.1 own ∧ ReadsBack value own member.2) texts members)
    (filled : texts ≠ []) (done : List (String × Json)) (rest : List Char) :
    outcome (readMembers (gather value) done
      (entriesText separator texts ++ (trail ++ '\x7d' :: rest))) =
        some (members.reverse ++ done, rest) := by
  induction h generalizing done with
  | nil => exact absurd rfl filled
  | @cons text member texts members first others ih =>
    obtain ⟨own, rfl, first⟩ := first
    cases others with
    | nil =>
      rw [entriesText_singleton, List.append_assoc, outcome_readMembers_memberText blank first]
      exact congrArg (Option.bind · _) (onward_closed blank' .curly rest)
    | @cons next b texts members second others =>
      have later := ih (List.cons_ne_nil _ _) (member :: done)
      obtain ⟨text, rfl, second⟩ := second
      have more := onward_entriesText blank (begins_memberText b.1 text) texts
        (trail ++ '\x7d' :: rest) .curly
      rw [entriesText_cons_cons, List.append_assoc, List.append_assoc,
        outcome_readMembers_memberText blank first]
      refine (congrArg (Option.bind · _) more).trans ?_
      simp only [Option.bind_some]
      rw [later, List.reverse_cons, List.append_assoc, List.singleton_append]
      simp

end

/-! ## Values -/

/-- No number stands in the value, and at most `depth` of its brackets are open at once. -/
inductive NumberFree : Nat → Json → Prop
  | null {depth : Nat} : NumberFree depth .null
  | bool {depth : Nat} (b : Bool) : NumberFree depth (.bool b)
  | string {depth : Nat} (text : String) : NumberFree depth (.string text)
  | array {depth : Nat} {items : List Json} (h : ∀ item ∈ items, NumberFree depth item) :
    NumberFree (depth + 1) (.array items)
  | object {depth : Nat} {members : List (String × Json)}
    (h : ∀ member ∈ members, NumberFree depth member.2) : NumberFree (depth + 1) (.object members)

@[simp]
theorem numberFree_null {depth : Nat} : NumberFree depth .null := .null

@[simp]
theorem numberFree_bool {depth : Nat} {b : Bool} : NumberFree depth (.bool b) := .bool b

@[simp]
theorem numberFree_string {depth : Nat} {text : String} : NumberFree depth (.string text) :=
  .string text

@[simp]
theorem numberFree_array_iff {depth : Nat} {items : List Json} :
    NumberFree (depth + 1) (.array items) ↔ ∀ item ∈ items, NumberFree depth item :=
  ⟨fun | .array h => h, .array⟩

@[simp]
theorem numberFree_object_iff {depth : Nat} {members : List (String × Json)} :
    NumberFree (depth + 1) (.object members) ↔ ∀ member ∈ members, NumberFree depth member.2 :=
  ⟨fun | .object h => h, .object⟩

theorem prettyItems_eq_map (nesting : Nat) (items : List Json) :
    prettyItems nesting items = items.map (pretty nesting) := by
  induction items with
  | nil => rfl
  | cons item rest ih => rw [prettyItems, ih, List.map_cons]

theorem prettyMembers_eq_map (nesting : Nat) (members : List (String × Json)) :
    prettyMembers nesting members =
      members.map fun member => stringText member.1 ++ ": " ++ member.2.pretty nesting := by
  induction members with
  | nil => rfl
  | cons member rest ih => rw [prettyMembers, ih, List.map_cons]

theorem blank_newLine (nesting : Nat) : Blank (newLine nesting).toList := by
  rw [newLine, String.toList_ofList]
  refine List.forall_mem_cons.2 ⟨by decide, fun c mem => ?_⟩
  rw [List.eq_of_mem_replicate mem]
  decide

theorem toList_bracketed (opening closing : String) (nesting : Nat) {items : List String}
    (filled : items ≠ []) :
    (bracketed opening closing nesting items).toList = opening.toList ++
      (entriesText (newLine (nesting + 1)).toList (items.map String.toList) ++
        ((newLine nesting).toList ++ closing.toList)) := by
  obtain ⟨item, items, rfl⟩ := List.exists_cons_of_ne_nil filled
  simp only [bracketed, String.toList_append, String.toList_intercalate, entriesText,
    List.append_assoc]
  rfl

theorem toList_pretty_array (nesting : Nat) {items : List Json} (filled : items ≠ []) :
    ((array items).pretty nesting).toList =
      '[' :: (entriesText (newLine (nesting + 1)).toList
        (items.map fun item => (item.pretty (nesting + 1)).toList) ++
          ((newLine nesting).toList ++ [']'])) := by
  rw [pretty, prettyItems_eq_map, toList_bracketed _ _ _ (mt List.map_eq_nil_iff.1 filled),
    List.map_map]
  rfl

theorem toList_pretty_object (nesting : Nat) {members : List (String × Json)}
    (filled : members ≠ []) :
    ((object members).pretty nesting).toList =
      '\x7b' :: (entriesText (newLine (nesting + 1)).toList
        (members.map fun member => memberText member.1 (member.2.pretty (nesting + 1)).toList) ++
          ((newLine nesting).toList ++ ['\x7d'])) := by
  have texts : ∀ member : String × Json,
      (stringText member.1 ++ ": " ++ member.2.pretty (nesting + 1)).toList =
        memberText member.1 (member.2.pretty (nesting + 1)).toList := by
    intro member
    simp [memberText]
  rw [pretty, prettyMembers_eq_map, toList_bracketed _ _ _ (mt List.map_eq_nil_iff.1 filled),
    List.map_map]
  simp only [Function.comp_def, texts]
  rfl

theorem readsBack_scalar {c : Char} {behind : List Char} {value : Json} (unblank : isBlank c = false)
    (unopened : Bracket.opened? c = none) (notClosed : ∀ bracket : Bracket, c ≠ bracket.closing)
    (h : ∀ rest, scalarFrom? c (behind ++ rest) = some (value, rest)) (depth : Nat) :
    ReadsBack (readValue depth) (c :: behind) value where
  begins := ⟨c, behind, rfl, unblank, notClosed⟩
  read lead rest blank := by
    rw [outcome_readValue_eq, List.cons_append,
      headed_unopened (skipBlanks_lead blank unblank _) unopened, h]
    rfl

theorem begins_opening (bracket : Bracket) (behind : List Char) :
    Begins (bracket.opening :: behind) := by
  refine ⟨_, behind, rfl, bracket.isBlank_opening, ?_⟩
  cases bracket <;> rintro (_ | _) <;> decide

theorem readsBack_array {depth : Nat} {inside : List Char} {items : List Json}
    (h : ∀ rest, outcome (readList (readValue depth) (inside ++ rest)) = some (items, rest)) :
    ReadsBack (readValue (depth + 1)) (Bracket.square.opening :: inside) (.array items) where
  begins := begins_opening .square inside
  read lead rest blank := by
    have front := skipBlanks_lead blank Bracket.square.isBlank_opening (inside ++ rest)
    rw [outcome_readValue_eq, List.cons_append, headed_opening front]
    simp only [openedAt?, h, Option.map_some, Prod.map_apply, id_eq]

theorem readsBack_object {depth : Nat} {inside : List Char} {members : List (String × Json)}
    (h : ∀ rest, outcome (readFreeObject (readValue depth) (inside ++ rest)) =
      some (members, rest)) :
    ReadsBack (readValue (depth + 1)) (Bracket.curly.opening :: inside) (.object members) where
  begins := begins_opening .curly inside
  read lead rest blank := by
    have front := skipBlanks_lead blank Bracket.curly.isBlank_opening (inside ++ rest)
    rw [outcome_readValue_eq, List.cons_append, headed_opening front]
    simp only [openedAt?, h, Option.map_some, Prod.map_apply, id_eq]

theorem readsBack_array_pretty {depth nesting : Nat} {items : List Json}
    (h : ∀ item ∈ items,
      ReadsBack (readValue depth) (item.pretty (nesting + 1)).toList item) :
    ReadsBack (readValue (depth + 1)) ((array items).pretty nesting).toList (.array items) := by
  cases items with
  | nil =>
    have text : ((array []).pretty nesting).toList = '[' :: [']'] := by
      simp [pretty, prettyItems, bracketed]
    rw [text]
    exact readsBack_array fun rest => outcome_readList_closed _ (skipBlanks_cons rfl rest)
  | cons first items =>
    have blank := blank_newLine (nesting + 1)
    have read : List.Forall₂ (ReadsBack (readValue depth))
        ((first :: items).map fun item => (item.pretty (nesting + 1)).toList) (first :: items) := by
      rw [List.forall₂_map_left_iff, List.forall₂_same]
      exact h
    rw [toList_pretty_array nesting (List.cons_ne_nil _ _)]
    refine readsBack_array fun rest => ?_
    obtain ⟨c, behind, front, notClosed⟩ := skipBlanks_entriesText blank
      (h first List.mem_cons_self).begins (items.map fun item => (item.pretty (nesting + 1)).toList)
      ((newLine nesting).toList ++ ']' :: rest)
    rw [List.append_assoc, List.append_assoc, List.singleton_append]
    refine (outcome_readList_items _ front (notClosed .square)).trans ?_
    exact outcome_readItems_printed blank (blank_newLine nesting) read (List.cons_ne_nil _ _) 0 rest

theorem readsBack_object_pretty {depth nesting : Nat} {members : List (String × Json)}
    (h : ∀ member ∈ members,
      ReadsBack (readValue depth) (member.2.pretty (nesting + 1)).toList member.2) :
    ReadsBack (readValue (depth + 1)) ((object members).pretty nesting).toList
      (.object members) := by
  cases members with
  | nil =>
    have text : ((object []).pretty nesting).toList = '\x7b' :: ['\x7d'] := by
      simp [pretty, prettyMembers, bracketed]
    rw [text]
    refine readsBack_object fun rest => ?_
    rw [readFreeObject, outcome_map, List.singleton_append,
      outcome_readObject_closed _ _ (skipBlanks_cons rfl rest)]
    rfl
  | cons first members =>
    have blank := blank_newLine (nesting + 1)
    let text (member : String × Json) : List Char :=
      memberText member.1 (member.2.pretty (nesting + 1)).toList
    have read : List.Forall₂ (fun text (member : String × Json) => ∃ own,
          text = memberText member.1 own ∧ ReadsBack (readValue depth) own member.2)
        ((first :: members).map text) (first :: members) := by
      rw [List.forall₂_map_left_iff, List.forall₂_same]
      exact fun member mem => ⟨_, rfl, h member mem⟩
    rw [toList_pretty_object nesting (List.cons_ne_nil _ _)]
    refine readsBack_object fun rest => ?_
    obtain ⟨c, behind, front, notClosed⟩ := skipBlanks_entriesText blank
      (begins_memberText first.1 (first.2.pretty (nesting + 1)).toList) (members.map text)
      ((newLine nesting).toList ++ '\x7d' :: rest)
    rw [List.append_assoc, List.append_assoc, List.singleton_append, readFreeObject, outcome_map]
    have members := (outcome_readObject_members (gather (readValue depth)) [] front
      (notClosed .curly)).trans (outcome_readMembers_printed blank (blank_newLine nesting) read
        (List.cons_ne_nil _ _) [] rest)
    refine (congrArg (Option.map _) members).trans ?_
    rw [List.append_nil, Option.map_some, Prod.map_apply, List.reverse_reverse, id_eq]

/-- The text of a value is read as the value. -/
theorem readsBack_pretty {depth : Nat} {value : Json} (h : value.NumberFree depth)
    (nesting : Nat) : ReadsBack (readValue depth) (value.pretty nesting).toList value := by
  have words : ∀ c ∈ ['n', 't', 'f', '"'], ∀ bracket : Bracket, c ≠ bracket.closing := by
    rintro _ mem bracket rfl
    revert mem
    cases bracket <;> decide
  induction h generalizing nesting with
  | null =>
    have text : (Json.null.pretty nesting).toList = 'n' :: ['u', 'l', 'l'] := by simp [pretty]
    rw [text]
    exact readsBack_scalar rfl rfl (words _ (by decide)) (fun _ => rfl) _
  | bool b =>
    cases b with
    | true =>
      have text : ((Json.bool true).pretty nesting).toList = 't' :: ['r', 'u', 'e'] := by
        rw [pretty]
        decide
      rw [text]
      exact readsBack_scalar rfl rfl (words _ (by decide)) (fun _ => rfl) _
    | false =>
      have text : ((Json.bool false).pretty nesting).toList = 'f' :: ['a', 'l', 's', 'e'] := by
        rw [pretty]
        decide
      rw [text]
      exact readsBack_scalar rfl rfl (words _ (by decide)) (fun _ => rfl) _
  | string text =>
    rw [pretty, toList_stringText]
    refine readsBack_scalar rfl rfl (words _ (by decide)) (fun rest => ?_) _
    have read := outcome_readString_escaped [] text.toList rest
    rw [List.reverse_nil, List.nil_append, String.ofList_toList] at read
    rw [List.append_assoc, List.singleton_append]
    exact congrArg (Option.map _) read
  | array _ ih => exact readsBack_array_pretty fun item mem => ih item mem (nesting + 1)
  | object _ ih => exact readsBack_object_pretty fun member mem => ih member mem (nesting + 1)

/-- **A value without numbers is read from its text again.** -/
theorem parseRaw_pretty {depth : Nat} {value : Json} (h : value.NumberFree depth) :
    parseRaw depth (value.pretty 0) = .ok value := by
  have read := (readsBack_pretty h 0).read [] [] blank_nil
  rw [List.nil_append, List.append_nil] at read
  exact parseRaw_eq_ok_iff.2 ⟨[], read, blank_nil⟩

/-- Different values without numbers have different texts. -/
theorem pretty_injective {depth : Nat} {value other : Json} (h : value.NumberFree depth)
    (h' : other.NumberFree depth) (same : value.pretty 0 = other.pretty 0) : value = other :=
  Except.ok.inj ((parseRaw_pretty h).symm.trans ((congrArg _ same).trans (parseRaw_pretty h')))

end TypedHub.Json
