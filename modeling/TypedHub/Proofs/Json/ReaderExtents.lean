import TypedHub.Proofs.Json.Extents
import TypedHub.Proofs.Json.RecordAgreement

/-!
# How far readers of typed values read

Every reader of a typed value takes one value of the grammar (`Reader.TakesItem`), though it knows
less of the value than the grammar says: a scalar of the kind it asks for, the items of a list, the
fields of a record. A record takes a list or an object, so it ends with a bracket and anything may
stand behind it.
-/

namespace TypedHub.Json

variable {α β ρ : Type} {text rest : List Char} {depth : Nat}

namespace Reader

/-- A value of the grammar is read, and what stands behind it is not looked at. -/
def TakesItem (reader : Reader α) : Prop :=
  ∀ depth, Reads IsItem Delimited fun text => outcome (reader.ofText depth text)

/-- A list or an object is read, and what stands behind it is not looked at. -/
def TakesBracketed (reader : Reader α) : Prop :=
  ∀ depth, Reads IsBracketed Anything fun text => outcome (reader.ofText depth text)

theorem TakesBracketed.takesItem {reader : Reader α} (h : reader.TakesBracketed) :
    reader.TakesItem := fun depth text =>
  (h depth text).weaken (fun _ => IsBracketed.isItem) fun _ _ => trivial

theorem TakesItem.map {reader : Reader α} (h : reader.TakesItem) (f : α → β) :
    (reader.map f).TakesItem := by
  intro depth text
  simp only [Reader.map, outcome_map]
  exact (h depth text).map f

/-! ## Scalars and values of free form -/

theorem outcome_scalar (accept : Json → Option α) (expected : String) (depth : Nat)
    (text : List Char) :
    outcome ((scalar accept expected).ofText depth text) =
      headed? accept (fun _ _ => none) text := by
  refine outcome_headed (fun value rest _ => ?_) (fun _ _ => rfl) fun _ _ => rfl
  dsimp only
  cases accept value <;> rfl

theorem takesItem_scalar (accept : Json → Option α) (expected : String) :
    (scalar accept expected).TakesItem := by
  intro depth
  rw [funext (outcome_scalar accept expected depth)]
  exact reads_headed fun _ _ => nofun

theorem takesItem_valueOrNull : valueOrNull.TakesItem := by
  intro depth text
  simp only [valueOrNull, outcome_map]
  exact (reads_readValue depth text).map _

theorem outcome_openedAt (depth : Nat) (inside : (depth : Nat) → TextReader α)
    (head : Parsed Head text) :
    outcome (opened depth inside head) =
      openedAt? (fun depth text => outcome (inside depth text)) depth head.rest := by
  cases depth with
  | zero => rfl
  | succ depth => exact outcome_opened inside head

theorem outcome_freeObject (depth : Nat) (text : List Char) :
    outcome (freeObject.ofText depth text) =
      headed? (fun _ => none) (fun
        | .square => fun _ => none
        | .curly => openedAt? (fun depth text => outcome
            (((readFreeObject (readValue depth)).map fun members =>
              settleMembers (settledValues members)) text)) depth) text := by
  exact outcome_headed (fun _ _ _ => rfl) (fun _ _ => rfl)
    fun _ _ => outcome_openedAt depth _ _

theorem takesBracketed_freeObject : freeObject.TakesBracketed := by
  intro depth
  rw [funext (outcome_freeObject depth)]
  refine reads_headed_none fun bracket => ?_
  cases bracket with
  | square => exact fun _ => nofun
  | curly =>
    refine reads_openedAt depth fun below _ text => ?_
    simp only [outcome_map]
    exact (reads_readFreeObject (reads_readValue below) text).map _

/-! ## Lists -/

theorem outcome_list (reader : Reader α) (depth : Nat) (text : List Char) :
    outcome (reader.list.ofText depth text) =
      headed? (fun _ => none) (fun
        | .square => openedAt? (fun depth text => outcome (readList (reader.ofText depth) text)) depth
        | .curly => fun _ => none) text := by
  exact outcome_headed (fun _ _ _ => rfl) (fun _ _ => outcome_openedAt depth _ _)
    fun _ _ => rfl

theorem TakesItem.list {reader : Reader α} (h : reader.TakesItem) : reader.list.TakesBracketed := by
  intro depth
  rw [funext (outcome_list reader depth)]
  refine reads_headed_none fun bracket => ?_
  cases bracket with
  | square => exact reads_openedAt depth fun below _ => reads_readList (h below)
  | curly => exact fun _ => nofun

/-! ## Words -/

/-- Nothing but the closing brace is taken behind a lone member. -/
theorem readsAt_closingBrace (key : String) (text : List Char) :
    ReadsAt (Derives (.following .curly)) Anything (fun text =>
      match skipBlanks text with
      | '\x7d' :: rest => some (key, rest)
      | _ => none) text := by
  intro value rest found
  simp only at found
  split at found
  · next behind front =>
    cases found
    obtain ⟨lead, blank, rfl⟩ := exists_blank_of_skipBlanks front
    have closed : Derives (.following .curly) (lead ++ [Bracket.curly.closing]) := .closed blank
    refine ⟨lead ++ ['\x7d'], closed, by simp, fun other _ => ?_⟩
    have front : skipBlanks (lead ++ ['\x7d'] ++ other) = '\x7d' :: other := by
      rw [List.append_assoc]
      exact skipBlanks_lead blank rfl other
    simp only [front]
  · cases found

theorem reads_loneKeyText :
    Reads (Derives (.inside .curly)) Anything fun text => outcome (loneKeyText text) := by
  intro text
  rw [funext outcome_loneKeyText]
  refine ReadsAt.weaken ?_ (fun _ => Derives.filled) fun _ => id
  refine (reads_label text).bind (fun key behind _ => ?_) (fun _ _ => entries_of_label)
    fun _ _ _ => trivial
  exact readsAt_entry (takesItem_scalar _ _ 0 behind) fun _ rest _ => readsAt_closingBrace key rest

theorem outcome_word_brace (meaning : String → α) {inside : List Char}
    (front : skipBlanks text = '\x7b' :: inside) :
    outcome ((word meaning).ofText depth text) =
      openedAt? (fun _ text => (outcome (loneKeyText text)).map (Prod.map meaning id)) depth
        inside := by
  cases depth with
  | zero =>
    simp only [word]
    split
    · next blank => simp [blank] at front
    · next quote => simp [quote] at front
    · rfl
    · rfl
  | succ depth => exact outcome_word_object meaning front

theorem takesItem_word (meaning : String → α) : (word meaning).TakesItem := by
  intro depth text
  cases front : skipBlanks text with
  | nil =>
    intro value rest found
    simp only [word] at found
    split at found <;> simp_all
  | cons c behind =>
    by_cases quote : c = '"'
    · subst quote
      intro value rest found
      simp only [outcome_word_string meaning front] at found
      obtain ⟨quoted, isQuoted, rfl, again⟩ := (reads_readString [] behind).map meaning found
      obtain ⟨lead, blank, rfl⟩ := exists_blank_of_skipBlanks front
      refine ⟨lead ++ '"' :: quoted, ⟨lead, _, blank, .string isQuoted, rfl⟩, by simp, ?_⟩
      intro other _
      have front : skipBlanks (lead ++ '"' :: quoted ++ other) = '"' :: (quoted ++ other) := by
        rw [List.append_assoc]
        exact skipBlanks_lead blank rfl _
      simp only [outcome_word_string meaning front]
      exact again other trivial
    by_cases brace : c = '\x7b'
    · subst brace
      have object := reads_openedAt depth (fun _ _ text => (reads_loneKeyText text).map meaning)
      exact (readsAt_opening (outcome_word_brace meaning) front (object behind)).weaken
        (fun _ => IsBracketed.isItem) fun _ _ => trivial
    · intro value rest found
      simp only [outcome_word_other meaning front quote brace] at found
      cases found

end Reader

/-! ## Records -/

namespace Shape

variable {shape : Shape ρ}

/-- Each field takes a value of the grammar. -/
def FieldsTakeItems (shape : Shape ρ) : Prop := ∀ field ∈ shape.fields, field.update.TakesItem

/-- A member of an object: a field takes its value, and an unknown key is read past. -/
theorem entriesRead_entry (h : shape.FieldsTakeItems) (depth : Nat) :
    EntriesRead (shape.entry depth) := by
  intro state key reader found text
  unfold entry at found
  split at found
  · obtain rfl := Except.ok.inj found
    simp only [outcome_map]
    exact (reads_skip text).map _
  · next field known =>
    split at found
    · cases found
    · obtain rfl := Except.ok.inj found
      simp only [outcome_map]
      exact (h field (List.mem_of_find?_eq_some known) depth text).map _

theorem reads_ofObjectText (h : shape.FieldsTakeItems) (depth : Nat) :
    Reads (Derives (.inside .curly)) Anything fun text =>
      outcome (shape.ofObjectText depth text) := by
  intro text
  rw [funext (outcome_ofObjectText_eq shape depth)]
  exact (reads_readObject (entriesRead_entry h depth) _ text).filterMap fun found =>
    (shape.complete found.1 found.2).toOption

/-- The field that comes next in a list, if there is one, with those behind it. -/
def nextText (shape : Shape ρ) (depth position : Nat) (record : ρ) :
    List (Field ρ) → List Char → Option (ρ × List Char)
  | [], _ => none
  | field :: others, text => shape.itemText depth position field others record text

/-- Where a list can neither end nor go on, no field of it is read. -/
theorem outcome_fieldsText_refused (position : Nat) (fields : List (Field ρ)) (record : ρ)
    (refused : onward? ']' text = none) :
    outcome (shape.fieldsText depth (position + 1) fields record text) = none := by
  have notClosed : ∀ rest, skipBlanks text ≠ ']' :: rest := by
    intro rest front
    simp [onward?, front] at refused
  have notMore : ∀ rest c behind, skipBlanks text = ',' :: rest → skipBlanks rest = c :: behind →
      c = ']' := by
    intro rest c behind front begin
    by_contra goesOn
    simp [onward?, front, begin, goesOn] at refused
  cases fields with
  | nil =>
    simp only [fieldsText, closeText]
    split
    · rfl
    · next closed => exact absurd closed (notClosed _)
    · split <;> rfl
    · rfl
  | cons field others =>
    simp only [fieldsText]
    split
    · rfl
    · next c rest front =>
      by_cases closed : c = ']'
      · exact absurd (closed ▸ front) (notClosed rest)
      by_cases comma : c = ','
      · subst comma
        simp only [Char.reduceEq, Nat.succ_ne_zero, if_false, if_true]
        split
        · rfl
        · rfl
        · next goesOn trailing =>
          obtain ⟨d, behind, begin⟩ := List.exists_cons_of_ne_nil goesOn
          obtain rfl := notMore rest d behind front begin
          exact absurd begin (trailing behind)
      · simp only [closed, comma, Nat.succ_ne_zero, if_false, outcome_malformed]

theorem outcome_fieldsText_behind (shape : Shape ρ) (depth position : Nat)
    (fields : List (Field ρ)) (record : ρ) (text : List Char) :
    outcome (shape.fieldsText depth (position + 1) fields record text) =
      continued? .square (shape.endedBefore (position + 1) fields record).toOption
        (shape.nextText depth (position + 1) record fields) text := by
  unfold continued?
  split
  · next closed => exact outcome_fieldsText_closed _ _ _ (skipBlanks_of_closed closed)
  · next more =>
    cases fields with
    | nil =>
      rw [fieldsText]
      exact outcome_closeText_other _ (skipBlanks_of_more more).1 (by decide)
    | cons field others => exact outcome_fieldsText_more _ _ _ _ more
  · next refused => exact outcome_fieldsText_refused position fields record refused

theorem outcome_fieldsText_front (shape : Shape ρ) (depth : Nat)
    (fields : List (Field ρ)) (record : ρ) (text : List Char) :
    outcome (shape.fieldsText depth 0 fields record text) =
      insideOf? .square (shape.endedBefore 0 fields record).toOption
        (shape.nextText depth 0 record fields) text := by
  unfold insideOf?
  split
  · next c rest front =>
    split
    · next closed =>
      subst closed
      exact outcome_fieldsText_closed _ _ _ front
    · next notClosed =>
      cases fields with
      | nil => exact outcome_closeText_other _ front notClosed
      | cons field others => exact outcome_fieldsText_first _ _ _ front notClosed
  · next blank =>
    cases fields with
    | nil =>
      simp only [fieldsText, closeText]
      split <;> simp_all
    | cons field others =>
      simp only [fieldsText]
      split <;> simp_all

/-- The induction is on the fields: each takes one item, and the next ones begin behind a comma. -/
theorem reads_nextText (depth : Nat) {fields : List (Field ρ)}
    (h : ∀ field ∈ fields, field.update.TakesItem) (position : Nat) (record : ρ) :
    Reads (Derives (.entries .square)) Anything (shape.nextText depth position record fields) := by
  induction fields generalizing position record with
  | nil => exact fun _ => nofun
  | cons field others ih =>
    rw [List.forall_mem_cons] at h
    intro text
    refine (readsAt_entry (h.1 depth text) fun update rest _ => ?_).weaken
      (fun _ => entries_of_label (show Bracket.square.IsLabel [] from rfl)) fun _ => id
    simp only [outcome_fieldsText_behind]
    exact readsAt_continued fun next _ => ih h.2 (position + 1) (update record) next

theorem reads_fieldsText (h : shape.FieldsTakeItems) (depth : Nat) :
    Reads (Derives (.inside .square)) Anything fun text =>
      outcome (shape.fieldsText depth 0 shape.fields shape.blank text) := by
  intro text
  rw [funext (shape.outcome_fieldsText_front depth shape.fields shape.blank)]
  exact readsAt_insideOf (reads_nextText depth h 0 shape.blank text)

theorem outcome_reader (shape : Shape ρ) (depth : Nat) (text : List Char) :
    outcome (shape.reader.ofText depth text) =
      headed? (fun _ => none) (fun
        | .square => openedAt? (fun depth text =>
            outcome (shape.fieldsText depth 0 shape.fields shape.blank text)) depth
        | .curly => openedAt? (fun depth text => outcome (shape.ofObjectText depth text)) depth)
        text := by
  exact outcome_headed (fun _ _ _ => rfl) (fun _ _ => Reader.outcome_openedAt depth _ _)
    fun _ _ => Reader.outcome_openedAt depth _ _

/-- **If the fields of a record take values of the grammar, so does the record**, as a list or an
object. -/
theorem takesBracketed_reader (h : shape.FieldsTakeItems) : shape.reader.TakesBracketed := by
  intro depth
  rw [funext (shape.outcome_reader depth)]
  refine reads_headed_none fun bracket => ?_
  cases bracket with
  | square => exact reads_openedAt depth fun below _ => reads_fieldsText h below
  | curly => exact reads_openedAt depth fun below _ => reads_ofObjectText h below

end Shape

end TypedHub.Json
