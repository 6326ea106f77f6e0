import TypedHub.Proofs.Json.Agreement
import TypedHub.Proofs.Json.Recognition

/-!
# How far readers read

A reader of typed values takes one value of the grammar, with the blanks before it, and what stands
behind the value is not looked at. For values of any kind this asks that they are delimited; a list
or an object ends with its bracket, and anything may stand there.

Readers of brackets are put together from a reader of the entries: `insideOf?` is what stands behind
an opening bracket, `continued?` what stands behind an entry.
-/

namespace TypedHub.Json

variable {α β σ : Type} {text rest : List Char} {bracket : Bracket}

/-! ## Brackets -/

/-- Reading behind an entry: the bracket is closed, which gives `ended`, or the next entry is read. -/
def continued? (bracket : Bracket) (ended : Option α) (later : List Char → Option (α × List Char))
    (text : List Char) : Option (α × List Char) :=
  match onward? bracket.closing text with
  | some (.closed rest) => ended.map (·, rest)
  | some (.more rest) => later rest
  | none => none

/-- Reading behind an opening bracket: it is closed at once, or its entries are read. -/
def insideOf? (bracket : Bracket) (ended : Option α) (entries : List Char → Option (α × List Char))
    (text : List Char) : Option (α × List Char) :=
  match skipBlanks text with
  | c :: rest => if c = bracket.closing then ended.map (·, rest) else entries text
  | [] => none

section

variable {ended : Option α} {later : List Char → Option (α × List Char)}

theorem readsAt_continued (h : ∀ next, next.length < text.length →
      ReadsAt (Derives (.entries bracket)) Anything later next) :
    ReadsAt (Derives (.following bracket)) Anything (continued? bracket ended later) text := by
  intro value rest found
  unfold continued? at found
  split at found
  · next behind closed =>
    obtain ⟨value, finished, same⟩ := Option.map_eq_some_iff.1 found
    cases same
    obtain ⟨lead, blank, rfl⟩ := exists_blank_of_skipBlanks (skipBlanks_of_closed closed)
    refine ⟨lead ++ [bracket.closing], .closed blank, by simp, fun other _ => ?_⟩
    rw [List.append_assoc, List.singleton_append, continued?, onward_closed blank]
    simp only [finished, Option.map_some]
  · next behind more =>
    have front := (skipBlanks_of_more more).1
    have shorter := length_lt_of_skipBlanks front
    obtain ⟨lead, blank, rfl⟩ := exists_blank_of_skipBlanks front
    obtain ⟨entries, derived, rfl, again⟩ := h behind shorter found
    refine ⟨lead ++ ',' :: entries, .more blank derived, by simp, fun other _ => ?_⟩
    rw [List.append_assoc, List.cons_append, continued?, onward_more blank derived]
    exact again other trivial
  · cases found

theorem readsAt_insideOf (h : ReadsAt (Derives (.entries bracket)) Anything later text) :
    ReadsAt (Derives (.inside bracket)) Anything (insideOf? bracket ended later) text := by
  intro value rest found
  unfold insideOf? at found
  split at found
  · next c behind front =>
    split at found
    · next closed =>
      subst closed
      obtain ⟨value, finished, same⟩ := Option.map_eq_some_iff.1 found
      cases same
      obtain ⟨lead, blank, rfl⟩ := exists_blank_of_skipBlanks front
      refine ⟨lead ++ [bracket.closing], .empty blank, by simp, fun other _ => ?_⟩
      rw [List.append_assoc, List.singleton_append, insideOf?,
        skipBlanks_lead blank bracket.isBlank_closing]
      simp only [finished, if_true, Option.map_some]
    · obtain ⟨entries, derived, rfl, again⟩ := h found
      refine ⟨entries, .filled derived, rfl, fun other _ => ?_⟩
      obtain ⟨c, behind, front, notClosed⟩ := derived.skipBlanks_entries other
      rw [insideOf?, front]
      simp only [notClosed, if_false]
      exact again other trivial
  · cases found

end

/-! ## Heads -/

theorem word_eq_some_iff {word behind : List Char} {value read : Json} :
    ((literal word behind).toOption.map Subtype.val).map (value, ·) = some (read, rest) ↔
      value = read ∧ behind = word ++ rest := by
  rw [← literal_eq_some_iff, Option.map_eq_some_iff]
  constructor
  · rintro ⟨after, found, same⟩
    cases same
    exact ⟨rfl, found⟩
  · rintro ⟨rfl, found⟩
    exact ⟨rest, found, rfl⟩

theorem isScalar_of_scalarFrom {c : Char} {behind : List Char} {value : Json}
    (h : scalarFrom? c behind = some (value, rest)) :
    ∃ front, IsScalar (c :: front) ∧ behind = front ++ rest ∧
      ∀ other, Delimited other → scalarFrom? c (front ++ other) = some (value, other) := by
  unfold scalarFrom? at h ⊢
  by_cases isNull : c = 'n'
  · subst isNull
    simp only [if_true, if_false, Char.reduceEq] at h ⊢
    obtain ⟨rfl, rfl⟩ := word_eq_some_iff.1 h
    exact ⟨_, .word (by decide), rfl, fun other _ => word_eq_some_iff.2 ⟨rfl, rfl⟩⟩
  by_cases isTrue : c = 't'
  · subst isTrue
    simp only [if_true, if_false, Char.reduceEq] at h ⊢
    obtain ⟨rfl, rfl⟩ := word_eq_some_iff.1 h
    exact ⟨_, .word (by decide), rfl, fun other _ => word_eq_some_iff.2 ⟨rfl, rfl⟩⟩
  by_cases isFalse : c = 'f'
  · subst isFalse
    simp only [if_true, if_false, Char.reduceEq] at h ⊢
    obtain ⟨rfl, rfl⟩ := word_eq_some_iff.1 h
    exact ⟨_, .word (by decide), rfl, fun other _ => word_eq_some_iff.2 ⟨rfl, rfl⟩⟩
  by_cases isString : c = '"'
  · subst isString
    obtain ⟨quoted, isQuoted, rfl, again⟩ := (reads_readString [] behind).map Json.string h
    exact ⟨quoted, .string isQuoted, rfl, fun other _ => again other trivial⟩
  simp only [isNull, isTrue, isFalse, isString, if_false] at h ⊢
  by_cases begins : (c = '-' || c.isDigit) = true
  · simp only [begins, if_true] at h ⊢
    obtain ⟨front, isNumber, same, again⟩ := (reads_readNumber (c :: behind)).map Json.number h
    obtain ⟨d, front, rfl, -⟩ := isNumber.exists_cons
    cases same
    exact ⟨front, .number isNumber, rfl, again⟩
  · simp only [begins] at h
    cases h

/-- Reading that goes on behind the head of a value: a scalar is complete, a bracket holds entries. -/
def headed? (accept : Json → Option α) (inside : Bracket → List Char → Option (α × List Char))
    (text : List Char) : Option (α × List Char) :=
  (outcome (readHead text)).bind fun head =>
    match head.1 with
    | .scalar value => (accept value).map (·, head.2)
    | .list => inside .square head.2
    | .object => inside .curly head.2

/-- A list or an object is read from its opening bracket on. -/
theorem readsAt_opening {read inside : List Char → Option (α × List Char)} {behind : List Char}
    (opens : ∀ {text behind}, skipBlanks text = bracket.opening :: behind →
      read text = inside behind)
    (front : skipBlanks text = bracket.opening :: behind)
    (h : ReadsAt (Derives (.inside bracket)) Anything inside behind) :
    ReadsAt IsBracketed Anything read text := by
  intro value rest found
  rw [opens front] at found
  obtain ⟨part, derived, rfl, again⟩ := h found
  obtain ⟨lead, blank, rfl⟩ := exists_blank_of_skipBlanks front
  refine ⟨lead ++ bracket.opening :: part, ⟨lead, bracket, part, blank, derived, rfl⟩, by simp, ?_⟩
  intro other _
  rw [List.append_assoc, List.cons_append,
    opens (skipBlanks_lead blank bracket.isBlank_opening (part ++ other))]
  exact again other trivial

section

variable {accept : Json → Option α} {inside : Bracket → List Char → Option (α × List Char)}

/-- A reader that looks at the head first is described head by head. -/
theorem outcome_headed {next : Parsed Head text → Except Fault (Parsed α text)}
    (scalar : ∀ value rest shorter,
      outcome (next ⟨.scalar value, rest, shorter⟩) = (accept value).map (·, rest))
    (list : ∀ rest shorter, outcome (next ⟨.list, rest, shorter⟩) = inside .square rest)
    (object : ∀ rest shorter, outcome (next ⟨.object, rest, shorter⟩) = inside .curly rest) :
    outcome (readHead text >>= next) = headed? accept inside text := by
  unfold headed?
  cases readHead text with
  | error fault => rfl
  | ok head =>
    obtain ⟨value | _ | _, rest, shorter⟩ := head
    · exact scalar value rest shorter
    · exact list rest shorter
    · exact object rest shorter

theorem headed_opening {behind : List Char} (front : skipBlanks text = bracket.opening :: behind) :
    headed? accept inside text = inside bracket behind := by
  rw [headed?, outcome_readHead front, Bracket.opened_eq_some_iff.2 rfl]
  cases bracket <;> rfl

theorem headed_unopened {c : Char} {behind : List Char} (front : skipBlanks text = c :: behind)
    (unopened : Bracket.opened? c = none) :
    headed? accept inside text =
      (scalarFrom? c behind).bind fun scalar => (accept scalar.1).map (·, scalar.2) := by
  rw [headed?, outcome_readHead front, unopened]
  cases scalarFrom? c behind <;> rfl

theorem headed_nil (front : skipBlanks text = []) : headed? accept inside text = none := by
  unfold headed? readHead
  split
  · rfl
  · next front' => cases front.symm.trans front'

theorem reads_headed (h : ∀ bracket, Reads (Derives (.inside bracket)) Anything (inside bracket)) :
    Reads IsItem Delimited (headed? accept inside) := by
  intro text
  cases front : skipBlanks text with
  | nil =>
    intro value rest found
    rw [headed_nil front] at found
    cases found
  | cons c behind =>
    cases opened : Bracket.opened? c with
    | some bracket =>
      obtain rfl := Bracket.opened_eq_some_iff.1 opened
      exact (readsAt_opening headed_opening front (h bracket behind)).weaken
        (fun _ => IsBracketed.isItem) fun _ _ => trivial
    | none =>
      intro value rest found
      rw [headed_unopened front opened] at found
      obtain ⟨⟨scalar, _⟩, read, found⟩ := Option.bind_eq_some_iff.1 found
      obtain ⟨_, accepted, same⟩ := Option.map_eq_some_iff.1 found
      cases same
      obtain ⟨part, isScalar, rfl, again⟩ := isScalar_of_scalarFrom read
      obtain ⟨lead, blank, rfl⟩ := exists_blank_of_skipBlanks front
      obtain ⟨_, _, same, unblank, -⟩ := isScalar.derives.exists_cons
      cases same
      refine ⟨lead ++ c :: part, ⟨lead, _, blank, isScalar.derives, rfl⟩, by simp, ?_⟩
      intro other ends
      rw [List.append_assoc, List.cons_append,
        headed_unopened (skipBlanks_lead blank unblank (part ++ other)) opened, again other ends,
        Option.bind_some, accepted]
      rfl

/-- Where no scalar is accepted, what is read is a list or an object. -/
theorem reads_headed_none
    (h : ∀ bracket, Reads (Derives (.inside bracket)) Anything (inside bracket)) :
    Reads IsBracketed Anything (headed? (fun _ => none) inside) := by
  intro text value rest found
  cases front : skipBlanks text with
  | nil =>
    rw [headed_nil front] at found
    cases found
  | cons c behind =>
    cases opened : Bracket.opened? c with
    | some bracket =>
      obtain rfl := Bracket.opened_eq_some_iff.1 opened
      exact readsAt_opening headed_opening front (h bracket behind) found
    | none =>
      rw [headed_unopened front opened] at found
      obtain ⟨_, _, found⟩ := Option.bind_eq_some_iff.1 found
      cases found

end

/-! ## Lists and objects -/

/-- An entry without its label, and what stands behind it. -/
def IsFollowed (bracket : Bracket) (text : List Char) : Prop :=
  ∃ item following, IsItem item ∧ Derives (.following bracket) following ∧ text = item ++ following

theorem entries_of_label {label back : List Char} (isLabel : bracket.IsLabel label)
    (h : IsFollowed bracket back) : Derives (.entries bracket) (label ++ back) := by
  obtain ⟨_, following, ⟨lead, value, blank, derived, rfl⟩, later, rfl⟩ := h
  rw [List.append_assoc]
  exact .entry isLabel blank derived later

theorem readsAt_entry {read : List Char → Option (α × List Char)}
    {next : α × List Char → Option (β × List Char)} (first : ReadsAt IsItem Delimited read text)
    (second : ∀ a rest, read text = some (a, rest) →
      ReadsAt (Derives (.following bracket)) Anything (fun text => next (a, text)) rest) :
    ReadsAt (IsFollowed bracket) Anything (fun text => (read text).bind next) text :=
  first.bind second (fun item following isItem later => ⟨item, following, isItem, later, rfl⟩)
    fun _ other later => later.delimited_following other

theorem outcome_readItems_eq (item : TextReader α) (position : Nat) (text : List Char) :
    outcome (readItems item position text) =
      (outcome (item text)).bind fun first =>
        continued? .square (some [first.1]) (fun rest =>
          (outcome (readItems item (position + 1) rest)).map (Prod.map (first.1 :: ·) id)) first.2 := by
  rw [outcome_readItems]
  congr 1
  funext first
  simp only [continued?, Bracket.closing]
  cases onward? ']' first.2 with
  | none => rfl
  | some onward => cases onward <;> rfl

theorem readsAt_readItems {item : TextReader α}
    (h : Reads IsItem Delimited fun text => outcome (item text)) (position : Nat)
    (text : List Char) :
    ReadsAt (Derives (.entries .square)) Anything
      (fun text => outcome (readItems item position text)) text := by
  rw [funext (outcome_readItems_eq item position)]
  refine (readsAt_entry (h text) fun first rest found => ?_).weaken
    (fun _ => entries_of_label (show Bracket.square.IsLabel [] from rfl)) fun _ => id
  refine readsAt_continued fun next shorter => ?_
  have shorter : next.length < text.length := Nat.lt_trans shorter (length_lt_of_outcome found)
  exact (readsAt_readItems h (position + 1) next).map (first :: ·)
termination_by text.length

theorem outcome_readList (item : TextReader α) (text : List Char) :
    outcome (readList item text) =
      insideOf? .square (some []) (fun text => outcome (readItems item 0 text)) text := by
  cases front : skipBlanks text with
  | nil =>
    unfold readList insideOf?
    split <;> simp_all
  | cons c rest =>
    by_cases closed : c = ']'
    · subst closed
      rw [outcome_readList_closed item front, insideOf?, front]
      rfl
    · rw [outcome_readList_items item front closed, insideOf?, front]
      exact (if_neg closed).symm

theorem reads_readList {item : TextReader α}
    (h : Reads IsItem Delimited fun text => outcome (item text)) :
    Reads (Derives (.inside .square)) Anything fun text => outcome (readList item text) := by
  intro text
  rw [funext (outcome_readList item)]
  exact readsAt_insideOf (readsAt_readItems h 0 text)

theorem reads_label : Reads Bracket.curly.IsLabel Anything label? := by
  intro text key rest h
  obtain ⟨quoted, behind, quote, read, colon⟩ := label_eq_some h
  obtain ⟨lead, blank, rfl⟩ := exists_blank_of_skipBlanks quote
  obtain ⟨string, isQuoted, rfl, again⟩ := reads_readString [] quoted read
  obtain ⟨between, blank', rfl⟩ := exists_blank_of_skipBlanks colon
  refine ⟨_, ⟨lead, string, between, blank, isQuoted, blank', rfl⟩, by simp, fun other _ => ?_⟩
  have front : skipBlanks (lead ++ '"' :: (string ++ (between ++ [':'])) ++ other) =
      '"' :: (string ++ (between ++ ':' :: other)) := by
    simp only [List.append_assoc, List.cons_append, List.nil_append]
    exact skipBlanks_lead blank rfl _
  have found := again (between ++ ':' :: other) trivial
  simp only [label?, front, found, Option.bind_some,
    behindColon_eq_some_iff.2 (skipBlanks_lead blank' rfl other), Option.map_some]

/-- A member from behind its colon, and what stands behind it. -/
def memberFrom? (entry : σ → String → Except Fault (TextReader σ)) (state : σ) (key : String)
    (text : List Char) : Option (σ × List Char) :=
  ((entry state key).toOption.bind fun reader => outcome (reader text)).bind fun member =>
    continued? .curly (some member.1) (fun rest => outcome (readMembers entry member.1 rest))
      member.2

theorem outcome_readMembers_eq (entry : σ → String → Except Fault (TextReader σ)) (state : σ)
    (text : List Char) :
    outcome (readMembers entry state text) =
      (label? text).bind fun label => memberFrom? entry state label.1 label.2 := by
  rw [outcome_readMembers]
  congr 1
  funext label
  unfold memberFrom?
  congr 1
  funext member
  simp only [continued?, Bracket.closing]
  cases onward? '\x7d' member.2 with
  | none => rfl
  | some onward => cases onward <;> rfl

/-- Each member is read by the reader that `entry` names for it. -/
def EntriesRead (entry : σ → String → Except Fault (TextReader σ)) : Prop :=
  ∀ state key reader, entry state key = .ok reader →
    Reads IsItem Delimited fun text => outcome (reader text)

theorem readsAt_readMembers {entry : σ → String → Except Fault (TextReader σ)}
    (h : EntriesRead entry) (state : σ) (text : List Char) :
    ReadsAt (Derives (.entries .curly)) Anything
      (fun text => outcome (readMembers entry state text)) text := by
  rw [funext (outcome_readMembers_eq entry state)]
  refine (reads_label text).bind (fun key behind label => ?_) (fun _ _ => entries_of_label)
    fun _ _ _ => trivial
  change ReadsAt _ _ (memberFrom? entry state key) behind
  unfold memberFrom?
  cases read : entry state key with
  | error fault => exact nofun
  | ok reader =>
    refine readsAt_entry (h state key reader read behind) fun member rest found => ?_
    refine readsAt_continued fun next shorter => ?_
    have shorter : next.length < text.length :=
      Nat.lt_trans shorter (Nat.lt_trans (length_lt_of_outcome found) (length_lt_of_label label))
    exact readsAt_readMembers h member next
termination_by text.length

theorem outcome_readObject (entry : σ → String → Except Fault (TextReader σ)) (state : σ)
    (text : List Char) :
    outcome (readObject entry state text) =
      insideOf? .curly (some state) (fun text => outcome (readMembers entry state text)) text := by
  cases front : skipBlanks text with
  | nil =>
    unfold readObject insideOf?
    split <;> simp_all [malformedKey]
  | cons c rest =>
    by_cases closed : c = '\x7d'
    · subst closed
      rw [outcome_readObject_closed entry state front, insideOf?, front]
      rfl
    · rw [outcome_readObject_members entry state front closed, insideOf?, front]
      exact (if_neg closed).symm

theorem reads_readObject {entry : σ → String → Except Fault (TextReader σ)} (h : EntriesRead entry)
    (state : σ) :
    Reads (Derives (.inside .curly)) Anything fun text => outcome (readObject entry state text) := by
  intro text
  rw [funext (outcome_readObject entry state)]
  exact readsAt_insideOf (readsAt_readMembers h state text)

/-! ## Values of free form -/

theorem entriesRead_gather {value : TextReader Json}
    (h : Reads IsItem Delimited fun text => outcome (value text)) : EntriesRead (gather value) := by
  intro state key reader found text
  obtain rfl := Except.ok.inj found
  simp only [outcome_map]
  exact (h text).map _

theorem reads_readFreeObject {value : TextReader Json}
    (h : Reads IsItem Delimited fun text => outcome (value text)) :
    Reads (Derives (.inside .curly)) Anything fun text => outcome (readFreeObject value text) := by
  intro text
  simp only [readFreeObject, outcome_map]
  exact (reads_readObject (entriesRead_gather h) [] text).map _

/-- What the brackets of a value hold, if one more of them may be open. -/
def openedAt? (inside : (depth : Nat) → List Char → Option (α × List Char)) :
    Nat → List Char → Option (α × List Char)
  | 0, _ => none
  | depth + 1, text => inside depth text

theorem reads_openedAt {inside : (depth : Nat) → List Char → Option (α × List Char)}
    {language : List Char → Prop} (depth : Nat)
    (h : ∀ below, below < depth → Reads language Anything (inside below)) :
    Reads language Anything (openedAt? inside depth) := by
  cases depth with
  | zero => exact fun _ => nofun
  | succ depth => exact h depth (Nat.lt_succ_self depth)

theorem outcome_readValue_eq (depth : Nat) (text : List Char) :
    outcome (readValue depth text) =
      headed? some (fun
        | .square => openedAt? (fun depth text =>
            (outcome (readList (readValue depth) text)).map (Prod.map .array id)) depth
        | .curly => openedAt? (fun depth text =>
            (outcome (readFreeObject (readValue depth) text)).map (Prod.map .object id)) depth)
        text := by
  rw [outcome_readValue, headed?]
  congr 1
  funext head
  obtain ⟨head, rest⟩ := head
  cases depth <;> cases head <;> rfl

theorem reads_readValue (depth : Nat) :
    Reads IsItem Delimited fun text => outcome (readValue depth text) := by
  induction depth using Nat.strongRecOn with
  | _ depth ih =>
    rw [funext (outcome_readValue_eq depth)]
    refine reads_headed fun bracket => ?_
    cases bracket with
    | square => exact reads_openedAt depth fun below less text =>
        (reads_readList (ih below less) text).map _
    | curly => exact reads_openedAt depth fun below less text =>
        (reads_readFreeObject (ih below less) text).map _

/-! ## Whole texts -/

theorem parseRaw_eq_ok_iff {depth : Nat} {text : String} {value : Json} :
    parseRaw depth text = .ok value ↔
      ∃ rest, outcome (readValue depth text.toList) = some (value, rest) ∧ Blank rest := by
  simp only [← skipBlanks_eq_nil_iff]
  refine ⟨exists_outcome_of_parseRaw, ?_⟩
  rintro ⟨rest, read, blank⟩
  obtain ⟨_, read⟩ := outcome_eq_some_iff.1 read
  simp only [parseRaw, read, bind, Except.bind, blank]

/-- A text that is parsed is one value with blanks around it, and the blanks behind it may be others. -/
theorem exists_front_of_parseRaw {depth : Nat} {text : String} {value : Json}
    (h : parseRaw depth text = .ok value) :
    ∃ front rest, IsItem front ∧ Blank rest ∧ text.toList = front ++ rest ∧
      ∀ other, Blank other → parseRaw depth (String.ofList (front ++ other)) = .ok value := by
  obtain ⟨rest, read, blank⟩ := parseRaw_eq_ok_iff.1 h
  obtain ⟨front, isItem, same, again⟩ := reads_readValue depth text.toList read
  refine ⟨front, rest, isItem, blank, same, fun other trailing => ?_⟩
  rw [parseRaw_eq_ok_iff, String.toList_ofList]
  exact ⟨other, again other (delimited_of_blank trailing), trailing⟩

end TypedHub.Json
