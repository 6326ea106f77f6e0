import TypedHub.Proofs.CSharp.Grammar

/-!
# Each text is read as one tree at most

The grammar is unambiguous (`Derives.unique`): tokens are read as an expression in one way only.

The proof descends through the levels of the grammar with a reader that knows at each place from the
next few tokens what to do. It is generous and finds trees where the grammar has none, but whatever
the grammar derives, the reader finds as well (`complete`), and it finds one tree only. Its fuel
bounds the depth of the descent; that enough of it is there is all that is ever said about it
(`Finds`).
-/

namespace TypedHub.CSharp

/-! ## Results with enough fuel -/

section Fuel

variable {α β : Type}

/-- With enough fuel the result is `a`. -/
def Finds (f : Nat → Option α) (a : α) : Prop := ∃ least, ∀ fuel, least ≤ fuel → f fuel = some a

theorem Finds.unique {f : Nat → Option α} {a b : α} (first : Finds f a) (second : Finds f b) :
    a = b := by
  obtain ⟨k, found⟩ := first
  obtain ⟨l, found'⟩ := second
  have same := found (max k l) (Nat.le_max_left k l)
  rw [found' (max k l) (Nat.le_max_right k l)] at same
  exact (Option.some.inj same).symm

theorem finds_some (a : α) : Finds (fun _ => some a) a := ⟨0, fun _ _ => rfl⟩

theorem Finds.bind {f : Nat → Option α} {g : Nat → α → Option β} {a : α} {b : β}
    (first : Finds f a) (second : Finds (g · a) b) :
    Finds (fun fuel => (f fuel).bind (g fuel)) b := by
  obtain ⟨k, found⟩ := first
  obtain ⟨l, found'⟩ := second
  refine ⟨max k l, fun fuel enough => ?_⟩
  change (f fuel).bind (g fuel) = some b
  rw [found fuel (by omega)]
  exact found' fuel (by omega)

/-- A step that takes one unit of fuel. -/
theorem Finds.step {f F : Nat → Option α} {a : α} (h : ∀ fuel, F (fuel + 1) = f fuel)
    (found : Finds f a) : Finds F a := by
  obtain ⟨k, found⟩ := found
  refine ⟨k + 1, fun fuel enough => ?_⟩
  obtain ⟨less, rfl⟩ : ∃ less, fuel = less + 1 := ⟨fuel - 1, by omega⟩
  rw [h, found less (by omega)]

end Fuel

/-! ## The reader -/

namespace Descent

variable {α : Type}

/-- Items with commas between them, up to a closing parenthesis. -/
def items (item : List Token → Option (α × List Token)) :
    Nat → List Token → Option (List α × List Token)
  | 0, _ => none
  | fuel + 1, tokens => (item tokens).bind fun first =>
    match first.2 with
    | .mark .comma :: rest => (items item fuel rest).bind fun others =>
      some (first.1 :: others.1, others.2)
    | .mark .closeParen :: rest => some ([first.1], rest)
    | _ => none

/-- The items of a group, from behind its opening parenthesis. -/
def group (item : List Token → Option (α × List Token)) (fuel : Nat) :
    List Token → Option (List α × List Token)
  | .mark .closeParen :: rest => some ([], rest)
  | tokens => items item fuel tokens

/-- Type arguments from behind the opening bracket. -/
def typeArguments : List Token → Option (List String × List Token)
  | .word type :: .mark .comma :: rest => (typeArguments rest).map fun others =>
    (type :: others.1, others.2)
  | .word type :: .mark .greater :: rest => some ([type], rest)
  | _ => none

/-- A parameter without the word in front. -/
def declared (expression : List Token → Option (Reading × List Token)) (isParams : Bool) :
    List Token → Option (Formal Reading × List Token)
  | .word type :: .word name :: .mark .equals :: rest => (expression rest).bind fun value =>
    some (⟨isParams, type, name, some value.1⟩, value.2)
  | .word type :: .word name :: rest => some (⟨isParams, type, name, none⟩, rest)
  | _ => none

def parameter (expression : List Token → Option (Reading × List Token)) :
    List Token → Option (Formal Reading × List Token)
  | .word "params" :: rest => declared expression true rest
  | tokens => declared expression false tokens

/-- Whether a lambda is asynchronous, and what follows the word that says so. -/
def splitAsync : List Token → Bool × List Token
  | .word "async" :: rest => (true, rest)
  | tokens => (false, tokens)

/-- Whether the tokens begin with the parameters of a lambda: with two words in parentheses, or with
nothing in them and an arrow behind. -/
def beginsParameters : List Token → Bool
  | .mark .openParen :: .mark .closeParen :: .mark .arrow :: _ => true
  | .mark .openParen :: .word first :: .word _ :: _ => first = "params" ∨ IsSimpleName first
  | _ => false

/-- Whether a lambda begins here. -/
def beginsLambda (tokens : List Token) : Bool := beginsParameters (splitAsync tokens).2

mutual

def expression : Nat → List Token → Option (Reading × List Token)
  | 0, _ => none
  | fuel + 1, tokens =>
    if beginsLambda tokens then lambda fuel (splitAsync tokens).1 (splitAsync tokens).2
    else (coalescing fuel tokens).bind fun left =>
      match left.2 with
      | .mark .equals :: rest => (expression fuel rest).bind fun value =>
        some (.assign left.1 value.1, value.2)
      | rest => some (left.1, rest)

def lambda : Nat → Bool → List Token → Option (Reading × List Token)
  | 0, _, _ => none
  | fuel + 1, isAsync, tokens =>
    match tokens with
    | .mark .openParen :: rest =>
      (group (parameter (expression fuel)) fuel rest).bind fun parameters =>
        match parameters.2 with
        | .mark .arrow :: rest => (expression fuel rest).bind fun body =>
          some (.lambda isAsync parameters.1 body.1, body.2)
        | _ => none
    | _ => none

def coalescing : Nat → List Token → Option (Reading × List Token)
  | 0, _ => none
  | fuel + 1, tokens => (unary fuel tokens).bind fun left =>
    match left.2 with
    | .mark .ifNull :: rest => (coalescing fuel rest).bind fun right =>
      some (.coalesce left.1 right.1, right.2)
    | rest => some (left.1, rest)

def unary : Nat → List Token → Option (Reading × List Token)
  | 0, _ => none
  | fuel + 1, tokens =>
    match tokens with
    | .word "await" :: rest => (unary fuel rest).bind fun awaited =>
      some (.await awaited.1, awaited.2)
    | tokens => operand fuel tokens

def operand : Nat → List Token → Option (Reading × List Token)
  | 0, _ => none
  | fuel + 1, tokens => (primary fuel tokens).bind fun first =>
    suffixes fuel ⟨none, first.1⟩ first.2

def primary : Nat → List Token → Option (Reading × List Token)
  | 0, _ => none
  | fuel + 1, tokens =>
    match tokens with
    | .mark .openParen :: rest => (expression fuel rest).bind fun inner =>
      match inner.2 with
      | .mark .closeParen :: rest => some (inner.1, rest)
      | _ => none
    | .word "default" :: .mark .bang :: rest => some (.defaultValue, rest)
    | .word "this" :: rest => some (.this, rest)
    | .word w :: rest => some (if IsNumber w then .number w else .name w, rest)
    | .string value :: rest => some (.str value, rest)
    | _ => none

/-- What follows an operand: member accesses, calls and null-conditional invocations. -/
def suffixes : Nat → Chain → List Token → Option (Reading × List Token)
  | 0, _, _ => none
  | fuel + 1, chain, tokens =>
    match tokens with
    | .mark .point :: .word memberName :: rest =>
      suffixes fuel ⟨chain.receiver?, .member chain.last memberName⟩ rest
    | .mark .openParen :: rest => (group (expression fuel) fuel rest).bind fun arguments =>
      suffixes fuel ⟨chain.receiver?, .call chain.last [] arguments.1⟩ arguments.2
    | .mark .less :: rest => (typeArguments rest).bind fun types =>
      match types.2 with
      | .mark .openParen :: rest => (group (expression fuel) fuel rest).bind fun arguments =>
        suffixes fuel ⟨chain.receiver?, .call chain.last types.1 arguments.1⟩ arguments.2
      | _ => none
    | .mark .ifSet :: .word _ :: .mark .openParen :: rest =>
      (group (expression fuel) fuel rest).bind fun arguments =>
        suffixes fuel ⟨some chain.whole, .invocation arguments.1⟩ arguments.2
    | rest => some (chain.whole, rest)

end

/-! ## What may follow -/

/-- An expression ends at the end of the tokens, or before a comma or a closing parenthesis. -/
def Ends (rest : List Token) : Prop :=
  ∀ next ∈ rest.head?, next = .mark .comma ∨ next = .mark .closeParen

/-- The tokens that go on with an operand. -/
def suffixStarts : List Token := [.mark .point, .mark .openParen, .mark .less, .mark .ifSet]

def EndsOperand (rest : List Token) : Prop := ∀ next ∈ rest.head?, next ∉ suffixStarts

def EndsCoalescing (rest : List Token) : Prop :=
  ∀ next ∈ rest.head?, next ∉ .mark .ifNull :: suffixStarts

variable {rest : List Token}

theorem ends_closeParen (rest : List Token) : Ends (.mark .closeParen :: rest) :=
  fun _ head => .inr (Option.some.inj head).symm

theorem ends_comma (rest : List Token) : Ends (.mark .comma :: rest) :=
  fun _ head => .inl (Option.some.inj head).symm

theorem Ends.head?_ne {mark : Punctuator} (ends : Ends rest) (noComma : mark ≠ .comma)
    (noClose : mark ≠ .closeParen) : rest.head? ≠ some (.mark mark) := fun head => by
  obtain same | same := ends _ head
  · exact noComma (Token.mark.inj same)
  · exact noClose (Token.mark.inj same)

theorem endsOperand_mark (mark : Punctuator) (other : .mark mark ∉ suffixStarts)
    (rest : List Token) : EndsOperand (.mark mark :: rest) :=
  fun _ head => Option.some.inj head ▸ other

theorem Ends.coalescing (ends : Ends rest) : EndsCoalescing rest := fun next head => by
  obtain rfl | rfl := ends next head <;> decide

theorem EndsCoalescing.operand (ends : EndsCoalescing rest) : EndsOperand rest :=
  fun next head => mt (List.mem_cons_of_mem _) (ends next head)

/-- Where no suffix follows, an operand is all of its chain. -/
theorem finds_suffixes (chain : Chain) (ends : EndsOperand rest) :
    Finds (fun fuel => suffixes fuel chain rest) (chain.whole, rest) := by
  refine .step (fun fuel => ?_) (finds_some _)
  rw [suffixes]
  all_goals
    intros
    subst rest
    exact absurd (by decide) (ends _ rfl)

/-! ## Lists -/

section Lists

variable {β : Type} {item : Nat → List Token → Option (α × List Token)} {tokensOf : β → List Token}
  {value : β → α}

/-- Items are found if each of them is found where an item may end. The induction is on the items,
and what fuel is needed for the first one may be spent on the others as well. -/
theorem exists_items {entries : List β} (nonempty : entries ≠ [])
    (h : ∀ entry ∈ entries, ∀ rest, Ends rest →
      Finds (fun fuel => item fuel (tokensOf entry ++ rest)) (value entry, rest))
    (rest : List Token) :
    ∃ least, ∀ depth fuel, least ≤ depth → least ≤ fuel →
      items (item depth) fuel (separated (entries.map tokensOf) ++ .mark .closeParen :: rest) =
        some (entries.map value, rest) := by
  induction entries with
  | nil => exact absurd rfl nonempty
  | cons first more ih =>
    rw [List.forall_mem_cons] at h
    cases more with
    | nil =>
      obtain ⟨least, found⟩ := h.1 _ (ends_closeParen rest)
      refine ⟨least + 1, fun depth fuel enough enough' => ?_⟩
      obtain ⟨less, rfl⟩ : ∃ less, fuel = less + 1 := ⟨fuel - 1, by omega⟩
      have here : item depth (tokensOf first ++ .mark .closeParen :: rest) = _ :=
        found depth (by omega)
      rw [List.map_singleton, separated_singleton, items, here]
      rfl
    | cons second others =>
      obtain ⟨least', found'⟩ := ih (List.cons_ne_nil _ _) h.2
      have commaEnds := ends_comma
        (separated ((second :: others).map tokensOf) ++ .mark .closeParen :: rest)
      obtain ⟨least, found⟩ := h.1 _ commaEnds
      refine ⟨max least least' + 1, fun depth fuel enough enough' => ?_⟩
      obtain ⟨less, rfl⟩ : ∃ less, fuel = less + 1 := ⟨fuel - 1, by omega⟩
      have split :
          separated ((first :: second :: others).map tokensOf) ++ .mark .closeParen :: rest =
          tokensOf first ++ .mark .comma ::
            (separated ((second :: others).map tokensOf) ++ .mark .closeParen :: rest) := by
        simp [separated, List.intercalate_cons_cons]
      have here : item depth (tokensOf first ++ _) = _ := found depth (by omega)
      rw [split, items, here, Option.bind_some]
      change (items _ _ _).bind _ = _
      rw [found' depth less (by omega) (by omega)]
      rfl

theorem finds_group {entries : List β}
    (opens : ∀ entry ∈ entries, ∃ first more, tokensOf entry = first :: more ∧
      first ≠ .mark .closeParen)
    (h : ∀ entry ∈ entries, ∀ rest, Ends rest →
      Finds (fun fuel => item fuel (tokensOf entry ++ rest)) (value entry, rest))
    (rest : List Token) :
    Finds (fun fuel => group (item fuel) fuel
      (separated (entries.map tokensOf) ++ .mark .closeParen :: rest))
      (entries.map value, rest) := by
  cases entries with
  | nil => exact finds_some _
  | cons entry more =>
    obtain ⟨least, found⟩ := exists_items (List.cons_ne_nil _ _) h rest
    refine ⟨least, fun fuel enough => ?_⟩
    obtain ⟨first, others, tokens, other⟩ := opens entry List.mem_cons_self
    obtain ⟨behind, split⟩ := exists_separated_cons (tokensOf entry) (more.map tokensOf)
    rw [← found fuel fuel enough enough, List.map_cons, split, tokens, List.cons_append,
      List.cons_append]
    unfold group
    split
    · next same => exact absurd (List.cons.inj same).1 other
    · rfl

end Lists

/-! ## Parameters and type arguments -/

theorem finds_declared {p : Formal (List Token × Reading)} (isParams : Bool)
    (h : ∀ value ∈ p.default?, ∀ rest, Ends rest →
      Finds (fun fuel => expression fuel (value.1 ++ rest)) (value.2, rest))
    (ends : Ends rest) :
    Finds (fun fuel => declared (expression fuel) isParams
      (.word p.type :: .word p.name :: (match p.default?.map (·.1) with
        | none => []
        | some value => .mark .equals :: value) ++ rest))
      (⟨isParams, p.type, p.name, p.default?.map (·.2)⟩, rest) := by
  cases default : p.default? with
  | none =>
    refine ⟨0, fun fuel _ => ?_⟩
    change declared (expression fuel) isParams (.word p.type :: .word p.name :: rest) = _
    rw [declared]
    · rfl
    · rintro more rfl
      obtain other | other := ends _ rfl <;> cases other
  | some value => exact (h value default rest ends).bind (finds_some _)

theorem parameter_word {w : String} {read : List Token → Option (Reading × List Token)}
    (other : w ≠ "params") (rest : List Token) :
    parameter read (.word w :: rest) = declared read false (.word w :: rest) := by
  rw [parameter]
  rintro more same
  exact other (Token.word.inj (List.cons.inj same).1)

theorem finds_parameter {p : Formal (List Token × Reading)} (simple : IsSimpleName p.type)
    (h : ∀ value ∈ p.default?, ∀ rest, Ends rest →
      Finds (fun fuel => expression fuel (value.1 ++ rest)) (value.2, rest))
    (ends : Ends rest) :
    Finds (fun fuel => parameter (expression fuel) ((p.map (·.1)).tokens ++ rest))
      (p.map (·.2), rest) := by
  obtain ⟨isParams, type, name, default?⟩ := p
  have found := finds_declared isParams h ends
  cases isParams with
  | true => exact found
  | false =>
    have other := ne_of_isSimpleName simple (by decide : "params" ∈ keywords ++ asyncKeywords)
    obtain ⟨least, found⟩ := found
    exact ⟨least, fun fuel enough => (parameter_word other _).trans (found fuel enough)⟩

theorem typeArguments_append {types : List String} (nonempty : types ≠ []) (rest : List Token) :
    typeArguments (separated (types.map fun type => [.word type]) ++ .mark .greater :: rest) =
      some (types, rest) := by
  induction types with
  | nil => exact absurd rfl nonempty
  | cons first more ih =>
    cases more with
    | nil => rfl
    | cons second others =>
      have split : separated ((first :: second :: others).map fun type => [Token.word type]) ++
            .mark .greater :: rest =
          .word first :: .mark .comma ::
            (separated ((second :: others).map fun type => [Token.word type]) ++
              .mark .greater :: rest) := by
        rw [List.map_cons, List.map_cons, separated_cons_cons]
        rfl
      rw [split, typeArguments, ih (List.cons_ne_nil _ _)]
      rfl

/-! ## How expressions begin -/

/-- Tokens that cannot be taken for the parameters of a lambda when they stand behind an opening
parenthesis. -/
def Opening (tokens : List Token) : Prop :=
  ∃ first more, tokens = first :: more ∧ first ≠ .mark .closeParen ∧ first ≠ .word "params" ∧
    ∀ w, first = .word w → IsSimpleName w → ∀ v, more.head? ≠ some (.word v)

theorem Opening.append {tokens behind : List Token} (opening : Opening tokens)
    (h : ∀ v, behind.head? ≠ some (.word v)) : Opening (tokens ++ behind) := by
  obtain ⟨first, more, rfl, notClose, notParams, apart⟩ := opening
  refine ⟨first, more ++ behind, rfl, notClose, notParams, fun w is simple v head => ?_⟩
  cases more with
  | nil => exact h v head
  | cons second others => exact apart w is simple v head

theorem Opening.mark {tokens : List Token} {mark : Punctuator} (other : mark ≠ .closeParen) :
    Opening (.mark mark :: tokens) :=
  ⟨_, _, rfl, fun same => other (Token.mark.inj same), nofun, nofun⟩

theorem opening_of_derives {level : Level} {tokens : List Token} {reading : Reading}
    (h : Derives level tokens reading) : Opening tokens := by
  induction h with
  | name simple =>
    refine ⟨_, _, rfl, nofun, fun same => ?_, fun _ _ _ _ => nofun⟩
    exact ne_of_isSimpleName simple (by decide) (Token.word.inj same)
  | number digits =>
    refine ⟨_, _, rfl, nofun, fun same => ?_, fun _ _ _ _ => nofun⟩
    obtain rfl := Token.word.inj same
    revert digits
    decide
  | str => exact ⟨_, _, rfl, nofun, nofun, nofun⟩
  | this => exact ⟨_, _, rfl, nofun, by decide, fun _ _ _ _ => nofun⟩
  | defaultValue => exact ⟨_, _, rfl, nofun, by decide, fun _ _ _ _ => nofun⟩
  | parenthesized => exact .mark (by decide)
  | member _ _ ih => exact ih.append nofun
  | @call _ _ _ types _ _ _ _ ih =>
    rw [List.append_assoc]
    refine ih.append ?_
    cases types with
    | nil => exact nofun
    | cons => exact nofun
  | invokeIfSet _ _ ih => exact ih.append nofun
  | operand _ ih => exact ih
  | await =>
    refine ⟨_, _, rfl, nofun, by decide, fun w is simple => ?_⟩
    exact absurd (Token.word.inj is).symm (ne_of_isSimpleName simple (by decide))
  | unary _ ih => exact ih
  | coalesce _ _ ih => exact ih.append nofun
  | coalescing _ ih => exact ih
  | assign _ _ ih => exact ih.append nofun
  | @lambda isAsync =>
    cases isAsync with
    | false => exact .mark (by decide)
    | true => exact ⟨_, _, rfl, nofun, by decide, fun _ _ _ _ => nofun⟩

/-! ## Which expressions are no lambdas -/

/-- Behind an opening parenthesis, an expression does not look like parameters. -/
theorem beginsParameters_of_opening {tokens : List Token} (opening : Opening tokens)
    (h : ∀ v, rest.head? ≠ some (.word v)) :
    beginsParameters (.mark .openParen :: (tokens ++ rest)) = false := by
  obtain ⟨first, more, same, notClose, notParams, apart⟩ := opening.append h
  rw [same]
  unfold beginsParameters
  split
  · next same => exact absurd (List.cons.inj (List.cons.inj same).2).1 notClose
  · next w v _ same =>
    obtain ⟨is, others⟩ := List.cons.inj (List.cons.inj same).2
    rw [is] at notParams
    refine decide_eq_false fun either => ?_
    obtain word | simple := either
    · exact notParams (word ▸ rfl)
    · exact apart w is simple v (by rw [others]; rfl)
  · rfl

/-- Arguments do not look like parameters, unless there are none and an arrow follows. -/
theorem beginsParameters_group {arguments : List (List Token × Reading)}
    (h : ∀ argument ∈ arguments, Opening argument.1) (noArrow : rest.head? ≠ some (.mark .arrow)) :
    beginsParameters (groupTokens (arguments.map (·.1)) ++ rest) = false := by
  rw [groupTokens, List.cons_append, List.cons_append, List.append_assoc]
  cases arguments with
  | nil =>
    unfold beginsParameters
    split
    · next same =>
      exact absurd (congrArg List.head? (List.cons.inj (List.cons.inj same).2).2) noArrow
    · next same => cases (List.cons.inj (List.cons.inj same).2).1
    · rfl
  | cons argument others =>
    have opening := h argument List.mem_cons_self
    cases others with
    | nil =>
      rw [List.map_singleton, separated_singleton]
      exact beginsParameters_of_opening opening fun v same => by cases same
    | cons next more =>
      rw [List.map_cons, List.map_cons, separated_cons_cons, List.append_assoc]
      exact beginsParameters_of_opening opening fun v same => by cases same

theorem beginsLambda_async (rest : List Token) :
    beginsLambda (.word "async" :: rest) = beginsParameters rest := rfl

theorem beginsLambda_word {w : String} (other : w ≠ "async") (rest : List Token) :
    beginsLambda (.word w :: rest) = false := by
  unfold beginsLambda splitAsync
  split
  · next same => exact absurd (Token.word.inj (List.cons.inj same).1) other
  · rfl

/-- What binds tighter than a lambda does not begin like one. The name `async` does if a parenthesis
follows, so a call of a function of this name has to be looked at. -/
theorem beginsLambda_of_derives {level : Level} {tokens : List Token} {reading : Reading}
    (h : Derives level tokens reading) (tight : level ≠ .expression)
    (noArrow : rest.head? ≠ some (.mark .arrow))
    (noGroup : tokens = [.word "async"] → rest.head? ≠ some (.mark .openParen)) :
    beginsLambda (tokens ++ rest) = false := by
  induction h generalizing rest with
  | @name w simple =>
    by_cases is : w = "async"
    · subst is
      rw [List.singleton_append, beginsLambda_async]
      unfold beginsParameters
      split
      · exact absurd rfl (noGroup rfl)
      · exact absurd rfl (noGroup rfl)
      · rfl
    · exact beginsLambda_word is rest
  | @number w digits =>
    have is : w ≠ "async" := by
      rintro rfl
      revert digits
      decide
    exact beginsLambda_word is rest
  | str => rfl
  | this => rfl
  | defaultValue => rfl
  | @parenthesized tokens _ inner =>
    change beginsParameters (.mark .openParen :: (tokens ++ [.mark .closeParen] ++ rest)) = false
    rw [List.append_assoc]
    exact beginsParameters_of_opening (opening_of_derives inner) nofun
  | member _ _ ih =>
    rw [List.append_assoc]
    exact ih nofun nofun nofun
  | @call _ tokens _ types arguments _ _ passed ih =>
    rw [List.append_assoc, List.append_assoc]
    by_cases is : types = [] ∧ tokens = [.word "async"]
    · obtain ⟨rfl, rfl⟩ := is
      exact beginsParameters_group (fun a mem => opening_of_derives (passed a mem)) noArrow
    · cases types with
      | nil => exact ih nofun nofun fun async => absurd ⟨rfl, async⟩ is
      | cons => exact ih nofun nofun nofun
  | invokeIfSet _ _ ih =>
    rw [List.append_assoc]
    exact ih nofun nofun nofun
  | operand _ ih => exact ih nofun noArrow noGroup
  | await => rfl
  | unary _ ih => exact ih nofun noArrow noGroup
  | coalesce _ _ ih =>
    rw [List.append_assoc]
    exact ih nofun nofun nofun
  | coalescing => exact absurd rfl tight
  | assign => exact absurd rfl tight
  | lambda => exact absurd rfl tight

/-- The first token of an operand is not `await`. -/
theorem head?_ne_await {level : Level} {receiver? : Option Reading} {tokens : List Token}
    {reading : Reading} (h : Derives level tokens reading) (is : level = .operand receiver?) :
    tokens.head? ≠ some (.word "await") := by
  have append {front : List Token} (nonempty : front ≠ []) (back : List Token) :
      (front ++ back).head? = front.head? := by
    cases front with
    | nil => exact absurd rfl nonempty
    | cons => rfl
  have nonempty {level : Level} {tokens : List Token} {reading : Reading}
      (h : Derives level tokens reading) : tokens ≠ [] := by
    obtain ⟨first, more, rfl, -⟩ := opening_of_derives h
    exact List.cons_ne_nil _ _
  induction h generalizing receiver? with
  | name simple =>
    exact fun head => ne_of_isSimpleName simple (by decide) (Token.word.inj (Option.some.inj head))
  | number digits =>
    intro head
    obtain rfl := Token.word.inj (Option.some.inj head)
    revert digits
    decide
  | str => exact nofun
  | this => decide
  | defaultValue => decide
  | parenthesized => exact nofun
  | member chain _ ih =>
    rw [append (nonempty chain)]
    exact ih rfl
  | call chain _ _ ih =>
    rw [List.append_assoc, append (nonempty chain)]
    exact ih rfl
  | invokeIfSet chain _ ih =>
    rw [append (nonempty chain)]
    exact ih rfl
  | operand | await | unary | coalesce | coalescing | assign | lambda => cases is

/-! ## The reader finds what the grammar derives -/

section Steps

variable {tokens : List Token} {reading : Reading} {found : Reading × List Token}

theorem finds_operand
    (first : Finds (fun fuel => primary fuel tokens) (reading, rest))
    (second : Finds (fun fuel => suffixes fuel ⟨none, reading⟩ rest) found) :
    Finds (fun fuel => operand fuel tokens) found := .step (fun _ => rfl) (first.bind second)

theorem primary_word {w : String} (notThis : w ≠ "this") (notDefault : w ≠ "default") (fuel : Nat)
    (rest : List Token) :
    primary (fuel + 1) (.word w :: rest) =
      some (if IsNumber w then .number w else .name w, rest) := by
  rw [primary]
  · exact fun _ _ is => notDefault is
  · exact notThis

/-- An operand is read as such where an `await` might stand. -/
theorem unary_of_derives {receiver? : Option Reading}
    (h : Derives (.operand receiver?) tokens reading) (fuel : Nat) (rest : List Token) :
    unary (fuel + 1) (tokens ++ rest) = operand fuel (tokens ++ rest) := by
  have other := head?_ne_await h rfl
  obtain ⟨first, more, rfl, -⟩ := opening_of_derives h
  rw [unary]
  rintro behind same
  exact other (congrArg some (List.cons.inj same).1)

theorem finds_coalescing (first : Finds (fun fuel => unary fuel tokens) (reading, rest))
    (ends : rest.head? ≠ some (.mark .ifNull)) :
    Finds (fun fuel => coalescing fuel tokens) (reading, rest) := by
  refine .step (fun _ => rfl) (first.bind ⟨0, fun fuel _ => ?_⟩)
  split
  · next same => exact absurd (congrArg List.head? same) ends
  · rfl

theorem finds_lambda (isAsync : Bool) {parameters : List (Formal Reading)} {behind : List Token}
    (heading : Finds (fun fuel => group (parameter (expression fuel)) fuel tokens)
      (parameters, .mark .arrow :: behind))
    (body : Finds (fun fuel => expression fuel behind) (reading, rest)) :
    Finds (fun fuel => lambda fuel isAsync (.mark .openParen :: tokens))
      (.lambda isAsync parameters reading, rest) :=
  .step (fun _ => rfl) (heading.bind (body.bind (finds_some _)))

theorem finds_expression (first : Finds (fun fuel => coalescing fuel tokens) (reading, rest))
    (notLambda : beginsLambda tokens = false) (ends : rest.head? ≠ some (.mark .equals)) :
    Finds (fun fuel => expression fuel tokens) (reading, rest) := by
  refine .step (fun fuel => ?_) (first.bind (g := ?_) ?_)
  · rw [expression, notLambda]
    rfl
  split
  · next same => exact absurd (congrArg List.head? same) ends
  · exact finds_some _

theorem finds_assignment {value : Reading} {behind : List Token}
    (first : Finds (fun fuel => coalescing fuel tokens) (reading, .mark .equals :: behind))
    (notLambda : beginsLambda tokens = false)
    (second : Finds (fun fuel => expression fuel behind) (value, rest)) :
    Finds (fun fuel => expression fuel tokens) (.assign reading value, rest) := by
  refine .step (fun fuel => ?_) (first.bind (g := ?_) ?_)
  · rw [expression, notLambda]
    rfl
  exact second.bind (finds_some _)

end Steps

/-- What it is to find a tree at a level: behind an operand, whatever is found from its chain on is
found from its beginning on. -/
def Complete : Level → List Token → Reading → Prop
  | .expression, tokens, reading =>
    ∀ rest, Ends rest → Finds (fun fuel => expression fuel (tokens ++ rest)) (reading, rest)
  | .coalescing, tokens, reading =>
    ∀ rest, EndsCoalescing rest →
      Finds (fun fuel => coalescing fuel (tokens ++ rest)) (reading, rest)
  | .unary, tokens, reading =>
    ∀ rest, EndsOperand rest → Finds (fun fuel => unary fuel (tokens ++ rest)) (reading, rest)
  | .operand receiver?, tokens, last =>
    ∀ rest found, Finds (fun fuel => suffixes fuel ⟨receiver?, last⟩ rest) found →
      Finds (fun fuel => operand fuel (tokens ++ rest)) found

theorem finds_arguments {arguments : List (List Token × Reading)}
    (opens : ∀ argument ∈ arguments, Opening argument.1)
    (h : ∀ argument ∈ arguments, Complete .expression argument.1 argument.2) (rest : List Token) :
    Finds (fun fuel => group (expression fuel) fuel
      (separated (arguments.map (·.1)) ++ .mark .closeParen :: rest))
      (arguments.map (·.2), rest) := by
  refine finds_group (fun argument mem => ?_) (fun argument mem => h argument mem) rest
  obtain ⟨first, more, same, notClose, -⟩ := opens argument mem
  exact ⟨first, more, same, notClose⟩

theorem finds_parameters {parameters : List (Formal (List Token × Reading))}
    (simple : ∀ p ∈ parameters, IsSimpleName p.type ∧ IsSimpleName p.name)
    (h : ∀ p ∈ parameters, ∀ value ∈ p.default?, Complete .expression value.1 value.2)
    (rest : List Token) :
    Finds (fun fuel => group (parameter (expression fuel)) fuel
      (separated (parameters.map fun p => (p.map (·.1)).tokens) ++ .mark .closeParen :: rest))
      (parameters.map (·.map (·.2)), rest) := by
  refine finds_group (fun p mem => ?_)
    (fun p mem rest ends => finds_parameter (simple p mem).1 (h p mem) ends) rest
  obtain ⟨isParams, type, name, default?⟩ := p
  cases isParams <;> exact ⟨_, _, rfl, nofun⟩

theorem beginsParameters_words {first : String} (h : first = "params" ∨ IsSimpleName first)
    (second : String) (rest : List Token) :
    beginsParameters (.mark .openParen :: .word first :: .word second :: rest) = true :=
  decide_eq_true h

/-- The parameters of a lambda are known by their beginning. -/
theorem beginsParameters_parameters {parameters : List (Formal (List Token × Reading))}
    (simple : ∀ p ∈ parameters, IsSimpleName p.type ∧ IsSimpleName p.name) (rest : List Token) :
    beginsParameters (groupTokens (parameters.map fun p => (p.map (·.1)).tokens) ++
      .mark .arrow :: rest) = true := by
  rw [groupTokens_append]
  cases parameters with
  | nil => rfl
  | cons p more =>
    obtain ⟨behind, split⟩ := exists_separated_cons (p.map (·.1)).tokens
      (more.map fun p => (p.map (·.1)).tokens)
    have type := (simple p List.mem_cons_self).1
    rw [List.map_cons, split]
    obtain ⟨isParams, _, name, default?⟩ := p
    cases isParams with
    | true => exact beginsParameters_words (.inl rfl) _ _
    | false => exact beginsParameters_words (.inr type) _ _

/-! ### Production by production -/

section Productions

variable {tokens : List Token} {reading : Reading} {receiver? : Option Reading}
  {arguments : List (List Token × Reading)} {parameters : List (Formal (List Token × Reading))}

theorem complete_word {w : String} (notThis : w ≠ "this") (notDefault : w ≠ "default") :
    Complete (.operand none) [.word w] (if IsNumber w then .number w else .name w) :=
  fun rest _ onward => finds_operand
    (.step (fun fuel => primary_word notThis notDefault fuel rest) (finds_some _)) onward

theorem complete_call {types : List String} (chain : Complete (.operand receiver?) tokens reading)
    (opens : ∀ argument ∈ arguments, Opening argument.1)
    (passed : ∀ argument ∈ arguments, Complete .expression argument.1 argument.2) :
    Complete (.operand receiver?)
      (tokens ++ typeArgumentTokens types ++ groupTokens (arguments.map (·.1)))
      (.call reading types (arguments.map (·.2))) := by
  intro rest found onward
  have inside := finds_arguments opens passed rest
  rw [List.append_assoc, List.append_assoc, groupTokens_append]
  refine chain _ _ ?_
  cases types with
  | nil => exact .step (fun _ => rfl) (inside.bind onward)
  | cons first more =>
    have types := typeArguments_append (List.cons_ne_nil first more)
      (.mark .openParen :: (separated (arguments.map (·.1)) ++ .mark .closeParen :: rest))
    rw [typeArgumentTokens_append (List.cons_ne_nil first more)]
    have found : Finds (fun _ => typeArguments _) _ := ⟨0, fun _ _ => types⟩
    exact .step (fun _ => rfl) (found.bind (inside.bind onward))

theorem complete_lambda (isAsync : Bool)
    (simple : ∀ p ∈ parameters, IsSimpleName p.type ∧ IsSimpleName p.name)
    (defaults : ∀ p ∈ parameters, ∀ value ∈ p.default?, Complete .expression value.1 value.2)
    (body : Complete .expression tokens reading) :
    Complete .expression
      ((if isAsync then [.word "async"] else []) ++
        groupTokens (parameters.map fun p => (p.map (·.1)).tokens) ++ .mark .arrow :: tokens)
      (.lambda isAsync (parameters.map (·.map (·.2))) reading) := by
  intro rest ends
  have heading := finds_parameters simple defaults (.mark .arrow :: (tokens ++ rest))
  have begins := beginsParameters_parameters simple (tokens ++ rest)
  rw [groupTokens_append] at begins
  have found := finds_lambda isAsync heading (body rest ends)
  rw [List.append_assoc, List.append_assoc, List.cons_append, groupTokens_append]
  refine .step (fun fuel => ?_) found
  cases isAsync with
  | true => exact if_pos begins
  | false => exact if_pos begins

end Productions

theorem complete {level : Level} {tokens : List Token} {reading : Reading}
    (h : Derives level tokens reading) : Complete level tokens reading := by
  induction h with
  | name simple =>
    have word := complete_word (ne_of_isSimpleName simple (by decide))
      (ne_of_isSimpleName simple (by decide))
    rwa [if_neg (not_isNumber_of_isSimpleName simple)] at word
  | @number w digits =>
    have other {v : String} (h : ¬IsNumber v) : w ≠ v := fun same => h (same ▸ digits)
    have word := complete_word (other (by decide)) (other (by decide))
    rwa [if_pos digits] at word
  | str =>
    intro rest found onward
    exact finds_operand (.step (fun _ => rfl) (finds_some _)) onward
  | this =>
    intro rest found onward
    exact finds_operand (.step (fun _ => rfl) (finds_some _)) onward
  | defaultValue =>
    intro rest found onward
    exact finds_operand (.step (fun _ => rfl) (finds_some _)) onward
  | @parenthesized tokens reading inner ih =>
    intro rest found onward
    have inside := ih _ (ends_closeParen rest)
    rw [List.cons_append, List.cons_append, List.append_assoc]
    exact finds_operand (.step (fun _ => rfl) (inside.bind (finds_some _))) onward
  | member _ _ ih =>
    intro rest found onward
    rw [List.append_assoc]
    exact ih _ _ (.step (fun _ => rfl) onward)
  | call _ _ passed ih ihArguments =>
    exact complete_call ih (fun a mem => opening_of_derives (passed a mem)) ihArguments
  | invokeIfSet _ passed ih ihArguments =>
    intro rest found onward
    have inside := finds_arguments (fun a mem => opening_of_derives (passed a mem)) ihArguments rest
    rw [List.append_assoc, List.cons_append, List.cons_append, groupTokens_append]
    exact ih _ _ (.step (fun _ => rfl) (inside.bind onward))
  | operand chain ih =>
    intro rest ends
    have found := ih rest _ (finds_suffixes _ ends)
    exact .step (fun fuel => unary_of_derives chain fuel rest) found
  | await _ ih =>
    intro rest ends
    exact .step (fun _ => rfl) ((ih rest ends).bind (finds_some _))
  | unary _ ih =>
    intro rest ends
    exact finds_coalescing (ih rest ends.operand) fun head => ends _ head List.mem_cons_self
  | @coalesce _ tokensRight _ _ _ _ ihLeft ihRight =>
    intro rest ends
    have right := ihRight rest ends
    rw [List.append_assoc, List.cons_append]
    have left := ihLeft (.mark .ifNull :: (tokensRight ++ rest))
      (endsOperand_mark .ifNull (by decide) _)
    exact .step (fun _ => rfl) (left.bind (right.bind (finds_some _)))
  | coalescing inner ih =>
    intro rest ends
    have tight : Level.coalescing ≠ .expression := nofun
    have notLambda := beginsLambda_of_derives inner tight (ends.head?_ne (by decide) (by decide))
      fun _ => ends.head?_ne (by decide) (by decide)
    exact finds_expression (ih rest ends.coalescing) notLambda
      (ends.head?_ne (by decide) (by decide))
  | @assign _ tokensRight _ _ target _ ihTarget ihValue =>
    intro rest ends
    have left := ihTarget (.mark .equals :: (tokensRight ++ rest))
      (endsOperand_mark .equals (by decide) _)
    have left := finds_coalescing left nofun
    have notLambda : beginsLambda (_ ++ .mark .equals :: (tokensRight ++ rest)) = false :=
      beginsLambda_of_derives target nofun nofun nofun
    rw [List.append_assoc, List.cons_append]
    exact finds_assignment left notLambda (ihValue rest ends)
  | lambda simple _ _ ihDefaults ih => exact complete_lambda _ simple ihDefaults ih

end Descent

/-- **The grammar is unambiguous: tokens are read as one expression at most.** -/
theorem Derives.unique {tokens : List Token} {reading other : Reading}
    (h : Derives .expression tokens reading) (h' : Derives .expression tokens other) :
    reading = other := by
  have found := Descent.complete h [] nofun
  have found' := Descent.complete h' [] nofun
  exact (Prod.mk.inj (found.unique found')).1

end TypedHub.CSharp
