import TypedHub.Proofs.CSharp.Token

/-!
# The grammar of expressions

How C# reads the expressions that are written here. From the loosest to the tightest:

* an assignment or a lambda, whose right side goes as far as it can
* `??`, which is right associative
* `await`
* an operand: a name, a literal or an expression in parentheses, and behind it any number of member
  accesses, calls and null-conditional invocations

A null-conditional invocation takes up the member accesses and calls that follow it directly: if the
receiver is null, none of them is evaluated. So an operand is read from the left as a chain, and
what is read last belongs to the receiver of the last null-conditional invocation, if there is one.

Names, types and type arguments are single names. A number is one of decimal digits, and `default!`
counts as one literal.
-/

namespace TypedHub.CSharp

/-! ## Words -/

/-- A name that is no reserved word. -/
def IsSimpleName (name : String) : Prop :=
  (isIdentifier name.toList = true ∨ isLegalIdentifier name.toList = true) ∧
    name ∉ keywords ∧ name ∉ asyncKeywords

instance : DecidablePred IsSimpleName := fun _ => inferInstanceAs (Decidable (_ ∧ _ ∧ _))

/-- A literal of decimal digits. -/
def IsNumber (text : String) : Prop := text ≠ "" ∧ text.toList.all Char.isDigit = true

instance : DecidablePred IsNumber := fun _ => inferInstanceAs (Decidable (_ ∧ _))

theorem toNat_of_isDigit {c : Char} (h : c.isDigit = true) : 48 ≤ c.toNat ∧ c.toNat ≤ 57 := by
  simp only [Char.isDigit, Bool.and_eq_true, decide_eq_true_eq] at h
  exact h

theorem not_start_of_isDigit {c : Char} (h : c.isDigit = true) :
    isNameStart c = false ∧ isLegalStart c = false ∧ c ≠ '@' := by
  have all : ∀ code ∈ List.range' 48 10, isNameStart (Char.ofNat code) = false ∧
      isLegalStart (Char.ofNat code) = false ∧ Char.ofNat code ≠ '@' := by decide +kernel
  have bounds := toNat_of_isDigit h
  have this := all c.toNat (List.mem_range'_1.2 (by omega))
  rwa [Char.ofNat_toNat] at this

theorem not_isNumber_of_isSimpleName {w : String} (simple : IsSimpleName w) : ¬IsNumber w := by
  rintro ⟨nonempty, digits⟩
  cases chars : w.toList with
  | nil => exact nonempty (String.toList_eq_nil_iff.1 chars)
  | cons c rest =>
    rw [chars, List.all_cons, Bool.and_eq_true] at digits
    obtain ⟨noName, noLegal, noAt⟩ := not_start_of_isDigit digits.1
    have h := simple.1
    rw [chars] at h
    obtain h | h := h
    · unfold isIdentifier at h
      split at h
      · next same => exact noAt (List.cons.inj same).1
      · rw [isPlainIdentifier, noName, Bool.false_and] at h
        cases h
    · have plain : (c :: rest).head? ≠ some '@' := fun escaped => noAt (Option.some.inj escaped)
      rw [isLegalIdentifier_of_head plain, isLegalPlain, noLegal, Bool.false_and] at h
      cases h

theorem ne_of_isSimpleName {w other : String} (simple : IsSimpleName w)
    (reserved : other ∈ keywords ++ asyncKeywords) : w ≠ other := by
  rintro rfl
  exact (List.mem_append.1 reserved).elim simple.2.1 simple.2.2

/-! ## Trees -/

/-- A parameter of a lambda, with a default of some kind. -/
structure Formal (δ : Type) where
  isParams : Bool
  type : String
  name : String
  default? : Option δ

def Formal.map {δ ε : Type} (f : δ → ε) (p : Formal δ) : Formal ε :=
  ⟨p.isParams, p.type, p.name, p.default?.map f⟩

/-- What an expression is read as. -/
inductive Reading where
  | name (text : String)
  | number (text : String)
  | str (value : String)
  | this
  | defaultValue
  | member (target : Reading) (memberName : String)
  | call (callee : Reading) (typeArguments : List String) (arguments : List Reading)
  /-- What is evaluated with a receiver, unless that is null. -/
  | conditional (receiver whenSet : Reading)
  /-- The receiver of the conditional, called with arguments. -/
  | invocation (arguments : List Reading)
  | await (operand : Reading)
  | coalesce (left right : Reading)
  | assign (target value : Reading)
  | lambda (isAsync : Bool) (parameters : List (Formal Reading)) (body : Reading)

/-- What has been read of an operand: the receiver of the last null-conditional invocation, if there
is one, and what is evaluated with it. -/
structure Chain where
  receiver? : Option Reading
  last : Reading

/-- The whole of a chain. -/
def Chain.whole : Chain → Reading
  | ⟨none, last⟩ => last
  | ⟨some receiver, last⟩ => .conditional receiver last

/-! ## Tokens of lists -/

/-- Tokens with commas between them. -/
def separated (parts : List (List Token)) : List Token := [.mark .comma].intercalate parts

/-- Arguments or parameters in parentheses. -/
def groupTokens (parts : List (List Token)) : List Token :=
  .mark .openParen :: separated parts ++ [.mark .closeParen]

def typeArgumentTokens : List String → List Token
  | [] => []
  | types => .mark .less :: separated (types.map fun type => [.word type]) ++ [.mark .greater]

def Formal.tokens (p : Formal (List Token)) : List Token :=
  (if p.isParams then [.word "params"] else []) ++ [.word p.type, .word p.name] ++
    match p.default? with
    | none => []
    | some value => .mark .equals :: value

theorem separated_singleton (part : List Token) : separated [part] = part :=
  List.intercalate_singleton

theorem separated_cons_cons (first second : List Token) (others : List (List Token)) :
    separated (first :: second :: others) =
      first ++ .mark .comma :: separated (second :: others) := by
  rw [separated, List.intercalate_cons_cons, List.append_assoc]
  rfl

theorem exists_separated_cons (first : List Token) (others : List (List Token)) :
    ∃ behind, separated (first :: others) = first ++ behind := by
  cases others with
  | nil => exact ⟨[], by rw [separated_singleton, List.append_nil]⟩
  | cons second more => exact ⟨_, separated_cons_cons first second more⟩

theorem groupTokens_append (parts : List (List Token)) (rest : List Token) :
    groupTokens parts ++ rest =
      .mark .openParen :: (separated parts ++ .mark .closeParen :: rest) := by
  rw [groupTokens, List.cons_append, List.cons_append, List.append_assoc]
  rfl

theorem typeArgumentTokens_append {types : List String} (nonempty : types ≠ [])
    (rest : List Token) :
    typeArgumentTokens types ++ rest =
      .mark .less :: (separated (types.map fun type => [.word type]) ++
        .mark .greater :: rest) := by
  cases types with
  | nil => exact absurd rfl nonempty
  | cons =>
    rw [typeArgumentTokens, List.cons_append, List.cons_append, List.append_assoc]
    · rfl
    · exact List.cons_ne_nil _ _

/-! ## Productions -/

/-- How loose an expression may be at some place. -/
inductive Level where
  | expression
  | coalescing
  | unary
  /-- An operand that is read as a chain with this receiver. -/
  | operand (receiver? : Option Reading)

/-- The tokens are read as the tree at places of the level. -/
inductive Derives : Level → List Token → Reading → Prop where
  | name {w : String} (simple : IsSimpleName w) : Derives (.operand none) [.word w] (.name w)
  | number {w : String} (digits : IsNumber w) : Derives (.operand none) [.word w] (.number w)
  | str {value : String} : Derives (.operand none) [.string value] (.str value)
  | this : Derives (.operand none) [.word "this"] .this
  | defaultValue : Derives (.operand none) [.word "default", .mark .bang] .defaultValue
  | parenthesized {tokens : List Token} {reading : Reading}
    (inner : Derives .expression tokens reading) :
    Derives (.operand none) (.mark .openParen :: tokens ++ [.mark .closeParen]) reading
  | member {receiver? : Option Reading} {tokens : List Token} {target : Reading}
    {memberName : String}
    (chain : Derives (.operand receiver?) tokens target) (simple : IsSimpleName memberName) :
    Derives (.operand receiver?) (tokens ++ [.mark .point, .word memberName])
      (.member target memberName)
  | call {receiver? : Option Reading} {tokens : List Token} {callee : Reading}
    {types : List String} {arguments : List (List Token × Reading)}
    (chain : Derives (.operand receiver?) tokens callee)
    (simple : ∀ type ∈ types, IsSimpleName type)
    (passed : ∀ argument ∈ arguments, Derives .expression argument.1 argument.2) :
    Derives (.operand receiver?)
      (tokens ++ typeArgumentTokens types ++ groupTokens (arguments.map (·.1)))
      (.call callee types (arguments.map (·.2)))
  | invokeIfSet {receiver? : Option Reading} {tokens : List Token} {target : Reading}
    {arguments : List (List Token × Reading)}
    (chain : Derives (.operand receiver?) tokens target)
    (passed : ∀ argument ∈ arguments, Derives .expression argument.1 argument.2) :
    Derives (.operand (some (Chain.whole ⟨receiver?, target⟩)))
      (tokens ++ .mark .ifSet :: .word "Invoke" :: groupTokens (arguments.map (·.1)))
      (.invocation (arguments.map (·.2)))
  | operand {receiver? : Option Reading} {tokens : List Token} {last : Reading}
    (chain : Derives (.operand receiver?) tokens last) :
    Derives .unary tokens (Chain.whole ⟨receiver?, last⟩)
  | await {tokens : List Token} {operand : Reading} (inner : Derives .unary tokens operand) :
    Derives .unary (.word "await" :: tokens) (.await operand)
  | unary {tokens : List Token} {reading : Reading} (inner : Derives .unary tokens reading) :
    Derives .coalescing tokens reading
  | coalesce {tokensLeft tokensRight : List Token} {left right : Reading}
    (first : Derives .unary tokensLeft left) (second : Derives .coalescing tokensRight right) :
    Derives .coalescing (tokensLeft ++ .mark .ifNull :: tokensRight) (.coalesce left right)
  | coalescing {tokens : List Token} {reading : Reading}
    (inner : Derives .coalescing tokens reading) : Derives .expression tokens reading
  | assign {tokensLeft tokensRight : List Token} {target value : Reading}
    (first : Derives .unary tokensLeft target) (second : Derives .expression tokensRight value) :
    Derives .expression (tokensLeft ++ .mark .equals :: tokensRight) (.assign target value)
  | lambda {isAsync : Bool} {parameters : List (Formal (List Token × Reading))}
    {tokens : List Token} {body : Reading}
    (simple : ∀ p ∈ parameters, IsSimpleName p.type ∧ IsSimpleName p.name)
    (defaults : ∀ p ∈ parameters, ∀ value ∈ p.default?, Derives .expression value.1 value.2)
    (inner : Derives .expression tokens body) :
    Derives .expression
      ((if isAsync then [.word "async"] else []) ++
        groupTokens (parameters.map fun p => (p.map (·.1)).tokens) ++ .mark .arrow :: tokens)
      (.lambda isAsync (parameters.map (·.map (·.2))) body)

end TypedHub.CSharp
