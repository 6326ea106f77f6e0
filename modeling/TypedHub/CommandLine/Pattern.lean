import TypedHub.CommandLine.Path

/-!
# Patterns for paths

A pattern is a path in which `?` stands for one character, `*` for any number of them, `[abc]` and
`[!abc]` for one character of a set or outside of it, where `a-z` is a range, and `**` as a whole
component for any number of directories, none included. There are no alternatives: braces stand for
themselves. A path is compared with a pattern component by component.
-/

namespace TypedHub.CommandLine

/-- Part of a set of characters. -/
inductive CharSpan where
  | one (c : Char)
  | range (first last : Char)

def CharSpan.contains (c : Char) : CharSpan → Bool
  | one d => c = d
  | range first last => first ≤ c && c ≤ last

/-- The spans of the text between brackets. -/
def charSpans : List Char → List CharSpan
  | first :: '-' :: last :: rest => .range first last :: charSpans rest
  | c :: rest => .one c :: charSpans rest
  | [] => []

/-- A part of a pattern. -/
inductive Token where
  | char (c : Char)
  | anyChar
  | anyText
  | anyDirectories
  | oneOf (spans : List CharSpan)
  | noneOf (spans : List CharSpan)

/-- What is wrong with a pattern, and at which character. -/
inductive PatternError where
  /-- A bracket is not closed. -/
  | unclosedSet (position : Nat)
  /-- More than two stars. -/
  | tooManyStars (position : Nat)
  /-- Two stars that are not a whole component. -/
  | partialDirectories (position : Nat)
  deriving DecidableEq

def PatternError.message (error : PatternError) : String :=
  let (position, text) : Nat × String :=
    match error with
    | unclosedSet position => (position, "invalid range pattern")
    | tooManyStars position => (position, "wildcards are either regular `*` or recursive `**`")
    | partialDirectories position =>
      (position, "recursive wildcards must form a single path component")
  "Pattern syntax error near position " ++ toString position ++ ": " ++ text

/-- The text of a set and what follows its closing bracket. The first character belongs to the set
even if it is a closing bracket itself. -/
def setText? (text : List Char) : Option (List Char × List Char) :=
  match text with
  | [] => none
  | c :: more =>
    match more.dropWhile (· ≠ ']') with
    | [] => none
    | _ :: rest => some (c :: more.takeWhile (· ≠ ']'), rest)

/-- The token of a set and what follows it, from behind its opening bracket. -/
def setToken? (text : List Char) : Option (Token × List Char) :=
  match text with
  | '!' :: more => (setText? more).map fun (set, rest) => (.noneOf (charSpans set), rest)
  | text => (setText? text).map fun (set, rest) => (.oneOf (charSpans set), rest)

/-- What follows the token of a set is shorter than the text. -/
theorem length_lt_of_setToken? {text rest : List Char} {token : Token}
    (h : setToken? text = some (token, rest)) : rest.length ≤ text.length := by
  -- The exclamation mark apart, the text of the set decides.
  have key : ∀ {text set rest : List Char}, setText? text = some (set, rest) →
      rest.length ≤ text.length := by
    intro text set rest h
    cases text with
    | nil => simp [setText?] at h
    | cons c more =>
      simp only [setText?] at h
      have le := (List.dropWhile_sublist (· ≠ ']') (l := more)).length_le
      cases hd : more.dropWhile (· ≠ ']') with
      | nil => rw [hd] at h; simp at h
      | cons d others =>
        rw [hd] at h le
        simp only [Option.some.injEq, Prod.mk.injEq] at h
        simp only [List.length_cons] at le ⊢
        rw [← h.2]
        omega
  unfold setToken? at h
  split at h
  · simp only [Option.map_eq_some_iff, Prod.mk.injEq] at h
    obtain ⟨⟨set, rest'⟩, h, -, rfl⟩ := h
    have := key h
    simp only [List.length_cons]
    omega
  · simp only [Option.map_eq_some_iff, Prod.mk.injEq] at h
    obtain ⟨⟨set, rest'⟩, h, -, rfl⟩ := h
    exact key h

/-- The tokens of a pattern from a position on; `previous` is the character before it. -/
def tokens (position : Nat) (previous : Option Char) (text : List Char) :
    Except PatternError (List Token) :=
  match text with
  | [] => .ok []
  | '*' :: '*' :: '*' :: _ => .error (.tooManyStars (position + 2))
  | '*' :: '*' :: rest =>
    if position = 0 ∨ previous = some '/' then
      match rest with
      | [] => .ok [.anyDirectories]
      | '/' :: more => (tokens (position + 3) (some '/') more).map (.anyDirectories :: ·)
      | _ => .error (.partialDirectories (position + 2))
    else .error (.partialDirectories (position - 1))
  | '*' :: rest => (tokens (position + 1) (some '*') rest).map (.anyText :: ·)
  | '?' :: rest => (tokens (position + 1) (some '?') rest).map (.anyChar :: ·)
  | '[' :: rest =>
    match h : setToken? rest with
    | none => .error (.unclosedSet position)
    | some (token, more) =>
      have := length_lt_of_setToken? h
      (tokens (position + 1 + (rest.length - more.length)) (some ']') more).map (token :: ·)
  | c :: rest => (tokens (position + 1) (some c) rest).map (.char c :: ·)
termination_by text.length

/-- How tokens fit a name. -/
inductive Fit where
  | fits
  /-- They do not fit here, but may fit behind some more of the name. -/
  | differs
  /-- The name ends before the tokens do, and so it would behind any more of it. -/
  | ended
  deriving DecidableEq

/-- How the tokens of a component fit a name. A star takes as little as it can. Once the name has
ended too early, no star before takes more, which would only make the end come sooner. -/
def fit : List Token → List Char → Fit
  | [], [] => .fits
  | [], _ :: _ => .differs
  | .anyText :: rest, [] => fit rest []
  | .anyText :: rest, c :: name =>
    match fit rest (c :: name) with
    | .differs => fit (.anyText :: rest) name
    | result => result
  | .anyDirectories :: rest, name => fit rest name
  | _ :: _, [] => .ended
  | .char d :: rest, c :: name => if c = d then fit rest name else .differs
  | .anyChar :: rest, _ :: name => fit rest name
  | .oneOf spans :: rest, c :: name => if spans.any (·.contains c) then fit rest name else .differs
  | .noneOf spans :: rest, c :: name => if spans.any (·.contains c) then .differs else fit rest name
termination_by tokens name => tokens.length + name.length

/-- A component of a pattern. -/
inductive Component where
  /-- A name without wildcards. -/
  | literal (name : String)
  /-- Any number of directories. -/
  | directories
  | wild (tokens : List Token)

/-- The text of tokens that are all plain characters. -/
def literalText? : List Token → Option (List Char)
  | [] => some []
  | .char c :: rest => (literalText? rest).map (c :: ·)
  | _ :: _ => none

def Component.ofTokens (tokens : List Token) : Component :=
  match literalText? tokens, tokens with
  | some name, _ => literal (String.ofList name)
  | none, .anyDirectories :: _ => directories
  | none, _ => wild tokens

/-- Whether a component fits a name. -/
def Component.fits (name : String) : Component → Bool
  | literal text => text = name
  | directories => true
  | wild tokens => fit tokens name.toList = .fits

/-- A pattern, cut into its components. -/
structure Pattern where
  /-- Whether it starts at the root directory. -/
  isAbsolute : Bool
  components : List Component
  /-- Whether only directories are wanted: it ends with a slash. -/
  wantsDirectory : Bool

/-- Whether a text has a character that makes it a pattern. -/
def isPattern (text : String) : Bool := text.toList.any fun c => "*?[\x7b".toList.contains c

/-- Drops the last part of a text that has been cut at separators, if it is empty. -/
def dropEmptyLast (parts : List (List Char)) : List (List Char) :=
  if parts.getLast? = some [] then parts.dropLast else parts

/-- The pattern with the given text. It is read as a whole first, so that mistakes are reported at
their place in the text. -/
def Pattern.ofText (text : String) : Except PatternError Pattern := do
  let _ ← tokens 0 none text.toList
  let relative := text.toList.dropWhile (· = '/')
  let components ← (dropEmptyLast (Text.splitAt '/' relative)).mapM fun part => do
    .ok (Component.ofTokens (← tokens 0 none part))
  .ok
    { isAbsolute := CommandLine.isAbsolute text
      components := components
      wantsDirectory := endsWithSlash text }

end TypedHub.CommandLine
