/-!
# Indented lines

The lines of a source file as a tree: lines, blank lines, and groups of lines that stand one level
deeper. Writing a tree gives its text; a level is four blanks wide. A tree may also ask for the
width of the indentation at a place, and the answers are collected in order.
-/

namespace TypedHub.CSharp

/-- A step in the writing of a text. -/
inductive Layout where
  /-- A line at the current indentation; an empty one is not indented. -/
  | line (text : String)
  /-- An empty line. -/
  | blank
  /-- Asks for the width of the current indentation. -/
  | width
  /-- A line that ends with an opening brace, steps one level deeper, and a line with the closing
  brace. -/
  | block (header : String) (body : List Layout)
  /-- Steps one level deeper. -/
  | indented (body : List Layout)

/-- The blanks of one level. -/
def levelWidth : Nat := 4

/-- The width of the indentation at a level. -/
def indentWidth (level : Nat) : Nat := levelWidth * level

/-- A line at the given level, with its line feed. -/
def lineText (level : Nat) (text : String) : String :=
  if text = "" then "\n"
  else String.ofList (List.replicate (indentWidth level) ' ') ++ text ++ "\n"

/-- What writing gives: a text, and the widths that were asked for. -/
structure Written where
  text : String
  widths : List Nat
  deriving DecidableEq

instance : Append Written := ⟨fun a b => ⟨a.text ++ b.text, a.widths ++ b.widths⟩⟩

/-- A line as all that is written. -/
def Written.line (level : Nat) (text : String) : Written := ⟨lineText level text, []⟩

mutual

/-- What a step writes at the given level. -/
def Layout.write (level : Nat) : Layout → Written
  | .line text => .line level text
  | .blank => ⟨"\n", []⟩
  | .width => ⟨"", [indentWidth level]⟩
  | .block header body =>
    .line level (header ++ " \x7b") ++ writeAll (level + 1) body ++ .line level "\x7d"
  | .indented body => writeAll (level + 1) body

/-- What steps write one after the other. -/
def writeAll (level : Nat) : List Layout → Written
  | [] => ⟨"", []⟩
  | step :: rest => step.write level ++ writeAll level rest

end

end TypedHub.CSharp
