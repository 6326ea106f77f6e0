import TypedHub.Json.Pointer
import TypedHub.Metadata.Decode

/-!
# Metadata documents

A document is a text that holds a compilation, either as a whole or in a part named by a pointer.
Without a pointer the text is decoded in one pass. With one, the text is first parsed completely,
then the part is looked up and decoded.
-/

namespace TypedHub.Metadata

/-- Why a document gives no compilation. `origin` says where the document comes from. -/
inductive DocumentError where
  /-- The text, or the part that the pointer names, is no compilation. -/
  | undecoded (origin : String) (fault : Json.Fault)
  /-- A text into which a pointer should lead is no JSON value. -/
  | unparsed (origin : String) (cause : Json.Cause)
  /-- The pointer leads nowhere. -/
  | missingPart (origin pointer : String)

def DocumentError.message : DocumentError → String
  | undecoded origin fault => "invalid host metadata (" ++ origin ++ "): " ++ fault.message
  | unparsed origin cause => "invalid host metadata (" ++ origin ++ "): " ++ cause.message
  | missingPart origin pointer => "JSON pointer " ++ pointer ++ " selects nothing in " ++ origin

/-- The compilation that the part of a text holds. -/
def Compilation.ofPart (origin pointer text : String) : Except DocumentError Compilation :=
  match Json.parse Json.maxDepth text with
  | .error fault => .error (.unparsed origin fault.cause)
  | .ok root =>
    match root.at? pointer with
    | none => .error (.missingPart origin pointer)
    | some part =>
      match Compilation.reader.ofJson part with
      | .error fault => .error (.undecoded origin fault)
      | .ok compilation => .ok compilation

/-- The compilation of a document. -/
def Compilation.ofDocument (origin : String) (pointer : Option String) (text : String) :
    Except DocumentError Compilation :=
  match pointer with
  | some pointer => ofPart origin pointer text
  | none =>
    match Compilation.reader.readText text with
    | .error fault => .error (.undecoded origin fault)
    | .ok compilation => .ok compilation

end TypedHub.Metadata
