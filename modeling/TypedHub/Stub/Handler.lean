import TypedHub.Unicode.Uppercase

/-!
# Names of handlers

An incoming method is handled by a delegate that is named after it: the first letter of the method
in its uppercase form, the rest as it is, and then the word Handler.
-/

namespace TypedHub

def handlerChars : List Char → List Char
  | [] => "Handler".toList
  | first :: rest => Unicode.uppercase first ++ rest ++ "Handler".toList

/-- The name of the delegate for a method. -/
def handlerName (method : String) : String := String.ofList (handlerChars method.toList)

end TypedHub
