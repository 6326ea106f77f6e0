import TypedHub.CSharp.StringLiteral

/-!
# Expressions and their text

The expressions that stubs are made of, and how they are written. Names, type names and literals are
stored as they are written; strings are escaped when they are written.

## Parentheses

An operand of a member access, a call, a null-conditional invocation or an await, and the left side
of `??`, is put between parentheses if it binds looser than member access (`Expr.isLoose`). The
right side of `??` needs them only around an assignment or a lambda, because `??` is right
associative.
-/

namespace TypedHub.CSharp

mutual

/-- An expression. -/
inductive Expr where
  /-- A name or a dotted path. -/
  | name (text : String)
  /-- A literal that is not a string, as it is written. -/
  | literal (text : String)
  /-- A string literal, given by its value. -/
  | str (value : String)
  | this
  /-- The default value of whatever type is asked for, without a nullability warning. -/
  | defaultValue
  | member (target : Expr) (memberName : String)
  | call (callee : Expr) (typeArguments : List String) (arguments : List Expr)
  /-- Invokes a delegate unless it is null. -/
  | invokeIfSet (target : Expr) (arguments : List Expr)
  | await (operand : Expr)
  /-- The left side, or the right side where the left one is null. -/
  | coalesce (left right : Expr)
  /-- Evaluates an expression and drops its value. -/
  | discard (value : Expr)
  | lambda (isAsync : Bool) (parameters : List Param) (body : Expr)

/-- A parameter of a method, constructor, delegate or lambda. -/
structure Param where
  isParams : Bool
  type : String
  name : String
  default? : Option Expr

end

/-- Whether an expression binds looser than member access. -/
def Expr.isLoose : Expr → Bool
  | await _ | coalesce _ _ | discard _ | lambda _ _ _ => true
  | _ => false

/-- Whether an expression binds looser than `??`. -/
def Expr.isAssignment : Expr → Bool
  | discard _ | lambda _ _ _ => true
  | _ => false

/-- A text between parentheses if there is need for them. -/
def parenthesized (needed : Bool) (text : String) : String :=
  if needed then "(" ++ text ++ ")" else text

/-- Type arguments between angle brackets; without any there are no brackets. -/
def typeArgumentText : List String → String
  | [] => ""
  | arguments => "<" ++ ", ".intercalate arguments ++ ">"

mutual

/-- The text of an expression. -/
def Expr.text : Expr → String
  | .name text => text
  | .literal text => text
  | .str value => stringLiteral value
  | .this => "this"
  | .defaultValue => "default!"
  | .member target memberName => parenthesized target.isLoose target.text ++ "." ++ memberName
  | .call callee typeArguments arguments =>
    parenthesized callee.isLoose callee.text ++ typeArgumentText typeArguments ++
      "(" ++ ", ".intercalate (exprTexts arguments) ++ ")"
  | .invokeIfSet target arguments =>
    parenthesized target.isLoose target.text ++
      "?.Invoke(" ++ ", ".intercalate (exprTexts arguments) ++ ")"
  | .await operand => "await " ++ parenthesized operand.isLoose operand.text
  | .coalesce left right =>
    parenthesized left.isLoose left.text ++ " ?? " ++ parenthesized right.isAssignment right.text
  | .discard value => "_ = " ++ value.text
  | .lambda isAsync parameters body =>
    (if isAsync then "async " else "") ++
      "(" ++ ", ".intercalate (paramTexts parameters) ++ ") => " ++ body.text

/-- The texts of expressions, one by one. -/
def exprTexts : List Expr → List String
  | [] => []
  | e :: rest => e.text :: exprTexts rest

/-- The text of a parameter. -/
def Param.text : Param → String
  | ⟨isParams, type, name, default?⟩ =>
    (if isParams then "params " else "") ++ type ++ " " ++ name ++ defaultText default?

/-- The texts of parameters, one by one. -/
def paramTexts : List Param → List String
  | [] => []
  | p :: rest => p.text :: paramTexts rest

/-- The default of a parameter behind an equals sign, if it has one. -/
def defaultText : Option Expr → String
  | none => ""
  | some value => " = " ++ value.text

end

/-- The texts of parameters, separated by commas. -/
def paramList (parameters : List Param) : String := ", ".intercalate (paramTexts parameters)

namespace Expr

/-- A call of a named function without type arguments. -/
def callName (callee : String) (arguments : List Expr) : Expr := call (name callee) [] arguments

/-- A call of a method of `target` without arguments. -/
def callMethod (target : Expr) (method : String) : Expr := call (member target method) [] []

end Expr

end TypedHub.CSharp
