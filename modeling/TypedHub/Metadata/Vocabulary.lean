import TypedHub.Metadata.Basic

/-!
# The words for kinds and accessibilities

The words by which metadata names the kind and the accessibility of a type. A word that is not in
the vocabulary means the last constructor of the type, whose own word is one of those.
-/

namespace TypedHub.Metadata

def TypeKind.word : TypeKind → String
  | classType => "class"
  | interfaceType => "interface"
  | structType => "struct"
  | enumType => "enum"
  | delegateType => "delegate"
  | other => "other"

def TypeKind.all : List TypeKind :=
  [classType, interfaceType, structType, enumType, delegateType]

/-- The kind that a word means. -/
def TypeKind.ofWord (word : String) : TypeKind :=
  (TypeKind.all.find? (·.word = word)).getD other

theorem TypeKind.ofWord_word (kind : TypeKind) : ofWord kind.word = kind := by
  cases kind <;> decide

def Accessibility.word : Accessibility → String
  | isPublic => "public"
  | isInternal => "internal"
  | isProtected => "protected"
  | protectedOrInternal => "protected_or_internal"
  | protectedAndInternal => "protected_and_internal"
  | isPrivate => "private"
  | notApplicable => "not_applicable"

def Accessibility.all : List Accessibility :=
  [isPublic, isInternal, isProtected, protectedOrInternal, protectedAndInternal, isPrivate]

/-- The accessibility that a word means. -/
def Accessibility.ofWord (word : String) : Accessibility :=
  (Accessibility.all.find? (·.word = word)).getD notApplicable

theorem Accessibility.ofWord_word (accessibility : Accessibility) :
    ofWord accessibility.word = accessibility := by
  cases accessibility <;> decide

end TypedHub.Metadata
