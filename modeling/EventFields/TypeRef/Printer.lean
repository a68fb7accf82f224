import EventFields.TypeRef.Basic

/-!
# The printed form of a type reference

A reference prints as its name, followed by its arguments in angle brackets if
it has any. Arguments are separated by a comma and one space.
-/

namespace EventFields.TypeRef

mutual

/-- The printed form, character by character. -/
def chars : TypeRef → List Char
  | mk name arguments => name.toList ++ argumentChars arguments

/-- The bracketed arguments, or nothing. -/
def argumentChars : List TypeRef → List Char
  | [] => []
  | first :: rest => '<' :: (first.chars ++ followingChars rest)

/-- The arguments after the first one, up to the closing bracket. -/
def followingChars : List TypeRef → List Char
  | [] => ['>']
  | next :: rest => ',' :: ' ' :: (next.chars ++ followingChars rest)

end

/-- The printed form of a reference. -/
def text (type : TypeRef) : String :=
  String.ofList type.chars

end EventFields.TypeRef
