/-!
# Type references

A reference names a type of the host language and lists its type arguments,
which are references themselves. Names are arbitrary strings here: what a name
must look like so that the printed form can be read again is a matter of
`EventFields.TypeRef.Parser`.
-/

namespace EventFields

/-- A reference to a type: its qualified name and its type arguments. -/
inductive TypeRef where
  | mk (name : String) (arguments : List TypeRef)
  deriving Repr

namespace TypeRef

/-- The qualified name of a reference. -/
def name : TypeRef → String
  | mk name _ => name

/-- The type arguments of a reference, in order. -/
def arguments : TypeRef → List TypeRef
  | mk _ arguments => arguments

/-- A reference without type arguments. -/
def plain (name : String) : TypeRef :=
  mk name []

/-- The type of a method that returns nothing. -/
def void : TypeRef :=
  plain "void"

instance : Inhabited TypeRef := ⟨void⟩

mutual

/-- Equality of references is decided name by name, through all arguments. -/
protected def decEq : (left right : TypeRef) → Decidable (left = right)
  | mk name arguments, mk name' arguments' =>
      if sameName : name = name' then
        match TypeRef.decEqList arguments arguments' with
        | .isTrue same => .isTrue (by rw [sameName, same])
        | .isFalse differ => .isFalse fun equal => by
            injection equal with _ same
            exact differ same
      else
        .isFalse fun equal => by
          injection equal with same _
          exact sameName same

/-- Equality of argument lists. -/
protected def decEqList : (left right : List TypeRef) → Decidable (left = right)
  | [], [] => .isTrue rfl
  | [], _ :: _ => .isFalse nofun
  | _ :: _, [] => .isFalse nofun
  | head :: tail, head' :: tail' =>
      match TypeRef.decEq head head' with
      | .isTrue sameHead =>
          match TypeRef.decEqList tail tail' with
          | .isTrue sameTail => .isTrue (by rw [sameHead, sameTail])
          | .isFalse differ => .isFalse fun equal => by
              injection equal with _ same
              exact differ same
      | .isFalse differ => .isFalse fun equal => by
          injection equal with same _
          exact differ same

end

instance : DecidableEq TypeRef := TypeRef.decEq

/-- The characters of a text after its last dot, or all of them. -/
def lastSegment (text : List Char) : List Char :=
  (text.reverse.takeWhile (· ≠ '.')).reverse

/-- The last dot-separated segment of the qualified name. -/
def simpleName (type : TypeRef) : String :=
  String.ofList (lastSegment type.name.toList)

end TypeRef

end EventFields
