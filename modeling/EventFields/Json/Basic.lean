/-!
# JSON values

Integers and floating point numbers are told apart. The members of an object
are kept in the order in which they are written.
-/

namespace EventFields

/-- A JSON value. Floating point numbers are given by their 64 bits. -/
inductive Json where
  | null
  | bool (value : Bool)
  | int (value : Int)
  | float (bits : UInt64)
  | str (text : String)
  | arr (elements : List Json)
  | obj (members : List (String × Json))
  deriving Repr

namespace Json

instance : Inhabited Json := ⟨null⟩

mutual

/-- Equality of values is decided kind by kind. -/
protected def decEq : (left right : Json) → Decidable (left = right)
  | null, null => .isTrue rfl
  | bool value, bool value' => decidable_of_iff (value = value') (by simp)
  | int value, int value' => decidable_of_iff (value = value') (by simp)
  | float bits, float bits' => decidable_of_iff (bits = bits') (by simp)
  | str text, str text' => decidable_of_iff (text = text') (by simp)
  | arr elements, arr elements' =>
      match Json.decEqElements elements elements' with
      | .isTrue same => .isTrue (by rw [same])
      | .isFalse differ => .isFalse fun equal => by
          injection equal with same
          exact differ same
  | obj members, obj members' =>
      match Json.decEqMembers members members' with
      | .isTrue same => .isTrue (by rw [same])
      | .isFalse differ => .isFalse fun equal => by
          injection equal with same
          exact differ same
  | null, bool _ | null, int _ | null, float _ | null, str _ | null, arr _ | null, obj _
  | bool _, null | bool _, int _ | bool _, float _ | bool _, str _ | bool _, arr _
  | bool _, obj _
  | int _, null | int _, bool _ | int _, float _ | int _, str _ | int _, arr _ | int _, obj _
  | float _, null | float _, bool _ | float _, int _ | float _, str _ | float _, arr _
  | float _, obj _
  | str _, null | str _, bool _ | str _, int _ | str _, float _ | str _, arr _ | str _, obj _
  | arr _, null | arr _, bool _ | arr _, int _ | arr _, float _ | arr _, str _ | arr _, obj _
  | obj _, null | obj _, bool _ | obj _, int _ | obj _, float _ | obj _, str _
  | obj _, arr _ => .isFalse nofun

/-- Equality of the elements of arrays. -/
protected def decEqElements : (left right : List Json) → Decidable (left = right)
  | [], [] => .isTrue rfl
  | [], _ :: _ => .isFalse nofun
  | _ :: _, [] => .isFalse nofun
  | head :: tail, head' :: tail' =>
      match Json.decEq head head' with
      | .isTrue sameHead =>
          match Json.decEqElements tail tail' with
          | .isTrue sameTail => .isTrue (by rw [sameHead, sameTail])
          | .isFalse differ => .isFalse fun equal => by
              injection equal with _ same
              exact differ same
      | .isFalse differ => .isFalse fun equal => by
          injection equal with same _
          exact differ same

/-- Equality of the members of objects, order included. -/
protected def decEqMembers : (left right : List (String × Json)) → Decidable (left = right)
  | [], [] => .isTrue rfl
  | [], _ :: _ => .isFalse nofun
  | _ :: _, [] => .isFalse nofun
  | (key, value) :: tail, (key', value') :: tail' =>
      if sameKey : key = key' then
        match Json.decEq value value' with
        | .isTrue sameValue =>
            match Json.decEqMembers tail tail' with
            | .isTrue sameTail => .isTrue (by rw [sameKey, sameValue, sameTail])
            | .isFalse differ => .isFalse fun equal => by
                injection equal with _ same
                exact differ same
        | .isFalse differ => .isFalse fun equal => by
            injection equal with same _
            injection same with _ same
            exact differ same
      else
        .isFalse fun equal => by
          injection equal with same _
          injection same with same _
          exact sameKey same

end

instance : DecidableEq Json := Json.decEq

/-- Writes a member: in place if its key is there already, else at the end. -/
def putMember (key : String) (value : Json) : List (String × Json) → List (String × Json)
  | [] => [(key, value)]
  | member :: rest =>
      if member.1 = key then (key, value) :: rest else member :: putMember key value rest

mutual

/-- The value in which each key of an object stands once, where it stood first,
with the value it was given last. -/
def distinct : Json → Json
  | arr elements => arr (distinctElements elements)
  | obj members => obj (distinctMembers members [])
  | null => null
  | bool value => bool value
  | int value => int value
  | float bits => float bits
  | str text => str text

/-- The elements of an array, each with distinct keys. -/
def distinctElements : List Json → List Json
  | [] => []
  | element :: rest => distinct element :: distinctElements rest

/-- Writes members one after the other into those written before. -/
def distinctMembers : List (String × Json) → List (String × Json) → List (String × Json)
  | [], written => written
  | (key, value) :: rest, written =>
      distinctMembers rest (putMember key (distinct value) written)

end

end Json

end EventFields
