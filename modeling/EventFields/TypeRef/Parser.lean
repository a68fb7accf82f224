import EventFields.Text.Blank
import EventFields.TypeRef.Basic

/-!
# Reading type references

A type is a name, which is a run of characters other than `<`, `>` and `,`
with the blanks around it removed, optionally followed by arguments in angle
brackets. Blanks may follow an argument and the whole type.

Readers take a list of characters and return what they read together with the
characters left, which are fewer than before; that is why the recursion ends.
-/

namespace EventFields

/-- Why a text is not a type. -/
inductive TypeError where
  /-- A type, or one of its arguments, has no name. -/
  | emptyName (input : String)
  /-- A bracket is not closed, or an argument is not followed by `,` or `>`. -/
  | unbalanced (input : String)
  /-- The text goes on after a complete type. -/
  | trailingInput (input rest : String)
  deriving Repr, DecidableEq

namespace TypeError

/-- The wording of an error. -/
def message : TypeError → String
  | emptyName input => "missing type name in `" ++ input ++ "`"
  | unbalanced input => "unbalanced type arguments in `" ++ input ++ "`"
  | trailingInput input rest =>
      "unexpected `" ++ rest ++ "` after type in `" ++ input ++ "`"

end TypeError

namespace TypeRef

/-- What can go wrong inside a type, wherever it stands. -/
inductive Fault where
  | emptyName
  | unbalanced
  deriving Repr, DecidableEq

/-- The fault, reported for the whole text that was read. -/
def Fault.toError (input : String) : Fault → TypeError
  | emptyName => .emptyName input
  | unbalanced => .unbalanced input

/-- What a reader took from the front of `input`, and what it left. -/
structure Parsed (α : Type) (input : List Char) where
  value : α
  rest : List Char
  rest_lt : rest.length < input.length
  deriving Repr

/-- Whether a character ends a name. -/
def isDelimiter (c : Char) : Bool :=
  c = '<' || c = '>' || c = ','

/-- The run of characters up to the first delimiter. -/
def nameRun (input : List Char) : List Char :=
  input.takeWhile fun c => !isDelimiter c

/-- What follows the run of characters up to the first delimiter. -/
def afterName (input : List Char) : List Char :=
  input.dropWhile fun c => !isDelimiter c

theorem nameRun_append_afterName (input : List Char) :
    nameRun input ++ afterName input = input :=
  List.takeWhile_append_dropWhile

theorem length_afterName_lt {input : List Char} (named : Text.trim (nameRun input) ≠ []) :
    (afterName input).length < input.length := by
  have nonempty : 0 < (nameRun input).length := by
    cases run : nameRun input with
    | nil => simp [run] at named
    | cons => simp
  have total := congrArg List.length (nameRun_append_afterName input)
  simp only [List.length_append] at total
  omega

mutual

/-- Reads one type, up to its last character. -/
def readType (input : List Char) : Except Fault (Parsed TypeRef input) :=
  if named : Text.trim (nameRun input) ≠ [] then
    have shorter := length_afterName_lt named
    let name := String.ofList (Text.trim (nameRun input))
    match after : afterName input with
    | '<' :: inner =>
        have inner_lt : inner.length < input.length := by
          rw [after, List.length_cons] at shorter
          omega
        match readArguments inner with
        | .error fault => .error fault
        | .ok arguments =>
            .ok ⟨mk name arguments.value, arguments.rest,
              Nat.lt_trans arguments.rest_lt inner_lt⟩
    | rest => .ok ⟨mk name [], rest, after ▸ shorter⟩
  else
    .error .emptyName
termination_by 2 * input.length

/-- Reads the arguments after an opening bracket, up to the closing one. -/
def readArguments (input : List Char) : Except Fault (Parsed (List TypeRef) input) :=
  match readType input with
  | .error fault => .error fault
  | .ok first =>
      have first_lt := first.rest_lt
      have trimmed_le := Text.length_trimStart_le first.rest
      match after : Text.trimStart first.rest with
      | ',' :: following =>
          have following_lt : following.length < input.length := by
            rw [after, List.length_cons] at trimmed_le
            omega
          match readArguments following with
          | .error fault => .error fault
          | .ok others =>
              .ok ⟨first.value :: others.value, others.rest,
                Nat.lt_trans others.rest_lt following_lt⟩
      | '>' :: rest =>
          .ok ⟨[first.value], rest, by
            rw [after, List.length_cons] at trimmed_le
            omega⟩
      | _ => .error .unbalanced
termination_by 2 * input.length + 1

end

/-- Reads a text that consists of one type and blanks after it. -/
def parse (input : String) : Except TypeError TypeRef :=
  match readType input.toList with
  | .error fault => .error (fault.toError input)
  | .ok type =>
      let rest := Text.trim type.rest
      if rest = [] then
        .ok type.value
      else
        .error (.trailingInput input (String.ofList rest))

end TypeRef

end EventFields
