import EventFields.Json.Basic
import EventFields.Json.Token

/-!
# JSON text as far as it can be read

A draft is what a reader who goes through a text from left to right meets: the
values of the text, and the places where it cannot be read. A fatal flaw stops
every reader; a skippable one stops only those who ask for the value. A value
that is at hand as a whole is a draft without flaws.
-/

namespace EventFields.Json

/-- How a place that cannot be read affects readers. -/
inductive Flaw where
  /-- Only readers who ask for the value stop. -/
  | skippable
  /-- The text breaks off for every reader. -/
  | fatal
  deriving Repr, DecidableEq

/-- How a list of elements or members ends. -/
inductive Ending where
  /-- The list belongs to a value that is at hand as a whole. -/
  | complete
  /-- The closing bracket follows in the text. -/
  | closed
  /-- The list cannot be read further. -/
  | flawed (flaw : Flaw)
  deriving Repr, DecidableEq

/-- A JSON text as far as it can be read. -/
inductive Draft where
  | null
  | bool (value : Bool)
  | int (value : Int)
  | float (bits : UInt64)
  | str (text : String)
  | arr (elements : List Draft) (ending : Ending)
  | obj (members : List (String × Draft)) (ending : Ending)
  /-- A value that cannot be read. -/
  | unreadable (flaw : Flaw)
  deriving Repr

mutual

/-- A value as a draft without flaws. -/
def draft : Json → Draft
  | null => .null
  | bool value => .bool value
  | int value => .int value
  | float bits => .float bits
  | str text => .str text
  | arr elements => .arr (draftElements elements) .complete
  | obj members => .obj (draftMembers members) .complete

/-- The elements of an array as drafts. -/
def draftElements : List Json → List Draft
  | [] => []
  | element :: rest => element.draft :: draftElements rest

/-- The members of an object as drafts. -/
def draftMembers : List (String × Json) → List (String × Draft)
  | [] => []
  | (key, value) :: rest => (key, value.draft) :: draftMembers rest

end

namespace Draft

/-- Whether a list that ends like this can be read to its end. -/
def Ending.isSound : Ending → Bool
  | .complete | .closed => true
  | .flawed _ => false

mutual

/-- The value of a draft without flaws. -/
def value? : Draft → Option Json
  | null => some .null
  | bool value => some (.bool value)
  | int value => some (.int value)
  | float bits => some (.float bits)
  | str text => some (.str text)
  | arr elements ending =>
      if Ending.isSound ending then (elementValues? elements).map .arr else none
  | obj members ending =>
      if Ending.isSound ending then (memberValues? members).map .obj else none
  | unreadable _ => none

/-- The values of elements without flaws. -/
def elementValues? : List Draft → Option (List Json)
  | [] => some []
  | element :: rest =>
      match element.value?, elementValues? rest with
      | some value, some values => some (value :: values)
      | _, _ => none

/-- The values of members without flaws. -/
def memberValues? : List (String × Draft) → Option (List (String × Json))
  | [] => some []
  | (key, member) :: rest =>
      match member.value?, memberValues? rest with
      | some value, some values => some ((key, value) :: values)
      | _, _ => none

end

mutual

/-- Whether a reader can go past a draft without asking for its value. -/
def canSkip : Draft → Bool
  | arr elements ending => canSkipElements elements && ending != .flawed .fatal
  | obj members ending => canSkipMembers members && ending != .flawed .fatal
  | unreadable flaw => flaw = .skippable
  | _ => true

/-- Whether a reader can go past all elements. -/
def canSkipElements : List Draft → Bool
  | [] => true
  | element :: rest => element.canSkip && canSkipElements rest

/-- Whether a reader can go past all members. -/
def canSkipMembers : List (String × Draft) → Bool
  | [] => true
  | (_, member) :: rest => member.canSkip && canSkipMembers rest

end

/-- An array or an object that has been opened and not yet closed. What it
holds so far is listed from the last to the first. -/
inductive Frame where
  | array (elements : List Draft)
  /-- An object, with the key whose value comes next. In a spoiled object there
  has been a key that cannot be read; what follows is no longer kept. -/
  | object (members : List (String × Draft)) (key? : Option String) (spoiled : Bool)

/-- What may come next. -/
inductive Phase where
  /-- A value. -/
  | value
  /-- A value or the end of the array. -/
  | firstElement
  /-- A key or the end of the object. -/
  | firstKey
  /-- A key. -/
  | key
  /-- The colon after a key. -/
  | colon
  /-- A comma or the end of an array or object. -/
  | next
  deriving DecidableEq

/-- A text that is being read, or has been read. -/
inductive Progress where
  /-- The open frames, the innermost first. -/
  | reading (frames : List Frame) (phase : Phase)
  /-- The draft of the text, and whether more text follows it. -/
  | finished (draft : Draft) (trailing : Bool)

/-- Arrays and objects nested this deep, or deeper, cannot be read. -/
def depthLimit : Nat := 128

/-- An array or object inside the given frames, unless it is nested too deep. -/
def nested (outer : List Frame) (flaw : Flaw) (draft : Draft) : Draft :=
  if outer.length + 1 < depthLimit then draft else unreadable flaw

/-- The draft of a text that breaks off inside the given frames, after the part
`inner?` that was begun last. -/
def abandon : List Frame → (inner? : Option Draft) → Draft
  | [], inner? => inner?.getD (unreadable .fatal)
  | .array elements :: outer, inner? =>
      abandon outer (some (nested outer .fatal
        (arr (inner?.toList ++ elements).reverse (.flawed .fatal))))
  | .object members key? spoiled :: outer, inner? =>
      let begun :=
        match key?, spoiled with
        | some key, false => [(key, inner?.getD (unreadable .fatal))]
        | _, _ => []
      abandon outer (some (nested outer .fatal
        (obj (begun ++ members).reverse (.flawed .fatal))))

/-- The progress after a value has been read inside the given frames. -/
def supply (draft : Draft) : List Frame → Progress
  | [] => .finished draft false
  | .array elements :: outer => .reading (.array (draft :: elements) :: outer) .next
  | .object members (some key) false :: outer =>
      .reading (.object ((key, draft) :: members) none false :: outer) .next
  | .object members _ spoiled :: outer =>
      .reading (.object members none spoiled :: outer) .next

/-- The progress after the innermost frame has been closed. -/
def close : List Frame → Progress
  | [] => .finished (unreadable .fatal) true
  | .array elements :: outer =>
      supply (nested outer .skippable (arr elements.reverse .closed)) outer
  | .object members _ spoiled :: outer =>
      let ending := if spoiled then Ending.flawed .skippable else .closed
      supply (nested outer .skippable (obj members.reverse ending)) outer

/-- The progress after a token where a value may stand. -/
def stepValue (frames : List Frame) : Token → Progress
  | .null => supply null frames
  | .bool value => supply (bool value) frames
  | .int value => supply (int value) frames
  | .float bits => supply (float bits) frames
  | .str text => supply (str text) frames
  | .unboundedNumber | .unpairedString => supply (unreadable .skippable) frames
  | .openBracket => .reading (.array [] :: frames) .firstElement
  | .openBrace => .reading (.object [] none false :: frames) .firstKey
  | _ => .finished (abandon frames none) true

/-- The progress after a token where a key may stand. -/
def stepKey (frames : List Frame) (token : Token) : Progress :=
  match frames, token with
  | .object members _ spoiled :: outer, .str key =>
      .reading (.object members (some key) spoiled :: outer) .colon
  | .object members _ _ :: outer, .unpairedString =>
      .reading (.object members none true :: outer) .colon
  | _, _ => .finished (abandon frames none) true

/-- The progress after a token where a comma or an end may stand. -/
def stepNext (frames : List Frame) (token : Token) : Progress :=
  match frames, token with
  | .array _ :: _, .comma => .reading frames .value
  | .array _ :: _, .closeBracket => close frames
  | .object _ _ _ :: _, .comma => .reading frames .key
  | .object _ _ _ :: _, .closeBrace => close frames
  | _, _ => .finished (abandon frames none) true

/-- The progress after one more token. -/
def step (progress : Progress) (token : Token) : Progress :=
  match progress with
  | .finished draft _ => .finished draft true
  | .reading frames .value => stepValue frames token
  | .reading frames .firstElement =>
      if token = .closeBracket then close frames else stepValue frames token
  | .reading frames .firstKey =>
      if token = .closeBrace then close frames else stepKey frames token
  | .reading frames .key => stepKey frames token
  | .reading frames .colon =>
      if token = .colon then .reading frames .value
      else .finished (abandon frames none) true
  | .reading frames .next => stepNext frames token

/-- The draft of a text, and whether anything but blanks follows it. -/
def ofText (text : String) : Draft × Bool :=
  match (Token.scan text.toList).foldl step (.reading [] .value) with
  | .finished draft trailing => (draft, trailing)
  | .reading frames _ => (abandon frames none, false)

end Draft

/-- The value that a text stands for. A key that is written again in an object
takes the later value. -/
def parse? (text : String) : Option Json :=
  match Draft.ofText text with
  | (draft, false) => draft.value?.map distinct
  | (_, true) => none

end EventFields.Json
