import EventFields.Toml.Text

/-!
# Numbers, dates and times of TOML

Underscores may stand between digits. Integers have to fit into 64 bits. A
number that starts like a date or a time is one.
-/

namespace EventFields.Toml

/-- Digits with single underscores between them: the digits, and the rest. -/
def readDigits (isDigit : Char → Bool) : (first : Bool) → Reader (List Char)
  | _, [] => none
  | first, '_' :: c :: rest =>
      if !first && isDigit c then
        match readDigits isDigit false rest with
        | some (digits, rest) => some (c :: digits, rest)
        | none => some ([c], rest)
      else if first then none
      else some ([], '_' :: c :: rest)
  | first, c :: rest =>
      if isDigit c then
        match readDigits isDigit false rest with
        | some (digits, rest) => some (c :: digits, rest)
        | none => some ([c], rest)
      else if first then none
      else some ([], c :: rest)

/-- The value of digits in a base. -/
def digitsValue (base : Nat) (digits : List Char) : Nat :=
  digits.foldl (fun value digit => value * base + (Text.hexDigit? digit).getD 0) 0

/-- An integer of 64 bits. -/
def word? (value : Int) : Option Value :=
  if -(Nat.pow 2 63) ≤ value && value < Nat.pow 2 63 then some (.integer value) else none

/-- Reads an integer in a base other than ten, after its mark. -/
def readBased (base : Nat) (input : List Char) : Option (Value × List Char) :=
  let isDigit := fun c => (Text.hexDigit? c).any (· < base)
  match readDigits isDigit true input with
  | some (digits, rest) => (word? (digitsValue base digits)).map (·, rest)
  | none => none

/-- The digits after a point. -/
def readDecimals : Reader (List Char)
  | '.' :: rest => readDigits Char.isDigit true rest
  | rest => some ([], rest)

/-- The digits of an exponent after its sign. -/
def readExponentDigits (negative : Bool) (input : List Char) :
    Option ((Bool × List Char) × List Char) :=
  (readDigits Char.isDigit true input).map fun (digits, rest) => ((negative, digits), rest)

/-- The exponent after its letter: whether it is negative, and its digits. -/
def readExponent : Reader (Bool × List Char)
  | '+' :: rest => readExponentDigits false rest
  | '-' :: rest => readExponentDigits true rest
  | rest => readExponentDigits false rest

/-- Exponents of ten beyond which a double is infinite or zero. -/
def exponentLimit : Nat := 400

/-- The double nearest to `digits · 10 ^ exponent`. -/
def nearestDouble (digits : List Char) (exponent : Int) : Float :=
  let significant := digits.dropWhile (· = '0')
  let size : Int := significant.length
  if significant.isEmpty || size + exponent < -exponentLimit then 0
  else if exponentLimit < size + exponent then 1.0 / 0.0
  else Float.ofScientific (digitsValue 10 significant) (exponent < 0) exponent.natAbs

/-- A double, unless it is infinite and positive. -/
def double? (negative : Bool) (magnitude : Float) : Option Value :=
  if magnitude.isInf && !negative then none
  else some (.float (if negative then -magnitude else magnitude).toBits)

/-- Reads a decimal number after its sign. -/
def readDecimal (negative : Bool) (input : List Char) : Option (Value × List Char) := do
  let (whole, rest) ← readDigits Char.isDigit true input
  if whole.head? = some '0' && whole.length ≠ 1 then
    failure
  let isFloat :=
    match rest with
    | '.' :: _ | 'e' :: _ | 'E' :: _ => true
    | _ => false
  if isFloat then
    let (decimals, rest) ← readDecimals rest
    let ((negativeExponent, exponent), rest) ←
      match rest with
      | 'e' :: rest | 'E' :: rest => readExponent rest
      | rest => some ((false, []), rest)
    let shift : Int := digitsValue 10 exponent
    let magnitude := nearestDouble (whole ++ decimals)
      ((if negativeExponent then -shift else shift) - decimals.length)
    return (← double? negative magnitude, rest)
  else
    let value : Int := digitsValue 10 whole
    return (← word? (if negative then -value else value), rest)

/-- Reads a number after its sign, which may also be infinite or undefined. -/
def readSigned (negative : Bool) : Reader Value
  | 'i' :: 'n' :: 'f' :: rest =>
      let infinity : Float := 1.0 / 0.0
      some (.float (if negative then -infinity else infinity).toBits, rest)
  | 'n' :: 'a' :: 'n' :: rest => some (.float (0.0 / 0.0 : Float).toBits, rest)
  | rest => readDecimal negative rest

/-- Reads a number of exactly `width` digits. -/
def readFixed (width : Nat) (input : List Char) : Option (Nat × List Char) :=
  let digits := input.take width
  if digits.length = width && digits.all Char.isDigit then
    some (digitsValue 10 digits, input.drop width)
  else
    none

/-- The number of days of a month. -/
def daysOfMonth (year month : Nat) : Nat :=
  if month = 2 then
    if year % 4 = 0 && (year % 100 ≠ 0 || year % 400 = 0) then 29 else 28
  else if month = 4 || month = 6 || month = 9 || month = 11 then 30
  else 31

/-- The text after a character. -/
def expect? (expected : Char) : List Char → Option (List Char)
  | [] => none
  | c :: rest => if c = expected then some rest else none

/-- The text after a date. -/
def skipDate? (input : List Char) : Option (List Char) := do
  let (year, rest) ← readFixed 4 input
  let (month, rest) ← readFixed 2 (← expect? '-' rest)
  let (day, rest) ← readFixed 2 (← expect? '-' rest)
  if 1 ≤ month && month ≤ 12 && 1 ≤ day && day ≤ daysOfMonth year month then
    return rest
  failure

/-- The text after a time of day. -/
def skipTime? (input : List Char) : Option (List Char) := do
  let (hour, rest) ← readFixed 2 input
  let (minute, rest) ← readFixed 2 (← expect? ':' rest)
  let (second, rest) ← readFixed 2 (← expect? ':' rest)
  if 23 < hour || 59 < minute || 60 < second then
    failure
  match rest with
  | '.' :: c :: more => if c.isDigit then return more.dropWhile Char.isDigit else return rest
  | _ => return rest

/-- The text after an offset from universal time, which may be missing. -/
def skipOffset? (input : List Char) : Option (List Char) :=
  match input with
  | 'Z' :: rest | 'z' :: rest => some rest
  | '+' :: rest | '-' :: rest => do
      let (hour, rest) ← readFixed 2 rest
      let (minute, rest) ← readFixed 2 (← expect? ':' rest)
      if hour ≤ 23 && minute ≤ 59 then return rest
      failure
  | _ => some input

/-- Whether a text starts like a date, or like a time. -/
def startsLikeDate (input : List Char) : Bool :=
  (readFixed 4 input).any fun (_, rest) => rest.head? = some '-'

@[inherit_doc startsLikeDate]
def startsLikeTime (input : List Char) : Bool :=
  (readFixed 2 input).any fun (_, rest) => rest.head? = some ':'

/-- The text after a date that a time may follow, or after a time. -/
def skipDateTime? (input : List Char) : Option (List Char) :=
  if startsLikeDate input then
    match skipDate? input with
    | none => none
    | some rest =>
        match rest with
        | 'T' :: time | 't' :: time => (skipTime? time).bind skipOffset?
        | ' ' :: time =>
            if startsLikeTime time then (skipTime? time).bind skipOffset? else some rest
        | _ => some rest
  else
    skipTime? input

/-- Reads a number, a date or a time. -/
def readNumber (input : List Char) : Option (Value × List Char) :=
  match input with
  | '0' :: 'x' :: rest => readBased 16 rest
  | '0' :: 'o' :: rest => readBased 8 rest
  | '0' :: 'b' :: rest => readBased 2 rest
  | '+' :: rest => readSigned false rest
  | '-' :: rest => readSigned true rest
  | _ =>
      if startsLikeDate input || startsLikeTime input then
        (skipDateTime? input).map (.dateTime, ·)
      else
        readSigned false input

end EventFields.Toml
