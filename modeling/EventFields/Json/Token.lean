import EventFields.Number.Double
import EventFields.Text.Hexadecimal

/-!
# Tokens of JSON text

Text is cut into tokens up to the first place where no token can be read; a
`broken` token stands for that place. Two kinds of tokens are well formed but
have no value: strings with a lone surrogate, and numbers that are too large.
They only matter to a reader who asks for their value.
-/

namespace EventFields.Json

/-- A token of JSON text. -/
inductive Token where
  | openBracket
  | closeBracket
  | openBrace
  | closeBrace
  | comma
  | colon
  | null
  | bool (value : Bool)
  | int (value : Int)
  | float (bits : UInt64)
  | str (text : String)
  /-- A number that no double can hold. -/
  | unboundedNumber
  /-- A string in which a surrogate stands alone. -/
  | unpairedString
  /-- No token can be read here. -/
  | broken
  deriving Repr, DecidableEq

namespace Token

/-- Blanks between tokens. -/
def isSpace (c : Char) : Bool :=
  c = ' ' || c = '\n' || c = '\t' || c = '\r'

/-- A part of a string: a character, or a code unit given in hexadecimal. -/
inductive StringPart where
  | char (c : Char)
  | unit (code : Nat)
  deriving Repr, DecidableEq

/-- The character for a letter after a backslash. -/
def escaped? : Char → Option Char
  | '"' => some '"'
  | '\\' => some '\\'
  | '/' => some '/'
  | 'b' => some '\x08'
  | 'f' => some '\x0c'
  | 'n' => some '\n'
  | 'r' => some '\r'
  | 't' => some '\t'
  | _ => none

/-- Puts a part in front of the parts read after it, if both could be read. -/
def prepend (part? : Option StringPart) (read? : Option (List StringPart × List Char)) :
    Option (List StringPart × List Char) :=
  match part?, read? with
  | some part, some (parts, after) => some (part :: parts, after)
  | _, _ => none

theorem prepend_eq_some {part? : Option StringPart}
    {read? : Option (List StringPart × List Char)} {parts : List StringPart}
    {after : List Char} (read : prepend part? read? = some (parts, after)) :
    ∃ others, read? = some (others, after) := by
  unfold prepend at read
  split at read
  · next others _ =>
    simp only [Option.some.injEq, Prod.mk.injEq] at read
    exact ⟨others, by rw [read.2]⟩
  · exact absurd read nofun

/-- The parts of a string up to its closing quote, and the text after it. -/
def stringParts : List Char → Option (List StringPart × List Char)
  | [] => none
  | '"' :: rest => some ([], rest)
  | '\\' :: 'u' :: a :: b :: c :: d :: rest =>
      prepend ((Text.hexValue? [a, b, c, d]).map .unit) (stringParts rest)
  | '\\' :: letter :: rest =>
      prepend ((escaped? letter).map .char) (stringParts rest)
  | c :: rest =>
      if c = '\\' || c < ' ' then none else prepend (some (.char c)) (stringParts rest)

theorem length_stringParts_lt {input after : List Char} {parts : List StringPart}
    (read : stringParts input = some (parts, after)) : after.length < input.length := by
  fun_induction stringParts input generalizing parts after with
  | case1 => exact absurd read nofun
  | case2 rest =>
    simp only [Option.some.injEq, Prod.mk.injEq] at read
    simp [read.2]
  | case3 a b c d rest ih =>
    obtain ⟨others, readRest⟩ := prepend_eq_some read
    have := ih readRest
    simp only [List.length_cons]
    omega
  | case4 letter rest _ ih =>
    obtain ⟨others, readRest⟩ := prepend_eq_some read
    have := ih readRest
    simp only [List.length_cons]
    omega
  | case5 => exact absurd read nofun
  | case6 c rest _ _ _ _ ih =>
    obtain ⟨others, readRest⟩ := prepend_eq_some read
    have := ih readRest
    simp only [List.length_cons]
    omega

/-- Whether a code unit starts, or ends, a surrogate pair. -/
def isLeading (code : Nat) : Bool := 0xd800 ≤ code && code < 0xdc00

@[inherit_doc isLeading]
def isTrailing (code : Nat) : Bool := 0xdc00 ≤ code && code < 0xe000

/-- The characters of a string, unless a surrogate stands alone. -/
def characters? : List StringPart → Option (List Char)
  | [] => some []
  | .char c :: rest => (characters? rest).map (c :: ·)
  | .unit leading :: .unit trailing :: rest =>
      if isLeading leading then
        if isTrailing trailing then
          (characters? rest).map
            (Char.ofNat (0x10000 + (leading - 0xd800) * 0x400 + (trailing - 0xdc00)) :: ·)
        else
          none
      else if isTrailing leading then
        none
      else
        (characters? (.unit trailing :: rest)).map (Char.ofNat leading :: ·)
  | .unit code :: rest =>
      if isLeading code || isTrailing code then none
      else (characters? rest).map (Char.ofNat code :: ·)

/-- The digits of a number before its point, those after it, and its exponent. -/
structure Numeral where
  negative : Bool
  whole : List Char
  decimals : Option (List Char)
  exponent : Option (Bool × List Char)

/-- The value of a digit. -/
def digitValue (c : Char) : Nat :=
  c.toNat - '0'.toNat

/-- The largest number of 64 bits. -/
def maxWord : Nat := Nat.pow 2 64 - 1

/-- The digits of the whole part as a number, as many as fit into a word, and
the number of digits left out. -/
def wholeWord : (word : Nat) → List Char → Nat × Nat
  | word, [] => (word, 0)
  | word, digit :: rest =>
      if word * 10 + digitValue digit ≤ maxWord then
        wholeWord (word * 10 + digitValue digit) rest
      else
        (word, rest.length + 1)

/-- Appends the digits after the point to a word, as many as fit. Returns the
number of digits taken. -/
def decimalWord : (word taken : Nat) → List Char → Nat × Nat
  | word, taken, [] => (word, taken)
  | word, taken, digit :: rest =>
      if word * 10 + digitValue digit ≤ maxWord then
        decimalWord (word * 10 + digitValue digit) (taken + 1) rest
      else
        (word, taken)

/-- The value of a string of digits. -/
def digitsValue (digits : List Char) : Nat :=
  digits.foldl (fun value digit => value * 10 + digitValue digit) 0

/-- The largest exponent that is told apart from larger ones. -/
def maxExponent : Nat := Nat.pow 2 31 - 1

/-- The token of a number. Whole numbers are integers if they fit into 64 bits,
signed or not; a negative zero is a double. -/
def Numeral.token (numeral : Numeral) : Token :=
  let (word, dropped) := wholeWord 0 numeral.whole
  let double := fun (word : Nat) (exponent : Int) =>
    match Double.bits? numeral.negative word.toUInt64 exponent with
    | some bits => float bits
    | none => unboundedNumber
  match numeral.decimals, numeral.exponent with
  | none, none =>
      if dropped ≠ 0 then double word dropped
      else if !numeral.negative then int word
      else if word = 0 || Nat.pow 2 63 < word then double word 0
      else int (-word)
  | decimals, exponent =>
      let (word, taken) := decimalWord word 0 (decimals.getD [])
      let point : Int := dropped - taken
      match exponent with
      | none => double word point
      | some (negativeExponent, digits) =>
          let size := digitsValue digits
          if maxExponent < size then
            if word ≠ 0 && !negativeExponent then unboundedNumber
            else double 0 0
          else
            double word (if negativeExponent then point - size else point + size)

/-- The digits at the front of a text. -/
def digits (input : List Char) : List Char :=
  input.takeWhile Char.isDigit

/-- The text after the digits at its front. -/
def afterDigits (input : List Char) : List Char :=
  input.dropWhile Char.isDigit

/-- The part of a number after its whole digits that starts with a point. -/
def decimals? : List Char → Option (Option (List Char) × List Char)
  | '.' :: rest =>
      if (digits rest).isEmpty then none else some (some (digits rest), afterDigits rest)
  | rest => some (none, rest)

/-- The digits of an exponent after its sign. -/
def exponentDigits? (negative : Bool) (input : List Char) :
    Option (Option (Bool × List Char) × List Char) :=
  if (digits input).isEmpty then none
  else some (some (negative, digits input), afterDigits input)

/-- The exponent of a number. -/
def exponent? : List Char → Option (Option (Bool × List Char) × List Char)
  | 'e' :: '+' :: rest | 'E' :: '+' :: rest => exponentDigits? false rest
  | 'e' :: '-' :: rest | 'E' :: '-' :: rest => exponentDigits? true rest
  | 'e' :: rest | 'E' :: rest => exponentDigits? false rest
  | rest => some (none, rest)

/-- A number without its sign, and the text after it. Zeros do not lead. -/
def numeral? (negative : Bool) (input : List Char) : Option (Numeral × List Char) :=
  let whole := digits input
  if whole.isEmpty || (whole.head? = some '0' && whole.length ≠ 1) then
    none
  else
    match decimals? (afterDigits input) with
    | none => none
    | some (decimals, afterPoint) =>
        match exponent? afterPoint with
        | none => none
        | some (exponent, rest) => some (⟨negative, whole, decimals, exponent⟩, rest)

theorem length_afterDigits_le (input : List Char) :
    (afterDigits input).length ≤ input.length :=
  (List.dropWhile_suffix Char.isDigit).length_le

theorem length_decimals?_le {input rest : List Char} {decimals : Option (List Char)}
    (read : decimals? input = some (decimals, rest)) : rest.length ≤ input.length := by
  unfold decimals? at read
  split at read
  · next rest' =>
    have := length_afterDigits_le rest'
    grind
  · grind

theorem length_exponentDigits?_le {negative : Bool} {input rest : List Char}
    {exponent : Option (Bool × List Char)}
    (read : exponentDigits? negative input = some (exponent, rest)) :
    rest.length ≤ input.length := by
  have := length_afterDigits_le input
  unfold exponentDigits? at read
  grind

theorem length_exponent?_le {input rest : List Char} {exponent : Option (Bool × List Char)}
    (read : exponent? input = some (exponent, rest)) : rest.length ≤ input.length := by
  unfold exponent? at read
  split at read
  all_goals first
    | (have shorter := length_exponentDigits?_le read
       simp only [List.length_cons]
       omega)
    | grind

theorem length_numeral?_lt {negative : Bool} {input rest : List Char} {numeral : Numeral}
    (read : numeral? negative input = some (numeral, rest)) :
    rest.length < input.length := by
  have whole_length : (digits input).length + (afterDigits input).length = input.length := by
    rw [← List.length_append]
    exact congrArg List.length List.takeWhile_append_dropWhile
  by_cases refused :
      (digits input).isEmpty || ((digits input).head? = some '0' && (digits input).length ≠ 1)
  · simp only [numeral?, refused, if_true] at read
    exact absurd read nofun
  · have nonempty : (digits input).length ≠ 0 := by
      intro isZero
      simp [List.length_eq_zero_iff.1 isZero] at refused
    cases readDecimals : decimals? (afterDigits input) with
    | none => simp [numeral?, readDecimals] at read
    | some point =>
        cases readExponent : exponent? point.2 with
        | none => simp [numeral?, readDecimals, readExponent] at read
        | some exponent =>
            have := length_decimals?_le readDecimals
            have := length_exponent?_le readExponent
            simp only [numeral?, refused, readDecimals, readExponent, if_false,
              Option.some.injEq, Prod.mk.injEq, Bool.false_eq_true] at read
            rw [← read.2]
            omega

/-- The text after a word that stands at its front. -/
def afterWord? : (word input : List Char) → Option (List Char)
  | [], input => some input
  | _ :: _, [] => none
  | expected :: word, c :: input => if c = expected then afterWord? word input else none

theorem length_afterWord?_le {word input rest : List Char}
    (read : afterWord? word input = some rest) : rest.length ≤ input.length := by
  fun_induction afterWord? word input <;> grind

/-- The first token of a text without leading blanks, and the text after it. -/
def next? : List Char → Option (Token × List Char)
  | [] => none
  | '[' :: rest => some (openBracket, rest)
  | ']' :: rest => some (closeBracket, rest)
  | '{' :: rest => some (openBrace, rest)
  | '}' :: rest => some (closeBrace, rest)
  | ',' :: rest => some (comma, rest)
  | ':' :: rest => some (colon, rest)
  | '"' :: rest =>
      match stringParts rest with
      | some (parts, after) =>
          match characters? parts with
          | some text => some (str (String.ofList text), after)
          | none => some (unpairedString, after)
      | none => none
  | 'n' :: rest => (afterWord? "ull".toList rest).map (null, ·)
  | 't' :: rest => (afterWord? "rue".toList rest).map (bool true, ·)
  | 'f' :: rest => (afterWord? "alse".toList rest).map (bool false, ·)
  | '-' :: rest => (numeral? true rest).map fun read => (read.1.token, read.2)
  | c :: rest => (numeral? false (c :: rest)).map fun read => (read.1.token, read.2)

theorem length_next?_lt {input rest : List Char} {token : Token}
    (read : next? input = some (token, rest)) : rest.length < input.length := by
  unfold next? at read
  split at read
  case h_8 rest' =>
    split at read
    · next parts after readString =>
      have := length_stringParts_lt readString
      split at read <;> grind
    · grind
  all_goals first
    | (simp only [Option.map_eq_some_iff, Prod.mk.injEq] at read
       obtain ⟨after, readWord, _, rfl⟩ := read
       first
         | (have shorter := length_afterWord?_le readWord
            simp only [List.length_cons]
            omega)
         | (have shorter := length_numeral?_lt readWord
            simp only [List.length_cons] at *
            omega))
    | grind

/-- The tokens of a text, up to the first place where none can be read. -/
def scan (input : List Char) : List Token :=
  match trimmed : input.dropWhile isSpace with
  | [] => []
  | c :: rest =>
      match read : next? (c :: rest) with
      | none => [broken]
      | some (token, after) =>
          have shorter : after.length < input.length := by
            have := length_next?_lt read
            have := (List.dropWhile_suffix isSpace : input.dropWhile isSpace <:+ input).length_le
            rw [trimmed] at this
            omega
          token :: scan after
termination_by input.length

end Token

end EventFields.Json
