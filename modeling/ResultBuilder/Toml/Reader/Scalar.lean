import ResultBuilder.Toml.Reader.Quoted

/-!
# Reading numbers, truth values, dates and times

A value without quotes or brackets is a single word, except that a space can stand between a date
and a time.
-/

namespace ResultBuilder.Toml.Reader

/-- Whether a character can stand in a value that is a single word. -/
def isWordChar (c : Char) : Bool :=
  c.isAlphanum || c == '+' || c == '-' || c == '_' || c == '.' || c == ':'

/-! ### Numbers -/

/-- Digits without the underscores between them. -/
def digits? (isDigit : Char → Bool) (text : List Char) : Option (List Char) :=
  let groups := (String.ofList text).splitOn "_"
  if groups.all fun group => group != "" && group.all isDigit then
    some (text.filter (· != '_'))
  else none

/-- Whether digits start with a zero that does not count. -/
def hasLeadingZero : List Char → Bool
  | '0' :: _ :: _ => true
  | _ => false

/-- The sign and the rest of a number. -/
def signed : List Char → Bool × List Char
  | '-' :: rest => (true, rest)
  | '+' :: rest => (false, rest)
  | text => (false, text)

/-- The number that digits in a base denote. -/
def numberInBase (base : Nat) (digits : List Char) : Nat :=
  digits.foldl (fun value c => base * value + (hexDigit? c).getD 0) 0

/-- A number with its sign. -/
def withSign (isNegative : Bool) (size : Nat) : Int :=
  if isNegative then -size else size

/-- The integer that a word denotes, which fits in sixty-four bits. -/
def integer? (word : List Char) : Option Int :=
  let value := match word with
    | '0' :: 'x' :: digits =>
        (digits? (fun c => (hexDigit? c).isSome) digits).map fun d => (numberInBase 16 d : Int)
    | '0' :: 'o' :: digits =>
        (digits? (fun c => '0' ≤ c && c ≤ '7') digits).map fun d => (numberInBase 8 d : Int)
    | '0' :: 'b' :: digits =>
        (digits? (fun c => c == '0' || c == '1') digits).map fun d => (numberInBase 2 d : Int)
    | _ =>
        let (isNegative, digits) := signed word
        if hasLeadingZero digits then none
        else (digits? Char.isDigit digits).map fun d => withSign isNegative (digitsValue d)
  value.filter fun value => -(Nat.pow 2 63 : Int) ≤ value && value < Nat.pow 2 63

/-- The exponent at the end of a number; nothing stands for zero. -/
def exponent? : List Char → Option Int
  | [] => some 0
  | c :: rest =>
      let (isNegative, digits) := signed rest
      if c == 'e' || c == 'E' then
        (digits? Char.isDigit digits).map fun d => withSign isNegative (digitsValue d)
      else none

/-- The number with a fraction or an exponent that a word without a sign denotes. -/
def fraction? (word : List Char) : Option Binary64 := do
  let isPart (c : Char) : Bool := c.isDigit || c == '_'
  let whole := word.takeWhile isPart
  if hasLeadingZero whole then none
  let wholeDigits ← digits? Char.isDigit whole
  match word.dropWhile isPart with
  | [] => none
  | '.' :: rest =>
      let fraction ← digits? Char.isDigit (rest.takeWhile isPart)
      let exponent ← exponent? (rest.dropWhile isPart)
      return .ofScientific (digitsValue (wholeDigits ++ fraction)) (exponent - fraction.length)
  | rest => return .ofScientific (digitsValue wholeDigits) (← exponent? rest)

/-- The number of binary floating point that a word denotes. A positive number beyond all doubles is
refused. -/
def float? (word : List Char) : Option Scalar :=
  let (isNegative, number) := signed word
  match String.ofList number with
  | "nan" => some .notANumber
  | "inf" => some (.float isNegative .infinity)
  | _ =>
      match fraction? number with
      | none => none
      | some .infinity => if isNegative then some (.float true .infinity) else none
      | some size => some (.float isNegative size)

/-! ### Dates and times -/

/-- The text after a number of some digits that lies between two bounds. -/
def afterNumber? (count lower upper : Nat) (text : List Char) : Option (List Char) :=
  let digits := text.take count
  let value := digitsValue digits
  if digits.length = count ∧ digits.all Char.isDigit ∧ lower ≤ value ∧ value ≤ upper then
    some (text.drop count)
  else none

/-- The text after a character. -/
def afterChar? (c : Char) : List Char → Option (List Char)
  | [] => none
  | first :: rest => if first = c then some rest else none

/-- The text after a date. -/
def afterDate? (text : List Char) : Option (List Char) := do
  let rest ← afterChar? '-' (← afterNumber? 4 0 9999 text)
  let rest ← afterChar? '-' (← afterNumber? 2 1 12 rest)
  afterNumber? 2 1 31 rest

/-- The text after hours and minutes. -/
def afterMinutes? (text : List Char) : Option (List Char) := do
  let rest ← afterChar? ':' (← afterNumber? 2 0 23 text)
  afterNumber? 2 0 59 rest

/-- The text after a time of day, whose seconds can have a fraction and can be a leap second. -/
def afterTime? (text : List Char) : Option (List Char) := do
  let rest ← afterChar? ':' (← afterMinutes? text)
  let rest ← afterNumber? 2 0 60 rest
  match rest with
  | '.' :: fraction =>
      if (fraction.takeWhile Char.isDigit).isEmpty then none
      else return fraction.dropWhile Char.isDigit
  | _ => return rest

/-- Whether a text is the distance to the time of Greenwich, which can be left out. -/
def isOffset : List Char → Bool
  | [] | ['Z'] | ['z'] => true
  | c :: rest => (c == '+' || c == '-') && afterMinutes? rest == some []

/-- Whether a word is a date. -/
def isDate (word : List Char) : Bool :=
  afterDate? word == some []

/-- Whether a word is a time of day with a distance to the time of Greenwich. -/
def isZonedTime (word : List Char) : Bool :=
  (afterTime? word).any isOffset

/-- Whether a word is a date, a time or both. -/
def isMoment (word : List Char) : Bool :=
  afterTime? word == some [] ||
    match afterDate? word with
    | some [] => true
    | some (c :: rest) => (c == 'T' || c == 't') && isZonedTime rest
    | none => false

/-! ### Words -/

/-- The value of a single word. -/
def word? (word : List Char) : Option Scalar :=
  match String.ofList word with
  | "true" => some (.boolean true)
  | "false" => some (.boolean false)
  | _ =>
      if isMoment word then some .moment
      else (float? word).or ((integer? word).map .integer)

/-- Reads a value without quotes and brackets. -/
def scalar? (text : List Char) : Option (Scalar × List Char) :=
  let word := text.takeWhile isWordChar
  let rest := text.dropWhile isWordChar
  let time := (rest.drop 1).takeWhile isWordChar
  if isDate word && rest.head? == some ' ' && isZonedTime time then
    some (.moment, (rest.drop 1).dropWhile isWordChar)
  else (word? word).map (·, rest)

end ResultBuilder.Toml.Reader
