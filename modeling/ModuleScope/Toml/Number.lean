import ModuleScope.Toml.Node
import ModuleScope.Toml.Text

/-! Numbers, dates and times of a document. -/

namespace ModuleScope.Toml

/-- Digits that may follow others, each after an underscore or not. -/
def moreDigits (isDigit : Char → Bool) : List Char → List Char × List Char
  | [] => ([], [])
  | '_' :: c :: rest =>
    -- An underscore stands between two digits.
    if isDigit c then
      let (digits, after) := moreDigits isDigit rest
      (c :: digits, after)
    else ([], '_' :: c :: rest)
  | c :: rest =>
    if isDigit c then
      let (digits, after) := moreDigits isDigit rest
      (c :: digits, after)
    else ([], c :: rest)

/-- Reads one or more digits. -/
def readDigits (isDigit : Char → Bool) : List Char → TextAndRest
  | [] => none
  | c :: rest => if isDigit c then TextAndRest.cons c (some (moreDigits isDigit rest)) else none

/-- Splits off a sign and says whether it is a minus. -/
def readSign (text : List Char) : Bool × List Char :=
  -- No sign means plus.
  match text with
  | '+' :: rest => (false, rest)
  | '-' :: rest => (true, rest)
  | _ => (false, text)

/-- Reads decimal digits, of which only a single one may be zero at the start. -/
def readDecimal (text : List Char) : TextAndRest :=
  match text with
  | '0' :: rest => some (['0'], rest)
  | _ => readDigits Char.isDigit text

/-- The number that digits of a base stand for. -/
def numberOf (base : Nat) (digits : List Char) : Nat :=
  digits.foldl (fun value c => base * value + (hexDigit? c).getD 0) 0

/-- The bits of a whole number, its sign being one of them. -/
def integerBits : Nat := 64

/-- A whole number, if it is not too great. -/
def integerOf? (negative : Bool) (magnitude : Nat) : Option Node :=
  -- There is one more negative number than there are positive ones.
  let bound := Nat.pow 2 (integerBits - 1)
  if negative then if magnitude ≤ bound then some (.integer (-(magnitude : Int))) else none
  else if magnitude < bound then some (.integer magnitude) else none

/-- Reads digits of a base as a whole number. -/
def readBased (base : Nat) (isDigit : Char → Bool) (text : List Char) : Option (Node × List Char) := do
  let (digits, rest) ← readDigits isDigit text
  some (← integerOf? false (numberOf base digits), rest)

/-- Reads a whole number. -/
def readInteger (text : List Char) : Option (Node × List Char) :=
  -- A base is given by a zero and a letter, and has no sign.
  match text with
  | '0' :: 'x' :: rest => readBased 16 (fun c => (hexDigit? c).isSome) rest
  | '0' :: 'o' :: rest => readBased 8 (fun c => '0' ≤ c && c ≤ '7') rest
  | '0' :: 'b' :: rest => readBased 2 (fun c => c = '0' || c = '1') rest
  | _ => do
    let (negative, rest) := readSign text
    let (digits, rest) ← readDecimal rest
    some (← integerOf? negative (numberOf 10 digits), rest)

/-- Reads the exponent of a number, if there is one. -/
def readExponent (text : List Char) : Option (Int × List Char) := do
  -- Zeros may come first.
  let c :: rest := text | none
  if c = 'e' || c = 'E' then
    let (negative, rest) := readSign rest
    let (digits, rest) ← readDigits Char.isDigit rest
    let magnitude : Int := numberOf 10 digits
    some (if negative then -magnitude else magnitude, rest)
  else none

/-- Whether digits and a power of ten make a number that would be rounded to infinity. -/
def isOverflow (digits : Nat) (exponent : Int) : Bool :=
  -- Far from the bound the number of digits tells, and near it the numbers are compared.
  let bound := Nat.pow 2 1024 - Nat.pow 2 970
  let size := exponent + (Nat.toDigits 10 digits).length
  if digits = 0 || size < 300 then false
  else if 320 < size then true
  else if 0 ≤ exponent then bound ≤ digits * Nat.pow 10 exponent.toNat
  else bound * Nat.pow 10 (-exponent).toNat ≤ digits

/-- Reads a number with a point or an exponent. -/
def readFloat (text : List Char) : Option (Node × List Char) := do
  -- Digits stand on both sides of the point; a negative number may be of any size.
  let (negative, rest) := readSign text
  match rest with
  | 'i' :: 'n' :: 'f' :: rest => some (.float, rest)
  | 'n' :: 'a' :: 'n' :: rest => some (.float, rest)
  | _ =>
    let (whole, rest) ← readDecimal rest
    let finish := fun (fraction : List Char) (exponent : Int) (rest : List Char) =>
      if !negative && isOverflow (numberOf 10 (whole ++ fraction)) (exponent - fraction.length) then none
      else some (Node.float, rest)
    match rest with
    | '.' :: rest =>
      let (fraction, rest) ← readDigits Char.isDigit rest
      match readExponent rest with
      | some (exponent, rest) => finish fraction exponent rest
      | none => finish fraction 0 rest
    | _ =>
      let (exponent, rest) ← readExponent rest
      finish [] exponent rest

/-- Reads just so many decimal digits as a number between two bounds. -/
def readField (count low high : Nat) (text : List Char) : Option (Nat × List Char) :=
  let digits := text.take count
  let value := numberOf 10 digits
  if digits.length = count && digits.all Char.isDigit && low ≤ value && value ≤ high then
    some (value, text.drop count)
  else none

/-- The text after a character that has to stand there. -/
def expect? (wanted : Char) : List Char → Option (List Char)
  | [] => none
  | c :: rest => if c = wanted then some rest else none

/-- The number of days of a month. -/
def daysIn (year month : Nat) : Nat :=
  -- A year is a leap year every four years, but not every hundred, unless every four hundred.
  if month = 2 then
    if year % 4 = 0 && (year % 100 ≠ 0 || year % 400 = 0) then 29 else 28
  else if month = 4 || month = 6 || month = 9 || month = 11 then 30
  else 31

/-- The text after a date. -/
def skipDate? (text : List Char) : Option (List Char) := do
  let (year, rest) ← readField 4 0 9999 text
  let (month, rest) ← readField 2 1 12 (← expect? '-' rest)
  let (_, rest) ← readField 2 1 (daysIn year month) (← expect? '-' rest)
  some rest

/-- The text after a time of day. -/
def skipTime? (text : List Char) : Option (List Char) := do
  -- A minute may have a leap second, and a second any number of decimal places.
  let (_, rest) ← readField 2 0 23 text
  let (_, rest) ← readField 2 0 59 (← expect? ':' rest)
  let (_, rest) ← readField 2 0 60 (← expect? ':' rest)
  match rest with
  | '.' :: c :: more => some (if c.isDigit then more.dropWhile Char.isDigit else rest)
  | _ => some rest

/-- The text after an offset from universal time. -/
def skipOffset? (text : List Char) : Option (List Char) := do
  -- The offset zero has a letter.
  let sign :: rest := text | none
  if sign = 'Z' || sign = 'z' then some rest
  else if sign = '+' || sign = '-' then
    let (_, rest) ← readField 2 0 23 rest
    let (_, rest) ← readField 2 0 59 (← expect? ':' rest)
    some rest
  else none

/-- Reads a date, a date with a time and perhaps an offset, or a time. -/
def readMoment (text : List Char) : Option (Node × List Char) :=
  match skipDate? text with
  | none => (skipTime? text).map (Node.moment, ·)
  | some rest =>
    -- A letter or a blank stands between date and time.
    let time? := match rest with
      | c :: more => if c = 'T' || c = 't' || c = ' ' then skipTime? more else none
      | [] => none
    match time? with
    | none => some (.moment, rest)
    | some after => some (.moment, (skipOffset? after).getD after)

/-- Reads a number, a date or a time. -/
def readNumber (text : List Char) : Option (Node × List Char) :=
  -- The longer forms are tried first.
  (readMoment text).or ((readFloat text).or (readInteger text))

end ModuleScope.Toml
