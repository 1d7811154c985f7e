/-
# ConsoleView.Toml.Scalar -- booleans, numbers, dates and times

A scalar is one run of letters, digits and the signs `_ + - . :`, and it is read
whole or not at all.  Digits may be parted by single underscores.  Integers are
those of sixty-four bits with a sign.
-/
import ConsoleView.Text.Blank
import ConsoleView.Toml.Text

namespace ConsoleView.Toml

set_option autoImplicit false

/-! ## Digits -/

def digitIn? (base : Nat) (c : Char) : Option Nat :=
  match hexDigit? c with
  | some d => if d < base then some d else none
  | none => none

/-- Digits with single underscores between them; without the underscores. -/
def digits? (base : Nat) (cs : List Char) : Option (List Char) :=
  let groups := Text.pieces (· == '_') cs
  if groups.all fun g => !g.isEmpty && g.all fun c => (digitIn? base c).isSome then
    some groups.flatten
  else none

def number (base : Nat) (cs : List Char) : Nat :=
  cs.foldl (fun n c => n * base + (digitIn? base c).getD 0) 0

/-- Decimal digits that do not start with a superfluous zero. -/
def wholeDigits? : List Char → Option (List Char)
  | ['0'] => some ['0']
  | '0' :: _ => none
  | cs => digits? 10 cs

/-- A sign and what is after it; `true` is the minus. -/
def splitSign : List Char → Bool × List Char
  | '-' :: rest => (true, rest)
  | '+' :: rest => (false, rest)
  | cs => (false, cs)

/-! ## Numbers -/

/-- An integer that sixty-four bits hold. -/
def boundedInt? (n : Int) : Option Toml :=
  if Int64.minValue.toInt ≤ n ∧ n ≤ Int64.maxValue.toInt then some (.int n) else none

def int? : List Char → Option Toml
  | '0' :: 'x' :: cs => (digits? 16 cs).bind fun ds => boundedInt? (number 16 ds)
  | '0' :: 'o' :: cs => (digits? 8 cs).bind fun ds => boundedInt? (number 8 ds)
  | '0' :: 'b' :: cs => (digits? 2 cs).bind fun ds => boundedInt? (number 2 ds)
  | cs =>
      let (negative, cs) := splitSign cs
      (wholeDigits? cs).bind fun ds =>
        let n : Int := number 10 ds
        boundedInt? (if negative then -n else n)

/-- The double nearest to `n * 10 ^ e`; numbers far out of range are zero or infinite. -/
def nearest (n : Nat) (e : Int) : Float :=
  let digits : Int := (Nat.toDigits 10 n).length
  if n = 0 ∨ e + digits < -330 then 0.0
  else if 310 < e + digits then 1.0 / 0.0
  else if e < 0 then Float.ofScientific n true e.natAbs
  else Float.ofScientific n false e.natAbs

def exponent? (cs : List Char) : Option Int :=
  let (negative, cs) := splitSign cs
  (digits? 10 cs).map fun ds => if negative then -(number 10 ds : Int) else number 10 ds

/-- A double with a fraction, an exponent or both.  One above the range is refused. -/
def real? (cs : List Char) : Option Toml := do
  let (negative, cs) := splitSign cs
  let isMark (c : Char) : Bool := c == 'e' || c == 'E'
  let mantissa := cs.takeWhile fun c => !isMark c
  let afterMark := cs.dropWhile fun c => !isMark c
  let whole ← wholeDigits? (mantissa.takeWhile (· != '.'))
  let fraction ←
    match mantissa.dropWhile (· != '.') with
    | [] => if afterMark.isEmpty then none else some []
    | _ :: ds => digits? 10 ds
  let exponent ←
    match afterMark with
    | [] => some 0
    | _ :: ds => exponent? ds
  let x := nearest (number 10 (whole ++ fraction)) (exponent - fraction.length)
  if x.isInf && !negative then none else some (.real (if negative then -x else x))

/-- The doubles that are written as words. -/
def special? (cs : List Char) : Option Toml :=
  let (negative, cs) := splitSign cs
  if cs = ['i', 'n', 'f'] then some (.real (if negative then -(1.0 / 0.0) else 1.0 / 0.0))
  else if cs = ['n', 'a', 'n'] then some (.real (0.0 / 0.0))
  else none

/-! ## Dates and times -/

/-- A number of exactly so many digits. -/
def fixedNumber? (width : Nat) (cs : List Char) : Option Nat :=
  if cs.length = width ∧ cs.all Char.isDigit then some (number 10 cs) else none

def isLeapYear (year : Nat) : Bool := year % 4 == 0 && (year % 100 != 0 || year % 400 == 0)

def daysOfMonth (year month : Nat) : Nat :=
  if month = 2 then if isLeapYear year then 29 else 28
  else if month = 4 ∨ month = 6 ∨ month = 9 ∨ month = 11 then 30
  else 31

def isDate (cs : List Char) : Bool :=
  match Text.pieces (· == '-') cs with
  | [y, m, d] =>
      match fixedNumber? 4 y, fixedNumber? 2 m, fixedNumber? 2 d with
      | some year, some month, some day =>
          1 ≤ month && month ≤ 12 && 1 ≤ day && day ≤ daysOfMonth year month
      | _, _, _ => false
  | _ => false

/-- Whether the text is a number of so many digits up to a bound. -/
def isUpTo (bound : Nat) (cs : List Char) : Bool :=
  match fixedNumber? 2 cs with
  | some n => n ≤ bound
  | none => false

/-- Whether the text is a number of seconds, with or without a fraction. -/
def isSeconds (cs : List Char) : Bool :=
  match cs.dropWhile (· != '.') with
  | [] => isUpTo 60 cs
  | _ :: fraction =>
      isUpTo 60 (cs.takeWhile (· != '.')) && !fraction.isEmpty && fraction.all Char.isDigit

def isTime (cs : List Char) : Bool :=
  match Text.pieces (· == ':') cs with
  | [h, m, s] => isUpTo 23 h && isUpTo 59 m && isSeconds s
  | _ => false

/-- Whether the text is the distance of a time zone, without its sign. -/
def isZone (cs : List Char) : Bool :=
  match Text.pieces (· == ':') cs with
  | [h, m] => isUpTo 23 h && isUpTo 59 m
  | _ => false

/-- Whether the text is a time of day, perhaps with its distance from UTC. -/
def isZonedTime (cs : List Char) : Bool :=
  let isMark (c : Char) : Bool := c == 'Z' || c == 'z' || c == '+' || c == '-'
  let time := cs.takeWhile fun c => !isMark c
  isTime time &&
    match cs.dropWhile fun c => !isMark c with
    | [] => true
    | mark :: zone => if mark == '+' || mark == '-' then isZone zone else zone.isEmpty

/-- Whether the text is a date, a time, or both with a letter between them. -/
def isMoment (cs : List Char) : Bool :=
  let day := cs.take 10
  isTime cs ||
    isDate day &&
      match cs.drop 10 with
      | [] => true
      | c :: time => (c == 'T' || c == 't') && isZonedTime time

/-! ## Scalars -/

def isScalarChar (c : Char) : Bool :=
  c.isAlphanum || c == '_' || c == '+' || c == '-' || c == '.' || c == ':'

/-- The value of a whole run. -/
def scalar? (cs : List Char) : Option Toml :=
  if cs = ['t', 'r', 'u', 'e'] then some (.bool true)
  else if cs = ['f', 'a', 'l', 's', 'e'] then some (.bool false)
  else if isMoment cs then some (.moment (String.ofList cs))
  else ((special? cs).or (real? cs)).or (int? cs)

/-- A scalar at the start of a text.  A date may have its time after one space. -/
def scalar : Reader Toml := fun cs =>
  let run := cs.takeWhile isScalarChar
  let rest := cs.dropWhile isScalarChar
  match rest with
  | ' ' :: more =>
      let time := more.takeWhile isScalarChar
      if isDate run && isZonedTime time then
        some (.moment (String.ofList (run ++ ' ' :: time)), more.dropWhile isScalarChar)
      else (scalar? run).map fun v => (v, rest)
  | _ => (scalar? run).map fun v => (v, rest)

end ConsoleView.Toml
