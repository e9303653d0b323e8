import SingleFile.Text
import SingleFile.Value

/-!
# Scalars of TOML

Strings, numbers, dates and times of the settings format. Each reader is
given what is left of the text and returns a value and what is left after
it, or nothing where the text does not have the form asked for.
-/

namespace SingleFile

namespace Toml

/-- Whether a character is a control that the format does not admit in a
line: any ASCII control but the tab. -/
def isControl (c : Char) : Bool := (c.toNat < 0x20 && c ≠ '\t') || c.toNat == 0x7f

/-- Whether a character is a space or a tab. -/
def isSpace (c : Char) : Bool := c = ' ' || c = '\t'

/-- Whether a character is a space, a tab or a line feed. -/
def isSpaceOrBreak (c : Char) : Bool := isSpace c || c = '\n'

/-- The text without spaces and tabs at its start. -/
def skipSpace (t : Text) : Text := t.dropWhile isSpace

/-! ## Strings -/

/-- The value of a hexadecimal digit. -/
def hexValue? (c : Char) : Option Nat :=
  if c.isDigit then some (c.toNat - 48)
  else if 'a' ≤ c ∧ c ≤ 'f' then some (c.toNat - 87)
  else if 'A' ≤ c ∧ c ≤ 'F' then some (c.toNat - 55)
  else none

/-- The character of a code point written in `size` hexadecimal digits. -/
def hexChar? (size : Nat) (t : Text) : Option (Char × Text) := do
  let digits := t.take size
  if digits.length < size then none
  let code ← digits.foldlM (fun n c => (hexValue? c).map (n * 16 + ·)) 0
  if h : code.isValidChar then some (Char.ofNatAux code h, t.drop size) else none

/-- The characters that single letters stand for after a backslash. -/
def escapes : List (Char × Char) :=
  [('b', '\x08'), ('t', '\t'), ('n', '\n'), ('f', '\x0c'), ('r', '\r'), ('"', '"'), ('\\', '\\')]

/-- What stands for the characters after a backslash, and the rest. -/
def escape? : Text → Option (Text × Text)
  | 'u' :: t => (hexChar? 4 t).map fun (c, t) => ([c], t)
  | 'U' :: t => (hexChar? 8 t).map fun (c, t) => ([c], t)
  | c :: t => (escapes.lookup c).map fun e => ([e], t)
  | [] => none

/-- What stands for the characters after a backslash in a string of several
lines, where a backslash at the end of a line takes the line break and the
blanks after it away. -/
def longEscape? (t : Text) : Option (Text × Text) :=
  match t with
  | '\n' :: u => some ([], u.dropWhile isSpaceOrBreak)
  | c :: u =>
    if isSpace c then
      match u.dropWhile isSpace with
      | [] => some ([], [])
      | '\n' :: v => some ([], v.dropWhile isSpaceOrBreak)
      | _ => none
    else escape? t
  | [] => none

/-- A string in double quotes, after its opening quote. Each step reads at
least one character, so the length of the text bounds their number. -/
def basic? : (steps : Nat) → Text → Option (Text × Text)
  | 0, _ | _, [] => none
  | _ + 1, '"' :: t => some ([], t)
  | steps + 1, '\\' :: t => do
    let (value, t) ← escape? t
    let (more, t) ← basic? steps t
    return (value ++ more, t)
  | steps + 1, c :: t =>
    if isControl c then none else (basic? steps t).map fun (more, t) => (c :: more, t)

/-- A string in three double quotes, after its opening quotes. -/
def longBasic? : (steps : Nat) → Text → Option (Text × Text)
  | 0, _ | _, [] => none
  | _ + 1, '"' :: '"' :: '"' :: t => some ([], t)
  | steps + 1, '\\' :: t => do
    let (value, t) ← longEscape? t
    let (more, t) ← longBasic? steps t
    return (value ++ more, t)
  | steps + 1, c :: t =>
    if isControl c && c ≠ '\n' then none
    else (longBasic? steps t).map fun (more, t) => (c :: more, t)

/-- A string in single quotes, after its opening quote. -/
def literal? : Text → Option (Text × Text)
  | [] => none
  | '\'' :: t => some ([], t)
  | c :: t => if isControl c then none else (literal? t).map fun (more, t) => (c :: more, t)

/-- A string in three single quotes, after its opening quotes. -/
def longLiteral? : Text → Option (Text × Text)
  | [] => none
  | '\'' :: '\'' :: '\'' :: t => some ([], t)
  | c :: t =>
    if isControl c && c ≠ '\n' then none
    else (longLiteral? t).map fun (more, t) => (c :: more, t)

/-- Up to two quotes that stand right after the closing quotes of a long
string belong to it. -/
def extraQuotes (quote : Char) (value t : Text) : Text × Text :=
  let extra := (t.take 2).takeWhile (· = quote)
  (value ++ extra, t.drop extra.length)

/-- The text of a long string does not begin with the line break after its
opening quotes. -/
def skipBreak : Text → Text
  | '\n' :: t => t
  | t => t

/-- A string in any kind of quotes. -/
def string? : Text → Option (Text × Text)
  | '"' :: '"' :: '"' :: t =>
    let t := skipBreak t
    (longBasic? t.length t).map fun (value, t) => extraQuotes '"' value t
  | '"' :: t => basic? t.length t
  | '\'' :: '\'' :: '\'' :: t =>
    (longLiteral? (skipBreak t)).map fun (value, t) => extraQuotes '\'' value t
  | '\'' :: t => literal? t
  | _ => none

/-- The number of characters that a reader has taken from a text. -/
def spelling (before after : Text) : Text := before.take (before.length - after.length)

/-! ## Dates and times -/

/-- A number of exactly `size` decimal digits. -/
def digits? (size : Nat) (t : Text) : Option (Nat × Text) :=
  let digits := t.take size
  if digits.length = size ∧ digits.all Char.isDigit then
    some (digits.foldl (fun n c => n * 10 + (c.toNat - 48)) 0, t.drop size)
  else none

/-- A number of two digits between bounds. -/
def twoDigits? (least greatest : Nat) (t : Text) : Option (Nat × Text) := do
  let (n, t) ← digits? 2 t
  if least ≤ n ∧ n ≤ greatest then some (n, t) else none

/-- What follows a given character. -/
def after? (c : Char) : Text → Option Text
  | d :: t => if d = c then some t else none
  | [] => none

/-- What follows a fraction of a second, if there is one. -/
def skipFraction (t : Text) : Text :=
  match t with
  | '.' :: u => if (u.takeWhile Char.isDigit).isEmpty then t else u.dropWhile Char.isDigit
  | _ => t

/-- What follows a time of day. -/
def time? (t : Text) : Option Text := do
  let (_, t) ← twoDigits? 0 23 t
  let (_, t) ← twoDigits? 0 59 (← after? ':' t)
  let (_, t) ← twoDigits? 0 59 (← after? ':' t)
  return skipFraction t

/-- What follows an offset from universal time, if there is one. -/
def skipOffset (t : Text) : Text :=
  match t with
  | 'Z' :: u | 'z' :: u => u
  | '+' :: u | '-' :: u =>
    ((do
      let (_, u) ← twoDigits? 0 23 u
      let (_, u) ← twoDigits? 0 59 (← after? ':' u)
      return u) : Option Text).getD t
  | _ => t

/-- Whether a year has a leap day. -/
def isLeap (year : Nat) : Bool := year % 4 == 0 && (year % 100 ≠ 0 || year % 400 == 0)

/-- The number of days of a month. -/
def daysIn (year month : Nat) : Nat :=
  if month = 2 then if isLeap year then 29 else 28
  else if [4, 6, 9, 11].contains month then 30
  else 31

/-- The year, month and day of a date that has its form, and what follows. -/
def date? (t : Text) : Option ((Nat × Nat × Nat) × Text) := do
  let (year, t) ← digits? 4 t
  let (month, t) ← twoDigits? 1 12 (← after? '-' t)
  let (day, t) ← twoDigits? 1 31 (← after? '-' t)
  return ((year, month, day), t)

/-- What follows a time after a date, if there is one. -/
def skipTime (t : Text) : Text :=
  match t with
  | 'T' :: u | 't' :: u | ' ' :: u =>
    match time? u with
    | some u => skipOffset u
    | none => t
  | _ => t

/-! ## Numbers -/

/-- Digits of a base, single underscores between them allowed, and the rest;
`some` when there is at least one digit. -/
def digitRun? (isDigit : Char → Bool) : Text → Option (Text × Text)
  | [] => none
  | c :: t =>
    if !isDigit c then none
    else
      match t with
      | '_' :: u =>
        match digitRun? isDigit u with
        | some (more, rest) => some (c :: more, rest)
        | none => some ([c], t)
      | u =>
        match digitRun? isDigit u with
        | some (more, rest) => some (c :: more, rest)
        | none => some ([c], t)

/-- The number that digits stand for. -/
def number (base : Nat) (digits : Text) : Nat :=
  digits.foldl (fun n c => n * base + (hexValue? c).getD 0) 0

/-- A number with a base written before it. -/
def based? : Text → Option (Nat × Text)
  | '0' :: 'x' :: t =>
    (digitRun? (fun c => (hexValue? c).isSome) t).map fun (d, t) => (number 16 d, t)
  | '0' :: 'b' :: t => (digitRun? (fun c => c = '0' || c = '1') t).map fun (d, t) => (number 2 d, t)
  | '0' :: 'o' :: t =>
    (digitRun? (fun c => '0' ≤ c && c ≤ '7') t).map fun (d, t) => (number 8 d, t)
  | _ => none

/-- The integer part of a decimal number: zero, or digits that begin with
another digit. -/
def whole? : Text → Option (Nat × Text)
  | '0' :: t => some (0, t)
  | t => (digitRun? Char.isDigit t).map fun (d, t) => (number 10 d, t)

/-- What follows a fraction, if there is one. -/
def skipDecimals (t : Text) : Text :=
  match t with
  | '.' :: u => ((digitRun? Char.isDigit u).map (·.2)).getD t
  | _ => t

/-- What follows an exponent, if there is one. -/
def skipExponent (t : Text) : Text :=
  match t with
  | 'e' :: u | 'E' :: u =>
    let v := match u with
      | '+' :: v | '-' :: v => v
      | v => v
    ((digitRun? Char.isDigit v).map (·.2)).getD t
  | _ => t

/-- A decimal number, with a fraction or an exponent a decimal. -/
def decimal? (t : Text) : Option (Value × Text) := do
  let (negative, body) := match t with
    | '-' :: u => (true, u)
    | '+' :: u => (false, u)
    | u => (false, u)
  let (n, rest) ← whole? body
  let stop := skipExponent (skipDecimals rest)
  if stop.length = rest.length then
    return (.integer (if negative then -n else n), rest)
  else return (.decimal (spelling t stop), stop)

/-- The decimals that are no numbers in digits. -/
def specials : List Text :=
  ["inf", "nan", "+inf", "-inf", "+nan", "-nan"].map String.toList

/-- A special decimal. -/
def special? (t : Text) : Option (Value × Text) :=
  specials.findSome? fun s => (t.dropLead? s).map (.decimal s, ·)

/-- A truth value. -/
def boolean? (t : Text) : Option (Value × Text) :=
  match t.dropLead? "true".toList with
  | some rest => some (.boolean true, rest)
  | none => (t.dropLead? "false".toList).map (.boolean false, ·)

/-- A date, a time or a number. A date that has its form but is not in the
calendar is nothing at all. -/
def numeral? (t : Text) : Option (Value × Text) :=
  match date? t with
  | some ((year, month, day), rest) =>
    if 1 ≤ year ∧ day ≤ daysIn year month then
      let stop := skipTime rest
      some (.dateTime (spelling t stop), stop)
    else none
  | none =>
    match time? t with
    | some stop => some (.dateTime (spelling t stop), stop)
    | none =>
      match based? t with
      | some (n, rest) => some (.integer n, rest)
      | none => (decimal? t).orElse fun _ => special? t

/-- A scalar. -/
def scalar? (t : Text) : Option (Value × Text) :=
  match string? t with
  | some (s, rest) => some (.string s, rest)
  | none => (boolean? t).orElse fun _ => numeral? t

end Toml

end SingleFile
