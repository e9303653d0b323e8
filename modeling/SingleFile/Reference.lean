import SingleFile.Reference.Names

/-!
# Character references

How HTML reads the character references of a text. A numeric reference
gives a code point, of which some stand for other characters and some
for none. A named reference is looked up whole and, failing that, by the
longest name of at least two characters that it begins with; what is
left of it follows the replacement.
-/

namespace SingleFile

namespace Reference

/-! ## Numeric references -/

/-- Code points that numeric references give to other characters, or that
stand for themselves although they are controls. -/
def replacedCodes : List (Nat × Nat) :=
  [(0x00, 0xfffd), (0x0d, 0x0d), (0x80, 0x20ac), (0x81, 0x81), (0x82, 0x201a), (0x83, 0x0192),
   (0x84, 0x201e), (0x85, 0x2026), (0x86, 0x2020), (0x87, 0x2021), (0x88, 0x02c6),
   (0x89, 0x2030), (0x8a, 0x0160), (0x8b, 0x2039), (0x8c, 0x0152), (0x8d, 0x8d),
   (0x8e, 0x017d), (0x8f, 0x8f), (0x90, 0x90), (0x91, 0x2018), (0x92, 0x2019), (0x93, 0x201c),
   (0x94, 0x201d), (0x95, 0x2022), (0x96, 0x2013), (0x97, 0x2014), (0x98, 0x02dc),
   (0x99, 0x2122), (0x9a, 0x0161), (0x9b, 0x203a), (0x9c, 0x0153), (0x9d, 0x9d),
   (0x9e, 0x017e), (0x9f, 0x0178)]

/-- Whether a code point is a control or a noncharacter, which a numeric
reference turns into nothing. -/
def isDropped (code : Nat) : Bool :=
  (0x1 ≤ code && code ≤ 0x8) || code == 0xb || (0xe ≤ code && code ≤ 0x1f) ||
  (0x7f ≤ code && code ≤ 0x9f) || (0xfdd0 ≤ code && code ≤ 0xfdef) ||
  0xfffe ≤ code % 0x10000

/-- What a numeric reference to a code point stands for. -/
def ofCode (code : Nat) : Text :=
  match replacedCodes.lookup code with
  | some other => [Char.ofNat other]
  | none =>
    if (0xd800 ≤ code && code ≤ 0xdfff) || 0x10ffff < code then ['\ufffd']
    else if isDropped code then []
    else [Char.ofNat code]

/-- The value of a hexadecimal digit. -/
def digitValue (c : Char) : Nat :=
  if c.isDigit then c.toNat - 48 else if c.isLower then c.toNat - 87 else c.toNat - 55

/-- The number that digits stand for in a base. -/
def number (base : Nat) (digits : Text) : Nat :=
  digits.foldl (fun n c => n * base + digitValue c) 0

/-- Whether a character is a hexadecimal digit. -/
def isHexDigit (c : Char) : Bool :=
  c.isDigit || ('a' ≤ c && c ≤ 'f') || ('A' ≤ c && c ≤ 'F')

/-! ## Named references -/

/-- What a complete name stands for. -/
def named? (name : Text) : Option Text := names.lookup name

/-- The longest listed name that a text begins with, of at most `size`
characters and at least two, replaced, with the rest of the text. -/
def longestName? (s : Text) : (size : Nat) → Option Text
  | 0 | 1 => none
  | size + 2 =>
    match named? (s.take (size + 2)) with
    | some value => some (value ++ s.drop (size + 2))
    | none => longestName? s (size + 1)

/-- What a named reference stands for, the `&` left out of its spelling. -/
def ofName (s : Text) : Text :=
  match named? s with
  | some value => value
  | none => (longestName? s (s.length - 1)).getD ('&' :: s)

/-! ## References in a text -/

/-- One more when a semicolon follows. -/
def semicolon (t : Text) (used : Nat) : Nat :=
  if t[used]? = some ';' then used + 1 else used

/-- The characters a named reference may consist of. -/
def isNameChar (c : Char) : Bool :=
  !(['\t', '\n', '\x0c', ' ', '<', '&', '#', ';'].contains c)

/-- A numeric reference at the start of what follows a `&`: its code point
and the number of characters it takes. It is read whatever the number of its
digits is; a bound on how many digits a number may be read from, such as a
run-time system can set, is not modelled. -/
def numeric? : Text → Option (Nat × Nat)
  | '#' :: t =>
    let decimal := t.takeWhile Char.isDigit
    if decimal ≠ [] then
      some (number 10 decimal, semicolon ('#' :: t) (decimal.length + 1))
    else
      match t with
      | x :: u =>
        let digits := u.takeWhile isHexDigit
        if (x = 'x' ∨ x = 'X') ∧ digits ≠ [] then
          some (number 16 digits, semicolon ('#' :: x :: u) (digits.length + 2))
        else none
      | [] => none
  | _ => none

/-- The reference at the start of what follows a `&`: what it stands for and
the number of characters it takes. A name is at most 32 characters long
without its semicolon. -/
def read? (t : Text) : Option (Text × Nat) :=
  match numeric? t with
  | some (code, used) => some (ofCode code, used)
  | none =>
    let name := (t.take 32).takeWhile isNameChar
    if name = [] then none
    else
      let used := semicolon t name.length
      some (ofName (t.take used), used)

/-- The text with its references replaced, after skipping characters that
belong to a reference already replaced. -/
def unescapeFrom : (skip : Nat) → Text → Text
  | _, [] => []
  | skip + 1, _ :: t => unescapeFrom skip t
  | 0, c :: t =>
    if c = '&' then
      match read? t with
      | some (value, used) => value ++ unescapeFrom used t
      | none => c :: unescapeFrom 0 t
    else c :: unescapeFrom 0 t

/-- The text with its character references replaced. -/
def unescape (t : Text) : Text := unescapeFrom 0 t

end Reference

end SingleFile
