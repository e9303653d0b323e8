import SingleFile.Text

/-!
# Arguments of the command line

Options and positional arguments are told apart as on most command
lines: a long option brings its value along after `=` or takes the next
argument, a short option takes the rest of its argument or the next one,
and `--` ends the options. Options may be allowed among the positional
arguments or only before them.
-/

namespace SingleFile

namespace CommandLine

/-- An option and its names. -/
structure OptionForm where
  long : Text
  short : Option Char
  takesValue : Bool
  deriving Repr

/-- What is wrong with the arguments. -/
inductive Usage
  | noSuchOption (spelling : Text)
  | valueMissing (option : Text)
  | valueUnexpected (option : Text)
  | commandMissing
  | noSuchCommand (name : Text)
  | argumentMissing
  | argumentUnexpected (argument : Text)
  | fileUnusable (path : Text)
  | badLevel (message : String)
  deriving DecidableEq, Repr

/-- The message of a usage problem. -/
def Usage.message : Usage → String
  | noSuchOption spelling => s!"No such option: {spelling.toStr}"
  | valueMissing option => s!"Option {option.toStr} requires an argument."
  | valueUnexpected option => s!"Option {option.toStr} does not take a value."
  | commandMissing => "Missing command."
  | noSuchCommand name => s!"No such command {name.toStr}."
  | argumentMissing => "Missing argument PATH."
  | argumentUnexpected argument => s!"Got unexpected extra argument ({argument.toStr})"
  | fileUnusable path => s!"Invalid value for PATH: file {path.toStr} cannot be used."
  | badLevel message => s!"Invalid value for --log-level: {message}"

/-- The options given, by their long names, with their values. -/
abbrev Given := List (Text × Option Text)

/-- The arguments taken apart. -/
structure Arguments where
  given : Given
  positional : List Text
  deriving Repr

namespace Arguments

/-- The value of the last use of an option that takes one. -/
def value? (a : Arguments) (long : Text) : Option Text :=
  (a.given.reverse.lookup long).join

/-- Whether an option is given. -/
def has (a : Arguments) (long : Text) : Bool := (a.given.lookup long).isSome

/-- A long option with what stands after its equals sign, when the name is
that of an option. -/
def long? (forms : List OptionForm) (argument : Text) : Option (OptionForm × Option Text) :=
  let name := argument.takeWhile (· ≠ '=')
  let attached := match argument.dropWhile (· ≠ '=') with
    | [] => none
    | _ :: value => some value
  (forms.find? fun f => f.long == name).map (·, attached)

/-- What an argument that begins with a dash stands for: options, and an
option that still waits for its value. -/
def options (forms : List OptionForm) (argument : Text) :
    Except Usage (Given × Option Text) :=
  match long? forms argument with
  | some (form, attached) =>
    if form.takesValue then
      match attached with
      | some value => .ok ([(form.long, some value)], none)
      | none => .ok ([], some form.long)
    else
      match attached with
      | some _ => .error (.valueUnexpected form.long)
      | none => .ok ([(form.long, none)], none)
  | none =>
    if argument.beginsWith ['-', '-'] then .error (.noSuchOption argument)
    else shorts (argument.drop 1)
where
  /-- The short options in a row of letters. -/
  shorts : Text → Except Usage (Given × Option Text)
    | [] => .ok ([], none)
    | c :: rest =>
      match forms.find? fun f => f.short == some c with
      | none => .error (.noSuchOption ['-', c])
      | some form =>
        if form.takesValue then
          if rest = [] then .ok ([], some form.long) else .ok ([(form.long, some rest)], none)
        else do
          let (given, waiting) ← shorts rest
          return ((form.long, none) :: given, waiting)

/-- The arguments taken apart; `mixed` allows options after positional ones. -/
def parse (forms : List OptionForm) (mixed : Bool) :
    (waiting : Option Text) → List Text → Except Usage Arguments
  | none, [] => .ok ⟨[], []⟩
  | some option, [] => .error (.valueMissing option)
  | some option, value :: rest => do
    let more ← parse forms mixed none rest
    return { more with given := (option, some value) :: more.given }
  | none, argument :: rest =>
    if argument = ['-', '-'] then .ok ⟨[], rest⟩
    else if argument.beginsWith ['-'] ∧ 1 < argument.length then do
      let (given, waiting) ← options forms argument
      let more ← parse forms mixed waiting rest
      return { more with given := given ++ more.given }
    else if mixed then do
      let more ← parse forms mixed none rest
      return { more with positional := argument :: more.positional }
    else .ok ⟨[], argument :: rest⟩

end Arguments

end CommandLine

end SingleFile
