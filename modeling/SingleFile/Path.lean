import SingleFile.Text

/-!
# Paths

A path is split at its slashes. Empty components and components `.` name
nothing; a path that begins with a slash, or with exactly two, keeps
them as its root.
-/

namespace SingleFile

namespace Path

/-- The components of a path that name something. -/
def components (path : Text) : List Text :=
  let (head, rest) := path.pieces '/'
  (head :: rest).filter fun piece => piece ≠ [] ∧ piece ≠ ['.']

/-- The slashes that a path begins with, three or more of which count as one. -/
def root (path : Text) : Text :=
  match (path.takeWhile (· = '/')).length with
  | 0 => []
  | 2 => ['/', '/']
  | _ => ['/']

/-- The path without components that name nothing. -/
def normal (path : Text) : Text :=
  match root path ++ Text.joinWith ['/'] (components path) with
  | [] => ['.']
  | p => p

/-- The last component of a path. -/
def fileName (path : Text) : Text := (components path).getLastD []

/-- The suffix of a file name: its last dot and what follows, when there is
something on either side of the dot. -/
def suffix (name : Text) : Text :=
  let tail := (name.reverse.takeWhile (· ≠ '.')).reverse
  if tail ≠ [] ∧ tail.length + 1 < name.length then '.' :: tail else []

end Path

end SingleFile
