import SingleFile.Path

/-!
# Files

What may be found at a path, and how the text of a file is read: as
UTF-8, with CRLF and CR turned into LF. `FileTree` is a directory of
files held in memory.
-/

namespace SingleFile

/-- What is found at a path. -/
inductive Stored
  /-- Nothing. -/
  | absent
  /-- A directory. -/
  | directory
  /-- Something that cannot be read. -/
  | locked
  /-- A file with some content. -/
  | file (content : ByteArray)

namespace Stored

/-- Why a file gives no text. -/
inductive Problem
  /-- There is no file to read. -/
  | unreadable (reason : String)
  /-- The content is not UTF-8. -/
  | undecodable
  deriving DecidableEq, Repr

/-- The text with a line feed for every CRLF and every CR. -/
def unifyBreaks : Text → Text
  | [] => []
  | '\r' :: '\n' :: t => '\n' :: unifyBreaks t
  | c :: t => (if c = '\r' then '\n' else c) :: unifyBreaks t

/-- The text of what is found at a path. -/
def text : Stored → Except Problem Text
  | absent => .error (.unreadable "there is no such file")
  | directory => .error (.unreadable "it is a directory")
  | locked => .error (.unreadable "permission is denied")
  | file content =>
    match String.fromUTF8? content with
    | some s => .ok (unifyBreaks s.toList)
    | none => .error .undecodable

end Stored

/-- Files by the components of their paths, in one directory and the
directories below it. -/
structure FileTree where
  files : List (List Text × ByteArray)

namespace FileTree

/-- The file tree of some paths and contents. -/
def ofList (files : List (Text × ByteArray)) : FileTree :=
  ⟨files.map fun f => (Path.components f.1, f.2)⟩

/-- Whether a path leads to the directory itself or to one that holds files. -/
def isDirectory (t : FileTree) (path : List Text) : Bool :=
  path.isEmpty || t.files.any fun f => path.isPrefixOf f.1 && path.length < f.1.length

/-- What is found from a directory on along the pieces of a path. A piece
without a name stays in the directory, two dots lead to the one above. -/
def walk (t : FileTree) (at_ : List Text) : List Text → Stored
  | [] => .directory
  | piece :: rest =>
    if piece = [] ∨ piece = ['.'] then t.walk at_ rest
    else if piece = ['.', '.'] then
      if at_ = [] then .absent else t.walk at_.dropLast rest
    else
      match t.files.lookup (at_ ++ [piece]) with
      | some content => if rest = [] then .file content else .absent
      | none =>
        if t.isDirectory (at_ ++ [piece]) then t.walk (at_ ++ [piece]) rest else .absent

/-- What is found at a path relative to the directory. -/
def look (t : FileTree) (path : Text) : Stored :=
  match path with
  | [] => .absent
  | '/' :: rest => if rest.all (· = '/') then .directory else .absent
  | _ =>
    let (head, rest) := path.pieces '/'
    t.walk [] (head :: rest)

end FileTree

end SingleFile
