import SingleFile.Failure
import SingleFile.Token

/-!
# Script programs

What a script reader returns, whatever grammar it uses: the nodes of the
program with their places, its tokens and its comments. Nodes hold named
parts only; punctuation lives among the tokens.
-/

namespace SingleFile

/-- A part of a script. -/
structure ScriptNode where
  kind : String
  range : Range
  location : Location
  raw : Text
  children : List ScriptNode
  deriving Repr

namespace ScriptNode

/-- The kinds of nodes that are names. -/
def nameKinds : List String :=
  ["identifier", "property_identifier", "shorthand_property_identifier",
   "private_property_identifier", "statement_identifier"]

/-- The text of a node that is a name. -/
def name? (node : ScriptNode) : Option Text :=
  if nameKinds.contains node.kind then some node.raw else none

mutual
/-- The node and everything below it, in source order. -/
def walk : ScriptNode → List ScriptNode
  | ⟨kind, range, location, raw, children⟩ =>
    ⟨kind, range, location, raw, children⟩ :: walkAll children

/-- The nodes of a list and everything below them, in source order. -/
def walkAll : List ScriptNode → List ScriptNode
  | [] => []
  | node :: nodes => walk node ++ walkAll nodes
end

end ScriptNode

/-- A script that was read. -/
structure Program where
  body : List ScriptNode
  tokens : List Token
  comments : List Token
  range : Range
  deriving Repr

/-- A reader of scripts. It is told how many texts were handed over before;
a reader that ignores the number is a function of the text. -/
def ScriptParser := (asked : Nat) → (text : Text) → Except Failure Program

/-- The reader that a function of the text gives. -/
def ScriptParser.ofFunction (parse : Text → Except Failure Program) : ScriptParser :=
  fun _ text => parse text

end SingleFile
