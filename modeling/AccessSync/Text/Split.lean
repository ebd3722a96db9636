/-!
# Splitting and joining at a separator character

`splitOn` cuts a text at every occurrence of one character and `joinWith` puts the pieces back
together; `splitLast?` cuts at the last occurrence only.
-/

namespace AccessSync.Text

/-- The pieces of `cs` between occurrences of `sep`; never empty. -/
def splitChars (sep : Char) : List Char → List (List Char)
  | [] => [[]]
  | c :: rest =>
    if c = sep then [] :: splitChars sep rest
    else match splitChars sep rest with
      | [] => [[c]]
      | piece :: pieces => (c :: piece) :: pieces

def splitOn (sep : Char) (s : String) : List String :=
  (splitChars sep s.toList).map String.ofList

def joinChars (sep : Char) : List (List Char) → List Char
  | [] => []
  | [piece] => piece
  | piece :: pieces => piece ++ sep :: joinChars sep pieces

def joinWith (sep : Char) (pieces : List String) : String :=
  String.ofList (joinChars sep (pieces.map String.toList))

def splitLastChars? (sep : Char) : List Char → Option (List Char × List Char)
  | [] => none
  | c :: rest =>
    match splitLastChars? sep rest with
    | some (before, after) => some (c :: before, after)
    | none => if c = sep then some ([], rest) else none

/-- The text before and the text after the last occurrence of `sep`, if there is one. -/
def splitLast? (sep : Char) (s : String) : Option (String × String) :=
  (splitLastChars? sep s.toList).map fun (before, after) =>
    (String.ofList before, String.ofList after)

def startsWith (start s : String) : Bool :=
  start.toList.isPrefixOf s.toList

/-- What follows `start` in the text, if the text starts with it. -/
def dropStart? (start s : String) : Option String :=
  if startsWith start s then some (String.ofList (s.toList.drop start.toList.length)) else none

def containsChars (piece : List Char) : List Char → Bool
  | [] => piece.isEmpty
  | c :: rest => piece.isPrefixOf (c :: rest) || containsChars piece rest

def contains (piece s : String) : Bool :=
  containsChars piece.toList s.toList

def take (n : Nat) (s : String) : String :=
  String.ofList (s.toList.take n)

end AccessSync.Text
