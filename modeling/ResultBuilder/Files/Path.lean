/-!
# Paths

A path is a text whose parts are separated by slashes. Repeated slashes and single dots that are not
at the start mean nothing.
-/

namespace ResultBuilder.Path

/-- A part of a path. -/
inductive Part where
  | root
  /-- A dot at the start. -/
  | here
  /-- Two dots, which lead out of a directory. -/
  | parent
  | name (text : String)
  deriving DecidableEq, Repr

/-- The texts between the slashes of a path. -/
def pieces (path : String) : List String :=
  path.splitOn "/"

/-- The parts of a path. -/
def parts (path : String) : List Part :=
  match pieces path with
  | [] => []
  | first :: rest =>
      let start :=
        if first == "" then (if rest.isEmpty then [] else [.root])
        else if first == "." then [.here]
        else if first == ".." then [.parent]
        else [.name first]
      start ++ rest.filterMap fun piece =>
        if piece == "" || piece == "." then none
        else if piece == ".." then some .parent
        else some (.name piece)

/-- A path followed by a relative one. -/
def join (path further : String) : String :=
  if path.isEmpty || path.toList.getLast? = some '/' then path ++ further
  else path ++ "/" ++ further

/-- The text of the last part of a path, if it is a name. -/
def lastName? (parts : List Part) : Option String :=
  match parts.getLast? with
  | some (.name text) => some text
  | _ => none

/-- The name of the directory that a path is in. -/
def directoryName? (path : String) : Option String :=
  lastName? (parts path).dropLast

/-- The name of a file without what follows its last dot, unless that is its first character. -/
def stemOfName (name : String) : String :=
  let back := name.toList.reverse
  let stem := ((back.dropWhile (· != '.')).drop 1).reverse
  if stem.isEmpty then name else String.ofList stem

/-- The name of the last part of a path without its extension. -/
def stem? (path : String) : Option String :=
  (lastName? (parts path)).map stemOfName

/-- The place of a part in the order of paths. -/
def Part.rank : Part → Nat
  | .root => 0
  | .here => 1
  | .parent => 2
  | .name _ => 3

/-- Whether a part comes before another one. Names are ordered by their characters. -/
def Part.precedes : Part → Part → Bool
  | .name left, .name right => decide (left < right)
  | left, right => decide (left.rank < right.rank)

/-- Whether a path does not come after another one: the first parts that differ decide, and a path
comes before those below it. -/
def partsInOrder : List Part → List Part → Bool
  | [], _ => true
  | _ :: _, [] => false
  | left :: lefts, right :: rights =>
      if left = right then partsInOrder lefts rights else left.precedes right

/-- Paths in order. Those with the same parts keep their order. -/
def sorted (paths : List String) : List String :=
  paths.mergeSort fun left right => partsInOrder (parts left) (parts right)

end ResultBuilder.Path
