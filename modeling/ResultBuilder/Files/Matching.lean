import ResultBuilder.Files.Basic
import ResultBuilder.Files.Path
import ResultBuilder.Files.Pattern

/-!
# The paths that match a pattern

Parts of a pattern without wildcards are followed as they are. The others are compared with the
names in a directory, or with all names below it.
-/

namespace ResultBuilder.PathPattern

variable {m : Type → Type} [Monad m]

/-- Whether a path is the dot that stands for the directory in which paths start. -/
def isHere (path : String) : Bool :=
  Path.parts path == [.here]

/-- A path followed by a relative one, where a dot before it is left out. -/
def enter (path further : String) : String :=
  if isHere path then further else Path.join path further

/-- Whether the last name of a path matches a part of a pattern. -/
def lastMatches (part : List Wildcard) (path : String) : Bool :=
  ((Path.pieces path).getLast?).any fun name => Wildcard.matchesName part name.toList

/-- The dots that a part of a pattern stands for besides names: only one that starts with a dot
does. -/
def dots (part : List Wildcard) : List String :=
  if part.head? = some (.char '.') then
    [".", ".."].filter fun name => Wildcard.matchesName part name.toList
  else []

/-- The paths after one below another one for which a part of a pattern stands. -/
def next (access : FileAccess m) (part : List Wildcard) (path : String) : m (List String) := do
  match Wildcard.plainName? part with
  | some name =>
      let name := String.ofList name
      let isDots := name = "." ∨ name = ".."
      let further := enter path name
      let exists? ← if isDots then access.isDirectory path else access.leads further
      return if exists? then [further] else []
  | none =>
      if ← access.isDirectory path then
        let names := (← access.below path).filter fun name => !name.toList.contains '/'
        return (dots part).map (Path.join path) ++
          (names.filter (lastMatches part)).map (enter path)
      else return []

/-- The paths that match a pattern below a path. -/
def pathsBelow (access : FileAccess m) : PathPattern → String → m (List String)
  | [], path => return [path]
  | [[.anyDepth]], path => do
      let below ← access.below path
      (below.map (enter path)).filterM access.isDirectory
  | [.anyDepth] :: [.anyDepth] :: rest, path => pathsBelow access ([.anyDepth] :: rest) path
  | [.anyDepth] :: part :: rest, path => do
      let below := (← access.below path).filter (lastMatches part)
      return (← below.mapM fun further => pathsBelow access rest (enter path further)).flatten
  | part :: rest, path => do
      let further ← next access part path
      return (← further.mapM fun path => pathsBelow access rest path).flatten
  termination_by pattern => pattern.length

/-- The paths that match the text of a pattern. A slash at its start leads to the root. -/
def paths (access : FileAccess m) (text : String) : m (Except PatternError (List String)) :=
  match ofText text with
  | .error error => return .error error
  | .ok ([] :: rest) => return .ok (← pathsBelow access rest "/")
  | .ok pattern => return .ok (← pathsBelow access pattern ".")

end ResultBuilder.PathPattern
