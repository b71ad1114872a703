import ResultBuilder.Files.Basic
import ResultBuilder.Files.Path

/-!
# Trees of files

A tree of files holds texts under paths. A directory is there when there is a file below it. Paths
start at the root of the tree. The root is in some other directory: there are directories outside of
the tree, of which nothing is known.
-/

namespace ResultBuilder

/-- Files with their content. -/
structure FileTree where
  /-- The files, each by the names of the directories that it is in and its own name. -/
  files : List (List String × String)

namespace FileTree

/-- Where a path leads. -/
inductive Place where
  /-- The names that lead from the root of the tree. -/
  | inside (names : List String)
  | outside
  deriving DecidableEq, Repr

/-- What can be at a place of a tree. -/
inductive Node where
  | file (content : String)
  | directory
  deriving DecidableEq, Repr

/-- What kind of thing is at a place. -/
def Node.kind : Node → FileKind
  | file _ => .file
  | directory => .directory

/-- The names in a path. -/
def names (path : String) : List String :=
  (Path.parts path).filterMap fun
    | .name text => some text
    | _ => none

/-- The tree of files with given paths. -/
def ofList (files : List (String × String)) : FileTree :=
  ⟨files.map fun (path, content) => (names path, content)⟩

/-- What is at a place. -/
def node? (tree : FileTree) : Place → Option Node
  | .outside => some .directory
  | .inside names =>
      match tree.files.lookup names with
      | some content => some (.file content)
      | none =>
          if names.isEmpty || tree.files.any fun (file, _) => names.isPrefixOf file then
            some .directory
          else none

/-- How many bytes a name in a directory can have. -/
def longestName : Nat := 255

/-- How many bytes a path can have. -/
def longestPath : Nat := 4095

/-- Where a step from a directory leads: it stays there, goes out of it or goes to what has a name
in it. -/
def step (tree : FileTree) (place : Place) (piece : String) : Except FileError Place :=
  match place, piece with
  | _, "" | _, "." => .ok place
  | .outside, ".." | .inside [], ".." => .ok .outside
  | .inside names, ".." => .ok (.inside names.dropLast)
  | place, name =>
      if longestName < name.utf8ByteSize then .error .nameTooLong
      else match place with
        | .outside => .error .notFound
        | .inside names =>
            if (tree.node? (.inside (names ++ [name]))).isSome then .ok (.inside (names ++ [name]))
            else .error .notFound

/-- The place to which the pieces of a path lead. Every step starts from a directory, so that what
ends with a slash or a dot does not lead to a file. -/
def follow (tree : FileTree) (place : Place) : List String → Except FileError Place
  | [] => .ok place
  | piece :: rest =>
      match tree.node? place with
      | some .directory => do tree.follow (← tree.step place piece) rest
      | some (.file _) => .error .notDirectory
      | none => .error .notFound

/-- The place to which a path leads. -/
def place (tree : FileTree) (path : String) : Except FileError Place :=
  if path.toList.contains '\x00' then .error .zeroInName
  else if longestPath < path.utf8ByteSize then .error .nameTooLong
  else match Path.pieces path with
    | [""] => .error .notFound
    | "" :: rest => tree.follow .outside rest
    | pieces => tree.follow (.inside []) pieces

/-- What a path leads to. -/
def resolve (tree : FileTree) (path : String) : Except FileError Node := do
  match tree.node? (← tree.place path) with
  | some node => return node
  | none => throw .notFound

/-- The content of a file. -/
def read (tree : FileTree) (path : String) : Except FileError String := do
  match ← tree.resolve path with
  | .file content => return content
  | .directory => throw .isDirectory

/-- What kind of thing a path leads to. -/
def kind? (tree : FileTree) (path : String) : Option FileKind :=
  (tree.resolve path).toOption.map Node.kind

/-- The paths that lead to a file and to the directories that it is in. -/
def pathsTo (file : List String) : List String :=
  (List.range file.length).map fun count => String.intercalate "/" (file.take (count + 1))

/-- The paths of everything below a directory. -/
def below (tree : FileTree) (path : String) : List String :=
  match tree.place path with
  | .ok (.inside names) =>
      (tree.files.flatMap fun (file, _) =>
        if names.isPrefixOf file then pathsTo (file.drop names.length) else []).eraseDups
  | .ok .outside | .error _ => []

/-- The access to a tree. -/
def access (tree : FileTree) : FileAccess Id where
  read := tree.read
  kind? := tree.kind?
  below := tree.below

end FileTree

end ResultBuilder
