import Runbook.File.Basic
import Runbook.Text.Blank

/-! # A file system held in memory: directories with files in them -/

namespace Runbook

inductive FileTree where
  | file (content : ByteArray)
  | directory (entries : List (String × FileTree))
  deriving Inhabited

namespace FileTree

/-- The directories and the file on the way to a node, the last first. -/
abbrev Trail := List (String × FileTree)

def node (root : FileTree) : Trail → FileTree
  | [] => root
  | (_, tree) :: _ => tree

def maxName : Nat := 255

/-- Follows the names of a path. Even to stay where one is needs a directory, so a file is the end
of every path. -/
def walk (root : FileTree) : Trail → List String → Except FileError Trail
  | trail, [] => .ok trail
  | trail, name :: names =>
    match root.node trail with
    | .file _ => .error .notADirectory
    | .directory entries =>
      if name = "" || name = "." then walk root trail names
      else if name = ".." then walk root trail.tail names
      else if maxName < name.utf8ByteSize then .error .nameTooLong
      else
        match entries.lookup name with
        | some tree => walk root ((name, tree) :: trail) names
        | none => .error .notFound

def names (path : String) : List String := (Text.splitOn '/' path.toList).map String.ofList

/-- Follows a path, which starts at the working directory unless it is absolute. -/
def resolve (root : FileTree) (workDir path : String) : Except FileError Trail :=
  if path.isEmpty then .error .notFound
  else if path.contains '\x00' then .error .nulInName
  else root.walk [] (names (Path.join workDir path))

def pathOf (trail : Trail) : String := "/" ++ "/".intercalate (trail.reverse.map (·.1))

def readNode : FileTree → Except FileError String
  | .file content =>
    match String.fromUTF8? content with
    | some text => .ok text
    | none => .error .notText
  | .directory _ => .error .isADirectory

def system (root : FileTree) (workDir : String) : FileSystem where
  canonical path := (root.resolve workDir path).map pathOf
  read path := do readNode (root.node (← root.resolve workDir path))

def setEntry (name : String) (tree : FileTree) : List (String × FileTree) → List (String × FileTree)
  | [] => [(name, tree)]
  | (other, old) :: rest =>
    if other = name then (name, tree) :: rest else (other, old) :: setEntry name tree rest

/-- Puts a node at the end of a row of names, making the directories on the way. -/
def insert (tree : FileTree) : List String → FileTree → FileTree
  | [], new => new
  | name :: names, new =>
    let entries := match tree with
      | .directory entries => entries
      | .file _ => []
    let old := (entries.lookup name).getD (.directory [])
    .directory (setEntry name (insert old names new) entries)

def erase (tree : FileTree) : List String → FileTree
  | [] => tree
  | [name] =>
    match tree with
    | .directory entries => .directory (entries.filter (·.1 != name))
    | .file _ => tree
  | name :: names =>
    match tree with
    | .directory entries =>
      match entries.lookup name with
      | some inner => .directory (setEntry name (inner.erase names) entries)
      | none => tree
    | .file _ => tree

end FileTree

end Runbook
