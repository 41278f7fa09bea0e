/-! # Paths, and a file system seen through the two questions asked of it -/

namespace Runbook

inductive FileError where
  | notFound
  | notADirectory
  | isADirectory
  | nameTooLong
  | notText
  | nulInName
  deriving Repr, BEq, DecidableEq

def FileError.message : FileError → String
  | notFound => "No such file or directory (os error 2)"
  | notADirectory => "Not a directory (os error 20)"
  | isADirectory => "Is a directory (os error 21)"
  | nameTooLong => "File name too long (os error 36)"
  | notText => "stream did not contain valid UTF-8"
  | nulInName => "file name contained an unexpected NUL byte"

namespace Path

/-- A path against a directory. An absolute path stands for itself. -/
def join (dir path : String) : String :=
  if path.startsWith "/" then path
  else if dir.isEmpty || dir.endsWith "/" then dir ++ path
  else dir ++ "/" ++ path

/-- The directory that a canonical path lies in. The root lies in none. -/
def parent (path : String) : String :=
  let dir := (path.toList.reverse.dropWhile (· ≠ '/')).drop 1
  if path = "/" then "" else if dir.isEmpty then "/" else String.ofList dir.reverse

end Path

structure FileSystem where
  /-- The one path that all names of a file lead to. -/
  canonical : String → Except FileError String
  read : String → Except FileError String

end Runbook
