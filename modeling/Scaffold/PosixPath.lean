/-!
# Normalised paths

A path is a root and a list of segments. Reading a text drops empty segments and single dots,
keeps double dots, and keeps the two leading slashes that the standard sets apart; three or more
leading slashes are one.
-/

namespace Scaffold

/-- Where a path starts. -/
inductive PathRoot where
  /-- Relative to some directory. -/
  | relative
  /-- One leading slash. -/
  | absolute
  /-- Exactly two leading slashes. -/
  | doubled
deriving DecidableEq

/-- The slashes that a root is written with. -/
def PathRoot.slashes : PathRoot → List Char
  | .relative => []
  | .absolute => ['/']
  | .doubled => ['/', '/']

/-- The root that a text starts with. -/
def PathRoot.ofSlashes : List Char → PathRoot
  | '/' :: '/' :: '/' :: _ => .absolute
  | '/' :: '/' :: _ => .doubled
  | '/' :: _ => .absolute
  | _ => .relative

/-- A piece of text that names a step of a path. -/
def isPathSegment (segment : List Char) : Bool :=
  segment != [] && segment != ['.'] && !segment.contains '/'

/-- A root and the steps below it. -/
structure PosixPath where
  root : PathRoot
  segments : List (List Char)
  segments_ok : segments.all isPathSegment = true
deriving DecidableEq

namespace PosixPath

/-- The steps that the pieces of a text name: empty pieces and single dots name none. -/
def stepsOf (pieces : List (List Char)) : List (List Char) :=
  pieces.filter isPathSegment

def ofString (s : String) : PosixPath where
  root := PathRoot.ofSlashes s.toList
  segments := stepsOf (s.toList.splitOn '/')
  segments_ok := by simp [stepsOf]

/-- The text of a path; the path with neither a root nor a step is a dot. -/
def chars (p : PosixPath) : List Char :=
  match p.root, p.segments with
  | .relative, [] => ['.']
  | root, segments => root.slashes ++ ['/'].intercalate segments

/-- The text of a path as a string. -/
protected def toString (p : PosixPath) : String :=
  String.ofList p.chars

end PosixPath

end Scaffold
