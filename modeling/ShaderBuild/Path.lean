import ShaderBuild.Text.Lines

namespace ShaderBuild.Path

/-!
# Path texts

A path is a text whose segments are separated by slashes. Empty segments do not
count, nor does `.` except as the first segment. The functions here look at the
text alone, never at files.
-/

/-- The texts between the slashes. -/
def segments : List Char → List (List Char)
  | [] => [[]]
  | c :: rest =>
      if c = '/' then
        [] :: segments rest
      else
        match segments rest with
        | [] => [[c]]
        | segment :: others => (c :: segment) :: others

/-- The text with these segments. -/
def ofSegments : List (List Char) → List Char
  | [] => []
  | [segment] => segment
  | segment :: others => segment ++ '/' :: ofSegments others

/-- A path that starts at the root. -/
def isAbsolute (path : String) : Bool :=
  path.toList.head? = some '/'

/-- Whether a segment counts, given whether it is the first one. -/
def counts (isFirst : Bool) (segment : List Char) : Bool :=
  segment ≠ [] && (segment ≠ ['.'] || isFirst)

/--
The beginnings of a list of segments that end in a segment that counts, shortest
first; `taken` are the segments before the list.
-/
def stems (taken : List (List Char)) : List (List Char) → List (List (List Char))
  | [] => []
  | segment :: others =>
      let longer := taken ++ [segment]
      if counts taken.isEmpty segment then
        longer :: stems longer others
      else
        stems longer others

/-- The path above every other one: the root, or nothing for a relative path. -/
def top (path : String) : String :=
  if isAbsolute path then "/" else ""

/-- The directories above a path, innermost first. -/
def parents (path : String) : List String :=
  match (stems [] (segments path.toList)).reverse with
  | [] => []
  | _ :: shorter => shorter.map (fun stem => String.ofList (ofSegments stem)) ++ [top path]

/-- The directory that holds what a path names; none for the root and the empty path. -/
def parent? (path : String) : Option String :=
  (parents path).head?

/-- A path and the directories above it, innermost first. -/
def withParents (path : String) : List String :=
  path :: parents path

/-- The last segment that counts, unless it is `.` or `..`. -/
def fileName? (path : String) : Option (List Char) :=
  match (stems [] (segments path.toList)).getLast?.bind (·.getLast?) with
  | some ['.'] => none
  | some ['.', '.'] => none
  | name? => name?

/-- What follows the last dot of the file name; none if there is no dot after the first character. -/
def extension? (path : String) : Option String :=
  (fileName? path).bind fun name =>
    match (name.reverse.span (· ≠ '.')) with
    | (after, '.' :: before) =>
        if before = [] then none else some (String.ofList after.reverse)
    | _ => none

/-- A path below a base, unless it is absolute. -/
def join (base path : String) : String :=
  if isAbsolute path then path
  else if base = "" || base.toList.getLast? = some '/' then base ++ path
  else base ++ "/" ++ path

end ShaderBuild.Path
