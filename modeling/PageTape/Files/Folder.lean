/-!
Text files in a folder, by their paths.  A path is written without empty parts and without single
points, and the lines of a file end in a line feed however they were ended before.
-/

namespace PageTape.Files

/-! ### Paths -/

/-- The parts of a path that say something. -/
def parts (path : String) : List String :=
  (path.splitOn "/").filter fun part => part != "" && part != "."

/-- What a path begins with: a slash if it is absolute, of which two count as two. -/
def root (path : String) : String :=
  let slashes := path.toList.takeWhile (· == '/')
  if slashes.length == 2 then "//" else if slashes.isEmpty then "" else "/"

/-- A path without parts that say nothing. -/
def tidy (path : String) : String :=
  let inner := "/".intercalate (parts path)
  if root path == "" && inner == "" then "." else root path ++ inner

/-- The path of the folder that holds a file. -/
def parent (path : String) : String :=
  tidy (root path ++ "/".intercalate (parts path).dropLast)

/-! ### Lines -/

/-- Every line ends in a line feed alone. -/
def unixLines : List Char → List Char
  | [] => []
  | '\r' :: '\n' :: rest => '\n' :: unixLines rest
  | c :: rest => (if c == '\r' then '\n' else c) :: unixLines rest

/-! ### Folders -/

/-- What stands at a path. -/
inductive Found where
  | text (content : String)
  | folder
  | nothing
  deriving DecidableEq, Repr, Inhabited

/-- Files by their paths. -/
abbrev Folder := String → Found

namespace Folder

/-- A folder of some files; a path that leads to others is a folder itself. -/
def ofFiles (files : List (String × String)) : Folder := fun path =>
  let path := tidy path
  let named := files.map fun (name, content) => (tidy name, content)
  match named.lookup path with
  | some content => .text content
  | none =>
    if path == "." || named.any fun (name, _) => name.startsWith (path ++ "/") then .folder
    else .nothing

end Folder

end PageTape.Files
