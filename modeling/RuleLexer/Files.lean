/-!
# Files

What a program sees of the files around it is, for every path, what stands there. A path is a text;
its parts lie between slashes, and parts that are empty or a point lead nowhere else.
-/

namespace RuleLexer

/-- What stands at a path. -/
inductive FileState
  /-- A file with its content. -/
  | file (content : ByteArray)
  /-- A directory. -/
  | directory
  /-- Nothing. -/
  | missing
  /-- Nothing, because the path leads through a file. -/
  | blocked

/-- What stands at each path. -/
abbrev Files := String → FileState

/-- Why a text cannot be read. -/
inductive ReadError
  /-- There is nothing at the path. -/
  | missing
  /-- There is a directory. -/
  | directory
  /-- The path leads through a file. -/
  | blocked
  /-- The content is not in UTF-8. -/
  | notText
  deriving DecidableEq, Repr

/-- What a failure to read a text says. -/
def ReadError.message : ReadError → String
  | .missing => "No such file or directory (os error 2)"
  | .directory => "Is a directory (os error 21)"
  | .blocked => "Not a directory (os error 20)"
  | .notText => "stream did not contain valid UTF-8"

/-- The text that bytes stand for. -/
def textOf (content : ByteArray) : Except ReadError String :=
  match String.fromUTF8? content with
  | some text => .ok text
  | none => .error .notText

namespace Files

/-- **The text at a path.** -/
def read (files : Files) (path : String) : Except ReadError String :=
  match files path with
  | .file content => textOf content
  | .directory => .error .directory
  | .missing => .error .missing
  | .blocked => .error .blocked

/-- The parts of a path, with those left out that lead nowhere else. -/
def parts (path : String) : List String :=
  (path.splitOn "/").filter fun part => part != "" && part != "."

/-- A path without parts that lead nowhere else. -/
def normal (path : String) : String :=
  (if path.startsWith "/" then "/" else "") ++ "/".intercalate (parts path)

/-- A path with an extension behind its last part, if that is a name. -/
def withExtension? (path extension : String) : Option String :=
  match (parts path).getLast? with
  | none | some ".." => none
  | some _ => some (normal path ++ "." ++ extension)

/-! ### A tree of files -/

/-- A place in or around a tree of files. -/
inductive Place
  /-- A directory in the tree, by the names that lead to it. -/
  | inside (names : List String)
  /-- A directory around the tree. -/
  | outside
  /-- A file. -/
  | file (content : ByteArray)

/-- Where a name leads from a directory in the tree. -/
def enter? (entries : List (List String × ByteArray)) (names : List String) (name : String) :
    Option Place :=
  let names := names ++ [name]
  match entries.lookup names with
  | some content => some (.file content)
  | none => if entries.any (names.isPrefixOf ·.1) then some (.inside names) else none

/-- Where the way out leads from a directory in the tree. -/
def leave : List String → Place
  | [] => .outside
  | names => .inside names.dropLast

/-- What stands where the parts of a path lead from a place. -/
def walk (entries : List (List String × ByteArray)) : Place → List String → FileState
  | .inside _, [] | .outside, [] => .directory
  | .file content, [] => .file content
  | .file _, _ :: _ => .blocked
  | .inside names, part :: rest =>
    if part = "" ∨ part = "." then walk entries (.inside names) rest
    else if part = ".." then walk entries (leave names) rest
    else
      match enter? entries names part with
      | some place => walk entries place rest
      | none => .missing
  | .outside, part :: rest =>
    if part = "" ∨ part = "." ∨ part = ".." then walk entries .outside rest else .missing

/-- **The files seen from a directory** with the given files in and below it and nothing else. -/
def ofList (entries : List (String × ByteArray)) : Files := fun path =>
  let entries := entries.map fun (name, content) => (parts name, content)
  if path = "" then .missing
  else if path.startsWith "/" then walk entries .outside (path.splitOn "/")
  else walk entries (.inside []) (path.splitOn "/")

end Files

end RuleLexer
