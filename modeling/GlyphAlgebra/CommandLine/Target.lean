import GlyphAlgebra.Text.Quoted

namespace GlyphAlgebra

inductive PathError
  | noSuchFile (path : String)
  | isDirectory (path : String)
  | nameTooLong (path : String)
  | nullCharacter
  deriving DecidableEq, Repr

def PathError.message : PathError → String
  | noSuchFile path => s!"[Errno 2] No such file or directory: {quoted path}"
  | isDirectory path => s!"[Errno 21] Is a directory: {quoted path}"
  | nameTooLong path => s!"[Errno 36] File name too long: {quoted path}"
  | nullCharacter => "embedded null byte"

/-- Parts of a path that stay where they are. -/
def isStill (part : List Char) : Bool :=
  part = [] || part = ['.']

/-- Follows a path from an empty directory. The name of the file to write is the last part; all
other names would have to be directories, and a slash after the last one asks for a directory
before its length is looked at. -/
def followPath (path : String) : List (List Char) → Except PathError String
  | [] => .error (.isDirectory path)
  | part :: rest =>
    if isStill part || part = ['.', '.'] then followPath path rest
    else if !rest.isEmpty && rest.all (·.isEmpty) then .error (.isDirectory path)
    else if 255 < (String.ofList part).utf8ByteSize then .error (.nameTooLong path)
    else if rest.isEmpty then .ok (String.ofList part)
    else .error (.noSuchFile path)

def targetName (path : String) : Except PathError (Option String) :=
  if path.toList.contains '\x00' then .error .nullCharacter
  else if 4095 < path.utf8ByteSize then .error (.nameTooLong path)
  else
    let parts := path.toList.splitOn '/'
    let inside := path.toList.head? ≠ some '/' && !parts.contains ['.', '.']
    (followPath path parts).map fun name => if inside then some name else none

end GlyphAlgebra
