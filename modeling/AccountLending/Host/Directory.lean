import AccountLending.Dict
import AccountLending.Host.FileError
import AccountLending.Host.Terminal
import AccountLending.Text.Parts

/-!
# A directory of files

A directory that holds files and no directories of its own.  Paths are read from it; a path may also
leave it upwards, where nothing is known but directories.

* `Directory.read` — the text of a file, or why it cannot be read;
* `Directory.write` — a file is written under its name.
-/

namespace AccountLending.Host

/-- The files of a directory by their names. -/
structure Directory where
  files : Dict (List UInt8) := Dict.empty
  deriving Repr, Inhabited

namespace Directory

/-- What is found at the end of a path. -/
inductive Node
  /-- The directory itself, or one so many levels above it. -/
  | directory (above : Nat)
  | file (bytes : List UInt8)

/-- The bytes that a name can have. -/
def nameLimit : Nat := 255

/-- Follow one step of a path. -/
def step (directory : Directory) : Node → String → Except FileError Node
  | .file _, _ => .error .notDirectory
  | .directory above, name =>
    if name = "" ∨ name = "." then .ok (.directory above)
    else if name = ".." then .ok (.directory (above + 1))
    else if nameLimit < Text.byteCount name.toList then .error .nameTooLong
    else match above, directory.files.get? name with
      | 0, some bytes => .ok (.file bytes)
      | _, _ => .error .noFile

/-- Follow the steps of a path from a directory. -/
def follow (directory : Directory) (start : Nat) (path : String) : Except FileError Node :=
  ((Text.pieces '/' path.toList).map String.ofList).foldlM directory.step (.directory start)

/-- The bytes that a path can have, the one that ends it included. -/
def pathLimit : Nat := 4096

/-- The text of the file at a path. -/
def read (directory : Directory) (path : String) : Except FileError String :=
  if path.toList.contains '\x00' then .error .badPath
  else if path = "" then .error .noFile
  else if pathLimit ≤ Text.byteCount path.toList then .error .nameTooLong
  else do
    match ← directory.follow (if Text.hasPrefix "/" path then 1 else 0) path with
    | .directory _ => .error .isDirectory
    | .file bytes =>
      match Terminal.decode? bytes with
      | some text => .ok text
      | none => .error .notText

/-- The name of the file at a path, if it is one of the directory itself. -/
def nameOf? (path : String) : Option String :=
  let names := Text.pieces '/' path.toList
  match names.filter fun name => name ≠ [] ∧ name ≠ ['.'] with
  | [name] =>
    if names.getLast? ≠ some name ∨ Text.hasPrefix "/" path ∨ name = ['.', '.'] ∨ '\x00' ∈ name
        ∨ nameLimit < Text.byteCount name ∨ pathLimit ≤ Text.byteCount path.toList then none
    else some (String.ofList name)
  | _ => none

/-- Write a file at a path.  A path that leads out of the directory writes nothing. -/
def write (path : String) (bytes : List UInt8) (directory : Directory) : Directory :=
  match nameOf? path with
  | some name => ⟨directory.files.insert name bytes⟩
  | none => directory

example : ((({} : Directory).write "./a" [65]).read "a").toOption = some "A" := by decide +kernel
example : nameOf? "a/" = none ∧ nameOf? "/a" = none ∧ nameOf? "b/a" = none ∧
    nameOf? ".." = none := by
  decide +kernel

end Directory

end AccountLending.Host
