import SqlAssembly.Error

/-! A directory of files, each of them a sequence of bytes. Text is read from it as UTF-8, and a
path may be absent, stand for the directory itself or hold bytes that are no text.
-/

namespace SqlAssembly

/-- Files by name. -/
structure Directory where
  files : List (Text × ByteArray) := []

namespace Directory

/-- The parts of a path between slashes, without those that stay where they are. -/
def pathParts (path : Text) : List Text :=
  ((String.ofList path).splitOn "/").map String.toList |>.filter fun part =>
    part ≠ [] ∧ part ≠ ['.']

/-- The text of the file at a path relative to the directory. -/
def readText (d : Directory) (path : Text) : Except IoError Text :=
  match path, pathParts path with
  | [], _ => .error .notFound
  | _, [] => .error .isDirectory
  | _, [name] =>
      match d.files.lookup name with
      | none => .error .notFound
      | some bytes =>
          match String.fromUTF8? bytes with
          | some s => .ok s.toList
          | none => .error .invalidEncoding
  | _, _ => .error .notFound

end Directory

end SqlAssembly
