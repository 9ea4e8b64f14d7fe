/-!
# Files

What paths lead to. How a path is followed is left open, through directories, links and out of the working
directory, and so is the search for the file of variables.
-/

namespace Relay

/-- A file that can be read, or something that cannot, such as a directory. -/
inductive FileEntry where
  | file (bytes : ByteArray)
  | unreadable

structure Files where
  /-- What stands where a path leads, if anything. -/
  at? : String → Option FileEntry
  /-- The file of variables, if one is found. -/
  variables? : Option FileEntry

namespace Files

def empty : Files := ⟨fun _ => none, none⟩

def pieces (path : String) : List String := path.splitOn "/"

def lastName (path : String) : Option String :=
  ((pieces path).filter fun piece => piece ≠ "" && piece ≠ ".").getLast?.filter (· ≠ "..")

/-- What stands behind the last dot of a name that does not start with it. -/
def extension (path : String) : Option String := do
  let name ← lastName path
  match name.splitOn "." with
  | [_] => none
  | ["", _] => none
  | parts => parts.getLast?

end Files
end Relay
