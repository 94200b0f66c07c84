/-!
# Files

A file is its name and its text. What a listing shows beside them follows from the two: dot names
are hidden, the size is counted in UTF-8 bytes, and every file has the same permissions.
-/

namespace MissionShell

structure File where
  name : String
  content : String
deriving DecidableEq

namespace File

def permissions : String := "-rw-r--r--"

def hidden (f : File) : Bool := f.name.toList.head? = some '.'

def size (f : File) : Nat := f.content.utf8ByteSize

def withContent (f : File) (content : String) : File := { f with content }

end File

end MissionShell
