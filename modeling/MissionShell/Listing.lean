import MissionShell.Command

/-!
# Listings

* `Listing.Request` : what the arguments of a listing ask for;
* `Listing.longLine` : an entry with its columns;
* `Listing.run` : the listing itself.
-/

namespace MissionShell.Listing

structure Request where
  hidden : Bool
  long : Bool
  target : Option String
deriving DecidableEq

/-- Arguments that start with a dash are options, each a set of letters; the others are targets, of
which the first counts. -/
def isOption (argument : String) : Bool := argument.toList.head? = some '-'

def Request.ofArguments (arguments : List String) : Request where
  hidden := arguments.any fun a => isOption a && a.toList.contains 'a'
  long := arguments.any fun a => isOption a && a.toList.contains 'l'
  target := arguments.find? (!isOption ·)

def directoryPermissions : String := "drwxr-xr-x"

/-- An entry with its columns. The kind is read off the text, a final slash marking a directory;
sizes and dates are placeholders. -/
def longLine (item : String) : String :=
  if item.toList.getLast? = some '/' then
    directoryPermissions ++ " 1 user user     4096 Nov 15 10:30 " ++ item
  else File.permissions ++ " 1 user user     1024 Nov 15 10:30 " ++ item

/-- Lists what the arguments ask for. A target that leads to a file is shown as it was typed, a
directory by its entries. -/
def run (fs : Filesystem) (arguments : List String) : Except CommandError Effect :=
  let request := Request.ofArguments arguments
  let target := request.target.getD fs.cwd.toString
  if (fs.fileAt? target).isSome then
    .ok (.print (if request.long then longLine target else target))
  else if fs.hasDirectory (fs.resolve target) then
    let items := fs.list (fs.resolve target) request.hidden
    .ok (.print (if request.long then "\n".intercalate (items.map longLine)
      else "  ".intercalate items))
  else .error (.cannotList target)

end MissionShell.Listing
