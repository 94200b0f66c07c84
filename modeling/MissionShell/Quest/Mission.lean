import MissionShell.Quest.Basic
import MissionShell.Quest.Error

/-!
# Missions

The missions that come with the shell. There is one: eleven steps of reconnaissance, from the first
connection to the removal of the last trace.

* `Mission.exactLine`, `Mission.inHackzone` : the checks of the steps that have one of their own;
* `Mission.first` : the first mission;
* `Mission.find` : a mission by its id.
-/

namespace MissionShell.Mission

/-! ## Checks -/

/-- Accepts a line that is one of `lines` up to blanks around it; the case of letters counts. -/
def exactLine (lines : List String) (success hint : String) : Check := fun line _ =>
  let valid := lines.contains (Text.trim line)
  .ofValid valid (if valid then success else hint)

/-- Accepts the line that enters the folder, if it led there. A line that was typed rightly but led
elsewhere is rejected with the wish to advance, which rejection overrules. -/
def inHackzone : Check := fun line fs =>
  let typed : Bool := Text.trim line = "cd hackzone"
  let arrived : Bool := "/hackzone".toList.isSuffixOf fs.cwd.toString.toList
  (Validation.ofValid (typed && arrived)
    (if arrived then "Now in hackzone directory!"
      else "Change to the hackzone directory using cd")).withAdvance typed

/-! ## The first mission -/

def establishConnection : Step where
  number := 1
  title := "Establish Connection"
  description := "Connect to the system using SSH simulation"
  expected := ["ssh", "ssh user@target"]
  alternatives := ["ssh target", "ssh user@hackbox"]
  successMessage := "Connection established successfully!"
  errorMessage := some "Use the ssh command to establish connection"

def listContents : Step where
  number := 2
  title := "List Directory Contents"
  description := "List files in the current directory"
  expected := ["ls"]
  successMessage := "Directory contents listed!"
  errorMessage := some "Use the ls command to list files"

def findHiddenFiles : Step where
  number := 3
  title := "Find Hidden Files"
  description := "Display all files including hidden ones"
  expected := ["ls -a"]
  alternatives := ["ls -la", "ls -al"]
  successMessage := "Hidden files revealed!"
  errorMessage := some "Use ls -a to show hidden files (files starting with .)"

def readSecretFile : Step where
  number := 4
  title := "Read Secret File"
  description := "Display the contents of the hidden secret file"
  expected := ["cat .secret.txt"]
  successMessage := "Secret intelligence gathered!"
  errorMessage := some "Use cat to read the .secret.txt file"
  check := some (exactLine ["cat .secret.txt"] "Mission briefing retrieved!"
    "Read the .secret.txt file using cat")

def checkLocation : Step where
  number := 5
  title := "Check Current Location"
  description := "Print the current working directory path"
  expected := ["pwd"]
  successMessage := "Current location confirmed!"
  errorMessage := some "Use pwd to print the working directory"

def createFolder : Step where
  number := 6
  title := "Create Operations Folder"
  description := "Create a new directory called \"hackzone\""
  expected := ["mkdir hackzone"]
  successMessage := "Operations folder created!"
  errorMessage := some "Use mkdir to create the hackzone directory"
  check := some (exactLine ["mkdir hackzone"] "Hackzone directory created!"
    "Create a directory named \"hackzone\" using mkdir")

def enterFolder : Step where
  number := 7
  title := "Enter Operations Folder"
  description := "Change directory to the hackzone folder"
  expected := ["cd hackzone"]
  successMessage := "Entered operations folder!"
  errorMessage := some "Use cd to change to the hackzone directory"
  check := some inHackzone

def createScript : Step where
  number := 8
  title := "Create Exploit Script"
  description := "Create an empty file called \"exploit.sh\""
  expected := ["touch exploit.sh"]
  successMessage := "Exploit script file created!"
  errorMessage := some "Use touch to create the exploit.sh file"

def writeScript : Step where
  number := 9
  title := "Write Script Content"
  description := "Write \"run\" into the exploit.sh file"
  expected := ["echo \"run\" > exploit.sh", "echo 'run' > exploit.sh"]
  alternatives := ["echo run > exploit.sh"]
  successMessage := "Script content written!"
  errorMessage := some "Use echo with redirection to write \"run\" to exploit.sh"
  check := some (exactLine
    ["echo \"run\" > exploit.sh", "echo 'run' > exploit.sh", "echo run > exploit.sh"]
    "Script payload written!" "Write \"run\" to exploit.sh using echo and redirection (>)")

def verifyScript : Step where
  number := 10
  title := "Verify Script Content"
  description := "Display the contents of exploit.sh to verify"
  expected := ["cat exploit.sh"]
  successMessage := "Script verified successfully!"
  errorMessage := some "Use cat to display the contents of exploit.sh"

def cleanUp : Step where
  number := 11
  title := "Clean Up Evidence"
  description := "Delete the exploit.sh file to cover tracks"
  expected := ["rm exploit.sh"]
  successMessage := "Evidence cleaned up successfully!"
  errorMessage := some "Use rm to delete the exploit.sh file"
  check := some (exactLine ["rm exploit.sh"] "All traces removed!"
    "Remove exploit.sh using rm command")

def firstId : String := "first-mission"

def first : Quest where
  id := firstId
  title := "System Infiltration - First Mission"
  description :=
    "Infiltrate the target system and complete reconnaissance tasks using Linux commands."
  steps := [establishConnection, listContents, findHiddenFiles, readSecretFile, checkLocation,
    createFolder, enterFolder, createScript, writeScript, verifyScript, cleanUp]
  initial := .seed
  welcomeMessage :=
    "Mission briefing: You have successfully infiltrated the target system. " ++
      "Use Linux commands to navigate and complete your objectives."
  completionMessage :=
    "Excellent work, agent! Mission completed successfully. All objectives achieved."

/-! ## Look-up -/

def ids : List String := [firstId]

/-- The mission called `id`; without an id it is the first one. -/
def find (id : Option String) : Except QuestError Quest :=
  let id := id.getD firstId
  if id = firstId then .ok first else .error (.unknownQuest id)

end MissionShell.Mission
