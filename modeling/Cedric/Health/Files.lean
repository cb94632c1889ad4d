import Cedric.Lib.DecimalText

/-!
# The files of the battery health service

A file is its text. `FileCalls` says how the file calls of one `Restore` or `Backup` end.
-/

namespace Cedric.Health

open DecimalText

/-- How the calls end: a write that fails (`some left`) leaves the file as it will. -/
structure FileCalls where
  readsStorage : Bool
  readsSRAM : Bool
  savesToSRAM : Option (Option Text)
  savesToStorage : Option (Option Text)
  deriving DecidableEq

def FileCalls.succeed : FileCalls := ⟨true, true, none, none⟩

/-- `none` is a file that cannot be read. -/
def readFileToString (file : Option Text) (succeeds : Bool) : Option Text :=
  if succeeds then file else none

def writeStringToFile (text : Text) (failure : Option (Option Text)) : Option Text :=
  failure.getD (some text)

def kBuffSize : ℕ := 256

def snprintf (text : Text) : Text := text.take (kBuffSize - 1)

def assigned (fields : ℕ) (buffer : Option Text) : List CInt :=
  (buffer.map (scanAll fields)).getD []

end Cedric.Health
