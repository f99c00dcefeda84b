import Vitals.Settings.Environment
import Vitals.Settings.Reading

/-!
# Loading settings

Settings come from a file and the environment. A file that is missing is no fault: every key then
keeps its default, and `Origin` says so. This file fixes `Settings.File`, what is found where the
file should be, and `Settings.load`.
-/

namespace Vitals.Settings

/-- What is found at the path of the file. -/
inductive File where
  | missing
  /-- The file cannot be read. -/
  | unreadable (reason : String)
  | found (contents : ByteArray)

/-- A directory cannot be read as a file. -/
def File.directory : File :=
  .unreadable "Is a directory (os error 21)"

/-- Where the settings come from. -/
inductive Origin where
  | file
  | defaults
  deriving DecidableEq, Repr

/-- The settings in a file. -/
def ofFile : File → Except Fault (Settings × Origin)
  | .missing => .ok ({}, .defaults)
  | .unreadable reason => .error (.io reason)
  | .found contents =>
    match String.fromUTF8? contents with
    | none => .error (.io "stream did not contain valid UTF-8")
    | some text =>
      match ofYaml text with
      | .ok s => .ok (s, .file)
      | .error p => .error p.fault

/-- The settings in force: those of the file with the variables applied, if they are valid. -/
def load (file : File) (lookup : String → Option String) : Except Fault (Settings × Origin) := do
  let (s, origin) ← ofFile file
  match (s.override lookup).bind validate with
  | .ok s => .ok (s, origin)
  | .error p => .error p.fault

end Vitals.Settings
