import Segmentation.Console.Arguments
import Segmentation.Console.Configuration
import Segmentation.Console.Segments

/-!
# Running commands

A command line is read and its command is run. The exit code is 0 after a command that ran to its end and
after help, 2 if the arguments are wrong, and 1 otherwise.
-/

namespace Segmentation.Console

variable [Terminal] [Storage.Wording] [Limits] [Yaml.Writer]

/-- What a command does. -/
def Command.action : Command → Procedure Unit
  | version => Console.version
  | init configDir => Console.init configDir
  | fields => Console.fields
  | operators type => Console.operators type
  | list => Console.list
  | display name => Console.display name
  | validate name => Console.validate name
  | evaluate name contacts limit save => Console.evaluate name contacts limit save
  | create name description type => Console.create name description type
  | addMembers name emails => Console.addMembers name emails
  | removeMembers name emails => Console.removeMembers name emails

/-- The paths at which the command needs to know what stands there. -/
def Command.paths (s : Settings) (c : Command) : List Path :=
  let (s, contacts) := match c with
    | init configDir => ({ s with configDir := configDir.getD s.configDir }, s.contactsPath)
    | evaluate _ contacts _ _ => (s, contacts.getD s.contactsPath)
    | _ => (s, s.contactsPath)
  [s.configDir, s.segmentsPath.parent, s.segmentsPath, contacts, s.logDir] ++ s.cataloguePath?.toList

/-- How a command line ended. -/
structure Ending where
  code : Nat
  printed : List Printed
  escape : Option Escape

/-- Runs a command in a workspace. -/
def Command.run (c : Command) (w : Workspace) : Ending × Workspace :=
  let (result, s) := c.action.run.run ⟨w, []⟩
  let (code, escape) := match result with
    | .ok () => (0, none)
    | .error (.exit code) => (code, none)
    | .error (.escape e) => (1, some e)
  (⟨code, s.printed, escape⟩, s.workspace)

/-- Runs the command line of the given words. -/
def run (words : List String) (w : Workspace) : Ending × Workspace :=
  match readCommand words with
  | .ok c => c.run w
  | .error .help => (⟨0, [], none⟩, w)
  | .error .wrong => (⟨2, [], none⟩, w)

end Segmentation.Console
