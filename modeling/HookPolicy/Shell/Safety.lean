import HookPolicy.Shell.Template

/-! Shapes of commands that do damage whatever they are given. They are reported, not refused. -/

namespace HookPolicy.Shell

def blanks1 : List Step := [blank, blanks]

def commandShapes : List (List Step × String) :=
  [(lit "rm" :: blanks1 ++ lit "-rf" :: blanks1 ++ [oneOf "/~"], "Removing root or home directory"),
   (lit "rm" :: blanks1 ++ lit "-rf" :: blanks1 ++ [lit "*"], "Removing with wildcard"),
   ([lit ">", blanks, lit "/dev/sd"], "Writing to block device"),
   ([lit "mkfs."], "Formatting filesystem"),
   (lit "dd" :: blanks1 ++ [line, lit "of=/dev"], "DD to device"),
   (lit "chmod" :: blanks1 ++ [lit "777"], "Setting world-writable permissions"),
   ([lit "curl", line, lit "|", blanks, .maybe ['b', 'a'], lit "sh"], "Piping curl to shell"),
   ([lit "wget", line, lit "|", blanks, .maybe ['b', 'a'], lit "sh"], "Piping wget to shell"),
   ([lit "eval", blank], "Using eval"),
   ([lit "$(", .many (· != ')'), lit ")"], "Command substitution detected")]

/-- What is dangerous about a command, in a fixed order. -/
def warnings (command : String) : List String := messagesShown commandShapes command

end HookPolicy.Shell
