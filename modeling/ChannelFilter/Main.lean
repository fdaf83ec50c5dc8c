import ChannelFilter.Session

/-!
# The command line

Runs a session on the standard streams. The first argument, if there is one, is the path of the
field mapping. What is printed and when the session ends is decided in `ChannelFilter.Session`;
here files are looked up, lines are read and messages are written.
-/
namespace ChannelFilter.Main

/-- The words for what is refused here. -/
def causes : Causes where
  encoding _ := "the bytes are no text in UTF-8"
  mapping _ := "the text describes no field mapping"
  tokens _ := "the text describes no list of tokens"

def findEntry (path : String) : IO FileEntry := do
  try
    return .file (← IO.FS.readBinFile path)
  catch
    | .noFileOrDirectory .. => return .missing
    | cause => return .unreadable (toString cause)

def printAll (messages : List String) : IO Unit :=
  messages.forM IO.println

/-- Answers lines until one ends the session or there are no more. -/
partial def serve (mapping : FieldMapping) (input : IO.FS.Stream) : IO Unit := do
  let line ← input.getLine
  if line.isEmpty then return
  match Session.answer? causes mapping line with
  | none => return
  | some messages =>
    printAll messages
    serve mapping input

def run (arguments : List String) : IO Unit := do
  let path := arguments.head?.getD Session.defaultPath
  let entry ← findEntry path
  printAll (Session.header causes path entry)
  serve (Session.mapping causes path entry) (← IO.getStdin)

end ChannelFilter.Main

def main (arguments : List String) : IO Unit :=
  ChannelFilter.Main.run arguments
