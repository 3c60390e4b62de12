import MetastoreProbe.Program

/-!
# The executable

`main` hands the arguments and the files of the host to `Program.run` and prints what comes of it.
It decides nothing itself.  A file is read only where the arguments name it as the settings file,
so that one file is all that the program is given.

The executable opens no sockets: the network that it hands over is the one without a route.
-/

open MetastoreProbe

/-- What reading a file of the host comes to. -/
def readHostFile (path : String) : IO (Except FileFault Bytes) := do
  try
    let content ← IO.FS.readBinFile path
    return .ok content.toList
  catch
    | .noFileOrDirectory _ _ _ => return .error .notFound
    | .inappropriateType _ _ _ => return .error .isDirectory
    | e => return .error (.other e.toString)

/-- The files of the host that a command line can lead to.  A rejected one leads to none, and a
mistake in it is told on the error output. -/
def hostFiles (arguments : List String) : IO Files := do
  match CommandLine.parse arguments with
  | .error rejection =>
    if rejection.isFault then
      IO.eprintln rejection.message
  | .ok commandLine =>
    if let some path := commandLine.config then
      let content ← readHostFile path
      return fun _ => content
  return fun _ => .error .notFound

/-- Runs the program once. -/
def main (arguments : List String) : IO UInt32 := do
  let files ← hostFiles arguments
  let outcome := Program.run Network.offline 0 files arguments
  for entry in outcome.console do
    IO.println entry.text
  return outcome.exit.code.toUInt32
