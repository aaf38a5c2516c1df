import DnsPolicy.CommandLine

/-! Runs the command line on the arguments and files of the machine. -/
namespace DnsPolicy.Main

/-- A path that leads through a file leads nowhere, and is told by the wrong type of what is there. -/
def readFile (path : String) : IO File := do
  try
    return .bytes (← IO.FS.readBinFile path).toList
  catch
    | .noFileOrDirectory .. | .inappropriateType (some _) .. => return .missing
    | error => return .unreadable (toString error)

end DnsPolicy.Main

def main (args : List String) : IO UInt32 := do
  let contents ← (DnsPolicy.CommandLine.fileNames args).mapM fun path => do
    return (path,← DnsPolicy.Main.readFile path)
  let outcome := DnsPolicy.CommandLine.run (fun path => (contents.lookup path).getD .missing) args
  IO.print outcome.stdout
  IO.eprint outcome.stderr
  return .ofNat outcome.status
