import Orchestra.Cli
import Orchestra.Utf8

namespace Orchestra

namespace Cli

/-- What lies at a path of the file system. -/
def lookAt (path : String) : IO (Option FileNode) := do
  try
    let found ← IO.FS.realPath path
    if ← found.isDir then
      return some (.directory ((← found.readDir).toList.map (·.fileName)))
    else return some (.file (← IO.FS.readBinFile path))
  catch _ => return none

/-- Whether an action goes through. -/
def succeeds (action : IO Unit) : IO Bool := do
  try
    action
    return true
  catch _ => return false

/-- Lines are kept beside a file, in one that is named after it. -/
def keepBeside (path : String) (lines : List String) : IO Unit := do
  let file ← IO.FS.Handle.mk (path ++ "-records") .append
  for line in lines do file.putStrLn line

def system : Host IO where
  look := lookAt
  makeDirectory path := succeeds (IO.FS.createDirAll path)
  makeFile path := succeeds (discard (IO.FS.Handle.mk path .append))
  remove path := discard (succeeds (IO.FS.removeFile path))
  keep path lines := discard (succeeds (keepBeside path lines))
  rootLength := do return (← IO.currentDir).toString.utf8ByteSize

/-- The variables of the process. -/
def environment : IO (List (String × String)) := do
  try
    let text := Utf8.lossyText (← IO.FS.readBinFile "/proc/self/environ")
    return (splitBy '\x00' text.toList).filterMap fun entry =>
      let (name, value) := entry.span (· ≠ '=')
      if name.isEmpty then none else some (String.ofList name, String.ofList (value.drop 1))
  catch _ => return []

end Cli

end Orchestra

/-- The exit code of a program that is aborted. -/
def Orchestra.Cli.abortCode : Nat := 134

def main (arguments : List String) : IO UInt32 := do
  let outcome ← Orchestra.Cli.call Orchestra.Cli.system arguments (← Orchestra.Cli.environment)
  IO.print outcome.stdout
  IO.eprint outcome.stderr
  return (outcome.exitCode.getD Orchestra.Cli.abortCode).toUInt32
