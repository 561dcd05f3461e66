import SystemOnChip.CommandLine.Run

/-! The command line. -/
namespace SystemOnChip

/-- Files and the standard output of the process. -/
def processHost : CommandLine.Host IO where
  read? path := try return some (← IO.FS.readFile path) catch _ => return none
  write path text := do
    try
      IO.FS.writeFile path text
      return true
    catch _ => return false
  print := IO.print

end SystemOnChip

open SystemOnChip in
def main (arguments : List String) : IO UInt32 := do
  let names :=
    ["SOCMAP_DESCRIPTION", "SOCMAP_FORMAT", "SOCMAP_LOG", "CLICOLOR_FORCE", "NO_COLOR"]
  let values ← names.mapM fun name => return (name, ← IO.getEnv name)
  let ending ← CommandLine.run processHost (fun name => (List.lookup name values).join) arguments
  match ending with
  | .failed failure => IO.eprintln failure.report
  | .misused => IO.eprintln "For more information, try '--help'."
  | .success => pure ()
  return ending.exitCode
