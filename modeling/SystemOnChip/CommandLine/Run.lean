import SystemOnChip.AddressMap.Finalize
import SystemOnChip.AddressMap.Json
import SystemOnChip.CommandLine.Arguments
import SystemOnChip.CommandLine.Help
import SystemOnChip.Description
import SystemOnChip.Json.Printer
import SystemOnChip.Json.Reader

/-! The command: it reads a description, composes the system, and prints or
stores its map. -/
namespace SystemOnChip.CommandLine

inductive Failure where
  | read (path : String)
  | parse (path : String)
  | compose (fault : Fault)
  | finalize (fault : Fault)
  | write (path : String)
deriving DecidableEq

namespace Failure

/-- A cause behind its heading, each of its lines indented. -/
def causedBy (fault : Fault) : String :=
  "\n\nCaused by:\n    " ++ "\n    ".intercalate (fault.message.splitOn "\n")

def report : Failure → String
  | read path => s!"Error: read {path}"
  | parse path => s!"Error: parse {path}"
  | compose fault => "Error: compose SoC" ++ causedBy fault
  | finalize fault => "Error: finalize SoC" ++ causedBy fault
  | write path => s!"Error: write {path}"

end Failure

/-- The map of the described system, as text that ends with its line. -/
def Job.render (job : Job) (description : String) : Except Failure String := do
  let description ← match Decoded.ofText Description.ofJson (Json.ofText description) with
    | .ok description => .ok description
    | .error _ => .error (.parse job.description)
  let soc ← description.compose.result.mapError .compose
  let map ← soc.finalize.result.mapError .finalize
  let text := match job.format with
    | .text => map.text
    | .json => map.toJson.pretty
  .ok (text ++ "\n")

/-- What the command needs of its surroundings: files that can be read and
written, or cannot, and a place to print to. -/
structure Host (m : Type → Type) where
  read? : String → m (Option String)
  write : String → String → m Bool
  print : String → m Unit

section
variable {m : Type → Type} [Monad m]

/-- Nothing is written unless the system was finished. -/
def Job.run (job : Job) (host : Host m) : m (Except Failure Unit) := do
  let some description ← host.read? job.description | return .error (.read job.description)
  match job.render description, job.output with
  | .error failure, _ => return .error failure
  | .ok text, none =>
    host.print text
    return .ok ()
  | .ok text, some path =>
    if ← host.write path text then return .ok () else return .error (.write path)

/-- How the command ends. -/
inductive Ending where
  | success
  | failed (failure : Failure)
  | misused
deriving DecidableEq

def Ending.exitCode : Ending → UInt32
  | success => 0
  | failed _ => 1
  | misused => 2

def run (host : Host m) (environment : String → Option String) (arguments : List String) :
    m Ending := do
  match request? environment {} arguments with
  | none => return .misused
  | some (.help long) =>
    host.print (helpText environment long)
    return .success
  | some .version =>
    host.print versionText
    return .success
  | some (.compose job) =>
    match ← job.run host with
    | .ok () => return .success
    | .error failure => return .failed failure

end

end SystemOnChip.CommandLine
