import KernelBinding.Program.Basic

/-!
# KernelBinding.Program.Resolution

Finding a kernel by name. A program built for several devices has a kernel of one name on each of
them; they count as one kernel when all devices report the same signatures for its arguments, and
the first device provides the metadata.
-/

namespace KernelBinding

/-- In what two devices disagree about a kernel. -/
inductive Disagreement where
  | argumentCount
  | argument
  deriving DecidableEq

def Disagreement.reason : Disagreement → String
  | .argumentCount => "argument count differs between devices"
  | .argument => "argument differs between devices"

namespace Metadata

def signatures (metadata : Metadata) : List Signature :=
  metadata.args.map (·.signature)

/-- In what `other` differs from `first`, if the two cannot be one kernel. -/
def disagreement? (first other : Metadata) : Option Disagreement :=
  if first.args.length ≠ other.args.length then some .argumentCount
  else if first.signatures ≠ other.signatures then some .argument
  else none

end Metadata

/-- What has been found on the devices looked at so far. -/
structure Scan where
  /-- Whether one of them has an executable. -/
  executable : Bool := false
  /-- The metadata of the first one that has the kernel. -/
  chosen : Option Metadata := none

namespace Scan

/-- Looks at the next device. -/
def visit (name : String) (scan : Scan) (build : Option Build) : Except KernelFault Scan :=
  match build.filter (·.isExecutable) with
  | none => .ok scan
  | some build =>
    match build.kernels.find? name with
    | none => .ok { scan with executable := true }
    | some none => .error (.kernelNotCompiled name)
    | some (some found) =>
      match scan.chosen with
      | none => .ok { executable := true, chosen := some found }
      | some first =>
        match first.disagreement? found with
        | some found => .error (.invalidKernelDefinition first.name found.reason)
        | none => .ok { scan with executable := true }

/-- Looks at the remaining devices, up to the first fault. -/
def run (name : String) (scan : Scan) : BuildTable → Except KernelFault Scan
  | [] => .ok scan
  | entry :: rest =>
    match scan.visit name entry.2 with
    | .error fault => .error fault
    | .ok scan => scan.run name rest

/-- The kernel found once all devices have been looked at. -/
def result (name : String) (scan : Scan) : Except KernelFault Metadata :=
  match scan.chosen with
  | some metadata => .ok metadata
  | none =>
    if scan.executable then .error (.invalidKernelName name) else .error .invalidProgramExecutable

end Scan

namespace BuildTable

def resolve (builds : BuildTable) (name : String) : Except KernelFault Metadata :=
  match Scan.run name {} builds with
  | .error fault => .error fault
  | .ok scan => scan.result name

/-- The builds that kernels can be made from. -/
def executables (builds : BuildTable) : List Build :=
  builds.filterMap fun entry => entry.2.filter (·.isExecutable)

/-- The names of all kernels in executables, each once, in ascending order. -/
def kernelNames (builds : BuildTable) : List String :=
  let names := builds.executables.flatMap (·.kernels.names)
  (NameTable.ofList (names.map (·, ()))).names

end BuildTable

end KernelBinding
