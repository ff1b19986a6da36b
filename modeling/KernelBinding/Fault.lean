/-!
# KernelBinding.Fault

Why an object could not be allocated, and why a kernel could not be made or bound, with the text
and the status code that go with each cause.
-/

namespace KernelBinding

inductive AllocationFault where
  | invalidSize (size : Nat)
  | tooLarge (size max : Nat)
  | hostDataTooShort (size provided : Nat)
  | missingHostData
  | invalidFlags (reason : String)
  deriving DecidableEq

def AllocationFault.message : AllocationFault → String
  | .invalidSize size => s!"invalid buffer size {size}"
  | .tooLarge size max => s!"allocation of {size} bytes exceeds the maximum of {max} bytes"
  | .hostDataTooShort size provided =>
    s!"initial contents hold {provided} bytes but the object needs {size}"
  | .missingHostData => "COPY_HOST_PTR requires initial contents"
  | .invalidFlags reason => s!"invalid memory flags: {reason}"

/-- Why a kernel could not be resolved, made or bound, or a program not be rebuilt. -/
inductive KernelFault where
  | invalidArgIndex (index : UInt32) (count : Nat)
  | invalidArgSize (index : UInt32) (size : Nat) (reason : String)
  | invalidArgValue (index : UInt32) (reason : String)
  | invalidProgramExecutable
  | invalidKernelName (name : String)
  | invalidKernelDefinition (name reason : String)
  | kernelNotCompiled (name : String)
  | malformedMetadata (reason : String)
  | unknownDevice (id : UInt32)
  | kernelsAttached (count : UInt32)
  | outOfResources (cause : AllocationFault)
  deriving DecidableEq

namespace KernelFault

def message : KernelFault → String
  | .invalidArgIndex index count =>
    s!"argument index {index} out of bounds (kernel has {count} arguments)"
  | .invalidArgSize index size reason => s!"invalid size {size} for argument {index}: {reason}"
  | .invalidArgValue index reason => s!"invalid value for argument {index}: {reason}"
  | .invalidProgramExecutable => "no executable available for program"
  | .invalidKernelName name => s!"no kernel named `{name}` found"
  | .invalidKernelDefinition name reason => s!"kernel `{name}` differs between devices: {reason}"
  | .kernelNotCompiled name => s!"kernel `{name}` failed to compile"
  | .malformedMetadata reason => s!"malformed kernel metadata: {reason}"
  | .unknownDevice id => s!"device {id} is not associated with the program"
  | .kernelsAttached count => s!"program still has {count} live kernels attached"
  | .outOfResources cause => "failed to create kernel resource: " ++ cause.message

/-- The status code an application sees. -/
def code : KernelFault → Int
  | .invalidArgIndex .. => -49
  | .invalidArgSize .. => -51
  | .invalidArgValue .. => -50
  | .invalidProgramExecutable => -45
  | .invalidKernelName _ => -46
  | .invalidKernelDefinition .. => -47
  | .kernelNotCompiled _ => -5
  | .malformedMetadata _ => -5
  | .unknownDevice _ => -33
  | .kernelsAttached _ => -59
  | .outOfResources _ => -5

end KernelFault

end KernelBinding
