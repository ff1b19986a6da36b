import KernelBinding.Kernel.Bindings
import KernelBinding.Metadata.Declarations

/-!
# KernelBinding.Kernel.Basic

Kernels, and what can be asked of one. A kernel owns the samplers and buffers made from literals in
its source; copies of a kernel own them together.
-/

namespace KernelBinding

/-- A kernel of a program: one instance of compiled code with bindings of its own. -/
structure Kernel where
  /-- The number of the program; programs are numbered in the order they are made. -/
  program : Nat
  /-- The limits of the context of the program. -/
  limits : Limits
  metadata : Metadata
  declarations : Declarations
  bindings : Bindings
  literalSamplers : List (Object Sampler)
  /-- The read-only buffers that hold constant data of the kernel. -/
  inlineConstants : List (Object MemoryObject)
  deriving DecidableEq

namespace Kernel

def name (kernel : Kernel) : String :=
  kernel.metadata.name

def argumentCount (kernel : Kernel) : Nat :=
  kernel.metadata.args.length

def argument? (kernel : Kernel) (index : UInt32) : Option Argument :=
  kernel.metadata.args[index.toNat]?

/-- The work-group size the kernel requires, if it requires one. -/
def requiredGroup? (kernel : Kernel) : Option GroupSize :=
  let size := kernel.metadata.requiredGroup
  if size.x = 0 then none else some size

/-- The work-group size the kernel suggests, if it suggests one. -/
def suggestedGroup? (kernel : Kernel) : Option GroupSize :=
  let size := kernel.metadata.suggestedGroup
  if size.x = 0 then none else some size

/-- The work-group size the kernel is compiled for; zero when that is open. -/
def compiledGroup (kernel : Kernel) : GroupSize :=
  kernel.requiredGroup?.getD {}

/-- Threads in the largest work-group the kernel can be launched with. -/
def maxGroupThreads (kernel : Kernel) : Nat :=
  kernel.limits.maxThreads.toNat

/-- Work-group sizes that suit the device are multiples of this. -/
def groupMultiple (kernel : Kernel) : Nat :=
  kernel.limits.groupMultiple.toNat

/-- Local memory of one work-group. The four bytes that the compiler reserved for each local
argument give way to what the argument asks for. -/
def localMemory (kernel : Kernel) : Nat :=
  kernel.metadata.localMemory + kernel.bindings.localRequested - 4 * kernel.bindings.localCount

def privateMemory (kernel : Kernel) : Nat :=
  kernel.metadata.privateMemory

end Kernel

end KernelBinding
