import KernelBinding.Kernel.Assign
import KernelBinding.Session.View

/-!
# KernelBinding.Session.Command

What a session can be asked for, and what it answers. Objects are named by their handles.
-/

namespace KernelBinding

/-- A value for an argument; `none` as a handle stands for no object. -/
inductive Operand where
  | memory (handle : Option String)
  | sampler (handle : Option String)
  | bytes (bytes : List UInt8)
  deriving DecidableEq

inductive Setting where
  | memory (handle : Option String)
  | sampler (handle : Option String)
  | bytes (bytes : List UInt8)
  | localMemory (size : Nat)
  /-- Any size with any value. -/
  | raw (size : Nat) (value : Option Operand)
  deriving DecidableEq

inductive Command where
  | context (handle : String) (limits : Limits)
  | program (handle context : String) (devices : List Device)
  | rebuild (program : String) (device : Device) (build : Build)
  | builds (program : String)
  | resolve (program name : String)
  | create (program name handle : String)
  | createFrom (program : String) (metadata : Metadata) (handle : String)
  /-- Makes every kernel of a program; kernel `i` gets the given handle followed by `i`. -/
  | createAll (program handle : String)
  | copy (kernel handle : String)
  | state (kernel : String)
  | metadata (kernel : String)
  | argument (kernel : String) (index : UInt32)
  | slot (kernel : String) (kind : SlotKind) (slot : UInt32)
  | live (program : String)
  | buffer (handle context : String) (flags : MemoryFlags) (size : Nat)
      (hostData : Option (List UInt8))
  | image (handle context : String) (flags : MemoryFlags) (kind : MemoryKind)
      (format : PixelFormat) (size : Nat)
  | sampler (handle context : String) (sampler : Sampler)
  | dropMemory (handle : String)
  | dropSampler (handle : String)
  | dropKernel (handle : String)
  | set (kernel : String) (index : UInt32) (setting : Setting)
  deriving DecidableEq

/-- The answer to a request that was carried out. -/
inductive Reply where
  | done
  | limits (limits : Limits)
  | builds (builds : BuildTable) (live : UInt32)
  | metadata (metadata : Metadata)
  | kernel (view : KernelView)
  | kernels (views : List KernelView)
  | argument (argument : Option Argument)
  | slot (bound : Option ObjectName)
  | live (count : UInt32)
  | memory (object : MemoryObject)
  | sampler (sampler : Sampler)
  | dropped (existed : Bool)
  /-- With the number of live kernels that the program has left, if there was a kernel to drop. -/
  | droppedKernel (live : Option UInt32)
  | set (bindings : BindingView)
  deriving DecidableEq

/-- The answer to a request that was refused. -/
inductive Refusal where
  | noSuchHandle (handle : String)
  | allocation (fault : AllocationFault)
  | kernel (fault : KernelFault)
  /-- No kernel was made; with the number of live kernels of the program. -/
  | creation (fault : KernelFault) (live : UInt32)
  /-- An argument was not set; with the bindings the kernel still has. -/
  | assignment (fault : KernelFault) (bindings : BindingView)
  deriving DecidableEq

end KernelBinding
