import KernelBinding.Session.Basic

/-!
# KernelBinding.Session.View

What an observer of a session sees of a kernel: its bindings with the objects that are still alive,
called by name, and the number of live kernels of its program.
-/

namespace KernelBinding

/-- The name of an object as seen from a kernel: its place among the literals of that kernel, or the
handle it is stored under. -/
inductive ObjectName where
  | inlineConstant (index : Nat)
  | literalSampler (index : Nat)
  | handle (handle : String)
  deriving DecidableEq

structure BindingView where
  uavs : List (Option ObjectName)
  srvs : List (Option ObjectName)
  samplers : List (Option ObjectName)
  inputs : List UInt8
  configs : List ArgumentConfig
  localMemory : Nat
  deriving DecidableEq

structure KernelView where
  kernel : Kernel
  bindings : BindingView
  live : UInt32
  deriving DecidableEq

inductive SlotKind where
  | uav
  | srv
  | sampler
  deriving DecidableEq

namespace Session

/-- The name of a memory object; one that no handle stands for has none. -/
def memoryName? (session : Session) (kernel : Kernel) (object : Object MemoryObject) :
    Option ObjectName :=
  match kernel.inlineConstants.findIdx? (·.id == object.id) with
  | some index => some (.inlineConstant index)
  | none => (session.memory.entries.find? (·.2.id == object.id)).map fun entry => .handle entry.1

def samplerName? (session : Session) (kernel : Kernel) (sampler : Object Sampler) :
    Option ObjectName :=
  match kernel.literalSamplers.findIdx? (·.id == sampler.id) with
  | some index => some (.literalSampler index)
  | none => (session.samplers.entries.find? (·.2.id == sampler.id)).map fun entry => .handle entry.1

def viewBindings (session : Session) (kernel : Kernel) : BindingView where
  uavs := kernel.bindings.uavs.map fun slot =>
    (session.readMemory slot).bind (session.memoryName? kernel)
  srvs := kernel.bindings.srvs.map fun slot =>
    (session.readMemory slot).bind (session.memoryName? kernel)
  samplers := kernel.bindings.samplers.map fun slot =>
    (session.readSampler slot).bind (session.samplerName? kernel)
  inputs := kernel.bindings.inputs
  configs := kernel.bindings.configs
  localMemory := kernel.localMemory

def view (session : Session) (kernel : Kernel) : KernelView where
  kernel := kernel
  bindings := session.viewBindings kernel
  live := session.live kernel.program

/-- What is in one slot; a slot behind the end of its table is empty. -/
def viewSlot (session : Session) (kernel : Kernel) (kind : SlotKind) (slot : UInt32) :
    Option ObjectName :=
  match kind with
  | .uav => (session.uav? kernel slot).bind (session.memoryName? kernel)
  | .srv => (session.srv? kernel slot).bind (session.memoryName? kernel)
  | .sampler => (session.sampler? kernel slot).bind (session.samplerName? kernel)

end Session

end KernelBinding
