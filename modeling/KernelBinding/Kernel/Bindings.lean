import KernelBinding.Bytes
import KernelBinding.Memory.Object
import KernelBinding.Metadata.Basic
import KernelBinding.Object
import KernelBinding.Sampler
import KernelBinding.SlotTable

/-!
# KernelBinding.Kernel.Bindings

What is bound to the arguments of a kernel: the slots of the three binding tables, the bytes of the
arguments buffer, and what the compiler is told about each argument. A slot refers to an object
without owning it.

All effects on bindings go through `Bindings.apply`, which writes what an argument was given to the
places where the compiler put that argument.

* `length_apply` — giving an argument something changes the length of no table.
-/

namespace KernelBinding

/-- What the compiler is told about one argument. -/
inductive ArgumentConfig where
  | none
  /-- Bytes of local memory that a local argument asks for. -/
  | localMemory (size : Nat)
  /-- A sampler argument has no configuration until it is set. -/
  | sampler (config : Option SamplerConfig)
  deriving DecidableEq

/-- The bytes of local memory asked for, by a local argument. -/
def ArgumentConfig.localSize? : ArgumentConfig → Option Nat
  | .localMemory size => some size
  | _ => Option.none

/-- What an argument that has not been set is configured as. -/
def Placement.initialConfig : Placement → ArgumentConfig
  | .localMemory => .localMemory 0
  | .sampler _ => .sampler none
  | _ => .none

structure Bindings where
  uavs : List (Option (Object MemoryObject))
  srvs : List (Option (Object MemoryObject))
  samplers : List (Option (Object Sampler))
  /-- The buffer that holds the arguments. -/
  inputs : List UInt8
  configs : List ArgumentConfig
  deriving DecidableEq

/-- What an argument is given: objects for its slots, bytes for its part of the arguments buffer,
and a configuration if that changes. -/
structure Payload where
  object : Option (Object MemoryObject) := none
  sampler : Option (Object Sampler) := none
  bytes : List UInt8 := []
  config : Option ArgumentConfig := none
  deriving DecidableEq

namespace Bindings

/-- Nothing bound, and all bytes zero. -/
def initial (metadata : Metadata) : Bindings where
  uavs := .replicate metadata.uavCount.toNat none
  srvs := .replicate metadata.srvCount.toNat none
  samplers := .replicate metadata.samplerCount.toNat none
  inputs := .replicate metadata.inputsSize 0
  configs := metadata.args.map (·.placement.initialConfig)

/-- Gives `payload` to argument number `index`. -/
def apply (bindings : Bindings) (index : Nat) (arg : Argument) (payload : Payload) : Bindings where
  uavs := put bindings.uavs arg.uavSlots payload.object
  srvs := put bindings.srvs arg.srvSlots payload.object
  samplers := put bindings.samplers arg.samplerSlots payload.sampler
  inputs := overwrite bindings.inputs arg.placement.start payload.bytes
  configs :=
    match payload.config with
    | some config => bindings.configs.set index config
    | none => bindings.configs

theorem length_apply (bindings : Bindings) (index : Nat) (arg : Argument) (payload : Payload) :
    let after := bindings.apply index arg payload
    after.uavs.length = bindings.uavs.length ∧ after.srvs.length = bindings.srvs.length ∧
      after.samplers.length = bindings.samplers.length ∧
      after.inputs.length = bindings.inputs.length ∧
      after.configs.length = bindings.configs.length := by
  refine ⟨?_, ?_, ?_, ?_, ?_⟩
  all_goals simp only [apply, length_put, length_overwrite]
  split <;> simp

/-- Bytes of local memory that all local arguments ask for together. -/
def localRequested (bindings : Bindings) : Nat :=
  (bindings.configs.filterMap (·.localSize?)).foldr (· + ·) 0

/-- Number of local arguments. -/
def localCount (bindings : Bindings) : Nat :=
  (bindings.configs.filterMap (·.localSize?)).length

end Bindings

end KernelBinding
