import KernelBinding.Metadata.Basic
import KernelBinding.SlotTable

/-!
# KernelBinding.Metadata.Declarations

The resources a shader declares for a kernel: how many constant buffers and samplers it uses, and
the dimension in which each slot is viewed.

* `declare_ok`         — an argument is declared only if all its slots are inside the tables.
* `lengths_ofMetadata` — the tables are as long as the metadata say.
-/

namespace KernelBinding

structure Declarations where
  constantBuffers : UInt32
  samplers : UInt32
  uavs : List ViewDimension
  srvs : List ViewDimension
  deriving DecidableEq

namespace Declarations

/-- Declares all slots of argument number `index` with one dimension. -/
def declare (decls : Declarations) (index : Nat) (arg : Argument) (dimension : ViewDimension) :
    Except MetadataFault Declarations :=
  match arg.uavSlots.find? (decls.uavs.length ≤ ·.toNat) with
  | some slot => .error (.undeclaredView index .uav slot decls.uavs.length)
  | none =>
    match arg.srvSlots.find? (decls.srvs.length ≤ ·.toNat) with
    | some slot => .error (.undeclaredView index .srv slot decls.srvs.length)
    | none =>
      .ok { decls with
        uavs := put decls.uavs arg.uavSlots dimension
        srvs := put decls.srvs arg.srvSlots dimension }

/-- Declares what argument number `index` takes. Arguments in private and local memory take no
view. -/
def addArgument (decls : Declarations) (index : Nat) (arg : Argument) :
    Except MetadataFault Declarations :=
  match arg.signature.space with
  | .privateMemory | .localMemory => .ok decls
  | .globalMemory | .constantMemory =>
    match arg.signature.imageKind?, arg.placement.kind with
    | some kind, .image => decls.declare index arg kind.dimension
    | none, .memory => decls.declare index arg .buffer
    | _, found => .error (.unexpectedPlacement index arg.signature.typeName found)

/-- Declares what the arguments from number `index` on take, a later argument replacing what an
earlier one declared for the same slot. -/
def addArguments (decls : Declarations) (index : Nat) :
    List Argument → Except MetadataFault Declarations
  | [] => .ok decls
  | arg :: rest =>
    match decls.addArgument index arg with
    | .error fault => .error fault
    | .ok decls => decls.addArguments (index + 1) rest

/-- The declarations of a kernel. Constant buffers are numbered without gaps up to the last one in
use, and their count has to fit in 32 bits. -/
def ofMetadata (metadata : Metadata) : Except MetadataFault Declarations :=
  let last := max metadata.inputsIndex metadata.workIndex
  if last.toNat + 1 < UInt32.size then
    addArguments
      { constantBuffers := last + 1
        samplers := metadata.samplerCount
        uavs := .replicate metadata.uavCount.toNat .unknown
        srvs := .replicate metadata.srvCount.toNat .unknown }
      0 metadata.args
  else .error .constantBufferOverflow

theorem declare_ok {decls decls' : Declarations} {index : Nat} {arg : Argument}
    {dimension : ViewDimension} (h : decls.declare index arg dimension = .ok decls') :
    (∀ slot ∈ arg.uavSlots, slot.toNat < decls.uavs.length) ∧
      (∀ slot ∈ arg.srvSlots, slot.toNat < decls.srvs.length) ∧
      decls' = { decls with
        uavs := put decls.uavs arg.uavSlots dimension
        srvs := put decls.srvs arg.srvSlots dimension } := by
  unfold declare at h
  split at h
  · cases h
  · rename_i hu
    split at h
    · cases h
    · rename_i hs
      cases h
      exact ⟨by simpa using hu, by simpa using hs, rfl⟩

theorem addArgument_lengths {decls decls' : Declarations} {index : Nat} {arg : Argument}
    (h : decls.addArgument index arg = .ok decls') :
    decls'.uavs.length = decls.uavs.length ∧ decls'.srvs.length = decls.srvs.length := by
  unfold addArgument at h
  split at h
  · cases h; exact ⟨rfl, rfl⟩
  · cases h; exact ⟨rfl, rfl⟩
  all_goals
    split at h
    · obtain ⟨_, _, rfl⟩ := declare_ok h; simp
    · obtain ⟨_, _, rfl⟩ := declare_ok h; simp
    · cases h

theorem addArguments_lengths {args : List Argument} :
    ∀ {decls decls' : Declarations} {index : Nat}, decls.addArguments index args = .ok decls' →
      decls'.uavs.length = decls.uavs.length ∧ decls'.srvs.length = decls.srvs.length := by
  induction args with
  | nil => intro decls decls' index h; cases h; exact ⟨rfl, rfl⟩
  | cons arg rest ih =>
    intro decls decls' index h
    simp only [addArguments] at h
    split at h
    · cases h
    · rename_i next hn
      have h₁ := addArgument_lengths hn
      have h₂ := ih h
      exact ⟨h₂.1.trans h₁.1, h₂.2.trans h₁.2⟩

theorem lengths_ofMetadata {metadata : Metadata} {decls : Declarations}
    (h : ofMetadata metadata = .ok decls) :
    decls.uavs.length = metadata.uavCount.toNat ∧ decls.srvs.length = metadata.srvCount.toNat := by
  unfold ofMetadata at h
  simp only at h
  split at h
  · simpa using addArguments_lengths h
  · cases h

end Declarations

end KernelBinding
