import KernelBinding.Memory.Format
import KernelBinding.Memory.Kind

/-!
# KernelBinding.Metadata.Argument

One argument of a compiled kernel: its signature, as the source declares it, and its placement, as
the compiler laid it out.

* `imageKind?_eq_some` — images are the arguments in global or constant memory with an image type.
* `kind_eq_image`      — the kind a signature implies is `image` for exactly these.
-/

namespace KernelBinding

/-- The memory an argument lives in or points into. -/
inductive AddressSpace where
  | globalMemory
  | constantMemory
  | privateMemory
  | localMemory
  deriving DecidableEq

/-- The qualifiers that have a meaning. -/
inductive Qualifier where
  | const
  | restrict
  | volatile
  | readable
  | writable
  deriving DecidableEq

def Qualifier.bit : Qualifier → Nat
  | .const => 0
  | .restrict => 1
  | .volatile => 2
  | .readable => 3
  | .writable => 4

/-- A set of qualifiers; bits without a meaning are kept as they are. -/
structure Qualifiers where
  bits : BitVec 32
  deriving DecidableEq

namespace Qualifiers

def contains (qualifiers : Qualifiers) (qualifier : Qualifier) : Bool :=
  qualifiers.bits.getLsbD qualifier.bit

def insert (qualifiers : Qualifiers) (qualifier : Qualifier) : Qualifiers :=
  ⟨qualifiers.bits ||| BitVec.twoPow 32 qualifier.bit⟩

def ofList (qualifiers : List Qualifier) : Qualifiers :=
  qualifiers.foldl insert ⟨0⟩

def inter (a b : Qualifiers) : Qualifiers :=
  ⟨a.bits &&& b.bits⟩

end Qualifiers

inductive Access where
  | none
  | readOnly
  | writeOnly
  | readWrite
  deriving DecidableEq

inductive ArgumentKind where
  | image
  | memory
  | sampler
  | localMemory
  | scalar
  deriving DecidableEq

/-- The word for a kind of argument in messages. -/
def ArgumentKind.label : ArgumentKind → String
  | .image => "Image"
  | .memory => "Memory"
  | .sampler => "Sampler"
  | .localMemory => "Local"
  | .scalar => "Scalar"

/-- An argument as the source of the kernel declares it. Two devices agree on an argument when they
report the same signature for it. -/
structure Signature where
  /-- The name of the argument; a program built without argument information has none. -/
  name : Option String
  typeName : String
  space : AddressSpace
  qualifiers : Qualifiers
  deriving DecidableEq

namespace Signature

def isReadable (signature : Signature) : Bool :=
  signature.qualifiers.contains .readable

def isWritable (signature : Signature) : Bool :=
  signature.qualifiers.contains .writable

def access (signature : Signature) : Access :=
  match signature.isReadable, signature.isWritable with
  | true, true => .readWrite
  | false, true => .writeOnly
  | true, false => .readOnly
  | false, false => .none

/-- The type qualifiers an application sees. What lies in constant memory is constant. -/
def typeQualifiers (signature : Signature) : Qualifiers :=
  let declared := signature.qualifiers.inter (.ofList [.const, .restrict, .volatile])
  if signature.space = .constantMemory then declared.insert .const else declared

/-- The kind of image the argument takes, if it takes one. -/
def imageKind? (signature : Signature) : Option MemoryKind :=
  match signature.space with
  | .globalMemory | .constantMemory => MemoryKind.ofTypeName? signature.typeName
  | .privateMemory | .localMemory => none

def isSampler (signature : Signature) : Bool :=
  signature.space == .privateMemory && signature.typeName == samplerTypeName

/-- How an argument of this signature is bound. -/
def kind (signature : Signature) : ArgumentKind :=
  match signature.space with
  | .globalMemory | .constantMemory =>
    match signature.imageKind? with
    | some _ => .image
    | none => .memory
  | .privateMemory => if signature.isSampler then .sampler else .scalar
  | .localMemory => .localMemory

theorem imageKind?_eq_some {signature : Signature} {kind : MemoryKind} :
    signature.imageKind? = some kind ↔
      (signature.space = .globalMemory ∨ signature.space = .constantMemory) ∧
        kind.typeName? = some signature.typeName := by
  rw [← MemoryKind.ofTypeName?_eq_some]
  unfold imageKind?
  split <;> simp_all

theorem kind_eq_image {signature : Signature} :
    signature.kind = .image ↔ signature.imageKind?.isSome := by
  unfold kind
  split
  · split <;> simp_all
  · split <;> simp_all
  · simp_all [imageKind?]
    split <;> simp
  · simp_all [imageKind?]

end Signature

/-- Where the compiler placed an argument: slots of the binding tables, and bytes of the buffer that
holds the arguments. -/
inductive Placement where
  /-- An image takes one slot for each of its planes. -/
  | image (slots : List UInt32) (offset : UInt32)
  | memory (slot offset : UInt32)
  | sampler (slot : UInt32)
  | localMemory
  | scalar (offset size : UInt32)
  deriving DecidableEq

namespace Placement

def kind : Placement → ArgumentKind
  | .image .. => .image
  | .memory .. => .memory
  | .sampler _ => .sampler
  | .localMemory => .localMemory
  | .scalar .. => .scalar

def start : Placement → Nat
  | .image _ offset => offset.toNat
  | .memory _ offset => offset.toNat
  | .sampler _ => 0
  | .localMemory => 0
  | .scalar offset _ => offset.toNat

/-- Number of bytes in the arguments buffer: a format header, an address or the value itself. -/
def extent : Placement → Nat
  | .image .. => PixelFormat.headerSize
  | .memory .. => 8
  | .sampler _ => 0
  | .localMemory => 0
  | .scalar _ size => size.toNat

end Placement

structure Argument where
  signature : Signature
  placement : Placement
  deriving DecidableEq

namespace Argument

/-- The slots it takes among the writable views. Buffers are always bound there, whatever their
qualifiers, and images when the kernel may write them. -/
def uavSlots (arg : Argument) : List UInt32 :=
  match arg.placement with
  | .image slots _ => if arg.signature.isWritable then slots else []
  | .memory slot _ => [slot]
  | _ => []

def srvSlots (arg : Argument) : List UInt32 :=
  match arg.placement with
  | .image slots _ => if arg.signature.isWritable then [] else slots
  | _ => []

def samplerSlots (arg : Argument) : List UInt32 :=
  match arg.placement with
  | .sampler slot => [slot]
  | _ => []

end Argument

end KernelBinding
