import KernelBinding.Metadata.Basic

/-!
# KernelBinding.Metadata.Layout

Laying out a kernel the way the compiler does. The items of its source are taken in order. Slots
are numbered from zero in each table, and every argument that needs bytes of the arguments buffer
gets the next offset that is a multiple of eight.

* `le_alignUp`, `alignUp_lt`, `dvd_alignUp` — `alignUp n unit` is the first multiple of `unit` that
  is not below `n`.
-/

namespace KernelBinding

def alignUp (n unit : Nat) : Nat :=
  (n + unit - 1) / unit * unit

theorem dvd_alignUp (n unit : Nat) : unit ∣ alignUp n unit :=
  Nat.dvd_mul_left ..

theorem le_alignUp {unit : Nat} (n : Nat) (h : 0 < unit) : n ≤ alignUp n unit := by
  have h₁ := Nat.div_add_mod (n + unit - 1) unit
  have h₂ := Nat.mod_lt (n + unit - 1) h
  rw [Nat.mul_comm] at h₁
  unfold alignUp
  omega

theorem alignUp_lt {unit : Nat} (n : Nat) (h : 0 < unit) : alignUp n unit < n + unit := by
  have h₁ := Nat.div_mul_le_self (n + unit - 1) unit
  unfold alignUp
  omega

/-- One item in the source of a kernel: an argument, a literal or an attribute. -/
inductive KernelItem where
  /-- A pointer to global memory. -/
  | buffer (name : String) (qualifiers : Qualifiers)
  /-- A pointer to constant memory. -/
  | constantBuffer (name : String)
  /-- An image of several planes, each with a slot of its own. -/
  | image (name typeName : String) (qualifiers : Qualifiers) (planes : UInt32)
  | sampler (name : String)
  | scalar (name typeName : String) (size : UInt32)
  /-- A pointer to local memory. -/
  | localBuffer (name : String)
  /-- A sampler literal; its modes are ranks. -/
  | literalSampler (normalized : Bool) (addressing filter : UInt32)
  | inlineConstant (data : List UInt8)
  | staticLocalMemory (bytes : Nat)
  | requiredGroup (size : GroupSize)
  | suggestedGroup (size : GroupSize)
  deriving DecidableEq

/-- A layout in progress: what was laid out so far, the next free slot of each table and the end of
the bytes in use. -/
structure Layout where
  args : List Argument := []
  uavs : Nat := 0
  srvs : Nat := 0
  samplers : Nat := 0
  offset : Nat := 0
  literalSamplers : List LiteralSampler := []
  inlineConstants : List InlineConstant := []
  requiredGroup : GroupSize := {}
  suggestedGroup : GroupSize := {}
  localMemory : Nat := 0

namespace Layout

def nextOffset (layout : Layout) : Nat :=
  alignUp layout.offset 8

/-- Appends an argument to the list; the slots and bytes it takes are counted apart. -/
def push (layout : Layout) (name typeName : String) (space : AddressSpace)
    (qualifiers : Qualifiers) (placement : Placement) : Layout :=
  { layout with args := layout.args ++ [⟨⟨some name, typeName, space, qualifiers⟩, placement⟩] }

/-- The slots `first`, `first + 1`, … of `count` planes. -/
def planeSlots (first count : Nat) : List UInt32 :=
  (List.range count).map fun plane => .ofNat (first + plane)

def add (layout : Layout) : KernelItem → Layout
  | .buffer name qualifiers =>
    let offset := layout.nextOffset
    let placement := .memory (.ofNat layout.uavs) (.ofNat offset)
    { layout.push name "float*" .globalMemory qualifiers placement with
      uavs := layout.uavs + 1
      offset := offset + 8 }
  | .constantBuffer name =>
    let offset := layout.nextOffset
    let placement := .memory (.ofNat layout.uavs) (.ofNat offset)
    { layout.push name "float*" .constantMemory (.ofList [.const]) placement with
      uavs := layout.uavs + 1
      offset := offset + 8 }
  | .image name typeName qualifiers planes =>
    let offset := layout.nextOffset
    if qualifiers.contains .writable then
      let placement := .image (planeSlots layout.uavs planes.toNat) (.ofNat offset)
      { layout.push name typeName .globalMemory qualifiers placement with
        uavs := layout.uavs + planes.toNat
        offset := offset + PixelFormat.headerSize }
    else
      let placement := .image (planeSlots layout.srvs planes.toNat) (.ofNat offset)
      { layout.push name typeName .globalMemory qualifiers placement with
        srvs := layout.srvs + planes.toNat
        offset := offset + PixelFormat.headerSize }
  | .sampler name =>
    let placement := .sampler (.ofNat layout.samplers)
    { layout.push name samplerTypeName .privateMemory (.ofList []) placement with
      samplers := layout.samplers + 1 }
  | .scalar name typeName size =>
    let offset := layout.nextOffset
    let placement := .scalar (.ofNat offset) size
    { layout.push name typeName .privateMemory (.ofList []) placement with
      offset := offset + size.toNat }
  | .localBuffer name =>
    { layout.push name "float*" .localMemory (.ofList []) .localMemory with
      localMemory := layout.localMemory + 4 }
  | .literalSampler normalized addressing filter =>
    let literal := ⟨.ofNat layout.samplers, normalized, addressing, filter⟩
    { layout with
      literalSamplers := layout.literalSamplers ++ [literal]
      samplers := layout.samplers + 1 }
  | .inlineConstant data =>
    { layout with
      inlineConstants := layout.inlineConstants ++ [⟨.ofNat layout.uavs, data⟩]
      uavs := layout.uavs + 1 }
  | .staticLocalMemory bytes => { layout with localMemory := layout.localMemory + bytes }
  | .requiredGroup size => { layout with requiredGroup := size }
  | .suggestedGroup size => { layout with suggestedGroup := size }

/-- Lays out the items in order, starting from nothing. -/
def ofItems (items : List KernelItem) : Layout :=
  items.foldl add {}

/-- The metadata of a finished layout. Constant buffer 0 holds the arguments, rounded up to rows of
sixteen bytes, and constant buffer 1 the properties of the launch. -/
def metadata (layout : Layout) (name : String) : Metadata where
  name := name
  args := layout.args
  inputsIndex := 0
  workIndex := 1
  inputsSize := alignUp layout.offset 16
  uavCount := .ofNat layout.uavs
  srvCount := .ofNat layout.srvs
  samplerCount := .ofNat layout.samplers
  literalSamplers := layout.literalSamplers
  inlineConstants := layout.inlineConstants
  requiredGroup := layout.requiredGroup
  suggestedGroup := layout.suggestedGroup
  localMemory := layout.localMemory

end Layout

def Metadata.ofItems (name : String) (items : List KernelItem) : Metadata :=
  (Layout.ofItems items).metadata name

end KernelBinding
