import Mathlib.Algebra.GroupWithZero.Nat
import KernelBinding.Metadata.Layout
import KernelBinding.Proofs.LastCall

/-!
# KernelBinding.Proofs.LocalMemory

The local memory of a kernel. The metadata count four bytes for each local argument, and the sizes
that the arguments ask for take their place. Only the total is kept from falling below zero; it
would do so when the metadata reserve less than they should, which laid out metadata never do.

* `filterMap_localSize?` — after any calls the configurations hold the sizes of the last accepted
  ones.
* `localMemory_add`      — laying out an item reserves what the item takes, and four bytes for a
  local argument.
* `localMemory_by_requests` — the local memory of a kernel, after any calls.
-/

namespace KernelBinding

namespace Argument

def isLocal (arg : Argument) : Bool :=
  arg.placement == .localMemory

theorem localSize?_configured (arg : Argument) (call : Call) :
    (arg.configured call).localSize? = if arg.isLocal then some call.size else none := by
  unfold configured isLocal
  cases arg.placement with
  | sampler slot => cases call.sampler? <;> rfl
  | image slots offset | memory slot offset | scalar offset size | localMemory => rfl

theorem localSize?_initialConfig (arg : Argument) :
    arg.placement.initialConfig.localSize? = if arg.isLocal then some 0 else none := by
  unfold isLocal
  cases arg.placement <;> rfl

end Argument

/-! ## Requests -/

/-- The size in the last of the calls for argument number `index`; none is zero. -/
def requestedSize (calls : List Call) (index : Nat) : Nat :=
  ((calls.findRev? (·.index.toNat == index)).map (·.size)).getD 0

namespace Metadata

variable {metadata : Metadata}

/-- The numbers of the local arguments. -/
def localArguments (metadata : Metadata) : List Nat :=
  metadata.args.zipIdx.filterMap fun (arg, index) => if arg.isLocal then some index else none

/-- Bytes of local memory that the last calls for the local arguments ask for together. -/
def localRequest (metadata : Metadata) (calls : List Call) : Nat :=
  (metadata.localArguments.map (requestedSize calls)).sum

theorem length_localArguments (metadata : Metadata) :
    metadata.localArguments.length = metadata.args.countP (·.isLocal) := by
  have hcount : metadata.args.zipIdx.countP (·.1.isLocal) = metadata.args.countP (·.isLocal) := by
    rw [← List.zipIdx_map_fst 0 metadata.args, List.countP_map, List.zipIdx_map_fst]
    rfl
  rw [localArguments, List.length_filterMap_eq_countP, ← hcount]
  refine List.countP_congr fun entry _ => ?_
  cases h : entry.1.isLocal <;> simp [h]

/-- The local arguments are configured with what they ask for, and no other argument with a size. -/
theorem filterMap_localSize? (metadata : Metadata) (samplers : List (Object Sampler))
    (constants : List (Object MemoryObject)) (calls : List Call) :
    (metadata.reference samplers constants calls).configs.filterMap (·.localSize?) =
      metadata.localArguments.map (requestedSize calls) := by
  simp only [reference, localArguments, List.mapIdx_eq_zipIdx_map, List.filterMap_map,
    List.map_filterMap]
  congr 1
  funext entry
  obtain ⟨arg, index⟩ := entry
  simp only [Function.comp]
  cases hlast : calls.findRev? (·.index.toNat == index) with
  | none =>
    have hsize : requestedSize calls index = 0 := by
      rw [requestedSize, hlast]
      rfl
    rw [arg.localSize?_initialConfig]
    cases arg.isLocal <;> simp [hsize]
  | some call =>
    have hsize : requestedSize calls index = call.size := by
      rw [requestedSize, hlast]
      rfl
    rw [arg.localSize?_configured]
    cases arg.isLocal <;> simp [hsize]

end Metadata

theorem Kernel.localMemory_assignAll {program : Nat} {limits : Limits} {metadata : Metadata}
    {fresh : Nat} {kernel : Kernel} (h : Made program limits metadata fresh kernel)
    (calls : List Call) : (kernel.assignAll calls).localMemory =
      metadata.localMemory + metadata.localRequest (kernel.accepted calls) -
        4 * metadata.localArguments.length := by
  have hconfigs := metadata.filterMap_localSize? kernel.literalSamplers kernel.inlineConstants
    (kernel.accepted calls)
  simp only [assignAll_eq, localMemory, Bindings.localRequested, Bindings.localCount,
    h.metadata_eq, foldl_perform_eq_reference h h.accepts_of_mem, hconfigs, List.length_map]
  rw [Metadata.localRequest, List.sum_eq_foldr]

/-! ## Laid out metadata -/

/-- Local memory that an item takes for itself; a local argument takes none yet. -/
def KernelItem.staticMemory : KernelItem → Nat
  | .staticLocalMemory bytes => bytes
  | _ => 0

namespace Layout

/-- Of the memory that a layout counts, four bytes are reserved for each local argument. -/
theorem localMemory_add {layout : Layout} {taken : Nat}
    (h : layout.localMemory = taken + 4 * layout.args.countP (·.isLocal)) (item : KernelItem) :
    (layout.add item).localMemory =
      taken + item.staticMemory + 4 * (layout.add item).args.countP (·.isLocal) := by
  cases item with
  | localBuffer name =>
    simp only [add, push, List.countP_append, h]
    simp [Argument.isLocal, KernelItem.staticMemory]
    omega
  | staticLocalMemory bytes =>
    simp only [add, KernelItem.staticMemory, h]
    omega
  | image name typeName qualifiers planes =>
    simp only [add]
    split <;> simp [push, Argument.isLocal, KernelItem.staticMemory, h]
  | _ => simp [add, push, Argument.isLocal, KernelItem.staticMemory, h]

theorem localMemory_foldl (items : List KernelItem) : ∀ {layout : Layout} {taken : Nat},
    layout.localMemory = taken + 4 * layout.args.countP (·.isLocal) →
      (items.foldl add layout).localMemory = taken + (items.map (·.staticMemory)).sum +
        4 * (items.foldl add layout).args.countP (·.isLocal) := by
  induction items with
  | nil => intro layout taken h; simpa using h
  | cons item rest ih =>
    intro layout taken h
    rw [List.foldl_cons, ih (localMemory_add h item), List.map_cons, List.sum_cons,
      Nat.add_assoc taken]

end Layout

theorem Metadata.localMemory_ofItems (name : String) (items : List KernelItem) :
    (Metadata.ofItems name items).localMemory = (items.map (·.staticMemory)).sum +
      4 * (Metadata.ofItems name items).localArguments.length := by
  have hempty : ({} : Layout).localMemory =
      0 + 4 * ({} : Layout).args.countP (·.isLocal) := rfl
  have hitems := Layout.localMemory_foldl items hempty
  rw [Nat.zero_add] at hitems
  rw [length_localArguments]
  exact hitems

namespace Kernel

/-- After any calls a kernel uses the local memory that its metadata count, with the sizes asked for
in place of the four bytes for each local argument, and never less than none. Laid out metadata
count what the items take for themselves and these four bytes, so the kernel uses just the former
and the sizes asked for. -/
theorem localMemory_by_requests {program : Nat} {limits : Limits} {metadata : Metadata}
    {fresh : Nat} {kernel : Kernel} (h : make program limits metadata fresh = .ok kernel)
    (calls : List Call) :
    ((kernel.assignAll calls).localMemory : Int) =
      max 0 ((metadata.localMemory : Int) + (metadata.localRequest (kernel.accepted calls) : Int) -
        4 * (metadata.localArguments.length : Int)) ∧
    ∀ name items, metadata = .ofItems name items →
      metadata.localMemory =
          (items.map (·.staticMemory)).sum + 4 * metadata.localArguments.length ∧
        (kernel.assignAll calls).localMemory =
          (items.map (·.staticMemory)).sum + metadata.localRequest (kernel.accepted calls) := by
  have hmemory := localMemory_assignAll (make_ok h) calls
  refine ⟨by omega, ?_⟩
  rintro name items rfl
  have hreserved := Metadata.localMemory_ofItems name items
  exact ⟨hreserved, by omega⟩

/-- Two local arguments, with less memory in the metadata than they have reserved. -/
def skimped : Metadata where
  name := "skimped"
  args := [⟨⟨some "a", "float*", .localMemory, ⟨0⟩⟩, .localMemory⟩,
    ⟨⟨some "b", "float*", .localMemory, ⟨0⟩⟩, .localMemory⟩]
  localMemory := 3

/-- Two local arguments around memory that the kernel takes for itself. -/
def roomy : List KernelItem :=
  [.localBuffer "a", .staticLocalMemory 10, .localBuffer "b"]

/-- The first argument is set twice, and set in vain in between. -/
def localCalls : List Call :=
  [.localMemory 0 64, .localMemory 0 0, .localMemory 0 2]

/-- Where reserved bytes are missing, the two bytes asked for in the end do not show; in a layout
they do. -/
theorem skimped_by_requests :
    (∃ kernel, make 0 {} skimped 0 = .ok kernel ∧
      ((kernel.assignAll localCalls).localMemory : Int) =
        max 0 ((skimped.localMemory : Int) +
          (skimped.localRequest (kernel.accepted localCalls) : Int) -
            4 * (skimped.localArguments.length : Int)) ∧
      skimped.localRequest (kernel.accepted localCalls) = 2 ∧
        (kernel.assignAll localCalls).localMemory = 0) ∧
    ∃ kernel, make 0 {} (.ofItems "roomy" roomy) 0 = .ok kernel ∧
      (kernel.assignAll localCalls).localMemory = (roomy.map (·.staticMemory)).sum +
        Metadata.localRequest (.ofItems "roomy" roomy) (kernel.accepted localCalls) ∧
      (kernel.assignAll localCalls).localMemory = 12 := by
  have hskimped : ∃ kernel, make 0 {} skimped 0 = .ok kernel := ⟨_, rfl⟩
  have hroomy : ∃ kernel, make 0 {} (.ofItems "roomy" roomy) 0 = .ok kernel := ⟨_, rfl⟩
  obtain ⟨kernel, h⟩ := hskimped
  obtain ⟨kernel', h'⟩ := hroomy
  refine ⟨⟨kernel, h, (localMemory_by_requests h localCalls).1, ?_, ?_⟩,
    kernel', h', ((localMemory_by_requests h' localCalls).2 _ _ rfl).2, ?_⟩
  · cases h
    rfl
  · cases h
    rfl
  · cases h'
    rfl

end Kernel

end KernelBinding
