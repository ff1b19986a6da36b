import KernelBinding.Proofs.Bounds

/-!
# KernelBinding.Proofs.Access

What a kernel may be given to read and to write. Every memory object in a view of a kernel got there
as an inline constant or through an argument that takes the view (`Bindings.Sourced`), and an
argument is given only what its signature allows. That holds however arguments and constants share
their slots.

* `allows_of_accept` — an accepted call has an object that its argument allows.
* `sourced_of_reaches` — every recorded object has such a source.
* `reaches_accessSafe` — so nothing is bound for an access that its flags forbid.
-/

namespace KernelBinding

/-! ## Allowed objects -/

/-- The kernel writes to no read-only image, and reads from no write-only one. An image that it may
not write is one that it reads. -/
def Signature.Allows (signature : Signature) (image : MemoryObject) : Prop :=
  (signature.isWritable → image.isReadOnly = false) ∧
    (signature.isReadable ∨ ¬ signature.isWritable → image.isWriteOnly = false)

/-- The memory objects an argument takes: images of its type with the right flags, or any buffer. -/
def Argument.Allows (arg : Argument) (object : MemoryObject) : Prop :=
  match arg.placement with
  | .image .. => arg.signature.imageKind? = some object.kind ∧ arg.signature.Allows object
  | .memory .. => object.kind = .buffer
  | .sampler _ | .localMemory | .scalar .. => False

theorem Signature.imageFault?_eq_none {signature : Signature} {kind : MemoryKind}
    {image : MemoryObject} :
    signature.imageFault? kind image = none ↔ image.kind = kind ∧ signature.Allows image := by
  unfold imageFault? Allows
  by_cases hkind : image.kind = kind
  · rw [if_neg fun hne => hne hkind]
    cases signature.isWritable with
    | false => cases image.isWriteOnly <;> simp [hkind]
    | true =>
      cases image.isReadOnly with
      | true => simp
      | false => cases signature.isReadable <;> cases image.isWriteOnly <;> simp [hkind]
  · rw [if_pos hkind]
    simp [hkind]

namespace Argument

variable {arg : Argument} {call : Call} {payload : Payload} {object : Object MemoryObject}

theorem allows_of_acceptImage (h : arg.acceptImage call.size call.value = .ok payload)
    (ho : call.object? = some object) :
    arg.signature.imageKind? = some object.value.kind ∧ arg.signature.Allows object.value := by
  unfold acceptImage at h
  split at h
  · cases h
  · rename_i hop
    obtain rfl := (memoryOperand_ok hop).1
    rw [ho] at h
    split at h
    · cases h
    · rename_i kind hkind
      split at h
      · cases h
      · rename_i hfault
        obtain ⟨rfl, hallows⟩ := Signature.imageFault?_eq_none.1 hfault
        exact ⟨hkind, hallows⟩

theorem kind_of_acceptMemory {slot : UInt32}
    (h : acceptMemory slot call.size call.value = .ok payload) (ho : call.object? = some object) :
    object.value.kind = .buffer := by
  unfold acceptMemory at h
  split at h
  · cases h
  · rename_i hop
    rw [(memoryOperand_ok hop).1] at ho
    cases ho
  · rename_i hop
    rw [(memoryOperand_ok hop).1] at ho
    cases ho
    split at h
    · cases h
    · rename_i hkind
      simpa using hkind

theorem allows_of_accept (h : arg.accept call.size call.value = .ok payload)
    (ho : call.object? = some object) : arg.Allows object.value := by
  unfold accept at h
  unfold Allows
  split at h
  · rename_i hp
    rw [hp]
    exact allows_of_acceptImage h ho
  · rename_i hp
    rw [hp]
    exact kind_of_acceptMemory h ho
  · unfold acceptSampler at h
    split at h
    · cases h
    · rename_i hop
      rw [(samplerOperand_ok hop).2] at ho
      cases ho
  · obtain ⟨bytes, hv, -⟩ := acceptScalar_ok h
    simp [Call.object?, hv] at ho
  · obtain ⟨hv, -⟩ := acceptLocal_ok h
    simp [Call.object?, hv] at ho

end Argument

/-! ## Inline constants -/

theorem exists_of_lastLiteral {α : Type} {slots : List UInt32} {objects : List (Object α)} {i : Nat}
    {object : Object α} (h : lastLiteral slots objects i = some object) :
    ∃ (j : Nat) (slot : UInt32), slots[j]? = some slot ∧ objects[j]? = some object ∧
      slot.toNat = i := by
  obtain ⟨p, hp, rfl⟩ := Option.map_eq_some_iff.1 h
  obtain ⟨j, hj, hplace, -⟩ := findRev?_eq_some.1 hp
  obtain ⟨hslot, hobject⟩ := List.getElem?_zip_eq_some.1 hj
  exact ⟨j, p.1, hslot, hobject, eq_of_beq hplace⟩

namespace Bindings

/-- Every object in a view is an inline constant of that slot, or some argument that takes the slot
allows it. -/
structure Sourced (metadata : Metadata) (bindings : Bindings) : Prop where
  uav : ∀ (i : Nat) (object : Object MemoryObject), bindings.uavs[i]? = some (some object) →
    (∃ literal ∈ metadata.inlineConstants, literal.slot.toNat = i ∧
      object.value.kind = .buffer) ∨
        ∃ arg ∈ metadata.args, arg.takesUav i ∧ arg.Allows object.value
  srv : ∀ (i : Nat) (object : Object MemoryObject), bindings.srvs[i]? = some (some object) →
    ∃ arg ∈ metadata.args, arg.takesSrv i ∧ arg.Allows object.value

theorem sourced_perform {metadata : Metadata} {bindings : Bindings} {call : Call}
    (h : bindings.Sourced metadata) (hacc : metadata.accepts call) :
    (metadata.perform bindings call).Sourced metadata := by
  obtain ⟨arg, payload, hget, hval⟩ := Metadata.exists_of_accepts hacc
  have hmem := List.mem_of_getElem? hget
  simp only [Metadata.perform, hget]
  refine ⟨fun i object hi => ?_, fun i object hi => ?_⟩
  · rw [getElem?_uavs_apply, Option.map_eq_some_iff] at hi
    obtain ⟨old, hold, hi⟩ := hi
    by_cases htakes : arg.takesUav i
    · rw [if_pos htakes] at hi
      exact .inr ⟨arg, hmem, htakes, Argument.allows_of_accept hval hi⟩
    · rw [if_neg htakes] at hi
      exact h.uav i object (hi ▸ hold)
  · rw [getElem?_srvs_apply, Option.map_eq_some_iff] at hi
    obtain ⟨old, hold, hi⟩ := hi
    by_cases htakes : arg.takesSrv i
    · rw [if_pos htakes] at hi
      exact ⟨arg, hmem, htakes, Argument.allows_of_accept hval hi⟩
    · rw [if_neg htakes] at hi
      exact h.srv i object (hi ▸ hold)

end Bindings

namespace Kernel

variable {program : Nat} {limits : Limits} {metadata : Metadata} {fresh : Nat}
  {start kernel : Kernel}

theorem Made.sourced (h : Made program limits metadata fresh kernel) :
    kernel.bindings.Sourced metadata := by
  rw [h.bindings]
  refine ⟨fun i object hi => .inl ?_, fun i object hi => ?_⟩
  · simp only [Bindings.initial, getElem?_placeLiterals] at hi
    split at hi
    · obtain ⟨j, slot, hslot, hobject, hsi⟩ := exists_of_lastLiteral (Option.some.inj hi)
      obtain ⟨-, literal, hliteral, hbuffer⟩ := getElem?_allocate h.buffers hobject
      simp only [List.getElem?_map, hliteral, Option.map_some, Option.some.injEq] at hslot
      exact ⟨literal, List.mem_of_getElem? hliteral, hslot ▸ hsi,
        (InlineConstant.buffer_ok hbuffer).kind_eq⟩
    · cases hi
  · simp only [Bindings.initial, List.getElem?_replicate] at hi
    split at hi <;> cases hi

theorem sourced_of_reaches (h : Made program limits metadata fresh start)
    (hr : start.Reaches kernel) : kernel.bindings.Sourced metadata := by
  refine bindings_of_reaches h.sourced (fun bindings call hacc hb => ?_) hr
  rw [h.metadata_eq] at hacc ⊢
  exact Bindings.sourced_perform hb hacc

end Kernel

/-! ## Safety of access -/

theorem Argument.isImage_of_allows {arg : Argument} {object : MemoryObject}
    (h : arg.Allows object) (hkind : object.kind ≠ .buffer) :
    arg.signature.imageKind? = some object.kind ∧ arg.signature.Allows object := by
  unfold Allows at h
  split at h
  · exact h
  · exact absurd h hkind
  · exact h.elim
  · exact h.elim
  · exact h.elim

theorem Signature.imageKind?_ne_buffer (signature : Signature) :
    signature.imageKind? ≠ some .buffer := by
  unfold imageKind?
  split
  · exact MemoryKind.ofTypeName?_ne_buffer _
  · exact MemoryKind.ofTypeName?_ne_buffer _
  · exact nofun
  · exact nofun

/-- An argument that takes a read-only view is an image that the kernel may not write. -/
theorem Argument.not_isWritable_of_takesSrv {arg : Argument} {i : Nat} (h : arg.takesSrv i) :
    ∃ slots offset, arg.placement = .image slots offset ∧ ¬ arg.signature.isWritable := by
  unfold takesSrv srvSlots at h
  split at h
  · rename_i slots offset hp
    refine ⟨slots, offset, hp, fun hw => ?_⟩
    simp [hw] at h
  · simp at h

/-- An image argument that takes a writable view is one that the kernel may write. -/
theorem Argument.isWritable_of_takesUav {arg : Argument} {i : Nat} {object : MemoryObject}
    (h : arg.takesUav i) (hallows : arg.Allows object) (hkind : object.kind ≠ .buffer) :
    arg.signature.isWritable := by
  unfold Allows at hallows
  unfold takesUav uavSlots at h
  split at h
  · split at h
    · assumption
    · simp at h
  · rename_i hp
    rw [hp] at hallows
    exact absurd hallows hkind
  · simp at h

namespace Bindings

/-- No view holds an object that must not be accessed in the way the view is. -/
structure AccessSafe (metadata : Metadata) (bindings : Bindings) : Prop where
  srv : ∀ (i : Nat) (object : Object MemoryObject), bindings.srvs[i]? = some (some object) →
    object.value.kind ≠ .buffer ∧ object.value.isWriteOnly = false
  uav : ∀ (i : Nat) (object : Object MemoryObject), bindings.uavs[i]? = some (some object) →
    object.value.kind ≠ .buffer → object.value.isReadOnly = false
  /-- A write-only image is found only where some argument is written and not read. -/
  writeOnly : ∀ (i : Nat) (object : Object MemoryObject), bindings.uavs[i]? = some (some object) →
    object.value.kind ≠ .buffer → object.value.isWriteOnly →
      ∃ arg ∈ metadata.args, arg.signature.isWritable ∧ ¬ arg.signature.isReadable ∧
        arg.takesUav i

theorem Sourced.accessSafe {metadata : Metadata} {bindings : Bindings}
    (h : bindings.Sourced metadata) : bindings.AccessSafe metadata := by
  -- A constant is a buffer, so an image in a writable view came through an argument.
  have himage : ∀ (i : Nat) (object : Object MemoryObject), bindings.uavs[i]? = some (some object) →
      object.value.kind ≠ .buffer → ∃ arg ∈ metadata.args, arg.takesUav i ∧
        arg.signature.isWritable ∧ arg.signature.Allows object.value := by
    intro i object hi hkind
    rcases h.uav i object hi with ⟨literal, _, _, hbuffer⟩ | ⟨arg, harg, htakes, hallows⟩
    · exact absurd hbuffer hkind
    · exact ⟨arg, harg, htakes, Argument.isWritable_of_takesUav htakes hallows hkind,
        (Argument.isImage_of_allows hallows hkind).2⟩
  refine ⟨fun i object hi => ?_, fun i object hi hkind => ?_, fun i object hi hkind hwrite => ?_⟩
  · obtain ⟨arg, _, htakes, hallows⟩ := h.srv i object hi
    obtain ⟨slots, offset, hp, hw⟩ := Argument.not_isWritable_of_takesSrv htakes
    simp only [Argument.Allows, hp] at hallows
    refine ⟨fun hbuffer => ?_, hallows.2.2 (.inr hw)⟩
    rw [hbuffer] at hallows
    exact arg.signature.imageKind?_ne_buffer hallows.1
  · obtain ⟨arg, _, _, hw, hallows⟩ := himage i object hi hkind
    exact hallows.1 hw
  · obtain ⟨arg, harg, htakes, hw, hallows⟩ := himage i object hi hkind
    refine ⟨arg, harg, hw, fun hread => ?_, htakes⟩
    rw [hallows.2 (.inl hread)] at hwrite
    cases hwrite

end Bindings

namespace Kernel

/-- Whatever calls and copies make of a new kernel, with whatever objects: a read-only view holds
neither a plain buffer nor a write-only image, a writable view holds no read-only image, and a
write-only image only where some argument is written and not read. Arguments and constants may share
slots as they like. -/
theorem reaches_accessSafe {program : Nat} {limits : Limits} {metadata : Metadata} {fresh : Nat}
    {start kernel : Kernel} (h : make program limits metadata fresh = .ok start)
    (hr : start.Reaches kernel) : kernel.bindings.AccessSafe metadata :=
  (sourced_of_reaches (make_ok h) hr).accessSafe

/-- Two images and a constant in one writable view: one image is only written, the other also
read. -/
def sharedView : Metadata where
  name := "sharedView"
  args := [⟨⟨some "w", "image2d_t", .globalMemory, .ofList [.writable]⟩, .image [0] 0⟩,
    ⟨⟨some "rw", "image2d_t", .globalMemory, .ofList [.readable, .writable]⟩, .image [0] 0⟩]
  inputsSize := 8
  uavCount := 1
  inlineConstants := [⟨0, [1]⟩]

def writeOnlyImage : Object MemoryObject :=
  ⟨7, ⟨.image2D, .ofList [.writeOnly], some ⟨.rgba, .float⟩, 16, none, nofun⟩⟩

/-- The first argument takes the image, the second refuses it. -/
def sharedViewCalls : List Call :=
  [.memory 0 (some writeOnlyImage), .memory 1 (some writeOnlyImage)]

theorem sharedView_accessSafe :
    ∃ start, make 0 {} sharedView 0 = .ok start ∧
      (start.assignAll sharedViewCalls).bindings.uavs = [some writeOnlyImage] ∧
      (start.assignAll sharedViewCalls).bindings.AccessSafe sharedView := by
  have hmake : ∃ start, make 0 {} sharedView 0 = .ok start := ⟨_, rfl⟩
  obtain ⟨start, h⟩ := hmake
  refine ⟨start, h, ?_, reaches_accessSafe h (.copy {} (.run sharedViewCalls .start))⟩
  cases h
  rfl

end Kernel

end KernelBinding
