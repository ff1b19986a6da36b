import KernelBinding.Proofs.Construction

/-!
# KernelBinding.Proofs.Acceptance

Which metadata make a kernel. The checks are spread over the declarations, the placements and the
making of the literals; together they ask for what `Metadata.Sound` lists, and then for room for the
data of each constant. Whatever is unsound is reported before any constant is made.

* `placedIn_iff`  — the conditions on an argument, table by table.
* `sound_of_checks`, `checks_of_sound` — all checks but that of the constants' data ask for sound
  metadata, and for no more.
* `buffer_eq_error` — a constant cannot be made when it has no data or too many.
* `make_by_conditions` — when a kernel is made, and why it is not.
-/

namespace KernelBinding

/-- Every place that the argument takes is inside its table. -/
def Argument.PlacedIn (arg : Argument) (metadata : Metadata) : Prop :=
  match arg.placement with
  | .image slots offset =>
    (∀ slot ∈ slots, slot.toNat <
      if arg.signature.isWritable then metadata.uavCount.toNat else metadata.srvCount.toNat) ∧
      offset.toNat + 8 ≤ metadata.inputsSize
  | .memory slot offset =>
    slot.toNat < metadata.uavCount.toNat ∧ offset.toNat + 8 ≤ metadata.inputsSize
  | .sampler slot => slot.toNat < metadata.samplerCount.toNat
  | .scalar offset size => offset.toNat + size.toNat ≤ metadata.inputsSize
  | .localMemory => True

/-- All that is asked of metadata, except that there be room for the data of the constants. -/
structure Metadata.Sound (metadata : Metadata) : Prop where
  constantBuffers : (max metadata.inputsIndex metadata.workIndex).toNat < UInt32.size - 1
  kinds : ∀ arg ∈ metadata.args, arg.placement.kind = arg.signature.kind
  places : ∀ arg ∈ metadata.args, arg.PlacedIn metadata
  samplerSlots : ∀ literal ∈ metadata.literalSamplers,
    literal.slot.toNat < metadata.samplerCount.toNat
  samplerModes : ∀ literal ∈ metadata.literalSamplers,
    literal.addressing.toNat < 5 ∧ literal.filter.toNat < 2
  constantSlots : ∀ literal ∈ metadata.inlineConstants,
    literal.slot.toNat < metadata.uavCount.toNat

/-! ## Arguments -/

section

variable {metadata : Metadata} {arg : Argument}

theorem Argument.placedIn_iff : arg.PlacedIn metadata ↔
    (∀ slot ∈ arg.uavSlots, slot.toNat < metadata.uavCount.toNat) ∧
      (∀ slot ∈ arg.srvSlots, slot.toNat < metadata.srvCount.toNat) ∧
      (∀ slot ∈ arg.samplerSlots, slot.toNat < metadata.samplerCount.toNat) ∧
      arg.placement.start + arg.placement.extent ≤ metadata.inputsSize := by
  unfold PlacedIn uavSlots srvSlots samplerSlots
  cases arg.placement with
  | image slots offset =>
    by_cases hw : arg.signature.isWritable <;>
      simp [hw, Placement.start, Placement.extent, PixelFormat.headerSize]
  | memory slot offset => simp [Placement.start, Placement.extent]
  | sampler slot => simp [Placement.start, Placement.extent]
  | localMemory => simp [Placement.start, Placement.extent]
  | scalar offset size => simp [Placement.start, Placement.extent]

theorem Metadata.WellPlaced.placedIn (h : metadata.WellPlaced) (harg : arg ∈ metadata.args) :
    arg.PlacedIn metadata :=
  Argument.placedIn_iff.2 ⟨h.uav arg harg, h.srv arg harg, h.sampler arg harg, h.bytes arg harg⟩

end

/-! ## Literals -/

theorem LiteralSampler.exists_sampler_eq_ok {literal : LiteralSampler} :
    (∃ sampler, literal.sampler = .ok sampler) ↔
      literal.addressing.toNat < 5 ∧ literal.filter.toNat < 2 := by
  have haddressing : _ ↔ literal.addressing.toNat < 5 :=
    Numbered.exists_ofRank?_eq_some (α := AddressingMode)
  have hfilter : _ ↔ literal.filter.toNat < 2 := Numbered.exists_ofRank?_eq_some (α := FilterMode)
  rw [← haddressing, ← hfilter]
  unfold sampler
  cases Numbered.ofRank? (α := AddressingMode) literal.addressing with
  | none => simp
  | some addressing => cases Numbered.ofRank? (α := FilterMode) literal.filter <;> simp

namespace InlineConstant

/-- There is room for the data, and there are some. -/
def Storable (limits : Limits) (literal : InlineConstant) : Prop :=
  literal.data ≠ [] ∧ literal.data.length ≤ limits.maxAllocation

/-- Why no buffer can hold the data. -/
inductive DataFault (limits : Limits) (literal : InlineConstant) : AllocationFault → Prop
  | empty : literal.data = [] → DataFault limits literal (.invalidSize 0)
  | tooLarge : limits.maxAllocation < literal.data.length →
      DataFault limits literal (.tooLarge literal.data.length limits.maxAllocation)

variable {limits : Limits} {literal : InlineConstant}

/-- The flags of a constant are in order, and ask for the data that are there. -/
theorem buffer_cases (limits : Limits) (literal : InlineConstant) :
    literal.data = [] ∧ literal.buffer limits = .error (.invalidSize 0) ∨
      limits.maxAllocation < literal.data.length ∧ literal.buffer limits =
        .error (.tooLarge literal.data.length limits.maxAllocation) ∨
      literal.Storable limits ∧ ∃ object, literal.buffer limits = .ok object := by
  have hnormal : (MemoryFlags.ofList [.copyHostPointer, .readOnly, .hostNoAccess]).normalize =
      .ok (.ofList [.copyHostPointer, .readOnly, .hostNoAccess]) := rfl
  have hcopy : (MemoryFlags.ofList [.copyHostPointer, .readOnly, .hostNoAccess]).contains
      .copyHostPointer = true := by decide
  unfold buffer MemoryObject.createBuffer MemoryObject.create
  simp only [hnormal, hcopy, Bool.true_or, if_true, Nat.le_refl, dite_true]
  by_cases hempty : literal.data = []
  · left
    simp [hempty]
  · have hlength : literal.data.length ≠ 0 := by simpa using hempty
    rw [if_neg hlength]
    right
    by_cases hlarge : limits.maxAllocation < literal.data.length
    · left
      rw [if_pos hlarge]
      exact ⟨hlarge, rfl⟩
    · right
      rw [if_neg hlarge]
      exact ⟨⟨hempty, by omega⟩, _, rfl⟩

theorem exists_buffer_eq_ok :
    (∃ object, literal.buffer limits = .ok object) ↔ literal.Storable limits := by
  rcases buffer_cases limits literal with ⟨hdata, h⟩ | ⟨hdata, h⟩ | ⟨hdata, h⟩
  · simp [h, Storable, hdata]
  · simp [h, Storable, Nat.not_le.2 hdata]
  · exact iff_of_true h hdata

theorem buffer_eq_error {cause : AllocationFault} :
    literal.buffer limits = .error cause ↔ literal.DataFault limits cause := by
  constructor
  · intro herr
    rcases buffer_cases limits literal with ⟨hdata, h⟩ | ⟨hdata, h⟩ | ⟨-, object, h⟩
    · rw [h] at herr
      cases herr
      exact .empty hdata
    · rw [h] at herr
      cases herr
      exact .tooLarge hdata
    · rw [h] at herr
      cases herr
  · rintro (hdata | hdata)
    · rcases buffer_cases limits literal with ⟨-, h⟩ | ⟨hlarge, -⟩ | ⟨hstorable, -⟩
      · exact h
      · simp [hdata] at hlarge
      · exact absurd hdata hstorable.1
    · rcases buffer_cases limits literal with ⟨hempty, -⟩ | ⟨-, h⟩ | ⟨hstorable, -⟩
      · simp [hempty] at hdata
      · exact h
      · exact absurd hstorable.2 (Nat.not_le.2 hdata)

end InlineConstant

/-! ## Sound metadata -/

namespace Metadata

variable {metadata : Metadata}

theorem checkArguments_of_sound (h : metadata.Sound) {args : List Argument} :
    ∀ {index : Nat}, (∀ arg ∈ args, arg ∈ metadata.args) →
      metadata.checkArguments index args = .ok () := by
  induction args with
  | nil => intro index _; rfl
  | cons arg rest ih =>
    intro index hsub
    obtain ⟨harg, hrest⟩ := List.forall_mem_cons.1 hsub
    obtain ⟨-, -, hsampler, hbytes⟩ := Argument.placedIn_iff.1 (h.places arg harg)
    have hall : arg.samplerSlots.all (· < metadata.samplerCount) = true := by
      simpa [UInt32.lt_iff_toNat_lt] using hsampler
    have harg : metadata.checkArgument index arg = .ok () := by
      simp [checkArgument, h.kinds arg harg, hbytes, hall]
    simp only [checkArguments, harg]
    exact ih hrest

theorem checkPlacements_of_sound (h : metadata.Sound) : metadata.checkPlacements = .ok () := by
  have hargs : metadata.checkArguments 0 metadata.args = .ok () :=
    checkArguments_of_sound h fun _ harg => harg
  have hsamplers : metadata.literalSamplers.find? (metadata.samplerCount ≤ ·.slot) = none := by
    simpa [UInt32.le_iff_toNat_le] using h.samplerSlots
  have hconstants : metadata.inlineConstants.find? (metadata.uavCount ≤ ·.slot) = none := by
    simpa [UInt32.le_iff_toNat_le] using h.constantSlots
  simp only [checkPlacements, hargs, hsamplers, hconstants]

theorem literalSlots_of_checkPlacements (h : metadata.checkPlacements = .ok ()) :
    (∀ literal ∈ metadata.literalSamplers, literal.slot.toNat < metadata.samplerCount.toNat) ∧
      ∀ literal ∈ metadata.inlineConstants, literal.slot.toNat < metadata.uavCount.toNat := by
  unfold checkPlacements at h
  split at h
  · cases h
  · split at h
    · cases h
    · rename_i hsamplers
      split at h
      · cases h
      · rename_i hconstants
        exact ⟨by simpa [UInt32.le_iff_toNat_le] using hsamplers,
          by simpa [UInt32.le_iff_toNat_le] using hconstants⟩

theorem exists_ofMetadata_of_sound (h : metadata.Sound) :
    ∃ decls, Declarations.ofMetadata metadata = .ok decls := by
  refine ⟨_, Declarations.ofMetadata_eq_ok.2
    ⟨Nat.add_lt_of_lt_sub h.constantBuffers, fun arg harg => ?_, rfl⟩⟩
  obtain ⟨huav, hsrv, -⟩ := Argument.placedIn_iff.1 (h.places arg harg)
  exact Argument.declarable_of_placed (h.kinds arg harg) huav hsrv

theorem sound_of_checks {decls : Declarations} {fresh : Nat} {samplers : List (Object Sampler)}
    (hdecls : Declarations.ofMetadata metadata = .ok decls)
    (hplaced : metadata.checkPlacements = .ok ())
    (hsamplers : allocate LiteralSampler.sampler fresh metadata.literalSamplers = .ok samplers) :
    metadata.Sound := by
  have hwell := wellPlaced_of_checks hdecls hplaced
  obtain ⟨hslots, hconstants⟩ := literalSlots_of_checkPlacements hplaced
  have hlast := (Declarations.ofMetadata_eq_ok.1 hdecls).1
  refine ⟨Nat.lt_sub_of_add_lt hlast, hwell.kind,
    fun _ harg => hwell.placedIn harg, hslots, fun literal hliteral => ?_, hconstants⟩
  exact LiteralSampler.exists_sampler_eq_ok.1
    (exists_allocate_eq_ok.1 ⟨samplers, hsamplers⟩ literal hliteral)

theorem checks_of_sound (h : metadata.Sound) (fresh : Nat) :
    (∃ decls, Declarations.ofMetadata metadata = .ok decls) ∧
      metadata.checkPlacements = .ok () ∧
      ∃ samplers, allocate LiteralSampler.sampler fresh metadata.literalSamplers = .ok samplers := by
  refine ⟨exists_ofMetadata_of_sound h, checkPlacements_of_sound h, exists_allocate_eq_ok.2 ?_⟩
  intro literal hliteral
  exact LiteralSampler.exists_sampler_eq_ok.2 (h.samplerModes literal hliteral)

end Metadata

/-! ## Making a kernel -/

/-- The first of the constants whose data cannot be stored has this fault. -/
def FirstFault (limits : Limits) (constants : List InlineConstant) (cause : AllocationFault) :
    Prop :=
  ∃ before literal after, constants = before ++ literal :: after ∧
    (∀ earlier ∈ before, earlier.Storable limits) ∧ literal.DataFault limits cause

section

variable {limits : Limits} {constants : List InlineConstant} {fresh : Nat}

theorem exists_allocate_buffers_eq_ok :
    (∃ buffers, allocate (InlineConstant.buffer limits) fresh constants = .ok buffers) ↔
      ∀ literal ∈ constants, literal.Storable limits := by
  simp only [exists_allocate_eq_ok, InlineConstant.exists_buffer_eq_ok]

theorem allocate_buffers_eq_error {cause : AllocationFault} :
    allocate (InlineConstant.buffer limits) fresh constants = .error cause ↔
      FirstFault limits constants cause := by
  simp only [allocate_eq_error, InlineConstant.exists_buffer_eq_ok,
    InlineConstant.buffer_eq_error, FirstFault]

theorem FirstFault.unique {cause other : AllocationFault} (h : FirstFault limits constants cause)
    (h' : FirstFault limits constants other) : cause = other := by
  have herr : allocate (InlineConstant.buffer limits) 0 constants = .error cause :=
    allocate_buffers_eq_error.2 h
  rw [allocate_buffers_eq_error.2 h'] at herr
  cases herr
  rfl

theorem FirstFault.not_storable {cause : AllocationFault} (h : FirstFault limits constants cause) :
    ¬ ∀ literal ∈ constants, literal.Storable limits := by
  obtain ⟨before, literal, after, rfl, -, hfault⟩ := h
  intro hstorable
  obtain ⟨hne, hle⟩ := hstorable literal (by simp)
  cases hfault with
  | empty hempty => exact hne hempty
  | tooLarge hlarge => exact Nat.not_le.2 hlarge hle

end

namespace Kernel

variable {limits : Limits} {metadata : Metadata}

/-- Of unsound metadata no kernel is made, whatever the data of the constants. -/
theorem make_of_not_sound (h : ¬ metadata.Sound) (program : Nat) (limits : Limits) (fresh : Nat) :
    ∃ reason, make program limits metadata fresh = .error (.malformedMetadata reason) := by
  unfold make
  split
  · exact ⟨_, rfl⟩
  · rename_i hdecls
    split
    · exact ⟨_, rfl⟩
    · rename_i hplaced
      split
      · exact ⟨_, rfl⟩
      · rename_i hsamplers
        exact absurd (Metadata.sound_of_checks hdecls hplaced hsamplers) h

/-- Of sound metadata a kernel is made, unless a constant cannot be stored. -/
theorem make_of_sound (h : metadata.Sound) (program : Nat) (limits : Limits) (fresh : Nat) :
    (∀ literal ∈ metadata.inlineConstants, literal.Storable limits) ∧
        (∃ kernel, make program limits metadata fresh = .ok kernel) ∨
      ∃ cause, FirstFault limits metadata.inlineConstants cause ∧
        make program limits metadata fresh = .error (.outOfResources cause) := by
  obtain ⟨⟨decls, hdecls⟩, hplaced, samplers, hsamplers⟩ := Metadata.checks_of_sound h fresh
  unfold make
  simp only [hdecls, hplaced, hsamplers]
  cases hbuffers : allocate (InlineConstant.buffer limits) (fresh + samplers.length)
      metadata.inlineConstants with
  | ok buffers => exact .inl ⟨exists_allocate_buffers_eq_ok.1 ⟨buffers, hbuffers⟩, _, rfl⟩
  | error cause => exact .inr ⟨cause, allocate_buffers_eq_error.1 hbuffers, rfl⟩

/-- A kernel is made exactly of sound metadata with constants that can be stored. Unsound metadata
are malformed, and sound ones with a constant that cannot be stored run out of resources, for the
reason that the first such constant gives. -/
theorem make_by_conditions (program : Nat) (limits : Limits) (metadata : Metadata) (fresh : Nat) :
    ((∃ kernel, make program limits metadata fresh = .ok kernel) ↔
      metadata.Sound ∧ ∀ literal ∈ metadata.inlineConstants, literal.Storable limits) ∧
    (∀ cause, make program limits metadata fresh = .error (.outOfResources cause) ↔
      metadata.Sound ∧ FirstFault limits metadata.inlineConstants cause) ∧
    ((∃ reason, make program limits metadata fresh = .error (.malformedMetadata reason)) ↔
      ¬ metadata.Sound) ∧
    ((∃ kernel, make program limits metadata fresh = .ok kernel) ∨
      (∃ cause, make program limits metadata fresh = .error (.outOfResources cause)) ∨
        ∃ reason, make program limits metadata fresh = .error (.malformedMetadata reason)) := by
  by_cases hsound : metadata.Sound
  · rcases make_of_sound hsound program limits fresh with
      ⟨hstorable, kernel, hmake⟩ | ⟨cause, hcause, hmake⟩
    · have hnone : ∀ cause, ¬ FirstFault limits metadata.inlineConstants cause :=
        fun cause hcause => hcause.not_storable hstorable
      simp only [hmake, hsound, hnone]
      simpa using hstorable
    · have hunique : ∀ other, FirstFault limits metadata.inlineConstants other ↔ cause = other :=
        fun other => ⟨hcause.unique, fun h => h ▸ hcause⟩
      have hnot := hcause.not_storable
      simp only [hmake, hsound, hunique, hnot]
      simp
  · obtain ⟨reason, hmake⟩ := make_of_not_sound hsound program limits fresh
    simp [hmake, hsound]

end Kernel

end KernelBinding
