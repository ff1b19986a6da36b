import KernelBinding.Proofs.Listing
import KernelBinding.Proofs.Runs

/-!
# KernelBinding.Proofs.Construction

What is known of a kernel that could be made: where its parts come from (`Kernel.Made`), and that
its metadata place everything inside the tables (`Metadata.WellPlaced`).

The two checks share the work. Declaring the views looks at the slots of global and constant
arguments only; checking the placements makes sure that no other argument takes a view, and looks at
the bytes and at the samplers.

* `make_ok`        — a kernel that was made is `Made`.
* `wellPlaced`     — so its metadata are `WellPlaced`.
* `sampler_ok`, `buffer_ok` — the object made of a literal is the one that the literal describes.
* `getElem?_placeLiterals` — of the literals of one slot the last one holds it.
-/

namespace KernelBinding

/-! ## Placements -/

/-- Every place that binding an argument writes to exists. -/
structure Metadata.WellPlaced (metadata : Metadata) : Prop where
  kind : ∀ arg ∈ metadata.args, arg.placement.kind = arg.signature.kind
  uav : ∀ arg ∈ metadata.args, ∀ slot ∈ arg.uavSlots, slot.toNat < metadata.uavCount.toNat
  srv : ∀ arg ∈ metadata.args, ∀ slot ∈ arg.srvSlots, slot.toNat < metadata.srvCount.toNat
  sampler : ∀ arg ∈ metadata.args, ∀ slot ∈ arg.samplerSlots,
    slot.toNat < metadata.samplerCount.toNat
  bytes : ∀ arg ∈ metadata.args, arg.placement.start + arg.placement.extent ≤ metadata.inputsSize

namespace Metadata

variable {metadata : Metadata}

theorem checkArgument_ok {index : Nat} {arg : Argument}
    (h : metadata.checkArgument index arg = .ok ()) :
    arg.placement.kind = arg.signature.kind ∧
      arg.placement.start + arg.placement.extent ≤ metadata.inputsSize ∧
        ∀ slot ∈ arg.samplerSlots, slot.toNat < metadata.samplerCount.toNat := by
  unfold checkArgument at h
  simp only at h
  split at h
  · cases h
  · rename_i hkind
    split at h
    · rename_i hin
      simp only [Bool.and_eq_true, decide_eq_true_eq, List.all_eq_true] at hin
      refine ⟨by simpa using hkind, hin.1, ?_⟩
      intro slot hslot
      exact UInt32.lt_iff_toNat_lt.1 (hin.2 slot hslot)
    · cases h

theorem checkArguments_ok {args : List Argument} :
    ∀ {index : Nat}, metadata.checkArguments index args = .ok () →
      ∀ arg ∈ args, arg.placement.kind = arg.signature.kind ∧
        arg.placement.start + arg.placement.extent ≤ metadata.inputsSize ∧
          ∀ slot ∈ arg.samplerSlots, slot.toNat < metadata.samplerCount.toNat := by
  induction args with
  | nil => intro index _ arg harg; cases harg
  | cons first rest ih =>
    intro index h arg harg
    simp only [checkArguments] at h
    split at h
    · cases h
    · rename_i hfirst
      rcases List.mem_cons.1 harg with rfl | harg
      · exact checkArgument_ok hfirst
      · exact ih h arg harg

theorem checkPlacements_ok (h : metadata.checkPlacements = .ok ()) :
    metadata.checkArguments 0 metadata.args = .ok () := by
  unfold checkPlacements at h
  split at h
  · cases h
  · assumption

/-- An argument in private or local memory, placed as its signature asks, takes no view. -/
theorem noViews_of_space {arg : Argument} (hkind : arg.placement.kind = arg.signature.kind)
    (hspace : arg.signature.space = .privateMemory ∨ arg.signature.space = .localMemory) :
    arg.uavSlots = [] ∧ arg.srvSlots = [] := by
  have hne : arg.signature.kind ≠ .image ∧ arg.signature.kind ≠ .memory := by
    rcases hspace with hspace | hspace
    · simp only [Signature.kind, hspace]
      split <;> exact ⟨nofun, nofun⟩
    · simp only [Signature.kind, hspace]
      exact ⟨nofun, nofun⟩
  rw [← hkind] at hne
  cases hp : arg.placement <;> simp_all [Placement.kind, Argument.uavSlots, Argument.srvSlots]

theorem wellPlaced_of_checks {decls : Declarations}
    (hdecls : Declarations.ofMetadata metadata = .ok decls)
    (hcheck : metadata.checkPlacements = .ok ()) : metadata.WellPlaced := by
  have hargs := checkArguments_ok (checkPlacements_ok hcheck)
  have hviews := (Declarations.ofMetadata_eq_ok.1 hdecls).2.1
  -- Private and local arguments were not looked at when the views were declared.
  have hnone : ∀ arg ∈ metadata.args, arg.uavSlots = [] ∧ arg.srvSlots = [] ∨
      (∀ slot ∈ arg.uavSlots, slot.toNat < metadata.uavCount.toNat) ∧
        ∀ slot ∈ arg.srvSlots, slot.toNat < metadata.srvCount.toNat := by
    intro arg harg
    by_cases hviewed : arg.isViewed
    · exact .inr ((Argument.declarable_iff hviewed).1 (hviews arg harg)).2
    · exact .inl (noViews_of_space (hargs arg harg).1 (Argument.not_isViewed_iff.1 hviewed))
  refine ⟨fun arg harg => (hargs arg harg).1, ?_, ?_, fun arg harg => (hargs arg harg).2.2,
    fun arg harg => (hargs arg harg).2.1⟩
  · intro arg harg slot hslot
    rcases hnone arg harg with ⟨hu, _⟩ | ⟨hu, _⟩
    · rw [hu] at hslot; cases hslot
    · exact hu slot hslot
  · intro arg harg slot hslot
    rcases hnone arg harg with ⟨_, hs⟩ | ⟨_, hs⟩
    · rw [hs] at hslot; cases hslot
    · exact hs slot hslot

end Metadata

/-! ## Literals -/

/-- The literal describes this sampler. -/
structure LiteralSampler.Describes (literal : LiteralSampler) (sampler : Sampler) : Prop where
  normalized_eq : sampler.normalized = literal.normalized
  addressing_eq : Numbered.rank sampler.addressing = literal.addressing
  filter_eq : Numbered.rank sampler.filter = literal.filter

/-- The object is a buffer with the data of the constant, and neither a kernel nor the host may write
it. -/
structure InlineConstant.Fills (literal : InlineConstant) (object : MemoryObject) : Prop where
  kind_eq : object.kind = .buffer
  format_eq : object.format = none
  size_eq : object.size = literal.data.length
  contents_eq : object.contents = literal.data
  flags_eq : object.flags = .ofList [.copyHostPointer, .readOnly, .hostNoAccess]

theorem LiteralSampler.sampler_ok {literal : LiteralSampler} {sampler : Sampler}
    (h : literal.sampler = .ok sampler) : literal.Describes sampler := by
  unfold LiteralSampler.sampler at h
  split at h
  · cases h
  · rename_i haddressing
    split at h
    · cases h
    · rename_i hfilter
      cases h
      exact ⟨rfl, Numbered.ofRank?_eq_some.1 haddressing, Numbered.ofRank?_eq_some.1 hfilter⟩

theorem InlineConstant.buffer_ok {limits : Limits} {literal : InlineConstant}
    {object : MemoryObject} (h : literal.buffer limits = .ok object) : literal.Fills object := by
  unfold InlineConstant.buffer MemoryObject.createBuffer at h
  have hcreated := MemoryObject.create_ok h
  -- The flags name one kind of access each, so they are in order as they stand.
  have hflags : object.flags = .ofList [.copyHostPointer, .readOnly, .hostNoAccess] :=
    (Except.ok.inj hcreated.flags_eq).symm
  have hcopy : object.flags.contains .copyHostPointer = true := by
    rw [hflags]
    decide
  have hcontents := hcreated.contents_eq
  rw [hcopy, Bool.true_or, if_pos rfl] at hcontents
  obtain ⟨bytes, hbytes, -, htake⟩ := hcontents
  cases hbytes
  rw [List.take_length] at htake
  exact ⟨hcreated.kind_eq, hcreated.format_eq, hcreated.size_eq, htake, hflags⟩

/-- The object made for the last literal that is declared for slot `i`. -/
def lastLiteral {α : Type} (slots : List UInt32) (objects : List (Object α)) (i : Nat) :
    Option (Object α) :=
  ((slots.zip objects).findRev? (·.1.toNat == i)).map (·.2)

theorem placeLiterals_eq_foldl {α : Type} (placed : List (UInt32 × Object α)) :
    ∀ table : List (Option (Object α)), placeLiterals table placed =
      placed.foldl (fun table p => put table [p.1] (some p.2)) table := by
  induction placed with
  | nil => intro table; rfl
  | cons p rest ih => intro table; rw [placeLiterals, List.foldl_cons, ih]

theorem getElem?_placeLiterals {α : Type} (slots : List UInt32) (objects : List (Object α))
    (count i : Nat) :
    (placeLiterals (List.replicate count none) (slots.zip objects))[i]? =
      if i < count then some (lastLiteral slots objects i) else none := by
  have hlast := getElem?_foldl (fun table : List (Option (Object α)) => table)
    (fun table p => put table [p.1] (some p.2)) (fun p j => p.1.toNat == j) (fun p _ => some p.2)
    (slots.zip objects)
    (fun p _ table j => by simpa using getElem?_put table [p.1] (some p.2) j)
    (List.replicate count none) i
  rw [placeLiterals_eq_foldl, hlast, lastLiteral, List.getElem?_replicate]
  by_cases hi : i < count
  · simp only [hi, if_true, Option.map_some]
    cases (slots.zip objects).findRev? (·.1.toNat == i) <;> rfl
  · simp only [hi, if_false, Option.map_none]

/-! ## The new kernel -/

namespace Kernel

/-- The kernel is the one made from these parts. -/
structure Made (program : Nat) (limits : Limits) (metadata : Metadata) (fresh : Nat)
    (kernel : Kernel) : Prop where
  program_eq : kernel.program = program
  limits_eq : kernel.limits = limits
  metadata_eq : kernel.metadata = metadata
  declarations : Declarations.ofMetadata metadata = .ok kernel.declarations
  placements : metadata.checkPlacements = .ok ()
  samplers : allocate LiteralSampler.sampler fresh metadata.literalSamplers =
    .ok kernel.literalSamplers
  buffers : allocate (InlineConstant.buffer limits) (fresh + kernel.literalSamplers.length)
    metadata.inlineConstants = .ok kernel.inlineConstants
  bindings : kernel.bindings = { Bindings.initial metadata with
    samplers := placeLiterals (Bindings.initial metadata).samplers
      ((metadata.literalSamplers.map (·.slot)).zip kernel.literalSamplers)
    uavs := placeLiterals (Bindings.initial metadata).uavs
      ((metadata.inlineConstants.map (·.slot)).zip kernel.inlineConstants) }

variable {program : Nat} {limits : Limits} {metadata : Metadata} {fresh : Nat} {kernel : Kernel}

theorem make_ok (h : make program limits metadata fresh = .ok kernel) :
    Made program limits metadata fresh kernel := by
  unfold make at h
  split at h
  · cases h
  · rename_i hdecls
    split at h
    · cases h
    · rename_i hplaced
      split at h
      · cases h
      · rename_i hsamplers
        split at h
        · cases h
        · rename_i hbuffers
          cases h
          exact ⟨rfl, rfl, rfl, hdecls, hplaced, hsamplers, hbuffers, rfl⟩

/-- Whatever calls came before, the kernel accepts the calls that its metadata accept. -/
theorem Made.accepts_of_mem (h : Made program limits metadata fresh kernel) {calls : List Call} :
    ∀ call ∈ kernel.accepted calls, metadata.accepts call := by
  intro call hcall
  rw [← h.metadata_eq]
  exact accepts_of_mem_accepted hcall

theorem Made.wellPlaced (h : Made program limits metadata fresh kernel) : metadata.WellPlaced :=
  Metadata.wellPlaced_of_checks h.declarations h.placements

end Kernel

end KernelBinding
