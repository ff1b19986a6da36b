import KernelBinding.Proofs.Declaration

/-!
# KernelBinding.Proofs.DeclaredSlots

What a shader declares for a kernel, said of the arguments alone: each slot has the dimension of the
last argument that lists it.

* `ofMetadata_viewsOnly`   — only the views of the arguments have a part in the declarations.
* `follows_of_ofMetadata`  — the declarations slot by slot.
* `exists_ofMetadata_iff`  — why none can be made.
* `ofMetadata_by_listing`  — all of this together.
-/

namespace KernelBinding

/-! ## What the declarations are made of -/

namespace Placement

def withoutOffset : Placement → Placement
  | .image slots _ => .image slots 0
  | .memory slot _ => .memory slot 0
  | .sampler slot => .sampler slot
  | .localMemory => .localMemory
  | .scalar _ size => .scalar 0 size

theorem kind_withoutOffset (placement : Placement) :
    placement.withoutOffset.kind = placement.kind := by
  cases placement <;> rfl

end Placement

namespace Argument

/-- The argument at the start of the arguments buffer. -/
def withoutOffset (arg : Argument) : Argument where
  signature := arg.signature
  placement := arg.placement.withoutOffset

theorem uavSlots_withoutOffset (arg : Argument) : arg.withoutOffset.uavSlots = arg.uavSlots := by
  unfold uavSlots withoutOffset
  cases arg.placement <;> rfl

theorem srvSlots_withoutOffset (arg : Argument) : arg.withoutOffset.srvSlots = arg.srvSlots := by
  unfold srvSlots withoutOffset
  cases arg.placement <;> rfl

theorem wrongKind_withoutOffset {arg : Argument} :
    arg.withoutOffset.WrongKind ↔ arg.WrongKind := by
  have hkind : arg.withoutOffset.placement.kind = arg.placement.kind :=
    arg.placement.kind_withoutOffset
  constructor
  · rintro (⟨hviewed, htype, hne⟩ | ⟨hviewed, htype, hne⟩)
    · exact .image hviewed htype (hkind ▸ hne)
    · exact .buffer hviewed htype (hkind ▸ hne)
  · rintro (⟨hviewed, htype, hne⟩ | ⟨hviewed, htype, hne⟩)
    · exact .image hviewed htype (hkind ▸ hne)
    · exact .buffer hviewed htype (hkind ▸ hne)

theorem declarable_withoutOffset {arg : Argument} {count : ViewTable → Nat} (h : arg.isViewed) :
    arg.withoutOffset.Declarable count ↔ arg.Declarable count := by
  have hviewed : arg.withoutOffset.isViewed := h
  rw [declarable_iff h, declarable_iff hviewed, wrongKind_withoutOffset, uavSlots_withoutOffset,
    srvSlots_withoutOffset]

end Argument

/-- What the declarations can depend on: the numbers of the slots and of the constant buffers, and the
arguments in global and constant memory, wherever they are in the arguments buffer. -/
def Metadata.viewsOnly (metadata : Metadata) : Metadata where
  name := ""
  args := (metadata.args.filter (·.isViewed)).map (·.withoutOffset)
  inputsIndex := metadata.inputsIndex
  workIndex := metadata.workIndex
  uavCount := metadata.uavCount
  srvCount := metadata.srvCount
  samplerCount := metadata.samplerCount

namespace Declarations

variable {metadata : Metadata} {decls : Declarations}

theorem view_withoutOffset (decls : Declarations) (arg : Argument) :
    decls.view arg.withoutOffset = decls.view arg := by
  unfold view
  rw [Argument.uavSlots_withoutOffset, Argument.srvSlots_withoutOffset]
  rfl

theorem foldl_view_viewsOnly (decls : Declarations) :
    metadata.viewsOnly.args.foldl view decls = metadata.args.foldl view decls := by
  unfold Metadata.viewsOnly
  rw [List.foldl_map, List.foldl_filter]
  -- The steps are the same, those of the arguments that were dropped doing nothing.
  congr 1
  funext decls arg
  rw [view_withoutOffset]
  by_cases hviewed : arg.isViewed
  · rw [if_pos hviewed]
  · rw [if_neg hviewed, view, if_neg hviewed]

theorem ofMetadata_viewsOnly :
    ofMetadata metadata.viewsOnly = .ok decls ↔ ofMetadata metadata = .ok decls := by
  have hargs : (∀ arg ∈ metadata.viewsOnly.args, arg.Declarable metadata.viewCount) ↔
      ∀ arg ∈ metadata.args, arg.Declarable metadata.viewCount := by
    unfold Metadata.viewsOnly
    simp only [List.forall_mem_map, List.mem_filter, and_imp]
    refine forall₂_congr fun arg _ => ?_
    by_cases hviewed : arg.isViewed
    · simp only [hviewed, Argument.declarable_withoutOffset hviewed, true_imp_iff]
    · exact iff_of_true (fun h => absurd h hviewed)
        (Argument.declarable_of_not_isViewed hviewed)
  rw [ofMetadata_eq_ok, ofMetadata_eq_ok, foldl_view_viewsOnly]
  exact and_congr_right fun _ => and_congr_left fun _ => hargs

/-! ## Slot by slot -/

theorem toNat_max (a b : UInt32) : (max a b).toNat = max a.toNat b.toNat := by
  change (if a ≤ b then b else a).toNat = _
  rw [apply_ite UInt32.toNat, Nat.max_def]
  simp only [UInt32.le_iff_toNat_le]

theorem counts_foldl_view (args : List Argument) : ∀ decls : Declarations,
    (args.foldl view decls).constantBuffers = decls.constantBuffers ∧
      (args.foldl view decls).samplers = decls.samplers := by
  induction args with
  | nil => intro decls; exact ⟨rfl, rfl⟩
  | cons arg rest ih =>
    intro decls
    rw [List.foldl_cons, (ih _).1, (ih _).2, view]
    split <;> exact ⟨rfl, rfl⟩

/-- The declarations are those that the arguments ask for. -/
structure Follows (decls : Declarations) (metadata : Metadata) : Prop where
  constantBuffers_eq : decls.constantBuffers.toNat =
    max metadata.inputsIndex.toNat metadata.workIndex.toNat + 1
  samplers_eq : decls.samplers = metadata.samplerCount
  length_eq : ∀ table, (decls.views table).length = metadata.viewCount table
  /-- The last argument that lists a slot decides. -/
  last : ∀ (table : ViewTable) (i : Nat) (arg : Argument) (slot : UInt32)
    (dimension : ViewDimension), metadata.args[i]? = some arg → arg.Lists table slot dimension →
      (∀ (j : Nat) (later : Argument) (other : ViewDimension), i < j →
        metadata.args[j]? = some later → ¬ later.Lists table slot other) →
        (decls.views table)[slot.toNat]? = some dimension
  unlisted : ∀ table, ∀ place < metadata.viewCount table,
    (∀ arg ∈ metadata.args, ∀ slot dimension, arg.Lists table slot dimension →
      slot.toNat ≠ place) → (decls.views table)[place]? = some .unknown

theorem follows_of_ofMetadata (h : ofMetadata metadata = .ok decls) : decls.Follows metadata := by
  obtain ⟨hlast, hargs, hdecls⟩ := ofMetadata_eq_ok.1 h
  obtain ⟨hbuffers, hsamplers⟩ := counts_foldl_view metadata.args (blank metadata)
  rw [← hdecls] at hbuffers hsamplers
  refine ⟨?_, hsamplers, ?_, ?_, ?_⟩
  · rw [hbuffers, ← toNat_max]
    exact (UInt32.toNat_add _ _).trans (Nat.mod_eq_of_lt hlast)
  · obtain ⟨huav, hsrv⟩ := lengths_ofMetadata h
    intro table
    cases table with
    | uav => exact huav
    | srv => exact hsrv
  · intro table i arg slot dimension harg hlists hlater
    obtain ⟨hright, hinside⟩ := hargs arg (List.mem_of_getElem? harg)
    have hfind : metadata.args.findRev? (fun arg =>
        arg.isViewed && (arg.viewSlots table).any (·.toNat == slot.toNat)) = some arg := by
      refine findRev?_eq_some.2 ⟨i, harg, (Argument.takes_iff hright).2 ⟨slot, _, hlists, rfl⟩, ?_⟩
      -- A later argument that took the place would list the slot, being placed as it should be.
      intro j later hj hget htakes
      have hright := (hargs later (List.mem_of_getElem? hget)).1
      obtain ⟨slot', other, hlists', heq⟩ := (Argument.takes_iff hright).1 htakes
      exact hlater j later other hj hget (UInt32.toNat_inj.1 heq ▸ hlists')
    rw [getElem?_views h, if_pos (hinside table slot _ hlists), lastDimension, hfind]
    exact congrArg some (Argument.lists_iff.1 hlists).2.2.2
  · intro table place hplace hnone
    have hfind : metadata.args.findRev? (fun arg =>
        arg.isViewed && (arg.viewSlots table).any (·.toNat == place)) = none := by
      refine findRev?_eq_none.2 fun j arg hget htakes => ?_
      have hmem := List.mem_of_getElem? hget
      obtain ⟨slot, dimension, hlists, heq⟩ := (Argument.takes_iff (hargs arg hmem).1).1 htakes
      exact hnone arg hmem slot dimension hlists heq
    rw [getElem?_views h, if_pos hplace, lastDimension, hfind]
    rfl

/-! ## When there are none -/

theorem exists_ofMetadata_iff :
    (∃ decls, ofMetadata metadata = .ok decls) ↔ ¬ metadata.Undeclarable := by
  have hbound := (max metadata.inputsIndex metadata.workIndex).toNat_lt_size
  simp only [ofMetadata_eq_ok, exists_and_left, exists_eq, and_true]
  rw [toNat_max] at hbound ⊢
  constructor
  · rintro ⟨hlast, hargs⟩ (hoverflow | ⟨harg, hwrong⟩ | ⟨harg, hlists, houtside⟩)
    · omega
    · exact (hargs _ harg).1 hwrong
    · exact Nat.not_lt.2 houtside ((hargs _ harg).2 _ _ _ hlists)
  · intro h
    refine ⟨?_, fun arg harg => ⟨fun hwrong => h (.wrongKind harg hwrong), ?_⟩⟩
    · have hne : max metadata.inputsIndex.toNat metadata.workIndex.toNat ≠ UInt32.size - 1 :=
        fun hoverflow => h (.overflow hoverflow)
      omega
    · intro table slot dimension hlists
      exact Nat.lt_of_not_le fun houtside => h (.outside harg hlists houtside)

/-- The declarations of a kernel, from its arguments alone. They can be made unless the constant
buffers are too many or an argument is not placed as it should be, and then the metadata are
malformed. -/
theorem ofMetadata_by_listing (metadata : Metadata) :
    (∀ decls, ofMetadata metadata = .ok decls → decls.Follows metadata) ∧
    (∀ other : Metadata, other.viewsOnly = metadata.viewsOnly →
      ∀ decls, ofMetadata other = .ok decls ↔ ofMetadata metadata = .ok decls) ∧
    ((∃ fault, ofMetadata metadata = .error fault) ↔ metadata.Undeclarable) ∧
    ∀ fault, ofMetadata metadata = .error fault → ∀ program limits fresh,
      Kernel.make program limits metadata fresh = .error (.malformedMetadata fault.reason) := by
  refine ⟨fun decls => follows_of_ofMetadata, ?_, ?_, ?_⟩
  · intro other hviews decls
    rw [← ofMetadata_viewsOnly, hviews, ofMetadata_viewsOnly]
  · rw [← Classical.not_not (a := metadata.Undeclarable), ← exists_ofMetadata_iff]
    cases ofMetadata metadata <;> simp
  · intro fault h program limits fresh
    simp only [Kernel.make, h]

/-- A writable image of two planes, a constant buffer in the slot of its second plane, a scalar, and
two images that are only read in one slot. -/
def overlaid : Metadata where
  name := "overlaid"
  args := [⟨⟨some "v", "image3d_t", .globalMemory, .ofList [.writable]⟩, .image [0, 1] 0⟩,
    ⟨⟨some "c", "float*", .constantMemory, .ofList [.const]⟩, .memory 1 8⟩,
    ⟨⟨some "n", "int", .privateMemory, ⟨0⟩⟩, .scalar 16 4⟩,
    ⟨⟨some "s", "image2d_t", .globalMemory, .ofList [.readable]⟩, .image [0] 24⟩,
    ⟨⟨some "t", "image1d_buffer_t", .globalMemory, ⟨0⟩⟩, .image [0] 32⟩]
  inputsIndex := 2
  inputsSize := 40
  uavCount := 3
  srvCount := 2
  literalSamplers := [⟨0, true, 9, 9⟩]

/-- The metadata with too few slots for the second plane of the image. -/
def cramped : Metadata :=
  { overlaid with uavCount := 1 }

/-- The scalar and the literal that cannot be made have no part in this. With fewer slots the second
plane is outside. -/
theorem overlaid_by_listing :
    (∃ decls, ofMetadata overlaid = .ok decls ∧ decls.Follows overlaid ∧
      decls.uavs = [.texture3D, .buffer, .unknown] ∧ decls.srvs = [.buffer, .unknown] ∧
      decls.constantBuffers = 3 ∧ ofMetadata overlaid.viewsOnly = .ok decls) ∧
    cramped.Undeclarable ∧
    Kernel.make 0 {} cramped 0 =
      .error (.malformedMetadata "argument 0 uses UAV slot 1 but only 1 are declared") := by
  constructor
  · have hmade : ∃ decls, ofMetadata overlaid = .ok decls := ⟨_, rfl⟩
    obtain ⟨decls, h⟩ := hmade
    obtain ⟨hfollows, hviews, -, -⟩ := ofMetadata_by_listing overlaid
    have hsame := (hviews overlaid.viewsOnly rfl decls).2 h
    refine ⟨decls, h, hfollows decls h, ?_, ?_, ?_, hsame⟩
    all_goals cases h; rfl
  · obtain ⟨-, -, hfails, hmake⟩ := ofMetadata_by_listing cramped
    have hfault : ofMetadata cramped = .error (.undeclaredView 0 .uav 1 1) := rfl
    exact ⟨hfails.1 ⟨_, hfault⟩, hmake _ hfault 0 {} 0⟩

end Declarations

end KernelBinding
