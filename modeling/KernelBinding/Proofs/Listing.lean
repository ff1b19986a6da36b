import KernelBinding.Metadata.Declarations

/-!
# KernelBinding.Proofs.Listing

The slots that an argument lists (`Argument.Lists`), and when they can be declared. Only arguments in
global or constant memory list slots: images in the table of writable views if the kernel may write
them and in the other table if not, and buffers always among the writable views.

* `lists_iff`              — the same by the slots of the placement.
* `exists_addArgument_iff` — what is asked of one argument.
* `ofMetadata_eq_ok`       — what is asked of all arguments, and the declarations they make.
-/

namespace KernelBinding

/-! ## The slots an argument lists -/

namespace Argument

/-- Whether the argument points to global or constant memory, as images and buffers do. -/
def isViewed (arg : Argument) : Bool :=
  arg.signature.space == .globalMemory || arg.signature.space == .constantMemory

/-- The dimension in which the slots of such an argument are declared. -/
def dimension (arg : Argument) : ViewDimension :=
  match arg.signature.imageKind? with
  | some kind => kind.dimension
  | none => .buffer

/-- The argument lists the slot in the table, to be viewed in the dimension. Only arguments in global
or constant memory do. Whether a buffer is constant makes no difference. -/
inductive Lists (arg : Argument) : ViewTable → UInt32 → ViewDimension → Prop
  | writtenImage {kind : MemoryKind} {slots : List UInt32} {offset slot : UInt32} :
      arg.isViewed → MemoryKind.ofTypeName? arg.signature.typeName = some kind →
      arg.placement = .image slots offset → slot ∈ slots → arg.signature.isWritable →
      Lists arg .uav slot kind.dimension
  | readImage {kind : MemoryKind} {slots : List UInt32} {offset slot : UInt32} :
      arg.isViewed → MemoryKind.ofTypeName? arg.signature.typeName = some kind →
      arg.placement = .image slots offset → slot ∈ slots → ¬ arg.signature.isWritable →
      Lists arg .srv slot kind.dimension
  | buffer {slot offset : UInt32} :
      arg.isViewed → MemoryKind.ofTypeName? arg.signature.typeName = none →
      arg.placement = .memory slot offset → Lists arg .uav slot .buffer

/-- The argument is in global or constant memory, and not placed as its type name asks. -/
inductive WrongKind (arg : Argument) : Prop
  | image {kind : MemoryKind} :
      arg.isViewed → MemoryKind.ofTypeName? arg.signature.typeName = some kind →
      arg.placement.kind ≠ .image → WrongKind arg
  | buffer :
      arg.isViewed → MemoryKind.ofTypeName? arg.signature.typeName = none →
      arg.placement.kind ≠ .memory → WrongKind arg

/-- The slots of its placement in a table. -/
def viewSlots (arg : Argument) : ViewTable → List UInt32
  | .uav => arg.uavSlots
  | .srv => arg.srvSlots

variable {arg : Argument} {table : ViewTable} {slot : UInt32} {dimension : ViewDimension}

theorem isViewed_iff : arg.isViewed ↔
    arg.signature.space = .globalMemory ∨ arg.signature.space = .constantMemory := by
  simp [isViewed]

theorem not_isViewed_iff : ¬ arg.isViewed ↔
    arg.signature.space = .privateMemory ∨ arg.signature.space = .localMemory := by
  rw [isViewed_iff]
  cases arg.signature.space <;> decide

theorem imageKind?_of_isViewed (h : arg.isViewed) :
    arg.signature.imageKind? = MemoryKind.ofTypeName? arg.signature.typeName := by
  unfold Signature.imageKind?
  rcases isViewed_iff.1 h with hspace | hspace <;> rw [hspace]

theorem kind_of_isViewed (h : arg.isViewed) : arg.signature.kind =
    if (MemoryKind.ofTypeName? arg.signature.typeName).isSome then .image else .memory := by
  have himage := imageKind?_of_isViewed h
  unfold Signature.kind
  rcases isViewed_iff.1 h with hspace | hspace <;> rw [hspace, himage] <;>
    cases MemoryKind.ofTypeName? arg.signature.typeName <;> rfl

theorem dimension_of_isViewed (h : arg.isViewed) : arg.dimension =
    ((MemoryKind.ofTypeName? arg.signature.typeName).map (·.dimension)).getD .buffer := by
  unfold Argument.dimension
  rw [imageKind?_of_isViewed h]
  cases MemoryKind.ofTypeName? arg.signature.typeName <;> rfl

theorem Lists.isViewed (h : arg.Lists table slot dimension) : arg.isViewed := by
  cases h <;> assumption

theorem WrongKind.isViewed (h : arg.WrongKind) : arg.isViewed := by
  cases h <;> assumption

theorem rightKind_of_kind (h : arg.placement.kind = arg.signature.kind) : ¬ arg.WrongKind := by
  rintro (⟨hviewed, htype, hne⟩ | ⟨hviewed, htype, hne⟩)
  · rw [h, kind_of_isViewed hviewed, htype] at hne
    exact hne rfl
  · rw [h, kind_of_isViewed hviewed, htype] at hne
    exact hne rfl

/-- An image where the type name is that of an image, and otherwise a buffer. -/
theorem placement_of_rightKind (hviewed : arg.isViewed) (hright : ¬ arg.WrongKind) :
    (∃ kind slots offset, MemoryKind.ofTypeName? arg.signature.typeName = some kind ∧
      arg.placement = .image slots offset) ∨
    MemoryKind.ofTypeName? arg.signature.typeName = none ∧
      ∃ slot offset, arg.placement = .memory slot offset := by
  cases htype : MemoryKind.ofTypeName? arg.signature.typeName with
  | none =>
    have hkind : arg.placement.kind = .memory :=
      Classical.not_not.1 fun hne => hright (.buffer hviewed htype hne)
    cases hplacement : arg.placement with
    | memory slot offset => exact .inr ⟨rfl, slot, offset, rfl⟩
    | _ => simp [hplacement, Placement.kind] at hkind
  | some kind =>
    have hkind : arg.placement.kind = .image :=
      Classical.not_not.1 fun hne => hright (.image hviewed htype hne)
    cases hplacement : arg.placement with
    | image slots offset => exact .inl ⟨kind, slots, offset, rfl, rfl⟩
    | _ => simp [hplacement, Placement.kind] at hkind

theorem Lists.rightKind (h : arg.Lists table slot dimension) : ¬ arg.WrongKind := by
  intro hwrong
  cases h with
  | writtenImage _ htype hplacement | readImage _ htype hplacement =>
    cases hwrong with
    | image _ _ hne => exact hne (hplacement ▸ rfl)
    | buffer _ hnone _ => cases htype.symm.trans hnone
  | buffer _ htype hplacement =>
    cases hwrong with
    | image _ hsome _ => cases htype.symm.trans hsome
    | buffer _ _ hne => exact hne (hplacement ▸ rfl)

theorem lists_iff : arg.Lists table slot dimension ↔
    arg.isViewed ∧ ¬ arg.WrongKind ∧ slot ∈ arg.viewSlots table ∧ arg.dimension = dimension := by
  constructor
  · intro h
    refine ⟨h.isViewed, h.rightKind, ?_⟩
    rw [dimension_of_isViewed h.isViewed]
    cases h with
    | writtenImage _ htype hplacement hslot hwritable =>
      simp [viewSlots, uavSlots, htype, hplacement, hslot, hwritable]
    | readImage _ htype hplacement hslot hwritable =>
      simp [viewSlots, srvSlots, htype, hplacement, hslot, hwritable]
    | buffer _ htype hplacement => simp [viewSlots, uavSlots, htype, hplacement]
  · rintro ⟨hviewed, hright, hslot, rfl⟩
    rw [dimension_of_isViewed hviewed]
    rcases placement_of_rightKind hviewed hright with
      ⟨kind, slots, offset, htype, hplacement⟩ | ⟨htype, slot', offset, hplacement⟩
    · rw [htype]
      -- All slots of an image are in one of the tables.
      by_cases hwritable : arg.signature.isWritable <;> cases table <;>
        simp [viewSlots, uavSlots, srvSlots, hplacement, hwritable] at hslot
      · exact .writtenImage hviewed htype hplacement hslot hwritable
      · exact .readImage hviewed htype hplacement hslot hwritable
    · rw [htype]
      cases table <;> simp [viewSlots, uavSlots, srvSlots, hplacement] at hslot
      exact hslot ▸ .buffer hviewed htype hplacement

theorem takes_iff (hright : ¬ arg.WrongKind) {place : Nat} :
    (arg.isViewed && (arg.viewSlots table).any (·.toNat == place)) ↔
      ∃ slot dimension, arg.Lists table slot dimension ∧ slot.toNat = place := by
  rw [Bool.and_eq_true, any_toNat_iff]
  constructor
  · rintro ⟨hviewed, slot, hslot, hplace⟩
    exact ⟨slot, arg.dimension, lists_iff.2 ⟨hviewed, hright, hslot, rfl⟩, hplace⟩
  · rintro ⟨slot, dimension, hlists, hplace⟩
    obtain ⟨hviewed, -, hslot, -⟩ := lists_iff.1 hlists
    exact ⟨hviewed, slot, hslot, hplace⟩

/-- The argument can be declared where the tables have these numbers of slots. -/
def Declarable (arg : Argument) (count : ViewTable → Nat) : Prop :=
  ¬ arg.WrongKind ∧
    ∀ table slot dimension, arg.Lists table slot dimension → slot.toNat < count table

/-- Nothing is asked of an argument in private or local memory. -/
theorem declarable_of_not_isViewed {count : ViewTable → Nat} (h : ¬ arg.isViewed) :
    arg.Declarable count :=
  ⟨fun hwrong => h hwrong.isViewed, fun _ _ _ hlists => absurd hlists.isViewed h⟩

theorem declarable_iff {count : ViewTable → Nat} (hviewed : arg.isViewed) :
    arg.Declarable count ↔ ¬ arg.WrongKind ∧
      (∀ slot ∈ arg.uavSlots, slot.toNat < count .uav) ∧
        ∀ slot ∈ arg.srvSlots, slot.toNat < count .srv := by
  refine and_congr_right fun hright => ?_
  simp only [lists_iff]
  constructor
  · intro h
    exact ⟨fun slot hslot => h .uav slot _ ⟨hviewed, hright, hslot, rfl⟩,
      fun slot hslot => h .srv slot _ ⟨hviewed, hright, hslot, rfl⟩⟩
  · rintro ⟨huav, hsrv⟩ table slot _ ⟨-, -, hslot, -⟩
    cases table with
    | uav => exact huav slot hslot
    | srv => exact hsrv slot hslot

/-- Placed as the signature asks, and inside the tables, it can be declared. -/
theorem declarable_of_placed {count : ViewTable → Nat}
    (hkind : arg.placement.kind = arg.signature.kind)
    (huav : ∀ slot ∈ arg.uavSlots, slot.toNat < count .uav)
    (hsrv : ∀ slot ∈ arg.srvSlots, slot.toNat < count .srv) : arg.Declarable count := by
  by_cases hviewed : arg.isViewed
  · exact (declarable_iff hviewed).2 ⟨rightKind_of_kind hkind, huav, hsrv⟩
  · exact declarable_of_not_isViewed hviewed

end Argument

/-! ## Declaring one argument after another -/

def Metadata.viewCount (metadata : Metadata) : ViewTable → Nat
  | .uav => metadata.uavCount.toNat
  | .srv => metadata.srvCount.toNat

/-- Why no declarations can be made of metadata. -/
inductive Metadata.Undeclarable (metadata : Metadata) : Prop
  | overflow : max metadata.inputsIndex.toNat metadata.workIndex.toNat = UInt32.size - 1 →
      Undeclarable metadata
  | wrongKind {arg : Argument} : arg ∈ metadata.args → arg.WrongKind → Undeclarable metadata
  | outside {arg : Argument} {table : ViewTable} {slot : UInt32} {dimension : ViewDimension} :
      arg ∈ metadata.args → arg.Lists table slot dimension →
      metadata.viewCount table ≤ slot.toNat → Undeclarable metadata

namespace Declarations

def views (decls : Declarations) : ViewTable → List ViewDimension
  | .uav => decls.uavs
  | .srv => decls.srvs

def viewCount (decls : Declarations) (table : ViewTable) : Nat :=
  (decls.views table).length

/-- Declares an argument whose slots are all inside the tables. -/
def view (decls : Declarations) (arg : Argument) : Declarations :=
  if arg.isViewed then
    { decls with
      uavs := put decls.uavs arg.uavSlots arg.dimension
      srvs := put decls.srvs arg.srvSlots arg.dimension }
  else decls

variable {decls decls' : Declarations} {arg : Argument} {index : Nat}

theorem addArgument_eq (h : decls.addArgument index arg = .ok decls') :
    decls' = decls.view arg := by
  unfold addArgument at h
  unfold view Argument.isViewed Argument.dimension
  split at h
  · rename_i hspace
    cases h
    simp [hspace]
  · rename_i hspace
    cases h
    simp [hspace]
  all_goals
    rename_i hspace
    split at h
    · rename_i hkind _
      obtain ⟨_, _, rfl⟩ := declare_ok h
      simp [hspace, hkind]
    · rename_i hkind _
      obtain ⟨_, _, rfl⟩ := declare_ok h
      simp [hspace, hkind]
    · cases h

theorem viewCount_addArgument (h : decls.addArgument index arg = .ok decls') :
    decls'.viewCount = decls.viewCount := by
  obtain ⟨huav, hsrv⟩ := addArgument_lengths h
  funext table
  cases table with
  | uav => exact huav
  | srv => exact hsrv

theorem addArgument_of_not_isViewed (h : ¬ arg.isViewed) :
    decls.addArgument index arg = .ok decls := by
  unfold addArgument
  cases hspace : arg.signature.space with
  | privateMemory | localMemory => rfl
  | globalMemory => exact absurd (Argument.isViewed_iff.2 (.inl hspace)) h
  | constantMemory => exact absurd (Argument.isViewed_iff.2 (.inr hspace)) h

theorem rightKind_of_addArgument (h : decls.addArgument index arg = .ok decls') :
    ¬ arg.WrongKind := by
  intro hwrong
  have hviewed := hwrong.isViewed
  have hkind := Argument.imageKind?_of_isViewed hviewed
  unfold addArgument at h
  split at h
  · rename_i hspace
    simp [Argument.isViewed, hspace] at hviewed
  · rename_i hspace
    simp [Argument.isViewed, hspace] at hviewed
  -- What was declared was an image placed as one or a buffer placed as one.
  all_goals
    split at h
    · rename_i himage hplaced
      cases hwrong with
      | image _ _ hne => exact hne hplaced
      | buffer _ hnone _ => cases himage.symm.trans (hkind.trans hnone)
    · rename_i himage hplaced
      cases hwrong with
      | image _ hsome _ => cases himage.symm.trans (hkind.trans hsome)
      | buffer _ _ hne => exact hne hplaced
    · cases h

theorem addArgument_of_rightKind (hviewed : arg.isViewed) (hright : ¬ arg.WrongKind) :
    decls.addArgument index arg = decls.declare index arg arg.dimension := by
  have hkind := Argument.imageKind?_of_isViewed hviewed
  have hdimension := Argument.dimension_of_isViewed hviewed
  unfold addArgument
  rcases Argument.placement_of_rightKind hviewed hright with
    ⟨kind, slots, offset, htype, hplacement⟩ | ⟨htype, slot, offset, hplacement⟩
  all_goals
    rw [htype] at hkind hdimension
    rcases Argument.isViewed_iff.1 hviewed with hspace | hspace <;>
      simp only [hspace, hkind, hdimension, hplacement, Placement.kind] <;> rfl

theorem exists_declare_eq_ok {decls : Declarations} (index : Nat) (dimension : ViewDimension)
    (huav : ∀ slot ∈ arg.uavSlots, slot.toNat < decls.uavs.length)
    (hsrv : ∀ slot ∈ arg.srvSlots, slot.toNat < decls.srvs.length) :
    ∃ decls', decls.declare index arg dimension = .ok decls' := by
  have hu : arg.uavSlots.find? (decls.uavs.length ≤ ·.toNat) = none := by simpa using huav
  have hs : arg.srvSlots.find? (decls.srvs.length ≤ ·.toNat) = none := by simpa using hsrv
  simp only [declare, hu, hs]
  exact ⟨_, rfl⟩

theorem exists_addArgument_iff (index : Nat) :
    (∃ decls', decls.addArgument index arg = .ok decls') ↔ arg.Declarable decls.viewCount := by
  by_cases hviewed : arg.isViewed
  · rw [Argument.declarable_iff hviewed]
    constructor
    · rintro ⟨decls', h⟩
      have hright := rightKind_of_addArgument h
      rw [addArgument_of_rightKind hviewed hright] at h
      obtain ⟨huav, hsrv, -⟩ := declare_ok h
      exact ⟨hright, huav, hsrv⟩
    · rintro ⟨hright, huav, hsrv⟩
      rw [addArgument_of_rightKind hviewed hright]
      exact exists_declare_eq_ok index arg.dimension huav hsrv
  · exact iff_of_true ⟨decls, addArgument_of_not_isViewed hviewed⟩
      (Argument.declarable_of_not_isViewed hviewed)

theorem addArguments_eq_ok {args : List Argument} : ∀ {decls : Declarations} (index : Nat),
    decls.addArguments index args = .ok decls' ↔
      (∀ arg ∈ args, arg.Declarable decls.viewCount) ∧ decls' = args.foldl view decls := by
  induction args with
  | nil => intro decls index; simp [addArguments, eq_comm]
  | cons arg rest ih =>
    intro decls index
    rw [List.forall_mem_cons, ← exists_addArgument_iff index, List.foldl_cons]
    simp only [addArguments]
    cases hfirst : decls.addArgument index arg with
    | error fault => simp
    | ok next =>
      -- The tables keep their lengths, so the rest is asked the same as before.
      rw [ih, viewCount_addArgument hfirst, ← addArgument_eq hfirst]
      simp

/-- The declarations before the first argument. -/
def blank (metadata : Metadata) : Declarations where
  constantBuffers := max metadata.inputsIndex metadata.workIndex + 1
  samplers := metadata.samplerCount
  uavs := .replicate metadata.uavCount.toNat .unknown
  srvs := .replicate metadata.srvCount.toNat .unknown

theorem viewCount_blank (metadata : Metadata) :
    (blank metadata).viewCount = metadata.viewCount := by
  funext table
  cases table with
  | uav => exact List.length_replicate
  | srv => exact List.length_replicate

theorem ofMetadata_eq_ok {metadata : Metadata} : ofMetadata metadata = .ok decls ↔
    (max metadata.inputsIndex metadata.workIndex).toNat + 1 < UInt32.size ∧
      (∀ arg ∈ metadata.args, arg.Declarable metadata.viewCount) ∧
      decls = metadata.args.foldl view (blank metadata) := by
  rw [← viewCount_blank, ← addArguments_eq_ok 0]
  unfold ofMetadata
  simp only
  split
  · rename_i hlast
    exact (and_iff_right hlast).symm
  · rename_i hlast
    simp [hlast]

end Declarations

end KernelBinding
