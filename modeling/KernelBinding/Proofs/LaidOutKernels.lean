import KernelBinding.Proofs.Acceptance
import KernelBinding.Proofs.GaplessLayout

/-!
# KernelBinding.Proofs.LaidOutKernels

Which sources make a kernel. A layout keeps every slot inside its table and every byte inside the
buffer, so of all that is asked of metadata only what concerns single items is left: the type names of
images and scalars, the modes of literal samplers (`KernelItem.Lawful`), and the data of constants
(`KernelItem.Storable`).

* `Becomes.lawful_iff`, `Becomes.storable_iff` — an item may be used if and only if its entry may.
* `Gapless.sound_iff`  — metadata without gaps are sound when each entry by itself is.
* `make_ofItems`       — so a kernel is made exactly of such items, and else the fault tells which of
  the two conditions is broken.
-/

namespace KernelBinding

/-- The names that the kernel language has for types of images. -/
def imageTypeNames : List String :=
  ["image1d_buffer_t", "image1d_t", "image1d_array_t", "image2d_t", "image2d_array_t", "image3d_t"]

theorem isSome_ofTypeName? {name : String} :
    (MemoryKind.ofTypeName? name).isSome ↔ name ∈ imageTypeNames := by
  have hnames : imageTypeNames = imageTypes.map (·.name) := rfl
  rw [hnames, MemoryKind.ofTypeName?, Option.isSome_map, List.find?_isSome]
  simp

/-! ## Single items -/

/-- An item that may be part of a kernel, as far as its types and modes go. -/
def KernelItem.Lawful : KernelItem → Prop
  | .image _ typeName _ _ => typeName ∈ imageTypeNames
  | .scalar _ typeName _ => typeName ≠ "sampler_t"
  | .literalSampler _ addressing filter => addressing.toNat < 5 ∧ filter.toNat < 2
  | _ => True

/-- An inline constant has data, and no more of them than one memory object may hold. -/
def KernelItem.Storable (limits : Limits) : KernelItem → Prop
  | .inlineConstant data => data ≠ [] ∧ data.length ≤ limits.maxAllocation
  | _ => True

/-- An argument is placed as its signature asks, and the modes of a literal sampler exist. -/
def Entry.Lawful : Entry → Prop
  | .argument arg => arg.placement.kind = arg.signature.kind
  | .literalSampler literal => literal.addressing.toNat < 5 ∧ literal.filter.toNat < 2
  | _ => True

def Entry.Storable (limits : Limits) : Entry → Prop
  | .inlineConstant literal => literal.Storable limits
  | _ => True

namespace KernelItem

variable {item : KernelItem} {entry : Entry} {items : List KernelItem} {entries : List Entry}

theorem Becomes.lawful_iff (h : item.Becomes entry) : item.Lawful ↔ entry.Lawful := by
  cases h with
  | @image name typeName qualifiers planes offset slots hplanes =>
    have hkind : (⟨some name, typeName, .globalMemory, qualifiers⟩ : Signature).kind = .image ↔
        (MemoryKind.ofTypeName? typeName).isSome := Signature.kind_eq_image
    -- The placement is that of an image, so the type has to be one too.
    rw [Entry.Lawful, eq_comm]
    exact (hkind.trans isSome_ofTypeName?).symm
  | @scalar name typeName size offset =>
    by_cases htype : typeName = "sampler_t" <;>
      simp [Lawful, Entry.Lawful, Placement.kind, Signature.kind, Signature.isSampler,
        samplerTypeName, htype]
  | literalSampler => exact Iff.rfl
  | buffer | constantBuffer | sampler | localBuffer => exact iff_of_true trivial rfl
  | inlineConstant | staticLocalMemory | requiredGroup | suggestedGroup => exact Iff.rfl

theorem Becomes.storable_iff (h : item.Becomes entry) (limits : Limits) :
    item.Storable limits ↔ entry.Storable limits := by
  cases h <;> exact Iff.rfl

theorem forall_mem_congr (h : List.Forall₂ Becomes items entries) {P : KernelItem → Prop}
    {Q : Entry → Prop} (hiff : ∀ {item entry}, Becomes item entry → (P item ↔ Q entry)) :
    (∀ item ∈ items, P item) ↔ ∀ entry ∈ entries, Q entry := by
  induction h with
  | nil => exact iff_of_true nofun nofun
  | cons hfirst _ ih => rw [List.forall_mem_cons, List.forall_mem_cons, hiff hfirst, ih]

end KernelItem

/-! ## Metadata without gaps -/

namespace Metadata

namespace Gapless

variable {metadata : Metadata} {entries : List Entry}

theorem mem_args (h : metadata.Gapless entries) {arg : Argument} :
    arg ∈ metadata.args ↔ .argument arg ∈ entries := by
  simp [h.args_eq]

theorem mem_literalSamplers (h : metadata.Gapless entries) {literal : LiteralSampler} :
    literal ∈ metadata.literalSamplers ↔ .literalSampler literal ∈ entries := by
  simp [h.literalSamplers_eq]

theorem mem_inlineConstants (h : metadata.Gapless entries) {literal : InlineConstant} :
    literal ∈ metadata.inlineConstants ↔ .inlineConstant literal ∈ entries := by
  simp [h.inlineConstants_eq]

theorem slot_lt (h : metadata.Gapless entries) {entry : Entry} (hentry : entry ∈ entries)
    (table : BindingTable) {slot : UInt32} (hslot : slot ∈ entry.slots table) :
    slot.toNat < metadata.slotCount table := by
  have hmem : slot.toNat ∈ (entries.flatMap (·.slots table)).map (·.toNat) :=
    List.mem_map_of_mem (List.mem_flatMap.2 ⟨entry, hentry, hslot⟩)
  rw [h.slots table] at hmem
  exact List.mem_range.1 hmem

theorem placedIn (h : metadata.Gapless entries) {arg : Argument} (harg : arg ∈ metadata.args) :
    arg.PlacedIn metadata := by
  have hslots := h.slot_lt (h.mem_args.1 harg)
  exact Argument.placedIn_iff.2 ⟨fun _ => hslots .uav, fun _ => hslots .srv,
    fun _ => hslots .sampler, h.within arg harg⟩

theorem sound_iff (h : metadata.Gapless entries)
    (hlast : (max metadata.inputsIndex metadata.workIndex).toNat < UInt32.size - 1) :
    metadata.Sound ↔ ∀ entry ∈ entries, entry.Lawful := by
  constructor
  · intro hsound entry hentry
    cases entry with
    | argument arg => exact hsound.kinds arg (h.mem_args.2 hentry)
    | literalSampler literal => exact hsound.samplerModes literal (h.mem_literalSamplers.2 hentry)
    | inlineConstant _ | setting => exact trivial
  · intro hlawful
    refine ⟨hlast, fun arg harg => hlawful _ (h.mem_args.1 harg), fun arg harg => h.placedIn harg,
      ?_, fun literal hl => hlawful _ (h.mem_literalSamplers.1 hl), ?_⟩
    · intro literal hl
      exact h.slot_lt (h.mem_literalSamplers.1 hl) .sampler (List.mem_singleton_self _)
    · intro literal hl
      exact h.slot_lt (h.mem_inlineConstants.1 hl) .uav (List.mem_singleton_self _)

theorem storable_iff (h : metadata.Gapless entries) (limits : Limits) :
    (∀ literal ∈ metadata.inlineConstants, literal.Storable limits) ↔
      ∀ entry ∈ entries, entry.Storable limits := by
  constructor
  · intro hstorable entry hentry
    cases entry with
    | inlineConstant literal => exact hstorable literal (h.mem_inlineConstants.2 hentry)
    | argument _ | literalSampler _ | setting => exact trivial
  · intro hstorable literal hl
    exact hstorable _ (h.mem_inlineConstants.1 hl)

end Gapless

/-- Constant buffers 0 and 1 are in use. -/
theorem sound_ofItems {items : List KernelItem} {entries : List Entry} (name : String)
    (h : (Metadata.ofItems name items).Gapless entries)
    (hbecomes : List.Forall₂ KernelItem.Becomes items entries) :
    (Metadata.ofItems name items).Sound ↔ ∀ item ∈ items, item.Lawful := by
  rw [h.sound_iff (by decide : (1 : UInt32).toNat < UInt32.size - 1),
    KernelItem.forall_mem_congr hbecomes KernelItem.Becomes.lawful_iff]

end Metadata

/-! ## Kernels -/

namespace Kernel

/-- Of a laid out source a kernel is made exactly when every item is lawful and the data of every
constant can be stored. When only the data cannot be stored it runs out of resources, and otherwise
the metadata are malformed. -/
theorem make_ofItems (program : Nat) (limits : Limits) (name : String) (items : List KernelItem)
    (fresh : Nat) (hr : (Layout.ofItems items).InRange) :
    ((∃ kernel, make program limits (.ofItems name items) fresh = .ok kernel) ↔
      (∀ item ∈ items, item.Lawful) ∧ ∀ item ∈ items, item.Storable limits) ∧
    ((∃ cause, make program limits (.ofItems name items) fresh = .error (.outOfResources cause)) ↔
      (∀ item ∈ items, item.Lawful) ∧ ¬ ∀ item ∈ items, item.Storable limits) ∧
    ((∃ reason, make program limits (.ofItems name items) fresh =
      .error (.malformedMetadata reason)) ↔ ¬ ∀ item ∈ items, item.Lawful) := by
  obtain ⟨entries, hbecomes, hconsists⟩ := Layout.consists_ofItems hr
  have hgapless : (Metadata.ofItems name items).Gapless entries :=
    hconsists.gapless name (Layout.packed_ofItems hr) hr
  have hsound := Metadata.sound_ofItems name hgapless hbecomes
  have hstorable := (KernelItem.forall_mem_congr hbecomes fun h => h.storable_iff limits).trans
    (hgapless.storable_iff limits).symm
  rw [← hsound, hstorable]
  -- Sound metadata fail for lack of memory only, and other metadata before any memory is asked for.
  by_cases h : (Metadata.ofItems name items).Sound
  · rcases make_of_sound h program limits fresh with
      ⟨hdata, kernel, hmake⟩ | ⟨cause, hfirst, hmake⟩
    · simpa [hmake, h] using hdata
    · simpa [hmake, h] using hfirst.not_storable
  · obtain ⟨reason, hmake⟩ := make_of_not_sound h program limits fresh
    simp [hmake, h]

/-- Every condition is met at its border. -/
def bordering : List KernelItem :=
  [.image "i" "image1d_buffer_t" ⟨0⟩ 0, .scalar "s" "sampler_T" 3, .literalSampler false 4 1,
    .inlineConstant [1, 2]]

/-- A sampler that is passed as a scalar, and a constant without data. -/
def disguised : List KernelItem :=
  [.inlineConstant [], .scalar "s" "sampler_t" 8]

/-- Two bytes can be stored where two are allowed, and not where one is; the scalar is found before
the missing data are. -/
theorem bordering_make :
    (Layout.ofItems bordering).InRange ∧ (Layout.ofItems disguised).InRange ∧
    (∃ kernel, make 0 { maxAllocation := 2 } (.ofItems "bordering" bordering) 0 = .ok kernel) ∧
    (∃ cause, make 0 { maxAllocation := 1 } (.ofItems "bordering" bordering) 0 =
      .error (.outOfResources cause)) ∧
    ∃ reason, make 0 {} (.ofItems "disguised" disguised) 0 = .error (.malformedMetadata reason) := by
  have hbordering : (Layout.ofItems bordering).InRange := ⟨by decide, by decide, by decide, by decide⟩
  have hdisguised : (Layout.ofItems disguised).InRange := ⟨by decide, by decide, by decide, by decide⟩
  have hlawful : ∀ item ∈ bordering, item.Lawful := by
    simp [bordering, KernelItem.Lawful, imageTypeNames]
  refine ⟨hbordering, hdisguised,
    (make_ofItems 0 { maxAllocation := 2 } "bordering" bordering 0 hbordering).1.2 ⟨hlawful, ?_⟩,
    (make_ofItems 0 { maxAllocation := 1 } "bordering" bordering 0 hbordering).2.1.2 ⟨hlawful, ?_⟩,
    (make_ofItems 0 {} "disguised" disguised 0 hdisguised).2.2.2 ?_⟩
  · simp [bordering, KernelItem.Storable]
  · simp [bordering, KernelItem.Storable]
  · simp [disguised, KernelItem.Lawful]

end Kernel

end KernelBinding
