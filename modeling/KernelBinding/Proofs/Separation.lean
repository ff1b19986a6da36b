import KernelBinding.Proofs.Assignment
import KernelBinding.Proofs.Entries

/-!
# KernelBinding.Proofs.Separation

Metadata in which no two arguments share a slot or a byte (`Metadata.Separated`). A layout is such,
as long as its counters fit in 32 bits: it hands out slots and bytes behind all those in use
(`Layout.Packed`).

* `Packed.push`       — an argument behind the ones laid out so far keeps the layout packed.
* `Extends.fits`      — the argument that an item becomes is such an argument.
* `packed_add`        — so every item of a source keeps it packed.
* `separated_ofItems` — and the metadata of any sequence of items are separated.
* `constantsApart_ofItems` — no argument takes the slot of an inline constant.
-/

namespace KernelBinding

/-- Two arguments share no slot of any table and no byte. -/
structure Argument.Apart (a b : Argument) : Prop where
  uavs : ∀ slot ∈ a.uavSlots, slot ∉ b.uavSlots
  srvs : ∀ slot ∈ a.srvSlots, slot ∉ b.srvSlots
  samplers : ∀ slot ∈ a.samplerSlots, slot ∉ b.samplerSlots
  bytes : ∀ i, ¬ (a.takesByte i ∧ b.takesByte i)

/-- No two arguments, at different places of the list, share a slot or a byte. -/
def Metadata.Separated (metadata : Metadata) : Prop :=
  metadata.args.Pairwise Argument.Apart

namespace Layout

/-- All counters fit in 32 bits, and so does the size of the arguments buffer. Past that there is no
layout: the compiler counts slots and bytes in 32 bits. -/
structure InRange (layout : Layout) : Prop where
  uavs : layout.uavs < UInt32.size
  srvs : layout.srvs < UInt32.size
  samplers : layout.samplers < UInt32.size
  offset : alignUp layout.offset 16 < UInt32.size

/-- The arguments are apart, and below the next free slots and the next free byte. -/
structure Packed (layout : Layout) : Prop where
  apart : layout.args.Pairwise Argument.Apart
  uavs : ∀ arg ∈ layout.args, ∀ slot ∈ arg.uavSlots, slot.toNat < layout.uavs
  srvs : ∀ arg ∈ layout.args, ∀ slot ∈ arg.srvSlots, slot.toNat < layout.srvs
  samplers : ∀ arg ∈ layout.args, ∀ slot ∈ arg.samplerSlots, slot.toNat < layout.samplers
  bytes : ∀ arg ∈ layout.args, arg.placement.start + arg.placement.extent ≤ layout.offset

structure Grows (layout layout' : Layout) : Prop where
  uavs : layout.uavs ≤ layout'.uavs
  srvs : layout.srvs ≤ layout'.srvs
  samplers : layout.samplers ≤ layout'.samplers
  offset : layout.offset ≤ layout'.offset

/-- The argument lies between the counters of one layout and those of the other. An argument without
bytes may start anywhere below. -/
structure Fits (layout layout' : Layout) (arg : Argument) : Prop where
  uavs : ∀ slot ∈ arg.uavSlots, layout.uavs ≤ slot.toNat ∧ slot.toNat < layout'.uavs
  srvs : ∀ slot ∈ arg.srvSlots, layout.srvs ≤ slot.toNat ∧ slot.toNat < layout'.srvs
  samplers : ∀ slot ∈ arg.samplerSlots,
    layout.samplers ≤ slot.toNat ∧ slot.toNat < layout'.samplers
  bytes : arg.placement.extent = 0 ∨ layout.offset ≤ arg.placement.start
  ends : arg.placement.start + arg.placement.extent ≤ layout'.offset

variable {layout layout' : Layout}

theorem Packed.grow (h : layout.Packed) (hg : layout.Grows layout')
    (hargs : layout'.args = layout.args) : layout'.Packed := by
  refine ⟨?_, ?_, ?_, ?_, ?_⟩
  · rw [hargs]
    exact h.apart
  · rw [hargs]
    intro arg harg slot hs
    exact Nat.lt_of_lt_of_le (h.uavs arg harg slot hs) hg.uavs
  · rw [hargs]
    intro arg harg slot hs
    exact Nat.lt_of_lt_of_le (h.srvs arg harg slot hs) hg.srvs
  · rw [hargs]
    intro arg harg slot hs
    exact Nat.lt_of_lt_of_le (h.samplers arg harg slot hs) hg.samplers
  · rw [hargs]
    intro arg harg
    exact Nat.le_trans (h.bytes arg harg) hg.offset

/-- An argument that fits between the counters is apart from all arguments before it. -/
theorem Packed.apart_of_fits (h : layout.Packed) {arg new : Argument} (harg : arg ∈ layout.args)
    (hf : layout.Fits layout' new) : arg.Apart new := by
  refine ⟨?_, ?_, ?_, ?_⟩
  · intro slot hs hnew
    have := h.uavs arg harg slot hs
    have := (hf.uavs slot hnew).1
    omega
  · intro slot hs hnew
    have := h.srvs arg harg slot hs
    have := (hf.srvs slot hnew).1
    omega
  · intro slot hs hnew
    have := h.samplers arg harg slot hs
    have := (hf.samplers slot hnew).1
    omega
  · intro i hi
    have := h.bytes arg harg
    simp only [Argument.takesByte, Bool.and_eq_true, decide_eq_true_eq] at hi
    rcases hf.bytes with hzero | hstart
    · omega
    · omega

theorem Packed.push (h : layout.Packed) (hg : layout.Grows layout') {new : Argument}
    (hargs : layout'.args = layout.args ++ [new]) (hf : layout.Fits layout' new) :
    layout'.Packed := by
  have hmem : ∀ arg ∈ layout'.args, arg ∈ layout.args ∨ arg = new := by
    rw [hargs]
    intro arg harg
    simpa using harg
  refine ⟨?_, ?_, ?_, ?_, ?_⟩
  · rw [hargs, List.pairwise_append]
    refine ⟨h.apart, List.pairwise_singleton _ _, ?_⟩
    intro arg harg other hother
    rw [List.mem_singleton.1 hother]
    exact h.apart_of_fits harg hf
  · intro arg harg slot hs
    rcases hmem arg harg with harg | rfl
    · exact Nat.lt_of_lt_of_le (h.uavs arg harg slot hs) hg.uavs
    · exact (hf.uavs slot hs).2
  · intro arg harg slot hs
    rcases hmem arg harg with harg | rfl
    · exact Nat.lt_of_lt_of_le (h.srvs arg harg slot hs) hg.srvs
    · exact (hf.srvs slot hs).2
  · intro arg harg slot hs
    rcases hmem arg harg with harg | rfl
    · exact Nat.lt_of_lt_of_le (h.samplers arg harg slot hs) hg.samplers
    · exact (hf.samplers slot hs).2
  · intro arg harg
    rcases hmem arg harg with harg | rfl
    · exact Nat.le_trans (h.bytes arg harg) hg.offset
    · exact hf.ends

/-! ## Items -/

theorem le_nextOffset (layout : Layout) : layout.offset ≤ layout.nextOffset :=
  le_alignUp layout.offset (by decide)

theorem grows_add (layout : Layout) (item : KernelItem) : layout.Grows (layout.add item) := by
  have hnext := layout.le_nextOffset
  cases item with
  | image name typeName qualifiers planes =>
    simp only [add]
    split
    · exact ⟨Nat.le_add_right .., Nat.le_refl _, Nat.le_refl _, by simp only; omega⟩
    · exact ⟨Nat.le_refl _, Nat.le_add_right .., Nat.le_refl _, by simp only; omega⟩
  | _ =>
    refine ⟨?_, ?_, ?_, ?_⟩ <;> simp only [add, push] <;> omega

theorem grows_foldl (items : List KernelItem) :
    ∀ layout : Layout, layout.Grows (items.foldl add layout) := by
  induction items with
  | nil => intro layout; exact ⟨Nat.le_refl _, Nat.le_refl _, Nat.le_refl _, Nat.le_refl _⟩
  | cons item rest ih =>
    intro layout
    have h₁ := grows_add layout item
    have h₂ := ih (layout.add item)
    exact ⟨Nat.le_trans h₁.uavs h₂.uavs, Nat.le_trans h₁.srvs h₂.srvs,
      Nat.le_trans h₁.samplers h₂.samplers, Nat.le_trans h₁.offset h₂.offset⟩

/-- Counters that fit in the end fitted all the time. -/
theorem InRange.of_grows (h : layout'.InRange) (hg : layout.Grows layout') : layout.InRange := by
  have := hg.offset
  have hend := h.offset
  refine ⟨Nat.lt_of_le_of_lt hg.uavs h.uavs, Nat.lt_of_le_of_lt hg.srvs h.srvs,
    Nat.lt_of_le_of_lt hg.samplers h.samplers, ?_⟩
  unfold alignUp at hend ⊢
  omega

theorem mem_planeSlots {first count : Nat} (h : first + count < UInt32.size) {slot : UInt32}
    (hs : slot ∈ planeSlots first count) : first ≤ slot.toNat ∧ slot.toNat < first + count := by
  obtain ⟨plane, hplane, rfl⟩ := List.mem_map.1 hs
  have hlt := List.mem_range.1 hplane
  rw [UInt32.toNat_ofNat_of_lt' (by omega)]
  omega

/-! ## New entries -/

/-- The bytes of an argument start at the next free offset, which is one of 32 bits. -/
theorem Extends.start_eq {entry : Entry} (he : layout.Extends layout' entry) (hr : layout'.InRange)
    {arg : Argument} (harg : entry.argument? = some arg) (hstored : arg.isStored) :
    arg.placement.start = layout.nextOffset := by
  obtain ⟨hstart, hend⟩ := he.bytes arg harg hstored
  have hle := le_alignUp layout'.offset (show 0 < 16 by decide)
  have hlt := hr.offset
  rw [hstart]
  exact UInt32.toNat_ofNat_of_lt (by omega)

theorem InRange.next_lt (h : layout.InRange) : ∀ table, layout.next table < UInt32.size
  | .uav => h.uavs
  | .srv => h.srvs
  | .sampler => h.samplers

theorem Extends.mem_slots {entry : Entry} (he : layout.Extends layout' entry) (hr : layout'.InRange)
    (table : BindingTable) {slot : UInt32} (hslot : slot ∈ entry.slots table) :
    layout.next table ≤ slot.toNat ∧ slot.toNat < layout'.next table := by
  have hlt := hr.next_lt table
  rw [he.slots table] at hslot
  rw [he.next_eq table] at hlt ⊢
  exact mem_planeSlots hlt hslot

/-- What the next free slots and bytes are given to lies between the counters before and after. -/
theorem Extends.fits {arg : Argument} (he : layout.Extends layout' (.argument arg))
    (hr : layout'.InRange) : layout.Fits layout' arg := by
  have hnext := layout.le_nextOffset
  refine ⟨fun _ => he.mem_slots hr .uav, fun _ => he.mem_slots hr .srv,
    fun _ => he.mem_slots hr .sampler, ?_, ?_⟩
  · by_cases hstored : arg.isStored
    · have hstart := he.start_eq hr rfl hstored
      exact .inr (by omega)
    · exact .inl (Argument.extent_of_not_isStored hstored).2
  · by_cases hstored : arg.isStored
    · have hstart := he.start_eq hr rfl hstored
      have hend := (he.bytes arg rfl hstored).2
      omega
    · obtain ⟨hstart, hextent⟩ := Argument.extent_of_not_isStored hstored
      omega

theorem packed_add (h : layout.Packed) (item : KernelItem) (hr : (layout.add item).InRange) :
    (layout.add item).Packed := by
  have hg := grows_add layout item
  obtain ⟨entry, -, he⟩ := extends_add layout item
  -- Only an argument adds to what is packed; the other entries may still move a counter.
  cases entry with
  | argument arg => exact h.push hg he.args_eq (he.fits hr)
  | literalSampler _ | inlineConstant _ | setting =>
    exact h.grow hg (he.args_eq.trans (List.append_nil _))

theorem packed_empty : Packed {} := by
  refine ⟨.nil, ?_, ?_, ?_, ?_⟩ <;> intro arg harg <;> cases harg

theorem packed_foldl (items : List KernelItem) :
    ∀ layout : Layout, layout.Packed → (items.foldl add layout).InRange →
      (items.foldl add layout).Packed := by
  induction items with
  | nil => intro layout h _; exact h
  | cons item rest ih =>
    intro layout h hr
    have hitem := InRange.of_grows hr (grows_foldl rest (layout.add item))
    exact ih _ (packed_add h item hitem) hr

theorem packed_ofItems {items : List KernelItem} (hr : (ofItems items).InRange) :
    (ofItems items).Packed :=
  packed_foldl items {} packed_empty hr

/-! ## Constants -/

/-- No constant lies in a slot of an argument, and all lie below the next free slot. -/
structure ConstantsApart (layout : Layout) : Prop where
  below : ∀ literal ∈ layout.inlineConstants, literal.slot.toNat < layout.uavs
  apart : ∀ arg ∈ layout.args, ∀ literal ∈ layout.inlineConstants, literal.slot ∉ arg.uavSlots

theorem constantsApart_add (hp : layout.Packed) (h : layout.ConstantsApart) (item : KernelItem)
    (hr : (layout.add item).InRange) : (layout.add item).ConstantsApart := by
  have hg := grows_add layout item
  obtain ⟨entry, -, he⟩ := extends_add layout item
  have hbelow : ∀ literal ∈ layout.inlineConstants, literal.slot.toNat < (layout.add item).uavs :=
    fun literal hl => Nat.lt_of_lt_of_le (h.below literal hl) hg.uavs
  cases entry with
  | argument arg =>
    have hconstants : (layout.add item).inlineConstants = layout.inlineConstants :=
      he.inlineConstants_eq.trans (List.append_nil _)
    refine ⟨hconstants ▸ hbelow, ?_⟩
    rw [he.args_eq, hconstants]
    intro other hother literal hl hslot
    rcases List.mem_append.1 hother with hother | hother
    · exact h.apart other hother literal hl hslot
    · rw [List.mem_singleton.1 hother] at hslot
      have := ((he.fits hr).uavs literal.slot hslot).1
      have := h.below literal hl
      omega
  | inlineConstant new =>
    obtain ⟨hfrom, hto⟩ := he.mem_slots hr .uav (List.mem_singleton_self new.slot)
    have hargs : (layout.add item).args = layout.args := he.args_eq.trans (List.append_nil _)
    refine ⟨?_, ?_⟩
    · rw [he.inlineConstants_eq]
      intro literal hl
      rcases List.mem_append.1 hl with hl | hl
      · exact hbelow literal hl
      · exact List.mem_singleton.1 hl ▸ hto
    · rw [hargs, he.inlineConstants_eq]
      intro arg harg literal hl htakes
      rcases List.mem_append.1 hl with hl | hl
      · exact h.apart arg harg literal hl htakes
      · have hlt := hp.uavs arg harg literal.slot htakes
        rw [List.mem_singleton.1 hl] at hlt
        exact absurd hfrom (Nat.not_le.2 hlt)
  | literalSampler _ | setting =>
    have hargs : (layout.add item).args = layout.args := he.args_eq.trans (List.append_nil _)
    have hconstants : (layout.add item).inlineConstants = layout.inlineConstants :=
      he.inlineConstants_eq.trans (List.append_nil _)
    refine ⟨hconstants ▸ hbelow, ?_⟩
    rw [hargs, hconstants]
    exact h.apart

theorem constantsApart_foldl (items : List KernelItem) :
    ∀ layout : Layout, layout.Packed → layout.ConstantsApart → (items.foldl add layout).InRange →
      (items.foldl add layout).ConstantsApart := by
  induction items with
  | nil => intro layout _ h _; exact h
  | cons item rest ih =>
    intro layout hp h hr
    have hitem := InRange.of_grows hr (grows_foldl rest (layout.add item))
    exact ih _ (packed_add hp item hitem) (constantsApart_add hp h item hitem) hr

end Layout

theorem Metadata.separated_ofItems (name : String) {items : List KernelItem}
    (hr : (Layout.ofItems items).InRange) : (Metadata.ofItems name items).Separated :=
  (Layout.packed_ofItems hr).apart

theorem Metadata.constantsApart_ofItems (name : String) {items : List KernelItem}
    (hr : (Layout.ofItems items).InRange) :
    ∀ arg ∈ (Metadata.ofItems name items).args,
      ∀ literal ∈ (Metadata.ofItems name items).inlineConstants, literal.slot ∉ arg.uavSlots :=
  (Layout.constantsApart_foldl items {} Layout.packed_empty ⟨nofun, nofun⟩ hr).apart

end KernelBinding
