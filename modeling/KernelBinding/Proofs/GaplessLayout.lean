import Mathlib.Data.List.Forall2
import KernelBinding.Proofs.Separation

/-!
# KernelBinding.Proofs.GaplessLayout

A layout uses every slot it counts, and uses it once. Taken in the order of the items, the entries
that they become have the slots 0, 1, 2, … of each table, and the arguments follow each other in the
arguments buffer (`Layout.Consists`, `Metadata.Gapless`).

* `consists_extend`  — one more entry behind the others keeps it so.
* `consists_ofItems` — so the entries of all items together are laid out that way.
* `ofItems_gapless`  — and the metadata of any sequence of items are these entries and no others.
-/

namespace KernelBinding

/-- The bytes of the second argument, if it has a place in the buffer, start behind those of the
first. -/
def Argument.Precedes (a b : Argument) : Prop :=
  b.isStored → a.placement.start + a.placement.extent ≤ b.placement.start

/-- Number of slots of a table. -/
def Metadata.slotCount (metadata : Metadata) : BindingTable → Nat
  | .uav => metadata.uavCount.toNat
  | .srv => metadata.srvCount.toNat
  | .sampler => metadata.samplerCount.toNat

/-- The metadata consist of these entries, in this order. Their slots are counted from zero in each
table, without a gap, and the places of their arguments in the buffer ascend. -/
structure Metadata.Gapless (metadata : Metadata) (entries : List Entry) : Prop where
  args_eq : metadata.args = entries.filterMap (·.argument?)
  literalSamplers_eq : metadata.literalSamplers = entries.filterMap (·.literalSampler?)
  inlineConstants_eq : metadata.inlineConstants = entries.filterMap (·.inlineConstant?)
  slots : ∀ table, (entries.flatMap (·.slots table)).map (·.toNat) =
    List.range (metadata.slotCount table)
  aligned : ∀ arg ∈ metadata.args, 8 ∣ arg.placement.start
  ascending : metadata.args.Pairwise Argument.Precedes
  disjoint : metadata.args.Pairwise fun a b => ∀ i, ¬ (a.takesByte i ∧ b.takesByte i)
  within : ∀ arg ∈ metadata.args, arg.placement.start + arg.placement.extent ≤ metadata.inputsSize
  rows : 16 ∣ metadata.inputsSize

namespace Layout

/-- The layout consists of these entries, laid out one behind the other. -/
structure Consists (layout : Layout) (entries : List Entry) : Prop where
  args_eq : layout.args = entries.filterMap (·.argument?)
  literalSamplers_eq : layout.literalSamplers = entries.filterMap (·.literalSampler?)
  inlineConstants_eq : layout.inlineConstants = entries.filterMap (·.inlineConstant?)
  slots : ∀ table, (entries.flatMap (·.slots table)).map (·.toNat) = List.range (layout.next table)
  aligned : ∀ arg ∈ layout.args, 8 ∣ arg.placement.start
  ascending : layout.args.Pairwise Argument.Precedes

variable {layout layout' : Layout} {entries : List Entry} {entry : Entry}

theorem map_planeSlots {first count : Nat} (h : first + count < UInt32.size) :
    (planeSlots first count).map (·.toNat) = (List.range count).map (first + ·) := by
  rw [planeSlots, List.map_map]
  refine List.map_congr_left fun plane hplane => ?_
  have hlt := List.mem_range.1 hplane
  exact UInt32.toNat_ofNat_of_lt' (by omega)

theorem Extends.map_slots (he : layout.Extends layout' entry) (hr : layout'.InRange)
    (table : BindingTable) : (entry.slots table).map (·.toNat) =
      (List.range (entry.slots table).length).map (layout.next table + ·) := by
  have hlt := hr.next_lt table
  rw [he.next_eq table] at hlt
  rw [he.slots table, map_planeSlots hlt, length_planeSlots]

theorem Extends.aligned (he : layout.Extends layout' entry) (hr : layout'.InRange) {arg : Argument}
    (harg : entry.argument? = some arg) : 8 ∣ arg.placement.start := by
  by_cases hstored : arg.isStored
  · rw [he.start_eq hr harg hstored]
    exact dvd_alignUp layout.offset 8
  · rw [(Argument.extent_of_not_isStored hstored).1]
    exact Nat.dvd_zero 8

theorem consists_extend (hp : layout.Packed) (h : layout.Consists entries)
    (he : layout.Extends layout' entry) (hr : layout'.InRange) :
    layout'.Consists (entries ++ [entry]) := by
  refine ⟨?_, ?_, ?_, ?_, ?_, ?_⟩
  · rw [he.args_eq, h.args_eq, List.filterMap_append]
    cases entry <;> rfl
  · rw [he.literalSamplers_eq, h.literalSamplers_eq, List.filterMap_append]
    cases entry <;> rfl
  · rw [he.inlineConstants_eq, h.inlineConstants_eq, List.filterMap_append]
    cases entry <;> rfl
  · intro table
    rw [List.flatMap_append, List.map_append, h.slots, List.flatMap_singleton,
      he.map_slots hr table, he.next_eq table, List.range_add]
  · rw [he.args_eq]
    intro arg harg
    rcases List.mem_append.1 harg with harg | harg
    · exact h.aligned arg harg
    · exact he.aligned hr (Option.mem_toList.1 harg)
  · rw [he.args_eq, List.pairwise_append]
    refine ⟨h.ascending, ?_, ?_⟩
    · cases entry.argument? with
      | none => exact .nil
      | some new => exact List.pairwise_singleton _ _
    -- The new bytes start at the next free offset, behind all that is packed below it.
    · intro arg harg new hnew hstored
      rw [he.start_eq hr (Option.mem_toList.1 hnew) hstored]
      exact Nat.le_trans (hp.bytes arg harg) layout.le_nextOffset

theorem consists_foldl (items : List KernelItem) :
    ∀ (layout : Layout) (entries : List Entry), layout.Packed → layout.Consists entries →
      (items.foldl add layout).InRange →
        ∃ more, List.Forall₂ KernelItem.Becomes items more ∧
          (items.foldl add layout).Consists (entries ++ more) := by
  -- Only the end is known to be in range; the layouts before it are, since counters only grow.
  induction items with
  | nil =>
    intro layout entries _ h _
    exact ⟨[], .nil, (List.append_nil entries).symm ▸ h⟩
  | cons item rest ih =>
    intro layout entries hp h hr
    have hitem := InRange.of_grows hr (grows_foldl rest (layout.add item))
    obtain ⟨entry, hbecomes, he⟩ := extends_add layout item
    obtain ⟨more, hmore, hconsists⟩ :=
      ih _ (entries ++ [entry]) (packed_add hp item hitem) (consists_extend hp h he hitem) hr
    refine ⟨entry :: more, .cons hbecomes hmore, ?_⟩
    rw [List.append_assoc] at hconsists
    exact hconsists

theorem consists_empty : Consists {} [] :=
  ⟨rfl, rfl, rfl, by rintro (_ | _ | _) <;> rfl, nofun, .nil⟩

theorem consists_ofItems {items : List KernelItem} (hr : (ofItems items).InRange) :
    ∃ entries, List.Forall₂ KernelItem.Becomes items entries ∧ (ofItems items).Consists entries :=
  consists_foldl items {} [] packed_empty consists_empty hr

/-! ## The finished layout -/

/-- The tables have the slots that were counted, as the counters did not leave 32 bits. -/
theorem slotCount_metadata (name : String) (hr : layout.InRange) (table : BindingTable) :
    (layout.metadata name).slotCount table = layout.next table := by
  have hlt := hr.next_lt table
  cases table <;> exact UInt32.toNat_ofNat_of_lt' hlt

theorem Consists.gapless (h : layout.Consists entries) (name : String) (hp : layout.Packed)
    (hr : layout.InRange) : (layout.metadata name).Gapless entries := by
  refine ⟨h.args_eq, h.literalSamplers_eq, h.inlineConstants_eq, fun table => ?_, h.aligned,
    h.ascending, hp.apart.imp fun hapart => hapart.bytes, fun arg harg => ?_, dvd_alignUp _ 16⟩
  · rw [slotCount_metadata name hr table]
    exact h.slots table
  · exact Nat.le_trans (hp.bytes arg harg) (le_alignUp _ (by decide))

end Layout

namespace Metadata

/-- Each item becomes one entry, and the entries make up the metadata. In the order of the items the
slots of each table are counted from zero to its end. The bytes of the arguments start at multiples
of eight and ascend without overlapping, and the buffer that holds all of them consists of rows of
sixteen bytes. -/
theorem ofItems_gapless (name : String) (items : List KernelItem)
    (hr : (Layout.ofItems items).InRange) :
    ∃ entries, List.Forall₂ KernelItem.Becomes items entries ∧
      (Metadata.ofItems name items).Gapless entries := by
  obtain ⟨entries, hbecomes, hconsists⟩ := Layout.consists_ofItems hr
  exact ⟨entries, hbecomes, hconsists.gapless name (Layout.packed_ofItems hr) hr⟩

/-- Items of all kinds; the first scalar has no bytes. -/
def mixture : List KernelItem :=
  [.inlineConstant [1, 2], .image "r" "image2d_t" ⟨0⟩ 3, .scalar "e" "empty" 0, .sampler "s",
    .image "w" "image3d_t" (.ofList [.writable]) 2, .literalSampler true 1 0, .localBuffer "l",
    .scalar "n" "uint3" 12, .staticLocalMemory 64, .buffer "b" ⟨0⟩, .constantBuffer "c"]

/-- Five slots are written views, three are read and two are samplers; 12 bytes leave a gap of four
before the next address. -/
theorem mixture_gapless :
    (Layout.ofItems mixture).InRange ∧
      (∃ entries, List.Forall₂ KernelItem.Becomes mixture entries ∧
        (Metadata.ofItems "mixture" mixture).Gapless entries) ∧
      (Metadata.ofItems "mixture" mixture).uavCount = 5 ∧
      (Metadata.ofItems "mixture" mixture).srvCount = 3 ∧
      (Metadata.ofItems "mixture" mixture).samplerCount = 2 ∧
      (Metadata.ofItems "mixture" mixture).args.map (·.placement.start) =
        [0, 8, 0, 8, 0, 16, 32, 40] ∧
      (Metadata.ofItems "mixture" mixture).inputsSize = 48 := by
  have hr : (Layout.ofItems mixture).InRange := ⟨by decide, by decide, by decide, by decide⟩
  exact ⟨hr, ofItems_gapless "mixture" mixture hr, by decide, by decide, by decide, by decide,
    by decide⟩

end Metadata

end KernelBinding
