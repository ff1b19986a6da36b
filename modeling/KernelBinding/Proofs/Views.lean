import KernelBinding.Proofs.Access
import KernelBinding.Proofs.Declaration
import KernelBinding.Proofs.Separation

/-!
# KernelBinding.Proofs.Views

What is bound to an argument fits the way its slots are declared. The declarations are made from the
metadata in one pass, and calls are checked in another; both follow the signature of the argument.
When no other argument and no constant takes a slot (`Metadata.ViewsApart`), the declaration of the
slot is that of its argument, and what it holds came through its argument.

* `lastDimension_of_mem` — the last argument that takes a slot is the only one.
* `declared`             — so the slot is declared as that argument needs it.
* `views_declared` — an object that is bound to an argument is of the declared dimension.
-/

namespace KernelBinding

/-- No two arguments take one slot of the views, and no argument takes that of a constant. -/
structure Metadata.ViewsApart (metadata : Metadata) : Prop where
  uavs : metadata.args.Pairwise fun a b => ∀ slot ∈ a.uavSlots, slot ∉ b.uavSlots
  srvs : metadata.args.Pairwise fun a b => ∀ slot ∈ a.srvSlots, slot ∉ b.srvSlots
  constants : ∀ arg ∈ metadata.args, ∀ literal ∈ metadata.inlineConstants,
    literal.slot ∉ arg.uavSlots

theorem Metadata.viewsApart_ofItems (name : String) {items : List KernelItem}
    (hr : (Layout.ofItems items).InRange) : (Metadata.ofItems name items).ViewsApart :=
  have hsep := Metadata.separated_ofItems name hr
  ⟨hsep.imp fun h => h.uavs, hsep.imp fun h => h.srvs, Metadata.constantsApart_ofItems name hr⟩

theorem Metadata.ViewsApart.views {metadata : Metadata} (h : metadata.ViewsApart) :
    ∀ table : ViewTable, metadata.args.Pairwise fun a b =>
      ∀ slot ∈ a.viewSlots table, slot ∉ b.viewSlots table
  | .uav => h.uavs
  | .srv => h.srvs

section

variable {args : List Argument} {slots : Argument → List UInt32} {arg : Argument} {slot : UInt32}

theorem eq_of_mem_slots (h : args.Pairwise fun a b => ∀ slot ∈ slots a, slot ∉ slots b)
    {a b : Argument} (ha : a ∈ args) (hb : b ∈ args) (hsa : slot ∈ slots a) (hsb : slot ∈ slots b) :
    a = b := by
  obtain ⟨i, hi, rfl⟩ := List.getElem_of_mem ha
  obtain ⟨j, hj, rfl⟩ := List.getElem_of_mem hb
  rcases Nat.lt_trichotomy i j with hlt | rfl | hgt
  · exact absurd hsb (List.pairwise_iff_getElem.1 h i j hi hj hlt slot hsa)
  · rfl
  · exact absurd hsa (List.pairwise_iff_getElem.1 h j i hj hi hgt slot hsb)

theorem lastDimension_of_mem (h : args.Pairwise fun a b => ∀ slot ∈ slots a, slot ∉ slots b)
    (harg : arg ∈ args) (hviewed : arg.isViewed) (hslot : slot ∈ slots arg) :
    Declarations.lastDimension args (fun other => (slots other).any (·.toNat == slot.toNat)) =
      arg.dimension := by
  have htakes : (slots arg).any (·.toNat == slot.toNat) :=
    any_toNat_iff.2 ⟨slot, hslot, rfl⟩
  unfold Declarations.lastDimension
  rw [List.findRev?_eq_find?_reverse]
  cases hlast : args.reverse.find? fun other =>
      other.isViewed && (slots other).any (·.toNat == slot.toNat) with
  | none =>
    have := List.find?_eq_none.1 hlast arg (List.mem_reverse.2 harg)
    simp [hviewed, htakes] at this
  | some other =>
    have htest := List.find?_some hlast
    simp only [Bool.and_eq_true] at htest
    have hother := List.mem_reverse.1 (List.mem_of_find?_eq_some hlast)
    rw [eq_of_mem_slots h hother harg (mem_of_any_toNat htest.2) hslot]
    rfl

end

/-! ## Declared arguments -/

theorem Argument.isViewed_of_mem {arg : Argument} {table : ViewTable} {slot : UInt32}
    (hkind : arg.placement.kind = arg.signature.kind) (h : slot ∈ arg.viewSlots table) :
    arg.isViewed := by
  refine Decidable.byContradiction fun hviewed => ?_
  obtain ⟨huav, hsrv⟩ := Metadata.noViews_of_space hkind (not_isViewed_iff.1 hviewed)
  have hnone : arg.viewSlots table = [] := by
    cases table with
    | uav => exact huav
    | srv => exact hsrv
  rw [hnone] at h
  exact List.not_mem_nil h

theorem Metadata.WellPlaced.views {metadata : Metadata} (h : metadata.WellPlaced) {arg : Argument}
    (harg : arg ∈ metadata.args) :
    ∀ {table : ViewTable}, ∀ slot ∈ arg.viewSlots table, slot.toNat < metadata.viewCount table
  | .uav => h.uav arg harg
  | .srv => h.srv arg harg

theorem Argument.dimension_of_image {arg : Argument} {kind : MemoryKind}
    (h : arg.signature.imageKind? = some kind) : arg.dimension = kind.dimension := by
  simp [dimension, h]

theorem Argument.dimension_of_memory {arg : Argument} (h : arg.signature.kind = .memory) :
    arg.dimension = .buffer := by
  have hnone : arg.signature.imageKind? = none := by
    rw [← Option.not_isSome_iff_eq_none, ← Signature.kind_eq_image, h]
    exact nofun
  simp [dimension, hnone]

namespace Bindings

variable {metadata : Metadata} {bindings : Bindings} {arg : Argument} {slot : UInt32}
  {object : Object MemoryObject}

theorem Sourced.allows_uav (h : bindings.Sourced metadata) (hapart : metadata.ViewsApart)
    (harg : arg ∈ metadata.args) (hslot : slot ∈ arg.uavSlots)
    (hbound : bindings.uavs[slot.toNat]? = some (some object)) : arg.Allows object.value := by
  rcases h.uav _ object hbound with ⟨literal, hl, heq, -⟩ | ⟨other, hother, htakes, hallows⟩
  · rw [← UInt32.toNat_inj.1 heq] at hslot
    exact absurd hslot (hapart.constants arg harg literal hl)
  · rwa [eq_of_mem_slots hapart.uavs harg hother hslot (mem_of_any_toNat htakes)]

theorem Sourced.allows_srv (h : bindings.Sourced metadata) (hapart : metadata.ViewsApart)
    (harg : arg ∈ metadata.args) (hslot : slot ∈ arg.srvSlots)
    (hbound : bindings.srvs[slot.toNat]? = some (some object)) : arg.Allows object.value := by
  obtain ⟨other, hother, htakes, hallows⟩ := h.srv _ object hbound
  rwa [eq_of_mem_slots hapart.srvs harg hother hslot (mem_of_any_toNat htakes)]

end Bindings

namespace Kernel

variable {program : Nat} {limits : Limits} {metadata : Metadata} {fresh : Nat}
  {start kernel : Kernel} {arg : Argument} {slot : UInt32}

theorem declared (h : Made program limits metadata fresh kernel) (hapart : metadata.ViewsApart)
    (harg : arg ∈ metadata.args) (table : ViewTable) (hslot : slot ∈ arg.viewSlots table) :
    (kernel.declarations.views table)[slot.toNat]? = some arg.dimension := by
  have hviewed := Argument.isViewed_of_mem (h.wellPlaced.kind arg harg) hslot
  rw [Declarations.getElem?_views h.declarations, if_pos (h.wellPlaced.views harg slot hslot)]
  exact congrArg some (lastDimension_of_mem (hapart.views table) harg hviewed hslot)

theorem declarations_of_reaches (h : start.Reaches kernel) :
    kernel.declarations = start.declarations := by
  induction h with
  | start => rfl
  | run calls _ ih => rw [assignAll_eq]; exact ih
  | copy session _ ih => exact ih

/-- What the slots of an argument hold is of the kind it takes, and declared in the dimension of
that kind. -/
def Declares (kernel : Kernel) (arg : Argument) : Prop :=
  match arg.placement with
  | .image slots _ => ∀ slot ∈ slots, ∀ object,
    (if arg.signature.isWritable then kernel.bindings.uavs
      else kernel.bindings.srvs)[slot.toNat]? = some (some object) →
    arg.signature.imageKind? = some object.value.kind ∧
      (if arg.signature.isWritable then kernel.declarations.uavs
        else kernel.declarations.srvs)[slot.toNat]? = some object.value.kind.dimension
  | .memory slot _ => ∀ object, kernel.bindings.uavs[slot.toNat]? = some (some object) →
    object.value.kind = .buffer ∧ kernel.declarations.uavs[slot.toNat]? = some .buffer
  | .sampler _ | .localMemory | .scalar .. => True

theorem declares_of_sourced (h : Made program limits metadata fresh start)
    (hapart : metadata.ViewsApart) (hsourced : kernel.bindings.Sourced metadata)
    (hdecls : kernel.declarations = start.declarations) (harg : arg ∈ metadata.args) :
    kernel.Declares arg := by
  unfold Declares
  cases hp : arg.placement with
  | image slots offset =>
    intro slot hslot object hbound
    have hkind : ∀ {object : MemoryObject}, arg.Allows object →
        arg.signature.imageKind? = some object.kind := by
      intro object hallows
      simp only [Argument.Allows, hp] at hallows
      exact hallows.1
    by_cases hw : arg.signature.isWritable
    · have huav : slot ∈ arg.uavSlots := by simpa [Argument.uavSlots, hp, hw] using hslot
      rw [if_pos hw] at hbound ⊢
      have himage := hkind (hsourced.allows_uav hapart harg huav hbound)
      rw [hdecls, ← Argument.dimension_of_image himage]
      exact ⟨himage, declared h hapart harg .uav huav⟩
    · have hsrv : slot ∈ arg.srvSlots := by simpa [Argument.srvSlots, hp, hw] using hslot
      rw [if_neg hw] at hbound ⊢
      have himage := hkind (hsourced.allows_srv hapart harg hsrv hbound)
      rw [hdecls, ← Argument.dimension_of_image himage]
      exact ⟨himage, declared h hapart harg .srv hsrv⟩
  | memory slot offset =>
    intro object hbound
    have huav : slot ∈ arg.uavSlots := by simp [Argument.uavSlots, hp]
    have hallows := hsourced.allows_uav hapart harg huav hbound
    have hkind := h.wellPlaced.kind arg harg
    simp only [Argument.Allows, hp] at hallows
    rw [hp] at hkind
    rw [hdecls, ← Argument.dimension_of_memory hkind.symm]
    exact ⟨hallows, declared h hapart harg .uav huav⟩
  | sampler slot => trivial
  | localMemory => trivial
  | scalar offset size => trivial

/-- Laid out metadata keep their views apart. And where they are apart, whatever calls and copies
make of a new kernel, an object in a slot of an argument is of the kind the argument takes, and of
the dimension in which the slot is declared. -/
theorem views_declared :
    (∀ (name : String) (items : List KernelItem), (Layout.ofItems items).InRange →
      (Metadata.ofItems name items).ViewsApart) ∧
    ∀ (program : Nat) (limits : Limits) (metadata : Metadata) (fresh : Nat) (start kernel : Kernel),
      make program limits metadata fresh = .ok start → metadata.ViewsApart →
        start.Reaches kernel → ∀ arg ∈ metadata.args, kernel.Declares arg := by
  refine ⟨fun name items hr => Metadata.viewsApart_ofItems name hr, ?_⟩
  intro program limits metadata fresh start kernel h hapart hr arg harg
  have hmade := make_ok h
  exact declares_of_sourced hmade hapart (sourced_of_reaches hmade hr) (declarations_of_reaches hr)
    harg

/-- A buffer, an image of two planes that is written and one that is read, and a constant. -/
def twoPlanes : Metadata :=
  .ofItems "twoPlanes" [.buffer "a" ⟨0⟩, .image "w" "image3d_t" (.ofList [.writable]) 2,
    .inlineConstant [1], .image "r" "image1d_buffer_t" (.ofList [.readable]) 1]

def volume : Object MemoryObject :=
  ⟨5, ⟨.image3D, .ofList [.readWrite], some ⟨.rgba, .float⟩, 64, none, nofun⟩⟩

/-- The image goes to the argument for volumes; the others refuse it. -/
def volumeCalls : List Call :=
  [.memory 0 (some volume), .memory 1 (some volume), .memory 2 (some volume)]

theorem twoPlanes_declared :
    ∃ start, make 0 {} twoPlanes 0 = .ok start ∧ twoPlanes.ViewsApart ∧
      (∀ arg ∈ twoPlanes.args, (start.assignAll volumeCalls).Declares arg) ∧
      (start.assignAll volumeCalls).bindings.uavs.take 3 = [none, some volume, some volume] ∧
      start.declarations.uavs = [.buffer, .texture3D, .texture3D, .unknown] := by
  have hmake : ∃ start, make 0 {} twoPlanes 0 = .ok start := ⟨_, rfl⟩
  obtain ⟨start, h⟩ := hmake
  have hapart : twoPlanes.ViewsApart :=
    views_declared.1 _ _ ⟨by decide, by decide, by decide, by decide⟩
  refine ⟨start, h, hapart,
    views_declared.2 _ _ _ _ _ _ h hapart (.run volumeCalls .start), ?_, ?_⟩
  · cases h
    rfl
  · cases h
    rfl

end Kernel

end KernelBinding
