import KernelBinding.Metadata.Layout

/-!
# KernelBinding.Proofs.Entries

What laying out one item of a source does. The item becomes an entry of the metadata
(`KernelItem.Becomes`), and the entry is put behind everything laid out before it: it gets the next
free slots of the tables, and its bytes start at the next free offset (`Layout.Extends`).

* `extends_add` — each item extends the layout by an entry that it becomes.
-/

namespace KernelBinding

/-- What one item of the source is in the metadata. -/
inductive Entry where
  | argument (arg : Argument)
  | literalSampler (literal : LiteralSampler)
  | inlineConstant (literal : InlineConstant)
  /-- A setting of the whole kernel, which takes no place. -/
  | setting

/-- The tables whose slots a layout numbers. -/
inductive BindingTable where
  | uav
  | srv
  | sampler

/-- Whether the argument has a place in the arguments buffer, if only an empty one. -/
def Argument.isStored (arg : Argument) : Bool :=
  match arg.placement with
  | .image .. | .memory .. | .scalar .. => true
  | .sampler _ | .localMemory => false

/-- An argument without a place in the buffer counts as one of no bytes at its beginning. -/
theorem Argument.extent_of_not_isStored {arg : Argument} (h : ¬ arg.isStored) :
    arg.placement.start = 0 ∧ arg.placement.extent = 0 := by
  unfold isStored at h
  cases hplacement : arg.placement with
  | sampler slot => exact ⟨rfl, rfl⟩
  | localMemory => exact ⟨rfl, rfl⟩
  | _ => simp [hplacement] at h

namespace Entry

def argument? : Entry → Option Argument
  | .argument arg => some arg
  | _ => none

def literalSampler? : Entry → Option LiteralSampler
  | .literalSampler literal => some literal
  | _ => none

def inlineConstant? : Entry → Option InlineConstant
  | .inlineConstant literal => some literal
  | _ => none

@[simp] theorem argument?_eq_some {entry : Entry} {arg : Argument} :
    entry.argument? = some arg ↔ entry = .argument arg := by
  cases entry <;> simp [argument?]

@[simp] theorem literalSampler?_eq_some {entry : Entry} {literal : LiteralSampler} :
    entry.literalSampler? = some literal ↔ entry = .literalSampler literal := by
  cases entry <;> simp [literalSampler?]

@[simp] theorem inlineConstant?_eq_some {entry : Entry} {literal : InlineConstant} :
    entry.inlineConstant? = some literal ↔ entry = .inlineConstant literal := by
  cases entry <;> simp [inlineConstant?]

/-- The slots that the entry takes in a table. -/
def slots : Entry → BindingTable → List UInt32
  | .argument arg, .uav => arg.uavSlots
  | .argument arg, .srv => arg.srvSlots
  | .argument arg, .sampler => arg.samplerSlots
  | .literalSampler literal, .sampler => [literal.slot]
  | .inlineConstant literal, .uav => [literal.slot]
  | _, _ => []

end Entry

/-- The entry is what the item declares, with as many slots as it has planes. Which slots these are,
and where its bytes start, is left to the layout. -/
inductive KernelItem.Becomes : KernelItem → Entry → Prop
  | buffer {name : String} {qualifiers : Qualifiers} {slot offset : UInt32} :
      Becomes (.buffer name qualifiers)
        (.argument ⟨⟨some name, "float*", .globalMemory, qualifiers⟩, .memory slot offset⟩)
  | constantBuffer {name : String} {slot offset : UInt32} :
      Becomes (.constantBuffer name)
        (.argument ⟨⟨some name, "float*", .constantMemory, .ofList [.const]⟩, .memory slot offset⟩)
  | image {name typeName : String} {qualifiers : Qualifiers} {planes offset : UInt32}
      {slots : List UInt32} : slots.length = planes.toNat →
      Becomes (.image name typeName qualifiers planes)
        (.argument ⟨⟨some name, typeName, .globalMemory, qualifiers⟩, .image slots offset⟩)
  | sampler {name : String} {slot : UInt32} :
      Becomes (.sampler name)
        (.argument ⟨⟨some name, "sampler_t", .privateMemory, .ofList []⟩, .sampler slot⟩)
  | scalar {name typeName : String} {size offset : UInt32} :
      Becomes (.scalar name typeName size)
        (.argument ⟨⟨some name, typeName, .privateMemory, .ofList []⟩, .scalar offset size⟩)
  | localBuffer {name : String} :
      Becomes (.localBuffer name)
        (.argument ⟨⟨some name, "float*", .localMemory, .ofList []⟩, .localMemory⟩)
  | literalSampler {normalized : Bool} {addressing filter slot : UInt32} :
      Becomes (.literalSampler normalized addressing filter)
        (.literalSampler ⟨slot, normalized, addressing, filter⟩)
  | inlineConstant {data : List UInt8} {slot : UInt32} :
      Becomes (.inlineConstant data) (.inlineConstant ⟨slot, data⟩)
  | staticLocalMemory {bytes : Nat} : Becomes (.staticLocalMemory bytes) .setting
  | requiredGroup {size : GroupSize} : Becomes (.requiredGroup size) .setting
  | suggestedGroup {size : GroupSize} : Becomes (.suggestedGroup size) .setting

namespace Layout

/-- The next free slot of a table. -/
def next (layout : Layout) : BindingTable → Nat
  | .uav => layout.uavs
  | .srv => layout.srvs
  | .sampler => layout.samplers

/-- The second layout is the first one with one more entry, behind everything before it. -/
structure Extends (layout layout' : Layout) (entry : Entry) : Prop where
  args_eq : layout'.args = layout.args ++ entry.argument?.toList
  literalSamplers_eq :
    layout'.literalSamplers = layout.literalSamplers ++ entry.literalSampler?.toList
  inlineConstants_eq :
    layout'.inlineConstants = layout.inlineConstants ++ entry.inlineConstant?.toList
  slots : ∀ table, entry.slots table = planeSlots (layout.next table) (entry.slots table).length
  next_eq : ∀ table, layout'.next table = layout.next table + (entry.slots table).length
  bytes : ∀ arg, entry.argument? = some arg → arg.isStored →
    arg.placement.start = (UInt32.ofNat layout.nextOffset).toNat ∧
      layout'.offset = layout.nextOffset + arg.placement.extent

variable {layout layout' : Layout}

@[simp] theorem length_planeSlots (first count : Nat) : (planeSlots first count).length = count := by
  simp [planeSlots]

theorem extends_argument {arg : Argument} (hargs : layout'.args = layout.args ++ [arg])
    (hsamplers : layout'.literalSamplers = layout.literalSamplers)
    (hconstants : layout'.inlineConstants = layout.inlineConstants)
    (hslots : ∀ table, (Entry.argument arg).slots table =
      planeSlots (layout.next table) ((Entry.argument arg).slots table).length)
    (hnext : ∀ table,
      layout'.next table = layout.next table + ((Entry.argument arg).slots table).length)
    (hbytes : arg.isStored → arg.placement.start = (UInt32.ofNat layout.nextOffset).toNat ∧
      layout'.offset = layout.nextOffset + arg.placement.extent) :
    layout.Extends layout' (.argument arg) := by
  refine ⟨hargs, ?_, ?_, hslots, hnext, ?_⟩
  · rw [hsamplers]
    exact (List.append_nil _).symm
  · rw [hconstants]
    exact (List.append_nil _).symm
  · rintro _ ⟨⟩
    exact hbytes

/-- A setting changes no list and takes no place. -/
theorem extends_setting (hargs : layout'.args = layout.args)
    (hsamplers : layout'.literalSamplers = layout.literalSamplers)
    (hconstants : layout'.inlineConstants = layout.inlineConstants)
    (hnext : layout'.next = layout.next) : layout.Extends layout' .setting := by
  refine ⟨?_, ?_, ?_, fun _ => rfl, congrFun hnext, nofun⟩
  · rw [hargs]
    exact (List.append_nil _).symm
  · rw [hsamplers]
    exact (List.append_nil _).symm
  · rw [hconstants]
    exact (List.append_nil _).symm

/-- The planes of an image are in the table of writable views or in the other one. -/
theorem extends_image (layout : Layout) (name typeName : String) (qualifiers : Qualifiers)
    (planes : UInt32) : ∃ entry, KernelItem.Becomes (.image name typeName qualifiers planes) entry ∧
      layout.Extends (layout.add (.image name typeName qualifiers planes)) entry := by
  -- `add` and the slots of the argument test the same qualifier, each on its own.
  by_cases hwritable : qualifiers.contains .writable
  · simp only [add, hwritable, if_true]
    refine ⟨_, .image (length_planeSlots _ _),
      extends_argument rfl rfl rfl ?_ ?_ fun _ => ⟨rfl, rfl⟩⟩ <;>
    · rintro (_ | _ | _) <;>
        simp [Entry.slots, Argument.uavSlots, Argument.srvSlots, Signature.isWritable, hwritable] <;>
        rfl
  · simp only [add, hwritable]
    refine ⟨_, .image (length_planeSlots _ _),
      extends_argument rfl rfl rfl ?_ ?_ fun _ => ⟨rfl, rfl⟩⟩ <;>
    · rintro (_ | _ | _) <;>
        simp [Entry.slots, Argument.uavSlots, Argument.srvSlots, Signature.isWritable, hwritable] <;>
        rfl

theorem extends_add (layout : Layout) (item : KernelItem) :
    ∃ entry, item.Becomes entry ∧ layout.Extends (layout.add item) entry := by
  cases item with
  | image name typeName qualifiers planes => exact extends_image ..
  | buffer name qualifiers =>
    refine ⟨_, .buffer, extends_argument rfl rfl rfl ?_ ?_ fun _ => ⟨rfl, rfl⟩⟩ <;>
      rintro (_ | _ | _) <;> rfl
  | constantBuffer name =>
    refine ⟨_, .constantBuffer, extends_argument rfl rfl rfl ?_ ?_ fun _ => ⟨rfl, rfl⟩⟩ <;>
      rintro (_ | _ | _) <;> rfl
  | sampler name =>
    refine ⟨_, .sampler, extends_argument rfl rfl rfl ?_ ?_ nofun⟩ <;>
      rintro (_ | _ | _) <;> rfl
  | scalar name typeName size =>
    refine ⟨_, .scalar, extends_argument rfl rfl rfl ?_ ?_ fun _ => ⟨rfl, rfl⟩⟩ <;>
      rintro (_ | _ | _) <;> rfl
  | localBuffer name =>
    refine ⟨_, .localBuffer, extends_argument rfl rfl rfl ?_ ?_ nofun⟩ <;>
      rintro (_ | _ | _) <;> rfl
  | literalSampler normalized addressing filter =>
    refine ⟨_, .literalSampler, (List.append_nil _).symm, rfl, (List.append_nil _).symm,
      ?_, ?_, nofun⟩ <;> rintro (_ | _ | _) <;> rfl
  | inlineConstant data =>
    refine ⟨_, .inlineConstant, (List.append_nil _).symm, (List.append_nil _).symm, rfl,
      ?_, ?_, nofun⟩ <;> rintro (_ | _ | _) <;> rfl
  | staticLocalMemory bytes => exact ⟨_, .staticLocalMemory, extends_setting rfl rfl rfl rfl⟩
  | requiredGroup size => exact ⟨_, .requiredGroup, extends_setting rfl rfl rfl rfl⟩
  | suggestedGroup size => exact ⟨_, .suggestedGroup, extends_setting rfl rfl rfl rfl⟩

end Layout

end KernelBinding
