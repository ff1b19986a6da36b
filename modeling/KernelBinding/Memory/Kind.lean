import KernelBinding.Numbering

/-!
# KernelBinding.Memory.Kind

The kinds of memory object, the dimensions a device can view them in, and the type names by which
the kernel language speaks of images.

* `ofTypeName?_eq_some` — type names and image kinds name each other one to one.
* `typeName?_eq_none`   — the buffer is the only kind without a type name.
-/

namespace KernelBinding

/-- What a memory object is: a plain buffer, or an image of some shape. -/
inductive MemoryKind where
  | buffer
  | image2D
  | image3D
  | image2DArray
  | image1D
  | image1DArray
  | image1DBuffer
  deriving DecidableEq

instance : Numbered MemoryKind where
  members := [.buffer, .image2D, .image3D, .image2DArray, .image1D, .image1DArray, .image1DBuffer]
  first := 0x10F0
  number
    | .buffer => 0x10F0
    | .image2D => 0x10F1
    | .image3D => 0x10F2
    | .image2DArray => 0x10F3
    | .image1D => 0x10F4
    | .image1DArray => 0x10F5
    | .image1DBuffer => 0x10F6
  mem_members x := by cases x <;> decide
  number_members := by decide
  first_add_length := by decide

/-- The shape in which a shader declares the object behind a slot. -/
inductive ViewDimension where
  | unknown
  | buffer
  | texture1D
  | texture1DArray
  | texture2D
  | texture2DArray
  | texture3D
  deriving DecidableEq

/-- An image type of the kernel language: its name, the objects it takes and how they are viewed. -/
structure ImageType where
  name : String
  kind : MemoryKind
  dimension : ViewDimension

/-- All image types. An image over a buffer is viewed as the buffer it is made of. -/
def imageTypes : List ImageType :=
  [⟨"image1d_buffer_t", .image1DBuffer, .buffer⟩,
   ⟨"image1d_t", .image1D, .texture1D⟩,
   ⟨"image1d_array_t", .image1DArray, .texture1DArray⟩,
   ⟨"image2d_t", .image2D, .texture2D⟩,
   ⟨"image2d_array_t", .image2DArray, .texture2DArray⟩,
   ⟨"image3d_t", .image3D, .texture3D⟩]

/-- The type name that the kernel language gives to samplers. -/
def samplerTypeName : String :=
  "sampler_t"

namespace MemoryKind

/-- The image kind that a type name stands for. Names match exactly, so a name with a qualifier in
front is none. -/
def ofTypeName? (name : String) : Option MemoryKind :=
  (imageTypes.find? (·.name == name)).map (·.kind)

/-- The type name of an image kind. -/
def typeName? (kind : MemoryKind) : Option String :=
  (imageTypes.find? (·.kind == kind)).map (·.name)

/-- How an object of this kind is viewed when it is bound as an image. -/
def dimension (kind : MemoryKind) : ViewDimension :=
  ((imageTypes.find? (·.kind == kind)).map (·.dimension)).getD .unknown

theorem typeName?_eq_none {kind : MemoryKind} : kind.typeName? = none ↔ kind = .buffer := by
  cases kind <;> decide

theorem ofTypeName?_eq_some {name : String} {kind : MemoryKind} :
    ofTypeName? name = some kind ↔ kind.typeName? = some name := by
  constructor
  · intro h
    obtain ⟨t, ht, rfl⟩ := Option.map_eq_some_iff.1 h
    have hn : t.name = name := by simpa using List.find?_some ht
    have hall : ∀ t ∈ imageTypes, t.kind.typeName? = some t.name := by decide
    rw [← hn]
    exact hall t (List.mem_of_find?_eq_some ht)
  · intro h
    cases kind <;> simp [typeName?, imageTypes] at h <;> subst h <;> decide

/-- No image type takes plain buffers. -/
theorem ofTypeName?_ne_buffer (name : String) : ofTypeName? name ≠ some .buffer := by
  rw [Ne, ofTypeName?_eq_some, typeName?_eq_none.2 rfl]
  exact nofun

end MemoryKind

end KernelBinding
