import KernelBinding.Bytes
import KernelBinding.Numbering

/-!
# KernelBinding.Memory.Format

Pixel formats of images and the eight-byte header by which a compiled kernel learns the format of
the image it is given.

* `length_header` — a header has `headerSize` bytes, the room every image argument reserves.
-/

namespace KernelBinding

/-- Which channels a pixel has, and in which order. -/
inductive ChannelOrder where
  | r
  | a
  | rg
  | ra
  | rgb
  | rgba
  | bgra
  | argb
  | intensity
  | luminance
  | rx
  | rgx
  | rgbx
  | depth
  | depthStencil
  | srgb
  | srgbx
  | srgba
  | sbgra
  | abgr
  deriving DecidableEq

instance : Numbered ChannelOrder where
  members := [.r, .a, .rg, .ra, .rgb, .rgba, .bgra, .argb, .intensity, .luminance, .rx, .rgx, .rgbx,
    .depth, .depthStencil, .srgb, .srgbx, .srgba, .sbgra, .abgr]
  first := 0x10B0
  number
    | .r => 0x10B0
    | .a => 0x10B1
    | .rg => 0x10B2
    | .ra => 0x10B3
    | .rgb => 0x10B4
    | .rgba => 0x10B5
    | .bgra => 0x10B6
    | .argb => 0x10B7
    | .intensity => 0x10B8
    | .luminance => 0x10B9
    | .rx => 0x10BA
    | .rgx => 0x10BB
    | .rgbx => 0x10BC
    | .depth => 0x10BD
    | .depthStencil => 0x10BE
    | .srgb => 0x10BF
    | .srgbx => 0x10C0
    | .srgba => 0x10C1
    | .sbgra => 0x10C2
    | .abgr => 0x10C3
  mem_members x := by cases x <;> decide
  number_members := by decide
  first_add_length := by decide

/-- How one channel of a pixel is stored. -/
inductive ChannelType where
  | snormInt8
  | snormInt16
  | unormInt8
  | unormInt16
  | unormShort565
  | unormShort555
  | unormInt101010
  | signedInt8
  | signedInt16
  | signedInt32
  | unsignedInt8
  | unsignedInt16
  | unsignedInt32
  | halfFloat
  | float
  | unormInt24
  | unormInt101010_2
  deriving DecidableEq

instance : Numbered ChannelType where
  members := [.snormInt8, .snormInt16, .unormInt8, .unormInt16, .unormShort565, .unormShort555,
    .unormInt101010, .signedInt8, .signedInt16, .signedInt32, .unsignedInt8, .unsignedInt16,
    .unsignedInt32, .halfFloat, .float, .unormInt24, .unormInt101010_2]
  first := 0x10D0
  number
    | .snormInt8 => 0x10D0
    | .snormInt16 => 0x10D1
    | .unormInt8 => 0x10D2
    | .unormInt16 => 0x10D3
    | .unormShort565 => 0x10D4
    | .unormShort555 => 0x10D5
    | .unormInt101010 => 0x10D6
    | .signedInt8 => 0x10D7
    | .signedInt16 => 0x10D8
    | .signedInt32 => 0x10D9
    | .unsignedInt8 => 0x10DA
    | .unsignedInt16 => 0x10DB
    | .unsignedInt32 => 0x10DC
    | .halfFloat => 0x10DD
    | .float => 0x10DE
    | .unormInt24 => 0x10DF
    | .unormInt101010_2 => 0x10E0
  mem_members x := by cases x <;> decide
  number_members := by decide
  first_add_length := by decide

/-- The format of the pixels of an image. -/
structure PixelFormat where
  order : ChannelOrder
  type : ChannelType
  deriving DecidableEq

namespace PixelFormat

/-- Bytes of a format header. -/
def headerSize : Nat :=
  8

/-- The header a compiled kernel reads: the rank of the channel order, then that of the channel
type, each as a little-endian word of four bytes. -/
def header (format : PixelFormat) : List UInt8 :=
  littleEndian 4 (Numbered.rank format.order).toNat ++
    littleEndian 4 (Numbered.rank format.type).toNat

@[simp] theorem length_header (format : PixelFormat) : format.header.length = headerSize := by
  simp [header, headerSize]

end PixelFormat

end KernelBinding
