import KernelBinding.Memory.Format

/-!
# KernelBinding.Proofs.FormatHeader

The header of a pixel format as a code. A kernel reads a header as two words, and the words say which
format it is: among all strings of eight bytes the headers are those with the rank of a channel order
in the first word and the rank of a channel type in the second.

* `littleEndian_word`  — four bytes are the form of just one word.
* `header_eq_iff`      — a format has a header exactly when the words are its two ranks.
* `header_decodes`     — the formats and the strings of two ranks belong to each other one to one.
-/

namespace KernelBinding

open Numbered

/-- The word of four bytes that starts at byte `start`. -/
def wordAt (bytes : List UInt8) (start : Nat) : UInt32 :=
  .ofNat (ofLittleEndian ((bytes.drop start).take 4))

theorem littleEndian_word {bytes : List UInt8} (hlength : bytes.length = 4) {word : UInt32} :
    littleEndian 4 word.toNat = bytes ↔ word = .ofNat (ofLittleEndian bytes) := by
  have hroom : word.toNat < 1 <<< (8 * bytes.length) := by
    rw [hlength]
    exact word.toNat_lt
  rw [← hlength, littleEndian_eq_iff hroom]
  constructor
  · intro h
    rw [← h, UInt32.ofNat_toNat]
  · rintro rfl
    -- `ofNat` cuts to 32 bits, and four bytes read back are already cut so.
    have hread := ofLittleEndian_littleEndian bytes.length (ofLittleEndian bytes)
    rw [littleEndian_ofLittleEndian, hlength] at hread
    rw [UInt32.toNat_ofNat']
    exact hread.symm

namespace PixelFormat

variable {bytes : List UInt8}

theorem header_eq_iff (hlength : bytes.length = headerSize) {format : PixelFormat} :
    format.header = bytes ↔
      ofRank? (wordAt bytes 0) = some format.order ∧ ofRank? (wordAt bytes 4) = some format.type := by
  have hfirst : (bytes.take 4).length = 4 := by simp [hlength, headerSize]
  have hsecond : (bytes.drop 4).length = 4 := by simp [hlength, headerSize]
  have hwords : wordAt bytes 0 = .ofNat (ofLittleEndian (bytes.take 4)) ∧
      wordAt bytes 4 = .ofNat (ofLittleEndian (bytes.drop 4)) := by
    refine ⟨rfl, ?_⟩
    rw [wordAt, List.take_of_length_le (Nat.le_of_eq hsecond)]
  rw [hwords.1, hwords.2, ofRank?_eq_some, ofRank?_eq_some, ← littleEndian_word hfirst,
    ← littleEndian_word hsecond, header]
  constructor
  · intro h
    rw [← List.take_append_drop 4 bytes] at h
    exact List.append_inj h (by simp [hfirst])
  · rintro ⟨horder, htype⟩
    rw [horder, htype, List.take_append_drop]

/-- A string of eight bytes is the header of a format exactly when its words are the ranks of a
channel order and of a channel type, and then it is the header of these two and of no other format.
No word behind the last member is a rank; that includes those whose number would leave 32 bits. -/
theorem header_decodes (bytes : List UInt8) (hlength : bytes.length = headerSize) :
    ((∃ format : PixelFormat, format.header = bytes) ↔
      (∃ order : ChannelOrder, ofRank? (wordAt bytes 0) = some order) ∧
        ∃ type : ChannelType, ofRank? (wordAt bytes 4) = some type) ∧
    (∀ (order : ChannelOrder) (type : ChannelType),
      ofRank? (wordAt bytes 0) = some order → ofRank? (wordAt bytes 4) = some type →
        ∀ format : PixelFormat, format.header = bytes ↔ format = ⟨order, type⟩) ∧
    (∀ word, (ofRank? word : Option ChannelOrder) = none ↔ 20 ≤ word.toNat) ∧
    (∀ word, (ofRank? word : Option ChannelType) = none ↔ 17 ≤ word.toNat) ∧
    (∀ word, UInt32.size ≤ (first ChannelOrder).toNat + word.toNat →
      (ofRank? word : Option ChannelOrder) = none) ∧
    ∀ word, UInt32.size ≤ (first ChannelType).toNat + word.toNat →
      (ofRank? word : Option ChannelType) = none := by
  refine ⟨?_, ?_, fun word => ofRank?_eq_none, fun word => ofRank?_eq_none, ?_, ?_⟩
  · constructor
    · rintro ⟨format, h⟩
      obtain ⟨horder, htype⟩ := (header_eq_iff hlength).1 h
      exact ⟨⟨_, horder⟩, _, htype⟩
    · rintro ⟨⟨order, horder⟩, type, htype⟩
      exact ⟨⟨order, type⟩, (header_eq_iff hlength).2 ⟨horder, htype⟩⟩
  · rintro order type horder htype ⟨order', type'⟩
    rw [header_eq_iff hlength, horder, htype]
    simp [eq_comm]
  · intro word hword
    exact if_neg (Nat.not_lt.2 hword)
  · intro word hword
    exact if_neg (Nat.not_lt.2 hword)

/-- The ranks of an order and of the last channel type. -/
def srgbHeader : List UInt8 :=
  [15, 0, 0, 0, 16, 0, 0, 0]

/-- The first word is one past the orders, and the second one next to the end of 32 bits. -/
def strayHeader : List UInt8 :=
  [20, 0, 0, 0, 0xFF, 0xFF, 0xFF, 0xFF]

theorem srgbHeader_decodes :
    srgbHeader.length = headerSize ∧
      (∀ format : PixelFormat, format.header = srgbHeader ↔ format = ⟨.srgb, .unormInt101010_2⟩) ∧
    strayHeader.length = headerSize ∧ ¬ ∃ format : PixelFormat, format.header = strayHeader := by
  have hsrgb : srgbHeader.length = headerSize := rfl
  have hstray : strayHeader.length = headerSize := rfl
  refine ⟨hsrgb, (header_decodes srgbHeader hsrgb).2.1 _ _ (by decide) (by decide), hstray, ?_⟩
  obtain ⟨hheader, -, horder, -⟩ := header_decodes strayHeader hstray
  rw [hheader, (horder _).2 (by decide)]
  simp

end PixelFormat

end KernelBinding
