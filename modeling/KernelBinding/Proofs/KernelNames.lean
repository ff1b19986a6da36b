import KernelBinding.Program.Resolution

/-!
# KernelBinding.Proofs.KernelNames

The names of all kernels of a program. Each name that an executable has is there once, and the names
ascend in the order of their bytes.

* `utf8EncodeChar_lt`    — the smaller of two characters has the smaller bytes.
* `precedes_of_lt`       — so what is smaller by its characters is smaller by its bytes.
* `mem_kernelNames`      — the names are the keys of the executables' kernel tables.
* `pairwise_kernelNames` — in ascending order.
-/

namespace KernelBinding

/-- One name is smaller than another, byte by byte. -/
def Precedes (a b : String) : Prop :=
  a.toUTF8.data.toList < b.toUTF8.data.toList

/-- Some executable has a kernel of this name, whether it was compiled or not. -/
def BuildTable.Exposes (builds : BuildTable) (name : String) : Prop :=
  ∃ device build, (device, some build) ∈ builds ∧ build.isExecutable ∧ name ∈ build.kernels.names

/-! ## The order of names -/

/-- The smaller of two code points has the smaller digit in the first place where their digits to
base 64 differ. -/
theorem digits_lt {v w : Nat} (h : v < w) (hw : w < 0x110000) :
    v / 262144 % 8 < w / 262144 % 8 ∨ v / 262144 % 8 = w / 262144 % 8 ∧
      (v / 4096 % 64 < w / 4096 % 64 ∨ v / 4096 % 64 = w / 4096 % 64 ∧
        (v / 64 % 64 < w / 64 % 64 ∨ v / 64 % 64 = w / 64 % 64 ∧ v % 64 < w % 64)) := by
  have hv₈ : v / 262144 % 8 = v / 262144 := Nat.mod_eq_of_lt (by omega)
  have hw₈ : w / 262144 % 8 = w / 262144 := Nat.mod_eq_of_lt (by omega)
  rw [hv₈, hw₈]
  omega

/-- The smaller of two characters has the smaller bytes, whatever follows. -/
theorem utf8EncodeChar_lt {c d : Char} (h : c < d) (s t : List UInt8) :
    String.utf8EncodeChar c ++ s < String.utf8EncodeChar d ++ t := by
  have hlt : c.val.toNat < d.val.toNat := h
  have hvalid : d.val.toNat < 0x110000 := by
    have := d.valid
    unfold UInt32.isValidChar Nat.isValidChar at this
    omega
  have hdigits := digits_lt hlt hvalid
  simp only [String.utf8EncodeChar]
  -- A longer encoding begins with a greater byte, and of two equally long ones the first digit in
  -- which the code points differ decides.
  repeat' split
  all_goals
    simp (disch := omega) only [List.cons_append, List.nil_append, List.cons_lt_cons_iff,
      UInt8.lt_iff_toNat_lt, ← UInt8.toNat_inj, UInt8.toNat_ofNat', Nat.mod_eq_of_lt]
    omega

theorem flatMap_utf8EncodeChar_lt {l m : List Char} (h : l < m) :
    l.flatMap String.utf8EncodeChar < m.flatMap String.utf8EncodeChar := by
  induction h with
  | @nil c rest =>
    rw [List.flatMap_cons]
    cases hbytes : String.utf8EncodeChar c with
    | nil => exact absurd hbytes String.utf8EncodeChar_ne_nil
    | cons b bs => exact List.nil_lt_cons b _
  | cons _ ih => exact List.append_left_lt ih
  | rel h => exact utf8EncodeChar_lt h _ _

theorem toUTF8_eq_flatMap (s : String) :
    s.toUTF8.data.toList = s.toList.flatMap String.utf8EncodeChar := by
  rw [String.toUTF8_eq_toByteArray, ← String.utf8Encode_toList, List.utf8Encode,
    List.data_toByteArray]

theorem precedes_of_lt {a b : String} (h : a < b) : Precedes a b := by
  have hchars : a.toList < b.toList := h
  rw [Precedes, toUTF8_eq_flatMap, toUTF8_eq_flatMap]
  exact flatMap_utf8EncodeChar_lt hchars

theorem Precedes.irrefl (a : String) : ¬ Precedes a a :=
  List.lt_irrefl _

theorem Precedes.asymm {a b : String} (h : Precedes a b) : ¬ Precedes b a :=
  List.lt_asymm h

/-! ## The names of a program -/

namespace BuildTable

variable {builds : BuildTable} {name : String}

theorem exposes_iff :
    builds.Exposes name ↔ ∃ build ∈ builds.executables, name ∈ build.kernels.names := by
  simp only [Exposes, executables, List.mem_filterMap, Option.filter_eq_some_iff, Prod.exists]
  constructor
  · rintro ⟨device, build, hmem, hexec, hname⟩
    exact ⟨build, ⟨device, some build, hmem, rfl, hexec⟩, hname⟩
  · rintro ⟨build, ⟨device, entry, hmem, rfl, hexec⟩, hname⟩
    exact ⟨device, build, hmem, hexec, hname⟩

theorem mem_kernelNames : name ∈ builds.kernelNames ↔ builds.Exposes name := by
  rw [exposes_iff, kernelNames]
  simp only [NameTable.mem_names_ofList, List.map_map, Function.comp_def, List.map_id',
    List.mem_flatMap]

theorem pairwise_kernelNames (builds : BuildTable) : builds.kernelNames.Pairwise Precedes := by
  refine List.pairwise_map.2 ((NameTable.ascending _).imp fun h => ?_)
  exact precedes_of_lt h

end BuildTable

end KernelBinding
