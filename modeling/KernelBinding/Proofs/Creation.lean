import Mathlib.Data.Finset.Card
import KernelBinding.Memory.Object

/-!
# KernelBinding.Proofs.Creation

Which memory objects can be created, and what they are then. The flags are looked at first, then the
size, and then the host data if the flags ask for them; the first rule that is broken gives the
fault.

* `atMostOne_iff` — counting the flags of a group finds out whether two of them are set.
* `normalize_of_usable`, `normalize_of_conflict` — flags that can be used together get read-write
  access if they name no other, and keep the rest of their bits.
* `normalize_idem` — flags that were completed so stay as they are.
* `create_of_creatable`, `create_of_refused` — the rules decide whether there is an object.
* `creation_by_rules` — the law, for buffers and for images.
-/

namespace KernelBinding

/-! ## Flags -/

namespace MemoryFlags

/-- No two flags of the group are set. -/
def AtMostOne (flags : MemoryFlags) (group : List MemoryFlag) : Prop :=
  ∀ a ∈ group, ∀ b ∈ group, flags.contains a → flags.contains b → a = b

instance (flags : MemoryFlags) (group : List MemoryFlag) : Decidable (flags.AtMostOne group) :=
  inferInstanceAs
    (Decidable (∀ a ∈ group, ∀ b ∈ group, flags.contains a → flags.contains b → a = b))

/-- The flags can be used together. -/
structure Usable (flags : MemoryFlags) : Prop where
  deviceAccess : flags.AtMostOne MemoryFlag.deviceAccess
  hostAccess : flags.AtMostOne MemoryFlag.hostAccess
  hostPointer : flags.contains .useHostPointer →
    ¬ flags.contains .allocHostPointer ∧ ¬ flags.contains .copyHostPointer

/-- The first of these rules that the flags break. -/
inductive Conflict (flags : MemoryFlags) : FlagFault → Prop
  | deviceAccess : ¬ flags.AtMostOne MemoryFlag.deviceAccess → Conflict flags .deviceAccess
  | hostAccess : flags.AtMostOne MemoryFlag.deviceAccess →
      ¬ flags.AtMostOne MemoryFlag.hostAccess → Conflict flags .hostAccess
  | hostPointer : flags.AtMostOne MemoryFlag.deviceAccess →
      flags.AtMostOne MemoryFlag.hostAccess → flags.contains .useHostPointer →
        flags.contains .allocHostPointer ∨ flags.contains .copyHostPointer →
          Conflict flags .hostPointer

/-- The host data are read under these flags. -/
def ReadsHost (flags : MemoryFlags) : Prop :=
  flags.contains .copyHostPointer ∨ flags.contains .useHostPointer

/-- `normal` has the one device access that `flags` name, or else read-write access; the other bits
are those of `flags`, with and without a meaning. -/
structure CompletedBy (flags normal : MemoryFlags) : Prop where
  access : ∀ flag ∈ MemoryFlag.deviceAccess, normal.contains flag ↔
    flags.contains flag ∨
      flag = .readWrite ∧ ∀ named ∈ MemoryFlag.deviceAccess, ¬ flags.contains named
  one : ∃ flag ∈ MemoryFlag.deviceAccess, normal.contains flag ∧
    ∀ other ∈ MemoryFlag.deviceAccess, normal.contains other → other = flag
  rest : ∀ i, (∀ flag ∈ MemoryFlag.deviceAccess, flag.bit ≠ i) →
    normal.bits.getLsbD i = flags.bits.getLsbD i

variable {flags normal : MemoryFlags} {fault : FlagFault}

theorem atMostOne_iff {group : List MemoryFlag} (h : group.Nodup) :
    flags.AtMostOne group ↔ ¬ 1 < group.countP flags.contains := by
  rw [Nat.not_lt, List.countP_eq_length_filter, ← List.toFinset_card_of_nodup (h.filter _),
    Finset.card_le_one]
  simp only [AtMostOne, List.mem_toFinset, List.mem_filter, and_imp]
  exact ⟨fun hone a ha hseta b hb hsetb => hone a ha b hb hseta hsetb,
    fun hone a ha b hb hseta hsetb => hone a ha hseta b hb hsetb⟩

theorem atMostOne_deviceAccess : flags.AtMostOne MemoryFlag.deviceAccess ↔
    ¬ 1 < MemoryFlag.deviceAccess.countP flags.contains :=
  atMostOne_iff (by decide)

theorem atMostOne_hostAccess : flags.AtMostOne MemoryFlag.hostAccess ↔
    ¬ 1 < MemoryFlag.hostAccess.countP flags.contains :=
  atMostOne_iff (by decide)

theorem usable_or_conflict (flags : MemoryFlags) :
    flags.Usable ∨ ∃ fault, flags.Conflict fault := by
  by_cases hdevice : flags.AtMostOne MemoryFlag.deviceAccess
  · by_cases hhost : flags.AtMostOne MemoryFlag.hostAccess
    · by_cases hpointer : flags.contains .useHostPointer ∧
        (flags.contains .allocHostPointer ∨ flags.contains .copyHostPointer)
      · exact .inr ⟨_, .hostPointer hdevice hhost hpointer.1 hpointer.2⟩
      · refine .inl ⟨hdevice, hhost, fun huse => ⟨fun halloc => ?_, fun hcopy => ?_⟩⟩
        · exact hpointer ⟨huse, .inl halloc⟩
        · exact hpointer ⟨huse, .inr hcopy⟩
    · exact .inr ⟨_, .hostAccess hdevice hhost⟩
  · exact .inr ⟨_, .deviceAccess hdevice⟩

theorem normalize_of_conflict (h : flags.Conflict fault) : flags.normalize = .error fault := by
  unfold normalize
  cases h with
  | deviceAccess hdevice =>
    rw [atMostOne_deviceAccess, Classical.not_not] at hdevice
    rw [if_pos hdevice]
  | hostAccess hdevice hhost =>
    rw [atMostOne_hostAccess, Classical.not_not] at hhost
    rw [if_neg (atMostOne_deviceAccess.1 hdevice), if_pos hhost]
  | hostPointer hdevice hhost huse hother =>
    rw [if_neg (atMostOne_deviceAccess.1 hdevice), if_neg (atMostOne_hostAccess.1 hhost), if_pos]
    simpa [huse] using hother

/-- Usable flags are left alone if they name a device access. -/
theorem normalize_eq (h : flags.Usable) : flags.normalize =
    if MemoryFlag.deviceAccess.any flags.contains then .ok flags
    else .ok (flags.insert .readWrite) := by
  have hpointer : ¬ (flags.contains .useHostPointer &&
      (flags.contains .allocHostPointer || flags.contains .copyHostPointer)) = true := by
    simp only [Bool.and_eq_true, Bool.or_eq_true]
    rintro ⟨huse, halloc | hcopy⟩
    · exact (h.hostPointer huse).1 halloc
    · exact (h.hostPointer huse).2 hcopy
  unfold normalize
  rw [if_neg (atMostOne_deviceAccess.1 h.deviceAccess),
    if_neg (atMostOne_hostAccess.1 h.hostAccess), if_neg hpointer]

theorem completedBy_self (h : flags.Usable)
    (hnamed : ∃ flag ∈ MemoryFlag.deviceAccess, flags.contains flag) : flags.CompletedBy flags := by
  obtain ⟨named, hmem, hcontains⟩ := hnamed
  refine ⟨fun flag _ => ⟨.inl, ?_⟩, ⟨named, hmem, hcontains, fun other hother hset => ?_⟩,
    fun _ _ => rfl⟩
  · rintro (hset | ⟨-, hnone⟩)
    · exact hset
    · exact absurd hcontains (hnone named hmem)
  · exact h.deviceAccess other hother named hmem hset hcontains

theorem completedBy_insert (hnone : ∀ named ∈ MemoryFlag.deviceAccess, ¬ flags.contains named) :
    flags.CompletedBy (flags.insert .readWrite) := by
  refine ⟨fun flag _ => ?_, ⟨.readWrite, by decide, ?_, fun other hother hset => ?_⟩,
    fun i hi => ?_⟩
  · rw [contains_insert, Bool.or_eq_true, decide_eq_true_iff]
    exact or_congr_right ⟨fun heq => ⟨heq, hnone⟩, And.left⟩
  · rw [contains_insert, decide_eq_true rfl, Bool.or_true]
  · rw [contains_insert, Bool.or_eq_true, decide_eq_true_iff] at hset
    exact hset.resolve_left (hnone other hother)
  · have hzero : i ≠ 0 := Ne.symm (hi .readWrite (by decide))
    simp [insert, MemoryFlag.bit, BitVec.getLsbD_or, BitVec.getLsbD_twoPow, Ne.symm hzero]

theorem normalize_of_usable (h : flags.Usable) :
    ∃ normal, flags.normalize = .ok normal ∧ flags.CompletedBy normal := by
  rw [normalize_eq h]
  by_cases hnamed : ∃ flag ∈ MemoryFlag.deviceAccess, flags.contains flag
  · rw [if_pos (List.any_eq_true.2 hnamed)]
    exact ⟨flags, rfl, completedBy_self h hnamed⟩
  · rw [if_neg (mt List.any_eq_true.1 hnamed)]
    exact ⟨_, rfl, completedBy_insert fun named hmem hset => hnamed ⟨named, hmem, hset⟩⟩

theorem normalize_ok (h : flags.normalize = .ok normal) :
    flags.Usable ∧ flags.CompletedBy normal := by
  rcases flags.usable_or_conflict with husable | ⟨fault, hconflict⟩
  · obtain ⟨other, hok, hcompleted⟩ := normalize_of_usable husable
    rw [hok] at h
    cases h
    exact ⟨husable, hcompleted⟩
  · rw [normalize_of_conflict hconflict] at h
    cases h

theorem CompletedBy.contains_eq (h : flags.CompletedBy normal) {flag : MemoryFlag}
    (hflag : flag ∉ MemoryFlag.deviceAccess) : normal.contains flag = flags.contains flag :=
  h.rest flag.bit fun _ hother heq => hflag (MemoryFlag.bit_inj.1 heq ▸ hother)

theorem CompletedBy.readsHost_iff (h : flags.CompletedBy normal) :
    normal.ReadsHost ↔ flags.ReadsHost := by
  rw [ReadsHost, ReadsHost, h.contains_eq (by decide), h.contains_eq (by decide)]

theorem CompletedBy.usable (hcompleted : flags.CompletedBy normal) (h : flags.Usable) :
    normal.Usable := by
  obtain ⟨one, -, -, hone⟩ := hcompleted.one
  refine ⟨fun a ha b hb hseta hsetb => ?_, fun a ha b hb hseta hsetb => ?_, ?_⟩
  · rw [hone a ha hseta, hone b hb hsetb]
  · have hrest : ∀ flag ∈ MemoryFlag.hostAccess, flag ∉ MemoryFlag.deviceAccess := by decide
    rw [hcompleted.contains_eq (hrest a ha)] at hseta
    rw [hcompleted.contains_eq (hrest b hb)] at hsetb
    exact h.hostAccess a ha b hb hseta hsetb
  · rw [hcompleted.contains_eq (by decide), hcompleted.contains_eq (by decide),
      hcompleted.contains_eq (by decide)]
    exact h.hostPointer

theorem normalize_idem (h : flags.normalize = .ok normal) : normal.normalize = .ok normal := by
  obtain ⟨husable, hcompleted⟩ := normalize_ok h
  obtain ⟨one, hmem, hset, -⟩ := hcompleted.one
  rw [normalize_eq (hcompleted.usable husable), if_pos (List.any_eq_true.2 ⟨one, hmem, hset⟩)]

end MemoryFlags

/-! ## Objects -/

namespace MemoryObject

/-- All that is asked of a request for an object. -/
structure Creatable (limits : Limits) (flags : MemoryFlags) (size : Nat)
    (hostData : Option (List UInt8)) : Prop where
  usable : flags.Usable
  size_pos : 0 < size
  size_le : size ≤ limits.maxAllocation
  data : flags.ReadsHost → ∃ bytes, hostData = some bytes ∧ size ≤ bytes.length

/-- The first of these rules that a request breaks, as a fault. -/
inductive Refused (limits : Limits) (flags : MemoryFlags) (size : Nat)
    (hostData : Option (List UInt8)) : AllocationFault → Prop
  | flags {fault : FlagFault} : flags.Conflict fault →
      Refused limits flags size hostData (.invalidFlags fault.reason)
  | zero : flags.Usable → size = 0 → Refused limits flags size hostData (.invalidSize size)
  | tooLarge : flags.Usable → 0 < size → limits.maxAllocation < size →
      Refused limits flags size hostData (.tooLarge size limits.maxAllocation)
  | missing : flags.Usable → 0 < size → size ≤ limits.maxAllocation → flags.ReadsHost →
      hostData = none → Refused limits flags size hostData .missingHostData
  | tooShort {bytes : List UInt8} : flags.Usable → 0 < size → size ≤ limits.maxAllocation →
      flags.ReadsHost → hostData = some bytes → bytes.length < size →
        Refused limits flags size hostData (.hostDataTooShort size bytes.length)

/-- The object is what the request asked for. -/
structure AsAsked (kind : MemoryKind) (flags : MemoryFlags) (format : Option PixelFormat)
    (size : Nat) (hostData : Option (List UInt8)) (object : MemoryObject) : Prop where
  kind_eq : object.kind = kind
  format_eq : object.format = format
  size_eq : object.size = size
  completed : flags.CompletedBy object.flags
  /-- Its flags can be used for another object, and are what that one gets. -/
  normal : object.flags.normalize = .ok object.flags
  length_eq : object.contents.length = size
  copied : flags.ReadsHost → ∃ bytes, hostData = some bytes ∧ object.contents = bytes.take size
  zeros : ¬ flags.ReadsHost → object.contents = List.replicate size 0

/-- What comes of a request for an object. -/
structure Creation (limits : Limits) (kind : MemoryKind) (flags : MemoryFlags)
    (format : Option PixelFormat) (size : Nat) (hostData : Option (List UInt8))
    (result : Except AllocationFault MemoryObject) : Prop where
  succeeds_iff : (∃ object, result = .ok object) ↔ Creatable limits flags size hostData
  fault_iff : ∀ fault, result = .error fault ↔ Refused limits flags size hostData fault
  created : ∀ object, result = .ok object → AsAsked kind flags format size hostData object

variable {limits : Limits} {kind : MemoryKind} {flags : MemoryFlags} {format : Option PixelFormat}
  {size : Nat} {hostData : Option (List UInt8)} {fault : AllocationFault} {object : MemoryObject}

theorem creatable_or_refused (limits : Limits) (flags : MemoryFlags) (size : Nat)
    (hostData : Option (List UInt8)) : Creatable limits flags size hostData ∨
      ∃ fault, Refused limits flags size hostData fault := by
  rcases flags.usable_or_conflict with husable | ⟨fault, hconflict⟩
  · by_cases hzero : size = 0
    · exact .inr ⟨_, .zero husable hzero⟩
    · have hpos : 0 < size := Nat.pos_of_ne_zero hzero
      by_cases hlarge : limits.maxAllocation < size
      · exact .inr ⟨_, .tooLarge husable hpos hlarge⟩
      · have hle : size ≤ limits.maxAllocation := Nat.le_of_not_lt hlarge
        by_cases hreads : flags.ReadsHost
        · cases hostData with
          | none => exact .inr ⟨_, .missing husable hpos hle hreads rfl⟩
          | some bytes =>
            by_cases hlength : size ≤ bytes.length
            · exact .inl ⟨husable, hpos, hle, fun _ => ⟨bytes, rfl, hlength⟩⟩
            · exact .inr ⟨_, .tooShort husable hpos hle hreads rfl (Nat.lt_of_not_le hlength)⟩
        · exact .inl ⟨husable, hpos, hle, fun h => absurd h hreads⟩
  · exact .inr ⟨_, .flags hconflict⟩

/-- The flags of the object ask for the host data exactly when the given ones do. -/
theorem hostFlags_iff {normal : MemoryFlags} (h : flags.CompletedBy normal) :
    (normal.contains .copyHostPointer || normal.contains .useHostPointer) = true ↔
      flags.ReadsHost := by
  rw [← h.readsHost_iff, Bool.or_eq_true]
  rfl

theorem create_of_creatable (h : Creatable limits flags size hostData) (kind : MemoryKind)
    (format : Option PixelFormat) :
    ∃ object, create limits kind flags format size hostData = .ok object := by
  obtain ⟨normal, hnormal, hcompleted⟩ := MemoryFlags.normalize_of_usable h.usable
  simp only [create, hnormal]
  rw [if_neg (Nat.ne_of_gt h.size_pos), if_neg (Nat.not_lt.2 h.size_le)]
  by_cases hreads : flags.ReadsHost
  · obtain ⟨bytes, rfl, hlength⟩ := h.data hreads
    rw [if_pos ((hostFlags_iff hcompleted).2 hreads)]
    exact ⟨_, dif_pos hlength⟩
  · rw [if_neg (mt (hostFlags_iff hcompleted).1 hreads)]
    exact ⟨_, rfl⟩

theorem create_of_refused (h : Refused limits flags size hostData fault) (kind : MemoryKind)
    (format : Option PixelFormat) :
    create limits kind flags format size hostData = .error fault := by
  cases h with
  | flags hconflict => simp only [create, MemoryFlags.normalize_of_conflict hconflict]
  | zero husable hzero =>
    obtain ⟨normal, hnormal, -⟩ := MemoryFlags.normalize_of_usable husable
    simp only [create, hnormal]
    rw [if_pos hzero]
  | tooLarge husable hpos hlarge =>
    obtain ⟨normal, hnormal, -⟩ := MemoryFlags.normalize_of_usable husable
    simp only [create, hnormal]
    rw [if_neg (Nat.ne_of_gt hpos), if_pos hlarge]
  | missing husable hpos hle hreads hnone =>
    obtain ⟨normal, hnormal, hcompleted⟩ := MemoryFlags.normalize_of_usable husable
    simp only [create, hnormal, hnone]
    rw [if_neg (Nat.ne_of_gt hpos), if_neg (Nat.not_lt.2 hle),
      if_pos ((hostFlags_iff hcompleted).2 hreads)]
  | tooShort husable hpos hle hreads hsome hshort =>
    obtain ⟨normal, hnormal, hcompleted⟩ := MemoryFlags.normalize_of_usable husable
    simp only [create, hnormal, hsome]
    rw [if_neg (Nat.ne_of_gt hpos), if_neg (Nat.not_lt.2 hle),
      if_pos ((hostFlags_iff hcompleted).2 hreads), dif_neg (Nat.not_le.2 hshort)]

theorem asAsked_of_create (h : create limits kind flags format size hostData = .ok object) :
    AsAsked kind flags format size hostData object := by
  have hcreated := create_ok h
  obtain ⟨-, hcompleted⟩ := MemoryFlags.normalize_ok hcreated.flags_eq
  have hcontents := hcreated.contents_eq
  refine ⟨hcreated.kind_eq, hcreated.format_eq, hcreated.size_eq, hcompleted,
    MemoryFlags.normalize_idem hcreated.flags_eq, ?_, fun hreads => ?_, fun hreads => ?_⟩
  · rw [length_contents, hcreated.size_eq]
  · rw [if_pos ((hostFlags_iff hcompleted).2 hreads)] at hcontents
    obtain ⟨bytes, hbytes, -, htake⟩ := hcontents
    exact ⟨bytes, hbytes, htake⟩
  · rw [if_neg (mt (hostFlags_iff hcompleted).1 hreads)] at hcontents
    exact hcontents

theorem creation_create (limits : Limits) (kind : MemoryKind) (flags : MemoryFlags)
    (format : Option PixelFormat) (size : Nat) (hostData : Option (List UInt8)) :
    Creation limits kind flags format size hostData
      (create limits kind flags format size hostData) := by
  refine ⟨⟨fun ⟨object, hok⟩ => ?_, fun h => create_of_creatable h kind format⟩,
    fun fault => ⟨fun herr => ?_, fun h => create_of_refused h kind format⟩,
    fun object hok => asAsked_of_create hok⟩
  -- One of the two is the case, and the other would have had another result.
  · rcases creatable_or_refused limits flags size hostData with h | ⟨fault, hrefused⟩
    · exact h
    · rw [create_of_refused hrefused kind format] at hok
      cases hok
  · rcases creatable_or_refused limits flags size hostData with h | ⟨other, hrefused⟩
    · obtain ⟨object, hok⟩ := create_of_creatable h kind format
      rw [hok] at herr
      cases herr
    · rw [create_of_refused hrefused kind format] at herr
      cases herr
      exact hrefused

/-- A buffer is created exactly when the flags can be used together, the size is neither zero nor
beyond the limit, and the host data are there if the flags ask for them; the fault is that of the
first rule that is broken. It is the same for an image, which has no host data, except that no image
has the kind of a buffer. -/
theorem creation_by_rules (limits : Limits) :
    (∀ flags size hostData, Creation limits .buffer flags none size hostData
      (createBuffer limits flags size hostData)) ∧
    (∀ flags format size, createImage limits flags .buffer format size =
      .error (.invalidFlags "image type must not be BUFFER")) ∧
    ∀ flags kind format size, kind ≠ .buffer → Creation limits kind flags (some format) size none
      (createImage limits flags kind format size) := by
  refine ⟨fun flags size hostData => creation_create .., fun flags format size => rfl,
    fun flags kind format size hkind => ?_⟩
  rw [createImage, if_neg hkind]
  exact creation_create ..

/-- Copies host data, with a bit set that has no meaning. -/
def copying : MemoryFlags :=
  ⟨0x100000020⟩

/-- A buffer gets the bit without a meaning and read-write access, and an image has nothing to copy
from. -/
theorem copying_by_rules :
    (∃ object, createBuffer {} copying 2 (some [7, 8, 9]) = .ok object ∧
      AsAsked .buffer copying none 2 (some [7, 8, 9]) object ∧
      object.flags.bits = 0x100000021 ∧ object.contents = [7, 8]) ∧
    MemoryKind.image2D ≠ .buffer ∧
      createImage {} copying .image2D ⟨.rgba, .float⟩ 2 = .error .missingHostData := by
  obtain ⟨hbuffer, -, himage⟩ := creation_by_rules {}
  have husable : copying.Usable := ⟨by decide, by decide, by decide⟩
  have hreads : copying.ReadsHost := .inl (by decide)
  have hkind : MemoryKind.image2D ≠ .buffer := by decide
  obtain ⟨object, hok⟩ := (hbuffer copying 2 (some [7, 8, 9])).succeeds_iff.2
    ⟨husable, by decide, by decide, fun _ => ⟨_, rfl, by decide⟩⟩
  have hasked := (hbuffer copying 2 (some [7, 8, 9])).created object hok
  refine ⟨⟨object, hok, hasked, ?_, ?_⟩, hkind, ?_⟩
  · cases hok
    rfl
  · obtain ⟨bytes, hbytes, htake⟩ := hasked.copied hreads
    cases hbytes
    exact htake
  · exact ((himage copying .image2D ⟨.rgba, .float⟩ 2 hkind).fault_iff _).2
      (.missing husable (by decide) (by decide) hreads rfl)

end MemoryObject

end KernelBinding
