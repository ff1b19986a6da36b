/-!
# KernelBinding.Numbering

Closed enumerations whose members carry consecutive public numbers, such as the channel orders
`0x10B0`, `0x10B1`, ….  Compiled kernels see the same members re-based to zero: the *rank* of a
member is its distance from the first one.

* `number_inj`     — different members have different numbers.
* `ofNumber?_eq_some` — a number decodes to exactly the member that carries it.
* `ofRank?_eq_some`   — a rank decodes to exactly the member that has it, also next to `2^32`.
* `exists_ofRank?_eq_some` — and the ranks that decode are those below the number of members.
-/

namespace KernelBinding

/-- A closed enumeration with consecutive numbers, the members listed in ascending order. -/
class Numbered (α : Type) where
  members : List α
  first : UInt32
  number : α → UInt32
  mem_members : ∀ x : α, x ∈ members
  number_members : members.map number = (List.range members.length).map (first + .ofNat ·)
  first_add_length : first.toNat + members.length < UInt32.size

namespace Numbered

variable {α : Type} [Numbered α]

/-- Distance of a member from the first one. -/
def rank (x : α) : UInt32 :=
  number x - first α

/-- The member carrying the number `n`. -/
def ofNumber? (n : UInt32) : Option α :=
  members.find? fun x => number x == n

/-- The member of rank `r`; a rank whose number would leave 32 bits has none. -/
def ofRank? (r : UInt32) : Option α :=
  if (first α).toNat + r.toNat < UInt32.size then ofNumber? (first α + r) else none

/-- The member at place `i` of the list is numbered `first + i`. -/
theorem number_getElem {i : Nat} (h : i < (members (α := α)).length) :
    number (members (α := α))[i] = first α + .ofNat i := by
  have h₁ := congrArg (·[i]?) (number_members (α := α))
  simpa [h] using h₁

theorem exists_number_eq (x : α) :
    ∃ i, ∃ h : i < (members (α := α)).length,
      members[i] = x ∧ (number x).toNat = (first α).toNat + i := by
  obtain ⟨i, h, hx⟩ := List.getElem_of_mem (mem_members x)
  refine ⟨i, h, hx, ?_⟩
  have hn := number_getElem h
  have hb := first_add_length (α := α)
  rw [hx] at hn
  rw [hn, UInt32.toNat_add, UInt32.toNat_ofNat']
  rw [UInt32.size] at hb
  omega

theorem number_inj {x y : α} (h : number x = number y) : x = y := by
  obtain ⟨i, hi, rfl, hx⟩ := exists_number_eq x
  obtain ⟨j, hj, rfl, hy⟩ := exists_number_eq y
  have : i = j := by rw [h] at hx; omega
  subst this
  rfl

theorem ofNumber?_eq_some {n : UInt32} {x : α} : ofNumber? n = some x ↔ number x = n := by
  constructor
  · intro h
    simpa using List.find?_some h
  · intro h
    cases hf : ofNumber? (α := α) n with
    | none =>
      have := List.find?_eq_none.1 hf x (mem_members x)
      simp [h] at this
    | some y =>
      have hy : number y = n := by simpa using List.find?_some hf
      rw [number_inj (hy.trans h.symm)]

theorem toNat_rank (x : α) : (rank x).toNat + (first α).toNat = (number x).toNat := by
  obtain ⟨i, _, _, hx⟩ := exists_number_eq x
  have h₁ : (first α) ≤ number x := by rw [UInt32.le_iff_toNat_le]; omega
  rw [rank, UInt32.toNat_sub_of_le _ _ h₁]
  omega

theorem ofRank?_eq_some {r : UInt32} {x : α} : ofRank? r = some x ↔ rank x = r := by
  have hr := toNat_rank x
  have hx := (number x).toNat_lt
  unfold ofRank?
  constructor
  · intro h
    split at h
    · rename_i hb
      have hn := congrArg UInt32.toNat (ofNumber?_eq_some.1 h)
      rw [UInt32.toNat_add] at hn
      rw [← UInt32.toNat_inj]
      rw [UInt32.size] at hb
      omega
    · cases h
  · rintro rfl
    have hb : (first α).toNat + (rank x).toNat < UInt32.size := by rw [UInt32.size]; omega
    rw [if_pos hb, ofNumber?_eq_some, ← UInt32.toNat_inj, UInt32.toNat_add]
    omega

theorem exists_ofRank?_eq_some {r : UInt32} :
    (∃ x : α, ofRank? r = some x) ↔ r.toNat < (members (α := α)).length := by
  constructor
  · rintro ⟨x, h⟩
    obtain ⟨i, hi, _, hx⟩ := exists_number_eq x
    have hr := toNat_rank x
    rw [ofRank?_eq_some.1 h] at hr
    omega
  · intro h
    refine ⟨members[r.toNat], ofRank?_eq_some.2 ?_⟩
    rw [rank, number_getElem h, UInt32.ofNat_toNat, UInt32.add_comm, UInt32.add_sub_cancel]

theorem ofRank?_eq_none {r : UInt32} :
    (ofRank? r : Option α) = none ↔ (members (α := α)).length ≤ r.toNat := by
  rw [← Nat.not_lt, ← exists_ofRank?_eq_some, Option.eq_none_iff_forall_ne_some, not_exists]

end Numbered

end KernelBinding
