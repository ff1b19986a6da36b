/-!
# KernelBinding.Object

Objects with an identity. A reference to an object is the object itself together with its identity;
whether it may still be read depends on whether somebody owns it.

* `getElem?_allocate` — objects made together have consecutive identities.
* `exists_allocate_eq_ok`, `allocate_eq_error` — they are made if each of them can be made, and the
  first that cannot is why they are not.
-/

namespace KernelBinding

/-- A value that can be told apart from an equal one. Identities are given out in ascending order and
never twice. -/
structure Object (α : Type) where
  id : Nat
  value : α
  deriving DecidableEq

/-- Makes one object after another, the first with identity `fresh`; the first failure is the
result. -/
def allocate {α β ε : Type} (make : α → Except ε β) (fresh : Nat) :
    List α → Except ε (List (Object β))
  | [] => .ok []
  | a :: rest =>
    match make a with
    | .error e => .error e
    | .ok value =>
      match allocate make (fresh + 1) rest with
      | .error e => .error e
      | .ok objects => .ok (⟨fresh, value⟩ :: objects)

theorem length_allocate {α β ε : Type} {make : α → Except ε β} {as : List α} :
    ∀ {fresh : Nat} {objects : List (Object β)},
      allocate make fresh as = .ok objects → objects.length = as.length := by
  induction as with
  | nil => intro fresh objects h; cases h; rfl
  | cons a rest ih =>
    intro fresh objects h
    simp only [allocate] at h
    split at h
    · cases h
    · split at h
      · cases h
      · rename_i hr
        cases h
        simp [ih hr]

/-- The object made at place `i` is the one made from item `i`, and its identity is `fresh + i`. -/
theorem getElem?_allocate {α β ε : Type} {make : α → Except ε β} {as : List α} :
    ∀ {fresh : Nat} {objects : List (Object β)}, allocate make fresh as = .ok objects →
      ∀ {i : Nat} {o : Object β}, objects[i]? = some o →
        o.id = fresh + i ∧ ∃ a, as[i]? = some a ∧ make a = .ok o.value := by
  induction as with
  | nil => intro fresh objects h; cases h; simp
  | cons a rest ih =>
    intro fresh objects h i o ho
    simp only [allocate] at h
    split at h
    · cases h
    · rename_i value hv
      split at h
      · cases h
      · rename_i tail hr
        cases h
        cases i with
        | zero => simp at ho; subst ho; exact ⟨rfl, a, rfl, hv⟩
        | succ i =>
          obtain ⟨hid, ha⟩ := ih hr (by simpa using ho)
          exact ⟨by omega, by simpa using ha⟩

theorem exists_allocate_eq_ok {α β ε : Type} {make : α → Except ε β} {as : List α} :
    ∀ {fresh : Nat}, (∃ objects, allocate make fresh as = .ok objects) ↔
      ∀ a ∈ as, ∃ value, make a = .ok value := by
  induction as with
  | nil => intro fresh; simp [allocate]
  | cons a rest ih =>
    intro fresh
    have hrest : (∃ objects, allocate make (fresh + 1) rest = .ok objects) ↔
        ∀ b ∈ rest, ∃ value, make b = .ok value := ih
    rw [List.forall_mem_cons, ← hrest]
    simp only [allocate]
    cases make a with
    | error e => simp
    | ok value => cases allocate make (fresh + 1) rest <;> simp

theorem allocate_eq_error {α β ε : Type} {make : α → Except ε β} {as : List α} {e : ε} :
    ∀ {fresh : Nat}, allocate make fresh as = .error e ↔
      ∃ before a after, as = before ++ a :: after ∧ (∀ b ∈ before, ∃ value, make b = .ok value) ∧
        make a = .error e := by
  induction as with
  | nil => intro fresh; simp [allocate]
  | cons first rest ih =>
    intro fresh
    simp only [allocate]
    constructor
    · intro h
      cases hfirst : make first with
      | error e' =>
        rw [hfirst] at h
        cases h
        exact ⟨[], first, rest, rfl, nofun, hfirst⟩
      | ok value =>
        rw [hfirst] at h
        have hrest : allocate make (fresh + 1) rest = .error e := by
          revert h
          cases allocate make (fresh + 1) rest <;> simp
        obtain ⟨before, a, after, rfl, hbefore, ha⟩ := ih.1 hrest
        exact ⟨first :: before, a, after, rfl, List.forall_mem_cons.2 ⟨⟨value, hfirst⟩, hbefore⟩, ha⟩
    · rintro ⟨before, a, after, heq, hbefore, ha⟩
      cases before with
      | nil => cases heq; rw [ha]
      | cons b before =>
        cases heq
        obtain ⟨⟨value, hvalue⟩, hbefore⟩ := List.forall_mem_cons.1 hbefore
        rw [hvalue, ih.2 ⟨before, a, after, rfl, hbefore, ha⟩]

end KernelBinding
