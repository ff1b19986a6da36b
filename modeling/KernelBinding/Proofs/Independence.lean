import KernelBinding.Proofs.LastCall
import KernelBinding.Proofs.Separation

/-!
# KernelBinding.Proofs.Independence

Calls do not depend on each other. A call is accepted or refused whatever came before it, and when
no two arguments share a slot or a byte (`Metadata.Separated`), the last accepted call for each
argument says all about the outcome of a run: neither the order of the calls nor the others among
them matter.

* `test_of_index`    — a test that the calls for one argument pass, and no others, is a test of the
  index.
* `reference_congr`  — so the reference of `LastCall` asks for the last call for each index only.
* `runs_independent` — the law for runs on a new kernel, and that laid out metadata are separated.
-/

namespace KernelBinding

/-- A test that looks at the index only, and that calls for two arguments never both pass, asks for
one index or fails always. -/
theorem test_of_index {test : Call → Bool}
    (hdep : ∀ c d : Call, c.index = d.index → test c = test d)
    (hone : ∀ c d : Call, test c → test d → c.index = d.index) :
    test = (fun _ => false) ∨ ∃ index, test = (·.index == index) := by
  by_cases hex : ∃ call, test call
  · obtain ⟨call, hcall⟩ := hex
    right
    refine ⟨call.index, ?_⟩
    funext other
    by_cases hi : other.index = call.index
    · rw [hdep other call hi, hcall, hi, beq_self_eq_true]
    · have hnot : test other = false := by
        rw [Bool.eq_false_iff]
        intro hother
        exact hi (hone other call hother hcall)
      rw [hnot, beq_eq_false_iff_ne.2 hi]
  · left
    funext other
    rw [Bool.eq_false_iff]
    intro hother
    exact hex ⟨other, hother⟩

theorem findRev?_congr_of_index {calls calls' : List Call}
    (hlast : ∀ index, calls.findRev? (·.index == index) = calls'.findRev? (·.index == index))
    {test : Call → Bool} (hdep : ∀ c d : Call, c.index = d.index → test c = test d)
    (hone : ∀ c d : Call, test c → test d → c.index = d.index) :
    calls.findRev? test = calls'.findRev? test := by
  have hnone : ∀ list : List Call, list.findRev? (fun _ => false) = none := by simp
  rcases test_of_index hdep hone with rfl | ⟨index, rfl⟩
  · rw [hnone, hnone]
  · exact hlast index

/-! ## Separated arguments -/

namespace Argument

variable {a b : Argument} {i : Nat}

theorem not_any_of_disjoint {slots slots' : List UInt32} (h : ∀ slot ∈ slots, slot ∉ slots')
    (i : Nat) : ¬ (slots.any (·.toNat == i) ∧ slots'.any (·.toNat == i)) := by
  rintro ⟨hany, hany'⟩
  obtain ⟨slot, hslot, hi⟩ := any_toNat_iff.1 hany
  obtain ⟨slot', hslot', hi'⟩ := any_toNat_iff.1 hany'
  have heq : slot = slot' := UInt32.toNat_inj.1 (hi.trans hi'.symm)
  exact h slot hslot (heq ▸ hslot')

theorem Apart.not_takesUav (h : a.Apart b) : ¬ (a.takesUav i ∧ b.takesUav i) :=
  not_any_of_disjoint h.uavs i

theorem Apart.not_takesSrv (h : a.Apart b) : ¬ (a.takesSrv i ∧ b.takesSrv i) :=
  not_any_of_disjoint h.srvs i

theorem Apart.not_takesSampler (h : a.Apart b) : ¬ (a.takesSampler i ∧ b.takesSampler i) :=
  not_any_of_disjoint h.samplers i

end Argument

namespace Metadata

variable {metadata : Metadata} {calls calls' : List Call}

/-- Apart arguments never both pass the test, so only one place of the list has one that does. -/
theorem Separated.place_unique (hsep : metadata.Separated) {test : Argument → Bool}
    (htest : ∀ a b : Argument, a.Apart b → ¬ (test a ∧ test b)) {i j : Nat} {a b : Argument}
    (ha : metadata.args[i]? = some a) (hb : metadata.args[j]? = some b) (hatest : test a)
    (hbtest : test b) : i = j := by
  obtain ⟨hi, rfl⟩ := List.getElem?_eq_some_iff.1 ha
  obtain ⟨hj, rfl⟩ := List.getElem?_eq_some_iff.1 hb
  -- `Separated` speaks of two arguments in their order; the test is about either order.
  have hpair := List.pairwise_iff_getElem.1 hsep
  rcases Nat.lt_trichotomy i j with hlt | heq | hgt
  · exact absurd ⟨hatest, hbtest⟩ (htest _ _ (hpair _ _ hi hj hlt))
  · exact heq
  · exact absurd ⟨hbtest, hatest⟩ (htest _ _ (hpair _ _ hj hi hgt))

theorem index_of_concerns (hsep : metadata.Separated) {test : Argument → Bool}
    (htest : ∀ a b : Argument, a.Apart b → ¬ (test a ∧ test b)) {c d : Call}
    (hc : metadata.concerns test c) (hd : metadata.concerns test d) : c.index = d.index := by
  obtain ⟨a, ha, hatest⟩ := (Option.any_eq_true _ _).1 hc
  obtain ⟨b, hb, hbtest⟩ := (Option.any_eq_true _ _).1 hd
  exact UInt32.toNat_inj.1 (hsep.place_unique htest ha hb hatest hbtest)

theorem findRev?_concerns_congr (hsep : metadata.Separated)
    (hlast : ∀ index, calls.findRev? (·.index == index) = calls'.findRev? (·.index == index))
    {test : Argument → Bool} (htest : ∀ a b : Argument, a.Apart b → ¬ (test a ∧ test b)) :
    calls.findRev? (metadata.concerns test) = calls'.findRev? (metadata.concerns test) := by
  refine findRev?_congr_of_index hlast ?_ fun c d hc hd => index_of_concerns hsep htest hc hd
  intro c d hindex
  simp only [concerns, hindex]

theorem reference_congr (hsep : metadata.Separated)
    (hlast : ∀ index, calls.findRev? (·.index == index) = calls'.findRev? (·.index == index))
    (samplers : List (Object Sampler)) (constants : List (Object MemoryObject)) :
    metadata.reference samplers constants calls = metadata.reference samplers constants calls' := by
  have huav : ∀ i, calls.findRev? (metadata.concerns (·.takesUav i)) =
      calls'.findRev? (metadata.concerns (·.takesUav i)) := by
    intro i
    exact findRev?_concerns_congr hsep hlast fun a b h => h.not_takesUav
  have hsrv : ∀ i, calls.findRev? (metadata.concerns (·.takesSrv i)) =
      calls'.findRev? (metadata.concerns (·.takesSrv i)) := by
    intro i
    exact findRev?_concerns_congr hsep hlast fun a b h => h.not_takesSrv
  have hsampler : ∀ i, calls.findRev? (metadata.concerns (·.takesSampler i)) =
      calls'.findRev? (metadata.concerns (·.takesSampler i)) := by
    intro i
    exact findRev?_concerns_congr hsep hlast fun a b h => h.not_takesSampler
  have hbyte : ∀ i, calls.findRev? (metadata.concerns (·.takesByte i)) =
      calls'.findRev? (metadata.concerns (·.takesByte i)) := by
    intro i
    exact findRev?_concerns_congr hsep hlast fun a b h => h.bytes i
  have hconfig : ∀ i, calls.findRev? (·.index.toNat == i) =
      calls'.findRev? (·.index.toNat == i) := by
    intro i
    refine findRev?_congr_of_index hlast ?_ ?_
    · intro c d hindex
      simp only [hindex]
    · intro c d hc hd
      exact UInt32.toNat_inj.1 ((eq_of_beq hc).trans (eq_of_beq hd).symm)
  simp only [reference, huav, hsrv, hsampler, hbyte, hconfig]

end Metadata

namespace Kernel

variable {program : Nat} {limits : Limits} {metadata : Metadata} {fresh : Nat} {kernel : Kernel}

theorem fault?_assignAll (earlier : List Call) (call : Call) :
    (kernel.assignAll earlier).fault? call = kernel.fault? call := by
  rw [fault?_eq, fault?_eq, assignAll_eq]

theorem assignAll_congr (h : Made program limits metadata fresh kernel) (hsep : metadata.Separated)
    {calls calls' : List Call}
    (hlast : ∀ index, kernel.lastAccepted calls index = kernel.lastAccepted calls' index) :
    kernel.assignAll calls = kernel.assignAll calls' := by
  rw [assignAll_eq, assignAll_eq, h.metadata_eq, foldl_perform_eq_reference h h.accepts_of_mem,
    foldl_perform_eq_reference h h.accepts_of_mem, Metadata.reference_congr hsep hlast]

/-- Laid out metadata are separated. Kernels of the same metadata refuse the same calls for the same
reasons, whatever calls came before. And two runs on a new kernel with separated metadata end in the
same kernel if for each argument they have the same last accepted call, or both none. -/
theorem runs_independent :
    (∀ (name : String) (items : List KernelItem), (Layout.ofItems items).InRange →
      (Metadata.ofItems name items).Separated) ∧
    ∀ (program : Nat) (limits : Limits) (metadata : Metadata) (fresh : Nat) (kernel : Kernel),
      make program limits metadata fresh = .ok kernel →
        (∀ (program' : Nat) (limits' : Limits) (fresh' : Nat) (kernel' : Kernel),
          make program' limits' metadata fresh' = .ok kernel' →
            ∀ (earlier earlier' : List Call) (call : Call),
              (kernel.assignAll earlier).fault? call = (kernel'.assignAll earlier').fault? call) ∧
        (metadata.Separated → ∀ calls calls' : List Call,
          (∀ index, kernel.lastAccepted calls index = kernel.lastAccepted calls' index) →
            kernel.assignAll calls = kernel.assignAll calls') := by
  refine ⟨fun name items hr => Metadata.separated_ofItems name hr, ?_⟩
  intro program limits metadata fresh kernel h
  have hmade := make_ok h
  refine ⟨?_, ?_⟩
  · intro program' limits' fresh' kernel' h' earlier earlier' call
    have hmade' := make_ok h'
    rw [fault?_assignAll, fault?_assignAll, fault?_eq, fault?_eq, hmade.metadata_eq,
      hmade'.metadata_eq]
  · intro hsep calls calls' hlast
    exact assignAll_congr hmade hsep hlast

/-- A scalar and a local argument, side by side. -/
def sideBySide : Metadata :=
  .ofItems "sideBySide" [.scalar "n" "uint" 2, .localBuffer "l"]

/-- The scalar is set twice and the local argument in between, before a call for no argument. -/
def scalarLast : List Call :=
  [.bytes 0 [9, 9], .localMemory 1 64, .bytes 0 [1, 2], .bytes 7 []]

/-- The same arguments in the other order; local memory of no bytes is refused. -/
def localLast : List Call :=
  [.bytes 0 [1, 2], .localMemory 1 64, .localMemory 1 0]

theorem sideBySide_independent :
    ∃ kernel, make 0 {} sideBySide 0 = .ok kernel ∧ sideBySide.Separated ∧
      kernel.assignAll scalarLast = kernel.assignAll localLast ∧
      (kernel.assignAll localLast).localMemory = 64 := by
  have hmake : ∃ kernel, make 0 {} sideBySide 0 = .ok kernel := ⟨_, rfl⟩
  obtain ⟨kernel, h⟩ := hmake
  have hsep : sideBySide.Separated :=
    runs_independent.1 _ _ ⟨by decide, by decide, by decide, by decide⟩
  have hlast : ∀ index,
      kernel.lastAccepted scalarLast index = kernel.lastAccepted localLast index := by
    have hfirst : kernel.accepted scalarLast =
        [.bytes 0 [9, 9], .localMemory 1 64, .bytes 0 [1, 2]] := by cases h; rfl
    have hsecond : kernel.accepted localLast = [.bytes 0 [1, 2], .localMemory 1 64] := by
      cases h; rfl
    intro index
    rw [lastAccepted, lastAccepted, hfirst, hsecond]
    by_cases hone : 1 = index
    · subst hone
      rfl
    · by_cases hzero : 0 = index
      · subst hzero
        rfl
      · simp [List.findRev?, Call.bytes, Call.localMemory, hone, hzero]
  refine ⟨kernel, h, hsep, (runs_independent.2 _ _ _ _ kernel h).2 hsep _ _ hlast, ?_⟩
  cases h
  rfl

end Kernel

end KernelBinding
