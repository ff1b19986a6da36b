import KernelBinding.Proofs.Identity

/-!
# KernelBinding.Proofs.Lifetime

How long the literals of a kernel live. The slots that record them do not keep them alive; the lists
of the kernel and of its copies do. These lists are the founder's, however many copies were made of
copies and in whatever order members of the family go. So a literal lives as long as its family, and
longer only if a caller took a reference to it.

* `reckoned_next`    — what is known of founders and their literals, one event later.
* `owns_literal_iff` — a literal is alive if and only if its family has a member, or a caller has a
  reference.
* `literals_live_with_family` — what holds of literals after any events.
-/

namespace KernelBinding

namespace History

/-- The kernel belongs to the family of this number. -/
def Member (history : History) (family : Nat) (kernel : Kernel) : Prop :=
  ∃ handle lineage, history.session.kernels.find? handle = some kernel ∧
    history.lineages.find? handle = some lineage ∧ lineage.family = family

/-- A history of these events in which the resources `made` were made. -/
structure Reckoned (events : List Event) (made : List (Object Resource)) (history : History) :
    Prop where
  tells : history.Tells
  accounted : history.session.Accounted made
  founders : (history.founders.flatMap (·.literals)).Sublist made
  /-- Nobody has a reference to a literal who did not take it. -/
  kept : ∀ founder ∈ history.founders, ∀ literal ∈ founder.literals,
    literal ∈ history.session.handled → ∃ handle, .keep handle literal ∈ events

variable {history : History} {events : List Event} {made : List (Object Resource)}

theorem Reckoned.mem_made (h : Reckoned events made history) {founder : Kernel}
    {literal : Object Resource} (hfounder : founder ∈ history.founders)
    (hliteral : literal ∈ founder.literals) : literal ∈ made :=
  h.founders.subset (List.mem_flatMap.2 ⟨founder, hfounder, hliteral⟩)

theorem reckoned_next (h : Reckoned events made history) (event : Event) :
    ∃ made, Reckoned (events ++ [event]) made (history.next event) := by
  obtain ⟨new, hturn⟩ := history.session.turn_next event
  have hnew := hturn.fresh_le_id
  refine ⟨made ++ new, tells_next h.tells event, Session.accounted_turn hturn h.accounted, ?_, ?_⟩
  · rw [next, List.flatMap_append]
    exact h.founders.append hturn.literals
  · intro founder hfounder literal hliteral hheld
    rcases List.mem_append.1 hfounder with hfounder | hfounder
    · have hlt := h.accounted.lt_fresh literal (h.mem_made hfounder hliteral)
      rcases hturn.handled literal hheld with hheld | ⟨hkept, -⟩ | ⟨hmem, -⟩
      · obtain ⟨handle, hmem⟩ := h.kept founder hfounder literal hliteral hheld
        exact ⟨handle, List.mem_append_left _ hmem⟩
      · cases event with
        | request command => cases hkept
        | keep handle object =>
          cases List.mem_singleton.1 hkept
          exact ⟨handle, List.mem_append_right _ List.mem_cons_self⟩
      · have := (hnew literal hmem).1
        omega
    · -- The literals of a new kernel are new, so no caller can have got at them.
      have hmem := hturn.literals.subset (List.mem_flatMap.2 ⟨founder, hfounder, hliteral⟩)
      have hge := (hnew literal hmem).1
      rcases hturn.handled literal hheld with hheld | ⟨-, hold⟩ | ⟨-, hnone⟩
      · have := h.accounted.id_lt_fresh (.inl hheld)
        omega
      · have := h.accounted.id_lt_fresh (Session.mentions_of_mem hold)
        omega
      · rw [hnone] at hfounder
        cases hfounder

theorem reckoned_follow (events : List Event) : ∀ {before : List Event}
    {made : List (Object Resource)} {history : History}, Reckoned before made history →
      ∃ made, Reckoned (before ++ events) made (history.follow events) := by
  induction events with
  | nil =>
    intro before made history h
    rw [List.append_nil]
    exact ⟨made, h⟩
  | cons event rest ih =>
    intro before made history h
    obtain ⟨made, hnext⟩ := reckoned_next h event
    rw [List.append_cons]
    exact ih hnext

theorem exists_reckoned (events : List Event) :
    ∃ made, Reckoned events made (follow {} events) := by
  have hstart : Reckoned [] [] {} :=
    ⟨tells_empty, Session.accounted_empty, .refl _, List.forall_mem_nil _⟩
  exact reckoned_follow events hstart

/-! ## Literals -/

/-- A kernel under a handle is its founder after some calls. -/
theorem Tells.founder_of_find? (h : history.Tells) {handle : String} {kernel : Kernel}
    (hkernel : history.session.kernels.find? handle = some kernel) :
    ∃ lineage founder, history.lineages.find? handle = some lineage ∧
      history.founders[lineage.family]? = some founder ∧
        kernel = founder.assignAll lineage.calls := by
  rw [h.find?_eq] at hkernel
  obtain ⟨lineage, hlineage, hreplay⟩ := Option.bind_eq_some_iff.1 hkernel
  obtain ⟨founder, hfounder, rfl⟩ := Option.map_eq_some_iff.1 hreplay
  exact ⟨lineage, founder, hlineage, hfounder, rfl⟩

theorem Member.literals_eq (h : history.Tells) {family : Nat} {kernel founder : Kernel}
    (hmember : history.Member family kernel) (hfounder : history.founders[family]? = some founder) :
    kernel.literalSamplers = founder.literalSamplers ∧
      kernel.inlineConstants = founder.inlineConstants := by
  obtain ⟨handle, lineage, hkernel, hlineage, rfl⟩ := hmember
  obtain ⟨other, first, hother, hfirst, rfl⟩ := h.founder_of_find? hkernel
  cases hlineage.symm.trans hother
  cases hfounder.symm.trans hfirst
  rw [Kernel.assignAll_eq]
  exact ⟨rfl, rfl⟩

/-- No two families have a literal in common. -/
theorem Reckoned.family_unique (h : Reckoned events made history) {i j : Nat}
    {founder other : Kernel} {literal : Object Resource}
    (hi : history.founders[i]? = some founder) (hj : history.founders[j]? = some other)
    (hliteral : literal ∈ founder.literals) (hother : literal ∈ other.literals) : i = j := by
  obtain ⟨hlti, rfl⟩ := List.getElem?_eq_some_iff.1 hi
  obtain ⟨hltj, rfl⟩ := List.getElem?_eq_some_iff.1 hj
  have hapart := (List.pairwise_flatMap.1 (h.accounted.ascending.sublist h.founders)).2
  have hids := List.pairwise_iff_getElem.1 hapart
  rcases Nat.lt_trichotomy i j with hij | hij | hij
  · exact absurd (hids i j hlti hltj hij literal hliteral literal hother) (Nat.lt_irrefl _)
  · exact hij
  · exact absurd (hids j i hltj hlti hij literal hother literal hliteral) (Nat.lt_irrefl _)

theorem Reckoned.owns_literal_iff (h : Reckoned events made history) {family : Nat}
    {founder : Kernel} {literal : Object Resource}
    (hfounder : history.founders[family]? = some founder) (hliteral : literal ∈ founder.literals) :
    history.session.owns literal ↔
      (∃ kernel, history.Member family kernel) ∨ literal ∈ history.session.handled := by
  rw [h.accounted.owns_iff (h.mem_made (List.mem_of_getElem? hfounder) hliteral),
    Session.mem_references, or_comm]
  refine or_congr_left ⟨?_, ?_⟩
  · rintro ⟨kernel, hkernel, hown⟩
    obtain ⟨handle, hfind⟩ := (NameTable.mem_values_iff _).1 hkernel
    obtain ⟨lineage, other, hlineage, hother, rfl⟩ := h.tells.founder_of_find? hfind
    rw [Kernel.literals_assignAll] at hown
    exact ⟨_, handle, lineage, hfind, hlineage, h.family_unique hother hfounder hown hliteral⟩
  · rintro ⟨kernel, hmember⟩
    obtain ⟨hsamplers, hconstants⟩ := hmember.literals_eq h.tells hfounder
    obtain ⟨handle, -, hkernel, -⟩ := hmember
    refine ⟨kernel, (NameTable.mem_values_iff _).2 ⟨handle, hkernel⟩, ?_⟩
    rw [Kernel.literals, hsamplers, hconstants]
    exact hliteral

/-- A slot that records a literal of the kernel itself reads as that literal. -/
theorem Reckoned.read_literal (h : Reckoned events made history) {kernel : Kernel}
    (hkernel : kernel ∈ history.session.kernels.values) {kind : SlotKind} {slot : UInt32}
    {object literal : Object Resource}
    (hslot : kernel.bindings.recorded? kind slot.toNat = some object)
    (hliteral : literal ∈ kernel.literals) (hid : object.id = literal.id) :
    history.session.read? kernel kind slot = some literal := by
  have hown : literal ∈ history.session.references :=
    Session.mem_references.2 (.inr ⟨kernel, hkernel, hliteral⟩)
  have hobject := h.accounted.mentioned object (.inr ⟨kernel, hkernel, .inr ⟨kind, _, hslot⟩⟩)
  have hmade := h.accounted.mentioned literal (Session.mentions_of_mem hown)
  obtain rfl := h.accounted.eq_of_id hobject hmade hid
  exact (h.accounted.read?_eq_some hkernel kind slot).2 ⟨hslot, hown⟩

/-- What holds of the literals of kernels. -/
structure LiteralsLive (events : List Event) (history : History) : Prop where
  /-- All literals of a kernel that exists are alive. -/
  alive : ∀ kernel ∈ history.session.kernels.values, ∀ literal ∈ kernel.literals,
    history.session.owns literal
  /-- Every kernel belongs to a family, and has the very literals of its founder. -/
  shared : ∀ kernel ∈ history.session.kernels.values, ∃ family founder,
    history.Member family kernel ∧ history.founders[family]? = some founder ∧
      kernel.literalSamplers = founder.literalSamplers ∧
        kernel.inlineConstants = founder.inlineConstants
  /-- A slot that still records a literal of its own kernel reads as that literal. -/
  read : ∀ kernel ∈ history.session.kernels.values, ∀ kind slot object, ∀ literal ∈ kernel.literals,
    kernel.bindings.recorded? kind slot.toNat = some object → object.id = literal.id →
      history.session.read? kernel kind slot = some literal
  /-- A literal is alive as long as its family has members, and then while callers hold it. -/
  released : ∀ family founder, history.founders[family]? = some founder →
    ∀ literal ∈ founder.literals, history.session.owns literal ↔
      (∃ kernel, history.Member family kernel) ∨ literal ∈ history.session.handled
  /-- Callers hold only what they took themselves. -/
  held : ∀ founder ∈ history.founders, ∀ literal ∈ founder.literals,
    literal ∈ history.session.handled → ∃ handle, .keep handle literal ∈ events
  /-- What has been released does not come back. -/
  final : ∀ founder ∈ history.founders, ∀ literal ∈ founder.literals,
    ¬ history.session.owns literal → ∀ later, ¬ (history.follow later).session.owns literal

theorem Reckoned.literalsLive (h : Reckoned events made history) :
    history.LiteralsLive events where
  alive kernel hkernel _ hliteral :=
    Session.owns_of_mem (Session.mem_references.2 (.inr ⟨kernel, hkernel, hliteral⟩))
  shared := by
    intro kernel hkernel
    obtain ⟨handle, hfind⟩ := (NameTable.mem_values_iff _).1 hkernel
    obtain ⟨lineage, founder, hlineage, hfounder, -⟩ := h.tells.founder_of_find? hfind
    have hmember : history.Member lineage.family kernel := ⟨handle, lineage, hfind, hlineage, rfl⟩
    exact ⟨lineage.family, founder, hmember, hfounder, hmember.literals_eq h.tells hfounder⟩
  read _ hkernel _ _ _ _ hliteral hslot hid := h.read_literal hkernel hslot hliteral hid
  released _ _ hfounder _ hliteral := h.owns_literal_iff hfounder hliteral
  held := h.kept
  final := by
    intro founder hfounder literal hliteral hdead later
    have hgone := h.accounted.gone (h.mem_made hfounder hliteral) fun hmem =>
      hdead (Session.owns_of_mem hmem)
    rw [session_follow]
    exact (Session.gone_follow hgone later).not_owns

/-- After any events, kernels have their literals: these are alive and the same objects throughout a
family, and are released when the last member of the family is gone, unless a caller keeps them. -/
theorem literals_live_with_family (events : List Event) :
    (follow {} events).LiteralsLive events := by
  obtain ⟨made, h⟩ := exists_reckoned events
  exact h.literalsLive

/-- A kernel with a literal sampler and an inline constant. -/
def twoLiterals : Metadata where
  name := "twoLiterals"
  uavCount := 1
  samplerCount := 1
  literalSamplers := [⟨0, true, 1, 1⟩]
  inlineConstants := [⟨0, [1, 2]⟩]

/-- A kernel is copied and dropped, and so is the copy; a caller takes the sampler of the copy of
the copy before that is dropped too. -/
def inherited : List Event :=
  ([.context "c" {}, .program "p" "c" [⟨0, "d"⟩], .createFrom "p" twoLiterals "k", .copy "k" "l",
      .dropKernel "k", .copy "l" "m", .dropKernel "l"] : List Command).map .request ++
    [.keep "s" ⟨0, .sampler ⟨true, .clampToEdge, .linear⟩⟩, .request (.dropKernel "m")]

/-- The constant is gone for good, and the sampler is the caller's. -/
theorem inherited_literals : ∃ founder sampler constant,
    (follow {} inherited).founders = [founder] ∧ founder.literals = [sampler, constant] ∧
      (follow {} inherited).session.owns sampler ∧
        ∀ later, ¬ ((follow {} inherited).follow later).session.owns constant := by
  have hlive := literals_live_with_family inherited
  refine ⟨_, _, _, rfl, rfl, by decide, ?_⟩
  exact hlive.final _ List.mem_cons_self _ (List.mem_cons_of_mem _ List.mem_cons_self) (by decide)

end History

end KernelBinding
