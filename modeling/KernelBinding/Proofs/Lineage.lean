import KernelBinding.Proofs.Deeds

/-!
# KernelBinding.Proofs.Lineage

What made a kernel what it is. Kernels form families: each consists of a new kernel, its founder,
and the copies made of its members. The record of a family is kept from requests and answers alone.
It gives each member a lineage: the calls that its ancestors had got when they were copied, and then
its own (`History`). Two members that once were one kernel have nothing in common from then on but
the calls from before.

* `related_carry`  — a deed keeps kernels and lineages in step.
* `tells_next`     — so does every event.
* `kernels_replay` — every kernel is its founder after the calls of its lineage.
-/

namespace KernelBinding

/-- How a kernel came about. -/
structure Lineage where
  /-- The number of its family. -/
  family : Nat
  /-- The calls to its ancestors up to the copying, followed by those to itself. -/
  calls : List Call
  deriving DecidableEq

def Lineage.receive (call : Call) (lineage : Lineage) : Lineage :=
  { lineage with calls := lineage.calls ++ [call] }

/-- New kernels as founders of families, which are numbered from `family` on. -/
def foundFamilies (family : Nat) (entries : List (String × Kernel)) : List (String × Lineage) :=
  (entries.zipIdx family).map fun entry => (entry.1.1, ⟨entry.2, []⟩)

/-- The deed as it is recorded, when the next family has number `family`. -/
def Deed.enroll (family : Nat) : Deed Kernel → Deed Lineage
  | .made entries => .made (foundFamilies family entries)
  | .copied source handle => .copied source handle
  | .called handle call => .called handle call
  | .dropped handle => .dropped handle

/-- A session, and a record of how its kernels came about. -/
structure History where
  session : Session := {}
  /-- The first kernel of each family, as it was when it was made. -/
  founders : List Kernel := []
  lineages : NameTable Lineage := .empty

namespace History

def next (history : History) (event : Event) : History :=
  let deed := history.session.deedOf event
  { session := history.session.next event
    founders := history.founders ++ deed.products
    lineages := (deed.enroll history.founders.length).carry Lineage.receive history.lineages }

def follow (history : History) (events : List Event) : History :=
  events.foldl next history

/-- The founder of the family after the calls of the lineage. -/
def replay? (history : History) (lineage : Lineage) : Option Kernel :=
  (history.founders[lineage.family]?).map (·.assignAll lineage.calls)

end History

/-! ## Tables in step -/

/-- The tables have the same names, and the values of one name are related. -/
def NameTable.Related {α β : Type} (R : α → β → Prop) (table : NameTable α) (other : NameTable β) :
    Prop :=
  ∀ name, Option.Rel R (table.find? name) (other.find? name)

namespace NameTable

variable {α β : Type} {R : α → β → Prop} {table : NameTable α} {other : NameTable β}

theorem Related.cases (h : Related R table other) (name : String) :
    (∃ a b, table.find? name = some a ∧ other.find? name = some b ∧ R a b) ∨
      table.find? name = none ∧ other.find? name = none := by
  have hname := h name
  revert hname
  generalize table.find? name = a?
  generalize other.find? name = b?
  rintro (hab | _)
  · exact .inl ⟨_, _, rfl, rfl, hab⟩
  · exact .inr ⟨rfl, rfl⟩

theorem Related.imp {S : α → β → Prop} (h : Related R table other) (himp : ∀ a b, R a b → S a b) :
    Related S table other := by
  intro name
  rcases h.cases name with ⟨a, b, ha, hb, hab⟩ | ⟨ha, hb⟩
  · rw [ha, hb]
    exact .some (himp a b hab)
  · rw [ha, hb]
    exact .none

theorem Related.insert (h : Related R table other) (handle : String) {a : α} {b : β} (hab : R a b) :
    Related R (table.insert handle a) (other.insert handle b) := by
  intro name
  by_cases hname : name = handle
  · rw [hname, find?_insert_self, find?_insert_self]
    exact .some hab
  · rw [find?_insert_of_ne _ _ hname, find?_insert_of_ne _ _ hname]
    exact h name

theorem Related.erase (h : Related R table other) (handle : String) :
    Related R (table.erase handle) (other.erase handle) := by
  intro name
  by_cases hname : name = handle
  · rw [hname, find?_erase_self, find?_erase_self]
    exact .none
  · rw [find?_erase_of_ne _ hname, find?_erase_of_ne _ hname]
    exact h name

end NameTable

section

variable {R : Kernel → Lineage → Prop} {kernels : NameTable Kernel} {lineages : NameTable Lineage}

theorem related_insertAll (entries : List (String × Kernel)) :
    ∀ {kernels : NameTable Kernel} {lineages : NameTable Lineage} (family : Nat),
      (∀ i kernel, (entries.map (·.2))[i]? = some kernel → R kernel ⟨family + i, []⟩) →
        kernels.Related R lineages →
          (kernels.insertAll entries).Related R
            (lineages.insertAll (foundFamilies family entries)) := by
  induction entries with
  | nil => intro kernels lineages family _ h; exact h
  | cons entry rest ih =>
    intro kernels lineages family hfounders h
    refine ih (family + 1) (fun i kernel hkernel => ?_)
      (h.insert entry.1 (hfounders 0 entry.2 rfl))
    have hlater := hfounders (i + 1) kernel hkernel
    rwa [show family + (i + 1) = family + 1 + i by omega] at hlater

/-- A deed that is recorded as it is done keeps kernels and lineages related. -/
theorem related_carry {deed : Deed Kernel} {family : Nat}
    (hfounders : ∀ i kernel, deed.products[i]? = some kernel → R kernel ⟨family + i, []⟩)
    (hreceive : ∀ call kernel lineage, R kernel lineage →
      R (kernel.receive call) (lineage.receive call))
    (h : kernels.Related R lineages) :
    (deed.carry Kernel.receive kernels).Related R
      ((deed.enroll family).carry Lineage.receive lineages) := by
  cases deed with
  | made entries => exact related_insertAll entries family hfounders h
  | copied source handle =>
    rcases h.cases source with ⟨kernel, lineage, hk, hl, hrelated⟩ | ⟨hk, hl⟩
    · simp only [Deed.carry, Deed.enroll, hk, hl]
      exact h.insert handle hrelated
    · simp only [Deed.carry, Deed.enroll, hk, hl]
      exact h
  | called handle call =>
    rcases h.cases handle with ⟨kernel, lineage, hk, hl, hrelated⟩ | ⟨hk, hl⟩
    · simp only [Deed.carry, Deed.enroll, hk, hl]
      exact h.insert handle (hreceive call kernel lineage hrelated)
    · simp only [Deed.carry, Deed.enroll, hk, hl]
      exact h
  | dropped handle => exact h.erase handle

end

/-! ## Histories -/

theorem Kernel.assignAll_append (before after : List Call) : ∀ kernel : Kernel,
    kernel.assignAll (before ++ after) = (kernel.assignAll before).assignAll after := by
  induction before with
  | nil => intro kernel; rfl
  | cons call rest ih =>
    intro kernel
    simp only [List.cons_append, assignAll]
    split <;> exact ih _

namespace History

/-- The kernels of the session are what the record says, and the founders are new kernels. -/
structure Tells (history : History) : Prop where
  kernels : history.session.kernels.Related
    (fun kernel lineage => history.replay? lineage = some kernel) history.lineages
  founders : ∀ founder ∈ history.founders, ∃ program limits metadata fresh,
    Kernel.make program limits metadata fresh = .ok founder

theorem replay?_receive {history : History} {kernel : Kernel} {lineage : Lineage} (call : Call)
    (h : history.replay? lineage = some kernel) :
    history.replay? (lineage.receive call) = some (kernel.receive call) := by
  obtain ⟨founder, hfounder, rfl⟩ := Option.map_eq_some_iff.1 h
  simp only [replay?, Lineage.receive, hfounder, Option.map_some, Kernel.receive,
    Kernel.assignAll_append]

/-- More founders make no difference to the lineages there are. -/
theorem replay?_mono {history history' : History} {more : List Kernel} {kernel : Kernel}
    {lineage : Lineage} (hfounders : history'.founders = history.founders ++ more)
    (h : history.replay? lineage = some kernel) : history'.replay? lineage = some kernel := by
  obtain ⟨founder, hfounder, rfl⟩ := Option.map_eq_some_iff.1 h
  obtain ⟨hlt, -⟩ := List.getElem?_eq_some_iff.1 hfounder
  rw [replay?, hfounders, List.getElem?_append_left hlt, hfounder, Option.map_some]

theorem tells_next {history : History} (h : history.Tells) (event : Event) :
    (history.next event).Tells := by
  obtain ⟨new, hturn⟩ := history.session.turn_next event
  constructor
  · intro handle
    rw [next, hturn.kernels]
    refine related_carry (fun i kernel hkernel => ?_) (fun call _ _ => replay?_receive call)
      (h.kernels.imp fun _ _ => replay?_mono rfl) handle
    simp only [replay?, List.getElem?_append_right (Nat.le_add_right ..), Nat.add_sub_cancel_left,
      hkernel]
    rfl
  · intro founder hfounder
    rcases List.mem_append.1 hfounder with hfounder | hfounder
    · exact h.founders founder hfounder
    · exact hturn.made founder hfounder

theorem tells_empty : Tells {} :=
  ⟨fun _ => .none, List.forall_mem_nil _⟩

theorem tells_follow (events : List Event) : (follow {} events).Tells :=
  List.foldlRecOn (motive := Tells) events _ tells_empty fun _ h event _ => tells_next h event

theorem Tells.find?_eq {history : History} (h : history.Tells) (handle : String) :
    history.session.kernels.find? handle =
      (history.lineages.find? handle).bind history.replay? := by
  rcases h.kernels.cases handle with ⟨kernel, lineage, hk, hl, hreplay⟩ | ⟨hk, hl⟩
  · rw [hk, hl]
    exact hreplay.symm
  · rw [hk, hl]
    rfl

/-- Keeping the record changes nothing in the session. -/
theorem session_follow (history : History) (events : List Event) :
    (history.follow events).session = history.session.follow events :=
  (List.foldl_hom session fun _ _ => rfl).symm

/-- After any events, each kernel is the founder of its family, as it was when it was made, after
the calls of its lineage: those that its ancestors got before they were copied, and its own. Calls
to other members of the family, and to its ancestors later on, make no difference. -/
theorem kernels_replay (events : List Event) :
    let history := follow {} events
    history.session = Session.follow {} events ∧
      (∀ handle, history.session.kernels.find? handle =
        (history.lineages.find? handle).bind history.replay?) ∧
      ∀ founder ∈ history.founders, ∃ program limits metadata fresh,
        Kernel.make program limits metadata fresh = .ok founder := by
  have htells := tells_follow events
  exact ⟨session_follow {} events, htells.find?_eq, htells.founders⟩

/-- A kernel with a scalar argument and one in local memory. -/
def twoArguments : Metadata where
  name := "twoArguments"
  args := [⟨⟨some "n", "uchar", .privateMemory, ⟨0⟩⟩, .scalar 0 1⟩,
    ⟨⟨some "l", "float*", .localMemory, ⟨0⟩⟩, .localMemory⟩]
  inputsSize := 1

/-- Copies of a kernel and of its copy, with calls in between; the first kernel is dropped. -/
def branching : List Event :=
  [.context "c" {}, .program "p" "c" [⟨0, "d"⟩], .createFrom "p" twoArguments "k",
    .set "k" 0 (.bytes [1]), .copy "k" "l", .set "k" 0 (.bytes [2]), .set "l" 1 (.localMemory 8),
    .copy "l" "m", .dropKernel "k", .set "m" 0 (.bytes [3]), .set "l" 1 (.localMemory 0),
    .set "l" 1 (.localMemory 16)].map .request

/-- Both copies have the calls up to the second copying in common. One of the older copy's own calls
is refused, and makes no difference. -/
theorem branching_replay : ∃ founder, (follow {} branching).founders = [founder] ∧
    (follow {} branching).session.kernels.find? "l" = some (founder.assignAll
      [.bytes 0 [1], .localMemory 1 8, .localMemory 1 0, .localMemory 1 16]) ∧
    (follow {} branching).session.kernels.find? "m" = some (founder.assignAll
      [.bytes 0 [1], .localMemory 1 8, .bytes 0 [3]]) := by
  obtain ⟨-, hreplay, -⟩ := kernels_replay branching
  exact ⟨_, rfl, (hreplay "l").trans rfl, (hreplay "m").trans rfl⟩

end History

end KernelBinding
