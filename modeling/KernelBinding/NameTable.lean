/-!
# KernelBinding.NameTable

Finite tables from names to values, the entries kept in ascending order of the names. Names compare
by code points, which is also the order of their UTF-8 bytes.

* `find?_insert_self`, `find?_insert_of_ne` — an insertion changes the entry of its name only.
* `find?_erase_self`, `find?_erase_of_ne`   — so does a removal.
* `mem_entries_iff`                         — the entries are what look-up finds.
* `find?_ofList`                            — of the pairs with one name the last one is kept.
* `perm_values_insert`, `perm_values_erase` — which values come and go.
-/

namespace KernelBinding

/-- A table with at most one value for each name. -/
structure NameTable (α : Type) where
  entries : List (String × α)
  ascending : entries.Pairwise fun a b => a.1 < b.1
  deriving DecidableEq

namespace NameTable

variable {α : Type}

def empty : NameTable α :=
  ⟨[], .nil⟩

/-- The value of the first entry called `name`. -/
def lookup? (name : String) : List (String × α) → Option α
  | [] => none
  | e :: rest => if name = e.1 then some e.2 else lookup? name rest

def find? (t : NameTable α) (name : String) : Option α :=
  lookup? name t.entries

def contains (t : NameTable α) (name : String) : Bool :=
  (t.find? name).isSome

/-- All names, in ascending order. -/
def names (t : NameTable α) : List String :=
  t.entries.map (·.1)

/-- All values, in ascending order of their names. -/
def values (t : NameTable α) : List α :=
  t.entries.map (·.2)

/-- Puts an entry at its place among ascending entries, replacing one of the same name. -/
def insertEntry (name : String) (value : α) : List (String × α) → List (String × α)
  | [] => [(name, value)]
  | e :: rest =>
    if name < e.1 then (name, value) :: e :: rest
    else if name = e.1 then (name, value) :: rest
    else e :: insertEntry name value rest

theorem mem_insertEntry {name : String} {value : α} {es : List (String × α)} {e : String × α}
    (h : e ∈ insertEntry name value es) : e = (name, value) ∨ e ∈ es := by
  induction es with
  | nil => simpa [insertEntry] using h
  | cons d rest ih =>
    simp only [insertEntry] at h
    split at h
    · simpa using h
    · split at h
      · rcases List.mem_cons.1 h with h | h
        · exact .inl h
        · exact .inr (List.mem_cons_of_mem _ h)
      · rcases List.mem_cons.1 h with h | h
        · exact .inr (h ▸ List.mem_cons_self)
        · exact (ih h).imp_right (List.mem_cons_of_mem _)

theorem pairwise_insertEntry {name : String} {value : α} {es : List (String × α)}
    (h : es.Pairwise fun a b => a.1 < b.1) :
    (insertEntry name value es).Pairwise fun a b => a.1 < b.1 := by
  induction es with
  | nil => simp [insertEntry]
  | cons d rest ih =>
    obtain ⟨hd, hr⟩ := List.pairwise_cons.1 h
    simp only [insertEntry]
    split
    · rename_i hlt
      refine List.pairwise_cons.2 ⟨fun e he => ?_, h⟩
      rcases List.mem_cons.1 he with rfl | he
      · exact hlt
      · exact String.lt_trans hlt (hd e he)
    · split
      · rename_i heq
        refine List.pairwise_cons.2 ⟨fun e he => ?_, hr⟩
        simpa only [heq] using hd e he
      · rename_i hlt hne
        refine List.pairwise_cons.2 ⟨fun e he => ?_, ih hr⟩
        rcases mem_insertEntry he with rfl | he
        · exact String.not_le.1 fun hle => hne (String.le_antisymm hle (String.not_lt.1 hlt))
        · exact hd e he

def insert (t : NameTable α) (name : String) (value : α) : NameTable α :=
  ⟨insertEntry name value t.entries, pairwise_insertEntry t.ascending⟩

def erase (t : NameTable α) (name : String) : NameTable α :=
  ⟨t.entries.filter (·.1 != name), t.ascending.filter _⟩

/-- Stores the pairs one after another, so that of two with one name the later wins. -/
def ofList (pairs : List (String × α)) : NameTable α :=
  pairs.foldl (fun t e => t.insert e.1 e.2) empty

@[simp] theorem find?_empty (name : String) : (empty : NameTable α).find? name = none :=
  rfl

theorem lookup?_insertEntry_self (name : String) (value : α) (es : List (String × α)) :
    lookup? name (insertEntry name value es) = some value := by
  induction es with
  | nil => simp [insertEntry, lookup?]
  | cons d rest ih =>
    simp only [insertEntry]
    split
    · simp [lookup?]
    · split
      · simp [lookup?]
      · rename_i hne
        simp [lookup?, hne, ih]

theorem lookup?_insertEntry_of_ne {name other : String} (value : α) (es : List (String × α))
    (h : other ≠ name) : lookup? other (insertEntry name value es) = lookup? other es := by
  induction es with
  | nil => simp [insertEntry, lookup?, h]
  | cons d rest ih =>
    simp only [insertEntry]
    split
    · simp [lookup?, h]
    · split
      · rename_i heq
        simp [lookup?, ← heq, h]
      · simp [lookup?, ih]

theorem lookup?_eq_none {name : String} {es : List (String × α)} :
    lookup? name es = none ↔ ∀ e ∈ es, name ≠ e.1 := by
  induction es with
  | nil => simp [lookup?]
  | cons d rest ih => by_cases h : name = d.1 <;> simp [lookup?, h, ih]

@[simp] theorem find?_insert_self (t : NameTable α) (name : String) (value : α) :
    (t.insert name value).find? name = some value :=
  lookup?_insertEntry_self name value t.entries

theorem find?_insert_of_ne (t : NameTable α) {name other : String} (value : α)
    (h : other ≠ name) : (t.insert name value).find? other = t.find? other :=
  lookup?_insertEntry_of_ne value t.entries h

@[simp] theorem find?_erase_self (t : NameTable α) (name : String) :
    (t.erase name).find? name = none := by
  simp only [find?, erase, lookup?_eq_none, List.mem_filter, bne_iff_ne]
  exact fun e he => he.2.symm

theorem find?_erase_of_ne (t : NameTable α) {name other : String} (h : other ≠ name) :
    (t.erase name).find? other = t.find? other := by
  simp only [find?, erase]
  induction t.entries with
  | nil => rfl
  | cons d rest ih =>
    by_cases hd : d.1 = name
    · simp [hd, ih, lookup?, h]
    · simp [hd, ih, lookup?]

theorem mem_entries_iff (t : NameTable α) {name : String} {value : α} :
    (name, value) ∈ t.entries ↔ t.find? name = some value := by
  obtain ⟨es, h⟩ := t
  simp only [find?]
  induction es with
  | nil => simp [lookup?]
  | cons d rest ih =>
    obtain ⟨hd, hr⟩ := List.pairwise_cons.1 h
    rw [List.mem_cons, ih hr, lookup?]
    by_cases hn : name = d.1
    · subst hn
      have hrest : lookup? d.1 rest = none :=
        lookup?_eq_none.2 fun e he heq => String.lt_irrefl _ (heq ▸ hd e he)
      simp [hrest, Prod.ext_iff, eq_comm]
    · simp [Prod.ext_iff, hn]

theorem mem_values_iff (t : NameTable α) {value : α} :
    value ∈ t.values ↔ ∃ name, t.find? name = some value := by
  simp only [values, List.mem_map, Prod.exists, exists_eq_right, mem_entries_iff]

theorem mem_names_iff (t : NameTable α) {name : String} :
    name ∈ t.names ↔ ∃ value, t.find? name = some value := by
  simp only [names, List.mem_map, Prod.exists, exists_and_right, exists_eq_right, mem_entries_iff]

theorem find?_ofList (pairs : List (String × α)) (name : String) :
    (ofList pairs).find? name = (pairs.findRev? (·.1 == name)).map (·.2) := by
  suffices h : ∀ t : NameTable α, (pairs.foldl (fun t e => t.insert e.1 e.2) t).find? name =
      ((pairs.findRev? (·.1 == name)).map (·.2)).or (t.find? name) by
    rw [ofList, h, find?_empty, Option.or_none]
  -- From the front: the first pair counts only if none of the rest has the name.
  induction pairs with
  | nil => intro t; rfl
  | cons e rest ih =>
    intro t
    rw [List.foldl_cons, ih, List.findRev?]
    cases rest.findRev? (·.1 == name) with
    | some found => rfl
    | none =>
      by_cases he : e.1 = name
      · simp [← he]
      · simp [he, find?_insert_of_ne t e.2 (Ne.symm he)]

theorem mem_names_ofList {pairs : List (String × α)} {name : String} :
    name ∈ (ofList pairs).names ↔ name ∈ pairs.map (·.1) := by
  rw [mem_names_iff, ← Option.isSome_iff_exists, find?_ofList, Option.isSome_map,
    List.findRev?_eq_find?_reverse]
  simp

/-- Entries of greater names are not called `name`. -/
theorem lookup?_eq_none_of_lt {name : String} {es : List (String × α)}
    (h : ∀ e ∈ es, name < e.1) : lookup? name es = none :=
  lookup?_eq_none.2 fun e he heq => String.lt_irrefl _ (heq ▸ h e he)

theorem perm_insertEntry (name : String) (value : α) {es : List (String × α)}
    (h : es.Pairwise fun a b => a.1 < b.1) :
    ((insertEntry name value es).map (·.2) ++ (lookup? name es).toList).Perm
      (value :: es.map (·.2)) := by
  induction es with
  | nil => exact .refl _
  | cons e rest ih =>
    obtain ⟨he, hrest⟩ := List.pairwise_cons.1 h
    simp only [insertEntry]
    split
    · rename_i hlt
      have hnone : lookup? name (e :: rest) = none := by
        refine lookup?_eq_none_of_lt (List.forall_mem_cons.2 ⟨hlt, fun d hd => ?_⟩)
        exact String.lt_trans hlt (he d hd)
      rw [hnone, Option.toList_none, List.append_nil, List.map_cons]
    · split
      · rename_i heq
        simp only [lookup?, heq, if_true, List.map_cons, Option.toList_some]
        exact List.Perm.cons value List.perm_append_comm
      · rename_i hne
        simp only [lookup?, hne, if_false, List.map_cons, List.cons_append]
        exact ((ih hrest).cons e.2).trans (.swap _ _ _)

/-- An insertion adds the value and takes away that of the entry it replaces. -/
theorem perm_values_insert (t : NameTable α) (name : String) (value : α) :
    ((t.insert name value).values ++ (t.find? name).toList).Perm (value :: t.values) :=
  perm_insertEntry name value t.ascending

theorem perm_eraseEntry (name : String) {es : List (String × α)}
    (h : es.Pairwise fun a b => a.1 < b.1) :
    ((es.filter (·.1 != name)).map (·.2) ++ (lookup? name es).toList).Perm (es.map (·.2)) := by
  induction es with
  | nil => exact .refl _
  | cons e rest ih =>
    obtain ⟨he, hrest⟩ := List.pairwise_cons.1 h
    have hperm := ih hrest
    by_cases heq : name = e.1
    · subst heq
      rw [lookup?_eq_none_of_lt he, Option.toList_none, List.append_nil] at hperm
      simp only [lookup?, if_true, Option.toList_some, List.filter_cons, bne_self_eq_false,
        Bool.false_eq_true, if_false, List.map_cons]
      exact List.perm_append_comm.trans (hperm.cons e.2)
    · have hkeep : (e.1 != name) = true := bne_iff_ne.2 (Ne.symm heq)
      simp only [lookup?, heq, if_false, List.filter_cons, hkeep, if_true, List.map_cons,
        List.cons_append]
      exact hperm.cons e.2

/-- A removal takes away the value that was found. -/
theorem perm_values_erase (t : NameTable α) (name : String) :
    ((t.erase name).values ++ (t.find? name).toList).Perm t.values :=
  perm_eraseEntry name t.ascending

end NameTable

end KernelBinding
