import KernelBinding.Proofs.Listing
import KernelBinding.Proofs.Runs

/-!
# KernelBinding.Proofs.Declaration

The dimension that each slot is declared with, slot by slot. Only arguments in global and constant
memory are declared; of those that take one slot the last one decides.

* `getElem?_views` — the declarations of metadata in either table, place by place.
-/

namespace KernelBinding

namespace Declarations

variable {decls : Declarations}

theorem getElem?_views_view (decls : Declarations) (arg : Argument) (table : ViewTable) (i : Nat) :
    ((decls.view arg).views table)[i]? = (decls.views table)[i]?.map fun old =>
      if arg.isViewed && (arg.viewSlots table).any (·.toNat == i) then arg.dimension else old := by
  unfold view
  cases hviewed : arg.isViewed with
  | false => simp
  | true =>
    cases table with
    | uav => exact getElem?_put ..
    | srv => exact getElem?_put ..

theorem getElem?_views_blank (metadata : Metadata) (table : ViewTable) (i : Nat) :
    ((blank metadata).views table)[i]? =
      if i < metadata.viewCount table then some .unknown else none := by
  cases table with
  | uav => exact List.getElem?_replicate
  | srv => exact List.getElem?_replicate

/-- The dimension of the last of the arguments that pass a test. -/
def lastDimension (args : List Argument) (test : Argument → Bool) : ViewDimension :=
  ((args.findRev? fun arg => arg.isViewed && test arg).map (·.dimension)).getD .unknown

theorem getElem?_views {metadata : Metadata} (h : ofMetadata metadata = .ok decls)
    (table : ViewTable) (i : Nat) :
    (decls.views table)[i]? = if i < metadata.viewCount table then
      some (lastDimension metadata.args fun arg => (arg.viewSlots table).any (·.toNat == i))
    else none := by
  rw [(ofMetadata_eq_ok.1 h).2.2, getElem?_foldl (views · table) view _ _ _
    fun arg _ decls => getElem?_views_view decls arg table, getElem?_views_blank]
  split <;> rfl

end Declarations

end KernelBinding
