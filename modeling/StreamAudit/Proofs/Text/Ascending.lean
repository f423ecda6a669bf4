import Mathlib.Data.List.Sort
import StreamAudit.Text.Ascending

/-!
Sets of texts by their members. Two ascending lists with the same members are the same list
(`ascending_ext`), so the order and the number of times in which texts were added leave no trace.
-/

set_option autoImplicit false
set_option relaxedAutoImplicit false

namespace StreamAudit.Text.Ascending

instance irreflLt : Std.Irrefl (α := String) (· < ·) :=
  ⟨String.lt_irrefl⟩

/-- A set of texts is known by its members. -/
theorem ascending_ext {first second : List String} (hfirst : Sorted first) (hsecond : Sorted second)
    (h : ∀ text, text ∈ first ↔ text ∈ second) : first = second :=
  List.Pairwise.eq_of_mem_iff hfirst hsecond h

theorem nodup_ofList (texts : List String) : (ofList texts).Nodup :=
  List.Pairwise.nodup (sorted_ofList texts)

theorem ofList_congr {first second : List String} (h : ∀ text, text ∈ first ↔ text ∈ second) :
    ofList first = ofList second :=
  ascending_ext (sorted_ofList first) (sorted_ofList second) fun text ↦ by
    rw [mem_ofList, mem_ofList, h]

/-- A text that comes last is added like any other. -/
theorem ofList_concat (texts : List String) (text : String) :
    ofList (texts ++ [text]) = insert text (ofList texts) := by
  refine ascending_ext (sorted_ofList _) (sorted_insert text (sorted_ofList texts)) fun member ↦ ?_
  rw [mem_ofList, mem_insert, mem_ofList, List.mem_append, List.mem_singleton, or_comm]

/-- A part of a set is the set of the members of that part. -/
theorem ofList_filter (keeps : String → Bool) (texts : List String) :
    ofList (texts.filter keeps) = (ofList texts).filter keeps := by
  refine ascending_ext (sorted_ofList _) ((sorted_ofList texts).filter _) fun member ↦ ?_
  rw [mem_ofList, List.mem_filter, List.mem_filter, mem_ofList]

end StreamAudit.Text.Ascending
