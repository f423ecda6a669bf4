import StreamAudit.Proofs.Form.Members
import StreamAudit.Settings.Basic

/-!
Reasons for refusals. A reader that refuses a value says why if the readers that it is made of do,
so settings are never refused without a complaint (`Settings.ofForm_ne_wrong_nil`).
-/

set_option autoImplicit false
set_option relaxedAutoImplicit false

namespace StreamAudit

open StreamAudit.Form

/-! ### Readers -/

namespace Form

variable {α β : Type}

/-- Whether a reader that refuses a value says why. -/
def GivesReasons (read : Reader α) : Prop :=
  ∀ value, read value ≠ .wrong []

theorem Checked.ok_ne_wrong_nil (a : α) : Checked.ok a ≠ .wrong [] := by
  intro h
  cases h

theorem refuse_ne_wrong_nil (cause : Cause) : (refuse cause : Checked α) ≠ .wrong [] :=
  fun h ↦ List.cons_ne_nil _ _ (Checked.wrong.inj h)

theorem Checked.also_ne_wrong_nil {function : Checked (α → β)} {argument : Checked α}
    (hfunction : function ≠ .wrong []) (hargument : argument ≠ .wrong []) :
    function.also argument ≠ .wrong [] := by
  cases function with
  | wrong all =>
    have hall : all ≠ [] := fun hnil ↦ hfunction (congrArg _ hnil)
    simp [also, complaints, hall]
  | ok f =>
    cases argument with
    | ok a => exact ok_ne_wrong_nil (f a)
    | wrong all => simpa [also, complaints] using hargument

theorem Checked.under_ne_wrong_nil {step : Step} {found : Checked α} (h : found ≠ .wrong []) :
    found.under step ≠ .wrong [] := by
  cases found with
  | ok a => exact ok_ne_wrong_nil a
  | wrong all => simpa [under] using h

theorem Checked.map_ne_wrong_nil {f : α → β} {found : Checked α} (h : found ≠ .wrong []) :
    found.map f ≠ .wrong [] := by
  cases found with
  | ok a => exact ok_ne_wrong_nil (f a)
  | wrong all => simpa [map] using h

@[simp]
theorem optional_ne_wrong_nil {form : Json.Members} {name : String} {read : Reader α} {absent : α}
    (hread : GivesReasons read) : Form.optional form name read absent ≠ .wrong [] := by
  unfold Form.optional
  split
  · exact Checked.under_ne_wrong_nil (hread _)
  · exact Checked.ok_ne_wrong_nil _

@[simp]
theorem givesReasons_leaf (read : Json → Except Cause α) : GivesReasons (leaf read) := by
  intro value
  unfold leaf
  split
  · exact Checked.ok_ne_wrong_nil _
  · exact refuse_ne_wrong_nil _

@[simp]
theorem givesReasons_text (prepare : String → String) (minimum : Nat) :
    GivesReasons (text prepare minimum) := by
  intro value
  unfold text
  split
  · split
    · exact refuse_ne_wrong_nil _
    · exact Checked.ok_ne_wrong_nil _
  · exact refuse_ne_wrong_nil _

@[simp]
theorem givesReasons_choice (ofName? : String → Option α) : GivesReasons (choice ofName?) := by
  intro value
  unfold choice
  split
  · split
    · exact Checked.ok_ne_wrong_nil _
    · exact refuse_ne_wrong_nil _
  · exact refuse_ne_wrong_nil _

@[simp]
theorem givesReasons_object {read : Json.Members → Checked α}
    (hread : ∀ form, read form ≠ .wrong []) :
    GivesReasons (object read) := by
  intro value
  unfold object
  split
  · exact hread _
  · exact refuse_ne_wrong_nil _

@[simp]
theorem givesReasons_nullable {read : Reader α} (hread : GivesReasons read) :
    GivesReasons (nullable read) := by
  intro value
  unfold nullable
  split
  · exact Checked.ok_ne_wrong_nil _
  · exact Checked.map_ne_wrong_nil (hread _)

@[simp]
theorem givesReasons_above {test : α → Bool} {read : Reader α} (hread : GivesReasons read) :
    GivesReasons (above test read) := by
  intro value
  unfold above
  split
  · split
    · exact Checked.ok_ne_wrong_nil _
    · exact refuse_ne_wrong_nil _
  · rename_i all hfound
    exact hfound ▸ hread value

@[simp]
theorem givesReasons_list {read : Reader α} (hread : GivesReasons read) :
    GivesReasons (list read) := by
  have hitems : ∀ items place, itemsFrom read place items ≠ .wrong [] := by
    intro items
    induction items with
    | nil => exact fun _ ↦ Checked.ok_ne_wrong_nil []
    | cons item rest ih =>
      intro place
      have hitem : (read item).under (.index place) ≠ .wrong [] :=
        Checked.under_ne_wrong_nil (hread item)
      exact Checked.also_ne_wrong_nil (Checked.also_ne_wrong_nil (Checked.ok_ne_wrong_nil _) hitem)
        (ih (place + 1))
  intro value
  unfold list
  split
  · exact hitems _ 0
  · exact refuse_ne_wrong_nil _

end Form

/-! ### Settings -/

theorem DatabaseSettings.ofForm_ne_wrong_nil (form : Json.Members) :
    DatabaseSettings.ofForm form ≠ .wrong [] := by
  unfold DatabaseSettings.ofForm
  repeat' apply Checked.also_ne_wrong_nil
  all_goals simp [plainText, plainText?, integer, flag]

theorem ClusterSettings.ofForm_ne_wrong_nil (form : Json.Members) :
    ClusterSettings.ofForm form ≠ .wrong [] := by
  unfold ClusterSettings.ofForm
  repeat' apply Checked.also_ne_wrong_nil
  all_goals simp [plainText, plainText?, real, flag]

theorem WarehouseSettings.ofForm_ne_wrong_nil (form : Json.Members) :
    WarehouseSettings.ofForm form ≠ .wrong [] := by
  unfold WarehouseSettings.ofForm
  repeat' apply Checked.also_ne_wrong_nil
  all_goals simp [plainText, plainText?, integer]

@[simp]
theorem givesReasons_idList : GivesReasons idList := by
  intro value
  unfold idList
  split
  · exact Checked.ok_ne_wrong_nil _
  · exact givesReasons_list (givesReasons_text id 0) _

theorem AuditSettings.ofForm_ne_wrong_nil (form : Json.Members) :
    AuditSettings.ofForm form ≠ .wrong [] := by
  unfold AuditSettings.ofForm
  repeat' apply Checked.also_ne_wrong_nil
  all_goals simp [integer, flag, real]

theorem ObservabilitySettings.ofForm_ne_wrong_nil (form : Json.Members) :
    ObservabilitySettings.ofForm form ≠ .wrong [] := by
  unfold ObservabilitySettings.ofForm
  repeat' apply Checked.also_ne_wrong_nil
  all_goals simp [plainText, flag]

@[simp]
theorem givesReasons_environmentReader : GivesReasons environmentReader := by
  intro value
  unfold environmentReader
  split
  · split
    · exact Checked.ok_ne_wrong_nil _
    · exact refuse_ne_wrong_nil _
  · exact refuse_ne_wrong_nil _

theorem Settings.ofForm_ne_wrong_nil (form : Json.Members) : Settings.ofForm form ≠ .wrong [] := by
  unfold Settings.ofForm
  repeat' apply Checked.also_ne_wrong_nil
  all_goals simp [plainText, DatabaseSettings.ofForm_ne_wrong_nil,
    ClusterSettings.ofForm_ne_wrong_nil, WarehouseSettings.ofForm_ne_wrong_nil,
    AuditSettings.ofForm_ne_wrong_nil, ObservabilitySettings.ofForm_ne_wrong_nil]

end StreamAudit
