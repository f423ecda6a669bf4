import StreamAudit.Backend.Warehouse
import StreamAudit.Proofs.Address.Parts

/-!
The database in memory can be opened. An address that is nothing but a dialect is read as that
dialect (`parse_dialect`), so the shortest address of a database in memory names no user, no host
and no option.
-/

set_option autoImplicit false
set_option relaxedAutoImplicit false

namespace StreamAudit

open StreamAudit.Text

namespace Address

/-- An address of a dialect alone has no other part. -/
theorem parse_dialect {dialect : List Char} (hdialect : ∀ c ∈ dialect, isDialectChar c = true)
    (hne : dialect ≠ []) : parse (dialect ++ [':', '/', '/']) =
      .ok ⟨dialect, none, none, none, none, none, []⟩ := by
  have hcredentials : credentials [] = (none, none, []) := rfl
  have hhost : hostOf [] = (none, []) := rfl
  have hport : portText [] = ((none : Option Int).map fun n ↦ (toString n).toList, []) := rfl
  have hdatabase : databaseText [] = (none, []) := rfl
  exact parse_of_parts hdialect hne hcredentials hhost hport nofun hdatabase

end Address

namespace Backend.Opening

theorem attempt_memory : attempt (some "sqlite+aiosqlite://") = .ok () := by
  have hdialect : ∀ c ∈ memoryDialect, Address.isDialectChar c = true :=
    Address.isDialectChar_of_all (by decide +kernel)
  have htext : "sqlite+aiosqlite://".toList = memoryDialect ++ [':', '/', '/'] := by decide +kernel
  have hne : memoryDialect ≠ [] := by decide +kernel
  have hparse := Address.parse_dialect hdialect hne
  rw [← htext] at hparse
  rw [attempt]
  · simp only [hparse]
    rfl
  · decide

end Backend.Opening

/-- A warehouse in memory can be opened where no driver but the one for such databases is
installed. -/
theorem Backend.Warehouse.Connection.opens_memory {connection : Connection}
    (hopens : connection.opens = Opening.attempt)
    (hurl : connection.url = some "sqlite+aiosqlite://") :
    connection.opens connection.url = .ok () := by
  rw [hopens, hurl, Opening.attempt_memory]

end StreamAudit
