import SheetFormula.Proofs.Zone.ForeignDigits
import SheetFormula.Proofs.Zone.Resolution

/-!
# The known zones as a database

What is asked of the databases of other results holds of the known zones.

## Main results

* `SheetFormula.Zone.mem_knownZones` — the zones of the database are those of the table.
* `SheetFormula.Zone.isOrdinary_known`, `SheetFormula.Zone.hasCivilChanges_known`,
  `SheetFormula.Zone.hasAsciiNames_known` — the known zones and their names.
-/

set_option relaxedAutoImplicit false
set_option autoImplicit false

namespace SheetFormula.Zone

/-- The zones of the database are those of the table. -/
lemma mem_knownZones {name : String} {table : OffsetTable} (htable : known name = some table) :
    (name, table) ∈ knownZones := by
  obtain ⟨before, behind, hzones, -⟩ := List.lookup_eq_some_iff.mp htable
  rw [hzones]
  exact List.mem_append_right before List.mem_cons_self

/-- **The known zones are ordinary.** -/
theorem isOrdinary_known : known.Forall OffsetTable.IsOrdinary := by
  intro name table htable
  have hall : ∀ entry ∈ knownZones, entry.2.IsOrdinary := by decide +kernel
  exact hall _ (mem_knownZones htable)

/-- **The known zones change in years of four digits.** -/
theorem hasCivilChanges_known : known.Forall OffsetTable.HasCivilChanges := by
  intro name table htable
  have hall : ∀ entry ∈ knownZones, entry.2.HasCivilChanges := by decide +kernel
  exact hall _ (mem_knownZones htable)

/-- **The names of the known zones are ASCII.** -/
theorem hasAsciiNames_known : known.HasAsciiNames := by
  intro name table htable
  have hall : ∀ entry ∈ knownZones, Text.isAscii entry.1.toList := by decide +kernel
  exact hall _ (mem_knownZones htable)

end SheetFormula.Zone
