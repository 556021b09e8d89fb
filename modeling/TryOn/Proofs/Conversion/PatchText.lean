import TryOn.Conversion.Encoding
import TryOn.Proofs.Data.JsonText
import TryOn.Proofs.Timestamp.Text

/-! Patches written as text and read back. A label is written alone, so that text cannot tell the
edit that clears it from the one that keeps it: it is read as the latter. Nothing else is lost. -/

set_option autoImplicit false

namespace TryOn

open Data (required optional asText? asNat? Slot)

namespace StyleEdit

/-- What an edit is read as where it is written by its label alone. -/
def asRead : StyleEdit → StyleEdit
  | .clear => .keep
  | edit => edit

theorem asRead_eq_self_iff (edit : StyleEdit) : edit.asRead = edit ↔ edit ≠ .clear := by
  cases edit <;> simp [asRead]

theorem apply_asRead_eq_iff (edit : StyleEdit) (style : Option String) :
    edit.asRead.apply style = edit.apply style ↔ (edit = .clear → style = none) := by
  cases edit <;> simp [asRead, apply]

theorem optional_toData (edit : StyleEdit) (slots : List Slot) :
    (optional ofData?).run (.filled edit.toData :: slots)
      = some (if edit = .clear ∨ edit = .keep then none else some edit, slots) := by
  cases edit <;> rfl

theorem optional_toTaggedData (edit : StyleEdit) (slots : List Slot) :
    (optional ofTaggedData?).run (.filled edit.toTaggedData :: slots)
      = some (if edit = .keep then none else some edit, slots) := by
  cases edit <;> rfl

end StyleEdit

namespace Patch

structure Valid (patch : Patch) : Prop where
  processingMillis : ∀ millis ∈ patch.processingMillis, millis < 2 ^ 64
  completedAt : ∀ moment ∈ patch.completedAt, moment.Valid
  updatedAt : patch.updatedAt.Valid

theorem decode?_encode {patch : Patch} (valid : patch.Valid) {write : StyleEdit → Data}
    {read : Data → Option StyleEdit} {style : Option StyleEdit}
    (styleRead : ∀ slots, (optional read).run (.filled (write patch.style) :: slots)
      = some (style, slots)) :
    decode? read (encode write patch) = some { patch with style := style.getD .keep } := by
  rw [decode?, encode, Data.openRecord_ofFields (by rfl) (by decide)]
  have expected := Data.required_filled (Status.ofData?_toData patch.expected)
  have status := Data.optional_ofOption patch.status
    (fun one _ => Status.ofData?_toData one) (fun one _ => by simp [Status.toData])
  have result := Data.optional_ofOption patch.result
    (fun one _ => Id.ofData?_toData one) (fun one _ => by simp [Id.toData])
  have text (label : String) : asText? (.text label) = some label := rfl
  have failure := Data.optional_ofOption patch.failure (fun one _ => text one)
    (fun one _ => by simp)
  have millis := Data.optional_ofOption patch.processingMillis
    (fun one inside => Data.asNat?_ofNat (valid.processingMillis one inside))
    (fun one _ => by simp [Data.ofNat])
  have completed := Data.optional_ofOption patch.completedAt
    (fun one inside => Timestamp.ofData?_toData (valid.completedAt one inside))
    (fun one _ => by simp [Timestamp.toData])
  have updated := Data.required_filled (Timestamp.ofData?_toData valid.updatedAt)
  simp only [List.map_cons, List.map_nil, StateT.run'_eq, StateT.run_bind, expected, status,
    styleRead, result, failure, millis, completed, updated, StateT.run_pure, Option.bind_eq_bind,
    Option.bind_some, Option.pure_def, Option.map_eq_map, Option.map_some]

theorem exact_encode {patch : Patch} (valid : patch.Valid) {write : StyleEdit → Data}
    (style : Data.Exact (write patch.style)) : Data.Exact (encode write patch) := by
  refine .ofFields fun field inside => ?_
  simp only [List.mem_cons, List.not_mem_nil, or_false] at inside
  rcases inside with rfl | rfl | rfl | rfl | rfl | rfl | rfl | rfl
  · exact .text _
  · exact .ofOption fun _ _ => .text _
  · exact style
  · exact .ofOption fun _ _ => .text _
  · exact .ofOption fun _ _ => .text _
  · exact .ofOption fun one inside => .ofNat (valid.processingMillis one inside)
  · exact .ofOption fun _ _ => .text _
  · exact .text _

def text (patch : Patch) : String :=
  patch.toData.json

def ofText? (text : String) : Option Patch :=
  (Data.Json.ofText? text).bind ofData?

theorem ofText?_text {patch : Patch} (valid : patch.Valid) :
    ofText? patch.text = some { patch with style := patch.style.asRead } := by
  have whole : Data.Exact patch.toData := exact_encode valid (by cases patch.style <;> constructor)
  have decoded : ofData? patch.toData = some { patch with style := patch.style.asRead } := by
    rw [ofData?, toData, decode?_encode valid fun slots => StyleEdit.optional_toData _ slots]
    cases patch.style <;> rfl
  rw [ofText?, text, Data.json, Data.Json.ofText?_write whole, Option.bind_some, decoded]

theorem ofTaggedData?_toTaggedData {patch : Patch} (valid : patch.Valid) :
    ofTaggedData? patch.toTaggedData = some patch := by
  rw [ofTaggedData?, toTaggedData,
    decode?_encode valid fun slots => StyleEdit.optional_toTaggedData _ slots]
  obtain ⟨_, _, style, _, _, _, _, _⟩ := patch
  cases style <;> rfl

/-- A patch that is read back from its text is the same patch, and does the same to every
conversion, unless it clears a label; and that shows on the conversions that have one. -/
theorem read_back_iff {patch : Patch} (valid : patch.Valid) :
    ∃ found, ofText? patch.text = some found
      ∧ (found = patch ↔ patch.style ≠ .clear)
      ∧ ∀ record : Conversion, record.apply found = record.apply patch
        ↔ (patch.style = .clear → record.style = none) := by
  refine ⟨_, ofText?_text valid, ?_, fun record => ?_⟩
  · rw [← StyleEdit.asRead_eq_self_iff]
    exact ⟨congrArg style, fun same => by rw [same]⟩
  · rw [← StyleEdit.apply_asRead_eq_iff]
    exact ⟨congrArg Conversion.style, fun same => by simp [Conversion.apply, same]⟩

theorem valid_relabel (style : Option String) : (relabel style ⟨0, 0⟩).Valid := by
  refine ⟨?_, ?_, by show Timestamp.Valid ⟨0, 0⟩; decide⟩ <;> rintro _ ⟨⟩

theorem new_label_reads_back :
    (relabel (some "noir") ⟨0, 0⟩).Valid
      ∧ ofText? (relabel (some "noir") ⟨0, 0⟩).text = some (relabel (some "noir") ⟨0, 0⟩) := by
  obtain ⟨found, read, same, -⟩ := read_back_iff (valid_relabel (some "noir"))
  exact ⟨valid_relabel _, by rw [read, same.2 (by decide)]⟩

/-- The patch that takes a label off is read back as one that leaves it on. -/
theorem no_label_reads_as_kept :
    ofText? (relabel none ⟨0, 0⟩).text = some { relabel none ⟨0, 0⟩ with style := .keep }
      ∧ ¬ ∀ (patch : Patch), patch.Valid → ofText? patch.text = some patch := by
  have read := ofText?_text (valid_relabel none)
  refine ⟨read, fun always => ?_⟩
  rw [always _ (valid_relabel none)] at read
  exact absurd (Option.some.inj read) (by decide)

end Patch

end TryOn
