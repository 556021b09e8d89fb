import Mathlib
import TryOn.Data.Decode

/-! Tables have their keys in ascending order, and putting a field into a table keeps them so. A
table in that order is the table of its own fields. A record that is written with a field for each
of its names is read from these fields, in the order of the names. What holds of all that a field is
read to holds of it in every record that is read. -/

set_option autoImplicit false

namespace TryOn

namespace Data

def Ordered (fields : List (String × Data)) : Prop :=
  fields.Pairwise fun first second => first.1 < second.1

theorem mem_setField {fields : List (String × Data)} {key : String} {value : Data}
    {field : String × Data} (inside : field ∈ setField fields key value) :
    field = (key, value) ∨ field ∈ fields := by
  induction fields with
  | nil => exact .inl (by simpa [setField] using inside)
  | cons head rest ih =>
    obtain ⟨other, old⟩ := head
    unfold setField at inside
    split at inside
    · exact (List.mem_cons.1 inside).imp_right (List.mem_cons_of_mem _)
    · split at inside
      · exact List.mem_cons.1 inside
      · rcases List.mem_cons.1 inside with rfl | later
        · exact .inr List.mem_cons_self
        · exact (ih later).imp_right (List.mem_cons_of_mem _)

theorem ordered_setField {fields : List (String × Data)} (ordered : Ordered fields) (key : String)
    (value : Data) : Ordered (setField fields key value) := by
  induction fields with
  | nil => simp [Ordered, setField]
  | cons head rest ih =>
    obtain ⟨other, old⟩ := head
    obtain ⟨above, behind⟩ := List.pairwise_cons.1 ordered
    unfold setField
    split
    · rename_i same
      exact List.pairwise_cons.2 ⟨fun field later => same ▸ above field later, behind⟩
    · split
      · rename_i before
        refine List.pairwise_cons.2 ⟨fun field later => ?_, ordered⟩
        rcases List.mem_cons.1 later with rfl | later
        · exact before
        · exact String.lt_trans before (above field later)
      · rename_i differ before
        have after : other < key := by
          rcases String.le_total key other with less | more
          · exact absurd (String.le_antisymm less (String.not_lt.1 before)) differ
          · exact String.not_le.1 fun less => differ (String.le_antisymm less more)
        refine List.pairwise_cons.2 ⟨fun field later => ?_, ih behind⟩
        rcases mem_setField later with rfl | old
        · exact after
        · exact above field old

theorem setField_of_above {fields : List (String × Data)} {key : String} (value : Data)
    (above : ∀ field ∈ fields, field.1 < key) :
    setField fields key value = fields ++ [(key, value)] := by
  induction fields with
  | nil => rfl
  | cons head rest ih =>
    obtain ⟨other, old⟩ := head
    have less : other < key := above (other, old) List.mem_cons_self
    have differ : key ≠ other := fun same => String.lt_irrefl other (same ▸ less)
    have before : ¬ key < other := fun more => String.lt_irrefl key (String.lt_trans more less)
    rw [setField, if_neg differ, if_neg before,
      ih fun field later => above field (List.mem_cons_of_mem _ later)]
    rfl

theorem ofFields_of_ordered {fields : List (String × Data)} (ordered : Ordered fields) :
    ofFields fields = .table fields := by
  -- Put in one after another, each field comes behind all that are there.
  have onto (table fields : List (String × Data)) (ordered : Ordered (table ++ fields)) :
      fields.foldl (fun table field => setField table field.1 field.2) table = table ++ fields := by
    induction fields generalizing table with
    | nil => simp
    | cons head rest ih =>
      have above : ∀ field ∈ table, field.1 < head.1 := fun field inside =>
        (List.pairwise_append.1 ordered).2.2 field inside head List.mem_cons_self
      rw [List.foldl_cons, setField_of_above head.2 above,
        ih (table ++ [head]) (by simpa using ordered)]
      simp
  exact congrArg Data.table (onto [] fields ordered)

theorem field?_foldl_setField (table : List (String × Data)) {fields : List (String × Data)}
    (distinct : (fields.map Prod.fst).Nodup) (key : String) :
    field? (fields.foldl (fun table field => setField table field.1 field.2) table) key
      = (fields.lookup key).or (field? table key) := by
  induction fields generalizing table with
  | nil => rfl
  | cons head rest ih =>
    obtain ⟨other, value⟩ := head
    obtain ⟨absent, distinct⟩ := List.nodup_cons.1 distinct
    rw [List.foldl_cons, ih _ distinct]
    by_cases same : key = other
    · subst same
      have nowhere : rest.lookup key = none := by
        refine List.lookup_eq_none_iff.2 fun field inside => bne_iff_ne.2 fun same => ?_
        exact absent (List.mem_map.2 ⟨field, inside, same.symm⟩)
      simp [nowhere, field?_setField_self]
    · have differ : (key == other) = false := by simpa using same
      simp [List.lookup_cons, differ, field?_setField_ne table value same]

theorem lookup_of_mem {fields : List (String × Data)} (distinct : (fields.map Prod.fst).Nodup)
    {field : String × Data} (inside : field ∈ fields) :
    fields.lookup field.1 = some field.2 := by
  induction fields with
  | nil => cases inside
  | cons head rest ih =>
    obtain ⟨key, value⟩ := head
    obtain ⟨absent, distinct⟩ := List.nodup_cons.1 distinct
    rcases List.mem_cons.1 inside with rfl | later
    · simp
    · have differ : (field.1 == key) = false := beq_eq_false_iff_ne.2 fun same =>
        absent (List.mem_map.2 ⟨field, later, same⟩)
      simp [List.lookup_cons, differ, ih distinct later]

theorem slots?_ofFields {fields : List (String × Data)} (distinct : (fields.map Prod.fst).Nodup)
    (excess : Excess) :
    slots? (fields.map Prod.fst) false excess (ofFields fields)
      = some (fields.map fun field => .filled field.2) := by
  simp only [slots?, ofFields, Bool.false_and, Bool.false_eq_true, if_false, Option.some.injEq,
    List.map_map]
  refine List.map_congr_left fun field inside => ?_
  simp [field?_foldl_setField [] distinct, lookup_of_mem distinct inside]

theorem openRecord_ofFields {α : Type} {names : List String} {fields : List (String × Data)}
    (complete : fields.map Prod.fst = names) (distinct : names.Nodup) (reader : FieldReader α) :
    openRecord names reader (ofFields fields)
      = reader.run' (fields.map fun field => .filled field.2) := by
  subst complete
  simp [openRecord, slots?_ofFields distinct]

theorem asNat?_ofNat {bits value : Nat} (room : value < 2 ^ bits) :
    asNat? bits (ofNat value) = some value := by
  have most : (value : Int) < Int.pow 2 bits := by
    show (value : Int) < 2 ^ bits
    exact_mod_cast room
  exact if_pos ⟨Int.natCast_nonneg value, most⟩

theorem lt_of_asNat? {bits value : Nat} {data : Data} (read : asNat? bits data = some value) :
    value < 2 ^ bits := by
  cases data with
  | int whole =>
    simp only [asNat?] at read
    split_ifs at read with fits
    obtain rfl := Option.some.inj read
    have bound : whole < 2 ^ bits := fits.2
    have same : (whole.toNat : Int) = whole := Int.toNat_of_nonneg fits.1
    exact_mod_cast same ▸ bound
  | _ => cases read

theorem required_filled {α : Type} {decode : Data → Option α} {value : Data} {one : α}
    (read : decode value = some one) (slots : List Slot) :
    (required decode).run (.filled value :: slots) = some (one, slots) := by
  show (decode value).bind (fun one => some (one, slots)) = _
  rw [read]
  rfl

/-- An optional field is read as it is written, if no value of it is written as null. -/
theorem optional_ofOption {α : Type} {decode : Data → Option α} {encode : α → Data}
    (value : Option α) (read : ∀ one ∈ value, decode (encode one) = some one)
    (solid : ∀ one ∈ value, encode one ≠ .null) (slots : List Slot) :
    (optional decode).run (.filled (ofOption encode value) :: slots) = some (value, slots) := by
  cases value with
  | none => rfl
  | some one =>
    have written := solid one rfl
    -- Only null is read as a field without a value, and no value is written so.
    have step : (optional decode).run (.filled (encode one) :: slots)
        = ((decode (encode one)).map some).bind fun found => some (found, slots) := by
      generalize encode one = data at written
      cases data with
      | null => exact absurd rfl written
      | _ => rfl
    rw [ofOption, step, read one rfl]
    rfl

section

variable {α β : Type} {first : FieldReader α} {next : α → FieldReader β}

/-- Whether a reader reads nothing but values of a kind, whatever the slots hold. -/
def Yields (reader : FieldReader α) (kind : α → Prop) : Prop :=
  ∀ slots one rest, reader.run slots = some (one, rest) → kind one

theorem yields_bind {kind : α → Prop} {kind' : β → Prop} (begins : Yields first kind)
    (goesOn : ∀ one, kind one → Yields (next one) kind') : Yields (first >>= next) kind' := by
  intro slots two rest read
  rw [StateT.run_bind] at read
  obtain ⟨⟨one, later⟩, read, read'⟩ := Option.bind_eq_some_iff.1 read
  exact goesOn one (begins slots one later read) later two rest read'

theorem yields_bind_of_forall {kind : β → Prop} (goesOn : ∀ one, Yields (next one) kind) :
    Yields (first >>= next) kind :=
  yields_bind (fun _ _ _ _ => trivial) fun one (_ : True) => goesOn one

theorem yields_pure {kind : α → Prop} {one : α} (good : kind one) : Yields (pure one) kind := by
  intro slots one' rest read
  obtain ⟨rfl, -⟩ := Prod.mk.inj (Option.some.inj read)
  exact good

theorem yields_lift {kind : α → Prop} {found? : Option α} (good : ∀ one ∈ found?, kind one) :
    Yields (StateT.lift found?) kind := by
  intro slots one rest read
  obtain ⟨one', found, same⟩ := Option.bind_eq_some_iff.1 read
  obtain ⟨rfl, -⟩ := Prod.mk.inj (Option.some.inj same)
  exact good one' found

theorem yields_required {kind : α → Prop} {decode : Data → Option α}
    (decoded : ∀ value, ∀ one ∈ decode value, kind one) : Yields (required decode) kind := by
  refine yields_bind_of_forall fun slot => ?_
  cases slot with
  | filled value => exact yields_lift (decoded value)
  | absent | beyond => exact yields_lift (by simp)

theorem closedRecord_of_yields (kind : α → Prop) {reader : FieldReader α}
    (yields : Yields reader kind) {excess : Excess} {names : List String} {data : Data} {one : α}
    (read : closedRecord excess names reader data = some one) : kind one := by
  obtain ⟨slots, -, found⟩ := Option.bind_eq_some_iff.1 read
  replace found : (reader.run slots).map Prod.fst = some one := found
  obtain ⟨⟨one', rest⟩, ran, rfl⟩ := Option.map_eq_some_iff.1 found
  exact yields slots one' rest ran

end

end Data

end TryOn
