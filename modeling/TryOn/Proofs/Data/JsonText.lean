import TryOn.Data.Json
import TryOn.Proofs.Data.Table
import TryOn.Proofs.Text.Numeral

/-! Data written as JSON text and read back. Nothing is lost but what the text cannot hold:
fractions are left aside here, whole numbers have to fit 64 bits, and a table has its keys in
order. -/

set_option autoImplicit false

namespace TryOn

namespace Data

inductive Exact : Data → Prop
  | null : Exact .null
  | bool (value : Bool) : Exact (.bool value)
  | int {value : Int} (fits : Json.fitsWord value = true) : Exact (.int value)
  | text (value : String) : Exact (.text value)
  | list {items : List Data} (each : ∀ item ∈ items, Exact item) : Exact (.list items)
  | table {fields : List (String × Data)} (ordered : Ordered fields)
    (each : ∀ field ∈ fields, Exact field.2) : Exact (.table fields)

theorem Exact.ofFields {fields : List (String × Data)} (each : ∀ field ∈ fields, Exact field.2) :
    Exact (Data.ofFields fields) := by
  have onto (table fields : List (String × Data)) (ordered : Ordered table)
      (old : ∀ field ∈ table, Exact field.2) (new : ∀ field ∈ fields, Exact field.2) :
      Exact (.table (fields.foldl (fun table field => setField table field.1 field.2) table)) := by
    induction fields generalizing table with
    | nil => exact .table ordered old
    | cons head rest ih =>
      refine ih _ (ordered_setField ordered _ _) (fun field inside => ?_)
        fun field later => new field (List.mem_cons_of_mem _ later)
      rcases mem_setField inside with rfl | inside
      · exact new head List.mem_cons_self
      · exact old field inside
  exact onto [] fields List.Pairwise.nil (by simp) each

theorem Exact.ofOption {α : Type} {encode : α → Data} {value : Option α}
    (each : ∀ one ∈ value, Exact (encode one)) : Exact (Data.ofOption encode value) := by
  cases value with
  | none => exact .null
  | some one => exact each one rfl

theorem Exact.ofNat {value : Nat} (fits : value < 2 ^ 64) : Exact (Data.ofNat value) := by
  have least : Int.pow 2 63 = 2 ^ 63 := rfl
  have most : Int.pow 2 64 = 2 ^ 64 := rfl
  refine .int ?_
  simp only [Json.fitsWord, Bool.and_eq_true, decide_eq_true_eq, least, most]
  omega

namespace Json

def Follows (rest : List Char) : Prop :=
  ∀ c ∈ rest.head?, c = ',' ∨ c = ']' ∨ c = '}'

theorem follows_cons {c : Char} (mark : c = ',' ∨ c = ']' ∨ c = '}') (rest : List Char) :
    Follows (c :: rest) := by
  rintro _ ⟨⟩
  exact mark

theorem follows_nil : Follows [] := by
  rintro _ ⟨⟩

theorem Follows.ends {rest : List Char} (follows : Follows rest) : Text.Ends rest := by
  intro c first
  rcases follows c first with rfl | rfl | rfl <;> rfl

theorem skipSpace_cons {c : Char} (solid : isSpace c = false) (rest : List Char) :
    skipSpace (c :: rest) = c :: rest := by
  simp [skipSpace, solid]

section Strings

def inString (oneLine : Bool) (c : Char) : List Char :=
  match escape? c with
  | some escaped => escaped
  | none => if oneLine && endsLine c then '\\' :: 'u' :: Text.fixedDigits 16 4 c.toNat else [c]

theorem stringBody_plain {c : Char} (quote : c ≠ '"') (backslash : c ≠ '\\') (rest : List Char) :
    stringBody (c :: rest)
      = if c.toNat < 0x20 then none
        else (stringBody rest).map fun part => (c :: part.1, part.2) := by
  rw [stringBody.eq_def]
  split <;> simp_all

/-- Four digits of a character that is no half of a pair stand for that character. -/
theorem stringBody_digits {c : Char} (low : c.toNat < 0xD800) (rest : List Char) :
    stringBody ('\\' :: 'u' :: Text.fixedDigits 16 4 c.toNat ++ rest)
      = (stringBody rest).map fun part => (c :: part.1, part.2) := by
  have value : Text.digitsValue? 16 (Text.fixedDigits 16 4 c.toNat) = some c.toNat :=
    Text.digitsValue?_fixedDigits (by show _ < 65536; omega) (by decide)
  have notHigh : isHighSurrogate c.toNat = false := by simp [isHighSurrogate]; omega
  have notLow : isLowSurrogate c.toNat = false := by simp [isLowSurrogate]; omega
  simp only [Text.fixedDigits, List.nil_append, List.cons_append] at value ⊢
  simp [stringBody, value, notHigh, notLow, Char.ofNat_toNat]

theorem stringBody_inString (oneLine : Bool) (c : Char) (rest : List Char) :
    stringBody (inString oneLine c ++ rest)
      = (stringBody rest).map fun part => (c :: part.1, part.2) := by
  unfold inString
  split
  · rename_i escaped known
    unfold escape? at known
    split at known
    all_goals try
      obtain rfl := Option.some.inj known
      simp [stringBody, simpleEscape?]
    split at known
    · obtain rfl := Option.some.inj known
      exact stringBody_digits (by omega) rest
    · cases known
  · rename_i plain
    split
    · rename_i lineEnd
      have low : c.toNat < 0xD800 := by
        simp only [Bool.and_eq_true, endsLine, Bool.or_eq_true, decide_eq_true_eq] at lineEnd
        rcases lineEnd.2 with (rfl | rfl) | rfl <;> decide
      exact stringBody_digits low rest
    · have quote : c ≠ '"' := by rintro rfl; cases plain
      have backslash : c ≠ '\\' := by rintro rfl; cases plain
      have visible : ¬ c.toNat < 0x20 := by
        intro control
        unfold escape? at plain
        split at plain <;> simp_all
      rw [List.singleton_append, stringBody_plain quote backslash, if_neg visible]

theorem stringBody_flatMap (oneLine : Bool) (chars rest : List Char) :
    stringBody (chars.flatMap (inString oneLine) ++ '"' :: rest) = some (chars, rest) := by
  induction chars with
  | nil => simp [stringBody]
  | cons c chars ih =>
    rw [List.flatMap_cons, List.append_assoc, stringBody_inString, ih]
    rfl

theorem toList_quoted (oneLine : Bool) (text : String) :
    (quoted oneLine text).toList = '"' :: (text.toList.flatMap (inString oneLine) ++ ['"']) := by
  rw [quoted, String.toList_ofList]
  rfl

end Strings

section Numbers

theorem takeOnto_eq {lead value : Nat} {digits : List Char}
    (read : Text.digitsOnto? 10 lead digits = some value) (fits : value < 2 ^ 64) :
    takeOnto lead digits = (value, 0) := by
  have grows (lead value : Nat) (digits : List Char)
      (read : Text.digitsOnto? 10 lead digits = some value) : lead ≤ value := by
    induction digits generalizing lead with
    | nil => exact Nat.le_of_eq (Option.some.inj read)
    | cons c digits ih =>
      unfold Text.digitsOnto? at read
      split at read
      · have := ih _ read
        omega
      · cases read
  induction digits generalizing lead with
  | nil =>
    obtain rfl := Option.some.inj read
    rfl
  | cons c digits ih =>
    unfold Text.digitsOnto? at read
    split at read
    · rename_i digit known
      have room : lead * 10 + digit < Nat.pow 2 64 := Nat.lt_of_le_of_lt (grows _ _ _ read) fits
      simp [takeOnto, known, room, ih read]
    · cases read

theorem wholeNumber?_toDigits {negative : Bool} {magnitude : Nat}
    (fits : fitsWord (if negative then -(magnitude : Int) else magnitude) = true)
    (positive : negative = true → magnitude ≠ 0) :
    wholeNumber? negative (Nat.toDigits 10 magnitude)
      = some (.int (if negative then -(magnitude : Int) else magnitude)) := by
  have room : magnitude < 2 ^ 64 := by
    have least : Int.pow 2 63 = 2 ^ 63 := rfl
    have most : Int.pow 2 64 = 2 ^ 64 := rfl
    simp only [fitsWord, Bool.and_eq_true, decide_eq_true_eq, least, most] at fits
    split at fits <;> omega
  have digits := Text.digitsOnto?_toDigits 0 magnitude
  rw [Nat.zero_mul, Nat.zero_add] at digits
  simp only [wholeNumber?, takeOnto_eq digits room]
  exact if_pos ⟨trivial, fits, fun both => positive both.1 both.2⟩

theorem unsigned_toDigits (negative : Bool) (magnitude : Nat) {rest : List Char}
    (fits : fitsWord (if negative then -(magnitude : Int) else magnitude) = true)
    (positive : negative = true → magnitude ≠ 0) (follows : Follows rest) :
    unsigned negative (Nat.toDigits 10 magnitude ++ rest)
      = some (.int (if negative then -(magnitude : Int) else magnitude), rest) := by
  have numeral : ∀ c ∈ Nat.toDigits 10 magnitude, c.isDigit = true := fun c inside =>
    Nat.isDigit_of_mem_toDigits (by decide) (by decide) inside
  have taken := Text.takeDigits_append numeral follows.ends
  have filled : (Nat.toDigits 10 magnitude).isEmpty = false := by simp [Nat.toDigits_ne_nil]
  have lean : ¬ (1 < (Nat.toDigits 10 magnitude).length
      ∧ (Nat.toDigits 10 magnitude).head? = some '0') := by
    rintro ⟨long, leads⟩
    obtain rfl := Text.eq_zero_of_head?_toDigits leads
    exact absurd long (by decide)
  have noFraction : Decimal.fractionPart rest = some (none, rest) := by
    unfold Decimal.fractionPart
    split
    · rcases follows '.' rfl with same | same | same <;> cases same
    · rfl
  have noExponent : Decimal.exponentPart rest = some (none, rest) := by
    unfold Decimal.exponentPart
    split
    · rcases follows 'e' rfl with same | same | same <;> cases same
    · rcases follows 'E' rfl with same | same | same <;> cases same
    · rfl
  simp [unsigned, taken, filled, lean, noFraction, noExponent,
    wholeNumber?_toDigits fits positive]

def LeadsNumber (c : Char) : Prop :=
  c = '-' ∨ c.isDigit = true

theorem toDigits_cons (magnitude : Nat) :
    ∃ c rest, Nat.toDigits 10 magnitude = c :: rest ∧ c.isDigit = true := by
  cases shape : Nat.toDigits 10 magnitude with
  | nil => exact absurd shape Nat.toDigits_ne_nil
  | cons c rest =>
    have inside : c ∈ Nat.toDigits 10 magnitude := shape ▸ List.mem_cons_self
    exact ⟨c, rest, rfl, Nat.isDigit_of_mem_toDigits (by decide) (by decide) inside⟩

theorem signedDecimal_cons (n : Int) :
    ∃ c rest, (Text.signedDecimal n).toList = c :: rest ∧ LeadsNumber c := by
  unfold Text.signedDecimal
  split
  · exact ⟨'-', (Text.decimal n.natAbs).toList, by simp, .inl rfl⟩
  · obtain ⟨c, rest, shape, digit⟩ := toDigits_cons n.natAbs
    exact ⟨c, rest, by rw [Text.decimal, String.toList_ofList, shape], .inr digit⟩

theorem number_of_isDigit {c : Char} (digit : c.isDigit = true) (rest : List Char) :
    number (c :: rest) = unsigned false (c :: rest) := by
  have unsignedFirst : c ≠ '-' := by
    rintro rfl
    cases digit
  rw [number.eq_def]
  split
  · rename_i same
    exact absurd (List.cons.inj same).1 unsignedFirst
  · rfl

theorem number_signedDecimal {n : Int} {rest : List Char} (fits : fitsWord n = true)
    (follows : Follows rest) :
    number ((Text.signedDecimal n).toList ++ rest) = some (.int n, rest) := by
  unfold Text.signedDecimal
  split
  · rename_i negative
    have whole : (if true then -(n.natAbs : Int) else n.natAbs) = n := by
      rw [if_pos rfl]
      omega
    have read := unsigned_toDigits true n.natAbs (by rwa [whole])
      (fun _ => by omega) follows
    rw [whole] at read
    simpa [number, Text.decimal] using read
  · rename_i positive
    have whole : (if false then -(n.natAbs : Int) else n.natAbs) = n := by
      rw [if_neg Bool.false_ne_true]
      omega
    have read := unsigned_toDigits false n.natAbs (by rwa [whole])
      (by simp) follows
    rw [whole] at read
    obtain ⟨c, digits, shape, digit⟩ := toDigits_cons n.natAbs
    rw [Text.decimal, String.toList_ofList]
    rw [shape] at read ⊢
    rw [List.cons_append, number_of_isDigit digit, ← List.cons_append, read]

end Numbers

section Values

variable {oneLine : Bool}

theorem isSpace_of_leadsNumber {c : Char} (leads : LeadsNumber c) : isSpace c = false := by
  cases blank : isSpace c with
  | false => rfl
  | true =>
    simp only [isSpace, Bool.or_eq_true, decide_eq_true_eq] at blank
    rcases leads with rfl | digit
    · simp at blank
    · rcases blank with ((rfl | rfl) | rfl) | rfl <;> cases digit

theorem value_of_leadsNumber {c : Char} (leads : LeadsNumber c) (fuel : Nat) (rest : List Char) :
    value (fuel + 1) (c :: rest) = number (c :: rest) := by
  rw [value, skipSpace_cons (isSpace_of_leadsNumber leads)]
  have other (mark : Char) (plain : mark.isDigit = false) (noSign : mark ≠ '-') : c ≠ mark := by
    rintro rfl
    rcases leads with rfl | digit
    · exact noSign rfl
    · rw [digit] at plain
      cases plain
  split
  all_goals
    rename_i same
    first
    | rfl
    | exact absurd (List.cons.inj same).1 (other _ rfl (by decide))

def written (oneLine : Bool) (data : Data) : List Char :=
  (write oneLine data).toList

/-- What is written for a value begins with no blank and with no closing bracket. -/
theorem written_cons (oneLine : Bool) {data : Data} (whole : Exact data) :
    ∃ c rest, written oneLine data = c :: rest ∧ isSpace c = false ∧ c ≠ ']' := by
  cases whole with
  | null => exact ⟨'n', "ull".toList, by rw [written, write]; rfl, rfl, by decide⟩
  | bool value =>
    cases value with
    | false => exact ⟨'f', "alse".toList, by rw [written, write]; rfl, rfl, by decide⟩
    | true => exact ⟨'t', "rue".toList, by rw [written, write]; rfl, rfl, by decide⟩
  | @int n fits =>
    obtain ⟨c, rest, shape, leads⟩ := signedDecimal_cons n
    refine ⟨c, rest, by rw [written, write, shape], isSpace_of_leadsNumber leads, ?_⟩
    rintro rfl
    rcases leads with same | digit
    · cases same
    · cases digit
  | text value => exact ⟨'"', _, by rw [written, write, toList_quoted], rfl, by decide⟩
  | list each => exact ⟨'[', _, by rw [written, write]; simp; rfl, rfl, by decide⟩
  | table ordered each => exact ⟨'{', _, by rw [written, write]; simp; rfl, rfl, by decide⟩

theorem writeItems_eq (items : List Data) :
    writeItems oneLine items = items.map (write oneLine) := by
  induction items with
  | nil => rfl
  | cons head rest ih => rw [writeItems, ih, List.map_cons]

theorem writeMembers_eq (fields : List (String × Data)) :
    writeMembers oneLine fields
      = fields.map fun field => quoted oneLine field.1 ++ ":" ++ write oneLine field.2 := by
  induction fields with
  | nil => rfl
  | cons head rest ih => rw [writeMembers, ih, List.map_cons]

theorem written_list (items : List Data) :
    written oneLine (.list items)
      = '[' :: ([','].intercalate (items.map (written oneLine)) ++ [']']) := by
  have each : written oneLine = fun item => (write oneLine item).toList := rfl
  rw [written, write, writeItems_eq]
  simp [String.toList_intercalate, Function.comp_def, each]

def member (oneLine : Bool) (field : String × Data) : List Char :=
  (quoted oneLine field.1).toList ++ ':' :: written oneLine field.2

theorem written_table (fields : List (String × Data)) :
    written oneLine (.table fields)
      = '{' :: ([','].intercalate (fields.map (member oneLine)) ++ ['}']) := by
  rw [written, write, writeMembers_eq]
  have each : (fun field => member oneLine field)
      = fun field => (quoted oneLine field.1 ++ ":" ++ write oneLine field.2).toList := by
    funext field
    simp [member, written]
  simp [String.toList_intercalate, Function.comp_def, each]

/-- Whatever calls are left beyond the length of its text, a value is read back from it. -/
def Reads (oneLine : Bool) (data : Data) : Prop :=
  ∀ fuel rest, 2 * (written oneLine data).length < fuel → Follows rest →
    value fuel (written oneLine data ++ rest) = some (data, rest)

theorem items_last {item : Data} (reads : Reads oneLine item) {fuel : Nat}
    (enough : 2 * (written oneLine item).length < fuel) (behind : List Char) :
    items (fuel + 1) (written oneLine item ++ ']' :: behind) = some ([item], behind) := by
  have read := reads fuel (']' :: behind) enough (follows_cons (by simp) _)
  simp [items, read, skipSpace_cons (c := ']') rfl]

theorem items_comma {item : Data} (reads : Reads oneLine item) {fuel : Nat}
    (enough : 2 * (written oneLine item).length < fuel) (chars : List Char) :
    items (fuel + 1) (written oneLine item ++ ',' :: chars)
      = (items fuel chars).map fun part => (item :: part.1, part.2) := by
  have read := reads fuel (',' :: chars) enough (follows_cons (by simp) _)
  simp [items, read, skipSpace_cons (c := ',') rfl]

theorem items_write {head : Data} {rest : List Data}
    (each : ∀ item ∈ head :: rest, Reads oneLine item) {fuel : Nat} (behind : List Char)
    (enough : 2 * ([','].intercalate
      ((head :: rest).map (written oneLine))).length + 1 < fuel) :
    items fuel ([','].intercalate ((head :: rest).map (written oneLine))
      ++ ']' :: behind) = some (head :: rest, behind) := by
  induction rest generalizing head fuel with
  | nil =>
    obtain ⟨fuel, rfl⟩ : ∃ less, fuel = less + 1 := ⟨fuel - 1, by omega⟩
    simp only [List.map_cons, List.map_nil, List.intercalate_singleton] at enough ⊢
    exact items_last (each head List.mem_cons_self) (by omega) behind
  | cons next rest ih =>
    obtain ⟨fuel, rfl⟩ : ∃ less, fuel = less + 1 := ⟨fuel - 1, by omega⟩
    have later := @ih next (fun item inside => each item (List.mem_cons_of_mem _ inside)) fuel
    rw [List.map_cons, List.map_cons, List.intercalate_cons_cons, ← List.map_cons] at enough ⊢
    simp only [List.append_assoc, List.length_append, List.length_cons,
      List.cons_append, List.nil_append] at enough ⊢
    rw [items_comma (each head List.mem_cons_self) (by omega), later (by omega)]
    rfl

theorem length_write_lt_member (oneLine : Bool) (field : String × Data) :
    (written oneLine field.2).length < (member oneLine field).length := by
  rw [member, List.length_append, List.length_cons]
  omega

theorem members_last {field : String × Data} (reads : Reads oneLine field.2) {fuel : Nat}
    (enough : 2 * (member oneLine field).length < fuel) (behind : List Char) :
    members (fuel + 1) (member oneLine field ++ '}' :: behind) = some ([field], behind) := by
  have long := length_write_lt_member oneLine field
  have read := reads fuel ('}' :: behind) (by omega) (follows_cons (by simp) _)
  rw [member, toList_quoted]
  simp [members, skipSpace_cons (c := '"') rfl, stringBody_flatMap, skipSpace_cons (c := ':') rfl,
    read, skipSpace_cons (c := '}') rfl]

theorem members_comma {field : String × Data} (reads : Reads oneLine field.2) {fuel : Nat}
    (enough : 2 * (member oneLine field).length < fuel) (chars : List Char) :
    members (fuel + 1) (member oneLine field ++ ',' :: chars)
      = (members fuel chars).map fun part => (field :: part.1, part.2) := by
  have long := length_write_lt_member oneLine field
  have read := reads fuel (',' :: chars) (by omega) (follows_cons (by simp) _)
  rw [member, toList_quoted]
  simp [members, skipSpace_cons (c := '"') rfl, stringBody_flatMap, skipSpace_cons (c := ':') rfl,
    read, skipSpace_cons (c := ',') rfl]

theorem members_write {head : String × Data} {rest : List (String × Data)}
    (each : ∀ field ∈ head :: rest, Reads oneLine field.2) {fuel : Nat} (behind : List Char)
    (enough : 2 * ([','].intercalate ((head :: rest).map (member oneLine))).length + 1 < fuel) :
    members fuel ([','].intercalate ((head :: rest).map (member oneLine)) ++ '}' :: behind)
      = some (head :: rest, behind) := by
  induction rest generalizing head fuel with
  | nil =>
    obtain ⟨fuel, rfl⟩ : ∃ less, fuel = less + 1 := ⟨fuel - 1, by omega⟩
    simp only [List.map_cons, List.map_nil, List.intercalate_singleton] at enough ⊢
    exact members_last (each head List.mem_cons_self) (by omega) behind
  | cons next rest ih =>
    obtain ⟨fuel, rfl⟩ : ∃ less, fuel = less + 1 := ⟨fuel - 1, by omega⟩
    have later := @ih next (fun field inside => each field (List.mem_cons_of_mem _ inside)) fuel
    rw [List.map_cons, List.map_cons, List.intercalate_cons_cons, ← List.map_cons] at enough ⊢
    simp only [List.append_assoc, List.length_append, List.length_cons,
      List.cons_append, List.nil_append] at enough ⊢
    rw [members_comma (each head List.mem_cons_self) (by omega), later (by omega)]
    rfl

theorem value_bracket {c : Char} (solid : isSpace c = false) (more : c ≠ ']') (fuel : Nat)
    (rest : List Char) :
    value (fuel + 1) ('[' :: c :: rest)
      = (items fuel (c :: rest)).map fun part => (.list part.1, part.2) := by
  simp only [value, skipSpace_cons (c := '[') rfl, skipSpace_cons solid]
  split
  · rename_i same
    exact absurd (List.cons.inj same).1 more
  · rfl

theorem value_brace (fuel : Nat) (rest : List Char) :
    value (fuel + 1) ('{' :: '"' :: rest)
      = (members fuel ('"' :: rest)).map fun part => (ofFields part.1, part.2) := by
  simp [value, skipSpace_cons (c := '{') rfl, skipSpace_cons (c := '"') rfl]

theorem reads_int {n : Int} (fits : fitsWord n = true) : Reads oneLine (.int n) := by
  rintro (_ | fuel) rest enough follows
  · omega
  · obtain ⟨c, digits, shape, leads⟩ := signedDecimal_cons n
    have read := number_signedDecimal fits follows
    rw [written, write]
    rw [shape] at read ⊢
    rw [List.cons_append, value_of_leadsNumber leads, ← List.cons_append, read]

theorem reads_text (text : String) : Reads oneLine (.text text) := by
  rintro (_ | fuel) rest enough -
  · omega
  · rw [written, write, toList_quoted]
    simp [value, skipSpace_cons (c := '"') rfl, stringBody_flatMap]

theorem reads_list {elements : List Data} (whole : ∀ item ∈ elements, Exact item)
    (each : ∀ item ∈ elements, Reads oneLine item) : Reads oneLine (.list elements) := by
  rintro (_ | fuel) rest enough -
  · omega
  · rw [written_list] at enough ⊢
    cases elements with
    | nil => simp [value, skipSpace_cons (c := '[') rfl, skipSpace_cons (c := ']') rfl]
    | cons head tail =>
      have room : 2 * ([','].intercalate ((head :: tail).map (written oneLine))).length + 1
          < fuel := by
        rw [List.length_cons, List.length_append] at enough
        omega
      have read := items_write each rest room
      -- The first item begins with neither a space nor the bracket of an empty list.
      obtain ⟨c, chars, shape, solid, more⟩ := written_cons oneLine (whole head List.mem_cons_self)
      rw [List.map_cons, shape, List.intercalate_cons_cons_left] at read ⊢
      simp only [List.cons_append, List.append_assoc, List.nil_append] at read ⊢
      rw [value_bracket solid more, read]
      rfl

theorem reads_table {fields : List (String × Data)} (ordered : Ordered fields)
    (each : ∀ field ∈ fields, Reads oneLine field.2) : Reads oneLine (.table fields) := by
  rintro (_ | fuel) rest enough -
  · omega
  · rw [written_table] at enough ⊢
    cases fields with
    | nil => simp [value, skipSpace_cons (c := '{') rfl, skipSpace_cons (c := '}') rfl]
    | cons head tail =>
      have room : 2 * ([','].intercalate ((head :: tail).map (member oneLine))).length + 1
          < fuel := by
        rw [List.length_cons, List.length_append] at enough
        omega
      have read := members_write each rest room
      have shape : member oneLine head = '"' :: (member oneLine head).tail := by
        rw [member, toList_quoted]
        rfl
      rw [List.map_cons, shape, List.intercalate_cons_cons_left] at read ⊢
      simp only [List.cons_append, List.append_assoc, List.nil_append] at read ⊢
      rw [value_brace, read, Option.map_some, ofFields_of_ordered ordered]

/-- What is written for a value is read as that value, whatever may stand behind a value. -/
theorem reads_of_exact (oneLine : Bool) {data : Data} (whole : Exact data) :
    Reads oneLine data := by
  induction whole with
  | null =>
    rintro (_ | fuel) rest enough -
    · omega
    · rw [written, write]
      rfl
  | bool value =>
    rintro (_ | fuel) rest enough -
    · omega
    · rw [written, write]
      cases value <;> rfl
  | int fits => exact reads_int fits
  | text text => exact reads_text text
  | list each ih => exact reads_list each ih
  | table ordered each ih => exact reads_table ordered ih

end Values

/-- Data is what its text gives back, on one line or not. -/
theorem ofText?_write {data : Data} (whole : Exact data) (oneLine : Bool) :
    ofText? (write oneLine data) = some data := by
  have read := reads_of_exact oneLine whole
    (2 * (write oneLine data).toList.length + 2) [] (by rw [written]; omega) follows_nil
  rw [written, List.append_nil] at read
  exact Option.bind_eq_some_iff.2 ⟨(data, []), read, rfl⟩

end Json

end Data

end TryOn
