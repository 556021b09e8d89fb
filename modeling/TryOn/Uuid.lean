import TryOn.Text.Digits
import TryOn.Text.Search

/-! Universally unique identifiers: 128 bits, written as five hyphenated groups of lower-case
hexadecimal digits. Four spellings are read; the bare and the hyphenated form may be in any
case, and the hyphenated one may also stand in braces or behind `urn:uuid:`. -/

set_option autoImplicit false

namespace TryOn

structure Uuid where
  value : Fin (Nat.pow 2 128)
  deriving DecidableEq

namespace Uuid

/-- The identifier with the given bits; higher ones are dropped. -/
def ofNat (bits : Nat) : Uuid :=
  ⟨Fin.ofNat (Nat.pow 2 128) bits⟩

/-- Identifiers are compared as numbers, which is byte by byte from the front. -/
instance : Ord Uuid := ⟨compareOn (·.value.val)⟩

instance : Std.TransOrd Uuid :=
  inferInstanceAs (Std.TransCmp (compareOn fun id : Uuid => id.value.val))

instance : Std.LawfulEqOrd Uuid where
  eq_of_compare {first second} same := by
    cases first
    cases second
    exact congrArg Uuid.mk (Fin.ext (Std.LawfulEqOrd.eq_of_compare (α := Nat) same))

def groupLengths : List Nat := [8, 4, 4, 4, 12]

def cut {α : Type} : List Nat → List α → List (List α)
  | [], _ => []
  | length :: lengths, items => items.take length :: cut lengths (items.drop length)

def digits (id : Uuid) : List Char :=
  Text.fixedDigits 16 32 id.value.val

def text (id : Uuid) : String :=
  String.ofList (List.intercalate ['-'] (cut groupLengths id.digits))

def ofDigits? (chars : List Char) : Option Uuid :=
  if chars.length = 32 then (Text.digitsValue? 16 chars).map ofNat else none

def ofHyphenated? (chars : List Char) : Option Uuid :=
  let groups := Text.splitAll '-' chars
  if groups.map List.length = groupLengths then ofDigits? groups.flatten else none

def ofBraced? : List Char → Option Uuid
  | '{' :: rest => if rest.getLast? = some '}' then ofHyphenated? rest.dropLast else none
  | _ => none

def ofUrn? (chars : List Char) : Option Uuid :=
  if (chars.take 9).map Char.toLower = "urn:uuid:".toList then ofHyphenated? (chars.drop 9)
  else none

def ofText? (text : String) : Option Uuid :=
  let chars := text.toList
  ofDigits? chars <|> ofHyphenated? chars <|> ofBraced? chars <|> ofUrn? chars

theorem ofNat_val (id : Uuid) : ofNat id.value.val = id := by
  cases id
  simp [ofNat]

theorem ofDigits?_digits (id : Uuid) : ofDigits? id.digits = some id := by
  have room : id.value.val < Nat.pow 16 32 := by
    have same : Nat.pow 2 128 = Nat.pow 16 32 := by decide
    exact Nat.lt_of_lt_of_eq id.value.isLt same
  simp [ofDigits?, digits, Text.digitsValue?_fixedDigits room, ofNat_val]

theorem splitAll_of_notMem {α : Type} [DecidableEq α] {mark : α} {items : List α}
    (absent : mark ∉ items) : Text.splitAll mark items = [items] := by
  induction items with
  | nil => rfl
  | cons head tail ih =>
    simp only [List.mem_cons, not_or] at absent
    simp [Text.splitAll, Ne.symm absent.1, ih absent.2]

theorem splitAll_append_mark {α : Type} [DecidableEq α] {mark : α} {items rest : List α}
    (absent : mark ∉ items) :
    Text.splitAll mark (items ++ mark :: rest) = items :: Text.splitAll mark rest := by
  induction items with
  | nil => simp [Text.splitAll]
  | cons head tail ih =>
    simp only [List.mem_cons, not_or] at absent
    simp [Text.splitAll, Ne.symm absent.1, ih absent.2]

theorem splitAll_intercalate {α : Type} [DecidableEq α] {mark : α} (head : List α)
    (groups : List (List α)) (absent : ∀ group ∈ head :: groups, mark ∉ group) :
    Text.splitAll mark (List.intercalate [mark] (head :: groups)) = head :: groups := by
  induction groups generalizing head with
  | nil => simpa [List.intercalate] using splitAll_of_notMem (absent head (by simp))
  | cons next groups ih =>
    have step := ih next (fun group inside => absent group (List.mem_cons_of_mem _ inside))
    have clear := absent head (by simp)
    simp only [List.intercalate, List.intersperse_cons_cons, List.flatten_cons,
      List.singleton_append] at step ⊢
    rw [splitAll_append_mark clear, step]

theorem cut_mem {α : Type} {lengths : List Nat} {items group : List α}
    (inside : group ∈ cut lengths items) : ∀ item ∈ group, item ∈ items := by
  induction lengths generalizing items with
  | nil => simp [cut] at inside
  | cons length lengths ih =>
    simp only [cut, List.mem_cons] at inside
    rcases inside with rfl | inside
    · exact fun item found => List.mem_of_mem_take found
    · exact fun item found => List.mem_of_mem_drop (ih inside item found)

theorem cut_groupLengths {items : List Char} (full : items.length = 32) :
    (cut groupLengths items).map List.length = groupLengths
      ∧ (cut groupLengths items).flatten = items := by
  simp only [cut, groupLengths, List.map_cons, List.map_nil, List.length_take, List.length_drop,
    full, List.flatten_cons, List.flatten_nil, List.append_nil, List.drop_drop]
  refine ⟨by decide, ?_⟩
  have last : (items.drop (8 + 4 + 4 + 4)).take 12 = items.drop (8 + 4 + 4 + 4) :=
    List.take_of_length_le (by simp [full])
  rw [last]
  have step (n m : Nat) : (items.drop n).take m ++ items.drop (n + m) = items.drop n := by
    rw [← List.drop_drop, List.take_append_drop]
  rw [step (8 + 4 + 4) 4, step (8 + 4) 4, step 8 4, List.take_append_drop]

theorem ofHyphenated?_text (id : Uuid) : ofHyphenated? id.text.toList = some id := by
  have full : id.digits.length = 32 := by simp [digits]
  obtain ⟨lengths, whole⟩ := cut_groupLengths full
  have clear : ∀ group ∈ cut groupLengths id.digits, '-' ∉ group := fun group inside found =>
    Text.hyphen_notMem_fixedDigits 32 id.value.val (cut_mem inside _ found)
  have split : Text.splitAll '-' id.text.toList = cut groupLengths id.digits := by
    simp only [text, String.toList_ofList]
    exact splitAll_intercalate _ _ (by simpa [cut, groupLengths] using clear)
  simp [ofHyphenated?, split, lengths, whole, ofDigits?_digits]

theorem text_length (id : Uuid) : id.text.toList.length = 36 := by
  simp [text, cut, groupLengths, digits, List.intercalate, List.intersperse]

theorem ofText?_text (id : Uuid) : ofText? id.text = some id := by
  simp [ofText?, ofDigits?, text_length, ofHyphenated?_text]

end Uuid

end TryOn
