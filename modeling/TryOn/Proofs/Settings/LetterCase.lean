import Mathlib
import TryOn.Settings.Environment

/-! Whether the case of letters matters in the name of a variable. It does not in the lead that all
names share, nor in the name of a setting; but sections and retry policies are told by what a key
begins with as it is written. A key that begins with capitals there is a path of its own. -/

set_option autoImplicit false

namespace TryOn

namespace Text

def lower (chars : List Char) : List Char :=
  chars.map Char.toLower

theorem toLower_cases (c : Char) :
    c.toLower = c ∨ (65 ≤ c.toNat ∧ c.toNat ≤ 90 ∧ c.toLower.toNat = c.toNat + 32) := by
  unfold Char.toLower
  split
  · rename_i upper
    have least : 65 ≤ c.toNat := UInt32.le_iff_toNat_le.1 upper.1
    have most : c.toNat ≤ 90 := UInt32.le_iff_toNat_le.1 upper.2
    refine .inr ⟨least, most, ?_⟩
    show (c.val + 32).toNat = _
    rw [UInt32.toNat_add]
    show (c.toNat + 32) % _ = _
    omega
  · exact .inl rfl

theorem isBlank_toLower (c : Char) : isBlank c.toLower = isBlank c := by
  rcases toLower_cases c with same | ⟨least, most, shifted⟩
  · rw [same]
  · simp only [isBlank, shifted]
    grind

theorem toLower_eq_iff {c mark : Char} (apart : mark.toNat < 65 ∨ mark = '_') :
    c.toLower = mark ↔ c = mark := by
  rcases toLower_cases c with same | ⟨least, most, shifted⟩
  · rw [same]
  · have away : mark.toNat < 65 ∨ mark.toNat = 95 := apart.imp_right fun same => by rw [same]; rfl
    constructor <;> rintro rfl <;> omega

theorem lower_lower (chars : List Char) : lower (lower chars) = lower chars := by
  rw [lower, lower, List.map_map]
  exact List.map_congr_left fun c _ => c.toLower_toLower_eq_toLower

theorem mem_lower_iff {mark : Char} (apart : mark.toNat < 65 ∨ mark = '_') {chars : List Char} :
    mark ∈ lower chars ↔ mark ∈ chars := by
  simp [lower, toLower_eq_iff apart]

theorem dropWhile_isBlank_lower (chars : List Char) :
    (lower chars).dropWhile isBlank = lower (chars.dropWhile isBlank) := by
  rw [lower, List.dropWhile_map]
  simp only [Function.comp_def, isBlank_toLower, lower]

theorem trimChars_lower (chars : List Char) :
    trimChars (lower chars) = lower (trimChars chars) := by
  simp only [trimChars, dropWhile_isBlank_lower]
  rw [show (lower (chars.dropWhile isBlank)).reverse = lower (chars.dropWhile isBlank).reverse from
    List.map_reverse.symm, dropWhile_isBlank_lower]
  exact List.map_reverse.symm

theorem toList_asciiLowerCase (text : String) :
    (asciiLowerCase text).toList = lower text.toList := by
  simp [asciiLowerCase, lower]

theorem asciiLowerCase_ofList (chars : List Char) :
    asciiLowerCase (String.ofList chars) = String.ofList (lower chars) := by
  rw [← String.toList_inj]
  simp [toList_asciiLowerCase]

section

variable {α : Type} [DecidableEq α] {mark : α}

theorem splitAll_ne_nil (mark : α) (items : List α) : splitAll mark items ≠ [] := by
  cases items with
  | nil => simp [splitAll]
  | cons head tail =>
    unfold splitAll
    split
    · simp
    · split <;> simp

theorem splitAll_cons_of_ne {head : α} (differ : head ≠ mark) (tail : List α) :
    splitAll mark (head :: tail)
      = (head :: (splitAll mark tail).headD []) :: (splitAll mark tail).tail := by
  rw [splitAll, if_neg differ]
  cases pieces : splitAll mark tail with
  | nil => exact absurd pieces (splitAll_ne_nil mark tail)
  | cons piece rest => rfl

theorem length_splitAll (mark : α) (items : List α) :
    (splitAll mark items).length = items.count mark + 1 := by
  induction items with
  | nil => rfl
  | cons head tail ih =>
    by_cases same : head = mark
    · subst same
      simp [splitAll, ih]
    · rw [splitAll_cons_of_ne same, List.length_cons, List.length_tail, ih,
        List.count_cons_of_ne same]
      omega

theorem splitOnce_append {first : List α} (absent : mark ∉ first) (second : List α) :
    splitOnce mark (first ++ mark :: second) = some (first, second) := by
  induction first with
  | nil => simp [splitOnce]
  | cons head tail ih =>
    simp only [List.mem_cons, not_or] at absent
    simp [splitOnce, Ne.symm absent.1, ih absent.2]

end

theorem splitAll_lower (chars : List Char) :
    splitAll '.' (lower chars) = (splitAll '.' chars).map lower := by
  induction chars with
  | nil => rfl
  | cons c rest ih =>
    have ih : splitAll '.' (rest.map Char.toLower) = (splitAll '.' rest).map lower := ih
    rw [lower, List.map_cons]
    by_cases dot : c = '.'
    · subst dot
      have still : Char.toLower '.' = '.' := rfl
      simp [splitAll, still, ih, lower]
    · have other : c.toLower ≠ '.' := fun same => dot ((toLower_eq_iff (.inl (by decide))).1 same)
      rw [splitAll_cons_of_ne dot, splitAll_cons_of_ne other, ih]
      cases pieces : splitAll '.' rest with
      | nil => exact absurd pieces (splitAll_ne_nil '.' rest)
      | cons piece pieces => simp [lower]

theorem count_dot_trimChars (chars : List Char) :
    (trimChars chars).count '.' = chars.count '.' := by
  have front (chars : List Char) : (chars.dropWhile isBlank).count '.' = chars.count '.' := by
    induction chars with
    | nil => rfl
    | cons c rest ih =>
      cases blank : isBlank c with
      | false => simp [List.dropWhile, blank]
      | true =>
        have other : c ≠ '.' := by
          rintro rfl
          exact absurd blank (by decide)
        simp [List.dropWhile, blank, ih, List.count_cons_of_ne other]
  simp [trimChars, front]

def Dotted (first second : Char) : Prop :=
  second = first ∨ (first = '_' ∧ second = '.')

theorem Dotted.isBlank {first second : Char} (dotted : Dotted first second) :
    isBlank first = isBlank second := by
  rcases dotted with rfl | ⟨rfl, rfl⟩ <;> rfl

theorem forall₂_dotted_refl (chars : List Char) : List.Forall₂ Dotted chars chars :=
  List.forall₂_same.2 fun _ _ => .inl rfl

theorem forall₂_dotted_dropWhile {first second : List Char}
    (dotted : List.Forall₂ Dotted first second) :
    List.Forall₂ Dotted (first.dropWhile isBlank) (second.dropWhile isBlank) := by
  induction dotted with
  | nil => exact .nil
  | @cons c d first second here later ih =>
    cases blank : isBlank c with
    | true =>
      have blank' := here.isBlank.symm.trans blank
      simpa [List.dropWhile, blank, blank'] using ih
    | false =>
      have blank' := here.isBlank.symm.trans blank
      simpa [List.dropWhile, blank, blank'] using And.intro here later

theorem forall₂_dotted_trimChars {first second : List Char}
    (dotted : List.Forall₂ Dotted first second) :
    List.Forall₂ Dotted (trimChars first) (trimChars second) := by
  have once := List.rel_reverse (forall₂_dotted_dropWhile dotted)
  exact List.rel_reverse (forall₂_dotted_dropWhile once)

theorem any_isEmpty_splitAll {first second : List Char}
    (dotted : List.Forall₂ Dotted first second) :
    ((splitAll '.' first).any List.isEmpty = true → (splitAll '.' second).any List.isEmpty = true)
      ∧ ((splitAll '.' first).tail.any List.isEmpty = true →
        (splitAll '.' second).tail.any List.isEmpty = true) := by
  induction dotted with
  | nil => exact ⟨id, id⟩
  | @cons c d first second here later ih =>
    obtain ⟨all, behind⟩ := ih
    by_cases dot : c = '.'
    · obtain rfl : d = '.' := by
        rcases here with rfl | ⟨rfl, -⟩
        · exact dot
        · cases dot
      subst dot
      simpa [splitAll] using all
    · rw [splitAll_cons_of_ne dot]
      rcases here with rfl | ⟨-, rfl⟩
      · rw [splitAll_cons_of_ne dot]
        simpa using behind
      · -- Where a dot is put in, all pieces of the rest are behind the first one.
        have more (empty : (splitAll '.' first).tail.any List.isEmpty = true) :
            (splitAll '.' second).any List.isEmpty = true := by
          obtain ⟨piece, member, none⟩ := List.any_eq_true.1 (behind empty)
          exact List.any_eq_true.2 ⟨piece, List.mem_of_mem_tail member, none⟩
        simpa [splitAll] using more

end Text

namespace Settings.Environment

open Text (lower)

/-- What a key may begin with for its setting to be one of a section or of a retry policy. -/
def leads : List (List Char) :=
  ["retry_default_".toList, "retry_policies_".toList] ++ sections.map (·.toList ++ ['_'])

inductive Located : List Char → List Char → List Char → Prop
  | fallback (field : List Char) :
    Located "retry_default_".toList ("retry_default_".toList ++ field)
      ("retry.default.".toList ++ field)
  | policy {name : List Char} (field : List Char) (plain : '_' ∉ name) :
    Located "retry_policies_".toList ("retry_policies_".toList ++ (name ++ '_' :: field))
      ("retry.policies.".toList ++ name ++ '.' :: field)
  | inSection {name : String} (field : List Char) (known : name ∈ sections) :
    Located (name.toList ++ ['_']) (name.toList ++ '_' :: field) (name.toList ++ '.' :: field)

/-- The lead that a key begins with, but for the case of its letters, is in lower case. -/
def IsSpelled (key : List Char) : Prop :=
  ∀ lead found, Located lead (lower key) found → lead <+: key

theorem policyPath?_eq_some_iff {key found : List Char} :
    policyPath? key = some found
      ↔ (∃ field, key = "retry_default_".toList ++ field ∧ found = "retry.default.".toList ++ field)
        ∨ ∃ name field, '_' ∉ name ∧ key = "retry_policies_".toList ++ (name ++ '_' :: field)
          ∧ found = "retry.policies.".toList ++ name ++ '.' :: field := by
  constructor
  · intro located
    obtain ⟨rest, retry, behind⟩ := Option.bind_eq_some_iff.1 located
    obtain rfl := (Text.dropLead?_eq_some_iff _ _ _).1 retry
    split at behind
    · rename_i field fallback
      obtain rfl := (Text.dropLead?_eq_some_iff _ _ _).1 fallback
      exact .inl ⟨field, rfl, (Option.some.inj behind).symm⟩
    · obtain ⟨policy, policies, named⟩ := Option.bind_eq_some_iff.1 behind
      obtain ⟨⟨name, field⟩, cut, whole⟩ := Option.bind_eq_some_iff.1 named
      obtain ⟨rfl, plain⟩ := Text.splitOnce_eq_some cut
      obtain rfl := (Text.dropLead?_eq_some_iff _ _ _).1 policies
      exact .inr ⟨name, field, plain, rfl, (Option.some.inj whole).symm⟩
  · rintro (⟨field, rfl, rfl⟩ | ⟨name, field, plain, rfl, rfl⟩)
    · rfl
    · exact Option.bind_eq_some_iff.2 ⟨(name, field), Text.splitOnce_append plain field, rfl⟩

theorem path_cases (key : List Char) :
    (∃ lead, Located lead key (path key))
      ∨ (path key = key ∧ ∀ lead found, ¬ Located lead key found) := by
  unfold path
  cases policy : policyPath? key with
  | some found =>
    rcases policyPath?_eq_some_iff.1 policy with ⟨field, rfl, rfl⟩ | ⟨name, field, plain, rfl, rfl⟩
    · exact .inl ⟨_, .fallback field⟩
    · exact .inl ⟨_, .policy field plain⟩
  | none =>
    cases inSection : sections.findSome? (sectionPath? key) with
    | some found =>
      obtain ⟨name, known, located⟩ := List.exists_of_findSome?_eq_some inSection
      obtain ⟨field, rfl, rfl⟩ := (sectionPath?_eq_some_iff key name found).1 located
      exact .inl ⟨_, .inSection field known⟩
    | none =>
      refine .inr ⟨rfl, fun lead found located => ?_⟩
      cases located with
      | fallback field =>
        rw [policyPath?_eq_some_iff.2 (.inl ⟨field, rfl, rfl⟩)] at policy
        cases policy
      | policy field plain =>
        rw [policyPath?_eq_some_iff.2 (.inr ⟨_, field, plain, rfl, rfl⟩)] at policy
        cases policy
      | inSection field known =>
        have none := List.findSome?_eq_none_iff.1 inSection _ known
        simp [(sectionPath?_eq_some_iff _ _ _).2 ⟨field, rfl, rfl⟩] at none

namespace Located

variable {lead other key found : List Char}

theorem path_eq (located : Located lead key found) : path key = found := by
  cases located with
  | fallback field => rfl
  | policy field plain =>
    rw [path, policyPath?_eq_some_iff.2 (.inr ⟨_, field, plain, rfl, rfl⟩)]
    rfl
  | inSection field known =>
    simp only [sections, List.mem_cons, List.not_mem_nil, or_false] at known
    rcases known with rfl | rfl | rfl | rfl | rfl <;> rfl

theorem isPrefix (located : Located lead key found) : lead <+: key := by
  cases located with
  | fallback field => exact List.prefix_append _ _
  | policy field plain => exact List.prefix_append _ _
  | inSection field known => exact ⟨field, by simp⟩

theorem mem_leads (located : Located lead key found) : lead ∈ leads := by
  cases located with
  | fallback field => simp [leads]
  | policy field plain => simp [leads]
  | inSection field known => exact List.mem_append_right _ (List.mem_map.2 ⟨_, known, rfl⟩)

theorem lead_unique {found' : List Char} (located : Located lead key found)
    (located' : Located other key found') : lead = other := by
  -- Two leads of one key are beginnings of each other, and no lead begins with another one.
  have apart : ∀ first ∈ leads, ∀ second ∈ leads, first <+: second → first = second := by decide
  rcases List.prefix_or_prefix_of_prefix located.isPrefix located'.isPrefix with within | within
  · exact apart lead located.mem_leads other located'.mem_leads within
  · exact (apart other located'.mem_leads lead located.mem_leads within).symm

theorem ne_key (located : Located lead key found) : found ≠ key := by
  cases located <;> simp

theorem lower (located : Located lead key found) :
    Located lead (Text.lower key) (Text.lower found) := by
  cases located with
  | fallback field => simpa [Text.lower] using Located.fallback (Text.lower field)
  | @policy name field plain =>
    have plain' : '_' ∉ Text.lower name := mt (Text.mem_lower_iff (.inr rfl)).1 plain
    simpa [Text.lower] using Located.policy (Text.lower field) plain'
  | @inSection name field known =>
    have still : name.toList.map Char.toLower = name.toList := by
      have low : ∀ name ∈ sections, name.toList.map Char.toLower = name.toList := by decide
      exact low name known
    simpa [Text.lower, still] using Located.inSection (Text.lower field) known

theorem of_lower (located : Located lead (Text.lower key) found) (spelled : lead <+: key) :
    ∃ found, Located lead key found := by
  obtain ⟨rest, rfl⟩ := spelled
  generalize whole : Text.lower (lead ++ rest) = lowered at located
  cases located with
  | fallback field => exact ⟨_, .fallback rest⟩
  | inSection field known => exact ⟨_, by simpa using Located.inSection rest known⟩
  | @policy name field plain =>
    have behind : rest.map Char.toLower = name ++ '_' :: field := by
      simpa [Text.lower] using whole
    -- The underscore that ends the name is one before lower-casing too.
    obtain ⟨first, second, rfl, rfl, split⟩ := List.map_eq_append_iff.1 behind
    obtain ⟨mark, second, rfl, same, rfl⟩ := List.map_eq_cons_iff.1 split
    obtain rfl := (Text.toLower_eq_iff (.inr rfl)).1 same
    have plain' : '_' ∉ first := mt (Text.mem_lower_iff (.inr rfl)).2 plain
    exact ⟨_, .policy second plain'⟩

theorem dotted (located : Located lead key found) : List.Forall₂ Text.Dotted key found := by
  have mark : List.Forall₂ Text.Dotted ['_'] ['.'] := .cons (.inr ⟨rfl, rfl⟩) .nil
  have same := Text.forall₂_dotted_refl
  cases located with
  | fallback field =>
    have lead := List.rel_append (List.rel_append (same "retry".toList) mark)
      (List.rel_append (same "default".toList) mark)
    exact List.rel_append lead (same field)
  | @policy name field plain =>
    have lead := List.rel_append (List.rel_append (same "retry".toList) mark)
      (List.rel_append (same "policies".toList) mark)
    have behind := List.rel_append (same name) (List.rel_append mark (same field))
    simpa using List.rel_append lead behind
  | @inSection name field known =>
    exact List.rel_append (same name.toList) (List.rel_append mark (same field))

theorem count_dot_lt (located : Located lead key found) : key.count '.' < found.count '.' := by
  cases located with
  | fallback field => simp
  | policy field plain => simp; omega
  | inSection field known => simp

end Located

theorem lower_path_iff (key : List Char) : lower (path key) = path (lower key) ↔ IsSpelled key := by
  constructor
  · intro same lead found located
    rcases path_cases key with ⟨other, written⟩ | ⟨own, -⟩
    · exact located.lead_unique written.lower ▸ written.isPrefix
    · -- Otherwise the key is its own path, and in lower case its path has a dot more than the key.
      rw [own, located.path_eq] at same
      exact absurd same.symm located.ne_key
  · intro spelled
    rcases path_cases (lower key) with ⟨lead, located⟩ | ⟨own, none⟩
    · obtain ⟨found, written⟩ := located.of_lower (spelled lead _ located)
      rw [written.path_eq, written.lower.path_eq]
    · rcases path_cases key with ⟨lead, written⟩ | ⟨own', -⟩
      · exact absurd written.lower (none lead _)
      · rw [own, own']

theorem path_of_not_isSpelled {key : List Char} (capital : ¬ IsSpelled key) : path key = key := by
  rcases path_cases key with ⟨lead, written⟩ | ⟨own, -⟩
  · refine absurd (fun other found located => ?_) capital
    exact located.lead_unique written.lower ▸ written.isPrefix
  · exact own

def keyOf (lead name : String) : List Char :=
  (Text.trimChars name.toList).drop lead.length

def HasLead (lead name : String) : Prop :=
  Text.asciiLowerCase (String.ofList ((Text.trimChars name.toList).take lead.length))
    = Text.asciiLowerCase lead

def parts? (path : List Char) : Option (List String) :=
  let pieces := Text.splitAll '.' (Text.trimChars path)
  if pieces.any List.isEmpty then none
  else some (pieces.map fun piece => Text.asciiLowerCase (String.ofList piece))

theorem setting?_of_hasLead {lead name : String} (begins : HasLead lead name) :
    setting? lead name = parts? (path (keyOf lead name)) := by
  unfold HasLead at begins
  simp only [setting?, parts?, keyOf, begins]
  split
  · contradiction
  · rfl

theorem setting?_of_not_hasLead {lead name : String} (other : ¬ HasLead lead name) :
    setting? lead name = none := by
  unfold HasLead at other
  simp only [setting?]
  rw [if_pos other]
  rfl

theorem parts?_lower (path : List Char) : parts? (lower path) = parts? path := by
  have empty : (List.isEmpty ∘ lower) = List.isEmpty := by
    funext piece
    cases piece <;> rfl
  simp only [parts?, Text.trimChars_lower, Text.splitAll_lower, List.any_map, List.map_map, empty]
  simp only [Function.comp_def, Text.asciiLowerCase_ofList, Text.lower_lower]

theorem length_of_parts? {path : List Char} {parts : List String}
    (found : parts? path = some parts) :
    parts.length = path.count '.' + 1 := by
  simp only [parts?] at found
  split at found
  · cases found
  · obtain rfl := Option.some.inj found
    rw [List.length_map, Text.length_splitAll, Text.count_dot_trimChars]

theorem parts?_eq_none_of_dotted {first second : List Char}
    (dotted : List.Forall₂ Text.Dotted first second) (none' : parts? first = none) :
    parts? second = none := by
  simp only [parts?] at none' ⊢
  split at none'
  · rename_i empty
    exact if_pos ((Text.any_isEmpty_splitAll (Text.forall₂_dotted_trimChars dotted)).1 empty)
  · cases none'

theorem hasLead_lower_iff {lead name : String} :
    HasLead lead (Text.asciiLowerCase name) ↔ HasLead lead name := by
  have again (chars : List Char) (length : Nat) : lower ((lower chars).take length)
      = lower (chars.take length) := by
    rw [show (lower chars).take length = lower (chars.take length) from List.map_take.symm]
    exact Text.lower_lower _
  simp only [HasLead, Text.toList_asciiLowerCase, Text.trimChars_lower, Text.asciiLowerCase_ofList,
    again]

theorem keyOf_lower (lead name : String) :
    keyOf lead (Text.asciiLowerCase name) = lower (keyOf lead name) := by
  rw [keyOf, Text.toList_asciiLowerCase, Text.trimChars_lower]
  exact List.map_drop.symm

theorem exists_located_lower {key : List Char} (capital : ¬ IsSpelled key) :
    ∃ lead found, Located lead (lower key) found := by
  rcases path_cases (lower key) with ⟨lead, located⟩ | ⟨-, none⟩
  · exact ⟨lead, _, located⟩
  · exact absurd (fun lead found located => absurd located (none lead found)) capital

/-- A key with its lead in capitals never addresses what it addresses in lower case. -/
theorem parts?_path_lower_ne {key : List Char} {parts : List String} (capital : ¬ IsSpelled key)
    (found : parts? key = some parts) : parts? (path (lower key)) ≠ some parts := by
  intro same
  obtain ⟨_, _, located⟩ := exists_located_lower capital
  rw [located.path_eq] at same
  rw [← parts?_lower] at found
  -- The path has a dot more than the key, so there is a part more on that side.
  have short := length_of_parts? found
  have long := length_of_parts? same
  have more := located.count_dot_lt
  omega

theorem parts?_path_lower_eq_none {key : List Char} (capital : ¬ IsSpelled key)
    (nothing : parts? key = none) : parts? (path (lower key)) = none := by
  obtain ⟨_, _, located⟩ := exists_located_lower capital
  rw [located.path_eq]
  rw [← parts?_lower] at nothing
  exact parts?_eq_none_of_dotted located.dotted nothing

/-- A path is the same setting in lower case exactly if the lead is in lower case as it is written,
or the key is the path of nothing. -/
theorem parts?_path_lower_eq_iff (key : List Char) :
    parts? (path (lower key)) = parts? (path key)
      ↔ IsSpelled key ∨ parts? (path key) = none := by
  by_cases spelled : IsSpelled key
  · rw [← (lower_path_iff key).2 spelled, parts?_lower]
    exact iff_of_true rfl (.inl spelled)
  · rw [path_of_not_isSpelled spelled]
    cases found : parts? key with
    | none => exact iff_of_true (parts?_path_lower_eq_none spelled found) (.inr rfl)
    | some parts =>
      exact iff_of_false (parts?_path_lower_ne spelled found) (not_or.2 ⟨spelled, by simp⟩)

/-- The case of letters does not matter exactly for keys whose own lead is in lower case. Any other
key is a path of its own; in the name of a variable that makes a difference, unless the name stands
for no setting anyway. -/
theorem letter_case_irrelevant_iff (key : List Char) (lead name : String) :
    (lower (path key) = path (lower key) ↔ IsSpelled key)
      ∧ (¬ IsSpelled key → path key = key)
      ∧ (setting? lead (Text.asciiLowerCase name) = setting? lead name
        ↔ IsSpelled (keyOf lead name) ∨ setting? lead name = none) := by
  refine ⟨lower_path_iff key, path_of_not_isSpelled, ?_⟩
  by_cases begins : HasLead lead name
  · rw [setting?_of_hasLead (hasLead_lower_iff.2 begins), setting?_of_hasLead begins, keyOf_lower]
    exact parts?_path_lower_eq_iff (keyOf lead name)
  · have other := setting?_of_not_hasLead begins
    have other' := setting?_of_not_hasLead (mt hasLead_lower_iff.1 begins)
    exact iff_of_true (other'.trans other.symm) (.inr other)

/-- In capitals throughout, the name of a setting of a section is the name of another one. -/
theorem setting?_in_capitals :
    setting? programLead "FITSWAP_WATCH_GRACE_MS" = some ["watch_grace_ms"]
      ∧ setting? programLead "fitswap_watch_grace_ms" = some ["watch", "grace_ms"]
      ∧ ¬ ∀ key, lower (path key) = path (lower key) := by
  have begins : HasLead programLead "fitswap_watch_grace_ms" := by
    rw [HasLead, ← String.toList_inj, Text.toList_asciiLowerCase, Text.toList_asciiLowerCase]
    decide +kernel
  have key : keyOf programLead "fitswap_watch_grace_ms"
      = "watch".toList ++ '_' :: "grace_ms".toList := by
    decide +kernel
  have known : "watch" ∈ sections := by decide
  have located := (Located.inSection "grace_ms".toList known).path_eq
  have parts : parts? ("watch".toList ++ '.' :: "grace_ms".toList)
      = some ["watch", "grace_ms"] := by
    cbv
  have differ : lower (path "WATCH_GRACE_MS".toList) ≠ path (lower "WATCH_GRACE_MS".toList) := by
    decide +kernel
  refine ⟨by decide +kernel, ?_, fun same => differ (same _)⟩
  rw [setting?_of_hasLead begins, key, located, parts]

end Settings.Environment

end TryOn
