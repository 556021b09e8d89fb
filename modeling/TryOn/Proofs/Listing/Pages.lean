import Mathlib.Data.List.Nodup
import TryOn.Proofs.Store.Owned

/-! Listings page by page. The records that a filter is for have one order, newest first, whatever
order they are gone through in. A page is a slice of it, and a walk from page to page, each from
where the one before ended, is through all of it. -/

set_option autoImplicit false

namespace TryOn

theorem Id.eq_of_number_eq {referent : Referent} {first second : Id referent}
    (same : first.uuid.value.val = second.uuid.value.val) : first = second := by
  obtain ⟨⟨first⟩⟩ := first
  obtain ⟨⟨second⟩⟩ := second
  exact congrArg (fun number => (⟨⟨number⟩⟩ : Id referent)) (Fin.ext same)

namespace Listing

def IsNewer (first second : Conversion) : Prop :=
  second.createdAt < first.createdAt
    ∨ (first.createdAt = second.createdAt ∧ second.id.uuid.value.val < first.id.uuid.value.val)

instance (first second : Conversion) : Decidable (IsNewer first second) :=
  inferInstanceAs (Decidable (_ ∨ _))

/-- The records of the user that a filter is for, of its status and after its moment if it has
them. -/
structure Filter.Matches (filter : Filter) (record : Conversion) : Prop where
  user : record.user = filter.user
  status : ∀ status, filter.status = some status → record.status = status
  createdAfter : ∀ moment, filter.createdAfter = some moment → moment < record.createdAt

theorem Filter.accepts_iff (filter : Filter) (record : Conversion) :
    filter.accepts record = true ↔ filter.Matches record := by
  obtain ⟨user, status, createdAfter⟩ := filter
  constructor
  · intro accepted
    simp only [accepts, Bool.and_eq_true, decide_eq_true_eq] at accepted
    obtain ⟨⟨own, ofStatus⟩, recent⟩ := accepted
    constructor
    · exact own
    · rintro wanted rfl
      simpa [Status.beq_eq_decide] using ofStatus
    · rintro moment rfl
      simpa using recent
  · rintro ⟨rfl, ofStatus, recent⟩
    simp only [accepts, Bool.and_eq_true, decide_eq_true_eq]
    refine ⟨⟨trivial, ?_⟩, ?_⟩
    · cases status with
      | none => rfl
      | some wanted => simpa [Status.beq_eq_decide] using ofStatus wanted rfl
    · cases createdAfter with
      | none => rfl
      | some moment => simpa using recent moment rfl

structure IsComplete (records : List Conversion) (filter : Filter) (listing : List Conversion) :
    Prop where
  members : ∀ record, record ∈ listing ↔ record ∈ records ∧ filter.Matches record
  newestFirst : listing.Pairwise IsNewer

theorem IsNewer.asymm {first second : Conversion} (newer : IsNewer first second) :
    ¬ IsNewer second first := by
  intro older
  rcases newer with later | ⟨same, greater⟩ <;> rcases older with earlier | ⟨same', less⟩
  · rw [Timestamp.lt_iff] at later earlier
    omega
  · rw [same', Timestamp.lt_iff] at later
    omega
  · rw [same, Timestamp.lt_iff] at earlier
    omega
  · omega

theorem IsComplete.nodup {records listing : List Conversion} {filter : Filter}
    (complete : IsComplete records filter listing) : listing.Nodup := by
  apply complete.newestFirst.imp
  rintro first second newer rfl
  exact newer.asymm newer

theorem IsComplete.unique {records listing other : List Conversion} {filter : Filter}
    (complete : IsComplete records filter listing) (also : IsComplete records filter other) :
    other = listing := by
  -- Both are in a strict order, so they are the same as soon as they have the same members.
  refine List.Perm.eq_of_pairwise ?strict also.newestFirst complete.newestFirst ?same
  case strict =>
    intro first second _ _ newer older
    exact absurd older newer.asymm
  case same =>
    apply (List.perm_ext_iff_of_nodup also.nodup complete.nodup).2
    intro record
    rw [also.members, complete.members]

theorem IsComplete.of_perm {records others listing : List Conversion} {filter : Filter}
    (complete : IsComplete records filter listing) (same : others.Perm records) :
    IsComplete others filter listing where
  members record := by rw [complete.members, same.mem_iff]
  newestFirst := complete.newestFirst

/-- The order by which listings are sorted is strict on records of different identifiers. -/
theorem isNewer_of_comesBefore {first second : Conversion} (differ : first.id ≠ second.id)
    (before : comesBefore first second = true) : IsNewer first second := by
  simp only [comesBefore, Bool.or_eq_true, Bool.and_eq_true, decide_eq_true_eq] at before
  rcases before with later | ⟨same, least⟩
  · exact .inl later
  · right
    exact ⟨same, Nat.lt_of_le_of_ne least fun equal => differ (Id.eq_of_number_eq equal.symm)⟩

theorem isComplete_sorted {records : List Conversion} (distinct : (records.map (·.id)).Nodup)
    (filter : Filter) : IsComplete records filter (sorted (records.filter filter.accepts)) where
  members record := by
    rw [(perm_sorted _).mem_iff, List.mem_filter, filter.accepts_iff]
  newestFirst := by
    have apart : (records.filter filter.accepts).Pairwise (·.id ≠ ·.id) :=
      (List.pairwise_map.1 distinct).sublist List.filter_sublist
    have sortedApart : (sorted (records.filter filter.accepts)).Pairwise (·.id ≠ ·.id) :=
      ((perm_sorted _).pairwise_iff fun differ => differ.symm).2 apart
    exact sortedApart.imp₂ (fun _ _ differ before => isNewer_of_comesBefore differ before)
      (pairwise_sorted _)

/-- What a page shows of a listing: a slice of it, its length, and whether anything follows. -/
structure Page.IsSliceOf (page : Page) (listing : List Conversion) (pagination : Pagination) :
    Prop where
  items : page.items = (listing.drop pagination.offset).take pagination.limit
  total : page.total = listing.length
  asked : page.pagination = pagination
  hasMore : page.hasMore = true ↔ pagination.offset + page.items.length < page.total

theorem isSliceOf_ofMatching {records listing : List Conversion} {filter : Filter}
    (distinct : (records.map (·.id)).Nodup) (complete : IsComplete records filter listing)
    (pagination : Pagination) :
    (Page.ofMatching (records.filter filter.accepts) pagination).IsSliceOf listing pagination := by
  have same := complete.unique (isComplete_sorted distinct filter)
  subst same
  constructor
  case items => rfl
  case total => exact (perm_sorted _).length_eq.symm
  case asked => rfl
  case hasMore => simp only [Page.ofMatching, decide_eq_true_eq]

theorem Page.IsSliceOf.full {page : Page} {listing : List Conversion} {limit offset : Nat}
    (slice : page.IsSliceOf listing ⟨limit, offset⟩) (further : page.hasMore = true) :
    page.items.length = limit ∧ offset + limit < listing.length := by
  have more := slice.hasMore.1 further
  have length := congrArg List.length slice.items
  simp only [List.length_take, List.length_drop] at length
  simp only [slice.total] at more
  omega

theorem Page.IsSliceOf.items_of_ends {page : Page} {listing : List Conversion}
    {limit offset : Nat} (slice : page.IsSliceOf listing ⟨limit, offset⟩)
    (ends : page.hasMore = false) : page.items = listing.drop offset := by
  have covered : ¬ offset + page.items.length < page.total := by
    rw [← slice.hasMore, ends]
    exact Bool.false_ne_true
  have length := congrArg List.length slice.items
  simp only [List.length_take, List.length_drop] at length
  rw [slice.items, List.take_of_length_le]
  simp only [slice.total, List.length_drop] at covered ⊢
  omega

theorem Page.IsSliceOf.unique {first second : Page} {listing : List Conversion}
    {pagination : Pagination} (slice : first.IsSliceOf listing pagination)
    (also : second.IsSliceOf listing pagination) : first = second := by
  have items := slice.items.trans also.items.symm
  have total := slice.total.trans also.total.symm
  have hasMore : first.hasMore = second.hasMore := by
    rw [Bool.eq_iff_iff, slice.hasMore, also.hasMore, items, total]
  obtain ⟨_, _, _, _⟩ := first
  obtain ⟨_, _, _, _⟩ := second
  cases items
  cases total
  cases hasMore
  cases slice.asked.trans also.asked.symm
  rfl

end Listing

namespace Store

open Listing

def Shows (store : Store) (filter : Filter) (pagination : Pagination) (page : Page) : Prop :=
  ∃ records : List Conversion, records.Perm store.conversions.values
    ∧ page = .ofMatching (records.filter filter.accepts) pagination

/-- Page after page of so many records from a place on, while there is more. -/
inductive Walk (store : Store) (filter : Filter) (limit : Nat) : Nat → List Page → Prop
  | last {offset : Nat} {page : Page} (shown : store.Shows filter ⟨limit, offset⟩ page)
    (ends : page.hasMore = false) : Walk store filter limit offset [page]
  | onward {offset : Nat} {page : Page} {more : List Page}
    (shown : store.Shows filter ⟨limit, offset⟩ page) (further : page.hasMore = true)
    (rest : Walk store filter limit (offset + page.items.length) more) :
    Walk store filter limit offset (page :: more)

section

variable {store : Store} {filter : Filter} {listing : List Conversion}

theorem shows_list (store : Store) (filter : Filter) (pagination : Pagination) :
    store.Shows filter pagination (store.list filter pagination) :=
  ⟨store.conversions.values, .refl _, rfl⟩

theorem Shows.isSliceOf {pagination : Pagination} {page : Page}
    (distinct : (store.conversions.values.map (·.id)).Nodup)
    (complete : IsComplete store.conversions.values filter listing)
    (shown : store.Shows filter pagination page) : page.IsSliceOf listing pagination := by
  obtain ⟨records, same, rfl⟩ := shown
  have alike := same.map fun record : Conversion => record.id
  exact isSliceOf_ofMatching (alike.nodup_iff.2 distinct) (complete.of_perm same) pagination

variable {limit offset : Nat} {pages : List Page}

theorem Walk.items_eq (distinct : (store.conversions.values.map (·.id)).Nodup)
    (complete : IsComplete store.conversions.values filter listing)
    (walk : store.Walk filter limit offset pages) :
    pages.flatMap (·.items) = listing.drop offset := by
  induction walk with
  | last shown ends =>
    rw [List.flatMap_singleton]
    exact (shown.isSliceOf distinct complete).items_of_ends ends
  | @onward offset page more shown further rest ih =>
    -- A page with more behind it is full, so the rest of the walk begins where it ends.
    have slice := shown.isSliceOf distinct complete
    rw [List.flatMap_cons, ih, (slice.full further).1, slice.items, ← List.drop_drop,
      List.take_append_drop]

/-- A walk never asks for what is beyond the end, except perhaps at its start. -/
theorem Walk.offset_lt (distinct : (store.conversions.values.map (·.id)).Nodup)
    (complete : IsComplete store.conversions.values filter listing)
    (walk : store.Walk filter limit offset pages) :
    ∀ page ∈ pages, page.pagination.offset = offset
      ∨ page.pagination.offset < listing.length := by
  induction walk with
  | last shown ends =>
    intro page member
    rw [List.mem_singleton.1 member, (shown.isSliceOf distinct complete).asked]
    exact .inl rfl
  | onward shown further rest ih =>
    have slice := shown.isSliceOf distinct complete
    intro page member
    rcases List.mem_cons.1 member with rfl | later
    · rw [slice.asked]
      exact .inl rfl
    · obtain ⟨filled, within⟩ := slice.full further
      rcases ih page later with next | inside
      · right
        rw [next, filled]
        exact within
      · exact .inr inside

theorem Walk.unique (distinct : (store.conversions.values.map (·.id)).Nodup)
    (complete : IsComplete store.conversions.values filter listing) {others : List Page}
    (walk : store.Walk filter limit offset pages) (also : store.Walk filter limit offset others) :
    others = pages := by
  induction walk generalizing others with
  | last shown ends =>
    -- Both walks are shown the same page here, so both end with it or both go on.
    have slice := shown.isSliceOf distinct complete
    cases also with
    | last shown' ends' => rw [slice.unique (shown'.isSliceOf distinct complete)]
    | onward shown' further rest =>
      rw [slice.unique (shown'.isSliceOf distinct complete), further] at ends
      contradiction
  | onward shown further rest ih =>
    have slice := shown.isSliceOf distinct complete
    cases also with
    | last shown' ends =>
      rw [slice.unique (shown'.isSliceOf distinct complete), ends] at further
      contradiction
    | onward shown' further' rest' =>
      have same := slice.unique (shown'.isSliceOf distinct complete)
      subst same
      rw [ih rest']

/-- Each page but the last is full, so pages that are not empty come to an end. -/
theorem exists_walk (distinct : (store.conversions.values.map (·.id)).Nodup)
    (complete : IsComplete store.conversions.values filter listing) (positive : 1 ≤ limit)
    (offset : Nat) : ∃ pages, store.Walk filter limit offset pages := by
  induction left : listing.length - offset using Nat.strong_induction_on generalizing offset with
  | _ left ih =>
    have shown := shows_list store filter ⟨limit, offset⟩
    cases further : (store.list filter ⟨limit, offset⟩).hasMore with
    | false => exact ⟨_, .last shown further⟩
    | true =>
      -- A full page that is not empty leaves fewer records behind it.
      obtain ⟨filled, within⟩ := (shown.isSliceOf distinct complete).full further
      obtain ⟨more, rest⟩ := ih _ (by omega)
        (offset + (store.list filter ⟨limit, offset⟩).items.length) rfl
      exact ⟨_, .onward shown further rest⟩

end

/-- Let no two records of a store have one identifier. Then the records that a filter is for have
one order, newest first. Whatever page is asked for, and in whatever order the records are gone
through for it, the page is the slice of that order at its place, with the number of all of them
and whether any follow. So whoever asks for page after page comes to an end, and has seen each of
them once and in order. -/
theorem pages_complete (store : Store) (distinct : (store.conversions.values.map (·.id)).Nodup)
    (filter : Filter) :
    ∃ listing, IsComplete store.conversions.values filter listing
      ∧ listing.Nodup
      ∧ (∀ other, IsComplete store.conversions.values filter other → other = listing)
      ∧ (∀ pagination page, store.Shows filter pagination page →
        page = store.list filter pagination ∧ page.IsSliceOf listing pagination)
      ∧ ∀ limit, 1 ≤ limit → ∃ pages, store.Walk filter limit 0 pages
        ∧ (∀ others, store.Walk filter limit 0 others → others = pages)
        ∧ pages.flatMap (·.items) = listing
        ∧ ∀ page ∈ pages, page.pagination.offset = 0 ∨ page.pagination.offset < listing.length := by
  have complete := isComplete_sorted distinct filter
  refine ⟨_, complete, complete.nodup, fun other => complete.unique, ?pages, ?walks⟩
  case pages =>
    intro pagination page shown
    have slice := shown.isSliceOf distinct complete
    exact ⟨slice.unique ((shows_list store filter pagination).isSliceOf distinct complete), slice⟩
  case walks =>
    intro limit positive
    obtain ⟨pages, walk⟩ := exists_walk distinct complete positive 0
    exact ⟨pages, walk, fun others also => walk.unique distinct complete also,
      walk.items_eq distinct complete, walk.offset_lt distinct complete⟩

def waitingSince (seconds : Int) (number : Nat) : Conversion :=
  .ofDraft ⟨.ofNat number⟩ ⟨⟨.ofNat 7⟩, ⟨.ofNat 8⟩, ⟨.ofNat 9⟩, none⟩ ⟨seconds, 0⟩

def tied : Store :=
  let records := [waitingSince 5 1, waitingSince 5 2, waitingSince 9 3]
  { opened ⟨"free", 3⟩ with
    conversions := .ofList (records.map fun record => (record.id, record)) }

theorem pages_complete_of_tied :
    let filter : Filter := ⟨⟨.ofNat 7⟩, none, none⟩
    let listing := [waitingSince 9 3, waitingSince 5 2, waitingSince 5 1]
    (∃ pages, tied.Walk filter 2 0 pages ∧ pages.flatMap (·.items) = listing)
      ∧ (tied.list filter ⟨2, 1⟩).items = [waitingSince 5 2, waitingSince 5 1]
      ∧ (tied.list filter ⟨2, 1⟩).hasMore = false := by
  intro filter listing
  have values : tied.conversions.values = listing.reverse := rfl
  have distinct : (tied.conversions.values.map (·.id)).Nodup := by
    rw [values]
    decide
  have accepted : ∀ record ∈ listing, filter.accepts record = true := by decide
  have complete : IsComplete tied.conversions.values filter listing := by
    constructor
    case members =>
      intro record
      rw [values, ← filter.accepts_iff, List.mem_reverse, and_iff_left_of_imp (accepted record)]
    case newestFirst => decide
  obtain ⟨found, -, -, unique, slices, walks⟩ := pages_complete tied distinct filter
  obtain rfl := unique listing complete
  obtain ⟨pages, walk, -, items, -⟩ := walks 2 (by decide)
  have slice := (slices ⟨2, 1⟩ _ (shows_list tied filter ⟨2, 1⟩)).2
  refine ⟨⟨pages, walk, items⟩, slice.items, ?_⟩
  rw [← Bool.not_eq_true, slice.hasMore, slice.items, slice.total]
  decide

end Store

end TryOn
