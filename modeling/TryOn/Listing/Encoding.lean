import TryOn.Conversion.Encoding
import TryOn.Listing.Basic

/-! Listing requests and pages as plain data. -/

set_option autoImplicit false

namespace TryOn.Listing

open Data (required optional asNat?)

namespace Pagination

def toData (pagination : Pagination) : Data :=
  .ofFields [("limit", .ofNat pagination.limit), ("offset", .ofNat pagination.offset)]

def ofData? : Data → Option Pagination :=
  Data.openRecord ["limit", "offset"] do
    return ⟨← required (asNat? 32), ← required (asNat? 32)⟩

end Pagination

namespace Filter

def toData (filter : Filter) : Data :=
  .ofFields [("user_id", filter.user.toData), ("status", .ofOption Status.toData filter.status),
    ("created_after", .ofOption Timestamp.toData filter.createdAfter)]

def ofData? : Data → Option Filter :=
  Data.openRecord ["user_id", "status", "created_after"] do
    return ⟨← required Id.ofData?, ← optional Status.ofData?, ← optional Timestamp.ofData?⟩

end Filter

namespace Page

def toData (page : Page) : Data :=
  .ofFields [("items", .list (page.items.map Conversion.toData)), ("total", .ofNat page.total),
    ("pagination", page.pagination.toData), ("has_more", .bool page.hasMore)]

def ofData? : Data → Option Page :=
  Data.openRecord ["items", "total", "pagination", "has_more"] do
    return ⟨← required (Data.asList? Conversion.ofData?), ← required (asNat? 64),
      ← required Pagination.ofData?, ← required Data.asBool?⟩

end Page

end TryOn.Listing
