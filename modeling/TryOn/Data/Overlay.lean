import TryOn.Data.Basic

/-! Laying one table over another: tables are joined key by key, and everything else is replaced. -/

set_option autoImplicit false

namespace TryOn.Data

mutual

def overlay (below : Data) : Data → Data
  | .table fields =>
    match below with
    | .table under => .table (overlayFields under fields)
    | _ => .table fields
  | above => above

def overlayFields (under : List (String × Data)) : List (String × Data) → List (String × Data)
  | [] => under
  | (key, value) :: rest =>
    let seen := match field? under key with
      | some old => overlay old value
      | none => value
    overlayFields (setField under key seen) rest

end

@[simp] theorem overlay_empty (fields : List (String × Data)) :
    overlay (.table fields) (.table []) = .table fields := by
  simp [overlay, overlayFields]

end TryOn.Data
