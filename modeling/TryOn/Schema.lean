import TryOn.Audit
import TryOn.Conversion.Encoding
import TryOn.Image
import TryOn.Listing.Encoding
import TryOn.Notice
import TryOn.Processor
import TryOn.Quota.Encoding
import TryOn.Service.Admission
import TryOn.Service.Watch
import TryOn.Settings.Encoding

/-! The kinds of values that have a form in plain data, each under its name. -/

set_option autoImplicit false

namespace TryOn.Schema

def through {α : Type} (decode : Data → Option α) (encode : α → Data) (data : Data) : Option Data :=
  (decode data).map encode

def conversionKinds : List (String × (Data → Option Data)) :=
  [("user_id", through (@Id.ofData? .user) Id.toData),
    ("conversion_id", through (@Id.ofData? .conversion) Id.toData),
    ("image_id", through (@Id.ofData? .image) Id.toData),
    ("status", through Status.ofData? Status.toData),
    ("new_conversion", through Draft.ofData? Draft.toData),
    ("transition", through Transition.ofData? Transition.toData),
    ("record", through Conversion.ofData? Conversion.toData),
    ("status_view", through StatusView.ofData? StatusView.toData),
    ("update", through Patch.ofData? Patch.toTaggedData),
    ("quota_unit", through Quota.Allowance.ofData? Quota.Allowance.toData),
    ("billing_period", through BillingPeriod.ofData? BillingPeriod.toData),
    ("quota_state", through Quota.Balance.ofData? Quota.Balance.toData),
    ("quota_account", through Quota.Account.ofData? Quota.Account.toData),
    ("pagination", through Listing.Pagination.ofData? Listing.Pagination.toData),
    ("filter", through Listing.Filter.ofData? Listing.Filter.toData),
    ("page", through Listing.Page.ofData? Listing.Page.toData)]

def exchangeKinds : List (String × (Data → Option Data)) :=
  [("image_owner", through ImageOwner.ofData? ImageOwner.toData),
    ("visibility", through Visibility.ofData? Visibility.toData),
    ("image_info", through Image.ofData? Image.toData),
    ("process_request", through ProcessRequest.ofData? ProcessRequest.toData),
    ("notice_kind", through NoticeKind.ofData? NoticeKind.toData),
    ("notice", through Notice.ofData? Notice.toData),
    ("audit_action", through AuditAction.ofData? AuditAction.toData),
    ("audit_entry", through AuditEntry.ofData? AuditEntry.toData),
    ("admission_request", through AdmissionRequest.ofData? AdmissionRequest.toData),
    ("watch_options", through WatchOptions.ofData? WatchOptions.toData)]

def settingKinds : List (String × (Data → Option Data)) :=
  [("strategy", through Retry.Growth.ofData? Retry.Growth.toData),
    ("retry_policy", through Retry.Policy.ofData? Retry.Policy.toData),
    ("retry_policies", through Retry.Policies.ofData? Retry.Policies.toData),
    ("quota_defaults", through Quota.Terms.ofData? Quota.Terms.toData),
    ("logging_config", through Settings.Logging.ofData? Settings.Logging.toData),
    ("rate_limit_config", through Settings.RateLimit.ofData? Settings.RateLimit.toData),
    ("watch_config", through Settings.Watch.ofData? Settings.Watch.toData),
    ("worker_config", through Settings.Worker.ofData? Settings.Worker.toData),
    ("config", through Settings.ofData? Settings.toData)]

/-- The form in which a value of a kind is written, if the data stands for one. -/
def canonical? (kind : String) (data : Data) : Option Data := do
  let form ← (conversionKinds ++ exchangeKinds ++ settingKinds).lookup kind
  form data

end TryOn.Schema
