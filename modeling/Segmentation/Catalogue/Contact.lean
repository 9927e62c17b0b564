import Segmentation.Catalogue

/-!
# The contact catalogue

The fields of a contact record that are known without any configuration.
-/

namespace Segmentation.Catalogue

/-- The fields of a contact record, group by group. -/
def contactFields : List Field := [
  { key := "full_name", label := "Full name", type := .string, group := "Basic" },
  { key := "email", label := "E-mail", type := .string, group := "Basic" },
  { key := "phone", label := "Phone", type := .string, group := "Basic" },
  { key := "first_name", label := "First name", type := .string, group := "Basic" },
  { key := "last_name", label := "Last name", type := .string, group := "Basic" },
  { key := "source", label := "Source", type := .string, group := "Basic" },
  { key := "lifecycle_stage", label := "Lifecycle stage", type := .select, group := "Classification",
    options := some [{ value := "customer", label := "Customer" },
      { value := "subscriber", label := "Subscriber" },
      { value := "lead", label := "Lead" }] },
  { key := "status", label := "Contact status", type := .select, group := "Classification",
    options := some [{ value := "active", label := "Active" },
      { value := "inactive", label := "Inactive" },
      { value := "bounced", label := "Bounced" },
      { value := "unsubscribed", label := "Unsubscribed" },
      { value := "complained", label := "Complained" }] },
  { key := "lead_score", label := "Lead score", type := .number, group := "Classification" },
  { key := "tags", label := "Tags", type := .array, group := "Tags" },
  { key := "cashback_info.current_balance", label := "Cashback balance", type := .number, group := "Cashback" },
  { key := "cashback_info.lifetime_earned", label := "Lifetime cashback earned", type := .number, group := "Cashback" },
  { key := "cashback_info.expiry_date", label := "Cashback expiry date", type := .date, group := "Cashback" },
  { key := "cashback_info.last_transaction_date", label := "Last cashback transaction", type := .date, group := "Cashback" },
  { key := "opt_in_email", label := "Accepts e-mail", type := .boolean, group := "Opt-in" },
  { key := "opt_in_sms", label := "Accepts SMS", type := .boolean, group := "Opt-in" },
  { key := "created_at", label := "Created at", type := .date, group := "Dates" },
  { key := "updated_at", label := "Last updated", type := .date, group := "Dates" },
  { key := "custom_fields.last_purchase_date", label := "Last purchase date", type := .date, group := "Custom" },
  { key := "custom_fields.purchase_frequency", label := "Purchase frequency (days)", type := .number, group := "Custom" },
  { key := "custom_fields.product_category", label := "Product category", type := .string, group := "Custom" },
  { key := "custom_fields.referral_code", label := "Referral code", type := .string, group := "Custom" }]

/-- The catalogue of contact fields with the standard operators. -/
def contact : Catalogue where
  fields := contactFields
  operators := standardOperators
  wellFormed := by constructor <;> decide

end Segmentation.Catalogue
