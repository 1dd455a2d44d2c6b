/-
**The catalog of the generic item type.**

`Catalog.standard` covers the properties of messages, calendar entries, tasks and contacts.
-/

import Sift.Catalog.Basic

namespace Sift.Catalog

/-- The labels of telephone numbers. -/
def phoneLabels : List String :=
  ["AssistantPhone", "BusinessFax", "BusinessPhone", "BusinessPhone2", "Callback", "CarPhone",
    "CompanyMainPhone", "HomeFax", "HomePhone", "HomePhone2", "Isdn", "MobilePhone", "OtherFax",
    "OtherTelephone", "Pager", "PrimaryPhone", "RadioPhone", "Telex", "TtyTddPhone"]

/-- The labels and sub-fields of postal addresses. -/
def addressIndex : FieldIndex where
  labels := ["Business", "Home", "Other"]
  subfields :=
    [⟨"street", "contacts:PhysicalAddress:Street"⟩, ⟨"city", "contacts:PhysicalAddress:City"⟩,
      ⟨"state", "contacts:PhysicalAddress:State"⟩,
      ⟨"country", "contacts:PhysicalAddress:CountryOrRegion"⟩,
      ⟨"zipcode", "contacts:PhysicalAddress:PostalCode"⟩]

/-- The fields of the generic item type. -/
def standardFields : List Field :=
  [{ name := "body", uri := "item:Body", kind := .text },
    { name := "categories", uri := "item:Categories", kind := .text, isList := true },
    { name := "changekey", uri := "item:ChangeKey", kind := .text, isAttribute := true,
      searchable := false },
    { name := "companies", uri := "contacts:Companies", kind := .text, isList := true,
      searchable := false },
    { name := "datetime_created", uri := "item:DateTimeCreated", kind := .timestamp },
    { name := "datetime_received", uri := "item:DateTimeReceived", kind := .timestamp },
    { name := "display_name", uri := "contacts:DisplayName", kind := .text },
    { name := "due_date", uri := "task:DueDate", kind := .date },
    { name := "email_addresses", uri := "contacts:EmailAddress", kind := .text, isList := true,
      index := some ⟨["EmailAddress1", "EmailAddress2", "EmailAddress3"], []⟩ },
    { name := "end", uri := "calendar:End", kind := .timestamp },
    { name := "has_attachments", uri := "item:HasAttachments", kind := .boolean },
    { name := "importance", uri := "item:Importance", kind := .choice ["Low", "Normal", "High"] },
    { name := "is_read", uri := "message:IsRead", kind := .boolean },
    { name := "item_id", uri := "item:ItemId", kind := .text, isAttribute := true },
    { name := "location", uri := "calendar:Location", kind := .text },
    { name := "percent_complete", uri := "task:PercentComplete", kind := .decimal },
    { name := "phone_numbers", uri := "contacts:PhoneNumber", kind := .text, isList := true,
      index := some ⟨phoneLabels, []⟩ },
    { name := "physical_addresses", uri := "contacts:PhysicalAddress", kind := .record,
      isList := true, index := some addressIndex },
    { name := "reminder_due_by", uri := "item:ReminderDueBy", kind := .timestamp,
      searchable := false },
    { name := "sensitivity", uri := "item:Sensitivity",
      kind := .choice ["Normal", "Personal", "Private", "Confidential"] },
    { name := "size", uri := "item:Size", kind := .integer },
    { name := "start", uri := "calendar:Start", kind := .timestamp },
    { name := "status", uri := "task:Status",
      kind := .choice ["NotStarted", "InProgress", "Completed", "WaitingOnOthers", "Deferred"],
      searchable := false },
    { name := "subject", uri := "item:Subject", kind := .text },
    { name := "to_recipients", uri := "message:ToRecipients", kind := .record, isList := true,
      searchable := false }]

def standard : Catalog := ofFields "Item" standardFields

/-- The fields stand in the order of their names already. -/
theorem standard_eq : standard = ⟨"Item", standardFields⟩ := rfl

end Sift.Catalog
