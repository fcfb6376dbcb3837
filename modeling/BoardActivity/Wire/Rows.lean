import BoardActivity.Database.Rows
import BoardActivity.Wire.Deliveries

/-!
# Rows as JSON

Reading the rows of the database from objects whose members are named like the columns. Lists may
be absent, and counts must fit 32 bits with sign.
-/

namespace BoardActivity.Database

open Wire

/-- A column of a signed 32-bit integer. -/
def count? : Json → Option Int := Json.within? (-(pow2 31 : Int)) (pow2 31 - 1)

/-- A column of a list, empty where it is absent. -/
def listColumn [Wire α] (name : String) (j : Json) : Option (List α) :=
  (j.optional name decode?).map fun items => items.getD []

def UserRow.ofJson? (j : Json) : Option UserRow := do
  return {
    id := ← j.field "id"
    account := ← j.field "account_id"
    name := ← j.field "name"
    role := ← j.field "role" }

def CardRow.ofJson? (j : Json) : Option CardRow := do
  return {
    id := ← j.field "id"
    account := ← j.field "account_id"
    board := ← j.field "board_id"
    title := ← j.field "title"
    status := ← j.field "status"
    creator := ← j.field "creator_id"
    assignees := ← listColumn "assignee_ids" j
    watchers := ← listColumn "watcher_ids" j
    mentionees := ← listColumn "mentionee_ids" j
    lastActiveAt := ← j.field "last_active_at"
    createdAt := ← j.field "created_at" }

def EventRow.ofJson? (j : Json) : Option EventRow := do
  return {
    id := ← j.field "id"
    account := ← j.field "account_id"
    board := ← j.field "board_id"
    creator := ← j.field "creator_id"
    eventableKind := ← j.field "eventable_type"
    eventableId := ← j.field "eventable_id"
    action := ← j.field "action"
    particulars := (j.member? "particulars").getD .null
    createdAt := ← j.field "created_at" }

def WebhookRow.ofJson? (j : Json) : Option WebhookRow := do
  return {
    id := ← j.field "id"
    account := ← j.field "account_id"
    board := ← j.field "board_id"
    name := ← j.field "name"
    url := ← j.field "url"
    active := ← j.field "active"
    subscribed := ← listColumn "subscribed_actions" j
    createdAt := ← j.field "created_at" }

def DeliveryRow.ofJson? (j : Json) : Option DeliveryRow := do
  return {
    id := ← j.field "id"
    webhook := ← j.field "webhook_id"
    event := ← j.field "event_id"
    state := ← j.field "state"
    responseCode := ← j.optional "response_code" count?
    error := ← j.optional "error" decode?
    createdAt := ← j.field "created_at"
    updatedAt := ← j.field "updated_at" }

def TrackerRow.ofJson? (j : Json) : Option TrackerRow := do
  return {
    webhook := ← j.field "webhook_id"
    failures := ← j.required "consecutive_failures" count?
    firstFailureAt := ← j.optional "first_failure_at" decode? }

def ClaimRow.ofJson? (j : Json) : Option ClaimRow := do
  return {
    id := ← j.field "id"
    kind := ← j.field "kind"
    subject := ← j.field "subject_id"
    attempt := ← j.required "attempt" count?
    maxAttempts := ← j.required "max_attempts" count?
    claimedBy := ← j.field "claimed_by" }

/-- The row of a board holds the board as it is. -/
def boardOfJson? (j : Json) : Option Board := do
  return {
    id := ← j.field "id"
    account := ← j.field "account_id"
    name := ← j.field "name"
    watchers := ← listColumn "watcher_ids" j }

/-- The row of a comment holds the comment as it is. -/
def commentOfJson? (j : Json) : Option Comment := do
  return {
    id := ← j.field "id"
    account := ← j.field "account_id"
    board := ← j.field "board_id"
    card := ← j.field "card_id"
    creator := ← j.field "creator_id"
    body := ← j.field "body"
    system := ← j.field "system"
    mentionees := ← listColumn "mentionee_ids" j
    createdAt := ← j.field "created_at" }

end BoardActivity.Database
