import BoardActivity.Card
import BoardActivity.Comment
import BoardActivity.Event
import BoardActivity.Notification
import BoardActivity.Wire.Basic

/-!
# Wire forms of records

Users, boards, cards, comments, events and notifications as JSON. Lists of users may be absent and
are empty then, and so may an event's particulars; null in their place is refused.
-/

namespace BoardActivity

open Wire

instance : Wire UserRole := ⟨fun r => .string r.name, fun j => j.constant?.bind UserRole.ofName?⟩

instance : Wire CardStatus :=
  ⟨fun s => .string s.name, fun j => j.constant?.bind CardStatus.ofName?⟩

instance : Wire EventableKind :=
  ⟨fun k => .string k.name, fun j => j.constant?.bind EventableKind.ofName?⟩

instance : Wire User where
  encode u := .object
    [("id", encode u.id), ("account_id", encode u.account), ("name", encode u.name),
     ("role", encode u.role)]
  decode? j := do
    let j ← j.record? ["id", "account_id", "name", "role"] 4
    return {
      id := ← j.field "id"
      account := ← j.field "account_id"
      name := ← j.field "name"
      role := ← j.field "role" }

instance : Wire Board where
  encode b := .object
    [("id", encode b.id), ("account_id", encode b.account), ("name", encode b.name),
     ("watcher_ids", encode b.watchers)]
  decode? j := do
    let j ← j.record? ["id", "account_id", "name", "watcher_ids"] 3
    return {
      id := ← j.field "id"
      account := ← j.field "account_id"
      name := ← j.field "name"
      watchers := ← j.withDefault "watcher_ids" [] decode? }

instance : Wire Card where
  encode c := .object
    [("id", encode c.id), ("account_id", encode c.account), ("board_id", encode c.board),
     ("title", encode c.title), ("status", encode c.status), ("creator_id", encode c.creator),
     ("assignee_ids", encode c.assignees), ("watcher_ids", encode c.watchers),
     ("mentionee_ids", encode c.mentionees), ("last_active_at", encode c.lastActiveAt),
     ("created_at", encode c.createdAt)]
  decode? j := do
    let j ← j.record? ["id", "account_id", "board_id", "title", "status", "creator_id",
      "assignee_ids", "watcher_ids", "mentionee_ids", "last_active_at", "created_at"] 11
    return {
      id := ← j.field "id"
      account := ← j.field "account_id"
      board := ← j.field "board_id"
      title := ← j.field "title"
      status := ← j.field "status"
      creator := ← j.field "creator_id"
      assignees := ← j.withDefault "assignee_ids" [] decode?
      watchers := ← j.withDefault "watcher_ids" [] decode?
      mentionees := ← j.withDefault "mentionee_ids" [] decode?
      lastActiveAt := ← j.field "last_active_at"
      createdAt := ← j.field "created_at" }

instance : Wire Comment where
  encode c := .object
    [("id", encode c.id), ("account_id", encode c.account), ("board_id", encode c.board),
     ("card_id", encode c.card), ("creator_id", encode c.creator), ("body", encode c.body),
     ("system", encode c.system), ("mentionee_ids", encode c.mentionees),
     ("created_at", encode c.createdAt)]
  decode? j := do
    let j ← j.record? ["id", "account_id", "board_id", "card_id", "creator_id", "body", "system",
      "mentionee_ids", "created_at"] 9
    return {
      id := ← j.field "id"
      account := ← j.field "account_id"
      board := ← j.field "board_id"
      card := ← j.field "card_id"
      creator := ← j.field "creator_id"
      body := ← j.field "body"
      system := ← j.field "system"
      mentionees := ← j.withDefault "mentionee_ids" [] decode?
      createdAt := ← j.field "created_at" }

instance : Wire EventableRef where
  encode r := .object [("type", encode r.kind), ("id", encode r.id)]
  decode? j := do
    let j ← j.record? ["type", "id"] 2
    return { kind := ← j.field "type", id := ← j.field "id" }

instance : Wire Event where
  encode e := .object
    [("id", encode e.id), ("account_id", encode e.account), ("board_id", encode e.board),
     ("creator_id", encode e.creator), ("eventable", encode e.eventable),
     ("action", encode e.action), ("particulars", .object e.particulars),
     ("created_at", encode e.createdAt)]
  decode? j := do
    let j ← j.record? ["id", "account_id", "board_id", "creator_id", "eventable", "action",
      "particulars", "created_at"] 8
    return {
      id := ← j.field "id"
      account := ← j.field "account_id"
      board := ← j.field "board_id"
      creator := ← j.field "creator_id"
      eventable := ← j.field "eventable"
      action := ← j.field "action"
      particulars := ← j.withDefault "particulars" [] Json.object?
      createdAt := ← j.field "created_at" }

instance : Wire EventableSummary where
  encode s := .object [("eventable", encode s.eventable), ("title", encode s.title)]
  decode? j := do
    let j ← j.record? ["eventable", "title"] 2
    return { eventable := ← j.field "eventable", title := ← j.field "title" }

instance : Wire Notification where
  encode n := .object
    [("id", encode n.id), ("user_id", encode n.user), ("event_id", encode n.event),
     ("creator_id", encode n.creator), ("created_at", encode n.createdAt),
     ("read_at", encodeOption n.readAt)]
  decode? j := do
    let j ← j.record? ["id", "user_id", "event_id", "creator_id", "created_at", "read_at"] 6
    return {
      id := ← j.field "id"
      user := ← j.field "user_id"
      event := ← j.field "event_id"
      creator := ← j.field "creator_id"
      createdAt := ← j.field "created_at"
      readAt := ← j.optional "read_at" decode? }

namespace EventScope

/-- A scope by its name and the identifier of what it is about. -/
def ofName? (name : String) (id : Ident) : Option EventScope :=
  match name with
  | "account" => some (.account id)
  | "board" => some (.board id)
  | "card" => some (.eventable (.card id))
  | "comment" => some (.eventable (.comment id))
  | _ => none

end EventScope

namespace Preload

/-- Reads a preload: `"all"`, a list of names, or nothing. -/
def read? : Json → Option Preload
  | .null => some .none
  | .string "all" => some .all
  | j => do (← j.array?).foldlM (fun p name => name.string?.bind p.withNamed?) .none

end Preload

/-- Reads a query: scope and identifier, and perhaps a preload and a limit below `2 ^ 64`. -/
def EventQuery.read? (j : Json) : Option EventQuery := do
  let scope ← EventScope.ofName? (← j.field "scope") (← j.field "id")
  let preload ← Preload.read? ((j.member? "preload").getD .null)
  return ⟨scope, preload, ← j.optional "limit" (Json.below? (pow2 64))⟩

end BoardActivity
