import BoardActivity.Proofs.ByteOrder
import BoardActivity.Webhook
import Mathlib.Data.List.Perm.Basic

/-!
# Changes of subscriptions

A webhook is validated when it is made, and again with the new actions at each request to change
them. Name and address stay as they are, so that once they passed the check only the actions of a
request decide (`Webhook.changeActions_eq`): a request is accepted if all of them may be sent
outside, and otherwise leaves no trace. Hence after any history of requests the webhook is valid, and
subscribes to the actions of the last accepted one.
-/

namespace BoardActivity

namespace ActionSet

variable {s t : ActionSet} {allowed : List String} {a : String}

theorem ext_mem (h : ∀ a, a ∈ s ↔ a ∈ t) : s = t := by
  refine eq_of_names (List.Perm.eq_of_pairwise (fun a b _ _ hab hba => ?_) s.increasing
    t.increasing ?_)
  · exact absurd hba (String.lt_asymm hab)
  · have hs : s.names.Nodup := s.increasing.imp fun hlt => String.ne_of_lt hlt
    have ht : t.names.Nodup := t.increasing.imp fun hlt => String.ne_of_lt hlt
    exact (List.perm_ext_iff_of_nodup hs ht).2 h

theorem ofList_congr {l m : List String} (h : ∀ a, a ∈ l ↔ a ∈ m) : ofList l = ofList m :=
  ext_mem fun a => mem_ofList.trans ((h a).trans mem_ofList.symm)

theorem firstOutside?_eq_none_iff : s.firstOutside? allowed = none ↔ ∀ a ∈ s, a ∈ allowed := by
  simp only [firstOutside?, List.find?_eq_none, decide_eq_true_eq, not_not]
  exact Iff.rfl

/-- The first name outside is the least. -/
theorem least_of_firstOutside? (h : s.firstOutside? allowed = some a) :
    (a ∈ s ∧ a ∉ allowed) ∧ ∀ b ∈ s, b ∉ allowed → b = a ∨ a < b := by
  obtain ⟨hout, before, after, hnames, hbefore⟩ := List.find?_eq_some_iff_append.1 h
  have hmem : a ∈ s.names := by
    rw [hnames]
    exact List.mem_append_right _ List.mem_cons_self
  refine ⟨⟨hmem, of_decide_eq_true hout⟩, fun b hb hbout => ?_⟩
  have hlater : ∀ x ∈ after, a < x := by
    have hincreasing := s.increasing
    rw [hnames] at hincreasing
    exact (List.pairwise_cons.1 (List.pairwise_append.1 hincreasing).2.1).1
  have hmem : b ∈ before ++ a :: after := hnames ▸ hb
  rcases List.mem_append.1 hmem with hb | hb
  · have hin := hbefore b hb
    simp only [hbout, not_false_eq_true, decide_true, Bool.not_true, Bool.false_eq_true] at hin
  · exact (List.mem_cons.1 hb).imp_right (hlater b)

end ActionSet

namespace Webhook

variable {w v : Webhook} {actions request request' : List String}

/-- The requests, in turn, that a webhook accepts. -/
def accepted (w : Webhook) : List (List String) → List (List String)
  | [] => []
  | request :: requests =>
    let (result, w) := w.changeActions request
    if result = .ok () then request :: w.accepted requests else w.accepted requests

def afterRequests (w : Webhook) (requests : List (List String)) : Webhook :=
  requests.foldl (fun w request => (w.changeActions request).2) w

/-- A webhook that passed the check fails it only for its actions. -/
theorem validate_with (h : w.validate = .ok ()) (subscribed : ActionSet) :
    ({ w with subscribed } : Webhook).validate =
      match subscribed.firstOutside? Action.permitted with
      | some action => .error (.validation (.unavailableAction action))
      | none => .ok () := by
  simp only [validate] at h ⊢
  split_ifs at h ⊢
  split at h
  · cases h
  · split_ifs at h ⊢
    rfl

theorem changeActions_eq (h : w.validate = .ok ()) (request : List String) :
    w.changeActions request =
      match (ActionSet.ofList request).firstOutside? Action.permitted with
      | some action => (.error (.validation (.unavailableAction action)), w)
      | none => (.ok (), { w with subscribed := .ofList request }) := by
  simp only [changeActions, validate_with h]
  cases (ActionSet.ofList request).firstOutside? Action.permitted <;> rfl

/-- Order and repetition of the actions do not matter. -/
theorem changeActions_congr (h : ∀ a, a ∈ request' ↔ a ∈ request) (w : Webhook) :
    w.changeActions request' = w.changeActions request := by
  rw [changeActions, changeActions, ActionSet.ofList_congr h]

theorem changeActions_of_permitted (h : w.validate = .ok ())
    (hall : ∀ a ∈ request, a ∈ Action.permitted) :
    w.changeActions request = (.ok (), { w with subscribed := .ofList request }) := by
  have hnone : (ActionSet.ofList request).firstOutside? Action.permitted = none :=
    ActionSet.firstOutside?_eq_none_iff.2 fun a ha => hall a (ActionSet.mem_ofList.1 ha)
  rw [changeActions_eq h, hnone]

/-- A refused request leaves no trace. -/
theorem changeActions_of_unpermitted (h : w.validate = .ok ())
    (hsome : ¬∀ a ∈ request, a ∈ Action.permitted) :
    ∃ a ∈ request, a ∉ Action.permitted ∧
      (∀ b ∈ request, b ∉ Action.permitted → b = a ∨ a < b) ∧
      w.changeActions request = (.error (.validation (.unavailableAction a)), w) := by
  cases hout : (ActionSet.ofList request).firstOutside? Action.permitted with
  | none =>
      refine absurd (fun a ha => ?_) hsome
      exact ActionSet.firstOutside?_eq_none_iff.1 hout a (ActionSet.mem_ofList.2 ha)
  | some a =>
      obtain ⟨⟨hmem, hnot⟩, hleast⟩ := ActionSet.least_of_firstOutside? hout
      refine ⟨a, ActionSet.mem_ofList.1 hmem, hnot, fun b hb => ?_, ?_⟩
      · exact hleast b (ActionSet.mem_ofList.2 hb)
      · rw [changeActions_eq h, hout]

theorem changeActions_eq_ok_iff (h : w.validate = .ok ()) :
    (w.changeActions request).1 = .ok () ↔ ∀ a ∈ request, a ∈ Action.permitted := by
  refine ⟨fun hok => ?_, fun hall => by rw [changeActions_of_permitted h hall]⟩
  by_contra hsome
  obtain ⟨a, -, -, -, heq⟩ := changeActions_of_unpermitted h hsome
  rw [heq] at hok
  cases hok

structure Serves (w : Webhook) (actions : List String) (v : Webhook) : Prop where
  valid : v.validate = .ok ()
  eq : v = { w with subscribed := .ofList actions }

theorem serves_of_create {id account board : Ident} {name url : String} {now : Instant}
    (h : create id account board name url actions now = .ok w) : w.Serves actions w := by
  simp only [create] at h
  split at h
  · next hvalid =>
      cases h
      exact ⟨hvalid, rfl⟩
  · cases h

theorem Serves.changeActions (h : w.Serves actions v) (request : List String) :
    w.Serves (if (v.changeActions request).1 = .ok () then request else actions)
      (v.changeActions request).2 := by
  by_cases hall : ∀ a ∈ request, a ∈ Action.permitted
  · have heq := changeActions_of_permitted h.valid hall
    have hvalid : ({ v with subscribed := .ofList request } : Webhook).validate = .ok () := by
      rw [validate_with h.valid, ActionSet.firstOutside?_eq_none_iff.2]
      exact fun a ha => hall a (ActionSet.mem_ofList.1 ha)
    rw [heq]
    refine ⟨hvalid, ?_⟩
    rw [h.eq]
    rfl
  · obtain ⟨a, -, -, -, heq⟩ := changeActions_of_unpermitted h.valid hall
    rw [heq]
    exact h

theorem Serves.afterRequests (h : w.Serves actions v) (requests : List (List String)) :
    w.Serves ((v.accepted requests).getLastD actions) (v.afterRequests requests) := by
  induction requests generalizing v actions with
  | nil => exact h
  | cons request requests ih =>
      have hrest := ih (h.changeActions request)
      rw [afterRequests, List.foldl_cons]
      simp only [accepted]
      split_ifs at hrest ⊢ with hok
      · rw [List.getLastD_cons]
        exact hrest
      · exact hrest

/-- A webhook, once made, is valid and itself but for its actions after any requests to change
these, and subscribes to those of the last accepted request. Of a further request the set of its
actions counts. It is accepted if and only if all of them may be sent outside: then they are the
actions subscribed to and all else is as before. Otherwise the webhook is as before, and of the
actions that may not be sent the answer tells the one whose bytes come first. -/
theorem subscriptions_of_requests {id account board : Ident} {name url : String}
    {actions : List String} {now : Instant} {w : Webhook}
    (h : create id account board name url actions now = .ok w) (requests : List (List String)) :
    let v := w.afterRequests requests
    (v.validate = .ok () ∧ v = { w with subscribed := v.subscribed } ∧
      ∀ a, v.subscribesTo a = true ↔ a ∈ (w.accepted requests).getLastD actions) ∧
    ∀ request,
      (∀ request', (∀ a, a ∈ request' ↔ a ∈ request) →
        v.changeActions request' = v.changeActions request) ∧
      ((v.changeActions request).1 = .ok () ↔ ∀ a ∈ request, a ∈ Action.permitted) ∧
      ((v.changeActions request).1 = .ok () →
        ∃ v', v.changeActions request = (.ok (), v') ∧ v' = { v with subscribed := v'.subscribed } ∧
          ∀ a, v'.subscribesTo a = true ↔ a ∈ request) ∧
      ((v.changeActions request).1 ≠ .ok () →
        ∃ a ∈ request, a ∉ Action.permitted ∧
          (∀ b ∈ request, b ∉ Action.permitted → b = a ∨ Text.bytes a < Text.bytes b) ∧
          ∃ e, v.changeActions request = (.error e, v) ∧
            e.message = "Validation failed: action " ++ a ++ " is not available for webhooks") := by
  intro v
  have hv : w.Serves ((w.accepted requests).getLastD actions) v :=
    (serves_of_create h).afterRequests requests
  have hvalid := hv.valid
  refine ⟨⟨hvalid, by rw [hv.eq], fun a => ?_⟩, fun request => ⟨fun request' hsame => ?_,
    changeActions_eq_ok_iff hvalid, fun hok => ?_, fun hrefused => ?_⟩⟩
  · rw [hv.eq, subscribesTo, decide_eq_true_iff, ActionSet.mem_ofList]
  · exact changeActions_congr hsame v
  · refine ⟨_, changeActions_of_permitted hvalid ((changeActions_eq_ok_iff hvalid).1 hok), rfl,
      fun a => ?_⟩
    rw [subscribesTo, decide_eq_true_iff, ActionSet.mem_ofList]
  · obtain ⟨a, ha, hnot, hleast, heq⟩ := changeActions_of_unpermitted hvalid
      (mt (changeActions_eq_ok_iff hvalid).2 hrefused)
    refine ⟨a, ha, hnot, fun b hb hbnot => ?_, _, heq, ?_⟩
    · exact (hleast b hb hbnot).imp_right Text.bytes_lt_iff.2
    · change "Validation failed: " ++ ("action " ++ a ++ " is not available for webhooks") = _
      simp only [← String.append_assoc, String.reduceAppend]

/-- A request that is refused, between two that are not. -/
theorem subscriptions_of_requests_refused :
    let w : Webhook := ⟨⟨1⟩, ⟨9⟩, ⟨2⟩, "hook", "https://example.com/hooks", true,
      .ofList ["card_closed"], ⟨0, 0⟩⟩
    let v := w.afterRequests [["comment_created", "card_closed"], ["nope", "card_closed", "Nope"]]
    create ⟨1⟩ ⟨9⟩ ⟨2⟩ "hook" "https://example.com/hooks" ["card_closed"] ⟨0, 0⟩ = .ok w ∧
      v.validate = .ok () ∧ v.subscribesTo "comment_created" = true ∧
      ∃ e, v.changeActions ["nope", "card_closed", "Nope"] = (.error e, v) := by
  intro w v
  have hw : create ⟨1⟩ ⟨9⟩ ⟨2⟩ "hook" "https://example.com/hooks" ["card_closed"] ⟨0, 0⟩ = .ok w := by
    decide +kernel
  obtain ⟨⟨hvalid, -, hsub⟩, hnext⟩ := subscriptions_of_requests hw
    [["comment_created", "card_closed"], ["nope", "card_closed", "Nope"]]
  obtain ⟨-, hiff, -, hrefused⟩ := hnext ["nope", "card_closed", "Nope"]
  refine ⟨hw, hvalid, (hsub _).2 ?_, ?_⟩
  · decide +kernel
  · obtain ⟨a, -, -, -, e, heq, -⟩ := hrefused (mt hiff.1 (by decide))
    exact ⟨e, heq⟩

end Webhook

end BoardActivity
