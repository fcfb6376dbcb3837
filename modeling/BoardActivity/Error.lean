import BoardActivity.Ident
import BoardActivity.Url.Failure

/-!
# Errors

Why an operation failed. A `Violation` is a caller's mistake, found before anything was written; a
`StoreFault` is trouble in storage; the remaining causes are constructors of `Error` itself. The
wording of every cause is in one place, the `message` functions.
-/

namespace BoardActivity

/-- A mistake in what the caller asked for. -/
inductive Violation where
  | blankCardTitle
  | blankCommentBody
  | blankEventAction
  | blankWebhookName
  | unknownEventableKind (text : String)
  | unknownTaskKind (text : String)
  /-- The first user of a list who does not exist. -/
  | missingMember (role : String) (user : Ident)
  /-- The first user of a list who belongs to another account. -/
  | foreignMember (role : String) (user : Ident)
  | foreignCardCreator
  | foreignCommentCreator
  | foreignEventBoard
  | foreignEventCreator
  | foreignBoard
  | alreadyPublished
  | alreadyClosed
  | closedDraft
  | notClosedOrPostponed
  | alreadyPostponed
  | postponedDraft
  | alreadyAssigned
  | notAssigned
  | alreadyOnBoard
  | invalidUrl (failure : Url.Failure)
  | unsupportedScheme (scheme : String)
  | unavailableAction (action : String)
  | other (text : String)
deriving Repr, DecidableEq

namespace Violation

def message : Violation → String
  | blankCardTitle => "card title can't be blank"
  | blankCommentBody => "comment body can't be blank"
  | blankEventAction => "event action can't be blank"
  | blankWebhookName => "webhook name can't be blank"
  | unknownEventableKind text => "unknown eventable kind: " ++ text
  | unknownTaskKind text => "unknown fanout kind: " ++ text
  | missingMember role user => role ++ " " ++ user.text ++ " does not exist"
  | foreignMember role user => role ++ " " ++ user.text ++ " belongs to another account"
  | foreignCardCreator => "card creator belongs to another account"
  | foreignCommentCreator => "comment creator belongs to another account"
  | foreignEventBoard => "event board belongs to another account"
  | foreignEventCreator => "event creator belongs to another account"
  | foreignBoard => "board belongs to another account"
  | alreadyPublished => "card is already published"
  | alreadyClosed => "card is already closed"
  | closedDraft => "can't close a draft"
  | notClosedOrPostponed => "card is not closed or postponed"
  | alreadyPostponed => "card is already postponed"
  | postponedDraft => "can't postpone a draft"
  | alreadyAssigned => "users are already assigned"
  | notAssigned => "users are not assigned"
  | alreadyOnBoard => "card is already on that board"
  | invalidUrl failure => "invalid webhook url: " ++ failure.message
  | unsupportedScheme scheme => "webhook url must use http or https, got " ++ scheme
  | unavailableAction action => "action " ++ action ++ " is not available for webhooks"
  | other text => text

end Violation

inductive StoreFault where
  | duplicateEvent (event : Ident)
  | deletedCard (card : Ident)
  | unknownTaskStatus (text : String)
  | unknownDeliveryState (text : String)
  | unknownCardStatus (text : String)
  | injectedNotificationFailure
  /-- The operation needed a connection and the pool of connections was closed. -/
  | poolClosed (operation : String)
  | other (text : String)
deriving Repr, DecidableEq

/-- What a closed pool of connections answers. -/
def poolClosedText : String := "attempted to acquire a connection on a closed pool"

namespace StoreFault

def message : StoreFault → String
  | duplicateEvent event => "duplicate event id " ++ event.text
  | deletedCard card => "card " ++ card.text ++ " was deleted"
  | unknownTaskStatus text => "unknown task status: " ++ text
  | unknownDeliveryState text => "unknown delivery state: " ++ text
  | unknownCardStatus text => "unknown card status: " ++ text
  | injectedNotificationFailure => "injected notification failure"
  | poolClosed operation => operation ++ ": " ++ poolClosedText
  | other text => text

end StoreFault

/-- A setting that the fanout cannot run with. -/
inductive ConfigFault where
  | unpermittedAction (action : String)
  | zeroThreshold
  | other (text : String)
deriving Repr, DecidableEq

namespace ConfigFault

def message : ConfigFault → String
  | unpermittedAction action => "action " ++ action ++ " can't be permitted for webhooks"
  | zeroThreshold => "delinquency threshold must be at least 1"
  | other text => text

end ConfigFault

inductive Error where
  | validation (violation : Violation)
  | notFound (thing : String) (id : Ident)
  /-- What had to happen together with an event failed. -/
  | reaction (text : String)
  | store (fault : StoreFault)
  | delivery (text : String)
  /-- The task was reclaimed after this worker claimed it. -/
  | claimLost (task : Ident)
  | configuration (fault : ConfigFault)
  | internal (text : String)
deriving Repr, DecidableEq

namespace Error

def message : Error → String
  | validation v => "Validation failed: " ++ v.message
  | notFound thing id => thing ++ " not found: " ++ id.text
  | reaction text => "Event reaction failed: " ++ text
  | store fault => "Store error: " ++ fault.message
  | delivery text => "Delivery error: " ++ text
  | claimLost task => "Claim lost on task " ++ task.text
  | configuration fault => "Configuration error: " ++ fault.message
  | internal text => "Internal error: " ++ text

/-- The name of the kind of error, as reports and answers carry it. -/
def kind : Error → String
  | validation _ => "Validation"
  | notFound _ _ => "NotFound"
  | reaction _ => "Reaction"
  | store _ => "Store"
  | delivery _ => "Delivery"
  | claimLost _ => "ClaimLost"
  | configuration _ => "Configuration"
  | internal _ => "Internal"

def isValidation : Error → Bool
  | validation _ => true
  | _ => false

def isClaimLost : Error → Bool
  | claimLost _ => true
  | _ => false

end Error

end BoardActivity
