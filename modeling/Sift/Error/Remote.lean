/-
**What the store reports when it fails.**

A `RemoteError` concerns one item or one page. It is final: it takes the place of the item or of the
page in a result, and nothing is tried again.
-/

namespace Sift

/-- A failure that the store reports. -/
inductive RemoteError where
  /-- The store refused one item. -/
  | item (code message : String)
  | notFound (resource id : String)
  | auth (message : String)
  | network (message : String)
  /-- Any other failure of the store. -/
  | server (code message : String)
  deriving DecidableEq

namespace RemoteError

/-- An item that does not exist. -/
def itemNotFound (id : String) : RemoteError := .notFound "item" id

def message : RemoteError → String
  | .item code message => "item error " ++ code ++ ": " ++ message
  | .notFound resource id => resource ++ " not found: " ++ id
  | .auth message => "Auth error: " ++ message
  | .network message => "Network error: " ++ message
  | .server code message => "server error " ++ code ++ ": " ++ message

/-- Whether the failure may pass by itself. -/
def isRetryable : RemoteError → Bool
  | .network _ => true
  | _ => false

/-- The store's code for the failure, if it has one. -/
def code? : RemoteError → Option String
  | .item code _ | .server code _ => some code
  | _ => none

end RemoteError

end Sift
