import PoolServer.Text.Decimal
/-!
# Response statuses

The six statuses the server answers with, their numeric codes and reason phrases. A status is
written as its code, a space and its reason phrase, as in `404 Not Found`.
-/
namespace PoolServer

/-- A response status. -/
inductive Status where
  | ok
  | badRequest
  | forbidden
  | notFound
  | internalServerError
  | notImplemented
  deriving DecidableEq, Repr

namespace Status

/-- The numeric code. -/
def code : Status → Nat
  | .ok => 200
  | .badRequest => 400
  | .forbidden => 403
  | .notFound => 404
  | .internalServerError => 500
  | .notImplemented => 501

/-- The reason phrase. -/
def reason : Status → String
  | .ok => "OK"
  | .badRequest => "Bad Request"
  | .forbidden => "Forbidden"
  | .notFound => "Not Found"
  | .internalServerError => "Internal Server Error"
  | .notImplemented => "Not Implemented"

/-- The code and the reason phrase, as on a status line. -/
def display (s : Status) : String := Decimal.text s.code ++ " " ++ s.reason

/-- Only `200 OK` is a success. -/
def isSuccess (s : Status) : Bool := s.code == 200

/-- Codes 400 to 499 blame the client. -/
def isClientError (s : Status) : Bool := 400 ≤ s.code && s.code ≤ 499

/-- Codes 500 to 599 blame the server. -/
def isServerError (s : Status) : Bool := 500 ≤ s.code && s.code ≤ 599

theorem isSuccess_iff (s : Status) : s.isSuccess = true ↔ s = .ok := by
  cases s <;> decide

example : notFound.display = "404 Not Found" := by decide

end Status

end PoolServer
