import Eventhub.Bytes
import Eventhub.Lib.Decimal

set_option autoImplicit false

namespace Eventhub.Http

structure Response where
  statusCode : Nat
  headers : AList (fun _ : Bytes => Bytes)
  body : Bytes

def getStatusMsg (statusCode : Nat) : Bytes :=
  match statusCode with
  | 200 => str "OK"
  | 204 => str "No Content"
  | 100 => str "Continue"
  | 101 => str "Switching Protocols"
  | 400 => str "Bad Request"
  | 401 => str "Unauthorized"
  | 403 => str "Forbidden"
  | 404 => str "Not Found"
  | 405 => str "Method not allowed"
  | 411 => str "Length Required"
  | 413 => str "Request Entity Too Large"
  | 501 => str "Not Implemented"
  | _ => str "OK"

def Response.setHeader (response : Response) (name value : Bytes) : Response :=
  { response with headers := response.headers.insert name value }

def Response.make (statusCode : Nat) (headers : List (Bytes × Bytes)) (body : Bytes) : Response :=
  headers.foldl (fun response header => response.setHeader header.1 header.2) ⟨statusCode, ∅, body⟩

def crlf : Bytes := [13, 10]

-- Content-Length is set for a body that ends with the connection, and only
-- where both header names are written this way.
def Response.sized (response : Response) : Response :=
  match response.headers.lookup (str "Connection"), response.headers.lookup (str "Content-Type") with
  | some connection, some contentType =>
      if contentType ≠ str "text/event-stream" ∧ connection = str "close" ∧ response.body.length > 0 then
        response.setHeader (str "Content-Length") (Decimal.text response.body.length)
      else response
  | _, _ => response

def Response.typed (response : Response) : Response :=
  if str "Content-Type" ∈ response.headers then response
  else if response.statusCode = 200 ∧ response.body ≠ [] then response.setHeader (str "Content-Type") (str "text/html")
  else response

-- The order in which the map lists the headers is unspecified.
def Response.get (response : Response) : Bytes :=
  let final := response.sized.typed
  str "HTTP/1.1 " ++ Decimal.text final.statusCode ++ str " " ++ getStatusMsg final.statusCode ++ crlf ++
    final.headers.entries.flatMap (fun header => header.1 ++ str ": " ++ header.2 ++ crlf) ++ crlf ++ final.body

end Eventhub.Http
