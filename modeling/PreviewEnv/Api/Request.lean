import PreviewEnv.Cluster.Error
import PreviewEnv.Manifest.ShapeReader
import PreviewEnv.Tree.Json

/-!
Requests to the API of a cluster and its replies. A request is sent to the path of an address, of
which a query and a fragment are not part. A reply whose code says that the request has failed is a
refusal: the one that its body describes, or one made up from the code.
-/

namespace PreviewEnv.Api

inductive Method where
  | get
  | post
  | put
  | patch
  | watch
deriving DecidableEq, Repr

namespace Method

def text : Method → String
  | get => "GET"
  | post => "POST"
  | put => "PUT"
  | patch => "PATCH"
  | watch => "WATCH"

/-- The method that a word stands for. -/
def ofText? (s : String) : Option Method :=
  [get, post, put, patch, watch].find? fun m => m.text = s

end Method

/-- Whether a character may stand in an address as it is, before the query. -/
def isPathChar (c : Char) : Bool :=
  0x21 ≤ c.toNat && c.toNat ≠ 0x7f && c ∉ ['#', '<', '>', '?', '\x60']

/-- Whether a character may stand in the query of an address as it is. -/
def isQueryChar (c : Char) : Bool :=
  0x21 ≤ c.toNat && c.toNat ≠ 0x7f && c ∉ ['\x22', '#', '<', '>']

/-- The query at the beginning of a text, if one begins there. -/
def queryOf : List Char → List Char
  | '?' :: rest => rest.takeWhile (· ≠ '#')
  | _ => []

/-- The path of an address, if the address has no characters that would have to be encoded. -/
def pathOf? (address : String) : Option String :=
  let isPart (c : Char) : Bool := c ≠ '?' && c ≠ '#'
  let path := address.toList.takeWhile isPart
  if path.all isPathChar && (queryOf (address.toList.dropWhile isPart)).all isQueryChar then
    some (.ofList path)
  else none

structure Request where
  method : Method
  path : String
  body : Option Tree
deriving DecidableEq

/-- What a reply holds: a tree as JSON, or some text, or nothing so far, but without an end. -/
inductive Body where
  | tree (t : Tree)
  | text (s : String)
  | unending

namespace Body

def asText : Body → String
  | tree t => t.json
  | text s => s
  | unending => ""

end Body

structure Reply where
  code : Nat
  body : Body

/-- The phrase that belongs to a code that says that a request has failed. -/
def phrase (code : Nat) : String :=
  match code with
  | 400 => "Bad Request"
  | 401 => "Unauthorized"
  | 402 => "Payment Required"
  | 403 => "Forbidden"
  | 404 => "Not Found"
  | 405 => "Method Not Allowed"
  | 406 => "Not Acceptable"
  | 407 => "Proxy Authentication Required"
  | 408 => "Request Timeout"
  | 409 => "Conflict"
  | 410 => "Gone"
  | 411 => "Length Required"
  | 412 => "Precondition Failed"
  | 413 => "Payload Too Large"
  | 414 => "URI Too Long"
  | 415 => "Unsupported Media Type"
  | 416 => "Range Not Satisfiable"
  | 417 => "Expectation Failed"
  | 418 => "I'm a teapot"
  | 421 => "Misdirected Request"
  | 422 => "Unprocessable Entity"
  | 423 => "Locked"
  | 424 => "Failed Dependency"
  | 425 => "Too Early"
  | 426 => "Upgrade Required"
  | 428 => "Precondition Required"
  | 429 => "Too Many Requests"
  | 431 => "Request Header Fields Too Large"
  | 451 => "Unavailable For Legal Reasons"
  | 500 => "Internal Server Error"
  | 501 => "Not Implemented"
  | 502 => "Bad Gateway"
  | 503 => "Service Unavailable"
  | 504 => "Gateway Timeout"
  | 505 => "HTTP Version Not Supported"
  | 506 => "Variant Also Negotiates"
  | 507 => "Insufficient Storage"
  | 508 => "Loop Detected"
  | 510 => "Not Extended"
  | 511 => "Network Authentication Required"
  | _ => "<unknown status code>"

/-- A refusal, as the cluster describes it. -/
def refusalShape : Shape := .record "struct ErrorResponse" .strict [
  .mk "status" .required .text,
  .mk "message" (.default (.str "")) .text,
  .mk "reason" (.default (.str "")) .text,
  .mk "code" .required (.integer false 16)]

/-- The refusal that a text describes. -/
def refusal? (text : String) : Option Refusal := do
  let t ← (refusalShape.ofJson text).toOption
  return ⟨t.textAt ["status"], t.textAt ["message"], t.textAt ["reason"],
    (((t.get? "code").bind Tree.int?).getD 0).toNat⟩

namespace Reply

/-- The reply that refuses a request. -/
def refuse (code : Nat) (reason message : String) : Reply :=
  ⟨code, .tree (.ofEntries [("code", .int code), ("kind", .str "Status"), ("message", .str message),
    ("reason", .str reason), ("status", .str "Failure")])⟩

/-- The refusal of a reply whose code says that the request has failed. -/
def refusal (r : Reply) : Refusal :=
  match refusal? r.body.asText with
  | some refusal => refusal
  | none => ⟨toString r.code ++ " " ++ phrase r.code, Text.quote r.body.asText,
      "Failed to parse error data", r.code⟩

/-- What a reply says, which is of the given shape. -/
def decode (shape : Shape) (r : Reply) : Except ClusterError Tree :=
  if 400 ≤ r.code ∧ r.code < 600 then .error (.refused r.refusal)
  else (shape.ofJson r.body.asText).mapError fun fault => .unreadable fault.text

end Reply

/-- Sends a request to an address. -/
def sendTo {m : Type → Type} [Monad m] (send : Request → m Reply) (method : Method)
    (address : String) (body : Option Tree) : m (Except ClusterError Reply) :=
  match pathOf? address with
  | none => return .error .badAddress
  | some path => .ok <$> send ⟨method, path, body⟩

/-- Sends a request to an address; gives what the reply says. -/
def ask {m : Type → Type} [Monad m] (send : Request → m Reply) (shape : Shape) (method : Method)
    (address : String) (body : Option Tree) : m (Except ClusterError Tree) := do
  return (← sendTo send method address body).bind (Reply.decode shape)

end PreviewEnv.Api
