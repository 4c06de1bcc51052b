import SqlAssist.Buffer
import SqlAssist.Service

/-!
# The request server

A server answers an editor's requests for one buffer: `initialize` (the server's
capabilities), `textDocument/completion` and `shutdown`.

A request names its method and carries parameters; parameters that count as false are
read as an empty object.  A method that is not one of the three is refused with the
protocol's "method not found" error; a method that is a list or an object cannot even be
looked up.  A completion request needs an object `position` whose `line` and
`character` are integers (truth values count as 0 and 1), else it is refused as invalid
parameters; parameters that are not an object cannot be read at all.

The completion request is answered from the buffer: a line that does not exist offers
nothing; otherwise the cursor stands at column `character` of that line, and its offset
into the text up to that line is counted with the column clamped to the line's length,
so that the statement under it can be found.
-/

namespace SqlAssist

/-- A request the server refuses, as the editor protocol reports it. -/
inductive RpcError
  | methodNotFound (method : Value)
  | invalidParams (message : String)

namespace RpcError

/-- The protocol's error code. -/
def code : RpcError → Int
  | .methodNotFound _ => -32601
  | .invalidParams _ => -32602

/-- The error's message. -/
def message : RpcError → String
  | .methodNotFound m => "Method not found: " ++ m.display
  | .invalidParams m => m

/-- The name of the error's kind. -/
def kind : RpcError → String
  | .methodNotFound _ => "MethodNotFoundError"
  | .invalidParams _ => "InvalidParamsError"

/-- The protocol's error object. -/
def toValue (e : RpcError) : Value := .obj [("code", .int e.code), ("message", .str e.message)]

end RpcError

/-- Why a request fails: refused by the protocol, or something it needs cannot be read. -/
inductive Fault
  | rpc (e : RpcError)
  /-- A value misused: parameters that cannot be read by key, a method of a kind that
  cannot be looked up, or a name in the cache that stopped the completion. -/
  | misuse (m : Misuse)

namespace Fault

/-- The name of the failure's kind. -/
def kind : Fault → String
  | .rpc e => e.kind
  | .misuse m => m.kind

/-- The failure's message. -/
def message : Fault → String
  | .rpc e => e.message
  | .misuse m => m.message

end Fault

/-- The answer to a request, and the records logged while answering it. -/
structure Reply where
  outcome : Except Fault Value
  log : List Log.Record := []

/-- A server over one buffer. -/
structure Server where
  service : Service
  buffer : Buffer

namespace Server

/-- The component name of the server's records. -/
def component : String := "abcql.sqlintel.server"

/-- The characters after which an editor asks for completions. -/
def triggerCharacters : List String := [".", " "]

/-- The answer to `initialize`. -/
def capabilities : Value :=
  .obj [("capabilities", .obj [("completionProvider", .obj
    [("triggerCharacters", .list (triggerCharacters.map .str)), ("resolveProvider", .bool false)])])]

/-- The cursor line and column a completion request asks about. -/
def position (params : Value) : Except Fault (Int × Int) :=
  match params with
  | .obj _ =>
    match params.field? "position" with
    | some (.obj fs) =>
      let p := Value.obj fs
      match ((p.field? "line").bind Value.asInt?), ((p.field? "character").bind Value.asInt?) with
      | some l, some c => .ok (l, c)
      | _, _ => .error (.rpc (.invalidParams
          "Completion position needs integer 'line' and 'character'"))
    | _ => .error (.rpc (.invalidParams "Completion request is missing 'position'"))
  | other => .error (.misuse (.noAttribute other.kindName "get"))

/-- The items offered at a position, with the records logged; or the misuse that stopped
them. -/
def completeAt (s : Server) (lineIndex character : Int) :
    Except Misuse (List Completion.Item) × List Log.Record :=
  match s.buffer.line? lineIndex with
  | none => (.ok [], [])
  | some line =>
    let full := s.buffer.textThrough lineIndex
    s.service.complete line character (some full)
      (some (s.buffer.offsetOf lineIndex line character))

/-- The answer to a completion request. -/
def handleCompletion (s : Server) (params : Value) : Reply :=
  match position params with
  | .error f => ⟨.error f, []⟩
  | .ok (l, c) =>
    let (items, log) := s.completeAt l c
    match items with
    | .ok items => ⟨.ok (.list (items.map Completion.Item.toValue)), log⟩
    | .error m => ⟨.error (.misuse m), log⟩

/-- Answer a request, raising refusals. -/
def dispatch (s : Server) (method params : Value) : Reply :=
  match method with
  | .list _ | .obj _ => ⟨.error (.misuse (.unhashable method.kindName)), []⟩
  | .str "initialize" => ⟨.ok capabilities, []⟩
  | .str "shutdown" => ⟨.ok .null, []⟩
  | .str "textDocument/completion" =>
    s.handleCompletion (if params.isFalsy then .obj [] else params)
  | _ => ⟨.error (.rpc (.methodNotFound method)),
      [⟨.debug, component, "Rejecting unsupported method"⟩]⟩

/-- Answer a request, reporting refusals as the protocol's error object beside a `null`
result; other failures still fail. -/
def request (s : Server) (method params : Value) : Except Fault (Option RpcError × Value) ×
    List Log.Record :=
  let r := s.dispatch method params
  (match r.outcome with
    | .ok v => .ok (none, v)
    | .error (.rpc e) => .ok (some e, .null)
    | .error f => .error f, r.log)

end Server

end SqlAssist
