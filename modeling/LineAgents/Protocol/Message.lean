import LineAgents.Json.Parser
import LineAgents.Json.Printer
import LineAgents.Value

/-!
# Requests and responses

One line of input is one **request** if it is a JSON object: it names a method, may carry
parameters, and has an id, which is `null` when it is not given. One line of output is one
**response**: the id of the request, a result, and an error, one of the last two being `null`.

Decoding accepts exactly the JSON objects; a method that is no text is the empty one. Encoding
never fails: a result without a JSON form is answered by an error in its place, and an error
without one by the same error. Values may be nested to any depth here; that an engine runs out of
stack some thousands of levels down is left out.
-/

namespace LineAgents

/-- **A request.** -/
structure Request where
  method : Text
  params : Option Json
  id : Json

/-- **A response.** -/
structure Response where
  id : Json
  result : Value
  error : Value

namespace Request

/-- The request that an object stands for. -/
def ofFields (fs : Fields) : Request where
  method := ((fs.get? "method").bind Json.text?).getD []
  params := fs.get? "params"
  id := (fs.get? "id").getD .null

/-- The request on a line, if the line is a JSON object. -/
def decode? (line : Text) : Option Request :=
  match Json.parse? line with
  | some (.obj fs) => some (ofFields fs)
  | _ => none

end Request

namespace Response

/-- The error of a result that has no JSON form. -/
def notSerializable : Text := "Result is not JSON-serializable"

/-- The object of a response; a result or an error that is absent is left out. -/
def toJson (r : Response) : Json :=
  .obj ((Text.ofString "id", r.id) ::
    (Value.fieldToJson (Text.ofString "result", r.result) ++
      Value.fieldToJson (Text.ofString "error", r.error)))

/-- **The line of a response**, without the line end. -/
def encode (r : Response) : Text :=
  if r.result.serializable && r.error.serializable then r.toJson.render
  else (⟨r.id, .null, .str notSerializable⟩ : Response).toJson.render

end Response

end LineAgents
