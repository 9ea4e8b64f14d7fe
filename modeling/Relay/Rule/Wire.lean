import Relay.Json.Printer
import Relay.Rule.Basic
import Relay.Schema

/-!
# Rules as they are written

A written rule is one flat record: a type and the fields that rules of any type may have. Each type owns
some of the fields and leaves the others aside. Writing a rule and reading it again gives the same
rule.
-/

namespace Relay

structure RuleRecord where
  type : String := ""
  headerName : Option String := none
  headerValue : Option String := none
  required : Bool := false
  jsonPath : Option String := none
  oldValue : Option String := none
  newValue : Option String := none
  paramName : Option String := none
  paramValue : Option String := none
  metadata : Option (Json.Members Json) := none
  jsonPaths : Option (List String) := none
  fieldToRemove : Option String := none
  oldFieldName : Option String := none
  newFieldName : Option String := none

namespace RuleRecord
open Schema

/-- The fields of a written rule, in order; each may be missing. -/
def record : Record RuleRecord where
  name := "RawRule"
  closed := false
  blank := {}
  fields := [
    field "Type" text fun x r => { r with type := x },
    field "HeaderName" (optional text) fun x r => { r with headerName := x },
    field "HeaderValue" (optional text) fun x r => { r with headerValue := x },
    field "Required" flag fun x r => { r with required := x },
    field "JsonPath" (optional text) fun x r => { r with jsonPath := x },
    field "OldValue" (optional text) fun x r => { r with oldValue := x },
    field "NewValue" (optional text) fun x r => { r with newValue := x },
    field "ParamName" (optional text) fun x r => { r with paramName := x },
    field "ParamValue" (optional text) fun x r => { r with paramValue := x },
    field "Metadata" (optional members) fun x r => { r with metadata := x },
    field "JsonPaths" (optional (listOf text)) fun x r => { r with jsonPaths := x },
    field "FieldToRemove" (optional text) fun x r => { r with fieldToRemove := x },
    field "OldFieldName" (optional text) fun x r => { r with oldFieldName := x },
    field "NewFieldName" (optional text) fun x r => { r with newFieldName := x }]

/-- A member that is written only when it has a value. -/
def written (name : String) (value : Option Json) : List (String × Json) :=
  match value with
  | some v => [(name, v)]
  | none => []

/-- The members of a written rule, in the order of the fields. -/
def toJson (r : RuleRecord) : Json :=
  .obj <|
    [("Type", .str r.type)] ++
    written "HeaderName" (r.headerName.map .str) ++
    written "HeaderValue" (r.headerValue.map .str) ++
    (if r.required then [("Required", .bool true)] else []) ++
    written "JsonPath" (r.jsonPath.map .str) ++
    written "OldValue" (r.oldValue.map .str) ++
    written "NewValue" (r.newValue.map .str) ++
    written "ParamName" (r.paramName.map .str) ++
    written "ParamValue" (r.paramValue.map .str) ++
    written "Metadata" (r.metadata.map .obj) ++
    written "JsonPaths" (r.jsonPaths.map fun paths => .arr (paths.map .str)) ++
    written "FieldToRemove" (r.fieldToRemove.map .str) ++
    written "OldFieldName" (r.oldFieldName.map .str) ++
    written "NewFieldName" (r.newFieldName.map .str)

end RuleRecord

namespace Rule

def ofRecord (r : RuleRecord) : Rule :=
  match r.type with
  | "ValidateHeader" => validateHeader r.headerName r.required
  | "AddHeader" => addHeader r.headerName r.headerValue
  | "ModifyJsonBody" => modifyJsonBody r.jsonPath r.oldValue r.newValue
  | "ModifyQueryParam" => modifyQueryParam r.paramName r.paramValue
  | "MaskSensitiveData" => maskSensitiveData (r.jsonPaths.getD [])
  | "RemoveJsonField" => removeJsonField r.fieldToRemove
  | "RenameJsonField" => renameJsonField r.oldFieldName r.newFieldName
  | "InjectMetadata" => injectMetadata r.jsonPath (r.metadata.getD [])
  | "ModifyJsonValue" => modifyJsonValue r.jsonPath r.oldValue r.newValue
  | type => unknown type

def toRecord (rule : Rule) : RuleRecord :=
  match rule with
  | validateHeader header required =>
    { type := rule.type, headerName := header, required := required }
  | addHeader header value => { type := rule.type, headerName := header, headerValue := value }
  | modifyJsonBody path expected value | modifyJsonValue path expected value =>
    { type := rule.type, jsonPath := path, oldValue := expected, newValue := value }
  | modifyQueryParam name value => { type := rule.type, paramName := name, paramValue := value }
  | maskSensitiveData paths => { type := rule.type, jsonPaths := some paths }
  | removeJsonField path => { type := rule.type, fieldToRemove := path }
  | renameJsonField old new => { type := rule.type, oldFieldName := old, newFieldName := new }
  | injectMetadata path metadata =>
    { type := rule.type, jsonPath := path, metadata := some metadata }
  | unknown type => { type := type }

def schema : Schema Rule := RuleRecord.record.schema.map ofRecord

def toJson (rule : Rule) : Json := rule.toRecord.toJson

end Rule
end Relay
