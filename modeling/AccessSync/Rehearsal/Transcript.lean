import AccessSync.Rehearsal.Script

/-!
# Transcripts

The transcript of a rehearsal shows every call that the outside can observe, in order.
-/

namespace AccessSync.Transcript

def texts (xs : List String) : Value := .list (xs.map .text)

def clientWords : ManagementClient → List String
  | .authorization sub => ["authorization", sub]
  | .resources sub => ["resources", sub]
  | .storage sub => ["storage", sub]
  | .subscriptions => ["subscriptions"]
  | .blobs url => ["blob", url]

def arguments : Operation → List Value
  | .createAssignment _ name definition principal =>
    [.text name, .record [("role_definition_id", .text definition),
      ("principal_id", .text principal)]]
  | _ => []

/-- A call as a value, if it can be observed. -/
def line? : Call → Option Value
  | .request r => some (.list [.text "directory", .text r.method, .text r.url, r.body.getD .null])
  | .clientToken client authority secret scopes =>
    some (.list [.text "identity", client, .text authority, secret, texts scopes])
  | .openClient client => some (texts ("client" :: clientWords client))
  | .listPage listing token =>
    some (.list [.text "page", .text (Script.listingKey listing), .ofText? token])
  | .operate operation =>
    some (.list ([.text "operation", .text (Script.operationKey operation)] ++
      arguments operation))
  | .sleep seconds => some (texts ["sleep", Decimal.text seconds])
  | .credentialToken _ | .freshName | .clock => none

/-- The transcript of calls that are given latest first. -/
def ofCalls (calls : List Call) : List Value := calls.reverse.filterMap line?

end AccessSync.Transcript
