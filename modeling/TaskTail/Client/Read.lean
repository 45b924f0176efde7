/-
Reading through a client.  The request goes over the wire, so its numbers are cut to what the wire carries; a reply
whose encoding is longer than the client's limit is refused, and a missing task is told by the name that was asked
for.
-/
import TaskTail.Client.Error
import TaskTail.Range.OnWire
import TaskTail.Monitor.Service
import TaskTail.Wire.Header
namespace TaskTail

/-- What answers requests at one moment. -/
abbrev Server := WireRequest → Except Status WireReply

/-- A server as it appears from afar: its failures travel in headers. -/
def Server.delivered (server : Server) : Server := fun request =>
  match server request with
  | .error status => .error status.delivered
  | .ok reply => .ok reply

abbrev Answer := Except ClientError RangeReply

/-- A monitor with the files as they are now. -/
def Monitor.server (m : Monitor) (opening : Opening) : Server :=
  m.readOutput opening

def Status.replyTooLong (length limit : Nat) : Status :=
  ⟨.outOfRange, "Error, decoded message length too large: found " ++ toString length ++
    " bytes, the limit is: " ++ toString limit ++ " bytes"⟩

/-- What a client makes of the failure of a request. -/
def ClientError.ofStatus (request : RangeRequest) (status : Status) : ClientError :=
  if status.code = .notFound then .unknownTask request.task else .remote status

/-- The answer of a client that accepts encoded replies of up to `limit` bytes. -/
def clientRead (limit : Nat) (server : Server) (request : RangeRequest) : Answer :=
  match server request.toWire with
  | .error status => .error (.ofStatus request status)
  | .ok reply =>
    if limit < reply.encodedLength then .error (.remote (.replyTooLong reply.encodedLength limit))
    else .ok reply.toRange

end TaskTail
