/-
How a failure travels: in headers, its code as a number and its message in written form.  A message that cannot be
read from its header is replaced by the reason, and the code is then unknown; headers that take too much room
altogether are refused.
-/
import TaskTail.Status
import TaskTail.Text.Percent
import TaskTail.Text.Utf8
namespace TaskTail

/-- The room that all headers together have to stay below. -/
def headerRoom : Nat := 16384

/-- The room that a header takes by the lengths of its name and its value. -/
def headerSize (name value : Nat) : Nat := name + value + 32

namespace Status

/-- The header that carries the message. -/
def messageHeader (status : Status) : List UInt8 :=
  Text.Percent.encode status.message.toUTF8.data.toList

/-- The room that the headers of a failure take: the outcome of the exchange, the kind of its contents, the time, the
code, and the message unless it is empty. -/
def headersSize (status : Status) : Nat :=
  headerSize ":status".length "200".length + headerSize "content-type".length "application/grpc".length +
    headerSize "date".length "Thu, 01 Jan 1970 00:00:00 GMT".length +
    headerSize "grpc-status".length (toString status.code.number).length +
    if status.message.isEmpty then 0 else headerSize "grpc-message".length status.messageHeader.length

/-- The failed call when the headers of an answer take too much room. -/
def headersTooLarge : Status := ⟨.internal, "h2 protocol error: http2 error"⟩

def ofHeader (code : Code) (header : List UInt8) : Status :=
  match Text.decode (Text.Percent.decode header) with
  | .ok message => ⟨code, message⟩
  | .error fault => ⟨.unknown, "Error deserializing status message header: " ++ fault.message⟩

/-- A failure as it arrives. -/
def delivered (status : Status) : Status :=
  if status.headersSize < headerRoom then ofHeader status.code status.messageHeader else headersTooLarge

end Status

end TaskTail
