/-
Names that a server can be checked by.  A server is known by the name of a machine, labels with dots between them, or
by an address written as a number of four or of sixteen bytes.
-/
import TaskTail.Monitor.Address
namespace TaskTail.Identity

def maxNameLength : Nat := 253

def maxLabelLength : Nat := 63

/-- Whether a text can be a label: letters, digits, underscores and inner dashes. -/
def isLabel (label : String) : Bool :=
  !label.isEmpty && label.length ≤ maxLabelLength && label.all (fun c => c.isAlphanum || c = '-' || c = '_') &&
    !label.startsWith "-" && !label.endsWith "-"

/-- Whether a text names a machine.  A dot may come last; the label before it must not be a number. -/
def isMachineName (text : String) : Bool :=
  let labels := text.splitOn "."
  let labels := if labels.getLast? = some "" then labels.dropLast else labels
  text.length ≤ maxNameLength && labels.all isLabel && labels.getLast?.any fun last => !last.all Char.isDigit

/-- Whether a text is one of the four parts of an address: a number of eight bits without zeros in front. -/
def isAddressPart (part : String) : Bool :=
  part.all Char.isDigit && (Text.decimalUpTo? 255 part).isSome && (part = "0" || !part.startsWith "0")

/-- Whether a text is a name that a server can be checked by. -/
def isServerName (text : String) : Bool :=
  let parts := text.splitOn "."
  isMachineName text || (parts.length = 4 && parts.all isAddressPart) || (Host.long? text).isSome

end TaskTail.Identity
