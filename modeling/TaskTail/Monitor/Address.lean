/-
Addresses to listen on.  An address is a host, a colon and a number of at most sixteen bits.  A host is written as a
number of four or of sixteen bytes, or is a name; no name but that of this machine is known, and only addresses of
this machine, or of no machine in particular, can be listened on.
-/
import TaskTail.IoError
import TaskTail.Text.Decimal
namespace TaskTail

/-- The greatest number that an address can end in. -/
def maxAddressNumber : Nat := 65535

inductive Host
  /-- A number of four bytes. -/
  | short (number : Nat)
  /-- A number of sixteen bytes. -/
  | long (number : Nat)
  | name (text : String)
  deriving DecidableEq, Repr

namespace Host

def digit? (base : Nat) (c : Char) : Option Nat :=
  let value := if c.isDigit then c.toNat - '0'.toNat else c.toLower.toNat - 'a'.toNat + 10
  if c.isAlphanum && value < base then some value else none

def number? (base : Nat) (digits : List Char) : Option Nat :=
  if digits.isEmpty then none
  else digits.foldlM (fun n c => (digit? base c).map (n * base + ·)) 0

/-- The number of a part between dots: a zero in front means base eight, a zero and an x base sixteen. -/
def part? : List Char → Option Nat
  | '0' :: c :: digits => if c = 'x' ∨ c = 'X' then number? 16 digits else number? 8 (c :: digits)
  | digits => number? 10 digits

/-- The number of four bytes of up to four parts; the last part stands for all bytes that are left. -/
def short? (text : String) : Option Nat := do
  let parts ← (text.splitOn ".").mapM fun part => part? part.toList
  let last ← parts.getLast?
  if 4 < parts.length || parts.dropLast.any (255 < ·) || Nat.pow 256 (5 - parts.length) ≤ last then none
  else some (parts.dropLast.foldl (fun n part => n * 256 + part) 0 * Nat.pow 256 (5 - parts.length) + last)

/-- The groups of two bytes of a text; at the end, four bytes may be written with dots. -/
def groups? (mayEndInDots : Bool) (text : String) : Option (List Nat) := do
  if text.isEmpty then return []
  let groups ← (text.splitOn ":").mapM fun group =>
    if group.contains '.' then
      if (group.splitOn ".").length = 4 then (short? group).map fun n => [n / 65536, n % 65536] else none
    else if group.length ≤ 4 then (number? 16 group.toList).map ([·])
    else none
  if groups.dropLast.all (·.length = 1) && (mayEndInDots || groups.all (·.length = 1)) then some groups.flatten
  else none

/-- The number of sixteen bytes of eight groups; a pair of colons stands for the groups of zeros that are missing. -/
def long? (text : String) : Option Nat := do
  let groups ← match text.splitOn "::" with
    | [whole] => (groups? true whole).filter (·.length = 8)
    | [before, after] => do
      let front ← groups? false before
      let back ← groups? true after
      if front.length + back.length < 8 then
        some (front ++ List.replicate (8 - front.length - back.length) 0 ++ back)
      else none
    | _ => none
  return groups.foldl (fun n group => n * 65536 + group) 0

def unbracketed (text : String) : String :=
  if text.startsWith "[" && text.endsWith "]" then String.ofList (text.toList.drop 1).dropLast else text

def ofText (text : String) : Host :=
  match short? text, long? (unbracketed text) with
  | some number, _ => short number
  | none, some number => long number
  | none, none => name text

/-- Whether a name could be that of a machine: labels of letters, digits and a few marks, with dots between them. -/
def isName (text : String) : Bool :=
  let labels := text.splitOn "."
  let labels := if labels.getLast? = some "" then labels.dropLast else labels
  text.length ≤ 253 && !text.isEmpty && !text.startsWith "-" &&
    text.all (fun c => c.isAlphanum || c = '-' || c = '_' || c = '.') &&
    (text = "." || labels.all fun label => !label.isEmpty && label.length ≤ 63)

/-- The failure when a name cannot be found. -/
def lookupFailure (text : String) : IoError :=
  .custom .uncategorized ("failed to lookup address information: " ++
    if isName text then "Temporary failure in name resolution" else "Name or service not known")

/-- Whether a number of four bytes is an address of this machine, or of no machine in particular. -/
def isLocalShort (number : Nat) : Bool :=
  number = 0 || number = 0xffffffff || number / 0x1000000 = 127 || number / 0x10000000 = 14

/-- Checks that a host can be listened on. -/
def check : Host → Except IoError Unit
  | short number => if isLocalShort number then .ok () else .error .addressNotAvailable
  | long number =>
    if number ≤ 1 ∨ number / 0x100000000 = 0xffff ∧ isLocalShort (number % 0x100000000) then .ok ()
    else if number / Nat.pow 2 120 = 0xff ∨ number / Nat.pow 2 118 = 0x3fa then .error .invalidArgument
    else .error .addressNotAvailable
  | name text =>
    if text.contains '\x00' then .error .nulInPath
    else if text.map Char.toLower = "localhost" then .ok ()
    else .error (lookupFailure text)

end Host

/-- Checks an address to listen on: first its form, then its host. -/
def checkAddress (address : String) : Except IoError Unit :=
  match (address.splitOn ":").reverse with
  | number :: rest@(_ :: _) =>
    match Text.decimalUpTo? maxAddressNumber number with
    | some _ => (Host.ofText (":".intercalate rest.reverse)).check
    | none => .error (.custom .invalidInput "invalid port value")
  | _ => .error (.custom .invalidInput "invalid socket address")

end TaskTail
