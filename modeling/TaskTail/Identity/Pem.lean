/-
Files of labelled sections.  A section stands between a line that begins it and a line that ends it, both dashed and
both naming its label; its body is base64.  Everything outside sections is passed over, and so are sections of
labels that mean nothing here.  A file is read up to its first damage: an ill-formed beginning, a body that is no
base64 under a label that has a meaning, or a section that does not end.
-/
import TaskTail.Text.Base64
namespace TaskTail.Identity

inductive KeyLayout
  /-- Numbers of RSA by themselves. -/
  | rsa
  /-- A key of an elliptic curve by itself. -/
  | curve
  /-- A key of any kind together with the name of the kind. -/
  | general
  deriving DecidableEq, Repr

inductive SectionKind
  | certificate
  | privateKey (layout : KeyLayout)
  | other
  deriving DecidableEq, Repr

/-- The labels that have a meaning. -/
def SectionKind.labels : List (String × SectionKind) := [
  ("CERTIFICATE", certificate), ("PRIVATE KEY", privateKey .general), ("RSA PRIVATE KEY", privateKey .rsa),
  ("EC PRIVATE KEY", privateKey .curve), ("PUBLIC KEY", other), ("X509 CRL", other),
  ("CERTIFICATE REQUEST", other), ("ECHCONFIG", other)]

def ascii (s : String) : List UInt8 := s.toUTF8.data.toList

/-- What a section of the given label holds, if the label has a meaning. -/
def SectionKind.ofLabel? (label : List UInt8) : Option SectionKind :=
  (labels.find? fun entry => ascii entry.1 = label).map Prod.snd

structure Section where
  kind : SectionKind
  content : List UInt8

/-- What a file holds up to its first damage. -/
structure Pem where
  sections : List Section
  damaged : Bool

namespace Pem

def dash : UInt8 := 0x2d

/-- The lines of a file; each of the two characters that can end a line ends one by itself. -/
def lines (file : List UInt8) : List (List UInt8) :=
  file.foldr (fun b lines => if b = 0x0a ∨ b = 0x0d then [] :: lines
    else match lines with
      | [] => [[b]]
      | line :: rest => (b :: line) :: rest) []

def begins (line : List UInt8) : Bool :=
  (ascii "-----BEGIN ").isPrefixOf line

/-- The label that a line begins a section with: it goes up to the dashes at the end of the line, of which there have
to be five; blanks between and after them do not count. -/
def label? (line : List UInt8) : Option (List UInt8) :=
  let ending := (line.reverse.takeWhile fun b => b = dash || b = 0x20).reverse.dropWhile (· != dash)
  if ending.count dash = 5 then some ((line.take (line.length - ending.length)).drop 11) else none

/-- Whether a line ends a section of the given label; what follows the dashes does not count. -/
def ends (label line : List UInt8) : Bool :=
  (ascii "-----END " ++ label ++ List.replicate 5 dash).isPrefixOf line

/-- Reads on from within a section, if one has begun, after the lines of its body, which come last first. -/
def readLines (begun : Option (List UInt8)) (body : List (List UInt8)) : List (List UInt8) → Pem
  | [] => ⟨[], begun.isSome⟩
  | line :: rest =>
    if begins line then
      match label? line with
      | none => ⟨[], true⟩
      | some label => readLines (some label) body rest
    else
      match begun with
      | none => readLines none body rest
      | some label =>
        if ends label line then
          match SectionKind.ofLabel? label with
          | none => readLines none [] rest
          | some kind =>
            match Text.Base64.decode? body.reverse.flatten with
            | none => ⟨[], true⟩
            | some content =>
              let after := readLines none [] rest
              { after with sections := ⟨kind, content⟩ :: after.sections }
        else readLines begun (line :: body) rest

def ofFile (file : List UInt8) : Pem :=
  readLines none [] (lines file)

/-- The certificates of a file without damage. -/
def certificates? (pem : Pem) : Option (List (List UInt8)) :=
  if pem.damaged then none
  else some (pem.sections.filterMap fun s => if s.kind = .certificate then some s.content else none)

/-- The first private key of a file; damage after it does not matter. -/
def privateKey? (pem : Pem) : Option (KeyLayout × List UInt8) :=
  pem.sections.findSome? fun s =>
    match s.kind with
    | .privateKey layout => some (layout, s.content)
    | .certificate | .other => none

end Pem

end TaskTail.Identity
