import CodeBridge.Uri.Domain
import CodeBridge.Uri.Error
import CodeBridge.Uri.Ipv4
import CodeBridge.Uri.Ipv6
import CodeBridge.Uri.Percent

/-! # Hosts

The host of a URI is an address in brackets, an address of four bytes, or a name. The schemes that
are hierarchical in every case put a name into the form in which it is looked up; any other scheme
keeps it as it is.
-/

namespace CodeBridge.Uri

/-- An address in brackets. -/
def bracketed (cs : List Char) : Except UriError (List Char) :=
  if cs.getLast? = some ']' then
    match Ipv6.parse? (cs.drop 1).dropLast with
    | some address => .ok address.render
    | none => .error .ipv6
  else .error .ipv6

/-- The text of a host with its encoded bytes decoded. -/
def hostText? (cs : List Char) : Option (List Char) :=
  (String.fromUTF8? ⟨(percentDecode cs).toArray⟩).map String.toList

/-- A host that is looked up. -/
def lookupHost (cs : List Char) : Except UriError (List Char) :=
  if cs.head? = some '[' then bracketed cs
  else
    match (hostText? cs).bind domain? with
    | none => .error .domain
    | some [] => .error .emptyHost
    | some name =>
      if Ipv4.isMeant name then
        match Ipv4.parse? name with
        | some address => .ok address.render
        | none => .error .ipv4
      else .ok name

/-- Characters that no host holds, whatever the scheme. -/
def isForbiddenInHost (c : Char) : Bool :=
  ['\x00', '\t', '\n', '\r', ' ', '#', '/', ':', '<', '>', '?', '@', '[', '\\', ']', '^',
    '|'].contains c

/-- A host that is kept as it is. -/
def plainHost (cs : List Char) : Except UriError (List Char) :=
  if cs.head? = some '[' then bracketed cs
  else if cs.any isForbiddenInHost then .error .hostCharacter
  else .ok (percentEncode isControl cs)

end CodeBridge.Uri
