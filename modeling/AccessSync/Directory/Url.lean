import AccessSync.Text.Split

/-!
# Directory addresses

The address of a directory object is made of path segments and query parameters, each
percent-encoded, so that no character of an identifier can change the shape of the address.
-/

namespace AccessSync.Directory

def host : String := "https://graph.microsoft.com"

def isUnreserved (c : Char) : Bool :=
  c.isAlphanum || c == '_' || c == '.' || c == '-' || c == '~'

def upperHexDigit (n : Nat) : Char :=
  if n < 10 then Char.ofNat (48 + n) else Char.ofNat (55 + n)

def encodedByte (b : UInt8) : List Char :=
  ['%', upperHexDigit (b.toNat / 16), upperHexDigit (b.toNat % 16)]

/-- One character: itself if it is unreserved or one of `safe`, else its bytes. -/
def encodedChar (safe : List Char) (c : Char) : List Char :=
  if isUnreserved c || safe.contains c then [c]
  else (String.utf8EncodeChar c).flatMap encodedByte

def encoded (safe : List Char) (s : String) : List Char :=
  s.toList.flatMap (encodedChar safe)

def trimSlashes (s : String) : String :=
  String.ofList ((s.toList.dropWhile (· == '/')).reverse.dropWhile (· == '/')).reverse

def segmentSafe : List Char := ['$']

def querySafe : List Char := ['$', '(', ')', ',', '=']

def pathChars (segments : List String) : List Char :=
  Text.joinChars '/' (segments.map fun s => encoded segmentSafe (trimSlashes s))

def queryChars (parameters : List (String × String)) : List Char :=
  Text.joinChars '&'
    (parameters.map fun (k, v) => encoded querySafe k ++ '=' :: encoded querySafe v)

/-- The address of an object: the host, the version, the path, and the query if there is one. -/
def url (segments : List String) (parameters : List (String × String)) (beta : Bool) : String :=
  let base := host.toList ++ '/' :: (if beta then "beta" else "v1.0").toList ++
    '/' :: pathChars segments
  String.ofList (if parameters.isEmpty then base else base ++ '?' :: queryChars parameters)

end AccessSync.Directory
