import LabFleet.Error

/-!
Addresses of remote objects. An object is published at an endpoint, a TCP host and port or
a Unix socket path, and its address is written `obj:<object>@<host>:<port>` or
`obj:<object>@./u:<path>`. Reading splits at the first `@` (so an object name holds none)
and, for TCP, at the last `:` (so a host may hold colons); the object must not be empty and
the port is a decimal number below 65536 with an optional `+`. A host that starts with
`./u:` is written like a Unix endpoint, so such an address reads back as one.
-/

namespace LabFleet.Wire

/-- Where an object's server listens. -/
inductive Endpoint where
  | tcp (host : String) (port : Nat)
  | unix (path : String)
  deriving DecidableEq, Repr, Inhabited

/-- The marker that starts a Unix endpoint's written form. -/
def unixMarker : String := "./u:"

/-- The written form of an endpoint. -/
def Endpoint.text : Endpoint → String
  | .tcp host port => host ++ ":" ++ toString port
  | .unix path => unixMarker ++ path

/-- The published location of one object. -/
structure Address where
  object : String
  endpoint : Endpoint
  deriving DecidableEq, Repr, Inhabited

/-- The written form of an address. -/
def Address.text (a : Address) : String := "obj:" ++ a.object ++ "@" ++ a.endpoint.text

/-- The parts before and after the first `c`. -/
def splitFirst (c : Char) : List Char → Option (List Char × List Char)
  | [] => none
  | x :: xs =>
    if x = c then some ([], xs) else (splitFirst c xs).map fun (a, b) => (x :: a, b)

/-- The parts before and after the last `c`. -/
def splitLast (c : Char) (l : List Char) : Option (List Char × List Char) :=
  (splitFirst c l.reverse).map fun (a, b) => (b.reverse, a.reverse)

/-- The value of decimal digits. -/
def digitsValue (ds : List Char) : Nat := ds.foldl (fun n d => n * 10 + (d.toNat - 48)) 0

/-- A port: decimal digits after an optional `+`, below 65536. -/
def parsePort (text : List Char) : Option Nat :=
  let ds := match text with
    | '+' :: rest => rest
    | _ => text
  if ds.isEmpty || !ds.all Char.isDigit then none
  else
    let n := digitsValue ds
    if n < 65536 then some n else none

/-- Reads an address from its written form. -/
def Address.parse (s : String) : Result Address :=
  let invalid : Error := .invalidArgument s!"malformed object address '{s}'"
  match s.toList with
  | 'o' :: 'b' :: 'j' :: ':' :: rest =>
    match splitFirst '@' rest with
    | none => .error invalid
    | some (object, location) =>
      if object.isEmpty then .error invalid
      else
        match location with
        | '.' :: '/' :: 'u' :: ':' :: path => .ok ⟨String.ofList object, .unix (String.ofList path)⟩
        | _ =>
          match splitLast ':' location with
          | none => .error invalid
          | some (host, port) =>
            match parsePort port with
            | some p => .ok ⟨String.ofList object, .tcp (String.ofList host) p⟩
            | none => .error invalid
  | _ => .error invalid

/-- The host to dial for a bind host: wildcard binds are reached over loopback. -/
def connectHost (bindHost : String) : String :=
  if bindHost = "0.0.0.0" ∨ bindHost = "::" ∨ bindHost = "" then "localhost" else bindHost

end LabFleet.Wire
