/-!
Kinds of configured entries. A profile describes a subprocess, either a nameserver or a
daemon; an entry of the document is a profile or a service binding. Kinds are read from
text case-insensitively in ASCII only: `nameserver` or `ns`, `daemon`, and for entries also
`service`. A rejected text is quoted lowercased in the message.
-/

namespace LabFleet

/-- The kind of a subprocess profile; nameservers start before daemons. -/
inductive ProfileKind where
  | nameserver
  | daemon
  deriving DecidableEq, Repr, Inhabited

namespace ProfileKind

/-- The name of a kind, as written in requests and answers. -/
def name : ProfileKind → String
  | .nameserver => "nameserver"
  | .daemon => "daemon"

/-- The top-level section of the document that holds profiles of this kind. -/
def sectionName : ProfileKind → String
  | .nameserver => "nameservers"
  | .daemon => "daemons"

/-- Startup order: nameservers first. -/
def rank : ProfileKind → Nat
  | .nameserver => 0
  | .daemon => 1

/-- Reads a kind; ASCII letters may be in either case. -/
def parse (text : String) : Except String ProfileKind :=
  let t := text.map Char.toLower
  if t = "nameserver" ∨ t = "ns" then .ok .nameserver
  else if t = "daemon" then .ok .daemon
  else .error s!"unknown profile kind '{t}'"

end ProfileKind

/-- The kind of a named entry of the document. -/
inductive EntryKind where
  | nameserver
  | daemon
  | service
  deriving DecidableEq, Repr, Inhabited

namespace EntryKind

/-- The name of an entry kind. -/
def name : EntryKind → String
  | .nameserver => "nameserver"
  | .daemon => "daemon"
  | .service => "service"

/-- The top-level section that holds entries of this kind. -/
def sectionName : EntryKind → String
  | .nameserver => "nameservers"
  | .daemon => "daemons"
  | .service => "services"

/-- The profile kind of an entry that runs as a subprocess. -/
def profile? : EntryKind → Option ProfileKind
  | .nameserver => some .nameserver
  | .daemon => some .daemon
  | .service => none

/-- The entry kind of a profile kind. -/
def ofProfile : ProfileKind → EntryKind
  | .nameserver => .nameserver
  | .daemon => .daemon

/-- Reads an entry kind; ASCII letters may be in either case. -/
def parse (text : String) : Except String EntryKind :=
  let t := text.map Char.toLower
  if t = "service" then .ok .service
  else
    match ProfileKind.parse t with
    | .ok k => .ok (ofProfile k)
    | .error _ => .error s!"unknown entry kind '{t}'"

end EntryKind

end LabFleet
