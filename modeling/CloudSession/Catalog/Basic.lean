/-
Service catalogs: the endpoints that a token may use, in the order of
their source, and how one of them is chosen. A request for an endpoint
names a service type and perhaps a service name and a region; the region
only prefers among the endpoints that fit.
-/
import CloudSession.Microversion

namespace CloudSession

-- ============================================================== interfaces

/-- Which audience an endpoint is for. -/
inductive Interface
  | published
  | internal
  | admin
deriving DecidableEq, Repr

namespace Interface

/-- The word for an interface. -/
def word : Interface → String
  | .published => "public"
  | .internal => "internal"
  | .admin => "admin"

def all : List Interface := [.published, .internal, .admin]

/-- The interface of a word. -/
def ofWord? (s : String) : Option Interface := all.find? (·.word == s)

/-- What is said of a word that is no interface. -/
def unknownMessage (s : String) : String := "unknown endpoint interface: " ++ s

end Interface

-- ================================================================= entries

/-- One endpoint of a service. -/
structure Endpoint where
  type : String
  name : String
  region : Option String
  interface : Interface
  url : String
deriving DecidableEq, Repr

/-- What an endpoint is asked for. -/
structure Wanted where
  type : String
  name : Option String
  region : Option String
deriving DecidableEq, Repr

/-- The compute service, under any name and in any region. -/
def Wanted.compute : Wanted := ⟨"compute", none, none⟩

/-- What a user fixes, over whatever an operation asks for. -/
structure Selector where
  baseUrl : Option String
  type : Option String
  name : Option String
  region : Option String
  microversion : Option String
  token : Option String
  interface : Option Interface
deriving DecidableEq, Repr

namespace Selector

/-- A selector that fixes nothing. -/
def none : Selector :=
  ⟨.none, .none, .none, .none, .none, .none, .none⟩

/-- The service type that is looked up in place of `type`. -/
def effectiveType (s : Selector) (type : String) : String := s.type.getD type

/-- The request as the selector changes it. -/
def adjust (s : Selector) (w : Wanted) : Wanted :=
  ⟨s.effectiveType w.type, s.name.or w.name, s.region.or w.region⟩

/-- The interface that is looked up. -/
def effectiveInterface (s : Selector) : Interface := s.interface.getD .published

/-- The microversion that the selector names. -/
def microversion? (s : Selector) : Except SessionError (Option Microversion) :=
  match s.microversion with
  | .none => .ok .none
  | some text => (Microversion.parse text).map some

/-- A forced token needs a forced base URL, and a microversion must be
readable. -/
def validate (s : Selector) : Except SessionError (Option Microversion) :=
  if s.token.isSome && s.baseUrl.isNone then .error (.configuration .tokenWithoutBaseUrl)
  else s.microversion?

end Selector

/-- A service catalog: its endpoints in source order. -/
abbrev Catalog := List Endpoint

namespace Catalog

-- ================================================================== lookup

/-- Whether an endpoint is of a type and, where one is asked for, a name. -/
def fits (type : String) (name : Option String) (e : Endpoint) : Bool :=
  e.type == type && name.all (e.name == ·)

/-- The endpoints of a type, name and interface. -/
def candidates (c : Catalog) (w : Wanted) (interface : Interface) : List Endpoint :=
  c.filter fun e => fits w.type w.name e && e.interface == interface

/-- The first candidate in the wanted region, else the first of all. -/
def choose? (region : Option String) (candidates : List Endpoint) : Option Endpoint :=
  let inRegion := region.bind fun r => candidates.find? fun e => e.region == some r
  inRegion.or candidates.head?

/-- The URL to use for a service: the forced base URL, or that of the chosen
endpoint. -/
def endpoint (c : Catalog) (s : Selector) (w : Wanted) : Except SessionError String :=
  match s.baseUrl with
  | some url => .ok url
  | none =>
    let w := s.adjust w
    match choose? w.region (c.candidates w s.effectiveInterface) with
    | some e => .ok e.url
    | none => .error (.endpointNotFound w.type w.name w.region)

-- =============================================================== discovery

/-- The distinct members of a list in the order of their first occurrence. -/
def distinct (xs : List String) : List String :=
  xs.foldl (fun seen x => if x ∈ seen then seen else seen ++ [x]) []

/-- The endpoints of a type, or all of them. -/
def ofType (c : Catalog) (type : Option String) : List Endpoint :=
  c.filter fun e => type.all (e.type == ·)

/-- The service types in the catalog. -/
def types (c : Catalog) : List String := distinct (c.map (·.type))

/-- The service names in the catalog, or those of one type. -/
def names (c : Catalog) (type : Option String) : List String :=
  distinct ((c.ofType type).map (·.name))

/-- The regions in the catalog, or those of one type. -/
def regions (c : Catalog) (type : Option String) : List String :=
  distinct ((c.ofType type).filterMap (·.region))

/-- The public URLs of a service in catalog order. -/
def publicUrls (c : Catalog) (type : String) (name : Option String) : List String :=
  (c.filter fun e => fits type name e && e.interface == .published).map (·.url)

end Catalog
end CloudSession
