/-
Reading raw catalogs. Version 1 is an object of endpoint lists by service
name; versions 2 and 3 are lists of services, an endpoint of version 2
carrying one URL for each interface and one of version 3 a URL and the word
of its interface. The flat form is a list of written endpoints.
-/
import CloudSession.Catalog.Basic
import CloudSession.Json.Basic

namespace CloudSession

/-- The form of a raw catalog. -/
inductive Catalog.Format
  | v1
  | v2
  | v3
  | flat
deriving DecidableEq, Repr

namespace Catalog

/-- A catalog, or what is wrong with the raw one. -/
abbrev Parsed := Except CatalogFault Catalog

-- =========================================================== URL per interface

/-- The member that holds the URL of an interface in versions 1 and 2. -/
def urlKey : Interface → String
  | .published => "publicURL"
  | .internal => "internalURL"
  | .admin => "adminURL"

/-- One entry for each interface URL that an endpoint carries. -/
def entriesByInterface (type name : String) (endpoint : Json) : Catalog :=
  Interface.all.filterMap fun interface =>
    (endpoint.textAt? (urlKey interface)).map fun url =>
      ⟨type, name, endpoint.textAt? "region", interface, url⟩

-- =============================================================== version 1

/-- The service type of a version 1 service name. -/
def typeOfName (name : String) : String :=
  if name == "cloudServers" || name == "cloudServersOpenStack" then "compute"
  else if name == "cloudFiles" || name == "cloudFilesCDN" then "object-store"
  else name

def readService1 (name : String) (endpoints : Json) : Parsed :=
  match endpoints.items? with
  | none => .error .endpointsNotList
  | some endpoints => .ok (endpoints.flatMap (entriesByInterface (typeOfName name) name))

/-- The catalogs that a reading gives for each item, one after the other. -/
def concatMap {α : Type} (read : α → Parsed) : List α → Parsed
  | [] => .ok []
  | x :: xs =>
    match read x with
    | .error fault => .error fault
    | .ok entries => (concatMap read xs).map (entries ++ ·)

def read1 (raw : Json) : Parsed :=
  match raw.members? with
  | none => .error .notObject
  | some services => concatMap (fun (name, endpoints) => readService1 name endpoints) services

-- ========================================================== versions 2, 3

/-- The entries of a listed service, whose endpoints are read one by one. A
service without an endpoint list has none. -/
def readService (readEndpoint : String → String → Json → Parsed) (service : Json) : Parsed :=
  match service.textAt? "type" with
  | none => .error .noType
  | some type =>
    match (service.get? "endpoints").bind Json.items? with
    | none => .ok []
    | some endpoints =>
      concatMap (readEndpoint type ((service.textAt? "name").getD "")) endpoints

/-- A version 2 endpoint, which always has its entries. -/
def readEndpoint2 (type name : String) (endpoint : Json) : Parsed :=
  .ok (entriesByInterface type name endpoint)

/-- A version 3 endpoint. An interface that is missing or unknown is public. -/
def readEndpoint3 (type name : String) (endpoint : Json) : Parsed :=
  match endpoint.textAt? "url" with
  | none => .error .noUrl
  | some url =>
    .ok [{
      type := type
      name := name
      region := (endpoint.textAt? "region").or (endpoint.textAt? "region_id")
      interface := ((endpoint.textAt? "interface").bind Interface.ofWord?).getD .published
      url := url }]

def readListed (readEndpoint : String → String → Json → Parsed) (raw : Json) : Parsed :=
  match raw.items? with
  | none => .error .notList
  | some services => concatMap (readService readEndpoint) services

-- ==================================================================== flat

/-- An interface: its word, or an object whose one member is its word with
null. -/
def interfaceOfJson? : Json → Option Interface
  | .str s => Interface.ofWord? s
  | .obj [(s, .null)] => Interface.ofWord? s
  | _ => none

/-- A text or null. -/
def nullableText? : Json → Option (Option String)
  | .null => some none
  | .str s => some (some s)
  | _ => none

/-- A written endpoint: an object, or its five fields in order. -/
def endpointOfJson? : Json → Option Endpoint
  | .obj members =>
    match Json.textAt? "service_type" (.obj members), Json.textAt? "service_name" (.obj members),
      nullableText? ((members.lookup "region").getD .null),
      interfaceOfJson? ((members.lookup "interface").getD (.str "public")),
      Json.textAt? "url" (.obj members) with
    | some type, some name, some region, some interface, some url =>
      some ⟨type, name, region, interface, url⟩
    | _, _, _, _, _ => none
  | .arr [.str type, .str name, region, interface, .str url] =>
    match nullableText? region, interfaceOfJson? interface with
    | some region, some interface => some ⟨type, name, region, interface, url⟩
    | _, _ => none
  | _ => none

def readFlat (raw : Json) : Parsed :=
  match raw.items?.bind (·.mapM endpointOfJson?) with
  | some entries => .ok entries
  | none => .error .entries

-- ================================================================= reading

/-- The catalog of a raw one in a given form. -/
def read (format : Format) (raw : Json) : Parsed :=
  match format with
  | .v1 => read1 raw
  | .v2 => readListed readEndpoint2 raw
  | .v3 => readListed readEndpoint3 raw
  | .flat => readFlat raw

/-- The catalog of a raw one, or the error of the response that held it. -/
def parse (format : Format) (raw : Json) : Except SessionError Catalog :=
  (read format raw).mapError fun fault => .response (.catalog fault)

-- ================================================================= writing

/-- An endpoint as the flat form writes it. -/
def endpointToJson (e : Endpoint) : Json :=
  Json.object [
    ("service_type", .str e.type),
    ("service_name", .str e.name),
    ("region", Json.ofText? e.region),
    ("interface", .str e.interface.word),
    ("url", .str e.url)]

/-- The flat form of a catalog. -/
def toJson (c : Catalog) : Json := .arr (c.map endpointToJson)

end Catalog
end CloudSession
