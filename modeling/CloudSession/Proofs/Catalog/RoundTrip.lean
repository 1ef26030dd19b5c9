/-
Catalogs that were written in the flat form. Each endpoint is read from its own
object as it was (`endpointOfJson?_toJson`), so a whole catalog is read back
endpoint by endpoint, in its order (`read_flat_toJson`).
-/
import CloudSession.Catalog.Reading

namespace CloudSession

theorem Interface.ofWord?_word (interface : Interface) :
    ofWord? interface.word = some interface := by
  cases interface <;> decide

namespace Catalog

theorem nullableText?_ofText? (s : Option String) : nullableText? (Json.ofText? s) = some s := by
  cases s <;> rfl

/-- The members of a written endpoint, keys ascending. -/
theorem endpointToJson_eq (e : Endpoint) :
    endpointToJson e = .obj [("interface", .str e.interface.word),
      ("region", Json.ofText? e.region), ("service_name", .str e.name),
      ("service_type", .str e.type), ("url", .str e.url)] := rfl

/-- An endpoint is read from its own object. -/
theorem endpointOfJson?_toJson (e : Endpoint) : endpointOfJson? (endpointToJson e) = some e := by
  have hinterface : interfaceOfJson? (.str e.interface.word) = some e.interface :=
    e.interface.ofWord?_word
  rw [endpointToJson_eq]
  simp [endpointOfJson?, Json.textAt?, Json.get?, Json.text?, List.lookup_cons,
    nullableText?_ofText?, hinterface]

/-- A catalog is read from its flat form. -/
theorem read_flat_toJson (c : Catalog) : read .flat c.toJson = .ok c := by
  have hentries : (c.map endpointToJson).mapM endpointOfJson? = some c := by
    induction c with
    | nil => rfl
    | cons e c ih =>
      rw [List.map_cons, List.mapM_cons, endpointOfJson?_toJson, ih]
      rfl
  rw [read, readFlat, toJson, Json.items?, Option.bind_some, hentries]

end Catalog
end CloudSession
