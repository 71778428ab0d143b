import ResourceGraph.Rejection

/-!
# Data sources

A path is a data source when reading it answers 200 with an array of objects that have properties.
-/

namespace ResourceGraph

/-- The schema of the items that a path lists, and the operation that reads them. -/
def PathItem.listedItems (item : PathItem) : Except RejectionCause (Operation × Schema) := do
  let some read := item.get | throw .missingDataSourceRead
  let some response := read.responses.get? "200" | throw .missingSuccessResponse
  let some schema := response.schema | throw .missingResponseSchema
  if schema.type != some "array" then throw .responseNotArray
  let some items := schema.items | throw .invalidItems
  if items.type != some "object" then throw .invalidItems
  if items.properties.isEmpty then throw .emptyItems
  return (read, items)

end ResourceGraph
