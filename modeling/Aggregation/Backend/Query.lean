namespace Aggregation.Backend

/-! The queries that are sent to a backend. -/

def resourceQuery : String :=
  "\nquery getResource($id: ID!) \x7b\n" ++
  "  resource(id: $id) \x7b\n" ++
  "    id\n" ++
  "    name\n" ++
  "    queryName\n" ++
  "  \x7d\n" ++
  "\x7d\n"

/-- Asks for one page of aggregated records. -/
def pageQuery : String :=
  "\nquery getAggregationData(\n" ++
  "  $resource: ID!\n" ++
  "  $aggregation: ID!\n" ++
  "  $contextFilters: JSON\n" ++
  "  $first: Int\n" ++
  "  $skip: Int\n" ++
  "  $sortField: String\n" ++
  "  $sortOrder: String\n" ++
  "  $at: Date\n" ++
  ") \x7b\n" ++
  "  recordsAggregation(\n" ++
  "    resource: $resource\n" ++
  "    aggregation: $aggregation\n" ++
  "    contextFilters: $contextFilters\n" ++
  "    first: $first\n" ++
  "    skip: $skip\n" ++
  "    sortField: $sortField\n" ++
  "    sortOrder: $sortOrder\n" ++
  "    at: $at\n" ++
  "  )\n" ++
  "\x7d\n"

/-- Asks for all types and their fields, with type references of up to five
levels. -/
def introspectionQuery : String :=
  "\nquery introspection \x7b\n" ++
  "  __schema \x7b\n" ++
  "    queryType \x7b name \x7d\n" ++
  "    types \x7b\n" ++
  "      name\n" ++
  "      kind\n" ++
  "      fields \x7b\n" ++
  "        name\n" ++
  "        type \x7b ...TypeRef \x7d\n" ++
  "      \x7d\n" ++
  "    \x7d\n" ++
  "  \x7d\n" ++
  "\x7d\n" ++
  "\n" ++
  "fragment TypeRef on __Type \x7b\n" ++
  "  kind\n" ++
  "  name\n" ++
  "  ofType \x7b\n" ++
  "    kind\n" ++
  "    name\n" ++
  "    ofType \x7b\n" ++
  "      kind\n" ++
  "      name\n" ++
  "      ofType \x7b\n" ++
  "        kind\n" ++
  "        name\n" ++
  "        ofType \x7b kind name \x7d\n" ++
  "      \x7d\n" ++
  "    \x7d\n" ++
  "  \x7d\n" ++
  "\x7d\n"

end Aggregation.Backend
