import ResourceGraph.Analysis.Resource

/-!
# Data sources of a document

Every selected path is a data source or is rejected as one.  Of two data sources with the same name
the one with the smaller path is kept.
-/

namespace ResourceGraph

/-- The data source of a path, the other paths left aside. -/
def Document.dataSource (document : Document) (path : String) :
    Except Rejection DataSourceDescriptor :=
  match document.paths.get? path with
  | none => .error ⟨path, .missingDataSourceRead⟩
  | some item => item.dataSource document path

/-- The data sources found so far. -/
structure Listings where
  dataSources : List DataSourceDescriptor := []
  rejections : List Rejection := []

namespace Listings

/-- Whether a name is already taken. -/
def takes (listings : Listings) (name : String) : Bool :=
  listings.dataSources.any fun dataSource => dataSource.name == name

/-- The listings with what one more path gives. -/
def record (listings : Listings) (path : String) :
    Except Rejection DataSourceDescriptor → Listings
  | .error rejection => { listings with rejections := listings.rejections ++ [rejection] }
  | .ok dataSource =>
    if listings.takes dataSource.name then
      let rejection : Rejection := ⟨path, .duplicateDataSource dataSource.name⟩
      { listings with rejections := listings.rejections ++ [rejection] }
    else { listings with dataSources := listings.dataSources ++ [dataSource] }

end Listings

/-- The data sources of a document and the paths that are none. -/
def Document.dataSources (document : Document) (selection : Selection) : Listings :=
  (document.selectedPaths selection).foldl
    (fun listings path => listings.record path (document.dataSource path)) {}

end ResourceGraph
