import IndexKeeper.Resource

/-!
# Names in Kubernetes

Under which names Kubernetes knows the declarations of a kind: the group and version of the API,
and the names of the object in their spellings.
-/

namespace IndexKeeper

/-- The group of the API. -/
def apiGroup : String := "xo.90poe.io"

/-- The version of the API. -/
def apiVersion : String := "v1alpha1"

namespace Kind

/-- The name of the objects. -/
def objectName : Kind → String
  | index => "ElasticSearchIndex"
  | template => "ElasticSearchTemplate"

/-- The name of many objects, as in paths. -/
def plural : Kind → String
  | index => "elasticsearchindices"
  | template => "elasticsearchtemplates"

/-- The name of one object, as in commands. -/
def singular : Kind → String
  | index => "elasticsearchindex"
  | template => "elasticsearchtemplate"

/-- The short name, as in commands. -/
def shortName : Kind → String
  | index => "esindex"
  | template => "estemplate"

end Kind

end IndexKeeper
