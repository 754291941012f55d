import ReadYourWrites.Api.Request

-- Watches: which objects of which kind the cache follows.

namespace ReadYourWrites

structure Watch where
  resource : Resource
  scope : Option String
  options : ListOptions
deriving DecidableEq, Repr

namespace Watch

def kind (watch : Watch) : Kind :=
  watch.resource.kind

def path (watch : Watch) : String :=
  watch.resource.path watch.scope

end Watch

end ReadYourWrites
