import ReadYourWrites.Kind

-- Resources: where the server keeps the objects of a kind.

namespace ReadYourWrites

structure Resource where
  kind : Kind
  apiVersion : String
  plural : String
deriving DecidableEq, Repr

namespace Resource

-- The plural of a kind's name in lower case, by the spelling rules of English.
def guessPlural (word : List Char) : List Char :=
  if word = "endpoints".toList ∨ word = "endpointslices".toList then word
  else if word = "nodemetrics".toList then "nodes".toList
  else if word = "podmetrics".toList then "pods".toList
  else if ["s", "x", "z", "ch", "sh"].any fun ending => ending.toList.isSuffixOf word then
    word ++ ['e', 's']
  else match word.getLast?, beforeLast? word with
    | some 'y', some c =>
      if c ∈ ['a', 'e', 'i', 'o', 'u'] then word ++ ['s'] else word.dropLast ++ ['i', 'e', 's']
    | _, _ => word ++ ['s']
where
  -- The letter before the last one. Its place is counted in bytes, so a word that has wider
  -- characters may lack it.
  beforeLast? (word : List Char) : Option Char :=
    let size := (String.ofList word).utf8ByteSize
    if 2 ≤ size then word[size - 2]? else none

-- The resource of a kind that nobody has registered.
def ofKind (kind : Kind) : Resource :=
  ⟨kind, kind.apiVersion, .ofList (guessPlural (kind.name.toList.map Char.toLower))⟩

-- A resource of the empty group in version v1.
def core (name plural : String) : Resource :=
  ⟨⟨"", "v1", name⟩, "v1", plural⟩

def serviceAccount : Resource :=
  core "ServiceAccount" "serviceaccounts"

def deployment : Resource :=
  ⟨⟨"apps", "v1", "Deployment"⟩, "apps/v1", "deployments"⟩

end Resource

end ReadYourWrites
