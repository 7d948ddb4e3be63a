import ModuleScope.Path

/-!
Patterns of relative paths. In a name `*` stands for any characters and `?` for one; `**` alone stands
for any number of directories.
-/
namespace ModuleScope

def matchesName : List Char → List Char → Bool
  | [], name => name.isEmpty
  | '*' :: pattern, [] => matchesName pattern []
  | '*' :: pattern, c :: name => matchesName pattern (c :: name) || matchesName ('*' :: pattern) name
  | '?' :: pattern, _ :: name => matchesName pattern name
  | expected :: pattern, c :: name => expected == c && matchesName pattern name
  | _ :: _, [] => false
termination_by pattern name => pattern.length + name.length

def matchesParts : List String → List String → Bool
  | [], parts => parts.isEmpty
  | "**" :: pattern, part :: rest =>
    matchesParts pattern (part :: rest) || (!rest.isEmpty && matchesParts ("**" :: pattern) rest)
  | expected :: pattern, part :: rest =>
    matchesName expected.toList part.toList && matchesParts pattern rest
  | _ :: _, [] => false
termination_by pattern parts => pattern.length + parts.length

def matchesAny (patterns : List String) (parts : List String) : Bool :=
  patterns.any fun pattern => matchesParts (Path.components pattern) parts

end ModuleScope
