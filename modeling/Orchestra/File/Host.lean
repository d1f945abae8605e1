import Orchestra.File.Tree

namespace Orchestra

/-- Access to files. -/
structure Host (m : Type → Type) where
  /-- What lies at a path, if anything. -/
  look : String → m (Option FileNode)
  /-- Makes a directory and those around it, and answers whether it is there. -/
  makeDirectory : String → m Bool
  /-- Makes an empty file in a directory that is there, and answers whether that was possible. -/
  makeFile : String → m Bool
  remove : String → m Unit
  /-- Keeps lines for the file at a path. -/
  keep : String → List String → m Unit
  /-- The number of bytes in the path of the directory where relative paths start. -/
  rootLength : m Nat

namespace FileTree

/-- The root of a tree counts as a directory for temporary files right below the system's one. -/
def rootLength : Nat := "/tmp/.tmpXXXXXX".length

/-- A tree in memory as the system, which is given paths that are longer than they need to be, by this many bytes.
It does not keep lines. -/
def host (excess : Nat := 0) : Host (StateM FileTree) where
  look path := do
    let tree ← get
    return if pathBound ≤ excess + path.utf8ByteSize then none else tree.look path
  makeDirectory path := modifyGet fun tree =>
    let (tree, made) := tree.makeDirectory path
    (made, tree)
  makeFile path := modifyGet fun tree =>
    ((tree.write? path ByteArray.empty).isSome, (tree.write? path ByteArray.empty).getD tree)
  remove path := modify (·.remove path)
  keep _ _ := return
  rootLength := return rootLength

end FileTree

end Orchestra
