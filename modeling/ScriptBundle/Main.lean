import ScriptBundle.CommandLine.Run
import ScriptBundle.Shell.Launch

/-!
# The program

Takes the directory it is started in as a file tree, runs the command line on it, and puts what has
changed back. A file that begins with an interpreter line counts as executable.
-/

namespace ScriptBundle.Main

/-- The key of an absolute path. -/
def keyOf (path : String) : Key := FileTree.names ⟨path⟩

def content (bytes : ByteArray) : Node :=
  let bytes := bytes.toList
  .file bytes (if bytes.take 2 = [35, 33] then Mode.program else Mode.file)

/-- Adds what an entry of a directory holds, down to a depth. What cannot be read is left out. -/
def load (t : FileTree) (key : Key) (entry : IO.FS.DirEntry) : Nat → IO FileTree
  | 0 => return t
  | depth + 1 => do
    let key := key ++ [entry.fileName]
    try
      if ← entry.path.isDir then
        let mut t := t.insert key (.directory Mode.directory)
        for inner in ← entry.path.readDir do
          t ← load t key inner depth
        return t
      else return t.insert key (content (← IO.FS.readBinFile entry.path))
    catch _ => return t

/-- The nodes of one tree that the other does not have at the same key, parents first. -/
def missing (t other : FileTree) : List (Key × Node) :=
  (t.entries.filter fun (key, node) => other.node? key != some node).mergeSort
    fun a b => a.1.length ≤ b.1.length

def pathOf (key : Key) : String := "/" ++ String.intercalate "/" key

/-- Makes the changes from one tree to the other. -/
def store (before after : FileTree) : IO Unit := do
  for (key, node) in (missing before after).reverse do
    if (after.node? key).isNone then
      match node with
      | .file .. => IO.FS.removeFile (pathOf key)
      | .directory _ => IO.FS.removeDir (pathOf key)
      | .device .. => pure ()
  for (key, node) in missing after before do
    match node with
    | .file bytes _ => IO.FS.writeBinFile (pathOf key) bytes.toByteArray
    | .directory _ => IO.FS.createDir (pathOf key)
    | .device .. => pure ()

def environment : IO Environment := do
  let names := ["RUST_LOG", "RUST_LOG_STYLE", "NO_COLOR", "CLICOLOR_FORCE", "CLOSURE_MINIFY_JAVA",
    "CLOSURE_COMPILER_JAR"]
  let values ← names.mapM fun name => return (← IO.getEnv name).map ((name, ·))
  return values.filterMap id

end ScriptBundle.Main

def main (args : List String) : IO UInt32 := do
  let dir ← IO.currentDir
  let start := ScriptBundle.Main.keyOf dir.toString
  let mut files := ScriptBundle.FileTree.system start
  for entry in ← dir.readDir do
    files ← ScriptBundle.Main.load files start entry 64
  let env ← ScriptBundle.Main.environment
  let o := ScriptBundle.CommandLine.outcome ScriptBundle.Shell.launch env args files
  ScriptBundle.Main.store files o.files
  IO.print o.stdout
  IO.eprint o.stderr
  return o.code.toUInt32
