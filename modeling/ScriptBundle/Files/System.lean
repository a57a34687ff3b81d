import ScriptBundle.Files.Tree

/-!
# The directories of a system

What stands in a file tree besides the files of a project: the usual directories below the root, and
the devices that give no bytes.
-/

namespace ScriptBundle.FileTree

/-- The programs of the system by name. -/
def programNames : List String :=
  ["[", "arch", "awk", "b2sum", "base32", "base64", "basename", "basenc", "bash", "cat", "chcon",
    "chgrp", "chmod", "chown", "cksum", "clear", "cmp", "comm", "cp", "csplit", "cut", "dash",
    "date", "dd", "df", "diff", "diff3", "dir", "dircolors", "dirname", "du", "echo", "egrep",
    "env", "expand", "expr", "factor", "false", "fgrep", "find", "flock", "fmt", "fold", "getopt",
    "grep", "groups", "gunzip", "gzip", "head", "hostid", "hostname", "id", "install", "join",
    "kill", "link", "ln", "login", "logname", "ls", "mawk", "md5sum", "mkdir", "mkfifo", "mknod",
    "mktemp", "more", "mount", "mv", "nawk", "nice", "nl", "nohup", "nproc", "numfmt", "od",
    "paste", "pathchk", "perl", "pinky", "pr", "printenv", "printf", "ptx", "pwd", "readlink",
    "realpath", "rev", "rgrep", "rm", "rmdir", "run-parts", "runcon", "savelog", "sdiff", "sed",
    "seq", "setsid", "sh", "sha1sum", "sha224sum", "sha256sum", "sha384sum", "sha512sum", "shred",
    "shuf", "sleep", "sort", "split", "stat", "stdbuf", "stty", "su", "sum", "sync", "tac", "tail",
    "tar", "tee", "tempfile", "test", "timeout", "touch", "tr", "true", "truncate", "tsort", "tty",
    "umount", "uname", "unexpand", "uniq", "unlink", "users", "vdir", "wc", "which", "who",
    "whoami", "xargs", "yes", "zcat"]

/-- Whether a path is that of a program of the system. -/
def isInstalled (path : String) : Bool :=
  ["/bin/", "/usr/bin/"].any fun directory =>
    directory.toList.isPrefixOf path.toList &&
      programNames.contains (path.drop directory.length).toString

def systemDirectories : List Key :=
  [["bin"], ["boot"], ["dev"], ["etc"], ["home"], ["lib"], ["media"], ["mnt"], ["opt"], ["proc"],
    ["root"], ["run"], ["sbin"], ["srv"], ["sys"], ["tmp"], ["usr"], ["usr", "bin"], ["usr", "lib"],
    ["usr", "local"], ["usr", "sbin"], ["usr", "share"], ["var"], ["var", "tmp"]]

/-- The directories that everybody may write in. -/
def temporaryDirectories : List Key := [["tmp"], ["var", "tmp"]]

def devices : List (String × Device) :=
  [("null", .null), ("stdout", .output), ("stderr", .errors), ("stdin", .input), ("tty", .terminal)]

/-- A system with a directory to start from, and the directories on the way to it. -/
def system (start : Key) : FileTree :=
  let way := (List.range start.length).map fun n => start.take (n + 1)
  let modeOf (key : Key) : Mode :=
    if temporaryDirectories.contains key then Mode.permissions ||| Mode.sticky
    else if key = ["root"] then Mode.owner
    else Mode.directory
  let directories := (systemDirectories ++ way).eraseDups.map fun key =>
    (key, Node.directory (modeOf key))
  { start
    entries := directories ++ devices.map fun (name, d) => (["dev", name], .device d []) }

/-- What an output of the program has taken. -/
def takenBy (t : FileTree) (d : Device) : List UInt8 :=
  (t.entries.filterMap fun (_, node) =>
    match node with
    | .device kind taken => if kind = d then some taken else none
    | _ => none).flatten

end ScriptBundle.FileTree
