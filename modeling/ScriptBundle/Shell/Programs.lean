import ScriptBundle.Shell.Tool.Awk.Run
import ScriptBundle.Shell.Tool.Blocks
import ScriptBundle.Shell.Tool.Columns
import ScriptBundle.Shell.Tool.Compare
import ScriptBundle.Shell.Tool.Digests
import ScriptBundle.Shell.Tool.Dump
import ScriptBundle.Shell.Tool.Files
import ScriptBundle.Shell.Tool.Grep
import ScriptBundle.Shell.Tool.Lines
import ScriptBundle.Shell.Tool.Listing
import ScriptBundle.Shell.Tool.Numbers
import ScriptBundle.Shell.Tool.Order
import ScriptBundle.Shell.Tool.Sed.Run
import ScriptBundle.Shell.Tool.Start

/-!
# The programs of the system
-/

namespace ScriptBundle.Shell.Programs

open Tool

/-- The programs by their names. -/
def table : List (String × Program) :=
  [("[", bracket), ("arch", arch), ("awk", awk), ("base32", bitLetters .base32),
    ("base64", bitLetters .base64), ("basename", basename), ("cat", cat), ("chgrp", own "group"),
    ("chmod", chmod), ("chown", own "user"), ("cksum", cksum), ("cmp", cmp), ("comm", comm),
    ("cp", cp), ("cut", cut), ("date", date), ("dd", dd), ("diff", diff), ("dirname", dirname),
    ("echo", echo), ("egrep", grepAs 'E'), ("env", env), ("expand", expand), ("expr", expr),
    ("factor", factor), ("false", fun _ m _ => m.ends 1), ("fgrep", grepAs 'F'), ("find", find),
    ("fold", fold), ("grep", grep), ("groups", groups), ("head", head), ("id", Tool.id),
    ("install", install), ("join", join), ("kill", kill), ("link", linkOne), ("ln", link),
    ("ls", ls), ("mawk", awk), ("md5sum", digestSum .md5), ("mkdir", mkdir), ("mktemp", mktemp),
    ("mv", mv), ("nawk", awk), ("nice", nice), ("nl", nl), ("nohup", nohup), ("od", od),
    ("paste", paste), ("printenv", printenv), ("printf", printf), ("pwd", pwd),
    ("readlink", readlink), ("realpath", realpath), ("rev", rev), ("rm", rm), ("rmdir", rmdir),
    ("sed", sed), ("seq", seq), ("sha1sum", digestSum .sha1), ("sha224sum", digestSum .sha224),
    ("sha256sum", digestSum .sha256), ("sha384sum", digestSum .sha384),
    ("sha512sum", digestSum .sha512), ("shuf", shuf), ("sleep", sleep), ("sort", sort),
    ("split", split), ("stat", stat), ("stdbuf", stdbuf), ("sum", Tool.sum),
    ("sync", fun _ m _ => m.ends 0), ("tac", tac), ("tail", tail), ("tee", tee), ("test", test),
    ("timeout", timeout), ("touch", touch), ("tr", tr), ("true", fun _ m _ => m.ends 0),
    ("truncate", truncate), ("tsort", tsort), ("tty", tty), ("uname", uname),
    ("unexpand", unexpand), ("uniq", uniq), ("unlink", unlink), ("wc", wc), ("which", which),
    ("whoami", whoami), ("xargs", xargs), ("yes", yes)]

def named? (name : String) : Option Program := table.lookup name

end ScriptBundle.Shell.Programs
