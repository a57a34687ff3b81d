import ScriptBundle.Shell.Tool.Basic
import ScriptBundle.Shell.Tool.ModeChange

/-!
# Tools on files and directories

Tools that copy, move, remove and make files and directories, and that change their modes. Each operand
is dealt with on its own: one that fails is told about, and the status in the end is one.
-/

namespace ScriptBundle.Shell.Tool

/-- Does something for each operand. -/
def onEach (o : Options) (m : Machine) (body : Machine → String → Machine) : Machine :=
  o.operands.foldl body m

def missingOperand (m : Machine) (what : String) : Machine := m.noteUsage 1 s!"missing {what}"

/-- An operand without the slashes at its end. -/
def withoutSlashes (operand : String) : String :=
  let kept := (operand.toList.reverse.dropWhile (· == '/')).reverse
  if kept.isEmpty && !operand.isEmpty then "/" else String.ofList kept

/-- The path of an operand inside a directory. -/
def into (directory operand : String) : String :=
  let name := Program.lastName (withoutSlashes operand)
  if directory.endsWith "/" then directory ++ name else directory ++ "/" ++ name

def isDirectory (m : Machine) (operand : String) : Bool :=
  m.files.isDirectory (Machine.pathOf operand)

/-- The key of an operand, if its way is there. -/
def keyOf? (m : Machine) (operand : String) : Option Key :=
  (m.files.locate (Machine.pathOf operand)).toOption

def quoted (operand : String) : String := Quoting.always operand

/-! ### Copying and moving -/

/-- Whether something stands at both operands, and it is the same. -/
def areSame (m : Machine) (a b : String) : Bool :=
  match keyOf? m a, keyOf? m b with
  | some key, some other => key == other && (m.files.node? key).isSome
  | _, _ => false

/-- Gives what stands at an operand a mode. -/
def giveMode (m : Machine) (operand : String) (mode : Mode) : Machine :=
  match keyOf? m operand with
  | some key => m.setMode key mode
  | none => m

/-- Copies a file. The mode of a new one is that of the old one, as far as it is not masked; a copy
that keeps all has the mode of the old one anyhow. -/
def copyFile (keepsMode : Bool) (m : Machine) (source target : String) : Machine :=
  match m.contents source with
  | .error e => m.noteFailure 1 s!"cannot open {quoted source} for reading: {Machine.words e}"
  | .ok (text, read) =>
    let isNew := !m.files.has (Machine.pathOf target)
    let mode := ((m.nodeAt source).toOption.map Node.mode).getD Mode.fresh
    let refuse (e : FileError) : Machine :=
      let e := if e = .isADirectory && target.endsWith "/" then .notADirectory else e
      read.noteFailure 1 s!"cannot create regular file {quoted target}: {Machine.words e}"
    match read.openPath target .writing with
    | .error e => refuse e
    | .ok (number, opened) =>
      match opened.writeHandle number (Octet.toBytes text) with
      | .error e => opened.noteFailure 1 s!"error writing {quoted target}: {Machine.words e}"
      | .ok m =>
        if keepsMode then giveMode m target mode
        else if isNew then giveMode m target ((mode &&& Mode.permissions).without m.mask)
        else m

/-- Puts a device of a kind at an operand, in the place of a file there. -/
def makeDevice (kind : Device) (m : Machine) (target : String) : Machine :=
  match m.files.locate (Machine.pathOf target) with
  | .error e => m.noteFailure 1 s!"cannot create special file {quoted target}: {Machine.words e}"
  | .ok key =>
    let m := m.unname key
    { m with files := m.files.insert key (.device kind []) }

structure Transfer where
  deep : Bool
  keeps : Bool
  tells : Bool
  keepsMode : Bool := false
  /-- Whether to ask before something is lost; nobody answers. -/
  asks : Bool := false
  /-- The word in front of what is told. -/
  word : String := ""

def told (t : Transfer) (m : Machine) (source target : String) : Machine :=
  if t.tells then m.printText s!"{t.word}{quoted source} -> {quoted target}\n" else m

/-- Writes a question to the error stream. -/
def ask (m : Machine) (question : String) : Machine :=
  let m := m.writeOut.1
  (m.write 2 (Octet.toBytes s!"{m.name}: {question}? ".toList)).toOption.getD m

/-- Copies what an operand leads to, with everything below it. -/
def copy (t : Transfer) : Nat → Machine → String → String → Machine
  | 0, m, _, _ => m
  | fuel + 1, m, source, target =>
    match m.nodeAt source with
    | .error e => m.noteFailure 1 s!"cannot stat {quoted source}: {Machine.words e}"
    | .ok (.directory mode) =>
      if !t.deep then m.noteFailure 1 s!"-r not specified; omitting directory {quoted source}"
      else
        let inside := match keyOf? m source, keyOf? m target with
          | some key, some other => key.isPrefixOf other
          | _, _ => false
        if inside then
          m.noteFailure 1 s!"cannot copy a directory, {quoted source}, into itself, {quoted target}"
        else
          let exists? := m.nodeAt target
          let made : Except Machine Machine :=
            match exists? with
            | .ok (.directory _) => .ok m
            | .ok _ =>
              .error (m.noteFailure 1
                s!"cannot overwrite non-directory {quoted target} with directory {quoted source}")
            | .error _ =>
              let mode := if t.keepsMode then mode else (mode &&& Mode.permissions).without m.mask
              match m.makeDirectory mode (Machine.pathOf (withoutSlashes target)) with
              | .ok m => .ok (told t m source target)
              | .error e =>
                .error (m.noteFailure 1 s!"cannot create directory {quoted target}: {Machine.words e}")
          match made with
          | .error m => m
          | .ok m =>
            let names := ((keyOf? m source).map fun key => m.files.children key).getD []
            let names := (names.map (·.1)).mergeSort (· ≤ ·)
            names.foldl (fun m name =>
              let name := Octet.ofText name
              copy t fuel m (into (withoutSlashes source ++ "/") name) (into target name)) m
    | .ok node =>
      if areSame m source target then
        m.noteFailure 1 s!"{quoted source} and {quoted target} are the same file"
      else if isDirectory m target then
        m.noteFailure 1 s!"cannot overwrite directory {quoted target} with non-directory"
      else if t.keeps && m.files.has (Machine.pathOf target) then m
      else if t.asks && m.files.has (Machine.pathOf target) then
        (ask m s!"overwrite {quoted target}").ends 1
      else
        match node, t.deep with
        | .device kind _, true => makeDevice kind (told t m source target) target
        | _, _ => copyFile t.keepsMode (told t m source target) source target

/-- Moves what an operand leads to. -/
def move (t : Transfer) (m : Machine) (source target : String) : Machine :=
  let refuse (m : Machine) (e : FileError) : Machine :=
    m.noteFailure 1 s!"cannot move {quoted source} to {quoted target}: {Machine.words e}"
  match m.nodeAt source, keyOf? m source with
  | .error e, _ => m.noteFailure 1 s!"cannot stat {quoted source}: {Machine.words e}"
  | _, none => m
  | .ok node, some key =>
    if t.keeps && m.files.has (Machine.pathOf target) then m
    else if t.asks && m.files.has (Machine.pathOf target) then ask m s!"overwrite {quoted target}"
    else
      match m.files.locate (Machine.pathOf target) with
      | .error e => refuse m e
      | .ok other =>
        if other = key then
          m.noteFailure 1 s!"{quoted source} and {quoted target} are the same file"
        else
          match node, m.files.node? other with
          | .directory _, none | .directory _, some (.directory _) =>
            if key.isPrefixOf other then
              m.noteFailure 1
                s!"cannot move {quoted source} to a subdirectory of itself, {quoted target}"
            else if !(m.files.children other).isEmpty then
              m.noteFailure 1 s!"cannot overwrite {quoted target}: Directory not empty"
            else
              told t (m.moveKey key other) source target
          | .directory _, some _ =>
            m.noteFailure 1
              s!"cannot overwrite non-directory {quoted target} with directory {quoted source}"
          | _, some (.directory _) =>
            m.noteFailure 1 s!"cannot overwrite directory {quoted target} with non-directory"
          | node, existing =>
            if FileTree.wantsDirectory (Machine.pathOf target) then refuse m .notADirectory
            else
              match existing with
              | some (.device kind taken) =>
                match node with
                | .file content _ =>
                  match Node.deviceAfter kind taken content with
                  | .ok device =>
                    let m := m.unname key
                    { m with files := m.files.insert other device }
                  | .error e => refuse m e
                | _ => m
              | _ => told t (m.moveKey key other) source target

/-- Goes over the sources of a tool that has a target behind them. -/
def transferAll (act : Transfer → Machine → String → String → Machine) (isCopy : Bool) : Program :=
  let known : Known := if isCopy
    then ⟨"abdfHiLlnprRsTt:uvxPS:\x01::", [("preserve", '\x01'),
      ("archive", 'a'), ("force", 'f'), ("no-clobber", 'n'),
      ("recursive", 'r'), ("no-target-directory", 'T'), ("target-directory", 't'), ("verbose", 'v'),
      ("update", 'u'), ("interactive", 'i')], false⟩
    else ⟨"bfint:Tuv", [("force", 'f'), ("no-clobber", 'n'), ("no-target-directory", 'T'),
      ("target-directory", 't'), ("verbose", 'v'), ("update", 'u'), ("interactive", 'i')], false⟩
  make known 1 fun o m =>
    let t : Transfer := {
      deep := o.has 'r' || o.has 'R' || o.has 'a'
      keeps := o.lastOf? ['n', 'f', 'i'] == some 'n'
      keepsMode := o.has 'a' || o.has 'p' || (o.value? '\x01').any fun what =>
        what = "" || (what.splitOn ",").any fun part => part = "mode" || part = "all"
      asks := o.lastOf? ['n', 'f', 'i'] == some 'i'
      word := if isCopy then "" else "renamed "
      tells := o.has 'v' }
    match o.value? 't', o.operands with
    | some directory, sources =>
      if sources.isEmpty then missingOperand m "file operand"
      else if !isDirectory m directory then
        let e := match m.nodeAt directory with
          | .error e => e
          | .ok _ => .notADirectory
        m.noteFailure 1 s!"target directory {quoted directory}: {Machine.words e}"
      else sources.foldl (fun m source => act t m source (into directory source)) m
    | none, [] => missingOperand m "file operand"
    | none, [source] => m.noteUsage 1 s!"missing destination file operand after {quoted source}"
    | none, operands =>
      let target := operands.getLastD ""
      let sources := operands.dropLast
      if isDirectory m target && !o.has 'T' then
        sources.foldl (fun m source => act t m source (into target source)) m
      else
        match sources with
        | [source] => act t m source target
        | _ =>
          if o.has 'T' then m.noteUsage 1 ("extra operand " ++ quoted (operands.getD 2 ""))
          else
            let e := match m.nodeAt target with
              | .error e => e
              | .ok _ => .notADirectory
            m.noteFailure 1 s!"target {quoted target}: {Machine.words e}"

def cp : Program := transferAll (fun t => copy t 100) true

def mv : Program := transferAll move false

/-- Gives what stands at an operand one more key. -/
def nameAlso (m : Machine) (source : String) (key : Key) (node : Node) : Machine :=
  match keyOf? m source with
  | some old => m.addKey old key node
  | none => m

/-- `link`: gives a file one more name. -/
def linkOne : Program :=
  make ⟨"", [], false⟩ 1 fun o m =>
    match o.operands with
    | [] => missingOperand m "operand"
    | [source] => m.noteUsage 1 s!"missing operand after {quoted source}"
    | _ :: _ :: extra :: _ => m.noteUsage 1 s!"extra operand {quoted extra}"
    | [source, target] =>
      let refuse (why : String) : Machine :=
        m.noteFailure 1 s!"cannot create link {quoted target} to {quoted source}: {why}"
      match m.nodeAt source, m.files.locate (Machine.pathOf target) with
      | .error e, _ => refuse (Machine.words e)
      | .ok (.directory _), _ => refuse "Operation not permitted"
      | .ok node, .ok key =>
        if (m.files.node? key).isSome then refuse "File exists"
        else nameAlso m source key node
      | _, .error e => refuse (Machine.words e)

def link : Program :=
  make ⟨"fnsvtrT", [("force", 'f'), ("symbolic", 's'), ("verbose", 'v')], false⟩ 1 fun o m =>
    let kind := if o.has 's' then "symbolic" else "hard"
    let one (m : Machine) (source target : String) : Machine :=
      match m.nodeAt source with
      | .error e =>
        if o.has 's' then m else m.noteFailure 1 s!"failed to access {quoted source}: {Machine.words e}"
      | .ok (.directory _) =>
        if o.has 's' then copy { deep := true, keeps := false, tells := false } 100 m source target
        else m.noteFailure 1 s!"{source}: hard link not allowed for directory"
      | .ok node =>
        if m.files.has (Machine.pathOf target) && !o.has 'f' then
          m.noteFailure 1 s!"failed to create {kind} link {quoted target}: File exists"
        else
          match m.files.locate (Machine.pathOf target) with
          | .ok key => nameAlso m source key node
          | .error e =>
            m.noteFailure 1 s!"failed to create {kind} link {quoted target}: {Machine.words e}"
    match o.operands with
    | [] => missingOperand m "file operand"
    | [source] => one m source (into "." source)
    | operands =>
      let target := operands.getLastD ""
      if isDirectory m target then
        operands.dropLast.foldl (fun m source => one m source (into target source)) m
      else
        match operands with
        | [source, target] => one m source target
        | _ => m.noteFailure 1 s!"target {quoted target}: Not a directory"

/-! ### Removing -/

/-- Whether a path ends in a step that stays or goes up. -/
def endsInDots (operand : String) : Bool :=
  let name := Program.lastName (withoutSlashes operand)
  name = "." || name = ".."

/-- What is below a directory, in the order of the names, each directory behind what it holds. -/
def inDepth : Nat → FileTree → Key → List String → List (List String × Node)
  | 0, _, _, _ => []
  | fuel + 1, t, key, names =>
    let children := (t.children key).mergeSort fun a b => a.1 ≤ b.1
    children.flatMap fun (name, node) =>
      (if node.isDirectory then inDepth fuel t (key ++ [name]) (names ++ [name]) else []) ++
        [(names ++ [name], node)]

def removeTree (tells : Bool) (m : Machine) (operand : String) (key : Key) : Machine :=
  let below := inDepth 100 m.files key []
  let m := { m with files := m.files.eraseBelow key }
  if !tells then m
  else
    let m := below.foldl (fun m (names, node) =>
      let name := withoutSlashes operand ++ "/" ++ Octet.ofText (String.intercalate "/" names)
      m.printText (if node.isDirectory then s!"removed directory {quoted name}\n"
        else s!"removed {quoted name}\n")) m
    m.printText s!"removed directory {quoted operand}\n"

def rm : Program :=
  make ⟨"dfiIrRv", [("dir", 'd'), ("force", 'f'), ("recursive", 'r'), ("verbose", 'v')], false⟩ 1
    fun o m =>
    let deep := o.has 'r' || o.has 'R'
    let force := o.lastOf? ['f', 'i'] == some 'f'
    if o.operands.isEmpty then if force then m else missingOperand m "operand"
    else
      onEach o m fun m operand =>
        let refuse (e : FileError) : Machine :=
          m.noteFailure 1 s!"cannot remove {quoted operand}: {Machine.words e}"
        if deep && endsInDots operand then
          m.noteFailure 1
            s!"refusing to remove '.' or '..' directory: skipping {quoted operand}"
        else
          match m.nodeAt operand, keyOf? m operand with
          | .error e, _ =>
            if force && (e = .notFound || e = .notADirectory) then m else refuse e
          | _, none => m
          | .ok (.directory _), some key =>
            if !deep && !o.has 'd' then refuse .isADirectory
            else if key.isEmpty then
              m.noteFailure 1 s!"it is dangerous to operate recursively on {quoted operand}"
            else if deep then removeTree (o.has 'v') m operand key
            else if !o.has 'd' then refuse .isADirectory
            else if (m.files.children key).isEmpty then
              removeTree (o.has 'v') m operand key
            else refuse .directoryNotEmpty
          | .ok _, some key =>
            if o.lastOf? ['f', 'i'] == some 'i' then
              let kind := if (m.nodeAt operand).toOption.any fun node =>
                  match node with
                  | .file content _ => content.isEmpty
                  | _ => false
                then "regular empty file" else "regular file"
              ask m s!"remove {kind} {quoted operand}"
            else
            let m := m.unname key
            if o.has 'v' then m.printText s!"removed {quoted operand}\n" else m

def rmdir : Program :=
  make ⟨"pv\x01", [("parents", 'p'), ("verbose", 'v'), ("ignore-fail-on-non-empty", '\x01')], false⟩ 1
    fun o m =>
    if o.operands.isEmpty then missingOperand m "operand"
    else
      let one (m : Machine) (operand : String) : Machine × Bool :=
        let refuse (e : FileError) : Machine × Bool :=
          (m.noteFailure 1 s!"failed to remove {quoted operand}: {Machine.words e}", false)
        match m.nodeAt operand, keyOf? m operand with
        | .error e, _ => refuse e
        | .ok (.directory _), some key =>
          if (Program.lastName (withoutSlashes operand)) = "." then refuse .invalidArgument
          else if (m.files.children key).isEmpty then
            let m := { m with files := m.files.erase key }
            (if o.has 'v' then m.printText s!"{m.name}: removing directory, {quoted operand}\n" else m,
              true)
          else if o.has '\x01' then (m, true)
          else refuse .directoryNotEmpty
        | .ok _, _ => refuse .notADirectory
      onEach o m fun m operand =>
        if o.has 'p' then
          let parts := (withoutSlashes operand).toList.splitOn '/'
          let paths := (List.range parts.length).map fun n =>
            String.ofList (['/'].intercalate (parts.take (parts.length - n)))
          ((paths.filter (· ≠ "")).foldl (fun (m, good) path =>
            if good then one m path else (m, false)) (m, true)).1
        else (one m operand).1

def unlink : Program :=
  make ⟨"", [], false⟩ 1 fun o m =>
    match o.operands with
    | [] => missingOperand m "operand"
    | [operand] =>
      match m.files.remove (Machine.pathOf operand), keyOf? m operand with
      | .ok _, some key => m.unname key
      | .ok _, none => m
      | .error e, _ => m.noteFailure 1 s!"cannot unlink {quoted operand}: {Machine.words e}"
    | _ :: extra :: _ => m.noteUsage 1 s!"extra operand {quoted extra}"

/-! ### Making -/

/-- Makes the directories on the way down, the last of them with a mode of its own; the names so far are
kept for messages. -/
def makeParents (tells : Bool) (mode last : Mode) (m : Machine) (operand : String) : Machine :=
  let parts := operand.toList.splitOn '/'
  let steps := (List.range parts.length).map fun n => (parts.take (n + 1))
  let paths := (steps.filter fun step => step.getLast? != some []).map fun step =>
    String.ofList (['/'].intercalate step)
  (paths.foldl (fun (m, good) path =>
    if !good then (m, false)
    else
      match m.nodeAt path with
      | .ok (.directory _) => (m, true)
      | .ok _ =>
        let e : FileError := if some path = paths.getLast? then .alreadyExists else .notADirectory
        (m.noteFailure 1 s!"cannot create directory {quoted path}: {Machine.words e}", false)
      | .error _ =>
        let mode := if some path = paths.getLast? then last else mode
        match m.makeDirectory mode (Machine.pathOf path) with
        | .ok m =>
          (if tells then m.printText s!"{m.name}: created directory {quoted path}\n" else m, true)
        | .error e =>
          (m.noteFailure 1 s!"cannot create directory {quoted path}: {Machine.words e}", false))
    (m, true)).1

def mkdir : Program :=
  make ⟨"m:pv", [("mode", 'm'), ("parents", 'p'), ("verbose", 'v')], false⟩ 1 fun o m =>
    let masked := Mode.permissions.without m.mask
    let wanted : Option Mode :=
      match o.value? 'm' with
      | none => some masked
      | some text =>
        (ModeChange.read? text.toList).map (ModeChange.applyAll true m.mask Mode.permissions)
    match if o.operands.isEmpty then some masked else wanted with
    | none => m.noteFailure 1 ("invalid mode " ++ quoted ((o.value? 'm').getD ""))
    | some mode =>
      if o.operands.isEmpty then missingOperand m "operand"
      else onEach o m fun m operand =>
        if o.has 'p' then makeParents (o.has 'v') (masked ||| 0o300) mode m operand
        else
          match m.makeDirectory mode (Machine.pathOf (withoutSlashes operand)) with
          | .ok m =>
            if o.has 'v' then m.printText s!"{m.name}: created directory {quoted operand}\n" else m
          | .error e =>
            m.noteFailure 1 s!"cannot create directory {quoted operand}: {Machine.words e}"

def touch : Program :=
  make ⟨"acd:fhmr:t:", [("no-create", 'c'), ("date", 'd'), ("reference", 'r'), ("time", 't')], false⟩ 1
    fun o m =>
    if o.operands.isEmpty then missingOperand m "file operand"
    else
      onEach o m fun m operand =>
        match m.nodeAt operand, keyOf? m operand with
        | .ok node, some key => m.putNode key node
        | .error .notFound, some key =>
          if o.has 'c' then m
          else if FileTree.wantsDirectory (Machine.pathOf operand) then
            m.noteFailure 1 s!"setting times of {quoted operand}: No such file or directory"
          else m.putNode key (.file [] (Mode.fresh.without m.mask))
        | .error .notADirectory, some _ =>
          m.noteFailure 1 s!"setting times of {quoted operand}: Not a directory"
        | .error e, _ =>
          if o.has 'c' && e = .notFound then m
          else m.noteFailure 1 s!"cannot touch {quoted operand}: {Machine.words e}"
        | _, _ => m

/-- A name for a template: its last run of `X` is replaced by letters that count on. -/
def fillTemplate (template : List Char) (n : Nat) : Option String :=
  let behind := (template.reverse.takeWhile (· ≠ 'X')).reverse
  let front := template.take (template.length - behind.length)
  let size := (front.reverse.takeWhile (· == 'X')).length
  if size < 3 then none
  else
    let letters := (List.range size).map fun i =>
      Char.ofNat ('a'.toNat + n / Nat.pow 26 (size - 1 - i) % 26)
    some (String.ofList (front.take (front.length - size) ++ letters ++ behind))

def mktemp : Program :=
  make ⟨"dup:qt", [("directory", 'd'), ("dry-run", 'u'), ("tmpdir", 'p'), ("quiet", 'q')], false⟩ 1
    fun o m =>
    if o.operands.length > 1 then m.noteUsage 1 "too many templates"
    else
    let template := o.operands.headD "tmp.XXXXXXXXXX"
    let base := (o.value? 'p').getD (if o.operands.isEmpty || o.has 't' then "/tmp" else "")
    let full := if base = "" then template else base ++ "/" ++ template
    let candidates := (List.range 1000).filterMap (fillTemplate full.toList)
    match candidates.find? fun name => !m.files.has (Machine.pathOf name) with
    | none => m.noteFailure 1 s!"too few X's in template {quoted template}"
    | some name =>
      let made :=
        if o.has 'd' then m.makeDirectory Mode.owner (Machine.pathOf name)
        else (m.writeFile (Machine.pathOf name) []).map fun m => giveMode m name 0o600
      match made with
      | .ok made => (if o.has 'u' then m else made).printText (name ++ "\n")
      | .error e =>
        let kind := if o.has 'd' then "directory" else "file"
        m.noteFailure 1 s!"failed to create {kind} via template {quoted full}: {Machine.words e}"

def truncate : Program :=
  make ⟨"cos:r:", [("no-create", 'c'), ("size", 's'), ("reference", 'r')], false⟩ 1 fun o m =>
    let reference := (o.value? 'r').map fun operand =>
      match m.nodeAt operand with
      | .ok (.file content _) => toString content.length
      | _ => "0"
    match reference.or (o.value? 's') with
    | none => m.noteUsage 1 "you must specify either '--size' or '--reference'"
    | some text =>
      if o.operands.isEmpty then missingOperand m "file operand"
      else
        let sign := text.toList.head?.filter fun c => c == '+' || c == '-'
        let digits := if sign.isSome then (text.drop 1).toString else text
        match size? digits with
        | none => m.noteFailure 1 s!"Invalid number: {quoted text}"
        | some n =>
          onEach o m fun m operand =>
            let old := match m.nodeAt operand with
              | .ok (.file content _) => content
              | _ => []
            let size := match sign with
              | some '+' => old.length + n
              | some _ => old.length - n
              | none => n
            if o.has 'c' && !m.files.has (Machine.pathOf operand) then m
            else
              let content := old.take size ++ List.replicate (size - old.length) 0
              match m.writeFile (Machine.pathOf operand) content with
              | .ok m => m
              | .error e =>
                m.noteFailure 1 s!"cannot open {quoted operand} for writing: {Machine.words e}"

/-! ### Changing modes -/

/-- The modes before and after a change, as far as they are told. -/
def toldModes (o : Options) (m : Machine) (operand : String) (before after : Mode) : Machine :=
  let shown (mode : Mode) : String := s!"{String.ofList mode.fourDigits} ({String.ofList mode.letters})"
  if before ≠ after && (o.has 'v' || o.has 'c') then
    m.printText s!"mode of {quoted operand} changed from {shown before} to {shown after}\n"
  else if o.has 'v' then m.printText s!"mode of {quoted operand} retained as {shown before}\n"
  else m

/-- Changes the mode of a file, and says so if the mask has kept something. -/
def changeMode (o : Options) (checks : Bool) (change : Mode → Node → Mode) (m : Machine)
    (operand : String) (key : Key) : Machine :=
  match m.files.node? key with
  | none => m
  | some (.device ..) => m
  | some node =>
    let after := change m.mask node
    let m := toldModes o (m.setMode key after) operand node.mode after
    let naive := change 0 node
    if checks && after.hasAny (~~~naive) then
      let (got, wanted) := (String.ofList after.letters, String.ofList naive.letters)
      m.noteFailure 1 s!"{Quoting.ifNeeded operand}: new permissions are {got}, not {wanted}"
    else m

/-- What stands below a directory, with its names, each directory before what it holds. -/
def inOrder : Nat → FileTree → Key → String → List (String × Key)
  | 0, _, _, _ => []
  | fuel + 1, t, key, shown =>
    let children := (t.children key).mergeSort fun a b => a.1 ≤ b.1
    children.flatMap fun (name, node) =>
      let inner := (if shown.endsWith "/" then shown else shown ++ "/") ++ Octet.ofText name
      (inner, key ++ [name]) ::
        (if node.isDirectory then inOrder fuel t (key ++ [name]) inner else [])

def chmod : Program := fun exec m args =>
  /- A mode may begin with a dash. -/
  let isMode (arg : String) : Bool :=
    match arg.toList with
    | '-' :: c :: _ => "rwxXstugoa".toList.contains c || ModeChange.isOctal c || c == ',' || c == '='
    | _ => false
  let options := args.takeWhile (· ≠ "--")
  let mode? := options.find? isMode
  let args := if mode?.isSome then options.filter (!isMode ·) ++ args.drop options.length else args
  let known : Known := ⟨"Rcfv\x01:", [("recursive", 'R'), ("changes", 'c'), ("silent", 'f'),
    ("quiet", 'f'), ("verbose", 'v'), ("reference", '\x01')], false⟩
  make known 1 (fun o m =>
    let reference := o.value? '\x01'
    let (text, operands) : Option String × List String :=
      if reference.isSome then (none, o.operands)
      else if mode?.isSome then (mode?, o.operands)
      else (o.operands.head?, o.operands.tail)
    let change : Except String (Mode → Node → Mode) :=
      match reference, text with
      | some name, _ =>
        match m.nodeAt name with
        | .ok node => .ok fun _ _ => node.mode
        | .error e => .error s!"failed to get attributes of {quoted name}: {Machine.words e}"
      | none, some text =>
        match ModeChange.read? text.toList with
        | some changes =>
          .ok fun mask node => ModeChange.applyAll node.isDirectory mask node.mode changes
        | none => .error s!"invalid mode: {quoted text}"
      | none, none => .error ""
    match operands, text, change with
    | [], some text, _ => m.noteUsage 1 s!"missing operand after {quoted text}"
    | [], none, _ => missingOperand m "operand"
    | _, _, .error text =>
      if reference.isSome then m.noteFailure 1 text else m.noteUsage 1 text
    | operands, _, .ok change =>
      operands.foldl (fun m operand =>
        match m.nodeAt operand, keyOf? m operand with
        | .error e, _ =>
          let m := if o.has 'f' then m.ends 1
            else m.noteFailure 1 s!"cannot access {quoted operand}: {Machine.words e}"
          if o.has 'v' then m.printText s!"{quoted operand} could not be accessed\n" else m
        | .ok _, none => m
        | .ok _, some key =>
          let all := (operand, key) :: (if o.has 'R' then inOrder 100 m.files key operand else [])
          all.foldl (fun m (shown, key) => changeMode o mode?.isSome change m shown key) m) m)
    exec m args

/-- Copies files with a mode, or makes directories. -/
def install : Program :=
  make ⟨"bcCdDg:m:o:pst:Tv", [("directory", 'd'), ("mode", 'm'), ("target-directory", 't'),
    ("verbose", 'v')], false⟩ 1 fun o m =>
    let changes := ModeChange.read? ((o.value? 'm').getD "755").toList
    let mode (isDirectory : Bool) : Mode := ModeChange.applyAll isDirectory 0 0 (changes.getD [])
    let told (m : Machine) (source target : String) : Machine :=
      if o.has 'v' then m.printText s!"{quoted source} -> {quoted target}\n" else m
    let one (m : Machine) (source target : String) : Machine :=
      match m.nodeAt source with
      | .error e => m.noteFailure 1 s!"cannot stat {quoted source}: {Machine.words e}"
      | .ok (.directory _) => m.noteFailure 1 s!"omitting directory {quoted source}"
      | .ok _ =>
        let m := if o.has 'D' then
            match (Path.mk target).parent? with
            | some parent =>
              if parent.spelling = "" then m
              else makeParents false Mode.directory Mode.directory m parent.spelling
            | none => m
          else m
        let m := match m.nodeAt target, keyOf? m target with
          | .ok (.file ..), some key => m.unname key
          | _, _ => m
        giveMode (copyFile false (told m source target) source target) target (mode false)
    if changes.isNone then m.noteFailure 1 ("invalid mode " ++ quoted ((o.value? 'm').getD ""))
    else if o.has 'd' then
      onEach o m fun m operand =>
        giveMode (makeParents (o.has 'v') Mode.directory Mode.directory m operand) operand (mode true)
    else
      match o.value? 't', o.operands with
      | some directory, sources => sources.foldl (fun m s => one m s (into directory s)) m
      | none, [] => missingOperand m "file operand"
      | none, [source] => m.noteUsage 1 s!"missing destination file operand after {quoted source}"
      | none, operands =>
        let target := operands.getLastD ""
        if isDirectory m target then
          operands.dropLast.foldl (fun m s => one m s (into target s)) m
        else
          match operands with
          | [source, target] => one m source target
          | _ => m.noteFailure 1 s!"target {quoted target}: Not a directory"

end ScriptBundle.Shell.Tool
