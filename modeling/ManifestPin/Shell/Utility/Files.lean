import ManifestPin.Shell.Permission
import ManifestPin.Shell.Utility.Paths

/-! # Utilities on the file tree

The programs that create, move, copy, remove and list entries. -/

namespace ManifestPin.Shell.Utility

/-- The slot that a path names. -/
def slotOf (machine : Machine) (path : String) : Except SystemFault (Option Slot) :=
  machine.tree.slot? (gather path)

/-- Whether a path names an entry, be it a link. -/
def isThere (machine : Machine) (path : String) : Bool :=
  match slotOf machine path with
  | .ok (some slot) => (machine.tree.get? slot.location).isSome
  | .ok none => machine.tree.isDirectory (gather path)
  | .error _ => false

/-! ## Removing -/

/-- Removes files and, on request, directories. -/
def rm : Utility :=
  withOptions
    { letters := "dfiIrRv" , names := [("force", 'f'), ("recursive", 'r'), ("dir", 'd'),
        ("verbose", 'v')] } 1
    fun taken => do
      let force := taken.has 'f'
      let recursive := taken.has 'r' || taken.has 'R'
      if taken.operands.isEmpty then
        if force then return 0 else return ← refuseUsage "missing operand" 1
      forEach taken.operands fun path => do
        let machine ← get
        let complaint := "cannot remove " ++ quote path
        match slotOf machine path with
        | .ok (some slot) =>
          match machine.tree.get? slot.location with
          | some (.directory _) =>
            let isEmpty := (machine.tree.names slot.location).isEmpty
            if recursive || (taken.has 'd' && isEmpty) then
              set { machine with tree := machine.tree.eraseBelow slot.location }
              if taken.has 'v' then Task.print ("removed directory " ++ quote path ++ "\n")
              return 0
            else if taken.has 'd' then settle (.error .directoryNotEmpty) complaint
            else settle (.error .isDirectory) complaint
          | some _ =>
            let status ← settle (machine.tree.removeFile (gather path)) complaint
            if status = 0 && taken.has 'v' then Task.print ("removed " ++ quote path ++ "\n")
            return status
          | none => if force then return 0 else settle (.error .noEntry) complaint
        | .ok none =>
          if recursive then
            report ("refusing to remove '.' or '..' directory: skipping " ++ quote path)
            return 1
          else settle (.error .isDirectory) complaint
        | .error fault =>
          if force && (fault = .noEntry || fault = .notDirectory) then return 0
          else settle (.error fault) complaint

/-- Removes an empty directory. -/
def removeEmpty (machine : Machine) (path : String) : Except SystemFault Tree := do
  match ← slotOf machine path with
  | none => throw .invalidArgument
  | some slot =>
    match machine.tree.get? slot.location with
    | none => throw .noEntry
    | some (.directory _) =>
      if (machine.tree.names slot.location).isEmpty then return machine.tree.erase slot.location
      else throw .directoryNotEmpty
    | some _ => throw .notDirectory

/-- Removes empty directories. -/
def rmdir : Utility :=
  withOptions
    { letters := "pvI", names := [("parents", 'p'), ("ignore-fail-on-non-empty", 'I')] } 1
    fun taken => do
      if taken.operands.isEmpty then return ← refuseUsage "missing operand" 1
      forEach taken.operands fun path => do
        let rec go : (fuel : Nat) → String → Task Nat
          | 0, _ => return 0
          | fuel + 1, path => do
            match removeEmpty (← get) path with
            | .ok tree =>
              modify fun machine => { machine with tree }
              let parent := parentPath path
              if taken.has 'p' && parent ≠ "." && parent ≠ "/" then go fuel parent else return 0
            | .error fault =>
              if taken.has 'I' && fault = .directoryNotEmpty then return 0
              report ("failed to remove " ++ quote path ++ ": " ++ fault.text)
              return 1
        go (path.length + 1) path

/-! ## Creating -/

/-- Creates a directory with the permission bits that the mask leaves. -/
def makeDirectory (machine : Machine) (path : String) (mode : Option Nat) :
    Except SystemFault Machine := do
  let tree ← machine.tree.makeDirectory (gather path)
  let mode := mode.getD (Permission.clear 0o777 machine.mask)
  match tree.resolve (gather path) with
  | .ok location => return { machine with tree := tree.update location (·.withMode mode) }
  | .error _ => return { machine with tree }

/-- The paths of the directories on the way to a path, outermost first, and the path itself. -/
def waysTo (path : String) : List String :=
  let rec go : (fuel : Nat) → String → List String → List String
    | 0, _, found => found
    | fuel + 1, path, found =>
      let parent := parentPath path
      if parent = "." || parent = "/" || parent = path then path :: found
      else go fuel parent (path :: found)
  go (path.length + 1) path []

/-- Creates directories. -/
def mkdir : Utility :=
  withOptions
    { letters := "m:pvZ", names := [("mode", 'm'), ("parents", 'p'), ("verbose", 'v')] } 1
    fun taken => do
      if taken.operands.isEmpty then return ← refuseUsage "missing operand" 1
      let machine ← get
      let usual := Permission.clear 0o777 machine.mask
      let mode? := (taken.value? 'm').map fun text => Permission.change? machine.mask true text usual
      if mode? = some none then
        report ("invalid mode " ++ quote ((taken.value? 'm').getD ""))
        return 1
      let mode := mode?.join
      let create (path : String) (mode : Option Nat) : Task Nat := do
        match makeDirectory (← get) path mode with
        | .ok machine =>
          set machine
          if taken.has 'v' then
            Task.print ((← get).name ++ ": created directory " ++ quote path ++ "\n")
          return 0
        | .error fault =>
          report ("cannot create directory " ++ quote path ++ ": " ++ fault.text)
          return 1
      forEach taken.operands fun path => do
        if !taken.has 'p' then create path mode
        else
          let rec go : List String → Task Nat
            | [] => return 0
            | step :: rest => do
              let machine ← get
              if machine.tree.isDirectory (gather step) then go rest
              else if !rest.isEmpty && isThere machine step then
                report ("cannot create directory " ++ quote step ++ ": Not a directory")
                return 1
              else
                let status ← create step (if rest.isEmpty then mode else none)
                if status = 0 then go rest else return status
          if path = "" then create path mode else go (waysTo path)

/-- Creates files that are not there. -/
def touch : Utility :=
  withOptions
    { letters := "acd:fhmr:t:", names := [("no-create", 'c'), ("date", 'd'), ("reference", 'r')] } 1
    fun taken => do
      if taken.operands.isEmpty then return ← refuseUsage "missing file operand" 1
      forEach taken.operands fun path => do
        let machine ← get
        match machine.tree.place (gather path) with
        | .ok (.found _) => return 0
        | .ok (.vacant ..) =>
          if taken.has 'c' then return 0
          else
            match machine.createFile path with
            | .ok (machine, _) =>
              set machine
              return 0
            | .error fault =>
              settle (.error fault) ("cannot touch " ++ quote path)
        | .error fault =>
          let action := if path.endsWith "/" && fault = .noEntry then "setting times of " else
            "cannot touch "
          if taken.has 'c' && fault = .noEntry then return 0
          else settle (.error fault) (action ++ quote path)

/-- Sets the size of files. -/
def truncate : Utility :=
  withOptions
    { letters := "cor:s:", names := [("size", 's'), ("no-create", 'c')] } 1
    fun taken => do
      match taken.value? 's' with
      | none => refuseUsage "you must specify either '--size' or '--reference'" 1
      | some text =>
        let sign := text.toList.headD ' '
        let digits := if sign = '+' || sign = '-' then (text.drop 1).toString else text
        match sizeOf? digits with
        | none =>
          report ("Invalid number: " ++ quote text)
          return 1
        | some amount =>
          forEach taken.operands fun path => do
            let machine ← get
            let content := (machine.readPath path).toOption.getD ByteArray.empty
            let size :=
              if sign = '+' then content.size + amount
              else if sign = '-' then content.size - amount
              else amount
            let gap : ByteArray := ⟨Array.replicate (size - content.size) 0⟩
            match ← writeFile path false (ofOctets (content.extract 0 size ++ gap)) with
            | .ok () => return 0
            | .error fault =>
              report ("cannot open " ++ quote path ++ " for writing: " ++
                fault.text)
              return 1

/-- Creates an entry under a name that no entry has yet. -/
def mktemp : Utility :=
  withOptions
    { letters := "dp:qtu1:", names := [("directory", 'd'), ("dry-run", 'u'), ("quiet", 'q'),
        ("tmpdir", 'p'), ("suffix", '1')] } 1
    fun taken => do
      let machine ← get
      let template := taken.operands.headD "tmp.XXXXXXXXXX"
      let ending := template.toList.reverse.takeWhile (· ≠ 'X')
      let marks := (template.toList.reverse.drop ending.length).takeWhile (· = 'X')
      if marks.length < 3 then
        report ("too few X's in template " ++ quote template)
        return 1
      let inTemporary := taken.operands.isEmpty || taken.has 't' || taken.has 'p'
      let directory : String :=
        match taken.value? 'p' with
        | some path => if path = "" then (machine.text? "TMPDIR").getD "/tmp" else path
        | none => (machine.text? "TMPDIR").getD "/tmp"
      let start := (template.take (template.length - ending.length - marks.length)).toString
      let number := toString (machine.process * 7919 + machine.tree.entries.length * 104729)
      let path (attempt : Nat) : String :=
        let middle := padStart marks.length 'a' (toString (number.length + attempt) ++ number)
        let middle := (middle.drop (middle.length - marks.length)).toString
        let name := start ++ middle ++ String.ofList ending.reverse ++ (taken.value? '1').getD ""
        if inTemporary then directory ++ "/" ++ name else name
      let path := ((List.range 1000).map path).find? fun path => !isThere machine path
      match path with
      | none => return 1
      | some path =>
        let created : Except SystemFault Machine :=
          if taken.has 'u' then .ok machine
          else if taken.has 'd' then makeDirectory machine path (some 0o700)
          else
            (machine.createFile path).map fun (machine, location) =>
              { machine with tree := machine.tree.update location (·.withMode 0o600) }
        match created with
        | .ok machine =>
          set machine
          Task.print (path ++ "\n")
          return 0
        | .error fault =>
          if !taken.has 'q' then
            let kind := if taken.has 'd' then "directory" else "file"
            report ("failed to create " ++ kind ++ " via template " ++
              quote (if inTemporary then directory ++ "/" ++ template else template) ++ ": " ++
              fault.text)
          return 1

/-! ## Moving, copying and linking -/

/-- The path of an entry in a directory under the last name of another path. -/
def within (directory path : String) : String :=
  (if directory.endsWith "/" then directory else directory ++ "/") ++ lastName path

/-- Runs an operation for each source, with its target: the last operand, or an entry in it. -/
def onTargets (taken : Taken) (operation : String → String → Task Nat) : Task Nat := do
  let machine ← get
  let intoDirectory (directory : String) (sources : List String) : Task Nat := do
    if machine.tree.isDirectory (gather directory) then
      forEach sources fun source => operation source (within directory source)
    else
      let fault : SystemFault := if isThere machine directory then .notDirectory else .noEntry
      report ("target " ++ quote directory ++ ": " ++ fault.text)
      return 1
  match taken.value? 't', taken.operands.reverse with
  | some directory, _ => intoDirectory directory taken.operands
  | none, [] => refuseUsage "missing file operand" 1
  | none, [operand] =>
    refuseUsage ("missing destination file operand after " ++ quote operand) 1
  | none, [target, source] =>
    if machine.tree.isDirectory (gather target) && !taken.has 'T' then
      operation source (within target source)
    else operation source target
  | none, target :: sources => intoDirectory target sources.reverse

/-- Moves entries. -/
def mv : Utility :=
  withOptions
    { letters := "bfint:TuvS:", names := [("force", 'f'), ("no-clobber", 'n'),
        ("target-directory", 't'), ("no-target-directory", 'T'), ("verbose", 'v')] } 1
    fun taken =>
      onTargets taken fun source target => do
        let machine ← get
        if !isThere machine source then
          let fault : SystemFault :=
            match slotOf machine source with
            | .error fault => fault
            | .ok _ => .noEntry
          report ("cannot stat " ++ quote source ++ ": " ++ fault.text)
          return 1
        if taken.has 'n' && isThere machine target then return 0
        let location (path : String) : Option Location :=
          match slotOf machine path with
          | .ok (some slot) => some slot.location
          | _ => none
        if (location source).isSome && location source = location target then
          report (quote source ++ " and " ++ quote target ++
            " are the same file")
          return 1
        -- between two names of one file, the first is removed
        let isOneFile := (location source).any fun first =>
          (location target).any (machine.tree.shares first)
        let moved :=
          if isOneFile then machine.tree.removeFile (gather source)
          else machine.tree.move (gather source) (gather target)
        match moved with
        | .ok tree =>
          set { machine with tree }
          if taken.has 'v' then
            Task.print ("renamed " ++ quote source ++ " -> " ++ quote target ++ "\n")
          return 0
        | .error .invalidArgument =>
          report ("cannot move " ++ quote source ++ " to a subdirectory of itself, " ++
            quote target)
          return 1
        | .error fault =>
          let text :=
            match fault, machine.tree.isDirectory (gather source) with
            | .notDirectory, true =>
              "cannot overwrite non-directory " ++ quote target ++ " with directory " ++
                quote source
            | .isDirectory, false =>
              "cannot overwrite directory " ++ quote target ++ " with non-directory"
            | fault, _ =>
              "cannot move " ++ quote source ++ " to " ++ quote target ++ ": " ++ fault.text
          report text
          return 1

/-- The entries of a copy of all that a location holds. -/
def copiesBelow (tree : Tree) (source target : Location) : List (Location × Entry) :=
  (tree.entries.filter fun held => source.isSuffixOf held.1).map fun held =>
    (held.1.take (held.1.length - source.length) ++ target, held.2)

/-- The tree with entries at their locations. -/
def putAll (tree : Tree) (entries : List (Location × Entry)) : Tree :=
  entries.foldl (fun tree (location, entry) => tree.put location entry) tree

/-- Copies a file, or a directory with all that it holds. -/
def copy (taken : Taken) (source target : String) : Task Nat := do
  let machine ← get
  let keepsLinks := taken.has 'P' || taken.has 'd' || taken.has 'a' ||
    ((taken.has 'r' || taken.has 'R') && !taken.has 'L')
  let entry : Except SystemFault (Location × Entry) := do
    if keepsLinks then
      match ← slotOf machine source with
      | some slot =>
        match machine.tree.get? slot.location with
        | some (.link target) => return (slot.location, .link target)
        | _ => pure ()
      | none => pure ()
    let location ← machine.tree.resolve (gather source)
    match machine.tree.get? location with
    | some entry => return (location, entry)
    | none => throw .noEntry
  let preserves := taken.has 'p' || taken.has 'a'
  match entry with
  | .error fault =>
    report ("cannot stat " ++ quote source ++ ": " ++ fault.text)
    return 1
  | .ok (location, .directory mode) =>
    if !(taken.has 'r' || taken.has 'R' || taken.has 'a') then
      report ("-r not specified; omitting directory " ++ quote source)
      return 1
    let target? : Except SystemFault Location := canonical? machine target
    match target? with
    | .error fault =>
      report ("cannot create directory " ++ quote target ++ ": " ++ fault.text)
      return 1
    | .ok place =>
      if location.isSuffixOf place then
        report ("cannot copy a directory, " ++ quote source ++
          ", into itself, " ++ quote target)
        return 1
      match machine.tree.get? place with
      | some (.directory _) =>
        let added := (copiesBelow machine.tree location place).filter fun held => held.1 ≠ place
        set { machine with
          tree := putAll machine.tree added }
        return 0
      | some _ =>
        report ("cannot overwrite non-directory " ++ quote target ++
          " with directory " ++ quote source)
        return 1
      | none =>
        let tree := machine.tree.put place (.directory mode)
        let added := (copiesBelow machine.tree location place).filter fun held => held.1 ≠ place
        set { machine with tree := putAll tree added }
        return 0
  | .ok (location, held) =>
    if taken.has 'n' && isThere machine target then return 0
    if (machine.tree.resolve (gather target)).toOption.any (machine.tree.shares location) then
      report (quote source ++ " and " ++ quote target ++
        " are the same file")
      return 1
    if taken.has 's' then
      return ← settle (machine.tree.create (gather target) (.link (gather source)))
        ("cannot create symbolic link " ++ quote target ++ " to " ++ quote source)
    match held with
    | .link goal =>
      let cleared := (machine.tree.removeFile (gather target)).toOption.getD machine.tree
      settle (cleared.create (gather target) (.link goal))
        ("cannot create symbolic link " ++ quote target)
    | held =>
      let isNew := (machine.tree.entry (gather target)).toOption.isNone
      let content := match held with | .file content _ => content | _ => ByteArray.empty
      let fault (fault : SystemFault) : SystemFault :=
        if isNew && target.endsWith "/" then .notDirectory else fault
      match (machine.createFile target).mapError fault with
      | .error .isDirectory =>
        report ("cannot overwrite directory " ++ quote target ++
          " with non-directory")
        return 1
      | .error fault =>
        report ("cannot create regular file " ++ quote target ++ ": " ++
          fault.text)
        return 1
      | .ok (created, place) =>
        let mode :=
          if preserves then some held.mode
          else if isNew then some (Permission.clear held.mode machine.mask)
          else none
        let tree := created.tree.update place (·.withContent content)
        let tree :=
          match mode with
          | some mode => tree.update place (·.withMode mode)
          | none => tree
        set { created with tree }
        if taken.has 'v' then Task.print (quote source ++ " -> " ++ quote target ++ "\n")
        return 0

/-- Copies files and directories. -/
def cp : Utility :=
  withOptions
    { letters := "abdfHilLnpPrRst:TuvxS:1::", names := [("archive", 'a'), ("force", 'f'),
        ("no-clobber", 'n'), ("recursive", 'r'), ("target-directory", 't'),
        ("no-target-directory", 'T'), ("verbose", 'v'), ("preserve", '1'),
        ("symbolic-link", 's'), ("dereference", 'L'), ("no-dereference", 'P')] } 1
    fun taken => onTargets taken (copy taken)

/-- Copies files and sets their permission bits, or creates directories. -/
def install : Utility :=
  withOptions
    { letters := "bcdDg:m:o:pst:TvS:", names := [("directory", 'd'), ("mode", 'm'),
        ("target-directory", 't'), ("verbose", 'v')] } 1
    fun taken => do
      let mode := ((taken.value? 'm').bind fun text =>
        Permission.change? 0 false text 0).getD 0o755
      let ways (path : String) : Task Unit :=
        for step in waysTo path do
          let machine ← get
          if !machine.tree.isDirectory (gather step) then
            match makeDirectory machine step (some 0o755) with
            | .ok machine => set machine
            | .error _ => pure ()
      let finish (path : String) : Task Unit :=
        modify fun machine =>
          match machine.tree.resolve (gather path) with
          | .ok location =>
            { machine with tree := machine.tree.update location (·.withMode mode) }
          | .error _ => machine
      if taken.has 'd' then
        for path in taken.operands do
          ways path
          finish path
        return 0
      if taken.has 'D' then
        match taken.operands.getLast? with
        | some target => ways (parentPath target)
        | none => pure ()
      onTargets taken fun source target => do
        let status ← copy taken source target
        if status = 0 then finish target
        return status

/-- The location of the entry that a path names: on request, the one that a link leads to. -/
def named (machine : Machine) (follows : Bool) (path : String) : Except SystemFault Location := do
  match follows, ← slotOf machine path with
  | false, some slot =>
    match slot.slash, machine.tree.get? slot.location with
    | false, some (.link _) => return slot.location
    | _, _ => machine.tree.resolve (gather path)
  | _, _ => machine.tree.resolve (gather path)

/-- Creates links. -/
def ln : Utility :=
  withOptions
    { letters := "bdfinLPrst:TvS:", names := [("force", 'f'), ("symbolic", 's'),
        ("no-dereference", 'n'), ("target-directory", 't'), ("verbose", 'v')] } 1
    fun taken => do
      let link (target path : String) : Task Nat := do
        let machine ← get
        let tree :=
          if taken.has 'f' then (machine.tree.removeFile (gather path)).toOption.getD machine.tree
          else machine.tree
        if taken.has 's' then
          settle (tree.create (gather path) (.link (gather target)))
            ("failed to create symbolic link " ++ quote path)
        else
          match named machine (taken.has 'L') target with
          | .error fault =>
            report ("failed to access " ++ quote target ++ ": " ++ fault.text)
            return 1
          | .ok location =>
            if machine.tree.holdsDirectory location then
              report (quote target ++ ": hard link not allowed for directory")
              return 1
            if taken.has 'f' && (named machine false path).toOption = some location then
              report (quote target ++ " and " ++ quote path ++ " are the same file")
              return 1
            settle (tree.linkTo location (gather path))
              ("failed to create hard link " ++ quote path)
      let machine ← get
      let isInto (path : String) : Bool :=
        machine.tree.isDirectory (gather path) && !taken.has 'T' &&
          !(taken.has 'n' && (match slotOf machine path with
            | .ok (some slot) =>
              match machine.tree.get? slot.location with
              | some (.link _) => true
              | _ => false
            | _ => false))
      match taken.value? 't', taken.operands with
      | some directory, targets => forEach targets fun target => link target (within directory target)
      | none, [] => refuseUsage "missing file operand" 1
      | none, [target] => link target ("./" ++ lastName target)
      | none, [target, path] =>
        link target (if isInto path then within path target else path)
      | none, operands =>
        let directory := operands.getLast?.getD ""
        if machine.tree.isDirectory (gather directory) then
          forEach operands.dropLast fun target => link target (within directory target)
        else
          report ("target " ++ quote directory ++ ": Not a directory")
          return 1

/-! ## Permission bits -/

/-- Changes the permission bits of files. -/
def chmod : Utility := fun arguments =>
  let isMode (word : String) : Bool :=
    match word.toList with
    | '-' :: c :: rest => (c :: rest).all fun c => "rwxXstugo,=+-".toList.contains c
    | _ => false
  let guarded := arguments.map fun word =>
    if isMode word && word ≠ "-s" && word ≠ "-R" then "\x00" ++ word else word
  withOptions
    { letters := "cfRv", names := [("changes", 'c'), ("silent", 'f'), ("quiet", 'f'),
        ("recursive", 'R'), ("verbose", 'v')] } 1
    (fun taken => do
      let operands := taken.operands.map fun word =>
        if word.startsWith "\x00" then (word.drop 1).toString else word
      match operands with
      | [] => refuseUsage "missing operand" 1
      | [mode] => refuseUsage ("missing operand after " ++ quote mode) 1
      | mode :: paths =>
        let machine ← get
        if (Permission.change? machine.mask false mode 0).isNone then
          return ← refuseUsage ("invalid mode: " ++ quote mode) 1
        forEach paths fun path => do
          let machine ← get
          match machine.tree.resolve (gather path) with
          | .ok location =>
            let change (entry : Entry) : Entry :=
              match Permission.change? machine.mask entry.isDirectory mode entry.mode with
              | some bits => entry.withMode bits
              | none => entry
            let below :=
              if taken.has 'R' then
                (machine.tree.entries.map (·.1)).filter fun other => location.isSuffixOf other
              else [location]
            set { machine with
              tree := below.foldl (fun tree place => tree.update place change) machine.tree }
            return 0
          | .error fault =>
            if taken.has 'f' then return 1
            if isThere machine path then
              report ("cannot operate on dangling symlink " ++ quote path)
              return 1
            else settle (.error fault) ("cannot access " ++ quote path)) guarded

/-! ## Listing -/

/-- The letters of permission bits. -/
def modeText (entry : Entry) : String :=
  let mode := entry.mode
  let three (bits special : Nat) (set unset : Char) : List Char :=
    [if bits &&& 4 ≠ 0 then 'r' else '-', if bits &&& 2 ≠ 0 then 'w' else '-',
      if mode &&& special ≠ 0 then (if bits &&& 1 ≠ 0 then set else unset)
      else if bits &&& 1 ≠ 0 then 'x' else '-']
  let kind : Char :=
    match entry with
    | .file .. => '-'
    | .directory _ => 'd'
    | .link _ => 'l'
    | .sink => 'c'
  String.ofList (kind :: three (mode / 0o100) 0o4000 's' 'S' ++
    three (mode / 0o10 % 8) 0o2000 's' 'S' ++ three (mode % 8) 0o1000 't' 'T')

/-- How many octets an entry takes. -/
def entrySize : Entry → Nat
  | .file content _ => content.size
  | .directory _ => 4096
  | .link target => target.utf8ByteSize
  | .sink => 0

/-- The line of a long listing. -/
def longLine (name : String) (entry : Entry) : String :=
  modeText entry ++ " 1 root root " ++ toString (entrySize entry) ++ " Jan  1 00:00 " ++ name ++
    match entry with
    | .link target => " -> " ++ spread target
    | _ => ""

/-- Writes the names in directories. -/
def ls : Utility :=
  withOptions
    { letters := "aAbBcCdfFghHiklLmnNopqQrRsStuUvw:xXZ1I:0::", names := [("all", 'a'),
        ("almost-all", 'A'), ("directory", 'd'), ("recursive", 'R'), ("reverse", 'r'),
        ("color", '0'), ("classify", 'F'), ("inode", 'i'), ("size", 's')] } 2
    fun taken => do
      let machine ← get
      let label (name : String) (entry : Entry) : String :=
        let mark : String :=
          match entry with
          | .directory _ => if taken.has 'F' || taken.has 'p' then "/" else ""
          | .link _ => if taken.has 'F' then "@" else ""
          | .file _ mode => if taken.has 'F' && mode &&& 0o111 ≠ 0 then "*" else ""
          | .sink => ""
        if taken.has 'l' || taken.has 'n' || taken.has 'g' || taken.has 'o' then
          longLine name entry
        else name ++ mark
      let order (names : List String) : List String :=
        let sorted := names.mergeSort fun a b => a ≤ b
        if taken.has 'r' then sorted.reverse else sorted
      let entryOf (path : String) : Except SystemFault Entry :=
        match slotOf machine path with
        | .ok (some slot) =>
          match machine.tree.get? slot.location with
          | some (.link target) =>
            let follows := !(taken.has 'd' || taken.has 'l' || taken.has 'F') || taken.has 'L' ||
              slot.slash
            if follows then (machine.tree.entry (gather path)).toOption.elim (.ok (.link target)) .ok
            else .ok (.link target)
          | some entry =>
            if slot.slash && !entry.isDirectory then .error .notDirectory else .ok entry
          | none => .error .noEntry
        | .ok none => machine.tree.entry (gather path)
        | .error fault => .error fault
      let listing (location : Location) : List String :=
        let names := order ((machine.tree.names location).map spread)
        let shown := names.filter fun name =>
          taken.has 'a' || taken.has 'A' || name.toList.head? ≠ some '.'
        let shown := if taken.has 'a' then "." :: ".." :: shown else shown
        shown.map fun name =>
          let entry := (machine.tree.get? (gather name :: location)).getD (.directory 0o755)
          label name entry
      let operands := if taken.operands.isEmpty then ["."] else order taken.operands
      let mut status := 0
      let mut files : List String := []
      let mut directories : List String := []
      for path in operands do
        match entryOf path with
        | .error fault =>
          report ("cannot access " ++ quote path ++ ": " ++ fault.text)
          status := 2
        | .ok (.directory mode) =>
          if taken.has 'd' then files := files ++ [label path (.directory mode)]
          else directories := directories ++ [path]
        | .ok entry => files := files ++ [label path entry]
      Task.print (asLines files)
      let titled := 1 < operands.length || taken.has 'R'
      let rec go : (fuel : Nat) → (isFirst : Bool) → List String → Task Unit
        | 0, _, _ => return ()
        | _ + 1, _, [] => return ()
        | fuel + 1, isFirst, path :: rest => do
          match machine.tree.resolve (gather path) with
          | .error _ => go fuel isFirst rest
          | .ok location =>
            if titled then Task.print ((if isFirst then "" else "\n") ++ path ++ ":\n")
            let lines := listing location
            if taken.has 'l' then Task.print "total 0\n"
            Task.print (if taken.has 'm' then ", ".intercalate lines ++ "\n" else asLines lines)
            let below :=
              if taken.has 'R' then
                (order ((machine.tree.names location).map spread)).filter fun name =>
                  (machine.tree.get? (gather name :: location)).any Entry.isDirectory
              else []
            go fuel false (below.map (fun name => path ++ "/" ++ name) ++ rest)
      go (machine.tree.entries.length + operands.length + 1) files.isEmpty directories
      return status

/-- What a letter of a format shows of an entry. -/
def statField (path : String) (entry : Entry) : Char → String
  | 'n' => path
  | 'N' => quote path
  | 's' => toString (entrySize entry)
  | 'a' => digitsOf 8 entry.mode
  | 'A' => modeText entry
  | 'F' =>
    match entry with
    | .file content _ => if content.size = 0 then "regular empty file" else "regular file"
    | .directory _ => "directory"
    | .link _ => "symbolic link"
    | .sink => "character special file"
  | 'U' => "root"
  | 'G' => "root"
  | 'u' => "0"
  | 'g' => "0"
  | 'h' => "1"
  | '%' => "%"
  | _ => "?"

/-- Writes facts about files. -/
def stat : Utility :=
  withOptions
    { letters := "c:fLt1:", names := [("format", 'c'), ("dereference", 'L'), ("printf", '1')] } 1
    fun taken => do
      if taken.operands.isEmpty then return ← refuseUsage "missing operand" 1
      forEach taken.operands fun path => do
        let machine ← get
        let entry : Except SystemFault Entry :=
          match slotOf machine path with
          | .ok (some slot) =>
            match machine.tree.get? slot.location with
            | some (.link target) =>
              if taken.has 'L' then machine.tree.entry (gather path) else .ok (.link target)
            | some entry => .ok entry
            | none => .error .noEntry
          | .ok none => machine.tree.entry (gather path)
          | .error fault => .error fault
        match entry with
        | .error fault =>
          report ("cannot statx " ++ quote path ++ ": " ++ fault.text)
          return 1
        | .ok entry =>
          let rec shown : List Char → String
            | '%' :: c :: rest => statField path entry c ++ shown rest
            | c :: rest => String.singleton c ++ shown rest
            | [] => ""
          match taken.value? 'c', taken.value? '1' with
          | some format, _ => Task.print (shown format.toList ++ "\n")
          | none, some format => Task.print (shown format.toList)
          | none, none => Task.print ("  File: " ++ path ++ "\n")
          return 0

end ManifestPin.Shell.Utility
