import PackageRegistry.Cli.Spec
import PackageRegistry.Console.Wrap
import PackageRegistry.Text.Blank
/-!
# Help pages

A help page is 80 columns: the usage line, the help text indented by two and filled (kept after
`\b`), `Options:` with names and help, and for a group `Commands:` with first sentences.
-/

namespace PackageRegistry.Cli

open PackageRegistry.Console PackageRegistry.Text

/-! ## The page writer -/

/-- A page being written: its width, the current indentation and the text so far. -/
structure PageWriter where
  width : Nat := 80
  indent : Nat := 0
  text : String := ""
  deriving Repr

def spaces (n : Nat) : String := String.ofList (List.replicate n ' ')

/-- Appends text. -/
def PageWriter.write (w : PageWriter) (s : String) : PageWriter := { w with text := w.text ++ s }

/-- Starts a paragraph: an empty line unless nothing is written yet. -/
def PageWriter.paragraph (w : PageWriter) : PageWriter :=
  if w.text.isEmpty then w else w.write "\n"

/-- Writes the usage line of a command path with its pieces. -/
def PageWriter.usage (w : PageWriter) (path pieces : String) : PageWriter :=
  let pfx := "Usage: " ++ path ++ " "
  let room := w.width - w.indent
  if room ≥ pfx.length + 20 then
    (w.write (wrapText room pfx (spaces pfx.length) false pieces)).write "\n"
  else
    let ind := spaces (max w.indent 7 + 4)
    ((w.write pfx).write "\n" |>.write (wrapText room ind ind false pieces)).write "\n"

/-- Writes text indented at the current indentation, its paragraphs filled. -/
def PageWriter.paragraphs (w : PageWriter) (body : String) : PageWriter :=
  let ind := spaces w.indent
  (w.write (wrapText w.width ind ind true body)).write "\n"

/-- Writes a section: a heading and its body indented by two more. -/
def PageWriter.section (w : PageWriter) (heading : String) (body : PageWriter → PageWriter) :
    PageWriter :=
  let w := (w.paragraph).write (spaces w.indent ++ heading ++ ":\n")
  let w := body { w with indent := w.indent + 2 }
  { w with indent := w.indent - 2 }

/-- Writes one row of a two-column list whose first column is `firstCol` wide (with the
gap). -/
def PageWriter.row (firstCol : Nat) (w : PageWriter) (entry : String × String) : PageWriter :=
  let (first, second) := entry
  let w := w.write (spaces w.indent ++ first)
  if second.isEmpty then w.write "\n"
  else
    let w := if first.length ≤ firstCol - 2 then w.write (spaces (firstCol - first.length))
      else (w.write "\n").write (spaces (firstCol + w.indent))
    let textWidth := max (w.width - firstCol - 2) 10
    match (wrapText textWidth "" "" true second).splitOn "\n" with
    | [] => w.write "\n"
    | line :: more =>
      more.foldl (fun w l => w.write (spaces (firstCol + w.indent) ++ l ++ "\n"))
        (w.write (line ++ "\n"))

/-- Writes a two-column list. -/
def PageWriter.rows (w : PageWriter) (entries : List (String × String)) : PageWriter :=
  let widest := entries.foldl (fun m e => max m e.1.length) 0
  entries.foldl (PageWriter.row (min widest 30 + 2)) w

/-! ## Parts of a page -/

/-- The length of an option name's prefix: two for `--name`, one for `-n`. -/
def prefixLength (name : String) : Nat :=
  match name.toList with
  | a :: b :: _ => if a.isAlphanum then 0 else if a = b then 2 else 1
  | [a] => if a.isAlphanum then 0 else 1
  | [] => 0

/-- Option names joined by commas, shorter prefixes first. -/
def joinNames (names : List String) : String :=
  ", ".intercalate (names.mergeSort fun a b => prefixLength a ≤ prefixLength b)

def OptionSpec.helpRow (o : OptionSpec) : String × String :=
  let first := joinNames o.names ++
    (match o.kind with
     | .value kind => " " ++ kind.metavar
     | _ => "")
  let names := if o.offNames.isEmpty then first else first ++ " / " ++ joinNames o.offNames
  (names, if o.required then o.help ++ "  [required]" else o.help)

def CommandSpec.usagePieces (c : CommandSpec) : String :=
  " ".intercalate ("[OPTIONS]" :: c.arguments.map (·.metavar))

def groupUsagePieces : String := "[OPTIONS] COMMAND [ARGS]..."

/-- Where a too long short help stops: the words kept, `total` counting them with `...`. -/
def shortenCut (maxLength : Nat) (words : List String) : Nat → Nat → Nat
  | 0, _ => 0
  | i + 1, total =>
    let total := total - ((words.getD (i + 1) "").length + 1)
    if total ≤ maxLength then i + 1 else shortenCut maxLength words i total

/-- Scans a short help's words: the whole text when it fits or a sentence ends, else where it
stops fitting. -/
def shortScan (maxLength last : Nat) (all : List String) :
    Nat → Nat → List String → String ⊕ (Nat × Nat)
  | _, _, [] => .inl (" ".intercalate all)
  | i, total, word :: rest =>
    let total := total + word.length + (if i > 0 then 1 else 0)
    if total > maxLength then .inr (i, total)
    else if word.endsWith "." then .inl (" ".intercalate (all.take (i + 1)))
    else if total == maxLength && i != last then .inr (i, total)
    else shortScan maxLength last all (i + 1) total rest

/-- The short help of a help text: its first sentence, or its first paragraph shortened to
`maxLength` with `...`. -/
def shortHelp (help : String) (maxLength : Nat) : String :=
  let firstParagraph := match help.splitOn "\n\n" with
    | p :: _ => p
    | [] => help
  let ws := words firstParagraph
  let ws := match ws with
    | w :: rest => if w == keepMarker then rest else ws
    | [] => []
  match shortScan maxLength (ws.length - 1) ws 0 0 ws with
  | .inl text => trim text
  | .inr (i, total) =>
    let kept := shortenCut maxLength ws i (total + 3)
    trim (" ".intercalate (ws.take kept) ++ "...")

/-- A command's help page at a path, with usage pieces and, for a group, its commands. -/
def helpPage (path pieces : String) (c : CommandSpec) (commands : List CommandSpec) : String :=
  let commands := commands.mergeSort fun a b => a.name ≤ b.name
  let w : PageWriter := {}
  let w := w.usage path pieces
  let w := if c.help.isEmpty then w
    else
      let w := w.paragraph
      let w := { w with indent := w.indent + 2 }.paragraphs c.help
      { w with indent := w.indent - 2 }
  let w := w.section "Options" (·.rows (c.allOptions.map (·.helpRow)))
  let w := if commands.isEmpty then w
    else
      let widest := commands.foldl (fun m x => max m x.name.length) 0
      let limit := w.width - 6 - widest
      w.section "Commands" (·.rows (commands.map fun x => (x.name, shortHelp x.help limit)))
  String.ofList (w.text.toList.reverse.dropWhile (· = '\n')).reverse

def CommandSpec.helpPage (c : CommandSpec) (path : String) : String :=
  PackageRegistry.Cli.helpPage path c.usagePieces c []

def GroupSpec.helpPage (g : GroupSpec) (path : String) : String :=
  PackageRegistry.Cli.helpPage path groupUsagePieces g.spec g.commands

def Program.helpPage (p : Program) (path : String) : String :=
  PackageRegistry.Cli.helpPage path groupUsagePieces p.spec (p.entries.map (·.spec))

def Entry.helpPage (e : Entry) (path : String) : String :=
  match e with
  | .command c => c.helpPage path
  | .group g => g.helpPage path

end PackageRegistry.Cli
