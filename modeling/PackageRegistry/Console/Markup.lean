import PackageRegistry.Console.Emoji
import PackageRegistry.Console.Theme
import PackageRegistry.Console.Styled
import PackageRegistry.Console.Literal.Parse
import PackageRegistry.Text.Word
/-!
# Console markup

Printed messages are markup where `[style]text[/style]` marks a span, rendered to styled text.
Backslashes before a tag stand for half as many, an odd run making it literal; `[/]` closes the
last open tag, and closing nothing is an error. Emoji codes are replaced.
-/

namespace PackageRegistry.Console

open PackageRegistry.Text

/-! ## Tags -/

/-- A markup tag: its name and, after `=`, its parameters. -/
structure Tag where
  name : String
  parameters : Option String
  deriving Repr, BEq, DecidableEq

def Tag.markup (t : Tag) : String :=
  match t.parameters with
  | some p => "[" ++ t.name ++ "=" ++ p ++ "]"
  | none => "[" ++ t.name ++ "]"

/-- The tag of the text between the brackets: split at the first `=`. -/
def Tag.ofBody (body : List Char) : Tag :=
  match body.splitOn '=' with
  | name :: rest@(_ :: _) => ⟨String.ofList name, some (String.ofList ((rest.intersperse ['=']).flatten))⟩
  | _ => ⟨String.ofList body, none⟩

/-- Whether a character may open a tag's body. -/
def isTagStart (c : Char) : Bool :=
  ('a' ≤ c && c ≤ 'z') || c = '#' || c = '/' || c = '@'

/-- The body of a tag up to its `]`, and what follows; none when a `[` or the end comes
first. -/
def tagBody? : List Char → Option (List Char × List Char)
  | [] => none
  | ']' :: rest => some ([], rest)
  | '[' :: _ => none
  | c :: rest => (tagBody? rest).map fun (body, r) => (c :: body, r)

/-- A tag here, maybe after backslashes: their number, the body, and what follows. -/
def tagAt? (cs : List Char) : Option (Nat × List Char × List Char) :=
  let k := (cs.takeWhile (· = '\\')).length
  match cs.drop k with
  | '[' :: c :: rest =>
    if isTagStart c then (tagBody? (c :: rest)).map fun (body, r) => (k, body, r) else none
  | _ => none

/-! ## Reading markup -/

/-- A piece of markup: plain text, or a tag at its position. -/
inductive Segment where
  | plain (text : List Char)
  | tag (position : Nat) (tag : Tag)
  deriving Repr, BEq

/-- The plain text gathered so far (kept nearest first), as a segment. -/
def flushPlain (pending : List Char) : List Segment :=
  if pending.isEmpty then [] else [.plain pending.reverse]

/-- A tag's segments at `pos` after `k` backslashes: the literal backslashes, then the tag or,
escaped, its text. -/
def matchedTag (pos k : Nat) (body : List Char) : List Segment :=
  let half := k / 2
  let literal := if half > 0 then [Segment.plain (List.replicate half '\\')] else []
  if k % 2 = 1 then literal ++ [.plain ('[' :: body ++ [']'])]
  else literal ++ [.tag (pos + 2 * half) (Tag.ofBody body)]

/-- The segments of markup from position `pos`, with plain text pending before it. -/
def segmentsFrom (pos : Nat) (pending : List Char) (cs : List Char) : List Segment :=
  match cs with
  | [] => flushPlain pending
  | c :: more =>
    match tagAt? (c :: more) with
    | some (k, body, rest) =>
      if rest.length < more.length + 1 then
        flushPlain pending ++ matchedTag pos k body ++
          segmentsFrom (pos + (more.length + 1 - rest.length)) [] rest
      else segmentsFrom (pos + 1) (c :: pending) more
    | none => segmentsFrom (pos + 1) (c :: pending) more
termination_by cs.length

def segments (markup : String) : List Segment :=
  segmentsFrom 0 [] markup.toList

/-- Plain text with each `\[` read as `[`. -/
def unescapeBrackets : List Char → List Char
  | '\\' :: '[' :: rest => '[' :: unescapeBrackets rest
  | c :: rest => c :: unescapeBrackets rest
  | [] => []

/-- Removes the latest tag named `name` from the stack, with where it opened. -/
def closeNamed (name : String) : List (Nat × Tag) → Option ((Nat × Tag) × List (Nat × Tag))
  | [] => none
  | top :: rest =>
    if top.2.name == name then some (top, rest)
    else (closeNamed name rest).map fun (t, below) => (t, top :: below)

/-- Why markup cannot be rendered. -/
inductive MarkupError where
  /-- `[/name]` with no open tag of that name. -/
  | unmatchedClose (tag : String) (position : Nat)
  /-- `[/]` with no open tag. -/
  | nothingToClose (position : Nat)
  /-- A style whose color has a component that is not an integer. -/
  | notInteger (message : String)
  /-- Handler parameters, as read, that do not parse; with the parameters as written. -/
  | badSyntax (read written reason : String)
  /-- Handler parameters that parse but are not a literal. -/
  | badValue (written reason : String)
  deriving Repr, BEq, DecidableEq

/-- The kind of fault a markup error is reported as. -/
def MarkupError.kind : MarkupError → String
  | .notInteger _ => "ValueError"
  | _ => "MarkupError"

def MarkupError.message : MarkupError → String
  | .unmatchedClose tag position =>
    "closing tag '" ++ tag ++ "' at position " ++ toString position ++
      " doesn't match any open tag"
  | .nothingToClose position =>
    "closing tag '[/]' at position " ++ toString position ++ " has nothing to close"
  | .notInteger message => message
  | .badSyntax read written reason =>
    "error parsing " ++ quoted read ++ " in " ++ quoted written ++ "; " ++ reason
  | .badValue written reason => "error parsing " ++ quoted written ++ "; " ++ reason

/-- The normal form of a tag's style name. -/
def tagStyle (name : String) : Except MarkupError String :=
  (normalizeStyle name).mapError MarkupError.notInteger

/-- A handler's parameters read as a literal: a leading dotted name dropped when `()`, nothing
or a one-line argument list follows. -/
def handlerArguments (parameters : String) : String :=
  let rest := parameters.toList.dropWhile fun c => isWordChar c || c == '.'
  match rest with
  | [] => "()"
  | '(' :: more =>
    if more.getLast? == some ')' && !more.contains '\n' then String.ofList rest else parameters
  | _ => parameters

/-- Checks a closed tag's parameters (a handler's must be a literal): warnings and verdict. -/
def checkHandler (t : Tag) : List String × Except MarkupError Unit :=
  match t.parameters with
  | some written =>
    if t.name.startsWith "@" && !written.isEmpty then
      let read := handlerArguments (trim written)
      (literalWarnings read,
        match evalLiteral read with
        | .ok _ => .ok ()
        | .error (.unparsed reason) => .error (.badSyntax read written reason)
        | .error (.value fault) => .error (.badValue written fault.message))
    else ([], .ok ())
  | none => ([], .ok ())

/-- A piece of plain text as rendered: `\[` read as `[`, then emoji codes replaced when
`emoji` is on. -/
def plainPiece (emoji : Bool) (text : List Char) : List Char :=
  if emoji then replaceEmoji (unescapeBrackets text) else unescapeBrackets text

/-- The style a tag gives its span: its name's and parameters'; none for a handler tag. -/
def Tag.style (t : Tag) : StyleSpec :=
  if t.name.startsWith "@" then {}
  else styleNamed (match t.parameters with
    | some p => t.name ++ " " ++ p
    | none => t.name)

/-- Renders segments onto the text so far (reversed, counted), given open tags (latest first,
with starts), closed stretches and warnings; gives the warnings and the error or new state. -/
def renderSegments (emoji : Bool) (stack : List (Nat × Tag)) (reversed : List Char) (len : Nat)
    (spans : List Span) (warned : List String) :
    List Segment → List String × Except MarkupError (List Char × Nat × List Span × List (Nat × Tag))
  | [] => (warned, .ok (reversed, len, spans, stack))
  | .plain text :: rest =>
    let piece := (plainPiece emoji text).filter (!isStrippedControl ·)
    renderSegments emoji stack (piece.reverse ++ reversed) (len + piece.length) spans warned rest
  | .tag pos t :: rest =>
    if t.name.startsWith "/" then
      let styleName := trim (t.name.drop 1).toString
      let closed := if styleName.isEmpty then .ok (stack.head?.map fun top => (top, stack.tail))
        else (fun name => closeNamed name stack) <$> tagStyle styleName
      match closed with
      | .error e => (warned, .error e)
      | .ok none =>
        (warned, .error (if styleName.isEmpty then .nothingToClose pos else .unmatchedClose t.markup pos))
      | .ok (some ((start, top), below)) =>
        let (raised, checked) := checkHandler top
        match checked with
        | .error e => (warned ++ raised, .error e)
        | .ok () =>
          renderSegments emoji below reversed len (spans ++ [⟨start, len, top.style⟩])
            (warned ++ raised) rest
    else
      match tagStyle t.name with
      | .error e => (warned, .error e)
      | .ok name => renderSegments emoji ((len, { t with name := name }) :: stack) reversed len spans warned rest

/-! ## Escaping -/

/-- Escapes text to render as itself: before each tag, backslashes doubled plus one. -/
def escapeFrom (cs : List Char) : List Char :=
  match cs with
  | [] => []
  | c :: more =>
    match tagAt? (c :: more) with
    | some (k, body, rest) =>
      if rest.length < more.length + 1 then
        List.replicate (2 * k + 1) '\\' ++ '[' :: body ++ ']' :: escapeFrom rest
      else c :: escapeFrom more
    | none => c :: escapeFrom more
termination_by cs.length

/-- Markup that renders as the given text; a single trailing backslash is doubled. -/
def escapeMarkup (text : String) : String :=
  let escaped := escapeFrom text.toList
  let trailing := (escaped.reverse.takeWhile (· = '\\')).length
  String.ofList (if trailing = 1 then escaped ++ ['\\'] else escaped)

/-! ## Rendering -/

/-- Markup's styled text, emoji replaced unless `emoji` is off, with literal warnings (also on
failure). Open tags span the rest. -/
def markupTextWarned (markup : String) (emoji : Bool := true) :
    List String × Except MarkupError Styled :=
  if markup.toList.contains '[' then
    let (warned, rendered) := renderSegments emoji [] [] 0 [] [] (segments markup)
    (warned, rendered.map fun (reversed, len, spans, unclosed) =>
      let all := spans ++ unclosed.map fun (start, t) => (⟨start, len, t.style⟩ : Span)
      { chars := reversed.reverse, spans := all.reverse.mergeSort (·.start ≤ ·.start) })
  else
    let cs := if emoji then replaceEmoji markup.toList else markup.toList
    ([], .ok { chars := cs.filter (!isStrippedControl ·) })

/-- The styled text of markup, as `markupTextWarned` gives it, without the warnings. -/
def markupText (markup : String) (emoji : Bool := true) : Except MarkupError Styled :=
  (markupTextWarned markup emoji).2

/-- The plain text of markup as printed, tabs expanded, with the warnings raised on the way. -/
def renderMarkup (markup : String) (emoji : Bool := true) : List String × Except MarkupError String :=
  let (warned, rendered) := markupTextWarned markup emoji
  (warned, rendered.map fun t => t.expandTabs.plain)

end PackageRegistry.Console
