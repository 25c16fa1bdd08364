import PackageRegistry.Markdown.Char
import PackageRegistry.Text.Blank
import PackageRegistry.Text.CaseMap
/-!
# HTML in Markdown

The raw HTML Markdown knows: tags, comments, processing instructions, declarations, CDATA
sections, and the seven ways an HTML block starts, with the line ending each of the first five.
-/

namespace PackageRegistry.Markdown

open PackageRegistry.Text

/-! ## Tags -/

/-- Whether a character may continue a tag name. -/
def isTagNameChar (c : Char) : Bool := isAsciiAlnum c || c == '-'

/-- Whether a character may start an attribute name. -/
def isAttributeStart (c : Char) : Bool := isAsciiLetter c || c == '_' || c == ':'

/-- Whether a character may continue an attribute name. -/
def isAttributeChar (c : Char) : Bool :=
  isAsciiAlnum c || c == '_' || c == '.' || c == ':' || c == '-'

/-- Whitespace inside a tag: any whitespace character. -/
def isTagSpace (c : Char) : Bool := isBlank c

/-- An attribute value after its `=` and the whitespace around it: what follows it. -/
def attributeValue? (cs : List Char) : Option (List Char) :=
  match cs with
  | '"' :: rest =>
    match rest.dropWhile (· != '"') with
    | _ :: after => some after
    | [] => none
  | '\'' :: rest =>
    match rest.dropWhile (· != '\'') with
    | _ :: after => some after
    | [] => none
  | _ =>
    let value := cs.takeWhile fun c =>
      c.toNat > 0x20 && !(c == '"' || c == '\'' || c == '=' || c == '<' || c == '>' || c == '`')
    if value.isEmpty then none else some (cs.drop value.length)

/-- An opening tag's attributes, then `>` or `/>`: what follows the tag. -/
def attributesThenEnd : Nat → List Char → Option (List Char)
  | 0, _ => none
  | fuel + 1, cs =>
    let spaced := cs.dropWhile isTagSpace
    match spaced with
    | '>' :: rest => some rest
    | '/' :: '>' :: rest => some rest
    | c :: _ =>
      if spaced.length < cs.length && isAttributeStart c then
        let name := spaced.takeWhile isAttributeChar
        let afterName := spaced.drop name.length
        match afterName.dropWhile isTagSpace with
        | '=' :: value => do
          let after ← attributeValue? (value.dropWhile isTagSpace)
          attributesThenEnd fuel after
        | _ => attributesThenEnd fuel afterName
      else none
    | [] => none

/-- An opening tag after its `<`: what follows it. -/
def openTag? (cs : List Char) : Option (List Char) :=
  match cs with
  | c :: rest =>
    if isAsciiLetter c then attributesThenEnd (cs.length + 1) (rest.dropWhile isTagNameChar)
    else none
  | [] => none

/-- A closing tag after its `<`: what follows it. -/
def closeTag? (cs : List Char) : Option (List Char) :=
  match cs with
  | '/' :: c :: rest =>
    if isAsciiLetter c then
      match (rest.dropWhile isTagNameChar).dropWhile isTagSpace with
      | '>' :: after => some after
      | _ => none
    else none
  | _ => none

/-- The text up to and including the first occurrence of `pat`: what follows it. -/
def afterPattern? (pat : List Char) : List Char → Option (List Char)
  | [] => none
  | c :: cs => if pat.isPrefixOf (c :: cs) then some ((c :: cs).drop pat.length)
    else afterPattern? pat cs

/-- A comment's body up to `-->`, and what follows: runs of a non-`-`, `-` and non-`-`, or `--`
and non-`>`; the end where no run starts. -/
def commentBody? : List Char → Option (List Char)
  | '-' :: '-' :: '>' :: rest => some rest
  | '-' :: '-' :: _ :: rest => commentBody? rest
  | '-' :: c :: rest => if c != '-' then commentBody? rest else none
  | c :: rest => if c != '-' then commentBody? rest else none
  | [] => none

/-- A piece of raw HTML after its `<` in running text: what follows it. -/
def inlineHtml? (cs : List Char) : Option (List Char) :=
  match cs with
  | '!' :: '-' :: '-' :: '>' :: rest => some rest
  | '!' :: '-' :: '-' :: '-' :: '>' :: rest => some rest
  | '!' :: '-' :: '-' :: rest => commentBody? rest
  | '?' :: rest => afterPattern? "?>".toList rest
  | '!' :: '[' :: 'C' :: 'D' :: 'A' :: 'T' :: 'A' :: '[' :: rest => afterPattern? "]]>".toList rest
  | '!' :: c :: rest =>
    if isAsciiLetter c then
      match rest.dropWhile (· != '>') with
      | _ :: after => some after
      | [] => none
    else none
  | '/' :: _ => closeTag? cs
  | _ => openTag? cs

/-! ## HTML blocks -/

/-- The tag names that start an HTML block of the sixth kind. -/
def blockTagNames : List String :=
  ["address", "article", "aside", "base", "basefont", "blockquote", "body", "caption", "center",
   "col", "colgroup", "dd", "details", "dialog", "dir", "div", "dl", "dt", "fieldset",
   "figcaption", "figure", "footer", "form", "frame", "frameset", "h1", "h2", "h3", "h4", "h5",
   "h6", "head", "header", "hr", "html", "iframe", "legend", "li", "link", "main", "menu",
   "menuitem", "nav", "noframes", "ol", "optgroup", "option", "p", "param", "search", "section",
   "summary", "table", "tbody", "td", "tfoot", "th", "thead", "title", "tr", "track", "ul"]

/-- The tag names whose elements hold raw text, starting an HTML block of the first kind. -/
def rawTagNames : List String := ["pre", "script", "style", "textarea"]

/-- The kind of HTML block a line starts; the seventh, a whole tag alone on its line, may not
interrupt a paragraph. -/
def htmlBlockKind? (line : List Char) (inParagraph : Bool) : Option Nat :=
  match line with
  | '<' :: rest =>
    let name := toLower (String.ofList (rest.takeWhile isAsciiAlnum))
    let afterName := rest.drop name.length
    let nameEnds := match afterName with
      | [] => true
      | c :: _ => isTagSpace c || c == '>'
    if rawTagNames.contains name && nameEnds then some 1
    else if "!--".toList.isPrefixOf rest then some 2
    else if rest.head? == some '?' then some 3
    else if "![CDATA[".toList.isPrefixOf rest then some 5
    else if rest.head? == some '!' && (rest.drop 1).head?.any (fun c => 'A' ≤ c && c ≤ 'Z') then
      some 4
    else
      let closing := rest.head? == some '/'
      let body := if closing then rest.drop 1 else rest
      let tag := toLower (String.ofList (body.takeWhile isAsciiAlnum))
      let afterTag := body.drop tag.length
      let tagEnds := match afterTag with
        | [] => true
        | '/' :: '>' :: _ => true
        | c :: _ => isTagSpace c || c == '>'
      if blockTagNames.contains tag && tagEnds then some 6
      else if inParagraph then none
      else
        match (if closing then closeTag? rest else openTag? rest) with
        | some after => if after.all isTagSpace then some 7 else none
        | none => none
  | _ => none

/-- Whether a line ends an HTML block of the given kind (the first five kinds end at a line
holding their end mark). -/
def endsHtmlBlock (kind : Nat) (line : List Char) : Bool :=
  let lower := (toLower (String.ofList line)).toList
  match kind with
  | 1 => ["</pre>", "</script>", "</style>", "</textarea>"].any fun m =>
      (afterPattern? m.toList lower).isSome
  | 2 => (afterPattern? "-->".toList line).isSome
  | 3 => (afterPattern? "?>".toList line).isSome
  | 4 => line.contains '>'
  | 5 => (afterPattern? "]]>".toList line).isSome
  | _ => false

end PackageRegistry.Markdown
