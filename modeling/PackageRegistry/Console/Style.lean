import PackageRegistry.Console.Color
/-!
# Style names

A markup tag names a style: attributes, a color, `on` a background, `link` a target. Tags match
by their style's normal form, so `[b]` is closed by `[/bold]`.
-/

namespace PackageRegistry.Console

open PackageRegistry.Text

/-- Why a style does not read. -/
inductive StyleFault where
  /-- A word is neither an attribute nor a color, or a word is missing. -/
  | unreadable
  /-- A component of a color is not an integer: the message of the fault. -/
  | notInteger (message : String)
  deriving Repr, BEq

/-- Checks that a word names a color. -/
def checkColor (word : String) : Except StyleFault Unit :=
  match readColor word with
  | .ok _ => .ok ()
  | .error .unreadable => .error .unreadable
  | .error (.notInteger m) => .error (.notInteger m)

/-- The attributes of a style in the order of the normal form, each with the words naming it. -/
def styleAttributeWords : List (String × List String) :=
  [("bold", ["bold", "b"]), ("dim", ["dim", "d"]), ("italic", ["italic", "i"]),
   ("underline", ["underline", "u"]), ("blink", ["blink"]), ("blink2", ["blink2"]),
   ("reverse", ["reverse", "r"]), ("conceal", ["conceal", "c"]), ("strike", ["strike", "s"]),
   ("underline2", ["underline2", "uu"]), ("frame", ["frame"]), ("encircle", ["encircle"]),
   ("overline", ["overline", "o"])]

/-- The attribute a word names. -/
def attributeOf? (word : String) : Option String :=
  (styleAttributeWords.find? fun (_, ws) => ws.contains word).map (·.1)

/-- What a style sets: attributes turned on or off, a color, a background and a link. -/
structure StyleSpec where
  attributes : List (String × Bool) := []
  color : Option String := none
  background : Option String := none
  link : Option String := none
  deriving Repr, BEq, Inhabited

def StyleSpec.setAttribute (s : StyleSpec) (name : String) (on : Bool) : StyleSpec :=
  { s with attributes := (name, on) :: s.attributes.filter (·.1 != name) }

/-- The normal form of a style. -/
def StyleSpec.render (s : StyleSpec) : String :=
  let attributes := styleAttributeWords.filterMap fun (name, _) =>
    (s.attributes.lookup name).map fun on => if on then name else "not " ++ name
  let colorName := fun (c : String) => trim (toLower c)
  let parts := attributes ++ (s.color.map colorName).toList ++
    (match s.background with
     | some b => ["on", colorName b]
     | none => []) ++
    (match s.link with
     | some l => ["link", l]
     | none => [])
  if parts.isEmpty then "none" else " ".intercalate parts

def readStyleWords (s : StyleSpec) : List String → Except StyleFault StyleSpec
  | [] => .ok s
  | w :: rest =>
    let word := toLower w
    if word == "on" then
      match rest with
      | [] => .error .unreadable
      | c :: more => do
        checkColor c
        readStyleWords { s with background := some c } more
    else if word == "not" then
      match rest with
      | [] => .error .unreadable
      | a :: more =>
        match attributeOf? a with
        | some name => readStyleWords (s.setAttribute name false) more
        | none => .error .unreadable
    else if word == "link" then
      match rest with
      | [] => .error .unreadable
      | l :: more => readStyleWords { s with link := some l } more
    else
      match attributeOf? word with
      | some name => readStyleWords (s.setAttribute name true) rest
      | none => do
        checkColor word
        readStyleWords { s with color := some word } rest

/-- A style name's normal form, or its trimmed lowercase text when unreadable; fails on a
non-integer color component. -/
def normalizeStyle (name : String) : Except String String :=
  if trim name == "none" || name.isEmpty then .ok "none"
  else
    match readStyleWords {} (words name) with
    | .ok s => .ok s.render
    | .error .unreadable => .ok (toLower (trim name))
    | .error (.notInteger message) => .error message

/-- The style of a definition: the empty style for `none` or nothing, and for a definition that
does not read. -/
def StyleSpec.ofDefinition (definition : String) : StyleSpec :=
  if trim definition == "none" || definition.isEmpty then {}
  else match readStyleWords {} (words definition) with
    | .ok s => s
    | .error _ => {}

/-! ## Layering and painting -/

/-- The style `top` laid over `base`: what `top` sets wins. -/
def StyleSpec.over (base top : StyleSpec) : StyleSpec where
  attributes := top.attributes ++ base.attributes.filter fun (n, _) => !top.attributes.any (·.1 == n)
  color := match top.color with
    | some c => some c
    | none => base.color
  background := match top.background with
    | some c => some c
    | none => base.background
  link := match top.link with
    | some l => some l
    | none => base.link

/-- The terminal code of each attribute, in the order they are written. -/
def attributeCodes : List (String × String) :=
  [("bold", "1"), ("dim", "2"), ("italic", "3"), ("underline", "4"), ("blink", "5"),
   ("blink2", "6"), ("reverse", "7"), ("conceal", "8"), ("strike", "9"), ("underline2", "21"),
   ("frame", "51"), ("encircle", "52"), ("overline", "53")]

/-- A style's terminal codes: attributes on, then color and background, joined by `;`. -/
def StyleSpec.codes (s : StyleSpec) : String :=
  let on := attributeCodes.filterMap fun (name, code) =>
    if s.attributes.lookup name == some true then some code else none
  let colorCode := fun (c : Option String) (foreground : Bool) =>
    match c with
    | some word => match readColor word with
      | .ok color => [color.code foreground]
      | .error _ => []
    | none => []
  ";".intercalate (on ++ colorCode s.color true ++ colorCode s.background false)

/-- Text between a style's escape sequence and a reset, unless empty or unstyled. -/
def StyleSpec.paint (s : StyleSpec) (text : String) : String :=
  let codes := s.codes
  if codes.isEmpty || text.isEmpty then text else "\x1b[" ++ codes ++ "m" ++ text ++ "\x1b[0m"

end PackageRegistry.Console
