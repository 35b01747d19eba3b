import MarkdownPages.Text.Basic

/-!
# Raw HTML

What Markdown passes through untouched: open and closing tags, comments, processing instructions,
declarations and CDATA sections.  Each reader starts behind the opening `<` and answers what follows
the construct.
-/

namespace MarkdownPages.Html

open Text

def dropThrough? (stop : Text) : Text → Option Text
  | [] => stop.isPrefixOf? []
  | c :: rest => stop.isPrefixOf? (c :: rest) <|> dropThrough? stop rest

def isTagNameChar (c : Char) : Bool := c.isAlphanum || c == '-'

def isAttributeStart (c : Char) : Bool := c.isAlpha || c == '_' || c == ':'

def isAttributeChar (c : Char) : Bool := c.isAlphanum || c == ':' || c == '.' || c == '_' || c == '-'

def isBareValueChar (c : Char) : Bool :=
  0x20 < c.toNat && c != '"' && c != '\'' && c != '=' && c != '<' && c != '>' && c != '`'

/-- What may follow a run of `p` characters, the longest run first; at least `least` are dropped. -/
def afterRuns (p : Char → Bool) (least : Nat) (s : Text) : List Text :=
  let run := (s.takeWhile p).length
  (List.range (run + 1 - least)).map fun n => s.drop (run - n)

def afterValue (s : Text) : List Text :=
  match s with
  | '"' :: rest => (dropThrough? ['"'] rest).toList
  | '\'' :: rest => (dropThrough? ['\''] rest).toList
  | s => afterRuns isBareValueChar 1 s

def afterAssignment (s : Text) : List Text :=
  match trimStart s with
  | '=' :: rest => (afterRuns isBlank 0 rest).flatMap afterValue
  | _ => []

def afterAttribute (s : Text) : List Text :=
  match s.takeWhile isBlank, s.dropWhile isBlank with
  | _ :: _, c :: rest =>
    if isAttributeStart c then
      let afterName := rest.dropWhile isAttributeChar
      afterAssignment afterName ++ [afterName]
    else []
  | _, _ => []

def dropTagEnd? (s : Text) : Option Text :=
  match trimStart s with
  | '/' :: '>' :: rest => some rest
  | '>' :: rest => some rest
  | _ => none

/-- What follows the attributes and the end of an open tag; `fuel` bounds the number of
attributes. -/
def dropAttributes? : (fuel : Nat) → Text → Option Text
  | 0, s => dropTagEnd? s
  | fuel + 1, s => (afterAttribute s).findSome? (dropAttributes? fuel) <|> dropTagEnd? s

def dropOpenTag? : Text → Option Text
  | c :: rest =>
    if c.isAlpha then
      let afterName := rest.dropWhile isTagNameChar
      dropAttributes? afterName.length afterName
    else none
  | [] => none

def dropCloseTag? : Text → Option Text
  | '/' :: c :: rest =>
    if c.isAlpha then
      match trimStart (rest.dropWhile isTagNameChar) with
      | '>' :: rest => some rest
      | _ => none
    else none
  | _ => none

/--
What follows the body of a comment.  The end `-->` counts only where it is not read as two hyphens
and another character, or as a hyphen and another character.
-/
def dropCommentBody? : Text → Option Text
  | '-' :: '-' :: '>' :: rest => some rest
  | '-' :: '-' :: _ :: rest => dropCommentBody? rest
  | '-' :: c :: rest => if c = '-' then none else dropCommentBody? rest
  | '-' :: [] => none
  | _ :: rest => dropCommentBody? rest
  | [] => none

def dropComment? (s : Text) : Option Text := do
  let body ← "!--".toList.isPrefixOf? s
  match body with
  | '>' :: rest => some rest
  | '-' :: '>' :: rest => some rest
  | body => dropCommentBody? body

def dropInstruction? (s : Text) : Option Text := do
  dropThrough? "?>".toList (← ['?'].isPrefixOf? s)

def dropDeclaration? : Text → Option Text
  | '!' :: c :: rest => if c.isAlpha then dropThrough? ['>'] rest else none
  | _ => none

def dropCdata? (s : Text) : Option Text := do
  dropThrough? "]]>".toList (← "![CDATA[".toList.isPrefixOf? s)

def dropRaw? (s : Text) : Option Text :=
  dropOpenTag? s <|> dropCloseTag? s <|> dropComment? s <|> dropInstruction? s <|>
    dropDeclaration? s <|> dropCdata? s

def dropTag? (s : Text) : Option Text := dropOpenTag? s <|> dropCloseTag? s

/-! ## Blocks of raw HTML -/

/-- The ways in which a block of raw HTML starts, which decide how it ends. -/
inductive BlockKind
  /-- A `script`, `pre`, `style` or `textarea` element. -/
  | verbatim
  | comment
  | instruction
  | declaration
  | cdata
  | structural
  /-- Any other complete tag, alone on its line. -/
  | lone
deriving DecidableEq, Repr

namespace BlockKind

def verbatimNames : List String := ["script", "pre", "style", "textarea"]

def structuralNames : List String :=
  ["address", "article", "aside", "base", "basefont", "blockquote", "body", "caption", "center",
    "col", "colgroup", "dd", "details", "dialog", "dir", "div", "dl", "dt", "fieldset",
    "figcaption", "figure", "footer", "form", "frame", "frameset", "h1", "h2", "h3", "h4", "h5",
    "h6", "head", "header", "hr", "html", "iframe", "legend", "li", "link", "main", "menu",
    "menuitem", "nav", "noframes", "ol", "optgroup", "option", "p", "param", "search", "section",
    "summary", "table", "tbody", "td", "tfoot", "th", "thead", "title", "tr", "track", "ul"]

def readName (s : Text) : Text × Text :=
  let name := (s.map lowerVariant).takeWhile Char.isAlphanum
  (name, s.drop name.length)

/-- Whether a tag's name ends before this text; `/>` ends only some names. -/
def endsName (slash : Bool) : Text → Bool
  | [] => true
  | '/' :: '>' :: _ => slash
  | c :: _ => c == '>' || isBlank c

def startsWithName (names : List String) (slash : Bool) (s : Text) : Bool :=
  let (name, rest) := readName s
  names.any (·.toList == name) && endsName slash rest

/-- The kind of the block that starts with a line, which is given without its indentation. -/
def ofLine? : Text → Option BlockKind
  | '<' :: s =>
    if startsWithName verbatimNames false s then some verbatim
    else if "!--".toList.isPrefixOf s then some comment
    else if ['?'].isPrefixOf s then some instruction
    else if (s.head? == some '!') && ((s.drop 1).head?.any Char.isUpper) then some declaration
    else if "![CDATA[".toList.isPrefixOf s then some cdata
    else if startsWithName structuralNames true ((['/'].isPrefixOf? s).getD s) then some structural
    else if (dropTag? s).any (·.all isBlank) then some lone
    else none
  | _ => none

def interrupts (kind : BlockKind) : Bool := kind != lone

def hasVerbatimEnd : Text → Bool
  | [] => false
  | c :: rest =>
    (match ['<', '/'].isPrefixOf? (c :: rest) with
      | some s =>
        let (name, after) := readName s
        verbatimNames.any (·.toList == name) && after.head? == some '>'
      | none => false) || hasVerbatimEnd rest

def endsAt (kind : BlockKind) (line : Text) : Bool :=
  match kind with
  | verbatim => hasVerbatimEnd line
  | comment => (dropThrough? "-->".toList line).isSome
  | instruction => (dropThrough? "?>".toList line).isSome
  | declaration => (dropThrough? ['>'] line).isSome
  | cdata => (dropThrough? "]]>".toList line).isSome
  | structural | lone => line.isEmpty

end BlockKind

end MarkdownPages.Html
