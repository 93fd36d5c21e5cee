import Playpen.Script.Parser.Expr

/-!
# Parsing: markup elements

An element is read straight into the call that makes it: `React.createElement` with the tag, the
attributes as one object or `null`, and the children.  Blanks around line breaks between children
vanish; named and numbered character references are replaced.
-/

namespace Playpen.Script.Markup

open Parse
open Playpen.Text (Wide)

/-! ## Text -/

/-- Characters with a name that a reference may use. -/
def entities : List (String × Nat) := [
  ("quot", 34), ("amp", 38), ("apos", 39), ("lt", 60), ("gt", 62), ("nbsp", 160), ("iexcl", 161),
  ("cent", 162), ("pound", 163), ("curren", 164), ("yen", 165), ("brvbar", 166), ("sect", 167),
  ("uml", 168), ("copy", 169), ("ordf", 170), ("laquo", 171), ("not", 172), ("shy", 173), ("reg", 174),
  ("macr", 175), ("deg", 176), ("plusmn", 177), ("sup2", 178), ("sup3", 179), ("acute", 180),
  ("micro", 181), ("para", 182), ("middot", 183), ("cedil", 184), ("sup1", 185), ("ordm", 186),
  ("raquo", 187), ("frac14", 188), ("frac12", 189), ("frac34", 190), ("iquest", 191), ("Agrave", 192),
  ("Aacute", 193), ("Acirc", 194), ("Atilde", 195), ("Auml", 196), ("Aring", 197), ("AElig", 198),
  ("Ccedil", 199), ("Egrave", 200), ("Eacute", 201), ("Ecirc", 202), ("Euml", 203), ("Igrave", 204),
  ("Iacute", 205), ("Icirc", 206), ("Iuml", 207), ("ETH", 208), ("Ntilde", 209), ("Ograve", 210),
  ("Oacute", 211), ("Ocirc", 212), ("Otilde", 213), ("Ouml", 214), ("times", 215), ("Oslash", 216),
  ("Ugrave", 217), ("Uacute", 218), ("Ucirc", 219), ("Uuml", 220), ("Yacute", 221), ("THORN", 222),
  ("szlig", 223), ("agrave", 224), ("aacute", 225), ("acirc", 226), ("atilde", 227), ("auml", 228),
  ("aring", 229), ("aelig", 230), ("ccedil", 231), ("egrave", 232), ("eacute", 233), ("ecirc", 234),
  ("euml", 235), ("igrave", 236), ("iacute", 237), ("icirc", 238), ("iuml", 239), ("eth", 240),
  ("ntilde", 241), ("ograve", 242), ("oacute", 243), ("ocirc", 244), ("otilde", 245), ("ouml", 246),
  ("divide", 247), ("oslash", 248), ("ugrave", 249), ("uacute", 250), ("ucirc", 251), ("uuml", 252),
  ("yacute", 253), ("thorn", 254), ("yuml", 255), ("OElig", 338), ("oelig", 339), ("Scaron", 352),
  ("scaron", 353), ("Yuml", 376), ("fnof", 402), ("circ", 710), ("tilde", 732), ("Alpha", 913),
  ("Beta", 914), ("Gamma", 915), ("Delta", 916), ("Omega", 937), ("alpha", 945), ("beta", 946),
  ("gamma", 947), ("delta", 948), ("epsilon", 949), ("lambda", 955), ("mu", 956), ("pi", 960),
  ("sigma", 963), ("omega", 969), ("ensp", 8194), ("emsp", 8195), ("thinsp", 8201), ("zwnj", 8204),
  ("zwj", 8205), ("ndash", 8211), ("mdash", 8212), ("lsquo", 8216), ("rsquo", 8217), ("sbquo", 8218),
  ("ldquo", 8220), ("rdquo", 8221), ("bdquo", 8222), ("dagger", 8224), ("Dagger", 8225), ("bull", 8226),
  ("hellip", 8230), ("permil", 8240), ("prime", 8242), ("Prime", 8243), ("lsaquo", 8249),
  ("rsaquo", 8250), ("oline", 8254), ("frasl", 8260), ("euro", 8364), ("trade", 8482), ("larr", 8592),
  ("uarr", 8593), ("rarr", 8594), ("darr", 8595), ("harr", 8596), ("forall", 8704), ("part", 8706),
  ("exist", 8707), ("empty", 8709), ("nabla", 8711), ("isin", 8712), ("sum", 8721), ("minus", 8722),
  ("radic", 8730), ("infin", 8734), ("cap", 8745), ("cup", 8746), ("int", 8747), ("asymp", 8776),
  ("ne", 8800), ("equiv", 8801), ("le", 8804), ("ge", 8805), ("loz", 9674), ("spades", 9824),
  ("clubs", 9827), ("hearts", 9829), ("diams", 9830)]

/-- The character a reference names, given what stands between `&` and `;`. -/
def reference? (cs : List Char) : Option Char :=
  let valid (n : Nat) : Option Char := if n ≤ 0x10FFFF then some (Char.ofNat n) else none
  match cs with
  | '#' :: 'x' :: ds =>
    if !ds.isEmpty && ds.all Text.isHexDigit then valid (Lexer.digitsValue 16 ds) else none
  | '#' :: ds => if !ds.isEmpty && ds.all Text.isDigit then valid (Lexer.digitsValue 10 ds) else none
  | cs => ((entities.find? (·.1.toList = cs)).map (·.2)).map Char.ofNat

/-- Replaces character references. -/
def decodeReferences : Nat → List Char → List Char
  | fuel + 1, '&' :: rest =>
    let name := rest.takeWhile (· ≠ ';')
    let after := rest.drop (name.length + 1)
    if name.length < rest.length then
      match reference? name with
      | some c => c :: decodeReferences fuel after
      | none => '&' :: decodeReferences fuel rest
    else '&' :: decodeReferences fuel rest
  | fuel + 1, c :: rest => c :: decodeReferences fuel rest
  | _, cs => cs

/-- Lines of a text, at any line end. -/
def textLines (line : List Char) : List Char → List (List Char)
  | [] => [line.reverse]
  | '\r' :: '\n' :: rest => line.reverse :: textLines [] rest
  | c :: rest => if Lexer.isLineEnd c then line.reverse :: textLines [] rest else textLines (c :: line) rest

def isTextBlank (c : Char) : Bool := c = ' ' || c = '\t'

/-- The text between children: lines are trimmed where they were broken, empty ones vanish, and the
rest is joined by blanks. -/
def cleanText (cs : List Char) : List Char :=
  let lines := textLines [] cs
  let last := lines.length - 1
  let kept := lines.zipIdx.filterMap fun (line, i) =>
    let line := if i = 0 then line else line.dropWhile isTextBlank
    let line := if i = last then line else (line.reverse.dropWhile isTextBlank).reverse
    if line.isEmpty then none else some (decodeReferences line.length line)
  List.intercalate [' '] kept

/-! ## Names and attributes -/

/-- Reads the current token as a name that may hold hyphens. -/
def hyphenated : Parse String := do
  match (← token).kind with
  | .word _ =>
    let s ← get
    let stop := Lexer.skipWhile (fun c => Lexer.isNamePart c || c = '-') s.src s.token.start
    let name := Lexer.textOf s.src s.token.start stop
    set (setToken s stop)
    return name
  | _ => unexpected "markup element"

/-- An attribute name may hold a colon. -/
def attributeName : Parse String := do
  let n ← hyphenated
  if ← isOp ":" then
    advance
    return n ++ ":" ++ (← hyphenated)
  else return n

/-- The name of an element: an expression for a component, a text for anything else. -/
def elementName : Parse (String × Expr) := do
  let n ← hyphenated
  if ← isOp ":" then
    advance
    let full := n ++ ":" ++ (← hyphenated)
    return (full, .literal (.text (.plain full)))
  else if ← isOp "." then
    let first : Expr ← if n == "this" then pure .this else (do mention n; pure (.ident n))
    let parts ← repeatWhile (isOp ".") do
      advance
      hyphenated
    return (parts.foldl (fun acc p => acc ++ "." ++ p) n, parts.foldl (fun e p => .member e p 0) first)
  else
    let c := n.toList.headD 'a'
    if n == "this" then return (n, .this)
    else if n.contains '-' || (c.isLower && Text.isAsciiLetter c) then return (n, .literal (.text (.plain n)))
    else
      mention n
      return (n, .ident n)

/-- Whether a name can be a key without quotes. -/
def isPlainKey (n : String) : Bool := n.toList.all Lexer.isNamePart

/-- An attribute's text, whose quote the current token begins with: no escapes, only references. -/
def attributeText : Parse Expr := do
  let s ← get
  let quote := Lexer.charAt s.src s.token.start
  let stop := Lexer.skipWhile (· ≠ quote) s.src (s.token.start + 1)
  if stop ≥ s.src.size then
    set { s with badTokens := [.same "Unterminated string" s.token.start] }
    unexpected "attribute"
  else
    let cs := (s.src.extract (s.token.start + 1) stop).toList
    set { setToken s (stop + 1) with badTokens := s.badTokens }
    return .literal (.text (.plain (String.ofList (decodeReferences cs.length cs))))

/-- The value of an attribute. -/
def attributeValue (g : Grammar) : Parse Expr := do
  match (← token).kind with
  | .op "\x7b" =>
    advance
    if ← isOp "\x7d" then
      advance
      return .literal (.bool true)
    else
      let e ← inside g.assignment
      expect "\x7d" "attribute"
      return e
  | .op "<" => g.markup
  | _ =>
    let s ← get
    let c := Lexer.charAt s.src s.token.start
    if c = '"' || c = '\'' then attributeText else unexpected "attribute"

def oneAttribute (g : Grammar) : Parse Member := do
  if ← isOp "\x7b" then
    advance
    expect "..." "attribute"
    let e ← inside g.assignment
    expect "\x7d" "attribute"
    return .spread e
  else
    let n ← attributeName
    let key : Key := if isPlainKey n then .name n else .text (.plain n)
    if ← isOp "=" then
      -- the value is read as it stands: its quotes know no escapes
      modify fun s =>
        let gap := Lexer.skipGap s.mode s.src (s.src.size + 1) ⟨s.token.stop, false, false, [], none⟩
        let c := Lexer.charAt s.src gap.next
        if c = '"' || c = '\'' then
          { s with token := ⟨.bad, gap.next, gap.next + 1, gap.newline, false⟩, lastStop := s.token.stop }
        else setToken s s.token.stop
      return .property key (← attributeValue g)
    else return .property key (.literal (.bool true))

/-! ## Elements -/

/-- The call that makes an element. -/
def element (tag : Expr) (attributes : List Member) (children : List Expr) : Expr :=
  let props : Expr := if attributes.isEmpty then .literal .null else .object attributes
  .pure (.call (.member (.ident "React") "createElement" 0) (tag :: props :: children) 0)

/-- Makes the text from `i` on the current position and reads the token there. -/
def jump (i : Nat) : Parse Unit := modify fun s => setToken s i

/-- A child from index `i` on, where no text stands: the child, if it leaves one, and where it ends. -/
def braceChild (g : Grammar) (i : Nat) : Parse (Option Expr × Nat) := do
  jump (i + 1)
  if ← isOp "\x7d" then return (none, (← token).stop)
  else if ← isOp "..." then
    advance
    let e ← inside g.assignment
    if ← isOp "\x7d" then return (some (.spread e), (← token).stop) else expected "\x7d" "markup child"
  else
    let e ← inside g.expr
    if ← isOp "\x7d" then return (some e, (← token).stop) else expected "\x7d" "markup child"

/-- Children from index `i` on, up to the `</` of the closing tag; its index is given back. -/
def children (g : Grammar) : Nat → Nat → List Expr → Parse (List Expr × Nat)
  | 0, i, acc => return (acc.reverse, i)
  | fuel + 1, i, acc => do
    let s ← get
    let stop := Lexer.skipWhile (fun c => c ≠ '<' && c ≠ '\x7b' && c ≠ '\x7d' && c ≠ '>') s.src i
    let text := cleanText (s.src.extract i stop).toList
    let acc := if text.isEmpty then acc else .literal (.text (.plain (String.ofList text))) :: acc
    match s.src[stop]? with
    | some '<' =>
      let after := (Lexer.skipGap s.mode s.src (s.src.size + 1) ⟨stop + 1, false, false, [], none⟩).next
      if s.src[after]? == some '/' then return (acc.reverse, stop)
      else
        jump stop
        let e ← g.markup
        -- the token behind a child is text, so nothing is wrong with it; its gap begins at the child's end
        modify fun t => { t with badTokens := s.badTokens }
        children g fuel (← get).lastStop (e :: acc)
    | some '\x7b' =>
      let (e, next) ← braceChild g stop
      children g fuel next (match e with
        | some e => e :: acc
        | none => acc)
    | some '\x7d' => fail (.same "Unexpected token. Did you mean \x60\x7b'\x7d'\x7d\x60 or \x60&rbrace;\x60?" stop)
    | some _ => fail (.same "Unexpected token. Did you mean \x60\x7b'>'\x7d\x60 or \x60&gt;\x60?" stop)
    | none =>
      jump stop
      unexpected "markup element"

/-- The closing tag whose `<` stands at index `i`; the name it has to repeat. -/
def closing (i : Nat) (name : Option String) : Parse Unit := do
  jump i
  let start := (← token).start
  advance
  advance
  match name with
  | some n =>
    if ← isOp ">" then fail (.same s!"Expected corresponding JSX closing tag for '{n}'." start)
    else
      let (closed, _) ← elementName
      if closed != n then fail (.same s!"Expected corresponding JSX closing tag for '{n}'." start)
  | none =>
    if !(← isOp ">") then fail (.same "Expected corresponding closing tag for JSX fragment." start)
  expect ">" "closing tag"

/-- An element whose `<` is the current token. -/
def markup (g : Grammar) : Parse Expr := do
  advance
  mention "React"
  if ← isOp ">" then
    let (cs, i) ← children g ((← get).src.size + 1) (← token).stop []
    closing i none
    return element (.member (.ident "React") "Fragment" 0) [] cs
  else
    let (name, tag) ← elementName
    if (← isOp "<") && (← isTyped) then Types.arguments g
    let more : Parse Bool := do
      match (← token).kind with
      | .word _ => return true
      | .op o => return o == "\x7b"
      | _ => return false
    let attributes ← repeatWhile more (oneAttribute g)
    if ← isOp "/" then
      advance
      expect ">" "markup element"
      return element tag attributes []
    else if ← isOp ">" then
      let (cs, i) ← children g ((← get).src.size + 1) (← token).stop []
      closing i (some name)
      return element tag attributes cs
    else unexpected "markup element"

end Playpen.Script.Markup
