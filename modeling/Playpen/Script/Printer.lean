import Playpen.Decimal.Double
import Playpen.Script.Parser.Disposal

/-!
# Writing scripts

One statement per line, tabs for indentation, double quotes, and parentheses only where the binding
strengths ask for them.  Arrays of more than two items and objects of more than one member take a
line for each.
-/

namespace Playpen.Script.Printer

open Playpen.Text (Wide)

/-- What has been written, and what the next piece has to know of it. -/
structure Page where
  out : String
  indent : Nat
  /-- The next indentation is a single blank. -/
  inline : Bool
  /-- Where the expression of a statement begins. -/
  statementStart : Nat
  /-- Where the expression that is an arrow function's body begins. -/
  arrowStart : Nat
  /-- Where a default export's expression begins. -/
  exportStart : Nat
  /-- Where a whole number ends, which a point must not follow. -/
  numberEnd : Nat

abbrev Print := StateM Page

/-! ## Binding strengths -/

abbrev Level := Nat

namespace Level

def lowest : Level := 0
def comma : Level := 1
def spread : Level := 2
def yield : Level := 3
def assign : Level := 4
def conditional : Level := 5
def coalesce : Level := 6
def exponent : Level := 17
def unary : Level := 18
def suffix : Level := 19
def new : Level := 20
def call : Level := 21

/-- The level of a binary operator. -/
def ofOp (op : BinaryOp) : Level := op.strength + 5

end Level

/-- What surrounds an expression. -/
structure Context where
  /-- `in` would be taken for a loop's. -/
  noIn : Bool
  /-- A call would be taken for the arguments of `new`. -/
  noCall : Bool

def Context.none : Context := ⟨false, false⟩

/-! ## Pieces -/

def write (s : String) : Print Unit := modify fun p => { p with out := p.out ++ s }

def position : Print Nat := return (← get).out.utf8ByteSize

/-- Begins a line, or goes on in it when the statement belongs to what stands there. -/
def indent : Print Unit := modify fun p =>
  if p.inline then { p with out := p.out.push ' ', inline := false }
  else { p with out := p.out.pushn '\t' p.indent }

def newline : Print Unit := write "\n"

def deeper (body : Print α) : Print α := do
  modify fun p => { p with indent := p.indent + 1 }
  let a ← body
  modify fun p => { p with indent := p.indent - 1 }
  return a

def parens (wrap : Bool) (body : Print Unit) : Print Unit := do
  if wrap then write "("
  body
  if wrap then write ")"

/-- A blank where two names, or two signs, would run together. -/
def separate (next : Char) : Print Unit := modify fun p =>
  match p.out.back? with
  | some c =>
    if (Lexer.isNamePart c && Lexer.isNamePart next) || (c = next && (c = '+' || c = '-')) then
      { p with out := p.out.push ' ' }
    else p
  | none => p

def word (s : String) : Print Unit := do
  separate (s.toList.headD ' ')
  write s

/-- Pieces with a comma and a blank between them. -/
def commas (pieces : List (Print Unit)) : Print Unit := do
  match pieces with
  | [] => pure ()
  | p :: rest =>
    p
    rest.forM fun p => do
      write ", "
      p

/-! ## Texts and numbers -/

/-- A character inside double quotes; `next` is the one behind it. -/
def escapeChar (c : Char) (next : Option Char) : String :=
  if c = '"' then "\\\""
  else if c = '\\' then "\\\\"
  else if c = '\n' then "\\n"
  else if c = '\r' then "\\r"
  else
    match c.toNat with
    | 0 => if next.any Text.isDigit then "\\x00" else "\\0"
    | 7 => "\\x07"
    | 8 => "\\b"
    | 11 => "\\v"
    | 12 => "\\f"
    | 27 => "\\x1B"
    | 0xA0 => "\\xA0"
    | 0x2028 => "\\u2028"
    | 0x2029 => "\\u2029"
    | _ => c.toString

def quotedChars : List Char → String
  | [] => ""
  | c :: rest => escapeChar c rest.head? ++ quotedChars rest

/-- A text in double quotes; half a surrogate pair is written as an escape. -/
def quoted (w : Wide) : String :=
  let body := match w with
    | .plain s => quotedChars s.toList
    | .broken us =>
      (Wide.codePointsFrom us 0 #[]).foldl (fun acc n =>
        if 0xD800 ≤ n ∧ n < 0xE000 then acc ++ "\\u" ++ (Wide.hex4 n).toLower
        else acc ++ escapeChar (Char.ofNat n) none) ""
  "\"" ++ body ++ "\""

def number (x : Float) : Print Unit := do
  let text := Decimal.scriptText x
  separate '0'
  write text
  if text.toList.all Text.isDigit then modify fun p => { p with numberEnd := p.out.utf8ByteSize }

/-- The point before a name, away from a whole number. -/
def point : Print Unit := do
  if (← get).numberEnd = (← position) then write " "
  write "."

def literal : Literal → Print Unit
  | .number x => number x
  | .bigint ds => write (ds.replace "_" "" ++ "n")
  | .text w => write (quoted w)
  | .bool b => word (if b then "true" else "false")
  | .null => word "null"
  | .regex p f => write ("/" ++ p ++ "/" ++ f)

def moduleName : ModuleName → String
  | .name s => s
  | .text w => quoted w

/-! ## Recursion -/

/-- The recursive functions of the printer. -/
structure Printers where
  expr : Level → Context → Expr → Print Unit
  pattern : Bool → Pattern → Print Unit
  stmt : Stmt → Print Unit
  func : Func → Print Unit

section

variable (r : Printers)

/-- An expression by itself. -/
def Printers.plain (e : Expr) : Print Unit := r.expr Level.lowest Context.none e

/-- An expression that holds no comma of its own. -/
def Printers.item (e : Expr) : Print Unit := r.expr Level.comma Context.none e

/-! ## Functions and classes -/

/-- A comment; the lines of one that has several are indented anew. -/
def comment (c : Comment) : Print Unit := do
  if c.isLine then write c.text
  else
    let lines := (c.text.split Lexer.isLineEnd).toList.map (·.toString)
    lines.forM fun line => do
      if !line.startsWith "/*" then indent
      write line.trimAsciiStart.toString
      if !line.endsWith "*/" then newline

/-- Comments before a statement, which begins on a line of its own only if the source has it so. -/
def comments (cs : List Comment) : Print Unit := do
  cs.zipIdx.forM fun (c, i) => do
    if c.newlineBefore then
      match (← get).out.back? with
      | none => pure ()
      | some '\n' => indent
      | some '\t' => pure ()
      | some _ =>
        newline
        indent
    else if i = 0 then indent
    comment c
  match cs.getLast? with
  | some c => if c.isLine || c.newlineAfter then newline else modify fun p => { p with inline := true }
  | none => pure ()

/-- Statements between braces; without any, the braces meet. -/
def braces (empty : Bool) (body : Print Unit) : Print Unit := do
  if empty then write "\x7b\x7d"
  else
    write "\x7b\n"
    deeper body
    indent
    write "\x7d"

def directive (raw : String) : Print Unit := do
  indent
  write (if raw.contains '"' then "'" ++ raw ++ "'" else "\"" ++ raw ++ "\"")
  write ";\n"

/-- An expression without the parentheses around it. -/
def unwrapped : Nat → Expr → Expr
  | fuel + 1, .paren e => unwrapped fuel e
  | _, e => e

/-- A statement that is only a text, which must not be taken for a directive. -/
def text? (s : Stmt) : Option Wide :=
  match s.bare with
  | .expr e =>
    match unwrapped 100 e with
    | .literal (.text w) => some w
    | _ => none
  | _ => none

/-- Directives and statements. -/
def sequence (ds : List String) (ss : List Stmt) : Print Unit := do
  ds.forM directive
  match ds, ss with
  | [], s :: rest =>
    match text? s with
    | some w =>
      write ("(" ++ quoted w ++ ");\n")
      rest.forM r.stmt
    | none => ss.forM r.stmt
  | _, ss => ss.forM r.stmt

def statements (ds : List String) (ss : List Stmt) : Print Unit := do
  -- comments on the line of the braces stay between them
  let onLine := match ss with
    | [.comments cs] => cs.all fun c => !c.newlineBefore && !c.newlineAfter
    | _ => false
  if ds.isEmpty && onLine then
    write "\x7b"
    ss.forM r.stmt
    modify fun p => { p with inline := false }
    write "\x7d"
  else braces (ds.isEmpty && ss.isEmpty) (sequence r ds ss)

def parameters (ps : List Pattern) : Print Unit := do
  write "("
  commas (ps.map (r.pattern true))
  write ")"

/-- Parameters and body. -/
def signature (f : Func) : Print Unit := do
  match f with
  | .mk _ ps ds ss _ =>
    parameters r ps
    write " "
    statements r ds ss

def function (f : Func) : Print Unit := do
  let info := f.info
  if info.async then word "async "
  word "function"
  if info.generator then write "* "
  match info.name with
  | some n => word n
  | none => pure ()
  signature r f

def arrow (f : Func) : Print Unit := do
  match f with
  | .mk info ps ds ss value =>
    if info.async then word "async "
    parameters r ps
    write " => "
    match value with
    | some e =>
      let p ← position
      modify fun s => { s with arrowStart := p }
      r.item e
    | none => statements r ds ss

def key (k : Key) : Print Unit := do
  match k with
  | .name s => write s
  | .text w => write (quoted w)
  | .number x => number x
  | .bigint ds => write (ds ++ "n")
  | .computed e =>
    write "["
    r.item e
    write "]"
  | .hidden n => write n

def method (kind : MethodKind) (k : Key) (f : Func) : Print Unit := do
  match kind with
  | .getter => write "get "
  | .setter => write "set "
  | .method => pure ()
  if f.info.async then write "async "
  if f.info.generator then write "*"
  key r k
  signature r f

/-- Whether a decorator is a name, a property found by its name, or a call of such. -/
def isPlainDecorator : Nat → Expr → Bool
  | 0, _ => false
  | fuel + 1, e =>
    match e with
    | .ident _ => true
    | .member _ _ _ => true
    | .call f _ _ => isPlainDecorator fuel f
    | .paren e => isPlainDecorator fuel e
    | _ => false

def decorators (ds : List Expr) : Print Unit := ds.forM fun d => do
  write "@"
  parens (!isPlainDecorator 100 d) (r.plain d)
  write " "

/-- A field of a class; `mark` stands before its key. -/
def field (isStatic : Bool) (mark : String) (k : Key) (value : Option Expr) (ds : List Expr) : Print Unit := do
  decorators r ds
  if isStatic then write "static "
  write mark
  key r k
  match value with
  | some e =>
    write " = "
    r.item e
  | none => pure ()
  write ";\n"

/-- A member of a class, on a line of its own. -/
def plainMember (m : Member) : Print Unit := do
  indent
  match m with
  | .method isStatic kind k f ds =>
    decorators r ds
    if isStatic then write "static "
    method r kind k f
    newline
  | .field isStatic k value _ ds => field r isStatic "" k value ds
  | .accessor isStatic k value ds => field r isStatic "accessor " k value ds
  | .block ss _ =>
    write "static "
    statements r [] ss
    newline
  | _ => pure ()

/-- A member of a class with the comments before it. -/
def classMember (m : Member) : Print Unit := do
  match m with
  | .commented cs m =>
    comments cs
    plainMember r m
  | m => plainMember r m

def classDef (c : Class) : Print Unit := do
  match c with
  | .mk info parent ms ds =>
    decorators r ds
    word "class"
    match info.name with
    | some n => word n
    | none => pure ()
    match parent with
    | some e =>
      write " extends "
      r.expr Level.call Context.none e
    | none => pure ()
    write " "
    braces ms.isEmpty (ms.forM (classMember r))

/-! ## Literals with parts -/

/-- Items on lines of their own, or one after the other. -/
def items (lines : Bool) (first : String) (pieces : List (Print Unit)) : Print Unit := do
  if lines then
    deeper do
      pieces.zipIdx.forM fun (p, i) => do
        if i > 0 then write ","
        newline
        indent
        p
    newline
    indent
  else
    write first
    commas pieces
    write first

def array (es : List Expr) : Print Unit := do
  write "["
  items (es.length > 2) "" (es.map r.item)
  match es.getLast? with
  | some .hole => write ","
  | _ => pure ()
  write "]"

def objectMember (m : Member) : Print Unit := do
  match m with
  | .property k e =>
    key r k
    write ": "
    r.item e
  | .shorthand n => write n
  | .shorthandDefault n e =>
    write (n ++ " = ")
    r.item e
  | .spread e =>
    write "..."
    r.item e
  | .method _ kind k f _ => method r kind k f
  | _ => pure ()

def object (ms : List Member) : Print Unit := do
  let s ← get
  let p := s.out.utf8ByteSize
  parens (s.statementStart = p || s.arrowStart = p) do
    write "\x7b"
    if !ms.isEmpty then items (ms.length > 1) " " (ms.map (objectMember r))
    write "\x7d"

def template (qs : List Quasi) (es : List Expr) : Print Unit := do
  write "\x60"
  let rec go : List Quasi → List Expr → Print Unit
    | q :: qs, e :: es => do
      write q.raw
      write "$\x7b"
      r.plain e
      write "\x7d"
      go qs es
    | q :: _, [] => write q.raw
    | [], _ => pure ()
  go qs es
  write "\x60"

/-! ## Targets -/

/-- The parts of a target; `binding` says that the target declares its names. -/
def pattern (binding : Bool) (p : Pattern) : Print Unit := do
  let one := r.pattern binding
  match p with
  | .ident n => write n
  | .target e => r.item e
  | .hole => pure ()
  | .withDefault p e =>
    one p
    write " = "
    r.item e
  | .initial p e =>
    one p
    write " = "
    r.item e
  | .rest p =>
    write "..."
    one p
  | .field k shorthand p =>
    if shorthand then one p
    else
      key r k
      write ": "
      one p
  | .array ps =>
    write "["
    let rest := match ps.getLast? with
      | some (.rest _) => true
      | _ => false
    if rest && ps.length = 1 && binding then write " "
    commas (ps.map one)
    match ps.getLast? with
    | some .hole => write ","
    | _ => pure ()
    write "]"
  | .object fields =>
    let rest := match fields.getLast? with
      | some (.rest p) => some p
      | _ => none
    let fields' := if rest.isSome then fields.dropLast else fields
    if fields.isEmpty then write "\x7b\x7d"
    else
      write "\x7b "
      commas (fields'.map one)
      match rest with
      | some p =>
        if !fields'.isEmpty then write (if binding then "," else ", ")
        write "..."
        one p
      | none => pure ()
      write " \x7d"

/-! ## Expressions -/

/-- Whether an operand of `??`, `&&` or `||` has to be kept apart from the operator. -/
def mixes (op : BinaryOp) : Expr → Bool
  | .binary .coalesce _ _ => op = .and || op = .or
  | .binary .and _ _ | .binary .or _ _ => op = .coalesce
  | .paren e =>
    match e with
    | .binary .coalesce _ _ => op = .and || op = .or
    | .binary .and _ _ | .binary .or _ _ => op = .coalesce
    | _ => false
  | _ => false

def binary (level : Level) (c : Context) (op : BinaryOp) (a b : Expr) : Print Unit := do
  let own := Level.ofOp op
  let wrap := level ≥ own || (op = .isIn && c.noIn)
  let inner : Context := if wrap then Context.none else { c with noCall := false }
  let left := if mixes op a then Level.unary else if op = .pow then Level.unary else own - 1
  let right := if mixes op b then Level.unary else if op = .pow then own - 1 else own
  parens wrap do
    r.expr left inner a
    write (" " ++ op.text ++ " ")
    r.expr right inner b

def arguments (args : List Expr) : Print Unit := do
  write "("
  commas (args.map r.item)
  write ")"

/-- Whether the target of a link is marked as one that may break the chain. -/
def stripOptional : Expr → Bool × Expr
  | .optional e => (true, e)
  | e => (false, e)

def startsStatement : Print Bool := do
  let s ← get
  let p := s.out.utf8ByteSize
  return s.statementStart = p || s.exportStart = p

def isObjectPattern : Pattern → Bool
  | .object _ => true
  | _ => false

def unary (level : Level) (op : UnaryOp) (e : Expr) : Print Unit := do
  parens (level ≥ Level.unary) do
    let text := op.text
    separate (text.toList.headD ' ')
    write text
    if text.length > 1 then write " "
    r.expr Level.exponent Context.none e

def expr (level : Level) (c : Context) (e : Expr) : Print Unit := do
  match e with
  | .ident n => word n
  | .literal l => literal l
  | .this => word "this"
  | .newTarget => word "new.target"
  | .importMeta => word "import.meta"
  | .template qs es => template r qs es
  | .tagged t qs es _ =>
    r.expr Level.suffix c t
    template r qs es
  | .array es => array r es
  | .hole => pure ()
  | .spread e =>
    write "..."
    r.item e
  | .object ms => object r ms
  | .func f =>
    if f.info.arrow then parens (level ≥ Level.assign) (arrow r f)
    else parens (← startsStatement) (function r f)
  | .class k => parens (← startsStatement) (classDef r k)
  | .member t n _ =>
    let (optional, t) := stripOptional t
    r.expr Level.suffix c t
    if optional then write "?." else point
    write n
  | .index t k _ =>
    let (optional, t) := stripOptional t
    r.expr Level.suffix c t
    if optional then write "?."
    write "["
    r.plain k
    write "]"
  | .superMember n _ =>
    word "super."
    write n
  | .superIndex k _ =>
    word "super["
    r.plain k
    write "]"
  | .call f args _ =>
    parens (level ≥ Level.new || c.noCall) do
      let (optional, f) := stripOptional f
      r.expr Level.suffix Context.none f
      if optional then write "?."
      arguments r args
  | .superCall args _ =>
    word "super"
    arguments r args
  | .new f args _ =>
    parens (level ≥ Level.call) do
      word "new "
      r.expr Level.new ⟨false, true⟩ f
      arguments r args
  | .importCall s o _ =>
    parens (level ≥ Level.new || c.noCall) do
      word "import("
      r.item s
      match o with
      | some o =>
        write ", "
        r.item o
      | none => pure ()
      write ")"
  | .chain e => parens (level ≥ Level.suffix) (r.expr Level.lowest c e)
  | .optional e => r.expr level c e
  | .unary op e => unary r level op e
  | .update increase before e =>
    let text := if increase then "++" else "--"
    if before then
      parens (level ≥ Level.unary) do
        separate (text.toList.headD ' ')
        write text
        r.expr Level.unary Context.none e
    else
      parens (level ≥ Level.suffix) do
        r.expr Level.suffix Context.none e
        write text
  | .binary op a b => binary r level c op a b
  | .hiddenIn n e =>
    parens (level ≥ Level.ofOp .isIn) do
      write (n ++ " in ")
      r.expr (Level.ofOp .isIn) Context.none e
  | .assign p e _ =>
    let s ← get
    let starts := s.statementStart = s.out.utf8ByteSize && isObjectPattern p
    parens (level ≥ Level.assign || starts) do
      r.pattern false p
      write " = "
      r.expr Level.comma { c with noCall := false } e
  | .compound op t e _ =>
    parens (level ≥ Level.assign) do
      r.expr Level.assign c t
      write (" " ++ op.text ++ "= ")
      r.expr Level.comma { c with noCall := false } e
  | .conditional a b d =>
    let wrap := level ≥ Level.conditional
    let inner : Context := if wrap then Context.none else { c with noCall := false }
    parens wrap do
      r.expr Level.conditional inner a
      write " ? "
      r.expr Level.yield Context.none b
      write " : "
      r.expr Level.yield inner d
  | .sequence es => parens (level ≥ Level.comma) (commas (es.map fun e => r.expr Level.lowest c e))
  | .await e =>
    parens (level ≥ Level.unary) do
      word "await "
      r.expr Level.exponent Context.none e
  | .yield e =>
    parens (level ≥ Level.assign) do
      word "yield"
      match e with
      | some e =>
        write " "
        r.expr Level.yield Context.none e
      | none => pure ()
  | .yieldAll e =>
    parens (level ≥ Level.assign) do
      word "yield* "
      r.expr Level.yield Context.none e
  | .paren e => r.expr level c e
  | .pure e =>
    parens (level ≥ Level.new || c.noCall) do
      write "/* @__PURE__ */ "
      r.expr Level.lowest Context.none e

/-! ## Statements -/

/-- A statement that belongs to the one whose head has been written. -/
def body (blank : Bool) (s : Stmt) : Print Unit := do
  match s with
  | .block ss =>
    write " "
    statements r [] ss
    newline
  | .empty => write ";\n"
  | s =>
    if blank then write " "
    modify fun p => { p with inline := !blank, indent := p.indent }
    if blank then
      -- the blank has been written: no indentation follows
      modify fun p => { p with out := (p.out.dropEnd 1).toString, inline := true }
    r.stmt s

/-- The head of a declaration: its keyword and targets. -/
def declaration (c : Context) (kind : VarKind) (ps : List Pattern) : Print Unit := do
  write (kind.text ++ " ")
  commas (ps.map fun p =>
    match p with
    | .initial p e => do
      r.pattern true p
      write " = "
      r.expr Level.comma c e
    | p => r.pattern true p)

/-- The part of a loop's head that stands first. -/
def loopStart (s : Stmt) : Print Unit := do
  match s with
  | .declare kind ps => declaration r ⟨true, false⟩ kind ps
  | .expr e => r.expr Level.lowest ⟨true, false⟩ e
  | .target p => r.pattern false p
  | _ => pure ()

/-- `if` and what follows it; the line has been begun. -/
def condition (test : Expr) (yes : Stmt) (more : Bool) : Print Unit := do
  write "if ("
  r.plain test
  write ")"
  match yes with
  | .block ss =>
    write " "
    statements r [] ss
    if more then write " " else newline
  | s =>
    body r true s
    if more then indent

def branches : Nat → Stmt → Print Unit
  | fuel + 1, .condElse test yes no => do
    condition r test yes true
    write "else"
    match no with
    | .cond _ _ | .condElse _ _ _ =>
      write " "
      branches fuel no
    | s => body r true s
  | _, .cond test yes => condition r test yes false
  | _, s => r.stmt s

def case (s : Stmt) : Print Unit := do
  match s with
  | .case test ss =>
    indent
    match test with
    | some e =>
      write "case "
      r.plain e
    | none => write "default"
    write ":"
    match ss with
    | [s] => body r true s
    | ss =>
      newline
      deeper (ss.forM r.stmt)
  | _ => pure ()

def catchClause (p : Pattern) (ss : List Stmt) : Print Unit := do
  write " catch "
  match p with
  | .hole => pure ()
  | p =>
    write "("
    r.pattern true p
    write ") "
  statements r [] ss

def importItems (items : List ImportItem) : Print Unit := do
  let heads : List String := items.filterMap fun
    | .default b => some b
    | .all b => some ("* as " ++ b)
    | .named _ _ => none
  let names : List String := items.filterMap fun
    | .named n b => some (if n == .name b then b else moduleName n ++ " as " ++ b)
    | _ => none
  let list := if names.isEmpty then [] else ["\x7b " ++ ", ".intercalate names ++ " \x7d"]
  write (", ".intercalate (heads ++ list))

def exportItems (list : List (ModuleName × ModuleName)) : Print Unit := do
  let one := fun ((a, b) : ModuleName × ModuleName) => if a == b then moduleName a else moduleName a ++ " as " ++ moduleName b
  if list.isEmpty then write "\x7b\x7d" else write ("\x7b " ++ ", ".intercalate (list.map one) ++ " \x7d")

/-- A statement of a module; the line has been begun. -/
def moduleItem (s : Stmt) : Print Unit := do
  match s with
  | .imports items source attributes =>
    write "import "
    match items with
    | some items =>
      importItems items
      write " from "
    | none => pure ()
    write (quoted source.wide)
    if !attributes.isEmpty then
      write (" with \x7b " ++ ", ".intercalate (attributes.map fun (k, v) => k.display ++ ": " ++ quoted v) ++ " \x7d")
    write ";\n"
  | .exportNames list source =>
    write "export "
    exportItems list
    match source with
    | some w => write (" from " ++ quoted w.wide)
    | none => pure ()
    write ";\n"
  | .exportAll name source =>
    write "export *"
    match name with
    | some n => write (" as " ++ moduleName n)
    | none => pure ()
    write (" from " ++ quoted source.wide ++ ";\n")
  | .exportDecl s =>
    write "export"
    modify fun p => { p with inline := true }
    r.stmt s
  | .exportDefault e =>
    write "export default "
    let p ← position
    modify fun s => { s with exportStart := p }
    r.item e
    write ";\n"
  | .exportDefaultDecl s =>
    write "export default"
    modify fun p => { p with inline := true }
    r.stmt s
  | _ => pure ()

/-- A jump with an optional label or value. -/
def jump (name : String) (label : Option String) : Print Unit :=
  write (name ++ (label.elim "" (" " ++ ·)) ++ ";\n")

def stmt (s : Stmt) : Print Unit := do
  match s with
  | .commented cs s =>
    comments cs
    r.stmt s
  | .comments cs => comments cs
  | s =>
    indent
    match s with
    | .empty => write ";\n"
    | .debugger => write "debugger;\n"
    | .expr e =>
      let p ← position
      modify fun s => { s with statementStart := p }
      r.plain e
      write ";\n"
    | .block ss =>
      statements r [] ss
      newline
    | .declare kind ps =>
      declaration r Context.none kind ps
      write ";\n"
    | .target _ => pure ()
    | .func f =>
      function r f
      newline
    | .class c =>
      classDef r c
      newline
    | .cond _ _ | .condElse _ _ _ => branches r 1000 s
    | .loop start test update b =>
      write "for ("
      loopStart r start
      write ";"
      match test with
      | some e =>
        write " "
        r.plain e
      | none => pure ()
      write ";"
      match update with
      | some e =>
        write " "
        r.plain e
      | none => pure ()
      write ")"
      body r true b
    | .forIn head e b =>
      write "for ("
      loopStart r head
      write " in "
      r.plain e
      write ")"
      body r true b
    | .forOf async head e b =>
      write (if async then "for await (" else "for (")
      loopStart r head
      write " of "
      r.item e
      write ")"
      body r true b
    | .while test b =>
      write "while ("
      r.plain test
      write ")"
      body r true b
    | .doWhile b test =>
      write "do"
      match b with
      | .block ss =>
        write " "
        statements r [] ss
        write " "
      | b =>
        newline
        deeper (r.stmt b)
        indent
      write "while ("
      r.plain test
      write ");\n"
    | .continue l => jump "continue" l
    | .break l => jump "break" l
    | .return e =>
      write "return"
      match e with
      | some e =>
        write " "
        r.plain e
      | none => pure ()
      write ";\n"
    | .throw e _ =>
      write "throw "
      r.plain e
      write ";\n"
    | .tryCatch ss p h =>
      write "try "
      statements r [] ss
      catchClause r p h
      newline
    | .tryFinally ss f =>
      write "try "
      statements r [] ss
      write " finally "
      statements r [] f
      newline
    | .tryCatchFinally ss p h f =>
      write "try "
      statements r [] ss
      catchClause r p h
      write " finally "
      statements r [] f
      newline
    | .switch e cases =>
      write "switch ("
      r.plain e
      write ") "
      braces cases.isEmpty (cases.forM (case r))
      newline
    | .case _ _ => pure ()
    | .labelled l b =>
      write (l ++ ":")
      body r true b
    | .with e b =>
      write "with("
      r.plain e
      write ")"
      body r true b
    | s => moduleItem r s

end

/-- The printer for trees nested up to a bound. -/
def printers : Nat → Printers
  | 0 =>
    { expr := fun _ _ _ => pure (), pattern := fun _ _ => pure (), stmt := fun _ => pure ()
      func := fun _ => pure () }
  | n + 1 =>
    { expr := fun l c e s => expr (printers n) l c e s
      pattern := fun b p s => pattern (printers n) b p s
      stmt := fun x s => stmt (printers n) x s
      func := fun f s => function (printers n) f s }

/-- A bound on nesting beyond that of any tree. -/
def depth : Nat := 1000000

def blank : Page := ⟨"", 0, false, 0, 0, 0, 0⟩

end Printer

/-- The text of a program. -/
def Program.text (p : Program) : String :=
  let r := Printer.printers Printer.depth
  let all : Printer.Print Unit := do
    Printer.sequence r p.directives p.stmts
  -- nothing begins at a position that cannot be reached
  (all { Printer.blank with
    statementStart := Printer.depth * Printer.depth, arrowStart := Printer.depth * Printer.depth
    exportStart := Printer.depth * Printer.depth, numberEnd := Printer.depth * Printer.depth }).2.out

end Playpen.Script
