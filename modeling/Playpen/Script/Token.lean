import Playpen.Decimal.Double
import Playpen.Script.Tree

/-!
# Tokens

The words of the script language, and what can be wrong with a text.  A complaint has two wordings:
a brief one, which whoever transpiles reports, and one with the place, which the engine reports.
-/

namespace Playpen.Script

open Playpen.Text (Wide)

/-- What is wrong, in the words of the transpiler and in the words of the engine. -/
structure Complaint where
  brief : String
  detail : String
  /-- The place that the engine names. -/
  place : Option Place
  deriving Inhabited

/-- A complaint that both tell in the same words. -/
def Complaint.same (text : String) (place : Place) : Complaint := ⟨text, text, some place⟩

inductive TokenKind where
  | stop
  /-- Characters that are no token. -/
  | bad
  | word (name : String)
  /-- A private name with its `#`. -/
  | hidden (name : String)
  | number (value : Float) (legacy : Bool)
  | bigint (digits : String)
  | text (value : Wide) (legacy : Bool)
  /-- A piece of a template, and whether the template ends with it. -/
  | template (q : Quasi) (closed : Bool)
  | regex (pattern flags : String)
  | op (text : String)

structure Token where
  kind : TokenKind
  start : Place
  stop : Place
  /-- Whether a line break stands before it. -/
  newline : Bool
  /-- Whether a word was written with an escape. -/
  escaped : Bool

instance : Inhabited Token := ⟨⟨.stop, 0, 0, false, false⟩⟩

def reservedWords : List String := [
  "break", "case", "catch", "class", "const", "continue", "debugger", "default", "delete", "do", "else",
  "enum", "export", "extends", "false", "finally", "for", "function", "if", "import", "in",
  "instanceof", "new", "null", "return", "super", "switch", "this", "throw", "true", "try", "typeof",
  "var", "void", "while", "with"]

def strictWords : List String := [
  "implements", "interface", "let", "package", "private", "protected", "public", "static", "yield"]

/-- Words with a meaning in some places only. -/
def contextualWords : List String := [
  "await", "async", "from", "get", "meta", "of", "set", "target", "accessor", "abstract", "as", "asserts",
  "assert", "any", "bigint", "boolean", "constructor", "declare", "infer", "intrinsic", "is", "keyof",
  "module", "namespace", "never", "out", "readonly", "require", "number", "object", "satisfies", "string",
  "symbol", "type", "undefined", "unique", "using", "unknown", "global", "override", "source", "defer"]

def isReserved (name : String) : Bool := reservedWords.contains name

/-- Whether a token is a word that is not reserved. -/
def Token.isFreeWord (t : Token) : Bool :=
  match t.kind with
  | .word n => !isReserved n
  | _ => false

/-- A token in the words of the transpiler. -/
def TokenKind.brief : TokenKind → String
  | stop => "EOF"
  | bad => "Unknown"
  | word name =>
    if isReserved name || strictWords.contains name || contextualWords.contains name then name else "Identifier"
  | hidden _ => "PrivateIdentifier"
  | number _ _ => "number"
  | bigint _ => "bigint"
  | text _ _ => "string"
  | template _ closed => if closed then "NoSubstitutionTemplate" else "TemplateHead"
  | regex _ _ => "/regexp/"
  | op s => s

/-- A token as the engine quotes it. -/
def TokenKind.detail : TokenKind → String
  | stop => "EOF"
  | bad => "?"
  | word name => name
  | hidden name => name
  | number x _ => Decimal.scriptText x
  | bigint digits => digits ++ "n"
  | text w _ => w.display
  | template q _ => q.raw
  | regex p f => "/" ++ p ++ "/" ++ f
  | op s => s

def Token.isOp (t : Token) (s : String) : Bool :=
  match t.kind with
  | .op o => o == s
  | _ => false

/-- Whether the token is the given word, written plainly. -/
def Token.isWord (t : Token) (s : String) : Bool :=
  match t.kind with
  | .word n => n == s && !t.escaped
  | _ => false

def Token.isStop (t : Token) : Bool :=
  match t.kind with
  | .stop => true
  | _ => false

/-- The name of a word. -/
def Token.word? (t : Token) : Option String :=
  match t.kind with
  | .word n => some n
  | _ => none

end Playpen.Script
