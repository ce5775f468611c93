import Lc3.Yaml.Scalar

/-!
Tokens of a document. Indentation becomes explicit here: a block of items or of keys is opened
where its first line is indented more than what surrounds it and closed where a line is indented
less. A key shows only by the colon behind it, so the place of a possible key is remembered until
the colon comes or until it can come no more.
-/

namespace Lc3.Yaml

inductive Token
  | documentStart
  | documentEnd
  | blockSequenceStart
  | blockMappingStart
  | blockEnd
  | sequenceStart
  | sequenceEnd
  | mappingStart
  | mappingEnd
  | entry
  | item
  | key
  | value
  | plain (text : List Char)
  | quoted (text : Text)
  /-- A scalar that denotes nothing stands in the way, as is known when `position` characters have
  been read. -/
  | broken (error : ScalarError) (position : Nat)
  deriving DecidableEq, Repr

/-- A token that may turn out to start a key. It is `required` to be one where nothing else can
stand at its place. -/
structure KeyCandidate where
  tokenCount : Nat
  required : Bool
  index : Nat
  line : Nat
  column : Nat

/-- The state of reading. Columns of the open blocks stand innermost first, and so do the
candidates of the open brackets, the last one being that of the surrounding block. -/
structure Lexer where
  cursor : Cursor
  tokens : Array Token
  indents : List Nat
  candidate : Option KeyCandidate
  outer : List (Option KeyCandidate)
  allowsKey : Bool

namespace Lexer

def start (text : List Char) : Lexer where
  cursor := Cursor.start text
  tokens := #[]
  indents := []
  candidate := none
  outer := []
  allowsKey := true

def inFlow (lexer : Lexer) : Bool := !lexer.outer.isEmpty

def column (lexer : Lexer) : Nat := lexer.cursor.column

/-- The column of the innermost open block, or -1 outside of all. -/
def indent (lexer : Lexer) : Int :=
  match lexer.indents with
  | [] => -1
  | column :: _ => column

def push (lexer : Lexer) (token : Token) : Lexer :=
  { lexer with tokens := lexer.tokens.push token }

/-- Passes spaces, comments and line breaks. Behind a line break a key may stand. -/
def skipBlanks : Nat → Lexer → Lexer
  | 0, lexer => lexer
  | fuel + 1, lexer =>
    let cursor := lexer.cursor.skipWhile (· == ' ')
    let cursor :=
      if cursor.rest.head? == some '\x23' then cursor.skipWhile (!isBreak ·) else cursor
    match cursor.rest with
    | char :: _ =>
      if isBreak char then
        skipBlanks fuel { lexer with
          cursor := cursor.next
          allowsKey := lexer.allowsKey || !lexer.inFlow }
      else { lexer with cursor }
    | [] => { lexer with cursor }

def skipByteOrderMark (lexer : Lexer) : Lexer :=
  if lexer.cursor.index = 0 ∧ lexer.cursor.rest.head? = some byteOrderMark then
    { lexer with cursor := lexer.cursor.next }
  else lexer

/-- A key and its colon stand on one line, at most 1024 characters apart. -/
def isStale (lexer : Lexer) (candidate : KeyCandidate) : Bool :=
  candidate.line != lexer.cursor.line || candidate.index + 1024 < lexer.cursor.index

/-- Drops a candidate, which is an error if it had to be a key. -/
def dropCandidate? (candidate : Option KeyCandidate) : Option (Option KeyCandidate) :=
  match candidate with
  | some candidate => if candidate.required then none else some none
  | none => some none

def dropIfStale? (lexer : Lexer) (candidate : Option KeyCandidate) :
    Option (Option KeyCandidate) :=
  match candidate with
  | some found => if lexer.isStale found then dropCandidate? candidate else some candidate
  | none => some none

def dropStale? (lexer : Lexer) : Option Lexer := do
  let candidate ← lexer.dropIfStale? lexer.candidate
  let outer ← lexer.outer.mapM lexer.dropIfStale?
  return { lexer with candidate, outer }

def forgetKey? (lexer : Lexer) : Option Lexer := do
  return { lexer with candidate := ← dropCandidate? lexer.candidate }

def rememberKey? (lexer : Lexer) : Option Lexer := do
  if lexer.allowsKey then
    let lexer ← lexer.forgetKey?
    let candidate : KeyCandidate :=
      { tokenCount := lexer.tokens.size
        required := !lexer.inFlow && lexer.indent == (lexer.column : Int)
        index := lexer.cursor.index
        line := lexer.cursor.line
        column := lexer.column }
    return { lexer with candidate := some candidate }
  else
    return lexer

/-- Closes the blocks that are indented more than `column`. -/
def closeBlocks (column : Int) (lexer : Lexer) : Lexer :=
  let kept := lexer.indents.dropWhile fun (indent : Nat) => decide (column < (indent : Int))
  let closed := lexer.indents.length - kept.length
  { lexer with
    indents := kept
    tokens := lexer.tokens ++ (List.replicate closed Token.blockEnd).toArray }

def closeBlocksHere (lexer : Lexer) : Lexer :=
  if lexer.inFlow then lexer else lexer.closeBlocks lexer.column

/-- Opens a block at `column`, with its first token `token` at place `count`, unless one is
open there. -/
def openBlock (column count : Nat) (token : Token) (lexer : Lexer) : Lexer :=
  if lexer.indent < (column : Int) then
    { lexer with
      indents := column :: lexer.indents
      tokens := lexer.tokens.extract 0 count ++ #[token] ++ lexer.tokens.extract count }
  else lexer

def openBlockHere (token : Token) (lexer : Lexer) : Lexer :=
  lexer.openBlock lexer.column lexer.tokens.size token

def take (lexer : Lexer) (token : Token) (width : Nat) : Lexer :=
  { lexer.push token with cursor := lexer.cursor.skip width }

def documentMarker? (token : Token) (lexer : Lexer) : Option Lexer := do
  let lexer ← (lexer.closeBlocks (-1)).forgetKey?
  return { lexer.take token 3 with allowsKey := false }

def openFlow? (token : Token) (lexer : Lexer) : Option Lexer := do
  let lexer ← lexer.rememberKey?
  return { lexer.take token 1 with
    candidate := none
    outer := lexer.candidate :: lexer.outer
    allowsKey := true }

/-- A bracket that closes nothing fits nowhere. -/
def closeFlow? (token : Token) (lexer : Lexer) : Option Lexer := do
  let lexer ← lexer.forgetKey?
  match lexer.outer with
  | [] => none
  | candidate :: outer =>
    return { lexer.take token 1 with candidate, outer, allowsKey := false }

def comma? (lexer : Lexer) : Option Lexer := do
  return { (← lexer.forgetKey?).take .entry 1 with allowsKey := true }

/-- Opens a block for an item or for a key without a remembered start. -/
def openLine? (block : Token) (lexer : Lexer) : Option Lexer :=
  if lexer.inFlow then some lexer
  else if lexer.allowsKey then some (lexer.openBlockHere block)
  else none

def dash? (lexer : Lexer) : Option Lexer := do
  let lexer ← (← lexer.openLine? .blockSequenceStart).forgetKey?
  return { lexer.take .item 1 with allowsKey := true }

def questionMark? (lexer : Lexer) : Option Lexer := do
  let lexer ← (← lexer.openLine? .blockMappingStart).forgetKey?
  return { lexer.take .key 1 with allowsKey := !lexer.inFlow }

/-- A colon makes the remembered token a key. Without one it is the value of an empty key. -/
def colon? (lexer : Lexer) : Option Lexer :=
  match lexer.candidate with
  | some found =>
    let count := found.tokenCount
    let keyed := { lexer with
      tokens := lexer.tokens.extract 0 count ++ #[Token.key] ++ lexer.tokens.extract count
      candidate := none
      allowsKey := false }
    let opened :=
      if lexer.inFlow then keyed else keyed.openBlock found.column count .blockMappingStart
    some (opened.take .value 1)
  | none => do
    let lexer ← lexer.openLine? .blockMappingStart
    return { lexer.take .value 1 with allowsKey := !lexer.inFlow }

def quotedScalar (mark : Char) (lexer : Lexer) : Except QuotedError Lexer := do
  let lexer ← QuotedError.ofOption lexer.rememberKey?
  let (text, cursor) ← readQuoted mark lexer.cursor
  return { lexer.push (.quoted text) with cursor, allowsKey := false }

def plainScalar? (lexer : Lexer) : Option Lexer := do
  let lexer ← lexer.rememberKey?
  let plain := readPlain lexer.inFlow (lexer.indent + 1) lexer.cursor
  return { lexer.push (.plain plain.text) with
    cursor := plain.cursor
    allowsKey := plain.hasBreak }

def isIndicator (char : Char) : Bool :=
  "-?:,[]\x7b\x7d\x23&*!|>'\x22%@\x60".toList.contains char

/-- Whether a plain scalar starts with `char` before `rest`. -/
def startsPlain (lexer : Lexer) (char : Char) (rest : List Char) : Bool :=
  !(isIndicator char || startsBlank [char]) ||
    !startsBlank rest && (char == '-' || !lexer.inFlow && (char == '?' || char == ':'))

/-- Reads the token that starts with `char` at the present place, other than a quoted scalar.
Directives, anchors, aliases, tags and block scalars are no part of a configuration and are
refused. -/
def readToken? (char : Char) (rest : List Char) (lexer : Lexer) : Option Lexer :=
  if lexer.column = 0 ∧ char = '%' then none
  else if lexer.column = 0 ∧ startsMarker '-' (char :: rest) then
    lexer.documentMarker? .documentStart
  else if lexer.column = 0 ∧ startsMarker '.' (char :: rest) then
    lexer.documentMarker? .documentEnd
  else
    match char with
    | '[' => lexer.openFlow? .sequenceStart
    | ']' => lexer.closeFlow? .sequenceEnd
    | '\x7b' => lexer.openFlow? .mappingStart
    | '\x7d' => lexer.closeFlow? .mappingEnd
    | ',' => lexer.comma?
    | _ =>
      if char = '-' ∧ startsBlank rest then lexer.dash?
      else if char = '?' ∧ (lexer.inFlow ∨ startsBlank rest) then lexer.questionMark?
      else if char = ':' ∧ (lexer.inFlow ∨ startsBlank rest) then lexer.colon?
      else if lexer.startsPlain char rest then lexer.plainScalar?
      else none

/-- How many tokens are settled: one that may turn out to be a key is not, nor are those behind
it. -/
def settled (lexer : Lexer) : Nat :=
  (lexer.candidate :: lexer.outer).foldl (fun count candidate =>
    match candidate with
    | some found => if lexer.isStale found then count else min count found.tokenCount
    | none => count) lexer.tokens.size

/-- Reads tokens to the end of the text. Every turn takes at least one character. A scalar that
denotes nothing comes to light as soon as a token is wanted that is not settled before it. -/
def run : Nat → Lexer → Except Defect (List Token)
  | 0, _ => .error .malformed
  | fuel + 1, before => do
    let lexer := before.skipByteOrderMark.skipBlanks (before.cursor.rest.length + 1)
    let lexer := (← Defect.ofOption lexer.dropStale?).closeBlocksHere
    match lexer.cursor.rest with
    | [] => return (← Defect.ofOption (lexer.closeBlocks (-1)).forgetKey?).tokens.toList
    | char :: rest =>
      if char = '\x27' ∨ char = '\x22' then
        match lexer.quotedScalar char with
        | .ok lexer => run fuel lexer
        | .error (.broken error position) =>
          return lexer.tokens.toList.take before.settled ++ [.broken error position]
        | .error .malformed => .error .malformed
      else run fuel (← Defect.ofOption (lexer.readToken? char rest))

end Lexer

/-- The tokens of a text, as far as it can be divided into tokens. -/
def tokens (text : List Char) : Except Defect (List Token) :=
  (Lexer.start text).run (text.length + 1)

end Lc3.Yaml
