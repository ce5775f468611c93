import Lc3.Yaml.Token

/-!
The structure of a document: scalars, sequences and mappings. A place where a node may stand and
none does holds an empty plain scalar. Tokens are taken one after another, so a scalar that denotes
nothing counts only where the structure before it is sound.
-/

namespace Lc3.Yaml

inductive Node
  | plain (text : List Char)
  | quoted (text : Text)
  | sequence (items : List Node)
  | mapping (entries : List (Node × Node))
  deriving Repr

namespace Node

def absent : Node := .plain []

/-- Whether the tokens start with one of the given kinds, or are used up. -/
def startsWith (kinds : List Token) : List Token → Bool
  | [] => true
  | token :: _ => kinds.contains token

/-- What is wrong with tokens the first of which does not belong where it stands. -/
def refusal : List Token → Defect
  | .broken error _ :: _ => .scalar error
  | _ => .malformed

mutual

/-- A node, and the tokens behind it. Items may stand without a block of their own where
`unindented`, as the value of a key does. -/
def read : Nat → (inBlock unindented : Bool) → List Token → Except Defect (Node × List Token)
  | 0, _, _, _ => .error .malformed
  | fuel + 1, inBlock, unindented, tokens =>
    match tokens with
    | .plain text :: rest => .ok (.plain text, rest)
    | .quoted text :: rest => .ok (.quoted text, rest)
    | .sequenceStart :: rest => do
      let (items, rest) ← readFlowItems fuel true rest
      return (.sequence items, rest)
    | .mappingStart :: rest => do
      let (entries, rest) ← readFlowEntries fuel true rest
      return (.mapping entries, rest)
    | .blockSequenceStart :: rest =>
      if inBlock then do
        let (items, rest) ← readItems fuel [.item, .blockEnd] rest
        match rest with
        | .blockEnd :: rest => return (.sequence items, rest)
        | _ => throw (refusal rest)
      else .error (refusal tokens)
    | .blockMappingStart :: rest =>
      if inBlock then do
        let (entries, rest) ← readEntries fuel rest
        return (.mapping entries, rest)
      else .error (refusal tokens)
    | .item :: _ =>
      if unindented then do
        let (items, rest) ← readItems fuel [.item, .key, .value, .blockEnd] tokens
        return (.sequence items, rest)
      else .error (refusal tokens)
    | _ => .error (refusal tokens)

/-- A node, or an absent one before a token of one of the given kinds. -/
def readUnless : Nat → List Token → (inBlock unindented : Bool) → List Token →
    Except Defect (Node × List Token)
  | 0, _, _, _, _ => .error .malformed
  | fuel + 1, kinds, inBlock, unindented, tokens =>
    if startsWith kinds tokens then .ok (absent, tokens)
    else read fuel inBlock unindented tokens

/-- Items, each behind a dash; `ends` are the kinds of token before which an item is absent. -/
def readItems : Nat → List Token → List Token → Except Defect (List Node × List Token)
  | 0, _, _ => .error .malformed
  | fuel + 1, ends, tokens =>
    match tokens with
    | .item :: rest => do
      let (item, rest) ← readUnless fuel ends true false rest
      let (items, rest) ← readItems fuel ends rest
      return (item :: items, rest)
    | _ => .ok ([], tokens)

/-- Keys with their values, up to the end of the block. -/
def readEntries : Nat → List Token → Except Defect (List (Node × Node) × List Token)
  | 0, _ => .error .malformed
  | fuel + 1, tokens =>
    match tokens with
    | .key :: rest => do
      let (key, rest) ← readUnless fuel [.key, .value, .blockEnd] true true rest
      let (value, rest) ← match rest with
        | .value :: rest => readUnless fuel [.key, .value, .blockEnd] true true rest
        | _ => .ok (absent, rest)
      let (entries, rest) ← readEntries fuel rest
      return ((key, value) :: entries, rest)
    | .blockEnd :: rest => .ok ([], rest)
    | _ => .error (refusal tokens)

/-- A key and its value inside brackets that end with `closing`. -/
def readFlowPair : Nat → Token → List Token → Except Defect ((Node × Node) × List Token)
  | 0, _, _ => .error .malformed
  | fuel + 1, closing, tokens => do
    let (key, rest) ← readUnless fuel [.value, .entry, closing] false false tokens
    let (value, rest) ← match rest with
      | .value :: rest => readUnless fuel [.entry, closing] false false rest
      | _ => .ok (absent, rest)
    return ((key, value), rest)

/-- The items of a bracketed sequence; all but the first stand behind a comma. A key among them
makes a mapping of one entry. -/
def readFlowItems : Nat → (isFirst : Bool) → List Token → Except Defect (List Node × List Token)
  | 0, _, _ => .error .malformed
  | fuel + 1, isFirst, tokens =>
    match isFirst, tokens with
    | _, .sequenceEnd :: rest => .ok ([], rest)
    | false, .entry :: .sequenceEnd :: rest => .ok ([], rest)
    | false, .entry :: rest | true, rest => do
      let (item, rest) ← match rest with
        | .key :: rest =>
          (readFlowPair fuel .sequenceEnd rest).map fun (pair, rest) => (.mapping [pair], rest)
        | _ => read fuel false false rest
      let (items, rest) ← readFlowItems fuel false rest
      return (item :: items, rest)
    | false, _ => .error (refusal tokens)

/-- The entries of a bracketed mapping. A node without a colon is a key without a value. -/
def readFlowEntries : Nat → (isFirst : Bool) → List Token →
    Except Defect (List (Node × Node) × List Token)
  | 0, _, _ => .error .malformed
  | fuel + 1, isFirst, tokens =>
    match isFirst, tokens with
    | _, .mappingEnd :: rest => .ok ([], rest)
    | false, .entry :: .mappingEnd :: rest => .ok ([], rest)
    | false, .entry :: rest | true, rest => do
      let (pair, rest) ← match rest with
        | .key :: rest => readFlowPair fuel .mappingEnd rest
        | _ => (read fuel false false rest).map fun (key, rest) => ((key, absent), rest)
      let (pairs, rest) ← readFlowEntries fuel false rest
      return (pair :: pairs, rest)
    | false, _ => .error (refusal tokens)

end

/-- Only marks of a document's end may follow its node. -/
def checkClosed (tokens : List Token) : Except Defect Unit :=
  match tokens.dropWhile (· == .documentEnd) with
  | [] => .ok ()
  | rest => .error (refusal rest)

/-- The one document that the tokens form; without any, an absent node. -/
def ofTokens (tokens : List Token) : Except Defect Node := do
  let fuel := 4 * tokens.length + 4
  let (node, rest) ← match tokens with
    | [] => .ok (absent, [])
    | .documentStart :: rest => readUnless fuel [.documentStart, .documentEnd] true false rest
    | _ => read fuel true false tokens
  checkClosed rest
  return node

end Node

end Lc3.Yaml
