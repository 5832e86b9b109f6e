import HeatingBus.Yaml.Token

/-!
# Reading YAML documents

The tree that the tokens of a stream stand for. What is left out, such as the value of a key without
one, is an empty plain scalar.
-/

namespace HeatingBus.Yaml

inductive Node where
  | scalar (text : String) (plain : Bool)
  | sequence (items : List Node)
  | mapping (entries : List (Node × Node))
  deriving Repr

def Node.absent : Node := .scalar "" true

/-- Where a value stands: in a block, where a key or a dash may follow in the same column, or in
brackets. -/
inductive Context where
  | block
  /-- The value of a key in a block, which may be a sequence in the column of the key. -/
  | underKey
  | flow
  deriving Repr, DecidableEq

def Token.endsMappingPart : Token → Bool
  | .key | .value | .blockEnd => true
  | _ => false

def Token.endsBareItem : Token → Bool
  | .blockEntry | .key | .value | .blockEnd => true
  | _ => false

def Token.endsFlowEntry (token closing : Token) : Bool :=
  token == .flowEntry || token == closing

def afterComma? : List Token → Option (List Token)
  | .flowEntry :: rest => some rest
  | _ => none

mutual

/-- A value; `fuel` bounds the number of steps. -/
def readNode? : Nat → Context → List Token → Option (Node × List Token)
  | 0, _, _ => none
  | fuel + 1, context, tokens =>
    match tokens with
    | .scalar text plain :: rest => some (.scalar text plain, rest)
    | .flowSequenceStart :: rest =>
      (readFlowSequence? fuel true rest).map fun (items, rest) => (.sequence items, rest)
    | .flowMappingStart :: rest =>
      (readFlowMapping? fuel true rest).map fun (entries, rest) => (.mapping entries, rest)
    | .blockEntry :: _ =>
      if context = .underKey then
        (readBareSequence? fuel tokens).map fun (items, rest) => (.sequence items, rest)
      else none
    | .blockSequenceStart :: rest =>
      if context = .flow then none
      else (readBlockSequence? fuel rest).map fun (items, rest) => (.sequence items, rest)
    | .blockMappingStart :: rest =>
      if context = .flow then none
      else (readBlockMapping? fuel rest).map fun (entries, rest) => (.mapping entries, rest)
    | _ => none

def readBlockSequence? : Nat → List Token → Option (List Node × List Token)
  | 0, _ => none
  | _ + 1, .blockEnd :: rest => some ([], rest)
  | fuel + 1, .blockEntry :: rest => do
    let (item, rest) ← match rest with
      | .blockEntry :: _ | .blockEnd :: _ => some (.absent, rest)
      | _ => readNode? fuel .block rest
    let (items, rest) ← readBlockSequence? fuel rest
    return (item :: items, rest)
  | _, _ => none

/-- The items of a sequence in the column of its key, up to what is no item. -/
def readBareSequence? : Nat → List Token → Option (List Node × List Token)
  | 0, _ => none
  | fuel + 1, .blockEntry :: rest => do
    let (item, rest) ←
      if rest.head?.any Token.endsBareItem then some (.absent, rest)
      else readNode? fuel .block rest
    let (items, rest) ← readBareSequence? fuel rest
    return (item :: items, rest)
  | _, rest => some ([], rest)

/-- A key or a value of a block mapping, which may be absent. -/
def readPart? : Nat → List Token → Option (Node × List Token)
  | 0, _ => none
  | fuel + 1, tokens =>
    if tokens.head?.any Token.endsMappingPart then some (.absent, tokens)
    else readNode? fuel .underKey tokens

def readBlockMapping? : Nat → List Token → Option (List (Node × Node) × List Token)
  | 0, _ => none
  | _ + 1, .blockEnd :: rest => some ([], rest)
  | fuel + 1, .key :: rest => do
    let (key, rest) ← readPart? fuel rest
    let (value, rest) ← match rest with
      | .value :: rest => readPart? fuel rest
      | _ => some (.absent, rest)
    let (entries, rest) ← readBlockMapping? fuel rest
    return ((key, value) :: entries, rest)
  | _, _ => none

def readFlowSequence? : Nat → Bool → List Token → Option (List Node × List Token)
  | 0, _, _ => none
  | _ + 1, _, .flowSequenceEnd :: rest => some ([], rest)
  | fuel + 1, isFirst, tokens => do
    let tokens ← if isFirst then some tokens else afterComma? tokens
    match tokens with
    | .flowSequenceEnd :: rest => return ([], rest)
    | .key :: rest =>
      let (entry, rest) ← readFlowEntry? fuel .flowSequenceEnd rest
      let (items, rest) ← readFlowSequence? fuel false rest
      return (.mapping [entry] :: items, rest)
    | _ =>
      let (item, rest) ← readNode? fuel .flow tokens
      let (items, rest) ← readFlowSequence? fuel false rest
      return (item :: items, rest)

/-- A key after its announcement, and its value, in a collection that is closed by `closing`. -/
def readFlowEntry? : Nat → Token → List Token → Option ((Node × Node) × List Token)
  | 0, _, _ => none
  | fuel + 1, closing, tokens => do
    let (key, rest) ←
      if tokens.head?.any fun token => token == .value || token.endsFlowEntry closing then
        -- A key that is left out in a sequence takes the token after it away.
        some (.absent, if closing = .flowSequenceEnd then tokens.drop 1 else tokens)
      else readNode? fuel .flow tokens
    match rest with
    | .value :: rest =>
      let (value, rest) ←
        if rest.head?.any (·.endsFlowEntry closing) then some (.absent, rest)
        else readNode? fuel .flow rest
      return ((key, value), rest)
    | _ => return ((key, .absent), rest)

def readFlowMapping? : Nat → Bool → List Token → Option (List (Node × Node) × List Token)
  | 0, _, _ => none
  | _ + 1, _, .flowMappingEnd :: rest => some ([], rest)
  | fuel + 1, isFirst, tokens => do
    let tokens ← if isFirst then some tokens else afterComma? tokens
    match tokens with
    | .flowMappingEnd :: rest => return ([], rest)
    | .key :: rest =>
      let (entry, rest) ← readFlowEntry? fuel .flowMappingEnd rest
      let (entries, rest) ← readFlowMapping? fuel false rest
      return (entry :: entries, rest)
    | _ =>
      let (key, rest) ← readNode? fuel .flow tokens
      let (entries, rest) ← readFlowMapping? fuel false rest
      return ((key, .absent) :: entries, rest)

end

/-! ## Streams -/

def readContent? (tokens : List Token) : Option (Node × List Token) :=
  match tokens with
  | [] => some (.absent, [])
  | .documentStart :: _ | .documentEnd :: _ => some (.absent, tokens)
  | _ => readNode? (2 * tokens.length + 2) .block tokens

/-- The only document of a stream, or nothing if the stream has none. A stream of several documents
is not read. -/
def parse? (stream : String) : Option (Option Node) := do
  match ← tokens? stream with
  | [] => return none
  | tokens =>
    let (node, rest) ← match tokens with
      | .documentStart :: rest => readContent? rest
      | _ => readNode? (2 * tokens.length + 2) .block tokens
    if rest.all (· == .documentEnd) then return some node else none

end HeatingBus.Yaml
