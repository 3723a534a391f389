import Schematic.Reference.Expression
import Schematic.Reference.Field

/-!
# Reading expressions

Tokens are read by precedence: attributes, brackets and calls bind closest, then
powers, signs, the binary operators in five ranks, comparisons, negation,
conjunction, disjunction, conditions, and commas last. Each reader takes what it
needs from the front of the tokens and returns the rest; it yields nothing for
what is no expression.

A reader's first argument bounds the depth of its recursion. Between two tokens
that are taken there is a fixed number of ranks, so a multiple of the number of
tokens suffices.
-/

namespace Schematic.Expression

/-! ## Operators -/

/-- The binary operators by rank, the one that binds least first. -/
def ranks : List (List (String × BinaryOperator)) :=
  [[("|", .bitOr)], [("^", .bitXor)], [("&", .bitAnd)], [("<<", .shiftLeft), (">>", .shiftRight)],
    [("+", .add), ("-", .subtract)],
    [("*", .multiply), ("/", .divide), ("//", .floorDivide), ("%", .remainder),
      ("@", .matrixMultiply)]]

def operatorAt? (rank : Nat) (symbol : String) : Option BinaryOperator :=
  (ranks[rank]?).bind fun operators => (operators.find? (·.1 = symbol)).map Prod.snd

def signOf? : String → Option UnaryOperator
  | "-" => some .negate
  | "+" => some .affirm
  | "~" => some .invert
  | _ => none

/-- The comparison at the front. -/
def comparisonAt? : List Token → Option (Comparison × List Token)
  | .keyword "not" :: .keyword "in" :: rest => some (.missing, rest)
  | .keyword "in" :: rest => some (.contained, rest)
  | .keyword "is" :: .keyword "not" :: rest => some (.distinct, rest)
  | .keyword "is" :: rest => some (.identical, rest)
  | .mark symbol :: rest =>
    match symbol with
    | "<" => some (.less, rest)
    | "<=" => some (.lessOrEqual, rest)
    | ">" => some (.greater, rest)
    | ">=" => some (.greaterOrEqual, rest)
    | "==" => some (.equal, rest)
    | "!=" => some (.unequal, rest)
    | _ => none
  | _ => none

/-! ## Arguments -/

def isKeyword : Expression → Bool
  | keyword .. => true
  | _ => false

def isSpread : Expression → Bool
  | spread _ => true
  | _ => false

/-- Whether arguments may stand in this order: after a named one come only named ones and
spreads, after a mapping of arguments no spread, and no name is repeated. -/
def areArguments : List Expression → Bool
  | [] => true
  | keyword own _ :: rest =>
    rest.all (fun arg =>
      match arg, own with
      | keyword other _, some _ => other ≠ own
      | keyword .., none => true
      | spread _, some _ => true
      | _, _ => false) && areArguments rest
  | _ :: rest => areArguments rest

/-- The names before a word, with commas between them, in parentheses or not. -/
def namesBefore (ending : Token → Bool) : List Token → Option (List String × List Token)
  | .word text :: .mark "," :: rest =>
    match rest with
    | next :: _ =>
      if ending next then some ([text], rest)
      else (namesBefore ending rest).map fun (names, rest) => (text :: names, rest)
    | [] => none
  | .word text :: next :: rest => if ending next then some ([text], next :: rest) else none
  | _ => none

def isIn : Token → Bool
  | .keyword "in" => true
  | _ => false

def isClosing : Token → Bool
  | .mark ")" => true
  | _ => false

/-- The names that a clause binds. -/
def targets : List Token → Option (List String × List Token)
  | .mark "(" :: rest => do
    let (names, rest) ← namesBefore isClosing rest
    match rest with
    | .mark ")" :: .keyword "in" :: rest => some (names, .keyword "in" :: rest)
    | _ => none
  | tokens => namesBefore isIn tokens

/-! ## Brackets and texts -/

/-- Whether a closing bracket is next. -/
def closes (closing : String) : List Token → Bool
  | .mark symbol :: _ => symbol = closing
  | _ => false

/-- Bytes joined with the bytes right after them. -/
def readBytes (content : List Char) : List Token → List Char × List Token
  | .bytes other :: rest => readBytes (content ++ other) rest
  | rest => (content, rest)

def startsText : List Token → Bool
  | .text _ :: _ => true
  | .formatted .. :: _ => true
  | _ => false

/-- Joins what is read with a text of a given kind that follows it. -/
def prefixed (first : Expression) : Expression → Expression
  | formatted parts => formatted (first :: parts)
  | other => formatted [first, other]

/-! ## Parameters -/

/-- A parameter as it is written, or a mark between parameters, which has no name. -/
structure Parameter where
  mark : String
  name : String
  default : Option Expression

/-- Parameters before a slash and after it, or all of them after it. -/
def splitAtSlash (parameters : List Parameter) : Option (List Parameter × List Parameter) :=
  match parameters.span fun parameter => parameter.mark ≠ "/" with
  | (all, []) => some ([], all)
  | ([], _) => none
  | (front, _ :: back) =>
    if back.any fun parameter => parameter.mark = "/" then none else some (front, back)

/-- The last parameter, for further arguments by name, or none. -/
def remaining? : List Parameter → Option (Option String)
  | [] => some none
  | [⟨"**", own, _⟩] => some (some own)
  | _ => none

/-- What stands behind the parameters by position: the parameter for further ones, parameters by
name, and the one for further arguments by name. After a star alone there must be a name. -/
def behindPlaces :
    List Parameter → Option (Option String × List Parameter × Option String)
  | ⟨"*", own, _⟩ :: rest =>
    let (named, rest) := rest.span fun parameter => parameter.mark = ""
    if own = "" && named.isEmpty then none
    else (remaining? rest).map fun last => (if own = "" then none else some own, named, last)
  | rest => (remaining? rest).map fun last => (none, [], last)

/-- The parameters of a function with the default values, if they may stand in this order: by
position, the optional ones come last, and no name is repeated. -/
def signature? (parameters : List Parameter) : Option (Signature × List Expression) := do
  let (places, rest) := parameters.span fun parameter => parameter.mark = "" || parameter.mark = "/"
  let (placed, flexible) ← splitAtSlash places
  let (surplus, named, remaining) ← behindPlaces rest
  let optional := (placed ++ flexible).dropWhile fun parameter => parameter.default.isNone
  let all := placed ++ flexible ++ named
  let names := all.map Parameter.name ++ surplus.toList ++ remaining.toList
  if (optional.all fun parameter => parameter.default.isSome) && names.Nodup then
    pure
      ({ placed := placed.map Parameter.name
         flexible := flexible.map Parameter.name
         surplus := surplus
         named := named.map Parameter.name
         remaining := remaining
         optional := (all.filter fun parameter => parameter.default.isSome).map Parameter.name },
        all.filterMap Parameter.default)
  else none

/-! ## Ranks -/

mutual

/-- An expression: a function, or alternatives with a condition between them. -/
def readExpression : Nat → List Token → Option (Expression × List Token)
  | 0, _ => none
  | steps + 1, .keyword "lambda" :: rest => do
    let (parameters, rest) ← readParameters steps rest
    let (signature, defaults) ← signature? parameters
    let (body, rest) ← readExpression steps rest
    pure (lambda signature defaults body, rest)
  | steps + 1, tokens => do
    let (first, rest) ← readDisjunction steps tokens
    match rest with
    | .keyword "if" :: rest => do
      let (test, rest) ← readDisjunction steps rest
      match rest with
      | .keyword "else" :: rest =>
        let (other, rest) ← readExpression steps rest
        pure (conditional test first other, rest)
      | _ => none
    | rest => pure (first, rest)

/-- The parameters of a function up to the colon. -/
def readParameters : Nat → List Token → Option (List Parameter × List Token)
  | 0, _ => none
  | _ + 1, .mark ":" :: rest => some ([], rest)
  | steps + 1, .word own :: .mark "=" :: rest => do
    let (default, rest) ← readExpression steps rest
    let (parameters, rest) ← readMoreParameters steps rest
    pure (⟨"", own, some default⟩ :: parameters, rest)
  | steps + 1, .word own :: rest => do
    let (parameters, rest) ← readMoreParameters steps rest
    pure (⟨"", own, none⟩ :: parameters, rest)
  | steps + 1, .mark mark :: .word own :: rest =>
    if mark = "*" || mark = "**" then do
      let (parameters, rest) ← readMoreParameters steps rest
      pure (⟨mark, own, none⟩ :: parameters, rest)
    else none
  | steps + 1, .mark mark :: rest =>
    if mark = "*" || mark = "/" then do
      let (parameters, rest) ← readMoreParameters steps rest
      pure (⟨mark, "", none⟩ :: parameters, rest)
    else none
  | _ + 1, _ => none

def readMoreParameters : Nat → List Token → Option (List Parameter × List Token)
  | 0, _ => none
  | steps + 1, .mark "," :: rest => readParameters steps rest
  | _ + 1, .mark ":" :: rest => some ([], rest)
  | _ + 1, _ => none

def readDisjunction : Nat → List Token → Option (Expression × List Token)
  | 0, _ => none
  | steps + 1, tokens => do
    let (left, rest) ← readConjunction steps tokens
    match rest with
    | .keyword "or" :: rest =>
      let (right, rest) ← readDisjunction steps rest
      pure (disjunction left right, rest)
    | rest => pure (left, rest)

def readConjunction : Nat → List Token → Option (Expression × List Token)
  | 0, _ => none
  | steps + 1, tokens => do
    let (left, rest) ← readNegation steps tokens
    match rest with
    | .keyword "and" :: rest =>
      let (right, rest) ← readConjunction steps rest
      pure (conjunction left right, rest)
    | rest => pure (left, rest)

def readNegation : Nat → List Token → Option (Expression × List Token)
  | 0, _ => none
  | steps + 1, .keyword "not" :: rest => do
    let (operand, rest) ← readNegation steps rest
    pure (unary .not operand, rest)
  | steps + 1, tokens => do
    let (left, rest) ← readBinary steps 0 tokens
    let (operators, operands, rest) ← readComparisons steps rest
    pure (if operators.isEmpty then left else comparison operators (left :: operands), rest)

/-- Comparisons with their right operands. -/
def readComparisons : Nat → List Token → Option (List Comparison × List Expression × List Token)
  | 0, _ => none
  | steps + 1, tokens =>
    match comparisonAt? tokens with
    | none => some ([], [], tokens)
    | some (operator, rest) => do
      let (operand, rest) ← readBinary steps 0 rest
      let (operators, operands, rest) ← readComparisons steps rest
      pure (operator :: operators, operand :: operands, rest)

/-- Operands between the binary operators from a rank on. -/
def readBinary : Nat → Nat → List Token → Option (Expression × List Token)
  | 0, _, _ => none
  | steps + 1, rank, tokens =>
    if rank < ranks.length then do
      let (left, rest) ← readBinary steps (rank + 1) tokens
      readOperands steps rank left rest
    else readSigned steps tokens

/-- Operators of a rank with their right operands; they associate to the left. -/
def readOperands : Nat → Nat → Expression → List Token → Option (Expression × List Token)
  | 0, _, _, _ => none
  | steps + 1, rank, left, .mark symbol :: rest =>
    match operatorAt? rank symbol with
    | some operator => do
      let (right, rest) ← readBinary steps (rank + 1) rest
      readOperands steps rank (binary operator left right) rest
    | none => some (left, .mark symbol :: rest)
  | _ + 1, _, left, rest => some (left, rest)

def readSigned : Nat → List Token → Option (Expression × List Token)
  | 0, _ => none
  | steps + 1, .mark symbol :: rest =>
    match signOf? symbol with
    | some sign => do
      let (operand, rest) ← readSigned steps rest
      pure (unary sign operand, rest)
    | none => readPower steps (.mark symbol :: rest)
  | steps + 1, tokens => readPower steps tokens

def readPower : Nat → List Token → Option (Expression × List Token)
  | 0, _ => none
  | steps + 1, tokens => do
    let (base, rest) ← readPrimary steps tokens
    match rest with
    | .mark "**" :: rest =>
      let (exponent, rest) ← readSigned steps rest
      pure (binary .power base exponent, rest)
    | rest => pure (base, rest)

/-- A name, a constant, texts, or an expression in brackets, with what is attached to it. -/
def readPrimary : Nat → List Token → Option (Expression × List Token)
  | 0, _ => none
  | steps + 1, .word text :: rest => readAttached steps (name text) rest
  | steps + 1, .constant value :: rest => readAttached steps (constant value) rest
  | steps + 1, .mark "..." :: rest => readAttached steps ellipsis rest
  | steps + 1, .mark "(" :: rest => do
    let (inner, rest) ← readGroup steps rest
    readAttached steps inner rest
  | steps + 1, .mark "[" :: rest => do
    let (inner, rest) ← readList steps rest
    readAttached steps inner rest
  | steps + 1, .mark "\x7b" :: rest => do
    let (inner, rest) ← readBraces steps rest
    readAttached steps inner rest
  | steps + 1, .bytes content :: rest => do
    let (content, rest) := readBytes content rest
    if startsText rest then none
    else readAttached steps (constant (.bytes (String.ofList content))) rest
  | steps + 1, .text content :: rest => do
    let (inner, rest) ← readTexts steps (.text content :: rest)
    readAttached steps inner rest
  | steps + 1, .formatted isRaw content :: rest => do
    let (inner, rest) ← readTexts steps (.formatted isRaw content :: rest)
    readAttached steps inner rest
  | _ + 1, _ => none

/-- Attributes, brackets and calls after an expression. -/
def readAttached : Nat → Expression → List Token → Option (Expression × List Token)
  | 0, _, _ => none
  | steps + 1, base, .mark "." :: .word text :: rest =>
    readAttached steps (selection base text) rest
  | steps + 1, base, .mark "[" :: rest => do
    let (index, rest) ← readIndex steps rest
    readAttached steps (subscript base index) rest
  | steps + 1, base, .mark "(" :: rest => do
    let (args, rest) ← readArguments steps rest
    if areArguments args then readAttached steps (call base args) rest else none
  | _ + 1, base, rest => some (base, rest)

/-- Adjacent texts as one text, which has fields if one of them has. -/
def readTexts : Nat → List Token → Option (Expression × List Token)
  | 0, _ => none
  | steps + 1, .text content :: rest => do
    let (others, rest) ← readTexts steps rest
    match others with
    | constant (.str other) => pure (constant (.str (String.ofList content ++ other)), rest)
    | others => pure (prefixed (constant (.str (String.ofList content))) others, rest)
  | steps + 1, .formatted isRaw content :: rest => do
    let (parts, left) ← readParts steps ⟨isRaw, false⟩ content
    if left.isEmpty then
      let (others, rest) ← readTexts steps rest
      match others with
      | formatted more => pure (formatted (parts ++ more), rest)
      | other => pure (formatted (parts ++ [other]), rest)
    else none
  | _ + 1, .bytes _ :: _ => none
  | _ + 1, rest => some (constant (.str ""), rest)

/-- Literal texts and fields in turn, and the characters after them. -/
def readParts : Nat → Field.Place → List Char → Option (List Expression × List Char)
  | 0, _, _ => none
  | steps + 1, place, cs => do
    let (literal, rest) ← Field.literalText place false cs
    let literal ← Quotation.text? place.isRaw literal
    let first := constant (.str (String.ofList literal))
    match rest with
    | '\x7b' :: rest =>
      let (fields, rest) ← readField steps place rest
      let (others, rest) ← readParts steps place rest
      pure (first :: fields ++ others, rest)
    | rest => pure ([first], rest)

/-- A field up to its closing brace; one that shows the text of its expression is two parts. -/
def readField : Nat → Field.Place → List Char → Option (List Expression × List Char)
  | 0, _, _ => none
  | steps + 1, place, cs => do
    let (text, rest) ← Field.expressionText [] none cs
    if Field.isBlankText text then none
    else
      let tokens ← Token.ofInnerText? text
      let (content, left) ← readGroup steps (tokens ++ [.mark ")"])
      if left.isEmpty then
        let (shown, rest) := match rest with
          | '=' :: rest => (true, rest.dropWhile Token.isBlankBetween)
          | rest => (false, rest)
        let (conversion, rest) ← Field.conversion? rest
        let (format, rest) ← match rest with
          | ':' :: rest => (readParts steps ⟨place.isRaw, true⟩ rest).map fun (parts, rest) =>
            (some parts, rest)
          | rest => some (none, rest)
        let conversion :=
          if shown && conversion.isNone && format.isNone then some 'r' else conversion
        let shownText := constant (.str (String.ofList (text ++ ['='])))
        match rest with
        | '\x7d' :: rest =>
          pure ((if shown then [shownText] else []) ++
            [field content conversion (format.getD [])], rest)
        | _ => none
      else none

/-- An item of a collection: a spread, an expression with a name for it, or an expression. -/
def readItem : Nat → List Token → Option (Expression × List Token)
  | 0, _ => none
  | steps + 1, .mark "*" :: rest => do
    let (content, rest) ← readBinary steps 0 rest
    pure (spread content, rest)
  | steps + 1, .word _ :: .mark ":=" :: rest => readExpression steps rest
  | steps + 1, tokens => readExpression steps tokens

/-- Items with commas between them up to a bracket. -/
def readItems : Nat → String → List Token → Option (List Expression × List Token)
  | 0, _, _ => none
  | steps + 1, closing, tokens =>
    if closes closing tokens then some ([], tokens.drop 1)
    else do
      let (first, rest) ← readItem steps tokens
      let (others, rest) ← readMoreItems steps closing rest
      pure (first :: others, rest)

/-- What follows an item: a comma and further items, or the bracket. -/
def readMoreItems : Nat → String → List Token → Option (List Expression × List Token)
  | 0, _, _ => none
  | steps + 1, closing, .mark "," :: rest => readItems steps closing rest
  | _ + 1, closing, rest => if closes closing rest then some ([], rest.drop 1) else none

/-- What follows an opening parenthesis: a tuple, an expression, or a generator. -/
def readGroup : Nat → List Token → Option (Expression × List Token)
  | 0, _ => none
  | _ + 1, .mark ")" :: rest => some (collection .tuple [], rest)
  | steps + 1, tokens => do
    let (first, rest) ← readItem steps tokens
    match rest with
    | .mark ")" :: rest => if isSpread first then none else some (first, rest)
    | .keyword "for" :: _ => readComprehension steps .generator ")" first rest
    | rest =>
      let (others, rest) ← readMoreItems steps ")" rest
      pure (collection .tuple (first :: others), rest)

/-- What follows an opening bracket: a list. -/
def readList : Nat → List Token → Option (Expression × List Token)
  | 0, _ => none
  | _ + 1, .mark "]" :: rest => some (collection .list [], rest)
  | steps + 1, tokens => do
    let (first, rest) ← readItem steps tokens
    match rest with
    | .keyword "for" :: _ => readComprehension steps .list "]" first rest
    | rest =>
      let (others, rest) ← readMoreItems steps "]" rest
      pure (collection .list (first :: others), rest)

/-- What follows an opening brace: a mapping or a set. -/
def readBraces : Nat → List Token → Option (Expression × List Token)
  | 0, _ => none
  | _ + 1, .mark "\x7d" :: rest => some (mapping [], rest)
  | steps + 1, .mark "**" :: rest => do
    let (entries, rest) ← readEntries steps (.mark "**" :: rest)
    pure (mapping entries, rest)
  | steps + 1, tokens => do
    let (first, rest) ← readItem steps tokens
    match rest with
    | .keyword "for" :: _ => readComprehension steps .set "\x7d" first rest
    | .mark ":" :: rest =>
      let (content, rest) ← readExpression steps rest
      match rest with
      | .keyword "for" :: _ =>
        readComprehension steps .mapping "\x7d" (collection .tuple [first, content]) rest
      | rest =>
        if isSpread first then none
        else
          let (others, rest) ← readMoreEntries steps rest
          pure (mapping (first :: content :: others), rest)
    | rest =>
      let (others, rest) ← readMoreItems steps "\x7d" rest
      pure (collection .set (first :: others), rest)

/-- The entries of a mapping up to the brace, keys and values in turn. -/
def readEntries : Nat → List Token → Option (List Expression × List Token)
  | 0, _ => none
  | _ + 1, .mark "\x7d" :: rest => some ([], rest)
  | steps + 1, .mark "**" :: rest => do
    let (content, rest) ← readBinary steps 0 rest
    let (others, rest) ← readMoreEntries steps rest
    pure (spread content :: ellipsis :: others, rest)
  | steps + 1, tokens => do
    let (key, rest) ← readExpression steps tokens
    match rest with
    | .mark ":" :: rest =>
      let (content, rest) ← readExpression steps rest
      let (others, rest) ← readMoreEntries steps rest
      pure (key :: content :: others, rest)
    | _ => none

def readMoreEntries : Nat → List Token → Option (List Expression × List Token)
  | 0, _ => none
  | steps + 1, .mark "," :: rest => readEntries steps rest
  | _ + 1, .mark "\x7d" :: rest => some ([], rest)
  | _ + 1, _ => none

/-- What stands between the brackets after an expression; several indices are a tuple. -/
def readIndex : Nat → List Token → Option (Expression × List Token)
  | 0, _ => none
  | steps + 1, tokens => do
    let (first, rest) ← readIndexItem steps tokens
    match rest with
    | .mark "]" :: rest =>
      pure (if isSpread first then collection .tuple [first] else first, rest)
    | .mark "," :: rest =>
      let (others, rest) ← readIndices steps rest
      pure (collection .tuple (first :: others), rest)
    | _ => none

def readIndices : Nat → List Token → Option (List Expression × List Token)
  | 0, _ => none
  | _ + 1, .mark "]" :: rest => some ([], rest)
  | steps + 1, tokens => do
    let (first, rest) ← readIndexItem steps tokens
    match rest with
    | .mark "]" :: rest => pure ([first], rest)
    | .mark "," :: rest =>
      let (others, rest) ← readIndices steps rest
      pure (first :: others, rest)
    | _ => none

/-- An index or a slice. -/
def readIndexItem : Nat → List Token → Option (Expression × List Token)
  | 0, _ => none
  | steps + 1, .mark ":" :: rest => readSlice steps (constant .none) rest
  | steps + 1, tokens => do
    let (first, rest) ← readItem steps tokens
    match rest with
    | .mark ":" :: rest => if isSpread first then none else readSlice steps first rest
    | rest => pure (first, rest)

/-- The upper bound and the step of a slice. -/
def readSlice : Nat → Expression → List Token → Option (Expression × List Token)
  | 0, _, _ => none
  | steps + 1, lower, tokens => do
    let (upper, rest) ← readBound steps tokens
    match rest with
    | .mark ":" :: rest =>
      let (step, rest) ← readBound steps rest
      pure (slice lower upper step, rest)
    | rest => pure (slice lower upper (constant .none), rest)

/-- A bound of a slice, which may be left out. -/
def readBound : Nat → List Token → Option (Expression × List Token)
  | 0, _ => none
  | _ + 1, .mark "," :: rest => some (constant .none, .mark "," :: rest)
  | _ + 1, .mark "]" :: rest => some (constant .none, .mark "]" :: rest)
  | _ + 1, .mark ":" :: rest => some (constant .none, .mark ":" :: rest)
  | steps + 1, tokens => readExpression steps tokens

/-- The arguments of a call up to the parenthesis. -/
def readArguments : Nat → List Token → Option (List Expression × List Token)
  | 0, _ => none
  | _ + 1, .mark ")" :: rest => some ([], rest)
  | steps + 1, tokens => do
    let (first, rest) ← readArgument steps tokens
    match rest with
    | .keyword "for" :: _ =>
      let (argument, rest) ← readComprehension steps .generator ")" first rest
      pure ([argument], rest)
    | rest =>
      let (others, rest) ← readMoreArguments steps rest
      pure (first :: others, rest)

def readMoreArguments : Nat → List Token → Option (List Expression × List Token)
  | 0, _ => none
  | _ + 1, .mark ")" :: rest => some ([], rest)
  | _ + 1, .mark "," :: .mark ")" :: rest => some ([], rest)
  | steps + 1, .mark "," :: rest => do
    let (first, rest) ← readArgument steps rest
    let (others, rest) ← readMoreArguments steps rest
    pure (first :: others, rest)
  | _ + 1, _ => none

def readArgument : Nat → List Token → Option (Expression × List Token)
  | 0, _ => none
  | steps + 1, .mark "*" :: rest => do
    let (content, rest) ← readExpression steps rest
    pure (spread content, rest)
  | steps + 1, .mark "**" :: rest => do
    let (content, rest) ← readExpression steps rest
    pure (keyword none content, rest)
  | steps + 1, .word parameter :: .mark "=" :: rest => do
    let (content, rest) ← readExpression steps rest
    pure (keyword (some parameter) content, rest)
  | steps + 1, tokens => readItem steps tokens

/-- The clauses after an element, up to a bracket. -/
def readComprehension :
    Nat → Yield → String → Expression → List Token → Option (Expression × List Token)
  | 0, _, _, _, _ => none
  | steps + 1, yielded, closing, element, tokens => do
    let (clauses, rest) ← readClauses steps tokens
    if closes closing rest && !isSpread element && !isKeyword element then
      pure (comprehension yielded (clauses ++ [element]), rest.drop 1)
    else none

def readClauses : Nat → List Token → Option (List Expression × List Token)
  | 0, _ => none
  | steps + 1, .keyword "for" :: rest => do
    let (names, rest) ← targets rest
    match rest with
    | .keyword "in" :: rest =>
      let (source, rest) ← readDisjunction steps rest
      let (conditions, rest) ← readConditions steps rest
      let (others, rest) ← readClauses steps rest
      pure (clause names source conditions :: others, rest)
    | _ => none
  | _ + 1, rest => some ([], rest)

def readConditions : Nat → List Token → Option (List Expression × List Token)
  | 0, _ => none
  | steps + 1, .keyword "if" :: rest => do
    let (condition, rest) ← readDisjunction steps rest
    let (others, rest) ← readConditions steps rest
    pure (condition :: others, rest)
  | _ + 1, rest => some ([], rest)

end

/-- The ranks between two tokens that are taken, and the length of the texts with fields. -/
def stepsFor (tokens : List Token) (length : Nat) : Nat :=
  24 * (tokens.length + length + 1)

/-- Expressions with commas between them, which make a tuple. -/
def readAll (steps : Nat) (tokens : List Token) : Option (Expression × List Token) := do
  let (first, rest) ← readExpression steps tokens
  match rest with
  | [] => pure (first, [])
  | rest =>
    let (others, rest) ← readMoreItems steps ")" (rest ++ [.mark ")"])
    if others.any isSpread then none else pure (collection .tuple (first :: others), rest)

/-- The expression that a text spells. A text that starts with a spread stands for its item. -/
def read? (text : String) : Option Expression :=
  let cs := text.toList
  let cs := if cs.head? = some '*' then '(' :: cs ++ ",)[0]".toList else cs
  do
    let tokens ← Token.ofText? cs
    let (expression, rest) ← readAll (stepsFor tokens cs.length) tokens
    if rest.isEmpty then some expression else none

end Schematic.Expression
