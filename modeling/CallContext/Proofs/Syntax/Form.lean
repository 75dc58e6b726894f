import CallContext.Syntax.Tag
import CallContext.Parsing.Layout

/-!
# The form of syntax trees

What every syntax tree of a module satisfies (`Node.isShapely`): definitions and imports have the
parts that the grammar gives them, names are identifiers, and string literals begin and end with
quotes.  That it does is derived from the tables of the grammar (`Node.isShapely_of_parse?`).
-/

namespace CallContext

/-- The word is an identifier. -/
def Identifier.isWord (s : String) : Bool :=
  match s.toList with
  | [] => false
  | c :: cs => isStart c && cs.all isContinue

/-- The text starts with an identifier. -/
def Identifier.starts (s : String) : Bool := s.toList.head?.any isStart

/-- The quotes with which the text opens a string literal: it is made of letters and these. -/
def StringLiteral.opening? (s : String) : Option QuoteStyle :=
  QuoteStyle.all.find? fun q => s.toList.dropWhile Char.isAlpha = q.chars

/-- The text opens a string literal. -/
def StringLiteral.opens (s : String) : Bool := (opening? s).isSome

/-- The text closes a string literal: it ends with quotes. -/
def StringLiteral.closes (s : String) : Bool :=
  QuoteStyle.all.any fun q => q.chars.isSuffixOf s.toList

namespace Node

variable {text : List Char}

/-- The node is a dotted name: it starts with an identifier. -/
def isDottedName (n : Node text) : Bool :=
  n.kind = Symbol.dottedName && Identifier.starts n.source

/-- The node is an imported name: a dotted name, or one with an alias. -/
def isImportedName (n : Node text) : Bool :=
  n.isDottedName || (n.kind = Symbol.aliasedImport && (n.child? .name).any isDottedName)

/-- The node names the module that names are imported from. -/
def isModuleName (n : Node text) : Bool :=
  n.isDottedName ||
    (n.kind = Symbol.relativeImport && (n.childOfKind? Symbol.importDots).any
      fun dots => dots.source.toList.contains '.')

/-- The node has the parts that the analysis asks for. -/
def hasParts (n : Node text) : Bool :=
  let names := n.childrenOf .name
  if n.kind = Symbol.functionDefinition || n.kind = Symbol.classDefinition then
    (n.child? .name).any fun name => Identifier.isWord name.source
  else if n.kind = Symbol.decoratedDefinition then
    (n.child? .definition).any fun d =>
      d.kind = Symbol.functionDefinition || d.kind = Symbol.classDefinition
  else if n.kind = Symbol.importStatement || n.kind = Symbol.futureImportStatement then
    !names.isEmpty && names.all isImportedName
  else if n.kind = Symbol.importFromStatement then
    (n.child? .moduleName).any isModuleName && names.all isImportedName &&
      (names.isEmpty = (n.childOfKind? Symbol.wildcardImport).isSome)
  else true

/-! ### Parts of imports, calls and statements -/

/-- The node may stand anywhere: a comment, or a line end that is no end of a statement. -/
def isExtra (n : Node text) : Bool :=
  n.kind = Symbol.comment || n.kind = Symbol.lineContinuation

/-- The children that the grammar asks for. -/
def parts (n : Node text) : List (Node text) := n.children.filter (!·.isExtra)

/-- The node is a token that plays no field. -/
def isToken (kind : Symbol) (n : Node text) : Bool :=
  n.kind = kind && n.children.isEmpty && n.field = none

/-- The node is an identifier. -/
def isIdentifier (n : Node text) : Bool :=
  n.kind = Symbol.identifier && n.children.isEmpty && Identifier.isWord n.source

/-- The node is a dot. -/
def isDot (n : Node text) : Bool := n.isToken Symbol.dot && n.source = "."

/-- The node starts with its first part and ends with its last one. -/
def isFilled (n : Node text) : Bool :=
  (n.parts.head?.any fun first => first.start.offset = n.start.offset) &&
    (n.parts.getLast?.any fun last => last.stop.offset = n.stop.offset)

/-- Nothing that may stand anywhere plays a field. -/
def hasPlainExtras (n : Node text) : Bool :=
  n.children.all fun child => !child.isExtra || child.field = none

/-- The nodes are identifiers with dots between them. -/
def alternate : List (Node text) → Bool
  | [] => false
  | [n] => n.isIdentifier
  | n :: dot :: rest => n.isIdentifier && dot.isDot && alternate rest

/-- The node is made of identifiers with dots between them. -/
def isDotted (n : Node text) : Bool :=
  n.kind = Symbol.dottedName && alternate n.parts && n.isFilled

/-- The node is made of dots. -/
def isImportDots (n : Node text) : Bool :=
  n.kind = Symbol.importDots && n.parts.all isDot && n.isFilled

/-- The node is made of dots and perhaps a dotted name behind them. -/
def isRelative (n : Node text) : Bool :=
  n.kind = Symbol.relativeImport &&
    match n.parts with
    | [dots] => dots.isImportDots
    | [dots, name] => dots.isImportDots && name.isDotted
    | _ => false

/-- The node is a dotted name with another name for it. -/
def isAliased (n : Node text) : Bool :=
  n.kind = Symbol.aliasedImport && n.hasPlainExtras &&
    match n.parts with
    | [name, as, other] =>
      name.isDotted && name.field = some .name && as.isToken Symbol.asKeyword && other.isIdentifier
    | _ => false

/-- The nodes are imported names with commas between them, and perhaps one more. -/
def areNames : List (Node text) → Bool
  | [] => false
  | [n] => n.field = some .name && (n.isDotted || n.isAliased)
  | n :: comma :: rest =>
    n.field = some .name && (n.isDotted || n.isAliased) && comma.isToken Symbol.comma &&
      (rest.isEmpty || areNames rest)

/-- The nodes are imported names, perhaps in parentheses. -/
def areEnclosed (ns : List (Node text)) : Bool :=
  areNames ns ||
    match ns with
    | [] => false
    | first :: inner =>
      first.isToken Symbol.openParenthesis &&
        (inner.getLast?.any fun last => last.isToken Symbol.closeParenthesis) &&
        areNames inner.dropLast

/-- The node is all names of a module. -/
def isWildcard (n : Node text) : Bool :=
  n.kind = Symbol.wildcardImport && n.field = none &&
    match n.parts with
    | [star] => star.isToken Symbol.star
    | _ => false

/-- The node is an import statement that is built as the grammar says. -/
def isImport (n : Node text) : Bool :=
  n.hasPlainExtras &&
    match n.parts with
    | keyword :: rest =>
      if n.kind = Symbol.importStatement then
        keyword.isToken Symbol.importKeyword && areNames rest
      else
        match rest with
        | source :: middle :: names =>
          keyword.isToken Symbol.fromKeyword && middle.isToken Symbol.importKeyword &&
            if n.kind = Symbol.futureImportStatement then
              source.isToken Symbol.futureKeyword && areEnclosed names
            else
              source.field = some .moduleName && (source.isDotted || source.isRelative) &&
                (areEnclosed names ||
                  match names with
                  | [wildcard] => wildcard.isWildcard
                  | _ => false)
        | _ => false
    | [] => false

/-- The node is a string literal: its first part opens one, and its last part closes it. -/
def isLiteral (n : Node text) : Bool :=
  n.isFilled &&
    match n.parts with
    | [] => false
    | first :: rest =>
      StringLiteral.opens first.source &&
        rest.getLast?.any fun last => StringLiteral.closes last.source

/-- The node is built as the grammar says, as far as the analysis asks for it. -/
def isBuilt (n : Node text) : Bool :=
  if n.kind = Symbol.identifier then n.isIdentifier
  else if n.kind = Symbol.call then (n.child? .callee).isSome
  else if n.kind = Symbol.attributeAccess then
    (n.child? .attribute).any fun last =>
      last.kind = Symbol.identifier && last.stop.offset = n.stop.offset
  else if n.kind = Symbol.functionDefinition || n.kind = Symbol.classDefinition then
    (n.child? .body).any fun body => body.kind = Symbol.block
  else if n.kind = Symbol.block then n.namedChildren.head?.all fun first => !first.isExtra
  else if n.kind = Symbol.expressionStatement then
    n.children.head?.any fun first => !first.isExtra
  else if n.kind = Symbol.importStatement || n.kind = Symbol.futureImportStatement ||
      n.kind = Symbol.importFromStatement then n.isImport
  else if n.kind = Symbol.string then n.isLiteral
  else true

/-- The tree has the shape of a syntax tree. -/
def isShapely (n : Node text) : Bool := n.walk.all fun n => n.hasParts && n.isBuilt

end Node

end CallContext
